namespace RemoteObjects.Text

/-- Each pair holds the first and the last code point of one interval. -/
abbrev Intervals := List (Nat × Nat)

/-- The search stops at the first interval that begins after the code point. -/
def Intervals.contains (codePoint : Nat) : Intervals → Bool
  | [] => false
  | (first, last) :: rest =>
      if codePoint < first then false
      else codePoint ≤ last || Intervals.contains codePoint rest

end RemoteObjects.Text
