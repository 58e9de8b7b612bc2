import Mathlib.Data.List.Forall2
import Mathlib.Data.List.Induction
import Mathlib.Data.List.TakeWhile
import Mathlib.Data.Nat.Digits.Defs
import RemoteObjects.Text.Blank
import RemoteObjects.Text.Number

namespace RemoteObjects.Text

/-- The characters with the Unicode property White_Space. -/
def IsWhite (character : Char) : Prop :=
  0x9 ≤ character.toNat ∧ character.toNat ≤ 0xD ∨
    0x2000 ≤ character.toNat ∧ character.toNat ≤ 0x200A ∨
    character.toNat ∈
      [0x20, 0x85, 0xA0, 0x1680, 0x2028, 0x2029, 0x202F, 0x205F, 0x3000]

/-- The search may stop early because the intervals are in order. -/
theorem Intervals.contains_iff {codePoint : Nat} {intervals : Intervals}
    (ascending : intervals.Pairwise fun earlier later => earlier.1 ≤ later.1) :
    Intervals.contains codePoint intervals = true ↔
      ∃ interval ∈ intervals, interval.1 ≤ codePoint ∧ codePoint ≤ interval.2 := by
  induction ascending with
  | nil => simp [contains]
  | @cons interval rest later _ ih =>
      by_cases before : codePoint < interval.1
      · simp only [contains, if_pos before, Bool.false_eq_true, List.mem_cons, false_iff]
        rintro ⟨other, rfl | member, first, _⟩
        · omega
        · have := later other member
          omega
      · simp only [contains, if_neg before, Bool.or_eq_true, decide_eq_true_eq, ih, List.mem_cons,
          exists_eq_or_imp]
        exact or_congr_left (iff_and_self.mpr fun _ => by omega)

theorem isBlank_iff (character : Char) : isBlank character = true ↔ IsWhite character := by
  rw [isBlank, Intervals.contains_iff (by decide)]
  simp only [blanks, IsWhite, List.mem_cons, List.not_mem_nil, or_false, exists_eq_or_imp,
    exists_eq_left]
  omega

theorem isAllBlank_iff (text : String) :
    isAllBlank text = true ↔ ∀ character ∈ text.toList, IsWhite character := by
  simp [isAllBlank, isBlank_iff]

/-- The second text is what is left of the first without the white space at both ends. -/
structure Trimmed (text inner : String) : Prop where
  split : ∃ before after, text.toList = before ++ inner.toList ++ after ∧
    (∀ character ∈ before, IsWhite character) ∧ ∀ character ∈ after, IsWhite character
  first : ∀ character ∈ inner.toList.head?, ¬ IsWhite character
  last : ∀ character ∈ inner.toList.getLast?, ¬ IsWhite character

/-- What is left begins with the first character that is not white. -/
theorem dropWhile_isBlank_eq_iff {letters left : List Char} :
    letters.dropWhile isBlank = left ↔
      ∃ before, letters = before ++ left ∧ (∀ character ∈ before, IsWhite character) ∧
        ∀ character ∈ left.head?, ¬ IsWhite character := by
  simp only [← isBlank_iff, Bool.not_eq_true]
  constructor
  · rintro rfl
    refine ⟨letters.takeWhile isBlank, List.takeWhile_append_dropWhile.symm,
      fun _ => List.mem_takeWhile_imp, fun character first => ?_⟩
    have stays := List.head?_dropWhile_not isBlank letters
    rw [Option.mem_def.mp first] at stays
    simpa using stays
  · rintro ⟨before, rfl, dropped, stays⟩
    rw [List.dropWhile_append_of_pos dropped]
    cases left with
    | nil => rfl
    | cons character rest => simp [stays character rfl]

theorem toList_trim (text : String) :
    (trim text).toList.reverse = (text.toList.dropWhile isBlank).reverse.dropWhile isBlank := by
  rw [trim, String.toList_ofList, List.reverse_reverse]

theorem trimmed_trim (text : String) : Trimmed text (trim text) := by
  obtain ⟨before, whole, whiteBefore, first⟩ :=
    dropWhile_isBlank_eq_iff.mp (Eq.refl (text.toList.dropWhile isBlank))
  obtain ⟨after, rest, whiteAfter, last⟩ := dropWhile_isBlank_eq_iff.mp (toList_trim text).symm
  rw [List.reverse_eq_iff, List.reverse_append, List.reverse_reverse] at rest
  rw [rest] at whole first
  refine ⟨⟨before, after.reverse, by rw [whole, List.append_assoc], whiteBefore, ?_⟩, ?_, ?_⟩
  · intro character member
    exact whiteAfter character (List.mem_reverse.mp member)
  · intro character member
    exact first character (by rw [List.head?_append, Option.mem_def.mp member]; rfl)
  · rw [← List.head?_reverse]
    exact last

/-- There is only one way to trim a text. -/
theorem Trimmed.trim_eq {text inner : String} (trimmed : Trimmed text inner) : trim text = inner := by
  obtain ⟨⟨before, after, whole, whiteBefore, whiteAfter⟩, first, last⟩ := trimmed
  -- A text of nothing but white space is used up from the front, so that nothing is left at the end.
  obtain ⟨rest, left, whiteRest⟩ : ∃ rest, text.toList.dropWhile isBlank = inner.toList ++ rest ∧
      ∀ character ∈ rest, IsWhite character := by
    cases letters : inner.toList with
    | nil =>
        refine ⟨[], dropWhile_isBlank_eq_iff.mpr ⟨before ++ after, by simp [whole, letters], ?_, ?_⟩, ?_⟩
        · intro character member
          exact (List.mem_append.mp member).elim (whiteBefore character) (whiteAfter character)
        · simp
        · simp
    | cons character letters' =>
        refine ⟨after, dropWhile_isBlank_eq_iff.mpr ⟨before, ?_, whiteBefore, ?_⟩, whiteAfter⟩
        · rw [whole, letters, List.append_assoc]
        · simpa [letters] using first
  rw [← String.toList_inj, ← List.reverse_inj, toList_trim, left, List.reverse_append]
  refine dropWhile_isBlank_eq_iff.mpr ⟨rest.reverse, rfl, ?_, ?_⟩
  · intro character member
    exact whiteRest character (List.mem_reverse.mp member)
  · rw [List.head?_reverse]
    exact last

/-- The lower case of a letter from A to Z is 32 places further on, and nothing else changes. -/
def LowersTo (character lower : Char) : Prop :=
  if 'A' ≤ character ∧ character ≤ 'Z' then lower.toNat = character.toNat + 32
  else lower = character

theorem toLower_eq_iff (character lower : Char) :
    character.toLower = lower ↔ LowersTo character lower := by
  unfold Char.toLower LowersTo
  by_cases upper : 'A' ≤ character ∧ character ≤ 'Z'
  · have within : character.val ≥ 'A'.val ∧ character.val ≤ 'Z'.val := upper
    have small : character.val.toNat ≤ 90 := within.2
    rw [dif_pos within, if_pos upper, Char.ext_iff, ← UInt32.toNat_inj]
    change (character.val + 32).toNat = lower.toNat ↔ lower.toNat = character.val.toNat + 32
    have sum : (character.val + 32).toNat = character.val.toNat + 32 := by
      have step : (32 : UInt32).toNat = 32 := rfl
      rw [UInt32.toNat_add, step]
      exact Nat.mod_eq_of_lt (by omega)
    rw [sum]
    exact eq_comm
  · have outside : ¬ (character.val ≥ 'A'.val ∧ character.val ≤ 'Z'.val) := upper
    rw [dif_neg outside, if_neg upper]
    exact eq_comm

theorem asciiLower_eq_iff {text word : String} :
    asciiLower text = word ↔ List.Forall₂ LowersTo text.toList word.toList := by
  have lowers : LowersTo = fun character lower => character.toLower = lower := by
    funext character lower
    exact propext (toLower_eq_iff character lower).symm
  rw [asciiLower, ← String.toList_inj, String.toList_ofList, lowers,
    ← List.forall₂_map_left_iff, List.forall₂_eq_eq_eq]

/-- The text is a number in ASCII digits, perhaps after one plus. -/
def Numeral (text : String) (number : Nat) : Prop :=
  ∃ digits, (text.toList = digits ∨ text.toList = '+' :: digits) ∧ digits ≠ [] ∧
    (∀ digit ∈ digits, '0' ≤ digit ∧ digit ≤ '9') ∧
    number = Nat.ofDigits 10 (digits.reverse.map fun digit => digit.toNat - '0'.toNat)

/-- The most significant digit comes first in a text and last in a list of places. -/
theorem ofDigits_eq (digits : List Char) :
    ofDigits digits =
      Nat.ofDigits 10 (digits.reverse.map fun digit => digit.toNat - '0'.toNat) := by
  induction digits using List.reverseRecOn with
  | nil => rfl
  | append_singleton digits digit ih =>
      have step : ofDigits (digits ++ [digit]) =
          10 * ofDigits digits + (digit.toNat - '0'.toNat) := by simp [ofDigits]
      rw [step, ih, List.reverse_append, List.reverse_singleton, List.singleton_append, List.map_cons,
        Nat.ofDigits_cons, Nat.add_comm]

theorem isDigit_iff (digit : Char) : digit.isDigit = true ↔ '0' ≤ digit ∧ digit ≤ '9' := by
  simp only [Char.isDigit, Bool.and_eq_true, decide_eq_true_eq]
  rfl

theorem unsigned_eq_of_digits {digits : List Char}
    (all : ∀ digit ∈ digits, '0' ≤ digit ∧ digit ≤ '9') : unsigned digits = digits := by
  unfold unsigned
  split
  · have plus := all '+' (by simp)
    exact absurd plus.1 (by decide)
  · rfl

theorem readNumber_eq_some_iff (bound : Nat) (text : String) (number : Nat) :
    readNumber bound text = some number ↔ Numeral text number ∧ number < bound := by
  unfold readNumber
  constructor
  · intro read
    dsimp only at read
    split at read
    · rename_i valid
      obtain ⟨nonempty, digits, small⟩ := valid
      simp only [Option.some.injEq] at read
      subst read
      refine ⟨⟨unsigned text.toList, ?_, nonempty, ?_, ofDigits_eq _⟩, small⟩
      · unfold unsigned
        split
        · rename_i same
          exact .inr same
        · exact .inl rfl
      · intro digit member
        exact (isDigit_iff digit).mp (List.all_eq_true.mp digits digit member)
    · cases read
  · rintro ⟨⟨digits, written, nonempty, all, rfl⟩, small⟩
    have read : unsigned text.toList = digits := by
      rcases written with same | same
      · rw [same]
        exact unsigned_eq_of_digits all
      · rw [same]
        rfl
    have ascii : digits.all Char.isDigit = true :=
      List.all_eq_true.mpr fun digit member => (isDigit_iff digit).mpr (all digit member)
    rw [← ofDigits_eq] at small ⊢
    simp [read, nonempty, ascii, small]

end RemoteObjects.Text
