namespace RemoteObjects

variable {α : Type} {wanted : α → Prop} {items : List α} {item : α}

/-- The item is wanted, and nothing before it is. -/
def IsEarliest (wanted : α → Prop) (items : List α) (item : α) : Prop :=
  ∃ before after, items = before ++ item :: after ∧ wanted item ∧ ∀ other ∈ before, ¬ wanted other

/-- The item is wanted, and nothing after it is. -/
def IsLatest (wanted : α → Prop) (items : List α) (item : α) : Prop :=
  ∃ before after, items = before ++ item :: after ∧ wanted item ∧ ∀ other ∈ after, ¬ wanted other

theorem find?_eq_some_iff_isEarliest [DecidablePred wanted] :
    items.find? (fun item => decide (wanted item)) = some item ↔ IsEarliest wanted items item := by
  rw [List.find?_eq_some_iff_append]
  constructor
  · rintro ⟨fits, before, after, split, unwanted⟩
    exact ⟨before, after, split, by simpa using fits, by simpa using unwanted⟩
  · rintro ⟨before, after, split, fits, unwanted⟩
    exact ⟨by simpa using fits, before, after, split, by simpa using unwanted⟩

theorem isEarliest_reverse_iff : IsEarliest wanted items.reverse item ↔ IsLatest wanted items item := by
  constructor
  · rintro ⟨before, after, split, fits, unwanted⟩
    refine ⟨after.reverse, before.reverse, ?_, fits, by simpa using unwanted⟩
    rw [← List.reverse_reverse items, split]
    simp
  · rintro ⟨before, after, rfl, fits, unwanted⟩
    exact ⟨after.reverse, before.reverse, by simp, fits, by simpa using unwanted⟩

theorem reverse_find?_eq_some_iff_isLatest [DecidablePred wanted] :
    items.reverse.find? (fun item => decide (wanted item)) = some item ↔
      IsLatest wanted items item :=
  find?_eq_some_iff_isEarliest.trans isEarliest_reverse_iff

/-- What is added at the end comes too late to be the earliest. -/
theorem IsEarliest.append (earliest : IsEarliest wanted items item) (further : List α) :
    IsEarliest wanted (items ++ further) item := by
  obtain ⟨before, after, rfl, fits, unwanted⟩ := earliest
  exact ⟨before, after ++ further, by simp, fits, unwanted⟩

/-- What stands in the first part of a list stands there in the whole. -/
theorem getElem?_of_isPrefix {items whole : List α} (first : items <+: whole) {place : Nat} {item : α}
    (found : items[place]? = some item) : whole[place]? = some item := by
  obtain ⟨bound, rfl⟩ := List.getElem?_eq_some_iff.mp found
  exact List.prefix_iff_getElem?.mp first place bound

/-- Among the wanted items an item has as many before it as there are in the part before its place. -/
theorem getElem?_filter_of_getElem? (wanted : α → Bool) {items : List α} {place : Nat} {item : α}
    (found : items[place]? = some item) (fits : wanted item = true) :
    (items.filter wanted)[(items.take place).countP wanted]? = some item := by
  obtain ⟨bound, rfl⟩ := List.getElem?_eq_some_iff.mp found
  have split : items = items.take place ++ items[place] :: items.drop (place + 1) := by
    rw [← List.drop_eq_getElem_cons bound, List.take_append_drop]
  have filtered : items.filter wanted =
      (items.take place).filter wanted ++ items[place] :: (items.drop (place + 1)).filter wanted := by
    have whole := congrArg (List.filter wanted) split
    rwa [List.filter_append, List.filter_cons_of_pos fits] at whole
  rw [filtered, List.countP_eq_length_filter, List.getElem?_append_right (Nat.le_refl _), Nat.sub_self,
    List.getElem?_cons_zero]

/-- What stands in a longer list stood in the shorter one, or it is the last. -/
theorem getElem?_concat_cases {items : List α} {last item : α} {place : Nat}
    (found : (items ++ [last])[place]? = some item) :
    items[place]? = some item ∧ (items ++ [last]).take place = items.take place ∨
      item = last ∧ (items ++ [last]).take place = items := by
  obtain ⟨within, -⟩ := List.getElem?_eq_some_iff.mp found
  by_cases earlier : place < items.length
  · rw [List.getElem?_append_left earlier] at found
    exact .inl ⟨found, List.take_append_of_le_length (Nat.le_of_lt earlier)⟩
  · obtain rfl : place = items.length := by
      simp only [List.length_append, List.length_singleton] at within
      omega
    rw [List.getElem?_concat_length] at found
    exact .inr ⟨(Option.some.inj found).symm, List.take_left⟩

end RemoteObjects
