import Mathlib.Data.List.Nodup
import RemoteObjects.Association

namespace RemoteObjects.Association

variable {κ ν : Type} [DecidableEq κ]

theorem contains_set (association : Association κ ν) (key other : κ) (value : ν) :
    (association.set key value).contains other =
      (decide (key = other) || association.contains other) := by
  unfold contains
  rw [find?_set]
  by_cases same : key = other
  · simp [same]
  · simp [same]

theorem contains_erase (association : Association κ ν) (key other : κ) :
    (association.erase key).contains other =
      (!decide (key = other) && association.contains other) := by
  unfold contains
  rw [find?_erase]
  by_cases same : key = other
  · simp [same]
  · simp [same]

/-- An update of a bound key binds no other key. -/
theorem contains_set_bound {association : Association κ ν} {key : κ}
    (bound : association.contains key = true) (value : ν) (other : κ) :
    (association.set key value).contains other = association.contains other := by
  rw [contains_set]
  by_cases same : key = other
  · simp [← same, bound]
  · simp [same]

/-- An update with the value that is already there changes nothing. -/
theorem set_self {association : Association κ ν} {key : κ} {value : ν}
    (found : association.find? key = some value) : association.set key value = association := by
  obtain ⟨entries⟩ := association
  refine congrArg mk ?_
  change lookup key entries = some value at found
  induction entries with
  | nil => cases found
  | cons entry rest ih =>
      obtain ⟨other, old⟩ := entry
      by_cases same : other = key
      · simp_all [lookup, update]
      · simp only [lookup, if_neg same] at found
        simp [update, same, ih found]

/-- A new key goes to the end. -/
theorem entries_set_of_absent {association : Association κ ν} {key : κ}
    (absent : association.find? key = none) (value : ν) :
    (association.set key value).entries = association.entries ++ [(key, value)] := by
  obtain ⟨entries⟩ := association
  change lookup key entries = none at absent
  change update key value entries = entries ++ [(key, value)]
  induction entries with
  | nil => rfl
  | cons entry rest ih =>
      obtain ⟨other, old⟩ := entry
      by_cases same : other = key
      · simp [lookup, same] at absent
      · simp only [lookup, if_neg same] at absent
        simp [update, same, ih absent]

/-- The keys in the order of their entries. -/
def keys (association : Association κ ν) : List κ :=
  association.entries.map Prod.fst

theorem mem_map_fst_iff (key : κ) (entries : List (κ × ν)) :
    key ∈ entries.map Prod.fst ↔ (lookup key entries).isSome = true := by
  induction entries with
  | nil => simp [lookup]
  | cons entry rest ih =>
      by_cases same : entry.1 = key
      · simp [lookup, same]
      · simp only [List.map_cons, List.mem_cons, lookup, if_neg same, ← ih]
        simp [Ne.symm same]

theorem mem_entries_of_find? {association : Association κ ν} {key : κ} {value : ν}
    (found : association.find? key = some value) : (key, value) ∈ association.entries := by
  obtain ⟨entries⟩ := association
  change lookup key entries = some value at found
  induction entries with
  | nil => cases found
  | cons entry rest ih => grind [lookup]

/-- There is nothing to remove under a key that is not bound. -/
theorem erase_of_absent {association : Association κ ν} {key : κ}
    (absent : association.find? key = none) : association.erase key = association := by
  obtain ⟨entries⟩ := association
  refine congrArg mk (List.filter_eq_self.mpr ?_)
  change lookup key entries = none at absent
  intro entry member
  have unbound : key ∉ entries.map Prod.fst := by simp [mem_map_fst_iff, absent]
  simp only [ne_eq, decide_not, Bool.not_eq_true', decide_eq_false_iff_not]
  rintro rfl
  exact unbound (List.mem_map_of_mem member)

theorem mem_keys_iff (association : Association κ ν) (key : κ) :
    key ∈ association.keys ↔ (association.find? key).isSome = true :=
  mem_map_fst_iff key association.entries

/-- A new key goes to the end, and a bound one stays where it is. -/
theorem keys_set (association : Association κ ν) (key : κ) (value : ν) :
    (association.set key value).keys =
      if key ∈ association.keys then association.keys else association.keys ++ [key] := by
  obtain ⟨entries⟩ := association
  change (update key value entries).map Prod.fst =
    if key ∈ entries.map Prod.fst then entries.map Prod.fst else entries.map Prod.fst ++ [key]
  induction entries with
  | nil => rfl
  | cons entry rest ih =>
      by_cases same : entry.1 = key
      · simp [update, same]
      · simp only [update, if_neg same, List.map_cons, ih, List.mem_cons, Ne.symm same, false_or]
        split <;> rfl

theorem nodup_keys_set {association : Association κ ν} (nodup : association.keys.Nodup) (key : κ)
    (value : ν) : (association.set key value).keys.Nodup := by
  rw [keys_set]
  split
  · exact nodup
  · rename_i missing
    rw [← List.concat_eq_append]
    exact nodup.concat missing

theorem nodup_keys_erase {association : Association κ ν} (nodup : association.keys.Nodup) (key : κ) :
    (association.erase key).keys.Nodup :=
  nodup.sublist (List.filter_sublist.map Prod.fst)

theorem lookup_append (key : κ) (first second : List (κ × ν)) :
    lookup key (first ++ second) = (lookup key first).or (lookup key second) := by
  induction first with
  | nil => rfl
  | cons entry rest ih =>
      simp only [List.cons_append, lookup, ih]
      split <;> rfl

/-- The entries under which another map is found, with the keys of both. -/
theorem lookup_flatMap {μ α : Type} [DecidableEq μ] (inner : α → List (μ × ν))
    {entries : List (κ × α)} (nodup : (entries.map Prod.fst).Nodup) (key : κ) (name : μ) :
    lookup (key, name)
        (entries.flatMap fun entry => (inner entry.2).map fun pair => ((entry.1, pair.1), pair.2)) =
      (lookup key entries).bind fun found => lookup name (inner found) := by
  have within (other : κ) (pairs : List (μ × ν)) :
      lookup (key, name) (pairs.map fun pair => ((other, pair.1), pair.2)) =
        if other = key then lookup name pairs else none := by
    induction pairs with
    | nil => simp [lookup]
    | cons pair rest ih =>
        simp only [List.map_cons, lookup, ih, Prod.mk.injEq]
        by_cases same : other = key
        · simp [same]
        · simp [same]
  induction entries with
  | nil => rfl
  | cons entry rest ih =>
      rw [List.map_cons, List.nodup_cons] at nodup
      rw [List.flatMap_cons, lookup_append, within, ih nodup.2]
      by_cases same : entry.1 = key
      -- No later entry has the key, so that nothing is found there in its place.
      · have missing : lookup key rest = none := by
          rw [← Option.not_isSome_iff_eq_none, ← mem_map_fst_iff, ← same]
          exact nodup.1
        simp [lookup, same, missing]
      · simp [lookup, same]

end RemoteObjects.Association
