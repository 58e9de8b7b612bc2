import Mathlib.Data.List.Forall2
import RemoteObjects.Catalog.Member

namespace RemoteObjects

theorem ValueType.name_injective {first second : ValueType} (same : first.name = second.name) :
    first = second := by
  cases first <;> cases second <;> simp_all [name]

/-- No name of a type has a space in it. -/
theorem ValueType.takeWhile_name (type : ValueType) (rest : List Char) :
    (type.name.toList ++ ' ' :: rest).takeWhile (· ≠ ' ') = type.name.toList := by
  cases type <;> simp [name]

theorem Value.length_typeName_le (value : Value) : value.typeName.length ≤ 5 := by
  cases value <;> simp only [typeName] <;> decide

/-- A number is read back from its digits. -/
theorem eq_of_repr_eq {first second : Nat} (same : first.repr = second.repr) : first = second := by
  rw [Nat.repr_eq_ofList_toDigits, Nat.repr_eq_ofList_toDigits, String.ofList_inj] at same
  have read := congrArg (fun digits => Nat.ofDigitChars 10 digits 0) same
  simpa only [Nat.ofDigitChars_ten_toDigits] using read

namespace Signature

/-- There are as many arguments as types, and every type accepts its argument. -/
def Admits (signature : Signature) (arguments : List Value) : Prop :=
  List.Forall₂ (fun type value => type.accepts value = true) signature arguments

theorem firstRejected_eq_none_iff (index : Nat) {signature : Signature} {arguments : List Value}
    (same : signature.length = arguments.length) :
    firstRejected index signature arguments = none ↔ signature.Admits arguments := by
  induction signature generalizing index arguments with
  | nil =>
      rw [List.eq_nil_of_length_eq_zero same.symm]
      exact iff_of_true rfl .nil
  | cons type types ih =>
      cases arguments with
      | nil => cases same
      | cons value values =>
          have rest := ih (index + 1) (Nat.succ.inj same)
          by_cases accepted : type.accepts value = true
          · simpa [firstRejected, accepted, Admits] using rest
          · simp [firstRejected, accepted, Admits]

theorem check_eq_ok_iff (signature : Signature) (arguments : List Value) :
    signature.check arguments = .ok () ↔ signature.Admits arguments := by
  unfold check
  by_cases same : signature.length = arguments.length
  · rw [if_neg (not_not_intro same), ← firstRejected_eq_none_iff 0 same]
    cases firstRejected 0 signature arguments <;> simp
  · rw [if_pos same]
    simp only [reduceCtorEq, false_iff]
    intro admitted
    exact same admitted.length_eq

theorem require_eq_ok_iff (signature : Signature) (arguments : List Value) :
    signature.require arguments = .ok () ↔ signature.Admits arguments := by
  rw [← check_eq_ok_iff]
  unfold require
  cases signature.check arguments <;> simp

/-- Both lists have this position, and the type there accepts the value there. -/
def AcceptsAt (signature : Signature) (arguments : List Value) (index : Nat) : Prop :=
  ∃ type value, signature[index]? = some type ∧ arguments[index]? = some value ∧
    type.accepts value = true

/-- The type at this position rejects the value there, and no earlier position does so. -/
structure FirstRejected (signature : Signature) (arguments : List Value) (index : Nat)
    (type : ValueType) (value : Value) : Prop where
  declared : signature[index]? = some type
  given : arguments[index]? = some value
  rejected : type.accepts value = false
  earlier : ∀ position < index, signature.AcceptsAt arguments position

theorem admits_iff_acceptsAt (signature : Signature) (arguments : List Value) :
    signature.Admits arguments ↔
      signature.length = arguments.length ∧
        ∀ index < signature.length, signature.AcceptsAt arguments index := by
  rw [Admits, List.forall₂_iff_get]
  refine and_congr_right fun same => forall_congr' fun index => ?_
  constructor
  · intro accepted declared
    have given : index < arguments.length := same ▸ declared
    exact ⟨_, _, List.getElem?_eq_getElem declared, List.getElem?_eq_getElem given,
      accepted declared given⟩
  · intro accepted declared given
    obtain ⟨type, value, atType, atValue, accepts⟩ := accepted declared
    rw [List.getElem?_eq_getElem declared, Option.some.injEq] at atType
    rw [List.getElem?_eq_getElem given, Option.some.injEq] at atValue
    rw [List.get_eq_getElem, List.get_eq_getElem, atType, atValue]
    exact accepts

section FirstRejected

variable {type expected : ValueType} {value found : Value} {types : Signature} {values : List Value}
  {index : Nat}

theorem acceptsAt_zero : AcceptsAt (type :: types) (value :: values) 0 ↔ type.accepts value = true := by
  simp [AcceptsAt]

theorem acceptsAt_succ :
    AcceptsAt (type :: types) (value :: values) (index + 1) ↔ AcceptsAt types values index := by
  simp [AcceptsAt]

/-- The first position is rejected, or it is accepted and the rest has a first rejected one. -/
theorem firstRejected_cons_iff :
    FirstRejected (type :: types) (value :: values) index expected found ↔
      (type.accepts value = false ∧ index = 0 ∧ expected = type ∧ found = value) ∨
        (type.accepts value = true ∧
          ∃ later, index = later + 1 ∧ FirstRejected types values later expected found) := by
  constructor
  · rintro ⟨declared, given, rejected, earlier⟩
    cases index with
    | zero =>
        cases declared
        cases given
        exact .inl ⟨rejected, rfl, rfl, rfl⟩
    | succ later =>
        refine .inr ⟨acceptsAt_zero.mp (earlier 0 (by omega)), later, rfl, declared, given, rejected,
          fun position before => ?_⟩
        exact acceptsAt_succ.mp (earlier (position + 1) (by omega))
  · rintro (⟨rejected, rfl, rfl, rfl⟩ | ⟨accepted, later, rfl, declared, given, rejected, earlier⟩)
    · exact ⟨rfl, rfl, rejected, fun position before => by omega⟩
    · refine ⟨declared, given, rejected, fun position before => ?_⟩
      cases position with
      | zero => exact acceptsAt_zero.mpr accepted
      | succ position => exact acceptsAt_succ.mpr (earlier position (by omega))

end FirstRejected

/-- The search goes through both lists at once and stops at the first rejected position. -/
theorem firstRejected_eq_some_iff (start : Nat) (signature : Signature) (arguments : List Value)
    (rejection : Rejection) :
    firstRejected start signature arguments = some rejection ↔
      ∃ index type value, signature.FirstRejected arguments index type value ∧
        rejection = .argument (start + index) type value := by
  induction signature generalizing start arguments with
  | nil =>
      simp only [firstRejected, reduceCtorEq, false_iff]
      rintro ⟨index, type, value, ⟨declared, _, _, _⟩, _⟩
      cases declared
  | cons expected types ih =>
      cases arguments with
      | nil =>
          simp only [firstRejected, reduceCtorEq, false_iff]
          rintro ⟨index, type, value, ⟨_, given, _, _⟩, _⟩
          cases given
      | cons found values =>
          simp only [firstRejected, firstRejected_cons_iff]
          cases accepted : expected.accepts found with
          | true =>
              rw [if_pos rfl, ih]
              constructor
              · rintro ⟨index, type, value, first, rfl⟩
                exact ⟨index + 1, type, value, .inr ⟨rfl, index, rfl, first⟩, by congr 1; omega⟩
              · rintro ⟨_, type, value, ⟨impossible, _⟩ | ⟨_, index, rfl, first⟩, rfl⟩
                · cases impossible
                · exact ⟨index, type, value, first, by congr 1; omega⟩
          | false =>
              rw [if_neg Bool.false_ne_true]
              constructor
              · intro same
                cases same
                exact ⟨0, expected, found, .inl ⟨rfl, rfl, rfl, rfl⟩, rfl⟩
              · rintro ⟨_, type, value, ⟨_, rfl, rfl, rfl⟩ | ⟨impossible, _⟩, rfl⟩
                · rfl
                · cases impossible

namespace Rejection

/-- Two rejections say the same: the same two lengths, or the same position and type and the same shape of
value. -/
def Alike : Rejection → Rejection → Prop
  | .count expected found, .count otherExpected otherFound =>
      expected = otherExpected ∧ found = otherFound
  | .argument index type value, .argument otherIndex otherType otherValue =>
      index = otherIndex ∧ type = otherType ∧ value.typeName = otherValue.typeName
  | .count .., .argument .. | .argument .., .count .. => False

/-- A text about a count is longer than any name of a shape. -/
theorem count_ne_typeName (count : Nat) (value : Value) :
    count.repr ++ " arguments" ≠ value.typeName := by
  intro same
  have short := value.length_typeName_le
  rw [← same, String.length_append] at short
  have long : " arguments".length = 10 := by decide
  omega

theorem text_argument_iff {type other : ValueType} {index position : Nat} :
    type.name ++ " at argument " ++ index.repr = other.name ++ " at argument " ++ position.repr ↔
      type = other ∧ index = position := by
  constructor
  · intro same
    have letters := congrArg String.toList same
    have middle : " at argument ".toList = ' ' :: "at argument ".toList := by decide
    simp only [String.toList_append, List.append_assoc, middle, List.cons_append] at letters
    have names := congrArg (List.takeWhile (· ≠ ' ')) letters
    rw [ValueType.takeWhile_name, ValueType.takeWhile_name] at names
    have types : type = other := ValueType.name_injective (String.toList_injective names)
    subst types
    have numbers := List.append_cancel_left letters
    rw [List.cons.injEq] at numbers
    exact ⟨rfl, eq_of_repr_eq (String.toList_injective (List.append_cancel_left numbers.2))⟩
  · rintro ⟨rfl, rfl⟩
    rfl

/-- The two texts of a fault tell all that the rejection names. -/
theorem fault_eq_iff (first second : Rejection) : first.fault = second.fault ↔ first.Alike second := by
  cases first with
  | count expected found =>
      cases second with
      | count otherExpected otherFound =>
          rw [fault, fault, Fault.mismatch.injEq, String.append_left_inj, String.append_left_inj]
          exact and_congr ⟨eq_of_repr_eq, congrArg _⟩ ⟨eq_of_repr_eq, congrArg _⟩
      | argument index type value =>
          refine iff_of_false (fun same => ?_) id
          exact count_ne_typeName _ _ (Fault.mismatch.inj same).2
  | argument index type value =>
      cases second with
      | count expected found =>
          refine iff_of_false (fun same => ?_) id
          exact count_ne_typeName _ _ (Fault.mismatch.inj same).2.symm
      | argument otherIndex otherType otherValue =>
          rw [fault, fault, Fault.mismatch.injEq, text_argument_iff, and_assoc, and_left_comm]
          rfl

end Rejection

/-- The check passes exactly the arguments that the types accept one by one, and otherwise it names the
first that is to blame, in a text that fits no other fault. -/
theorem check_names_first_rejected (signature : Signature) (arguments : List Value) :
    let checked := (signature.check arguments).mapError Rejection.fault
    (checked = .ok () ↔
      signature.length = arguments.length ∧
        ∀ index < signature.length, signature.AcceptsAt arguments index) ∧
    (signature.length ≠ arguments.length →
      checked = .error (.mismatch (signature.length.repr ++ " arguments")
        (arguments.length.repr ++ " arguments"))) ∧
    (signature.length = arguments.length → ∀ fault,
      checked = .error fault ↔
        ∃ index type value, signature.FirstRejected arguments index type value ∧
          fault = .mismatch (type.name ++ " at argument " ++ index.repr) value.typeName) ∧
    ∀ first second : Rejection, first.fault = second.fault ↔ first.Alike second := by
  refine ⟨?_, ?_, ?_, Rejection.fault_eq_iff⟩
  · rw [← admits_iff_acceptsAt, ← check_eq_ok_iff]
    cases signature.check arguments <;> simp [Except.mapError]
  · intro differ
    rw [check, if_pos differ]
    rfl
  · intro same fault
    rw [check, if_neg (not_not_intro same)]
    have search := firstRejected_eq_some_iff 0 signature arguments
    cases ending : firstRejected 0 signature arguments with
    | none =>
        simp only [ending, reduceCtorEq, false_iff] at search
        simp only [Except.mapError, reduceCtorEq, false_iff]
        rintro ⟨index, type, value, first, _⟩
        exact search _ ⟨index, type, value, first, rfl⟩
    | some rejection =>
        simp only [Except.mapError, Except.error.injEq]
        obtain ⟨index, type, value, first, named⟩ := (search rejection).mp ending
        constructor
        · rintro rfl
          exact ⟨index, type, value, first, by rw [named, Nat.zero_add]; rfl⟩
        · rintro ⟨index, type, value, first, rfl⟩
          have same := (search _).mpr ⟨index, type, value, first, rfl⟩
          rw [ending, Option.some.injEq] at same
          rw [same, Nat.zero_add]
          rfl

/-- Two of three arguments are rejected, and the fault names the first of them. A missing string is no
reason to complain. -/
theorem check_names_first_rejected_of_two :
    let signature : Signature := [.str, .i32, .bytes]
    let arguments : List Value := [.null, .i64 5, .bool true]
    signature.length = arguments.length ∧ ¬ signature.AcceptsAt arguments 2 ∧
      (signature.check arguments).mapError Rejection.fault =
        .error (.mismatch "i32 at argument 1" "i64") := by
  intro signature arguments
  have same : signature.length = arguments.length := rfl
  have first : signature.FirstRejected arguments 1 .i32 (.i64 5) := by
    refine ⟨rfl, rfl, rfl, fun position before => ?_⟩
    obtain rfl : position = 0 := by omega
    exact ⟨.str, .null, rfl, rfl, rfl⟩
  refine ⟨same, by simp [AcceptsAt, signature, arguments, ValueType.accepts], ?_⟩
  exact ((check_names_first_rejected signature arguments).2.2.1 same _).mpr
    ⟨1, .i32, .i64 5, first, by decide +kernel⟩

end Signature

end RemoteObjects
