import RemoteObjects.Proofs.Wire.RoundTrip

namespace RemoteObjects

namespace Handle

theorem isStatic_iff (handle : Handle) : handle.isStatic = true ↔ handle.number.toInt = -1 := by
  rw [isStatic, decide_eq_true_iff, Handle.mk.injEq, ← Int32.toInt_inj]
  rfl

theorem isInstance_iff (handle : Handle) : handle.isInstance = true ↔ 0 < handle.number.toInt :=
  decide_eq_true_iff

end Handle

namespace Request

/-- A construction and a finalization name an instance, and an invocation names an instance or the static
context. There are as many types as arguments. A field access names the static context exactly if its
scope is static, and otherwise an instance. A read carries no value and a write carries one. -/
def WellShaped : Request → Prop
  | .construct handle _ types arguments =>
      0 < handle.number.toInt ∧ types.length = arguments.length
  | .invoke handle _ _ types arguments =>
      (handle.number.toInt = -1 ∨ 0 < handle.number.toInt) ∧ types.length = arguments.length
  | .field handle _ _ value mode scope =>
      ((handle.number.toInt = -1 ↔ scope = .static) ∧
          (scope = .object → 0 < handle.number.toInt)) ∧
        (mode = .read → value = none) ∧ (mode = .write → value ≠ none)
  | .finalize handle _ => 0 < handle.number.toInt

instance : (request : Request) → Decidable request.WellShaped
  | .construct .. => inferInstanceAs (Decidable (_ ∧ _))
  | .invoke .. => inferInstanceAs (Decidable (_ ∧ _))
  | .field .. => inferInstanceAs (Decidable (_ ∧ _))
  | .finalize .. => inferInstanceAs (Decidable (_ < _))

/-- The request breaks its shape in this way. -/
inductive Shows : Request → Violation → Prop where
  | constructHandle {handle className types arguments} (invalid : ¬ 0 < handle.number.toInt) :
      Shows (.construct handle className types arguments) (.invalidHandle "construct" handle)
  | invokeHandle {handle className method types arguments}
      (invalid : ¬ (handle.number.toInt = -1 ∨ 0 < handle.number.toInt)) :
      Shows (.invoke handle className method types arguments) (.invalidHandle "invoke" handle)
  | fieldHandle {handle className name value mode} (instanceExpected : handle.number.toInt ≠ -1)
      (invalid : ¬ 0 < handle.number.toInt) :
      Shows (.field handle className name value mode .object) (.invalidHandle "field access" handle)
  | finalizeHandle {handle className} (invalid : ¬ 0 < handle.number.toInt) :
      Shows (.finalize handle className) (.invalidHandle "finalize" handle)
  | staticAccess {handle className name value mode} (named : handle.number.toInt ≠ -1) :
      Shows (.field handle className name value mode .static) (.staticAccess handle)
  | instanceAccess {handle className name value mode} (unnamed : handle.number.toInt = -1) :
      Shows (.field handle className name value mode .object) .instanceAccess
  | constructArity {handle className types arguments} (differ : types.length ≠ arguments.length) :
      Shows (.construct handle className types arguments) (.arity types.length arguments.length)
  | invokeArity {handle className method types arguments}
      (differ : types.length ≠ arguments.length) :
      Shows (.invoke handle className method types arguments)
        (.arity types.length arguments.length)
  | readWithValue {handle className name value scope} :
      Shows (.field handle className name (some value) .read scope) .readWithValue
  | writeWithoutValue {handle className name scope} :
      Shows (.field handle className name none .write scope) .writeWithoutValue

/-- No request of the right shape shows a violation. -/
theorem Shows.not_wellShaped {request : Request} {violation : Violation}
    (shows : request.Shows violation) : ¬ request.WellShaped := by
  intro shaped
  cases shows with
  | constructHandle invalid => exact invalid shaped.1
  | invokeHandle invalid => exact invalid shaped.1
  | fieldHandle _ invalid => exact invalid (shaped.1.2 rfl)
  | finalizeHandle invalid => exact invalid shaped
  | staticAccess named => exact named (shaped.1.1.mpr rfl)
  | instanceAccess unnamed => cases shaped.1.1.mp unnamed
  | constructArity differ => exact differ shaped.2
  | invokeArity differ => exact differ shaped.2
  | readWithValue => cases shaped.2.1 rfl
  | writeWithoutValue => exact shaped.2.2 rfl rfl

/-- A check passes and all is good, or it fails with a violation that is really shown. -/
def Tells (check : Except Violation Unit) (good : Prop) (shown : Violation → Prop) : Prop :=
  good ∧ check = .ok () ∨ ∃ violation, shown violation ∧ check = .error violation

section Checks

variable {shown : Violation → Prop}

/-- Of two checks the first that fails decides. -/
theorem Tells.bind {first second : Except Violation Unit} {good alsoGood : Prop}
    (tells : Tells first good shown) (next : Tells second alsoGood shown) :
    Tells (first >>= fun _ => second) (good ∧ alsoGood) shown := by
  rcases tells with ⟨holds, rfl⟩ | ⟨violation, broken, rfl⟩
  · rcases next with ⟨alsoHolds, rfl⟩ | ⟨violation, broken, rfl⟩
    · exact .inl ⟨⟨holds, alsoHolds⟩, rfl⟩
    · exact .inr ⟨violation, broken, rfl⟩
  · exact .inr ⟨violation, broken, rfl⟩

/-- A check is told by its condition and by the violation with which it fails. -/
theorem tells_ite {condition : Prop} [Decidable condition] {good : Prop} {violation : Violation}
    (exact : condition ↔ good) (broken : ¬ good → shown violation) :
    Tells (if condition then .ok () else .error violation) good shown := by
  by_cases holds : condition
  · exact .inl ⟨exact.mp holds, if_pos holds⟩
  · exact .inr ⟨violation, broken fun good => holds (exact.mpr good), if_neg holds⟩

theorem requireInstance_tells {action : String} {handle : Handle}
    (broken : ¬ 0 < handle.number.toInt → shown (.invalidHandle action handle)) :
    Tells (requireInstance action handle) (0 < handle.number.toInt) shown :=
  tells_ite handle.isInstance_iff broken

theorem requireArity_tells {types : List ValueType} {arguments : List Value}
    (broken : types.length ≠ arguments.length →
      shown (.arity types.length arguments.length)) :
    Tells (requireArity types arguments) (types.length = arguments.length) shown :=
  tells_ite Iff.rfl broken

theorem requireTarget_tells (handle : Handle) (className name : String) (value : Option Value)
    (mode : Mode) (scope : Scope) :
    Tells (requireTarget scope handle)
      ((handle.number.toInt = -1 ↔ scope = .static) ∧ (scope = .object → 0 < handle.number.toInt))
      (Shows (.field handle className name value mode scope)) := by
  cases static : handle.isStatic with
  | true =>
      have unnamed := handle.isStatic_iff.mp static
      cases scope with
      | static => exact .inl ⟨by simp [unnamed], by simp [requireTarget, static]⟩
      | object => exact .inr ⟨_, .instanceAccess unnamed, by simp [requireTarget, static]⟩
  | false =>
      have named : handle.number.toInt ≠ -1 := fun unnamed => by
        simp [handle.isStatic_iff.mpr unnamed] at static
      cases scope with
      | static => exact .inr ⟨_, .staticAccess named, by simp [requireTarget, static]⟩
      | object =>
          have target : requireTarget .object handle = requireInstance "field access" handle := by
            simp [requireTarget, static]
          rcases requireInstance_tells (Shows.fieldHandle named) with ⟨valid, checked⟩ | broken
          · exact .inl ⟨by simp [named, valid], target.trans checked⟩
          · rw [target]
            exact .inr broken

theorem requireValue_tells (handle : Handle) (className name : String) (value : Option Value)
    (mode : Mode) (scope : Scope) :
    Tells (requireValue mode value) ((mode = .read → value = none) ∧ (mode = .write → value ≠ none))
      (Shows (.field handle className name value mode scope)) := by
  cases mode with
  | read =>
      cases value with
      | none => exact .inl ⟨by simp, rfl⟩
      | some value => exact .inr ⟨_, .readWithValue, rfl⟩
  | write =>
      cases value with
      | none => exact .inr ⟨_, .writeWithoutValue, rfl⟩
      | some value => exact .inl ⟨by simp, rfl⟩

theorem checkShape_tells (request : Request) :
    Tells request.checkShape request.WellShaped request.Shows := by
  cases request with
  | construct handle className types arguments =>
      exact (requireInstance_tells .constructHandle).bind (requireArity_tells .constructArity)
  | invoke handle className method types arguments =>
      have condition : (handle.isStatic || handle.isInstance) = true ↔
          handle.number.toInt = -1 ∨ 0 < handle.number.toInt := by
        rw [Bool.or_eq_true, handle.isStatic_iff, handle.isInstance_iff]
      have checks : checkShape (.invoke handle className method types arguments) =
          ((if (handle.isStatic || handle.isInstance) = true then .ok ()
            else .error (.invalidHandle "invoke" handle)) >>= fun _ =>
              requireArity types arguments) := by
        simp only [checkShape]
        split <;> rfl
      rw [checks]
      exact (tells_ite condition Shows.invokeHandle).bind (requireArity_tells Shows.invokeArity)
  | field handle className name value mode scope =>
      exact (requireTarget_tells handle className name value mode scope).bind
        (requireValue_tells handle className name value mode scope)
  | finalize handle className => exact requireInstance_tells .finalizeHandle

end Checks

/-- Nothing but a reader fails before the shape is looked at. -/
theorem malformed_of_unreadable {bytes : List UInt8} {fault : Fault}
    (unreadable : decodeAny bytes = .error fault) : ∃ failure, fault = .malformed failure := by
  unfold decodeAny at unreadable
  cases read : Request.read.decode bytes with
  | ok request =>
      rw [read] at unreadable
      cases unreadable
  | error failure =>
      rw [read] at unreadable
      cases unreadable
      exact ⟨failure, rfl⟩

theorem decode_of_unreadable {bytes : List UInt8} {fault : Fault}
    (unreadable : decodeAny bytes = .error fault) : decode bytes = .error fault := by
  rw [decode, unreadable]
  rfl

/-- What was read is judged by its shape alone. -/
theorem decode_of_readable {bytes : List UInt8} {request : Request}
    (read : decodeAny bytes = .ok request) :
    request.WellShaped ∧ decode bytes = .ok request ∨
      ∃ violation, request.Shows violation ∧ decode bytes = .error violation.fault := by
  rw [decode, read]
  simp only [bind, Except.bind]
  rcases request.checkShape_tells with ⟨shaped, passed⟩ | ⟨violation, shows, failed⟩
  · rw [passed]
    exact .inl ⟨shaped, rfl⟩
  · rw [failed]
    exact .inr ⟨violation, shows, rfl⟩

/-- Decoding accepts what can be read and has the right shape, and it reports a violation that the request
shows or the fault of the reading. -/
theorem decode_accepts_wellShaped (bytes : List UInt8) :
    (∀ request, decode bytes = .ok request ↔ decodeAny bytes = .ok request ∧ request.WellShaped) ∧
    (∀ request, decodeAny bytes = .ok request → ¬ request.WellShaped →
      ∃ violation, request.Shows violation ∧
        decode bytes = .error (.violation violation.message)) ∧
    (∀ rule, decode bytes = .error (.violation rule) →
      ∃ request, decodeAny bytes = .ok request ∧ ¬ request.WellShaped) ∧
    ∀ fault, decodeAny bytes = .error fault →
      decode bytes = .error fault ∧ ∃ failure, fault = .malformed failure := by
  cases read : decodeAny bytes with
  | error fault =>
      obtain ⟨failure, rfl⟩ := malformed_of_unreadable read
      rw [decode_of_unreadable read]
      simp
  | ok request =>
      rcases decode_of_readable read with ⟨shaped, accepted⟩ | ⟨violation, shows, refused⟩
      · rw [accepted]
        refine ⟨?_, ?_, by simp, by simp⟩
        · intro other
          simp only [Except.ok.injEq]
          exact ⟨fun same => ⟨same, same ▸ shaped⟩, And.left⟩
        · intro other same broken
          cases same
          exact absurd shaped broken
      · have broken := shows.not_wellShaped
        rw [refused]
        refine ⟨?_, ?_, ?_, by simp⟩
        · intro other
          simp only [reduceCtorEq, false_iff, not_and, Except.ok.injEq]
          rintro rfl
          exact broken
        · intro other same _
          cases same
          exact ⟨violation, shows, rfl⟩
        · intro rule _
          exact ⟨request, rfl, broken⟩

/-- A write of a static field of an instance, without a value, breaks two rules. Its bytes can be read, and
the refusal names the handle. -/
theorem decode_accepts_wellShaped_write :
    let request := Request.field ⟨5⟩ "demo.Foo" "COUNT" none .write .static
    decodeAny request.encode = .ok request ∧ ¬ request.WellShaped ∧
      decode request.encode = .error (.violation "static field access names handle 5") ∧
      ∃ violation, request.Shows violation ∧
        decode request.encode = .error (.violation violation.message) := by
  intro request
  have read : decodeAny request.encode = .ok request := by
    simpa using decodeAny_encode (show request.fits = true by decide +kernel) []
  have broken : ¬ request.WellShaped := by decide
  obtain ⟨violation, shows, refused⟩ :=
    (decode_accepts_wellShaped request.encode).2.1 request read broken
  refine ⟨read, broken, ?_, violation, shows, refused⟩
  rw [decode, read]
  exact congrArg (fun rule => Except.error (Fault.violation rule))
    (show (Violation.staticAccess ⟨5⟩).message = _ by decide +kernel)

end Request

end RemoteObjects
