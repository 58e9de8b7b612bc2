import RemoteObjects.Host.Basic
import RemoteObjects.Proofs.Association

namespace RemoteObjects

theorem InstanceTable.contains_of_get {σ : Type} {table : InstanceTable σ} {key : InstanceKey}
    {target : Instance σ} (found : InstanceTable.get table key = .ok target) :
    table.contains key = true := by
  unfold InstanceTable.get at found
  unfold Association.contains
  split at found
  · simp [*]
  · cases found

/-- A request that builds or releases an object. -/
def Request.isLifecycle : Request → Bool
  | .construct .. | .finalize .. => true
  | .invoke .. | .field .. => false

namespace Host

variable {σ : Type} (catalog : Catalog σ) (host : Host σ)

theorem contains_invoke (handle : Handle) (className method : String) (types : List ValueType)
    (arguments : List Value) (key : InstanceKey) :
    (host.invoke catalog handle className method types arguments).1.instances.contains key =
      host.instances.contains key := by
  unfold invoke
  split
  · rfl
  · dsimp only
    split
    · rfl
    · rename_i target found
      split
      · rfl
      · exact Association.contains_set_bound (InstanceTable.contains_of_get found) _ key

theorem contains_writeField (handle : Handle) (className name : String) (value : Option Value)
    (scope : Scope) (key : InstanceKey) :
    (host.writeField catalog handle className name value scope).1.instances.contains key =
      host.instances.contains key := by
  cases scope with
  | static =>
      simp only [writeField]
      split <;> rfl
  | object =>
      simp only [writeField]
      split
      · rfl
      · rename_i target found
        split
        · rfl
        · exact Association.contains_set_bound (InstanceTable.contains_of_get found) _ key

/-- Invocations and field accesses neither build nor release objects, whatever they do to them. -/
theorem contains_answer_use {request : Request} (use : request.isLifecycle = false)
    (key : InstanceKey) :
    (answer catalog host request).state.instances.contains key = host.instances.contains key := by
  simp only [answer, Execution.guarded]
  split
  · cases request with
    | construct handle className types arguments => cases use
    | invoke handle className method types arguments => exact host.contains_invoke catalog ..
    | field handle className name value mode scope =>
        cases mode with
        | read => rfl
        | write => exact host.contains_writeField catalog ..
    | finalize handle className => cases use
  · rfl

variable {handle : Handle} {className : String}

/-- A construction under a free key binds this key exactly if a constructor is found, accepts the
arguments and succeeds. -/
theorem contains_answer_construct {types : List ValueType} {arguments : List Value}
    (shape : (Request.construct handle className types arguments).checkShape = .ok ())
    (free : host.instances.contains ⟨className, handle⟩ = false) (key : InstanceKey) :
    (answer catalog host (.construct handle className types arguments)).state.instances.contains key =
      (decide (⟨className, handle⟩ = key) &&
          (catalog.findConstructor className types >>= fun found => found.build arguments).isOk ||
        host.instances.contains key) := by
  simp only [answer, Execution.guarded, shape, execute, construct, free, Bool.false_eq_true, if_false]
  cases catalog.findConstructor className types >>= fun found => found.build arguments with
  | error failure => simp [Except.isOk, Except.toBool]
  | ok built => simp [Except.isOk, Except.toBool, Association.contains_set]

/-- A finalization frees its key and no other. -/
theorem contains_answer_finalize
    (shape : (Request.finalize handle className).checkShape = .ok ()) (key : InstanceKey) :
    (answer catalog host (.finalize handle className)).state.instances.contains key =
      (!decide (⟨className, handle⟩ = key) && host.instances.contains key) := by
  simp only [answer, Execution.guarded, shape, execute, finalize, InstanceTable.release]
  cases found : host.instances.find? ⟨className, handle⟩ with
  | some target => exact Association.contains_erase ..
  | none =>
      by_cases same : (⟨className, handle⟩ : InstanceKey) = key
      · simp [← same, Association.contains, found]
      · simp [same]

end Host

end RemoteObjects
