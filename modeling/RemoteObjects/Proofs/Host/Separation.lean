import RemoteObjects.Proofs.Catalog
import RemoteObjects.Proofs.Host
import RemoteObjects.Proofs.Service.Answering

namespace RemoteObjects

/-- The instance to which a request is addressed. Static invocations and static fields have none. -/
def Request.target? : Request → Option InstanceKey
  | .construct handle className _ _ | .finalize handle className => some { className, handle }
  | .invoke handle className _ _ _ => if handle.isStatic then none else some { className, handle }
  | .field handle className _ _ _ .object => some { className, handle }
  | .field _ _ _ _ _ .static => none

namespace Execution

variable {η ζ : Type}

theorem mem_of_mem_replies {call : Execution η} {host : η} {requests : List Request}
    {entry : Request × Option Reply} (member : entry ∈ call.replies host requests) :
    entry.1 ∈ requests := by
  induction requests generalizing host with
  | nil => cases member
  | cons request requests ih =>
      rcases List.mem_cons.mp member with rfl | later
      · exact List.mem_cons_self
      · exact List.mem_cons_of_mem _ (ih later)

/-- A part of a host that is changed only by the requests that concern it, as if these were the only
ones. -/
structure Projects (whole : Execution η) (part : Execution ζ) (view : η → ζ)
    (concerns : Request → Bool) : Prop where
  own : ∀ host request, concerns request = true →
    view (whole host request).state = (part (view host) request).state ∧
      (whole host request).result = (part (view host) request).result
  other : ∀ host request, concerns request = false → view (whole host request).state = view host

namespace Projects

variable {whole : Execution η} {part : Execution ζ} {view : η → ζ} {concerns : Request → Bool}

theorem after (projects : Projects whole part view concerns) (host : η) (requests : List Request) :
    view (whole.after host requests) = part.after (view host) (requests.filter concerns) := by
  induction requests generalizing host with
  | nil => rfl
  | cons request requests ih =>
      rw [after_cons, ih]
      cases concerned : concerns request with
      | true =>
          rw [List.filter_cons_of_pos concerned, after_cons, (projects.own host request concerned).1]
      | false => rw [List.filter_cons_of_neg (by simp [concerned]), projects.other _ _ concerned]

theorem replies (projects : Projects whole part view concerns) (host : η) (requests : List Request) :
    (whole.replies host requests).filter (fun entry => concerns entry.1) =
      part.replies (view host) (requests.filter concerns) := by
  induction requests generalizing host with
  | nil => rfl
  | cons request requests ih =>
      rw [Execution.replies]
      cases concerned : concerns request with
      | true =>
          obtain ⟨state, result⟩ := projects.own host request concerned
          rw [List.filter_cons_of_pos (by exact concerned), List.filter_cons_of_pos concerned,
            Execution.replies, ih, state, result]
      | false =>
          rw [List.filter_cons_of_neg (by simp [concerned]),
            List.filter_cons_of_neg (by simp [concerned]), ih, projects.other _ _ concerned]

/-- What is refused for its shape concerns nobody's state. -/
theorem guarded (projects : Projects whole part view concerns) :
    Projects whole.guarded part.guarded view concerns where
  own := by
    intro host request concerned
    unfold Execution.guarded
    cases request.checkShape with
    | ok _ => exact projects.own host request concerned
    | error violation => exact ⟨rfl, rfl⟩
  other := by
    intro host request concerned
    unfold Execution.guarded
    cases request.checkShape with
    | ok _ => exact projects.other host request concerned
    | error violation => rfl

/-- With the other requests left out, the part and its replies are the same. -/
theorem alone (projects : Projects whole part view concerns) (host : η) (requests : List Request) :
    view (whole.after host requests) = view (whole.after host (requests.filter concerns)) ∧
      (whole.replies host requests).filter (fun entry => concerns entry.1) =
        whole.replies host (requests.filter concerns) := by
  have twice : (requests.filter concerns).filter concerns = requests.filter concerns := by
    simp [List.filter_filter]
  have all : (whole.replies host (requests.filter concerns)).filter (fun entry => concerns entry.1) =
      whole.replies host (requests.filter concerns) := by
    apply List.filter_eq_self.mpr
    intro entry member
    exact (List.mem_filter.mp (mem_of_mem_replies member)).2
  constructor
  · rw [projects.after, projects.after, twice]
  · rw [← all, projects.replies, projects.replies, twice]

end Projects

end Execution

section Fields

variable {σ : Type}

theorem Catalog.scope_of_findField {catalog : Catalog σ} {className name : String} {scope : Scope}
    {field : Field σ} (found : catalog.findField className name scope = .ok field) :
    field.scope = scope := by
  obtain ⟨_, _, _, scope⟩ := Catalog.findField_eq_ok_iff.mp found
  exact scope

/-- What an object field holds is not among the static values. -/
theorem Field.read_object (field : Field σ) (scope : field.scope = .object) (statics : Statics)
    (target : Instance σ) :
    field.read statics (some target) = field.read {} (some target) := by
  unfold Field.read
  cases store : field.store with
  | object get set => rfl
  | static => simp [Field.scope, store] at scope

/-- A field that is found among those of objects is read from the target alone. -/
theorem Catalog.findField_read (catalog : Catalog σ) (className name : String) (statics : Statics)
    (target : Instance σ) :
    (catalog.findField className name .object >>= fun field => field.read statics (some target)) =
      catalog.findField className name .object >>= fun field => field.read {} (some target) := by
  cases known : catalog.findField className name .object with
  | error failure => rfl
  | ok field => exact field.read_object (Catalog.scope_of_findField known) statics target

theorem Field.write_object (field : Field σ) (scope : field.scope = .object) (statics : Statics)
    (target : Instance σ) (value : Value) :
    (field.write statics (some target) value).2 = (field.write {} (some target) value).2 := by
  unfold Field.write
  cases field.require value with
  | error failure => rfl
  | ok _ =>
      cases store : field.store with
      | object get set =>
          dsimp only
          split <;> rfl
      | static => simp [Field.scope, store] at scope

end Fields

/-- What a caller is told of a result. -/
def Reply.ofResult : Except Catalog.Failure Value → Reply
  | .ok value => .granted value
  | .error failure => .refused failure.reason

theorem Host.replyTo_mapError (operation className : String)
    (result : Except Catalog.Failure Value) :
    (Host.replyTo operation className (result.mapError .catalog)).1 = .ofResult result := by
  cases result <;> rfl

variable {σ : Type}

/-- The life of one entry of the table: what becomes of it with each request that is addressed to it,
and what is replied. -/
def Catalog.life (catalog : Catalog σ) : Execution (Option (Instance σ)) := fun entry request =>
  match request with
  | .construct _ className types arguments =>
      { state := entry <|> (catalog.findConstructor className types >>= fun found =>
          found.build arguments).toOption
        result := none }
  | .invoke _ className method types arguments =>
      match entry with
      | none => { state := none, result := some (.refused .handleNotFound) }
      | some target =>
          match catalog.findMethod className method types .object with
          | .error failure => { state := some target, result := some (.refused failure.reason) }
          | .ok found =>
              let invoked := found.invoke target arguments
              { state := some invoked.1, result := some (.ofResult invoked.2) }
  | .field _ className name _ .read _ =>
      match entry with
      | none => { state := none, result := some (.refused .handleNotFound) }
      | some target =>
          { state := some target
            result := some <| .ofResult <| catalog.findField className name .object >>= fun field =>
              field.read {} (some target) }
  | .field _ className name value .write _ =>
      match entry with
      | none => { state := none, result := none }
      | some target =>
          match catalog.findField className name .object with
          | .error _ => { state := some target, result := none }
          | .ok field =>
              let written := (field.write {} (some target) (value.getD .null)).2
              { state := some (written.1.getD target), result := none }
  | .finalize _ _ => { state := none, result := none }

namespace Host

variable (catalog : Catalog σ) (host : Host σ)

/-- The entry changes as its life prescribes, and the reply is the prescribed one. -/
theorem execute_own {request : Request} {key : InstanceKey} (addressed : request.target? = some key) :
    (execute catalog host request).state.instances.find? key =
        (catalog.life (host.instances.find? key) request).state ∧
      (execute catalog host request).result =
        (catalog.life (host.instances.find? key) request).result := by
  -- Every handler looks for the instance first, so the entry is split before anything is unfolded.
  cases request with
  | construct handle className types arguments =>
      cases addressed
      cases found : host.instances.find? ⟨className, handle⟩ with
      | some target => simp [execute, construct, Catalog.life, Association.contains, found]
      | none =>
          simp only [execute, construct, Catalog.life, Association.contains, found,
            Option.isSome_none, Bool.false_eq_true, if_false]
          cases catalog.findConstructor className types >>= fun found => found.build arguments with
          | error failure => simp [found, Except.toOption]
          | ok built => simp [Except.toOption]
  | invoke handle className method types arguments =>
      simp only [Request.target?] at addressed
      split at addressed
      · cases addressed
      · rename_i proper
        cases addressed
        cases found : host.instances.find? ⟨className, handle⟩ with
        | none =>
            simp [execute, invoke, proper, InstanceTable.get, Catalog.life, found, replyTo,
              Failure.reason]
        | some target =>
            simp only [execute, invoke, proper, InstanceTable.get, Catalog.life, found]
            cases catalog.findMethod className method types .object with
            | error failure => simp [found, replyTo, Failure.reason]
            | ok method => simp [replyTo_mapError]
  | field handle className name value mode scope =>
      cases scope with
      | static => cases addressed
      | object =>
          cases addressed
          cases found : host.instances.find? ⟨className, handle⟩ with
          | none =>
              cases mode <;>
                simp [execute, readField, writeField, InstanceTable.get, Catalog.life, found, replyTo,
                  Failure.reason]
          | some target =>
              cases mode with
              | read =>
                  simp only [execute, readField, InstanceTable.get, Catalog.life, found,
                    catalog.findField_read, replyTo_mapError, and_self]
              | write =>
                  simp only [execute, writeField, InstanceTable.get, Catalog.life, found]
                  cases known : catalog.findField className name .object with
                  | error failure => simp [found]
                  | ok field =>
                      have scope := Catalog.scope_of_findField known
                      simp [field.write_object scope]
  | finalize handle className =>
      cases addressed
      cases found : host.instances.find? ⟨className, handle⟩ with
      | some target => simp [execute, finalize, InstanceTable.release, Catalog.life, found]
      | none => simp [execute, finalize, InstanceTable.release, Catalog.life, found]

/-- A request that is not addressed to an entry leaves it as it is. -/
theorem execute_other {request : Request} {key : InstanceKey}
    (addressed : request.target? ≠ some key) :
    (execute catalog host request).state.instances.find? key = host.instances.find? key := by
  cases request with
  | construct handle className types arguments =>
      have apart : (⟨className, handle⟩ : InstanceKey) ≠ key := fun same =>
        addressed (congrArg some same)
      simp only [execute, construct]
      split
      · rfl
      · split
        · simp [apart]
        · rfl
  | invoke handle className method types arguments =>
      simp only [execute, invoke]
      split
      · rfl
      · rename_i proper
        have apart : (⟨className, handle⟩ : InstanceKey) ≠ key := by
          simpa [Request.target?, proper] using addressed
        split
        · rfl
        · split
          · rfl
          · simp [apart]
  | field handle className name value mode scope =>
      cases mode with
      | read => rfl
      | write =>
          cases scope with
          | static =>
              simp only [execute, writeField]
              split <;> rfl
          | object =>
              have apart : (⟨className, handle⟩ : InstanceKey) ≠ key := fun same =>
                addressed (congrArg some same)
              simp only [execute, writeField]
              split
              · rfl
              · split
                · rfl
                · simp [apart]
  | finalize handle className =>
      have apart : (⟨className, handle⟩ : InstanceKey) ≠ key := fun same =>
        addressed (congrArg some same)
      simp only [execute, finalize, InstanceTable.release]
      cases host.instances.find? ⟨className, handle⟩ with
      | some target => simp [apart]
      | none => rfl

/-- An entry of the table and the requests that are addressed to it. -/
theorem execute_projects (key : InstanceKey) :
    Execution.Projects (execute catalog) catalog.life (fun host => host.instances.find? key)
      fun request => request.target? = some key where
  own host _ addressed := host.execute_own catalog (of_decide_eq_true addressed)
  other host _ elsewhere := host.execute_other catalog (of_decide_eq_false elsewhere)

/-- Let a host execute any requests, of the right shape or not, or answer them. The entry under a key
and the replies to the requests that are addressed to it are the same as if no other requests had
come. -/
theorem instances_apart (requests : List Request) (key : InstanceKey) :
    let addressed := requests.filter fun request => request.target? = some key
    let apart (call : Execution (Host σ)) : Prop :=
      (call.after host requests).instances.find? key =
          (call.after host addressed).instances.find? key ∧
        (call.replies host requests).filter (fun (request, _) => request.target? = some key) =
          call.replies host addressed
    apart (execute catalog) ∧ apart (answer catalog) := by
  have projects := execute_projects catalog key
  exact ⟨projects.alone host requests, projects.guarded.alone host requests⟩

end Host

end RemoteObjects
