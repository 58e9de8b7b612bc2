import RemoteObjects.Proofs.Catalog
import RemoteObjects.Proofs.Host.Separation

namespace RemoteObjects

variable {σ : Type}

/-- The value that a request leaves in a static field of this type. An absent value counts as null. -/
def Request.stored? (className name : String) (type : ValueType) : Request → Option Value
  | .field _ owner written value .write .static =>
      if owner = className ∧ written = name ∧ type.accepts (value.getD .null) then
        some (value.getD .null)
      else
        none
  | _ => none

/-- A write to the field of an object stores nothing among the static values. -/
theorem Field.statics_write_object (field : Field σ) (scope : field.scope = .object)
    (statics : Statics) (target : Instance σ) (value : Value) :
    (field.write statics (some target) value).1 = statics := by
  unfold Field.write
  cases field.require value with
  | error failure => rfl
  | ok _ =>
      cases store : field.store with
      | object get set =>
          dsimp only
          split <;> rfl
      | static => simp [Field.scope, store] at scope

/-- A static field is set if its type accepts the value. -/
theorem Field.statics_write_static (field : Field σ) (static : field.store = .static)
    (statics : Statics) (value : Value) :
    (field.write statics none value).1 =
      if field.type.accepts value then statics.set field.key value else statics := by
  unfold Field.write Field.require
  by_cases accepted : field.type.accepts value = true
  · simp [accepted, static]
  · simp [accepted]

namespace Host

/-- Whatever is not a write in the static scope leaves the static values alone. -/
theorem statics_execute_other (catalog : Catalog σ) (host : Host σ) {request : Request}
    (other : ∀ handle className name value,
      request ≠ .field handle className name value .write .static) :
    (execute catalog host request).state.statics = host.statics := by
  cases request with
  | construct handle className types arguments =>
      simp only [execute, construct]
      split
      · rfl
      · split <;> rfl
  | invoke handle className method types arguments =>
      simp only [execute, invoke]
      split
      · rfl
      · split
        · rfl
        · split <;> rfl
  | field handle className name value mode scope =>
      cases mode with
      | read => rfl
      | write =>
          cases scope with
          | static => exact absurd rfl (other handle className name value)
          | object =>
              simp only [execute, writeField]
              split
              · rfl
              · split
                · rfl
                · rename_i field found
                  exact field.statics_write_object (Catalog.scope_of_findField found) ..
  | finalize handle className =>
      simp only [execute, finalize]
      split <;> rfl

/-- One request changes a declared static field only if it stores a value there. -/
theorem find?_statics_execute {declarations : List (Declaration σ)} {className name : String}
    {type : ValueType} {initial : Value}
    (declared : Declaration.outline? declarations className name = some (.static type initial))
    (host : Host σ) (request : Request) :
    (execute (.ofDeclarations declarations) host request).state.statics.find? (className, name) =
      (request.stored? className name type).or (host.statics.find? (className, name)) := by
  by_cases writes : ∃ handle owner written value,
      request = .field handle owner written value .write .static
  · obtain ⟨handle, owner, written, value, rfl⟩ := writes
    simp only [execute, writeField]
    cases known : (Catalog.ofDeclarations declarations).findField owner written .static with
    | error failure =>
        -- The declared field is found, so that this is another one.
        have apart : ¬ (owner = className ∧ written = name) := by
          rintro ⟨rfl, rfl⟩
          obtain ⟨field, found, _⟩ := Catalog.findField_of_declared declared
          cases known.symm.trans found
        have nothing : ¬ (owner = className ∧ written = name ∧
            type.accepts (value.getD .null) = true) := fun all => apart ⟨all.1, all.2.1⟩
        simp [Request.stored?, nothing]
    | ok field =>
        obtain ⟨key, static, _⟩ := Catalog.declared_of_findField known
        dsimp only
        rw [field.statics_write_static static, key]
        by_cases same : owner = className ∧ written = name
        · obtain ⟨rfl, rfl⟩ := same
          obtain ⟨other, found, rfl⟩ := Catalog.findField_of_declared declared
          cases known.symm.trans found
          by_cases accepted : field.type.accepts (value.getD .null) = true
          · simp [Request.stored?, accepted]
          · simp [Request.stored?, accepted]
        · have apart : ((owner, written) : String × String) ≠ (className, name) := by
            simpa using same
          have nothing : ¬ (owner = className ∧ written = name ∧
              type.accepts (value.getD .null) = true) := fun all => same ⟨all.1, all.2.1⟩
          simp only [Request.stored?, if_neg nothing, Option.none_or]
          split
          · simp [apart]
          · rfl
  · have other : ∀ handle owner written value,
        request ≠ .field handle owner written value .write .static :=
      fun handle owner written value same => writes ⟨handle, owner, written, value, same⟩
    have nothing : request.stored? className name type = none := by
      unfold Request.stored?
      split
      · exact absurd rfl (other _ _ _ _)
      · rfl
    rw [statics_execute_other _ host other, nothing, Option.none_or]

/-- A request to one of the hosts that share the static values. The bodies are as they are at that
moment, and the instances are those that the request finds. -/
structure Visit (σ : Type) where
  declarations : List (Declaration σ)
  instances : InstanceTable σ
  request : Request

def Visit.execute (visit : Visit σ) (statics : Statics) : Step (Host σ) (Option Reply) :=
  Host.execute (.ofDeclarations visit.declarations) { instances := visit.instances, statics }
    visit.request

/-- The static values after the visits were made one after the other. -/
def staticsAfter (statics : Statics) (visits : List (Visit σ)) : Statics :=
  visits.foldl (fun statics visit => (visit.execute statics).state.statics) statics

/-- A single host visits its own instances, as the earlier requests left them. -/
def visitsOf (declarations : List (Declaration σ)) : Host σ → List Request → List (Visit σ)
  | _, [] => []
  | host, request :: requests =>
      { declarations, instances := host.instances, request } ::
        visitsOf declarations
          (Host.execute (.ofDeclarations declarations) host request).state requests

theorem statics_after (declarations : List (Declaration σ)) (host : Host σ)
    (requests : List Request) :
    (Execution.after (Host.execute (.ofDeclarations declarations)) host requests).statics =
      staticsAfter host.statics (visitsOf declarations host requests) := by
  induction requests generalizing host with
  | nil => rfl
  | cons request requests ih => exact ih _

theorem map_request_visitsOf (declarations : List (Declaration σ)) (host : Host σ)
    (requests : List Request) :
    (visitsOf declarations host requests).map Visit.request = requests := by
  induction requests generalizing host with
  | nil => rfl
  | cons request requests ih => simp [visitsOf, ih]

theorem declarations_visitsOf {declarations : List (Declaration σ)} {host : Host σ}
    {requests : List Request} {visit : Visit σ}
    (member : visit ∈ visitsOf declarations host requests) :
    visit.declarations = declarations := by
  induction requests generalizing host with
  | nil => cases member
  | cons request requests ih =>
      rcases List.mem_cons.mp member with rfl | later
      · rfl
      · exact ih later

/-- Over all visits the value that was stored last is kept. -/
theorem find?_staticsAfter {className name : String} {type : ValueType} {initial : Value}
    {visits : List (Visit σ)}
    (declared : ∀ visit ∈ visits,
      Declaration.outline? visit.declarations className name = some (.static type initial))
    (statics : Statics) :
    (staticsAfter statics visits).find? (className, name) =
      ((visits.map Visit.request).filterMap
        (Request.stored? className name type)).getLast?.or
        (statics.find? (className, name)) := by
  induction visits using List.reverseRecOn with
  | nil => rfl
  | append_singleton visits visit ih =>
      have last : staticsAfter statics (visits ++ [visit]) =
          (visit.execute (staticsAfter statics visits)).state.statics := by
        simp [staticsAfter]
      rw [last, Visit.execute, find?_statics_execute (declared visit (by simp)),
        ih fun other member => declared other (by simp [member]), List.map_append,
        List.filterMap_append, List.getLast?_append, Option.or_assoc]
      congr 1
      cases stored : visit.request.stored? className name type <;> simp [stored]

/-- A declared static field is read from the static values. -/
theorem execute_read_static {declarations : List (Declaration σ)} {className name : String}
    {type : ValueType} {initial value : Value}
    (declared : Declaration.outline? declarations className name = some (.static type initial))
    {host : Host σ} (held : host.statics.find? (className, name) = some value) (handle : Handle)
    (given : Option Value) :
    (execute (.ofDeclarations declarations) host
      (.field handle className name given .read .static)).result = some (.granted value) := by
  obtain ⟨field, found, _⟩ := Catalog.findField_of_declared declared
  obtain ⟨key, static, _⟩ := Catalog.declared_of_findField found
  simp [execute, readField, found, bind, Except.bind, Field.read, static, key, held,
    Except.mapError, replyTo]

/-- A static field holds the last value that its type accepted, also if several hosts share the catalog.
The bodies of members may be any functions of the state and the arguments; one that had got hold of the
field itself could write it past the requests, and is no such function. -/
theorem static_field_holds_last_write {declarations : List (Declaration σ)}
    {className name : String} {field : Field σ}
    (found : (Catalog.ofDeclarations declarations).findField className name .static = .ok field) :
    ∃ initial,
      Declaration.outline? declarations className name = some (.static field.type initial) ∧
      let catalog := Catalog.ofDeclarations declarations
      let lastWrite (requests : List Request) : Value :=
        (requests.filterMap (Request.stored? className name field.type)).getLast?.getD initial
      let read (handle : Handle) (given : Option Value) : Request :=
        .field handle className name given .read .static
      (∀ instances requests,
        let host := Execution.after (execute catalog)
          { instances, statics := catalog.initialStatics } requests
        host.statics.find? (className, name) = some (lastWrite requests) ∧
          ∀ handle given,
            (execute catalog host (read handle given)).result =
              some (.granted (lastWrite requests))) ∧
      ∀ visits : List (Visit σ),
        (∀ visit ∈ visits,
          Declaration.outline? visit.declarations className name =
            Declaration.outline? declarations className name) →
        let statics := staticsAfter catalog.initialStatics visits
        statics.find? (className, name) = some (lastWrite (visits.map Visit.request)) ∧
          ∀ reader : Visit σ,
            Declaration.outline? reader.declarations className name =
              Declaration.outline? declarations className name →
            ∀ handle given, reader.request = read handle given →
              (reader.execute statics).result =
                some (.granted (lastWrite (visits.map Visit.request))) := by
  obtain ⟨_, _, initial, declared, starts⟩ := Catalog.declared_of_findField found
  refine ⟨initial, declared, ?_⟩
  intro catalog lastWrite read
  have held (visits : List (Visit σ)) (alike : ∀ visit ∈ visits,
      Declaration.outline? visit.declarations className name =
        Declaration.outline? declarations className name) :
      (staticsAfter catalog.initialStatics visits).find? (className, name) =
        some (lastWrite (visits.map Visit.request)) := by
    rw [declared] at alike
    rw [find?_staticsAfter alike, starts]
    exact Option.or_some ..
  constructor
  · intro instances requests host
    have value : host.statics.find? (className, name) = some (lastWrite requests) := by
      rw [statics_after, held _ fun visit member => by rw [declarations_visitsOf member],
        map_request_visitsOf]
    exact ⟨value, execute_read_static declared value⟩
  · intro visits alike statics
    refine ⟨held visits alike, ?_⟩
    intro reader same handle given reads
    rw [Visit.execute, reads]
    exact execute_read_static (same.trans declared) (held visits alike) handle given

/-- The field was declared before with another type, then as a field of the objects, and another class
has one of the same name. A write of a wrong type and a write to the other class change nothing, and a
write without a value leaves null. -/
theorem static_field_holds_last_write_redeclared :
    let declarations (size : Int32) : List (Declaration Unit) :=
      [⟨⟨"demo.Foo", "Foo"⟩, [.staticField "label" .any (.i32 0)]⟩,
        ⟨⟨"demo.Bar", "Bar"⟩, [.staticField "label" .i32 (.i32 1)]⟩,
        ⟨⟨"demo.Foo", "Foo"⟩,
          [.staticField "label" .i32 (.i32 2),
            .field "label" .i32 (fun _ => .i32 3) (fun state _ => (state, .ok ())),
            .staticField "label" .str (.str "new"),
            .method "size" [] (.static fun _ => .ok (.i32 size))]⟩]
    let catalog := Catalog.ofDeclarations (declarations 0)
    let ineffective :=
      [.writeStaticField "demo.Foo" "label" (.i32 4), .writeStaticField "demo.Bar" "label" (.i32 5)]
    let clearing := Request.field ⟨7⟩ "demo.Foo" "label" none .write .static
    let read := Request.readStaticField "demo.Foo" "label"
    let visit (size : Int32) (request : Request) : Visit Unit := ⟨declarations size, {}, request⟩
    (catalog.findField "demo.Foo" "label" .static).isOk = true ∧
      (execute catalog (Execution.after (execute catalog) (initial catalog) ineffective)
        read).result = some (.granted (.str "new")) ∧
      ((visit 2 read).execute
        (staticsAfter catalog.initialStatics [visit 0 clearing, visit 1 ineffective[0]])).result =
          some (.granted .null) := by
  intro declarations catalog ineffective clearing read visit
  let label : Field Unit := ⟨⟨"demo.Foo", "Foo"⟩, "label", .str, .static⟩
  have found : catalog.findField "demo.Foo" "label" .static = .ok label := rfl
  obtain ⟨initial, declared, single, shared⟩ := static_field_holds_last_write found
  cases declared
  refine ⟨by rw [found]; rfl, (single {} ineffective).2 _ _, ?_⟩
  have alike : ∀ other ∈ [visit 0 clearing, visit 1 ineffective[0]],
      Declaration.outline? other.declarations "demo.Foo" "label" =
        Declaration.outline? (declarations 0) "demo.Foo" "label" := by
    intro other member
    rcases List.mem_pair.mp member with rfl | rfl
    · rfl
    · rfl
  exact (shared _ alike).2 (visit 2 read) rfl .static none rfl

end Host

end RemoteObjects
