import RemoteObjects.Proofs.Host.Mismatches
import RemoteObjects.Proofs.Signature

namespace RemoteObjects

variable {σ : Type}

namespace Host

/-- A request and the declarations of the catalog as they are when the request arrives. -/
structure Call (σ : Type) where
  declarations : List (Declaration σ)
  request : Request

def Call.arrival (call : Call σ) : Arrival σ where
  catalog := .ofDeclarations call.declarations
  request := call.request

/-- The host after the calls were received one after the other. -/
def afterCalls (host : Host σ) (calls : List (Call σ)) : Host σ :=
  host.afterAll (calls.map Call.arrival)

theorem afterCalls_concat (host : Host σ) (calls : List (Call σ)) (call : Call σ) :
    host.afterCalls (calls ++ [call]) =
      (execute (.ofDeclarations call.declarations) (host.afterCalls calls) call.request).state := by
  simp [afterCalls, afterAll, receive, Call.arrival]

/-- Among the calls is the one to which the instance under a key goes back. At this call the key was
free, and a constructor of the class succeeded. Since then the key was not released. -/
inductive Stems (host : Host σ) (key : InstanceKey) : List (Call σ) → Owner → Prop where
  | built (before later : List (Call σ)) {declarations : List (Declaration σ)}
      {latest : Declaration σ} {types : List ValueType}
      {body : List Value → Except BodyFailure σ} {arguments : List Value} {state : σ}
      (declared : Declaration.latest? declarations key.className = some latest)
      (member : .constructor types body ∈ latest.members)
      (admitted : Signature.Admits types arguments) (succeeds : body arguments = .ok state)
      (free : (host.afterCalls before).instances.find? key = none)
      (bound : (host.afterCalls (before ++
          [⟨declarations, .construct key.handle key.className types arguments⟩])).instances.find?
        key = some { type := latest.owner.objectType, state })
      (lasting : ∀ call ∈ later, call.request ≠ .finalize key.handle key.className) :
      Stems host key
        (before ++ ⟨declarations, .construct key.handle key.className types arguments⟩ :: later)
        latest.owner

section Origin

variable {host : Host σ} {key : InstanceKey} {calls : List (Call σ)} {owner : Owner}

theorem Stems.concat (stems : Stems host key calls owner) {call : Call σ}
    (lasting : call.request ≠ .finalize key.handle key.className) :
    Stems host key (calls ++ [call]) owner := by
  cases stems with
  | built before later declared member admitted succeeds free bound unreleased =>
      rw [List.append_assoc, List.cons_append]
      refine .built before (later ++ [call]) declared member admitted succeeds free bound ?_
      intro other either
      rcases List.mem_append.mp either with earlier | last
      · exact unreleased other earlier
      · rw [List.mem_singleton.mp last]
        exact lasting

/-- An instance that is there after a request has just been built, or was there before with the same
type. -/
theorem Effect.origin {catalog : Catalog σ} {request : Request} {failure : Option Failure}
    {after : Host σ} {target : Instance σ} (effect : Effect catalog host request failure after)
    (found : after.instances.find? key = some target) :
    (∃ held, host.instances.find? key = some held ∧ held.type = target.type) ∨
      ∃ types arguments, request = .construct key.handle key.className types arguments ∧
        host.instances.find? key = none ∧
          (catalog.findConstructor key.className types >>= fun constructor =>
            constructor.build arguments) = .ok target := by
  cases effect with
  | nothing => exact .inl ⟨target, found, rfl⟩
  | builds other types arguments free succeeds =>
      by_cases same : other = key
      · subst same
        rw [Association.find?_set, if_pos rfl] at found
        exact .inr ⟨types, arguments, rfl, free, by rw [succeeds, Option.some.inj found]⟩
      · rw [Association.find?_set, if_neg same] at found
        exact .inl ⟨target, found, rfl⟩
  | @changes other _ held _ state _ _ known _ =>
      by_cases same : other = key
      · subst same
        rw [Association.find?_set, if_pos rfl] at found
        exact .inl ⟨held, known, by rw [← Option.some.inj found]⟩
      · rw [Association.find?_set, if_neg same] at found
        exact .inl ⟨target, found, rfl⟩
  | stores => exact .inl ⟨target, found, rfl⟩
  | releases other known =>
      by_cases same : other = key
      · rw [Association.find?_erase, if_pos same] at found
        cases found
      · rw [Association.find?_erase, if_neg same] at found
        exact .inl ⟨target, found, rfl⟩

/-- What a successful construction says about the declarations. -/
theorem built_declared {declarations : List (Declaration σ)} {className : String}
    {types : List ValueType} {arguments : List Value} {built : Instance σ}
    (succeeds : ((Catalog.ofDeclarations declarations).findConstructor className types >>=
      fun constructor => constructor.build arguments) = .ok built) :
    ∃ latest body state, Declaration.latest? declarations className = some latest ∧
      .constructor types body ∈ latest.members ∧ Signature.Admits types arguments ∧
        body arguments = .ok state ∧ built = { type := latest.owner.objectType, state } := by
  cases found : (Catalog.ofDeclarations declarations).findConstructor className types with
  | error failure =>
      rw [found] at succeeds
      cases succeeds
  | ok constructor =>
      rw [found] at succeeds
      change constructor.build arguments = .ok built at succeeds
      obtain ⟨latest, declared, owner, rfl, member⟩ := Catalog.declared_of_findConstructor found
      unfold Constructor.build at succeeds
      cases checked : constructor.types.require arguments with
      | error failure =>
          rw [checked] at succeeds
          cases succeeds
      | ok _ =>
          have admitted := (Signature.require_eq_ok_iff ..).mp checked
          rw [checked] at succeeds
          simp only [bind, Except.bind] at succeeds
          split at succeeds
          · rename_i state ran
            cases succeeds
            exact ⟨latest, constructor.body, state, declared, member, admitted, ran, by rw [owner]⟩
          · cases succeeds

/-- By induction on the calls: every instance of a host that was empty before them goes back to one
of them, and it keeps the type with which it was built. -/
theorem stems_of_find? (empty : host.instances = {}) {target : Instance σ}
    (found : (host.afterCalls calls).instances.find? key = some target) :
    ∃ owner, Stems host key calls owner ∧ target.type = owner.objectType := by
  induction calls using List.reverseRecOn generalizing target with
  | nil =>
      change host.instances.find? key = some target at found
      rw [empty] at found
      cases found
  | append_singleton calls call ih =>
      have after := found
      rw [afterCalls_concat] at found
      -- A release of the key would have left nothing there.
      have lasting : call.request ≠ .finalize key.handle key.className := by
        intro release
        rw [release, execute_finalize_frees] at found
        cases found
      rcases (execute_effect ..).origin found with
        ⟨held, known, same⟩ | ⟨types, arguments, construction, free, succeeds⟩
      · obtain ⟨owner, stems, typed⟩ := ih known
        exact ⟨owner, stems.concat lasting, same.symm.trans typed⟩
      · obtain ⟨latest, body, state, declared, member, admitted, ran, rfl⟩ := built_declared succeeds
        obtain ⟨declarations, request⟩ := call
        cases construction
        exact ⟨latest.owner,
          .built calls [] declared member admitted ran free after (by simp), rfl⟩

end Origin

end Host

/-- The owner of the latest declaration of a class. -/
def Owner.latest? (owners : List Owner) (className : String) : Option Owner :=
  owners.reverse.find? fun owner => owner.className = className

theorem Declaration.owner_latest? {declarations : List (Declaration σ)} {className : String}
    {latest : Declaration σ} (declared : latest? declarations className = some latest) :
    Owner.latest? (declarations.map Declaration.owner) className = some latest.owner := by
  unfold latest? at declared
  rw [Owner.latest?, ← List.map_reverse, List.find?_map]
  exact congrArg (Option.map Declaration.owner) declared

namespace Host

section Types

variable {host : Host σ} {owners : List Owner} {calls : List (Call σ)}

theorem Stems.owner {key : InstanceKey} {owner : Owner} (stems : Stems host key calls owner)
    (alike : ∀ call ∈ calls, call.declarations.map Declaration.owner = owners) :
    Owner.latest? owners key.className = some owner := by
  cases stems with
  | built before later declared =>
      rw [← alike _ (List.mem_append_cons_self ..)]
      exact Declaration.owner_latest? declared

/-- All declarations of a class in the course of the calls give it one type, which its instances
have. -/
theorem not_mistyped (empty : host.instances = {})
    (alike : ∀ call ∈ calls, call.declarations.map Declaration.owner = owners)
    {declarations : List (Declaration σ)} (same : declarations.map Declaration.owner = owners)
    (request : Request) :
    ¬ Mistyped (.ofDeclarations declarations) (host.afterCalls calls) request := by
  have typed {key : InstanceKey} {target : Instance σ} {latest : Declaration σ}
      (held : (host.afterCalls calls).instances.find? key = some target)
      (declared : Declaration.latest? declarations key.className = some latest) :
      target.type = latest.owner.objectType := by
    obtain ⟨owner, stems, typed⟩ := stems_of_find? empty held
    have known := Declaration.owner_latest? declared
    rw [same, stems.owner alike] at known
    rw [typed, Option.some.inj known]
  intro mistyped
  cases mistyped with
  | invoke arguments held found apart =>
      obtain ⟨latest, declared, owner⟩ := Catalog.owner_of_findMethod found
      exact apart (owner ▸ typed held declared)
  | field value mode held found apart =>
      obtain ⟨latest, declared, owner⟩ := Catalog.owner_of_findField found
      exact apart (owner ▸ typed held declared)

end Types

/-- No request leads to a member of the other scope, and as long as the classes keep their types none leads
to a member of another type, though the bodies may be others at each call. -/
theorem mismatches_unreachable (owners : List Owner) (statics : Statics) (calls : List (Call σ))
    (alike : ∀ call ∈ calls, call.declarations.map Declaration.owner = owners) :
    let start : Host σ := { statics }
    let host := start.afterCalls calls
    (∀ (catalog : Catalog σ) (request : Request), ¬ Misplaced catalog request) ∧
      (∀ key target, host.instances.find? key = some target →
        ∃ owner, Owner.latest? owners key.className = some owner ∧
          Stems start key calls owner ∧ target.type = owner.objectType) ∧
      ∀ declarations : List (Declaration σ), declarations.map Declaration.owner = owners →
        ∀ request,
          let catalog := Catalog.ofDeclarations declarations
          let errors := (execute catalog host request).errors
          ¬ Mistyped catalog host request ∧
            (∀ owner, (Catalog.Failure.wrongType owner).message ∉ errors) ∧
              ∀ field : Field σ, field.needsInstance.message ∉ errors := by
  intro start host
  refine ⟨not_misplaced, ?_, ?_⟩
  · intro key target found
    obtain ⟨owner, stems, typed⟩ := stems_of_find? rfl found
    exact ⟨owner, stems.owner alike, stems, typed⟩
  · intro declarations same request catalog errors
    have fits : ¬ Mistyped catalog host request := not_mistyped rfl alike same request
    refine ⟨fits, fun owner logged => ?_, fun field logged => ?_⟩
    · exact (ordinary_of_logged fits logged).ne_wrongType owner rfl
    · exact (ordinary_of_logged fits logged).ne_needsInstance field rfl

/-- A class of cells is declared for two types, one after the other, and its constructor starts with
another number at each call. A cell is built, used and constructed again in vain. -/
theorem mismatches_unreachable_redeclared :
    let cells (start : Nat) : List (Declaration Nat) :=
      [⟨⟨"demo.Cell", "Old"⟩, [.constructor [] fun _ => .ok 0]⟩,
        ⟨⟨"demo.Cell", "Cell"⟩, [.constructor [] fun _ => .ok start,
          .method "next" [] (.object fun count _ => (count + 1, .ok .null))]⟩]
    let key : InstanceKey := ⟨"demo.Cell", ⟨1⟩⟩
    let construction := Request.construct ⟨1⟩ "demo.Cell" [] []
    let invocation := Request.invoke ⟨1⟩ "demo.Cell" "next" [] []
    let calls : List (Call Nat) :=
      [⟨cells 5, construction⟩, ⟨cells 0, invocation⟩, ⟨cells 8, construction⟩]
    let host := ({} : Host Nat).afterCalls calls
    host.instances.find? key = some ⟨"Cell", 6⟩ ∧
      Stems ({} : Host Nat) key calls ⟨"demo.Cell", "Cell"⟩ ∧
      ¬ Mistyped (.ofDeclarations (cells 9)) host invocation := by
  intro cells key construction invocation calls host
  have found : host.instances.find? key = some ⟨"Cell", 6⟩ := by decide +kernel
  have alike : ∀ call ∈ calls, call.declarations.map Declaration.owner =
      [⟨"demo.Cell", "Old"⟩, ⟨"demo.Cell", "Cell"⟩] := by
    intro call member
    simp only [calls, List.mem_cons, List.not_mem_nil, or_false] at member
    rcases member with rfl | rfl | rfl <;> rfl
  obtain ⟨_, provenance, fits⟩ := mismatches_unreachable _ {} calls alike
  obtain ⟨owner, latest, stems, _⟩ := provenance key _ found
  cases latest
  exact ⟨found, stems, (fits (cells 9) rfl invocation).1⟩

end Host

/-- The constructor of one class reserves a key of another class, whose objects have another type. The
method of this class then meets an instance that is not of its type. -/
theorem Session.Stores.reserved_instance_mistyped :
    let reservation : Reservation := ⟨"t", ⟨"demo.Bar", ⟨5⟩⟩⟩
    let plans : List ClassPlan :=
      [⟨⟨"demo.Foo", "A"⟩, [.constructor [] (.reserving reservation)]⟩,
        ⟨⟨"demo.Bar", "B"⟩, [.method "m" [] .echo]⟩]
    let stores := ((({} : Stores).namedTable "t").1.addCatalog plans).1
    let built := (execute ⟨0, 0⟩ stores (.construct ⟨1⟩ "demo.Foo" [] [])).state
    let invoked := execute ⟨0, 0⟩ built (.invoke ⟨5⟩ "demo.Bar" "m" [] [])
    (stores.table 0).entries = [] ∧
      ((built.table 0).find? reservation.key).map Instance.type = some "A" ∧
      invoked.result = some (.refused .typeMismatch) ∧
      invoked.errors = ["Type mismatch: instance is not a demo.Bar"] := by
  decide +kernel

end RemoteObjects
