import RemoteObjects.Proofs.Host.Separation
import RemoteObjects.Session.Stores

namespace RemoteObjects

/-- The requests that may change the instance under a key. -/
inductive Request.Changes (key : InstanceKey) : Request → Prop
  | invoke (method : String) (types : List ValueType) (arguments : List Value) :
      Changes key (.invoke key.handle key.className method types arguments)
  | write (name : String) (value : Option Value) :
      Changes key (.field key.handle key.className name value .write .object)

/-- The requests that are answered from the instance under a key. -/
inductive Request.Asks (key : InstanceKey) : Request → Prop
  | invoke (method : String) (types : List ValueType) (arguments : List Value) :
      Asks key (.invoke key.handle key.className method types arguments)
  | read (name : String) (value : Option Value) :
      Asks key (.field key.handle key.className name value .read .object)

namespace Host

variable {σ : Type}

/-- A request and the catalog as it is when the request arrives. What the bodies do may depend on
all that happened before. -/
structure Arrival (σ : Type) where
  catalog : Catalog σ
  request : Request

/-- The arrival of a construction that succeeds. -/
inductive Arrival.Builds (key : InstanceKey) (built : Instance σ) : Arrival σ → Prop
  | construct (catalog : Catalog σ) (types : List ValueType) (arguments : List Value)
      (succeeds : (catalog.findConstructor key.className types >>= fun found =>
        found.build arguments) = .ok built) :
      Builds key built ⟨catalog, .construct key.handle key.className types arguments⟩

def receive (host : Host σ) (arrival : Arrival σ) : Step (Host σ) (Option Reply) :=
  execute arrival.catalog host arrival.request

/-- The host after the requests were received one after the other. -/
def afterAll (host : Host σ) (arrivals : List (Arrival σ)) : Host σ :=
  arrivals.foldl (fun host arrival => (host.receive arrival).state) host

variable {host : Host σ} {key : InstanceKey} {arrival : Arrival σ} {target built : Instance σ}

/-- The entry under a key is changed by the requests that are addressed to it, as its life
prescribes. -/
theorem find?_receive (host : Host σ) (arrival : Arrival σ) (key : InstanceKey) :
    (host.receive arrival).state.instances.find? key =
      if arrival.request.target? = some key then
        (arrival.catalog.life (host.instances.find? key) arrival.request).state
      else host.instances.find? key := by
  split
  · rename_i addressed
    exact (host.execute_own arrival.catalog addressed).1
  · rename_i elsewhere
    exact host.execute_other arrival.catalog elsewhere

theorem receive_bound (bound : host.instances.contains key = true)
    (lasting : arrival.request ≠ .finalize key.handle key.className) :
    (host.receive arrival).state.instances.contains key = true := by
  obtain ⟨target, found⟩ := Option.isSome_iff_exists.mp bound
  unfold Association.contains
  rw [find?_receive, found]
  split
  -- Among the requests that are addressed to the key, only its finalization empties the entry.
  · rename_i addressed
    obtain ⟨catalog, request⟩ := arrival
    cases request with
    | construct handle className types arguments => simp [Catalog.life]
    | invoke handle className method types arguments =>
        simp only [Catalog.life]
        split <;> rfl
    | field handle className name value mode scope =>
        cases mode with
        | read => rfl
        | write =>
            simp only [Catalog.life]
            split <;> rfl
    | finalize handle className =>
        cases addressed
        exact absurd rfl lasting
  · rfl

theorem receive_unchanged (found : host.instances.find? key = some target)
    (lasting : arrival.request ≠ .finalize key.handle key.className)
    (unchanging : ¬ arrival.request.Changes key) :
    (host.receive arrival).state.instances.find? key = some target := by
  rw [find?_receive, found]
  split
  · rename_i addressed
    obtain ⟨catalog, request⟩ := arrival
    cases request with
    | construct handle className types arguments => simp [Catalog.life]
    | invoke handle className method types arguments =>
        -- An invocation in the static context is addressed to no entry.
        simp only [Request.target?] at addressed
        split at addressed
        · cases addressed
        · cases addressed
          exact absurd (.invoke ..) unchanging
    | field handle className name value mode scope =>
        cases mode with
        | read => rfl
        | write =>
            cases scope with
            | static => cases addressed
            | object =>
                cases addressed
                exact absurd (.write ..) unchanging
    | finalize handle className =>
        cases addressed
        exact absurd rfl lasting
  · rfl

theorem receive_free (free : host.instances.find? key = none)
    (unbuilt : ∀ built, ¬ arrival.Builds key built) :
    (host.receive arrival).state.instances.find? key = none := by
  rw [find?_receive, free]
  split
  · rename_i addressed
    obtain ⟨catalog, request⟩ := arrival
    cases request with
    | construct handle className types arguments =>
        cases addressed
        simp only [Catalog.life]
        cases attempt : catalog.findConstructor className types >>= fun found =>
          found.build arguments with
        | error failure => rfl
        | ok built => exact absurd (.construct catalog types arguments attempt) (unbuilt built)
    | invoke handle className method types arguments => rfl
    | field handle className name value mode scope => cases mode <;> rfl
    | finalize handle className => rfl
  · rfl

theorem receive_builds (free : host.instances.find? key = none) (builds : arrival.Builds key built) :
    (host.receive arrival).state.instances.find? key = some built := by
  obtain ⟨catalog, types, arguments, succeeds⟩ := builds
  rw [find?_receive, free]
  simp [Request.target?, Catalog.life, succeeds, Except.toOption]

/-- What every single request preserves is preserved by all of them together. -/
theorem afterAll_preserves {arrivals : List (Arrival σ)} (invariant : Host σ → Prop)
    (initially : invariant host)
    (step : ∀ host, invariant host → ∀ arrival ∈ arrivals, invariant (host.receive arrival).state) :
    invariant (host.afterAll arrivals) :=
  List.foldlRecOn arrivals _ initially step

section Run

variable {arrivals : List (Arrival σ)}

theorem afterAll_bound (bound : host.instances.contains key = true)
    (lasting : ∀ arrival ∈ arrivals, arrival.request ≠ .finalize key.handle key.className) :
    (host.afterAll arrivals).instances.contains key = true :=
  afterAll_preserves (fun host => host.instances.contains key = true) bound
    fun _ still arrival member => receive_bound still (lasting arrival member)

theorem afterAll_unchanged (found : host.instances.find? key = some target)
    (lasting : ∀ arrival ∈ arrivals, arrival.request ≠ .finalize key.handle key.className)
    (unchanging : ∀ arrival ∈ arrivals, ¬ arrival.request.Changes key) :
    (host.afterAll arrivals).instances.find? key = some target :=
  afterAll_preserves (fun host => host.instances.find? key = some target) found
    fun _ still arrival member =>
      receive_unchanged still (lasting arrival member) (unchanging arrival member)

theorem afterAll_free (free : host.instances.find? key = none)
    (unbuilt : ∀ arrival ∈ arrivals, ∀ built, ¬ arrival.Builds key built) :
    (host.afterAll arrivals).instances.find? key = none :=
  afterAll_preserves (fun host => host.instances.find? key = none) free
    fun _ still arrival member => receive_free still (unbuilt arrival member)

end Run

theorem execute_asked (catalog : Catalog σ) {request : Request}
    (free : host.instances.find? key = none) (proper : key.handle.isStatic = false)
    (asks : request.Asks key) :
    (execute catalog host request).result = some (.refused .handleNotFound) := by
  have addressed : request.target? = some key := by
    cases asks <;> simp [Request.target?, proper]
  rw [(host.execute_own catalog addressed).2, free]
  cases asks <;> rfl

theorem execute_finalize_frees (catalog : Catalog σ) (host : Host σ) (key : InstanceKey) :
    (execute catalog host (.finalize key.handle key.className)).state.instances.find? key = none :=
  (host.execute_own catalog rfl).1

/-- No constructor is looked for, so it does not matter which ones there are. -/
theorem execute_construct_bound (catalog : Catalog σ) (bound : host.instances.contains key = true)
    (types : List ValueType) (arguments : List Value) :
    execute catalog host (.construct key.handle key.className types arguments) =
      { state := host
        result := none
        events := [.warn "object already exists"
          [("class", key.className), ("handle", key.handle.text)]] } := by
  simp [execute, construct, bound]

end Host

namespace Session.Stores

variable (stores : Stores)

theorem setTable_table (id : Nat) : stores.setTable id (stores.table id) = stores := by
  have same : stores.tables.set id (stores.table id) = stores.tables := by
    by_cases known : id < stores.tables.length
    · have current : stores.table id = stores.tables[id] := by simp [table, known]
      rw [current, List.set_getElem_self]
    · exact List.set_eq_of_length_le (Nat.le_of_not_lt known)
  simp [setTable, same]

theorem setStatics_statics (id : Nat) : stores.setStatics id (stores.statics id) = stores := by
  have same : (stores.catalogs.modify id fun planned =>
      { planned with statics := stores.statics id }) = stores.catalogs := by
    apply List.ext_getElem?
    intro other
    rw [List.getElem?_modify]
    by_cases here : id = other
    · subst here
      cases found : stores.catalogs[id]? <;> simp [statics, found]
    · simp [here]
  simp [setStatics, same]

/-- The constructors of a session may reserve keys of their own choice. A construction under a bound
key reserves none. -/
theorem execute_construct_bound (dispatcher : Dispatcher) {key : InstanceKey}
    (bound : (stores.table dispatcher.table).contains key = true) (types : List ValueType)
    (arguments : List Value) :
    (execute dispatcher stores (.construct key.handle key.className types arguments)).state =
      stores := by
  have prepared : stores.prepare dispatcher (.construct key.handle key.className types arguments) =
      stores := by
    simp [prepare, bound]
  simp only [execute, prepared]
  rw [Host.execute_construct_bound _ bound, setTable_table, setStatics_statics]

end Session.Stores

namespace Host

variable {σ : Type}

/-- A construction that succeeds begins the life of an instance, only its finalization ends it, and in
between only invocations and writes of its fields change it. The bodies may do something else each time
they run, as long as they leave the table to the host. -/
theorem instance_lifetime (host : Host σ) (arrivals : List (Arrival σ)) (key : InstanceKey)
    (proper : key.handle.isStatic = false) :
    let finalization := Request.finalize key.handle key.className
    let construction := Request.construct key.handle key.className
    let lasting := ∀ arrival ∈ arrivals, arrival.request ≠ finalization
    (host.instances.contains key = true → lasting →
        (host.afterAll arrivals).instances.contains key = true) ∧
      (∀ target, host.instances.find? key = some target → lasting →
        (∀ arrival ∈ arrivals, ¬ arrival.request.Changes key) →
          (host.afterAll arrivals).instances.find? key = some target) ∧
      (host.instances.contains key = true → ∀ (catalog other : Catalog σ) types arguments,
        (execute catalog host (construction types arguments)).state = host ∧
          execute catalog host (construction types arguments) =
            execute other host (construction types arguments)) ∧
      (∀ (dispatcher : Session.Dispatcher) (stores : Session.Stores),
        (stores.table dispatcher.table).contains key = true → ∀ types arguments,
          (Session.Stores.execute dispatcher stores (construction types arguments)).state = stores) ∧
      ∀ catalog : Catalog σ, (∀ arrival ∈ arrivals, ∀ built, ¬ arrival.Builds key built) →
        let freed := (execute catalog host finalization).state.afterAll arrivals
        ∀ next : Arrival σ,
          (next.request.Asks key →
            (freed.receive next).result = some (.refused .handleNotFound)) ∧
          ∀ built, next.Builds key built →
            (freed.receive next).state.instances.find? key = some built := by
  intro finalization construction lasting
  refine ⟨afterAll_bound, fun target => afterAll_unchanged, ?_, ?_, ?_⟩
  · intro bound catalog other types arguments
    rw [execute_construct_bound catalog bound, execute_construct_bound other bound]
    exact ⟨rfl, rfl⟩
  · intro dispatcher stores bound
    exact stores.execute_construct_bound dispatcher bound
  · intro catalog unbuilt freed next
    have free : freed.instances.find? key = none :=
      afterAll_free (execute_finalize_frees catalog host key) unbuilt
    exact ⟨execute_asked next.catalog free proper, fun built => receive_builds free⟩

/-- A cell counts from the number that its constructor gets from elsewhere. It is counted on,
constructed in vain while it exists, and released. A construction of it fails and another cell is
constructed, until it is constructed again with another number. -/
theorem instance_lifetime_rebuilt :
    let cells (start : Nat) : Catalog Nat :=
      .ofClasses [.ofMembers ⟨"demo.Cell", "Cell"⟩
        [.constructor [] fun _ => .ok start, .constructor [.i32] fun _ => .error ⟨["no"]⟩,
          .method "next" [] (.object fun count _ => (count + 1, .ok .null))]]
    let key : InstanceKey := ⟨"demo.Cell", ⟨1⟩⟩
    let construction := Request.construct ⟨1⟩ "demo.Cell" [] []
    let invocation := Request.invoke ⟨1⟩ "demo.Cell" "next" [] []
    let host := ({} : Host Nat).afterAll [⟨cells 5, construction⟩, ⟨cells 0, invocation⟩]
    let idle : List (Arrival Nat) :=
      [⟨cells 0, .construct ⟨1⟩ "demo.Cell" [.i32] [.i32 7]⟩,
        ⟨cells 0, .construct ⟨2⟩ "demo.Cell" [] []⟩]
    let freed := (execute (cells 0) host (.finalize ⟨1⟩ "demo.Cell")).state.afterAll idle
    host.instances.find? key = some ⟨"Cell", 6⟩ ∧
      (execute (cells 8) host construction).state = host ∧
      (freed.receive ⟨cells 0, invocation⟩).result = some (.refused .handleNotFound) ∧
      (freed.receive ⟨cells 9, construction⟩).state.instances.find? key = some ⟨"Cell", 9⟩ := by
  intro cells key construction invocation host idle freed
  have bound : host.instances.find? key = some ⟨"Cell", 6⟩ := by decide +kernel
  have unbuilt : ∀ arrival ∈ idle, ∀ built, ¬ arrival.Builds key built := by
    intro arrival member built builds
    obtain ⟨catalog, types, arguments, succeeds⟩ := builds
    rcases List.mem_pair.mp member with same | same
    · cases same
      cases succeeds
    · cases same
  obtain ⟨_, _, duplicate, _, ended⟩ := instance_lifetime host idle key (by decide)
  have contained : host.instances.contains key = true := by simp [Association.contains, bound]
  refine ⟨bound, (duplicate contained (cells 8) (cells 8) [] []).1, ?_, ?_⟩
  · exact (ended (cells 0) unbuilt ⟨cells 0, invocation⟩).1 (.invoke "next" [] [])
  · have builds : Arrival.Builds key ⟨"Cell", 9⟩ ⟨cells 9, construction⟩ :=
      .construct (cells 9) [] [] rfl
    have rebuilt := (ended (cells 0) unbuilt ⟨cells 9, construction⟩).2 ⟨"Cell", 9⟩ builds
    -- Both sides are the same run, which is not to be computed.
    clear_value cells host idle
    exact rebuilt

end Host

/-- A constructor that does not leave the table to its host reserves the key of an instance that was
finalized. An invocation under this key is granted, though no construction under it came after the
finalization. -/
theorem Session.Stores.finalized_key_bound_again :
    let key : InstanceKey := ⟨"demo.Bar", ⟨5⟩⟩
    let plans : List ClassPlan :=
      [⟨⟨"demo.Foo", "A"⟩, [.constructor [] (.reserving ⟨"t", key⟩)]⟩,
        ⟨⟨"demo.Bar", "A"⟩, [.constructor [] (.slots []), .method "m" [] .echo]⟩]
    let stores := ((({} : Stores).namedTable "t").1.addCatalog plans).1
    let built := (execute ⟨0, 0⟩ stores (.construct key.handle key.className [] [])).state
    let freed := (execute ⟨0, 0⟩ built (.finalize key.handle key.className)).state
    let other := (execute ⟨0, 0⟩ freed (.construct ⟨1⟩ "demo.Foo" [] [])).state
    let invocation := Request.invoke key.handle key.className "m" [] []
    (built.table 0).contains key = true ∧ (freed.table 0).contains key = false ∧
      (execute ⟨0, 0⟩ freed invocation).result = some (.refused .handleNotFound) ∧
      (execute ⟨0, 0⟩ other invocation).result = some (.granted (.list [])) := by
  decide +kernel

end RemoteObjects
