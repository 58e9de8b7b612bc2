import RemoteObjects.Proofs.Proxy.Callers

namespace RemoteObjects

open Proxy (Pending Task)

namespace BusCaller

variable {η : Type} {execute : Execution η} {caller next : BusCaller η} {errand : Errand}
  {journey : Journey} {earlier : List Request}

/-- No task is under way, and nobody uses the bus. -/
structure Free (caller : BusCaller η) : Prop where
  current : caller.current = none
  entries : caller.traffic.journeys.entries = []

/-- A task is under way, and its sending is the only one on the bus. The registry is as the beginning of
the task left it, and its request is sent after these earlier ones. -/
structure Engaged (caller : BusCaller η) (errand : Errand) (journey : Journey)
    (earlier : List Request) : Prop where
  current : caller.current = some errand
  entries : caller.traffic.journeys.entries = [(errand.id, journey)]
  begun : (errand.task.begin errand.before).result.begun = .sending errand.pending
  registry : (errand.task.begin errand.before).state = caller.registry
  request : journey.request = errand.pending.request
  oneWay : journey.oneWay = errand.pending.oneWay
  limit : journey.limit = errand.task.limit
  unsent : journey.stage = .opened → caller.traffic.requests = earlier
  sent : journey.stage ≠ .opened →
    caller.traffic.requests = earlier ++ [errand.pending.request] ∧ journey.position = earlier.length
  posted : errand.pending.oneWay = true → ∀ result, journey.stage = .ended result → result = .ok none
  patient : errand.task.limit = none → ∀ deadline, journey.stage = .waiting deadline → deadline = none

theorem Engaged.find? (engaged : caller.Engaged errand journey earlier) :
    caller.traffic.journeys.find? errand.id = some journey := by
  simp [Association.find?, engaged.entries, Association.lookup]

/-- A turn of the service and the passing of time leave the caller where it is. -/
theorem Free.keeps (free : caller.Free) (current : next.current = caller.current)
    (journeys : next.traffic.journeys = caller.traffic.journeys) : next.Free :=
  ⟨current.trans free.current, journeys ▸ free.entries⟩

theorem Engaged.keeps (engaged : caller.Engaged errand journey earlier)
    (current : next.current = caller.current) (registry : next.registry = caller.registry)
    (journeys : next.traffic.journeys = caller.traffic.journeys)
    (requests : next.traffic.requests = caller.traffic.requests) :
    next.Engaged errand journey earlier :=
  { engaged with
    current := current.trans engaged.current
    entries := journeys ▸ engaged.entries
    registry := engaged.registry.trans registry.symm
    unsent := requests ▸ engaged.unsent
    sent := requests ▸ engaged.sent }

theorem begin_finished {task : Task} {result : Proxy.Result}
    (begun : (task.begin caller.registry).result.begun = .finished result) :
    caller.begin execute task =
      { caller with
        registry := (task.begin caller.registry).state
        results := caller.results ++ [result] } := by
  simp only [begin, begun]

theorem start_private (execute : Execution η) (host : η) (now : Nat) (registry : Registry)
    (tasks : List Task) :
    (start host now registry tasks).traffic.Private (fun _ => execute) ∧
      (start host now registry tasks).traffic.Served execute host := by
  let opening : Traffic.Move Unit := .start ()
  have inside : ∀ act, opening ≠ .outside act := by simp [opening]
  have hidden := Traffic.Private.initially (fun _ : Unit => execute) host now
  exact ⟨hidden.after inside (by simp [Traffic.requestsOf, opening]),
    (Traffic.Served.initially execute host now).effect (hidden.effect inside)⟩

/-- A task that sends something opens its channel. -/
theorem Free.begin (free : caller.Free) (hidden : caller.traffic.Private fun _ => execute) {task : Task}
    {pending : Pending} (begun : (task.begin caller.registry).result.begun = .sending pending) :
    let send := Traffic.Move.send pending.oneWay task.limit pending.request
    let next := caller.begin execute task
    next.traffic = caller.traffic.after (fun _ => execute) send ∧ next.remaining = caller.remaining ∧
      next.results = caller.results ∧
      ∃ id journey, journey.stage = .opened ∧
        next.Engaged { task, pending, id, before := caller.registry } journey
          caller.traffic.requests := by
  intro send next
  have attached := Bus.attach_open hidden.isOpen (pending.request.filter pending.oneWay)
  have split : next =
      { caller with
        registry := (task.begin caller.registry).state
        traffic := caller.traffic.after (fun _ => execute) send
        current := some {
          task
          pending
          id := caller.traffic.board.bus.nextId
          before := caller.registry } } := by
    simp only [next, BusCaller.begin, begun, attached, send]
  let journey : Journey :=
    { request := pending.request
      oneWay := pending.oneWay
      limit := task.limit
      channel :=
        { id := caller.traffic.board.bus.nextId, filter := pending.request.filter pending.oneWay }
      heard := (caller.traffic.board.sentUnder pending.request.responseTag).length }
  have entries : (caller.traffic.after (fun _ => execute) send).journeys.entries =
      [(caller.traffic.board.bus.nextId, journey)] := by
    simp only [send, Traffic.after, Traffic.send, Medium.attach, attached]
    rw [Association.set, free.entries]
    rfl
  have requests : (caller.traffic.after (fun _ => execute) send).requests =
      caller.traffic.requests := by
    have effect : caller.traffic.Effect _ send _ := hidden.effect (by simp [send])
    rcases hidden.requests_after effect with ⟨-, same⟩ | ⟨_, _, _, proceeds, -⟩
    · exact same
    · simp [send] at proceeds
  rw [split]
  refine ⟨rfl, rfl, rfl, _, journey, rfl, rfl, entries, begun, rfl, rfl, rfl, rfl, fun _ => requests,
    ?_, ?_, ?_⟩
  · simp [journey]
  · simp [journey]
  · simp [journey]

/-- One step of the sending of a task that is not over. -/
theorem Engaged.proceed (engaged : caller.Engaged errand journey earlier)
    (hidden : caller.traffic.Private fun _ => execute) {stage : Sending.Stage}
    (stepped : (caller.traffic.clientStep false journey).2 = some stage) :
    let next := caller.proceed execute
    next =
        { caller with
          traffic := caller.traffic.after (fun _ => execute) (.proceed errand.id false) } ∧
      next.Engaged errand (caller.traffic.moved journey stage) earlier := by
  intro next
  have found := engaged.find?
  have own := (hidden.owning.client found).1
  have tracked := hidden.tracking _ _ found
  have split : next =
      { caller with
        traffic := caller.traffic.after (fun _ => execute) (.proceed errand.id false) } := by
    simp only [next, BusCaller.proceed, engaged.current, found, Option.map_some]
    cases here : journey.stage with
    | ended result => simp [Traffic.clientStep, Sending.step, here] at stepped
    | opened => rfl
    | waiting deadline => rfl
  have entries : next.traffic.journeys.entries =
      [(errand.id, caller.traffic.moved journey stage)] := by
    rw [split]
    simp only [Traffic.after, found, Option.elim_some, Traffic.proceed]
    rcases whole : caller.traffic.clientStep false journey with ⟨board, last⟩
    rw [whole] at stepped
    subst stepped
    simp [Association.set, engaged.entries, own, Association.update]
  have requests : next.traffic.requests =
      caller.traffic.requests ++ if journey.stage = .opened then [journey.request] else [] := by
    rw [split]
    exact hidden.requests_proceed found false
  have length : caller.traffic.board.sentRequests.length = caller.traffic.requests.length := by
    rw [hidden.sent, List.length_map]
  refine ⟨split,
    { engaged with
      current := by rw [split]; exact engaged.current
      entries
      registry := by rw [split]; exact engaged.registry
      unsent := ?unsent
      sent := fun _ => ?sent
      posted := ?posted
      patient := ?patient }⟩
  case unsent =>
    rintro rfl
    exact absurd stepped (Sending.step_ne_opened _ _ _ _)
  case sent =>
    by_cases opened : journey.stage = .opened
    · simp [requests, opened, Traffic.moved, length, engaged.unsent opened, engaged.request]
    · simpa [requests, opened, Traffic.moved] using engaged.sent opened
  case posted =>
    rintro oneWay result rfl
    have posts : journey.oneWay = true := engaged.oneWay.trans oneWay
    cases here : journey.stage with
    | opened =>
        rw [hidden.clientStep_opened here] at stepped
        simpa [Sending.Stage.sent, posts] using stepped.symm
    | waiting deadline => simp [tracked.listens deadline here] at posts
    | ended last => simp [Traffic.clientStep, Sending.step, here] at stepped
  case patient =>
    rintro limit deadline rfl
    cases here : journey.stage with
    | opened =>
        rw [hidden.clientStep_opened here] at stepped
        simp only [Sending.Stage.sent, engaged.limit, limit] at stepped
        split at stepped
        · cases stepped
        · exact (by simpa using stepped.symm)
    | waiting before =>
        simp only [Traffic.clientStep, Sending.step, here, Option.some.injEq] at stepped
        rw [Sending.Stage.deadline_of_looked stepped]
        exact engaged.patient limit before here
    | ended last => simp [Traffic.clientStep, Sending.step, here] at stepped

/-- A sending that is over gives its channel back, and the task returns with its result. -/
theorem Engaged.finishes (engaged : caller.Engaged errand journey earlier)
    (hidden : caller.traffic.Private fun _ => execute)
    {result : Except Transport.Failure (Option Reply)} (ended : journey.stage = .ended result) :
    let traffic := caller.traffic.after (fun _ => execute) (.proceed errand.id false)
    caller.proceed execute =
        { caller with traffic }.finish errand.task errand.pending result ∧
      traffic.journeys.entries = [] ∧ traffic.requests = caller.traffic.requests := by
  intro traffic
  have found := engaged.find?
  have own := (hidden.owning.client found).1
  refine ⟨?_, ?_, ?_⟩
  · simp only [BusCaller.proceed, engaged.current, found, Option.map_some, ended, traffic]
  · simp [traffic, Traffic.after, found, Traffic.proceed, Traffic.clientStep, Sending.step, ended,
      Association.erase, engaged.entries, own]
  · have requests := hidden.requests_proceed found false
    rwa [ended, if_neg (by simp), List.append_nil] at requests

end BusCaller

end RemoteObjects
