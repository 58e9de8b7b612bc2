import RemoteObjects.Proofs.Proxy.Errands
import RemoteObjects.Proofs.Traffic.Progress

namespace RemoteObjects

open Proxy (Pending Result Task)

/-- The most steps that a client has left, with those that its request costs the service. -/
def Journey.unrest (waiting : List Nat) (journey : Journey) : Nat :=
  match journey.stage with
  | .opened => 10
  | .waiting _ => if journey.channel.id ∈ waiting then 2 else 3
  | .ended _ => 1

variable {η : Type} {execute : Execution η} {initial : η}

namespace Traffic

variable {traffic next : Traffic Unit η}

/-- No request that awaits a reply is pending. -/
def Clear (traffic : Traffic Unit η) : Prop :=
  ∀ frame ∈ traffic.pending, ∀ request : Request, request.isOneWay = false → frame.tag ≠ request.tag

/-- What clients that keep to the order and one service preserve on a bus of their own. -/
structure Regular (execute : Execution η) (initial : η) (traffic : Traffic Unit η) : Prop where
  hidden : Private (fun _ => execute) traffic
  served : Served execute initial traffic
  punctual : traffic.Punctual
  attended : traffic.Attended

namespace Regular

variable (regular : Regular execute initial traffic)

include regular

theorem after (responsive : execute.Responsive) {move : Move Unit} (orderly : traffic.Orderly move)
    (fits : ∀ request ∈ requestsOf [move], request.fits = true)
    (attended : (traffic.after (fun _ => execute) move).Attended) :
    Regular execute initial (traffic.after (fun _ => execute) move) := by
  have inside : ∀ act, move ≠ .outside act := by
    rintro act rfl
    exact orderly
  exact ⟨regular.hidden.after inside fits, regular.served.effect (regular.hidden.effect inside),
    regular.punctual.after regular.served regular.hidden responsive orderly, attended⟩

theorem serve (responsive : execute.Responsive) (takesFrame : Bool) :
    let next := traffic.after (fun _ => execute) (.serve () takesFrame)
    Regular execute initial next ∧ traffic.Aside next ∧
      (next.unrest < traffic.unrest ∨ traffic.AtRest ∧ traffic.Still next) := by
  intro next
  obtain ⟨attended, moved⟩ := regular.attended.serve regular.hidden takesFrame
  exact ⟨regular.after responsive trivial (by simp [requestsOf]) attended,
    regular.hidden.aside_serve takesFrame, moved⟩

theorem pass (responsive : execute.Responsive) (duration : Nat) :
    let next := traffic.after (fun _ => execute) (.pass duration)
    Regular execute initial next ∧ traffic.Aside next ∧ traffic.Still next := by
  intro next
  have attended : next.Attended := ⟨regular.attended.serves, regular.attended.alone⟩
  exact ⟨regular.after responsive trivial (by simp [requestsOf]) attended,
    regular.hidden.aside_pass duration, rfl, fun _ => .rfl, fun _ => rfl, rfl, rfl⟩

end Regular

end Traffic

namespace BusCaller

variable {directory : Directory (Execution η)} {direct : DirectCaller η} {caller next : BusCaller η}
  {errand : Errand} {journey : Journey} {earlier : List Request}

/-- Between two tasks both callers have the same registry, and the direct host has executed all requests.
Those that are still pending on the bus are one-way. -/
structure Level (execute : Execution η) (directory : Directory (Execution η)) (initial : η)
    (direct : DirectCaller η) (caller : BusCaller η) : Prop where
  free : caller.Free
  connected : direct.Connected execute.guarded directory
  host : direct.host = execute.guarded.after initial caller.traffic.requests
  registry : caller.registry = direct.registry
  clear : caller.traffic.Clear

/-- In the middle of a task the direct caller has not begun with it. Of the requests that await a reply
only its own may be pending, and the result is that of the direct line. -/
structure Underway (execute : Execution η) (directory : Directory (Execution η)) (initial : η)
    (direct : DirectCaller η) (errand : Errand) (journey : Journey) (earlier : List Request)
    (caller : BusCaller η) : Prop where
  engaged : caller.Engaged errand journey earlier
  connected : direct.Connected execute.guarded directory
  host : direct.host = execute.guarded.after initial earlier
  registry : errand.before = direct.registry
  clear : ∀ frame ∈ caller.traffic.pending, ∀ request : Request, request.isOneWay = false →
    frame.tag = request.tag → journey.stage ≠ .opened ∧ errand.pending.request.tag = request.tag
  ended : ∀ result, journey.stage = .ended result →
    result = direct.line.conclude errand.pending.request errand.pending.oneWay
      (execute.guarded direct.host errand.pending.request).result

theorem Level.aside (level : caller.Level execute directory initial direct) {traffic : Traffic Unit η}
    (aside : caller.traffic.Aside traffic) :
    { caller with traffic }.Level execute directory initial direct :=
  ⟨level.free.keeps rfl aside.journeys, level.connected, aside.requests ▸ level.host, level.registry,
    fun frame member => level.clear frame (aside.pending member)⟩

theorem Underway.aside (underway : caller.Underway execute directory initial direct errand journey earlier)
    {traffic : Traffic Unit η} (aside : caller.traffic.Aside traffic) :
    { caller with traffic }.Underway execute directory initial direct errand journey earlier :=
  { underway with
    engaged := underway.engaged.keeps rfl rfl aside.journeys aside.requests
    clear := fun frame member => underway.clear frame (aside.pending member) }

/-- The most steps that the caller and the service have left. -/
def rank (caller : BusCaller η) : Nat :=
  11 * caller.remaining.length +
    (caller.traffic.journeys.entries.map
      fun entry => entry.2.unrest caller.traffic.board.waiting).sum +
    caller.traffic.unrest

theorem Free.rank_eq (free : caller.Free) :
    caller.rank = 11 * caller.remaining.length + caller.traffic.unrest := by
  simp [rank, free.entries]

theorem Engaged.rank_eq (engaged : caller.Engaged errand journey earlier) :
    caller.rank = 11 * caller.remaining.length + journey.unrest caller.traffic.board.waiting +
      caller.traffic.unrest := by
  simp [rank, engaged.entries]

theorem Engaged.isOneWay_request (engaged : caller.Engaged errand journey earlier) :
    errand.pending.request.isOneWay = errand.pending.oneWay := by
  obtain ⟨handle, shape⟩ := Proxy.begin_sending engaged.begun
  rw [shape]
  exact errand.task.operation.isOneWay_request handle

/-- A task that sends something begins with a channel of its own. -/
theorem Level.begin (level : caller.Level execute directory initial direct)
    (regular : caller.traffic.Regular execute initial) (responsive : execute.Responsive) {task : Task}
    (fits : task.operation.fits = true) {pending : Pending}
    (begun : (task.begin caller.registry).result.begun = .sending pending) :
    let next := caller.begin execute task
    next.traffic.Regular execute initial ∧ next.traffic.unrest = caller.traffic.unrest ∧
      next.remaining = caller.remaining ∧ next.results = caller.results ∧
      ∃ errand journey, errand.task = task ∧ journey.stage = .opened ∧
        next.Underway execute directory initial direct errand journey caller.traffic.requests := by
  intro next
  let send : Traffic.Move Unit := .send pending.oneWay task.limit pending.request
  obtain ⟨traffic, remaining, results, id, journey, opened, engaged⟩ :=
    level.free.begin regular.hidden begun
  obtain ⟨attended, unrest⟩ :=
    regular.attended.send regular.hidden pending.oneWay task.limit pending.request
  obtain ⟨handle, shape⟩ := Proxy.begin_sending begun
  have kind : pending.request.isOneWay = pending.oneWay := engaged.isOneWay_request
  have orderly : caller.traffic.Orderly send := fun awaits frame member =>
    level.clear frame member pending.request (kind.trans awaits)
  have written : ∀ request ∈ Traffic.requestsOf [send], request.fits = true := by
    have own : pending.request.fits = true := by
      rw [shape]
      exact (task.operation.fits_request handle).trans fits
    simpa [Traffic.requestsOf, send] using own
  have less : (caller.traffic.after (fun _ => execute) send).pending ⊆ caller.traffic.pending :=
    regular.hidden.pending_subset (by simp [send]) (by simp [send])
  rw [← traffic] at attended unrest less
  refine ⟨?_, unrest, remaining, results, _, journey, rfl, opened, engaged, level.connected, level.host,
    level.registry, ?_, by simp [opened]⟩
  · rw [traffic] at attended ⊢
    exact regular.after responsive orderly written attended
  · intro frame member request awaits same
    exact absurd same (level.clear frame (less member) request awaits)

namespace Underway

variable (underway : caller.Underway execute directory initial direct errand journey earlier)
  (regular : caller.traffic.Regular execute initial) (responsive : execute.Responsive)

include underway

/-- The direct caller sends the same request and finishes with what the line gives it. -/
theorem call :
    let called := direct.call directory errand.task
    let answered := execute.guarded direct.host errand.pending.request
    let outcome :=
      direct.line.conclude errand.pending.request errand.pending.oneWay answered.result
    let finished := errand.task.finish caller.registry errand.pending outcome
    called.1.registry = finished.state ∧ called.1.host = answered.state ∧
      called.2 = finished.result ∧ called.1.Connected execute.guarded directory := by
  intro called answered outcome finished
  let renewed : DirectCaller η := { direct with registry := caller.registry }
  have sending : called = renewed.send directory errand.task errand.pending := by
    simp only [called, DirectCaller.call, ← underway.registry, underway.engaged.begun,
      underway.engaged.registry, renewed]
  have connected : renewed.Connected execute.guarded directory := underway.connected
  rw [sending]
  exact connected.send errand.task errand.pending

include regular

/-- Before the own request as many were sent under its tag as had been answered when its channel was
opened. -/
theorem count (sent : journey.stage.hasSent = true) (awaits : errand.pending.oneWay = false) :
    (caller.traffic.board.sentRequests.countP fun frame => frame.tag = journey.request.tag) =
      journey.heard + 1 := by
  have engaged := underway.engaged
  have kind : journey.request.isOneWay = false := by
    rw [engaged.request, engaged.isOneWay_request, awaits]
  have opened : journey.stage ≠ .opened := by
    intro opened
    rw [opened] at sent
    cases sent
  obtain ⟨requests, position⟩ := engaged.sent opened
  have heard := (regular.punctual errand.id journey engaged.find? (engaged.oneWay.trans awaits) kind).2
    sent
  rw [heard, regular.hidden.sent, requests, position, ← engaged.request, List.map_append,
    List.take_left' (List.length_map _), List.countP_append]
  simp [Request.frame]

include responsive

/-- Once there is a response, the next look gives the task what the direct line gives. -/
theorem answered (fits : Proxy.resultFits (direct.call directory errand.task).2 = true)
    {deadline : Option Nat} (waits : journey.stage = .waiting deadline)
    (heard : journey.heard <
      (caller.traffic.board.sentUnder journey.request.responseTag).length) :
    (caller.traffic.clientStep false journey).2 =
      some (.ended (direct.line.conclude errand.pending.request errand.pending.oneWay
        (execute.guarded direct.host errand.pending.request).result)) := by
  have engaged := underway.engaged
  have found := engaged.find?
  have awaits := (regular.hidden.tracking _ _ found).listens deadline waits
  have hasSent : journey.stage.hasSent = true := by rw [waits]; rfl
  obtain ⟨reply, later, -, first, looked⟩ := regular.hidden.completes found waits heard
  obtain ⟨-, -, own, result, payload⟩ := regular.punctual.own_response regular.served regular.hidden
    responsive found hasSent awaits first
  obtain ⟨requests, position⟩ := engaged.sent (by simp [waits])
  rw [requests, position, List.take_left, ← underway.host, engaged.request] at result
  have oneWay : errand.pending.oneWay = false := engaged.oneWay.symm.trans awaits
  obtain ⟨-, -, called, -⟩ := underway.call
  rw [looked, result, oneWay]
  rw [result, oneWay] at called
  have ownFits : own.fits = true := by
    obtain ⟨handle, shape⟩ := Proxy.begin_sending engaged.begun
    have awaitsReply : errand.task.operation.action.awaitsReply = true := by
      simpa [shape, Proxy.Operation.pending] using oneWay
    rw [called, shape] at fits
    exact Proxy.reply_fits_of_resultFits awaitsReply fits
  have same : reply.encode = own.encode := payload
  rw [same, Reply.decode_own ownFits]
  rfl

/-- A step of the sending keeps the task under way. -/
theorem moves (proceeds : next = caller.proceed execute) {stage : Sending.Stage}
    (stepped : (caller.traffic.clientStep false journey).2 = some stage)
    (ended : ∀ result, stage = .ended result →
      result = direct.line.conclude errand.pending.request errand.pending.oneWay
        (execute.guarded direct.host errand.pending.request).result) :
    next = { caller with
        traffic := caller.traffic.after (fun _ => execute) (.proceed errand.id false) } ∧
      next.traffic.Regular execute initial ∧
      next.Underway execute directory initial direct errand (caller.traffic.moved journey stage)
        earlier ∧
      next.rank + journey.unrest caller.traffic.board.waiting =
        caller.rank + (caller.traffic.moved journey stage).unrest next.traffic.board.waiting +
          if journey.stage = .opened then 6 else 0 := by
  have found := underway.engaged.find?
  obtain ⟨split, engaged⟩ := underway.engaged.proceed regular.hidden stepped
  rw [← proceeds] at split engaged
  have same : next.traffic = caller.traffic.after (fun _ => execute) (.proceed errand.id false) := by
    rw [split]
  have remaining : next.remaining = caller.remaining := by rw [split]
  obtain ⟨attended, unrest⟩ := regular.attended.proceed regular.hidden found false
  have orderly : caller.traffic.Orderly (.proceed errand.id false) := by
    intro _ _ _ other member apart
    rw [underway.engaged.entries, List.mem_singleton] at member
    exact absurd (congrArg Prod.fst member) apart
  have pending : ∀ frame ∈ next.traffic.pending,
      frame ∈ caller.traffic.pending ∨ frame.tag = errand.pending.request.tag := by
    have effect : caller.traffic.Effect (fun _ => execute) (.proceed errand.id false) _ :=
      regular.hidden.effect (by simp)
    rw [same]
    rcases Traffic.pending_after regular.hidden.owning (regular.hidden.owning.after _ _) effect with
      less | ⟨id, other, _, moves, there, -, more⟩
    · exact fun frame member => .inl (less member)
    · cases moves
      rw [found] at there
      cases there
      intro frame member
      rw [more, List.mem_append, List.mem_singleton] at member
      refine member.imp_right ?_
      rintro rfl
      rw [← underway.engaged.request]
      rfl
  have opened : stage ≠ .opened := by
    rintro rfl
    exact absurd stepped (Sending.step_ne_opened _ _ _ _)
  refine ⟨split, ?_, ⟨engaged, underway.connected, underway.host, underway.registry, ?_, ended⟩, ?_⟩
  · rw [same]
    exact regular.after responsive orderly (by simp [Traffic.requestsOf]) attended
  · intro frame member request awaits alike
    refine ⟨opened, ?_⟩
    rcases pending frame member with before | own
    · exact (underway.clear frame before request awaits alike).2
    · rw [← own, alike]
  · rw [engaged.rank_eq, underway.engaged.rank_eq, remaining]
    rw [← same] at unrest
    omega

/-- A task under way goes on, unless its reply is not there yet and it waits for it already. -/
theorem proceed (proceeds : next = caller.proceed execute) (patient : errand.task.limit = none)
    (fits : Proxy.resultFits (direct.call directory errand.task).2 = true) {stage : Sending.Stage}
    (stepped : (caller.traffic.clientStep false journey).2 = some stage) :
    next.traffic.Regular execute initial ∧ next.remaining = caller.remaining ∧
      next.results = caller.results ∧
      (∃ later, next.Underway execute directory initial direct errand later earlier) ∧
      (next.rank < caller.rank ∨
        next = caller ∧ journey.stage.hasSent = true ∧ errand.pending.oneWay = false ∧
          (caller.traffic.board.sentUnder journey.request.responseTag).length ≤ journey.heard) := by
  have engaged := underway.engaged
  have found := engaged.find?
  cases here : journey.stage with
  | opened =>
      have ended (result : Except Transport.Failure (Option Reply))
          (isEnded : Sending.Stage.sent caller.traffic.now journey.toSending = .ended result) :
          result = direct.line.conclude errand.pending.request errand.pending.oneWay
            (execute.guarded direct.host errand.pending.request).result := by
        cases oneWay : journey.oneWay with
        | false => simp [Sending.Stage.sent, oneWay] at isEnded
        | true =>
            rw [← engaged.oneWay, oneWay]
            simpa [Sending.Stage.sent, oneWay, DirectLine.conclude] using isEnded.symm
      obtain ⟨split, keeps, goesOn, rank⟩ := underway.moves regular responsive proceeds
        (regular.hidden.clientStep_opened here false) ended
      refine ⟨keeps, by rw [split], by rw [split], ⟨_, goesOn⟩, .inl ?_⟩
      have first : journey.unrest caller.traffic.board.waiting = 10 := by
        simp [Journey.unrest, here]
      have second : (caller.traffic.moved journey
          (.sent caller.traffic.now journey.toSending)).unrest next.traffic.board.waiting ≤ 3 := by
        cases oneWay : journey.oneWay with
        | true => simp [Journey.unrest, Traffic.moved, Sending.Stage.sent, oneWay]
        | false =>
            simp only [Journey.unrest, Traffic.moved, Sending.Stage.sent, oneWay, Bool.false_eq_true,
              if_false]
            split <;> omega
      rw [here, if_pos rfl] at rank
      omega
  | waiting deadline =>
      obtain rfl := engaged.patient patient deadline here
      have awaits := (regular.hidden.tracking _ _ found).listens none here
      have unparked : 2 ≤ journey.unrest caller.traffic.board.waiting := by
        simp only [Journey.unrest, here]
        split <;> omega
      by_cases heard : journey.heard <
          (caller.traffic.board.sentUnder journey.request.responseTag).length
      · obtain ⟨split, keeps, goesOn, rank⟩ := underway.moves regular responsive proceeds
          (underway.answered regular responsive fits here heard) (by simp)
        refine ⟨keeps, by rw [split], by rw [split], ⟨_, goesOn⟩, .inl ?_⟩
        rw [here, if_neg (by simp)] at rank
        simp only [Journey.unrest, Traffic.moved] at rank unparked
        omega
      · have early := Nat.le_of_not_lt heard
        obtain ⟨stays, after⟩ := regular.hidden.waits_on found here early false
        obtain ⟨split, keeps, goesOn, rank⟩ := underway.moves regular responsive proceeds stays (by simp)
        refine ⟨keeps, by rw [split], by rw [split], ⟨_, goesOn⟩, ?_⟩
        rw [after] at split
        have own := (regular.hidden.owning.client found).1
        by_cases waits : errand.id ∈ caller.traffic.board.waiting
        · refine .inr ⟨?_, rfl, engaged.oneWay.symm.trans awaits, early⟩
          rw [split, show Bus.joinLine caller.traffic.board.waiting errand.id =
            caller.traffic.board.waiting from if_pos waits]
        · refine .inl ?_
          have parked : errand.id ∈ next.traffic.board.waiting := by
            rw [split]
            simp [Bus.joinLine, waits]
          rw [here, if_neg (by simp)] at rank
          simp only [Journey.unrest, Traffic.moved, here, own, parked, waits, if_true, if_false] at rank
          omega
  | ended result => simp [Traffic.clientStep, Sending.step, here] at stepped

/-- When the reply is there, no request under its tag is pending. -/
theorem clear_of_ended {result : Except Transport.Failure (Option Reply)}
    (ended : journey.stage = .ended result) : caller.traffic.Clear := by
  intro frame member request awaits alike
  have engaged := underway.engaged
  have found := engaged.find?
  obtain ⟨-, own⟩ := underway.clear frame member request awaits alike
  have kind : errand.pending.request.isOneWay = false :=
    (Request.isOneWay_eq_of_tag_eq own).trans awaits
  have oneWay : errand.pending.oneWay = false := engaged.isOneWay_request.symm.trans kind
  obtain ⟨reply, replied⟩ : ∃ reply, result = .ok (some reply) := by
    obtain ⟨reply, given⟩ := responsive.guarded.exists_reply direct.host kind
    refine ⟨reply, ?_⟩
    rw [underway.ended result ended, given, oneWay]
    rfl
  rw [replied] at ended
  obtain ⟨-, response, heard, -⟩ := (regular.hidden.tracking _ _ found).replied reply ended
  have answered := (List.getElem?_eq_some_iff.mp heard).1
  have count := underway.count regular (by rw [ended]; rfl) oneWay
  have kinds : journey.request.isOneWay = false := by rw [engaged.request, kind]
  have balance := regular.served.count_answered regular.hidden responsive kinds
  have some : 0 < caller.traffic.pending.countP fun frame => frame.tag = journey.request.tag :=
    List.countP_pos_iff.mpr ⟨frame, member, by simp [engaged.request, own, alike]⟩
  omega

/-- A task that is over returns as on the direct line. -/
theorem finish (proceeds : next = caller.proceed execute)
    {result : Except Transport.Failure (Option Reply)} (ended : journey.stage = .ended result) :
    next.traffic.Regular execute initial ∧ next.remaining = caller.remaining ∧
      next.results = caller.results ++ [(direct.call directory errand.task).2] ∧
      next.Level execute directory initial (direct.call directory errand.task).1 ∧
      next.rank < caller.rank := by
  have engaged := underway.engaged
  have found := engaged.find?
  obtain ⟨split, entries, requests⟩ := engaged.finishes regular.hidden ended
  rw [← proceeds] at split
  obtain ⟨attended, unrest⟩ := regular.attended.proceed regular.hidden found false
  obtain ⟨registry, host, returned, connected⟩ := underway.call
  rw [← underway.ended result ended] at registry returned
  have less : (caller.traffic.after (fun _ => execute) (.proceed errand.id false)).pending ⊆
      caller.traffic.pending := by
    refine regular.hidden.pending_subset (by simp) ?_
    rintro id other _ moves there
    cases moves
    rw [found] at there
    cases there
    simp [ended]
  have orderly : caller.traffic.Orderly (.proceed errand.id false) := by
    intro other there opened
    rw [found] at there
    cases there
    simp [ended] at opened
  have free : next.Free := by rw [split]; exact ⟨rfl, entries⟩
  have lower : next.rank < caller.rank := by
    have remaining : next.remaining = caller.remaining := by rw [split]; rfl
    have traffic : next.traffic =
        caller.traffic.after (fun _ => execute) (.proceed errand.id false) := by rw [split]; rfl
    have last : journey.unrest caller.traffic.board.waiting = 1 := by simp [Journey.unrest, ended]
    rw [← traffic, ended, if_neg (by simp)] at unrest
    rw [free.rank_eq, engaged.rank_eq, remaining]
    omega
  refine ⟨?_, by rw [split]; rfl, by rw [split, returned]; rfl, ⟨free, connected, ?_, ?_, ?_⟩, lower⟩
  · rw [split]
    exact regular.after responsive orderly (by simp [Traffic.requestsOf]) attended
  · rw [split, host, underway.host, ← Execution.after_concat,
      ← (engaged.sent (by simp [ended])).1, ← requests]
    rfl
  · rw [split]
    exact registry.symm
  · rw [split]
    exact fun frame member => underway.clear_of_ended regular responsive ended frame (less member)

end Underway

/-- The tasks wait without a limit, and what they send and get fits into frames. -/
structure Feasible (directory : Directory (Execution η)) (start : DirectCaller η)
    (tasks : List Task) : Prop where
  patient : ∀ task ∈ tasks, task.limit = none
  fits : ∀ task ∈ tasks, task.operation.fits = true
  results : ∀ result ∈ (start.run directory tasks).2, Proxy.resultFits result = true

/-- The results so far are those of the direct caller for the tasks that are complete. -/
structure Follows (execute : Execution η) (directory : Directory (Execution η)) (initial : η)
    (start : DirectCaller η) (tasks : List Task) (caller : BusCaller η) : Prop where
  regular : caller.traffic.Regular execute initial
  results : ∃ complete, caller.results = (start.run directory complete).2 ∧
    (tasks = complete ++ caller.remaining ∧
        caller.Level execute directory initial (start.run directory complete).1 ∨
      ∃ errand journey earlier, tasks = complete ++ errand.task :: caller.remaining ∧
        caller.Underway execute directory initial (start.run directory complete).1 errand journey
          earlier)

/-- Who has a turn and cannot move: a caller that is done or waits for a reply that was not sent, or a
service that waits for a request. -/
def Stuck (caller : BusCaller η) : Turn → Prop
  | .caller => caller.IsDone ∨
      ∃ id journey, caller.traffic.journeys.find? id = some journey ∧ journey.oneWay = false ∧
        journey.stage.hasSent = true ∧
        (caller.traffic.board.sentUnder journey.request.responseTag).length ≤ journey.heard
  | .service => caller.traffic.AtRest
  | .pass _ => True

/-- Nobody got any further. -/
structure Same (caller next : BusCaller η) : Prop where
  remaining : next.remaining = caller.remaining
  current : next.current = caller.current
  traffic : caller.traffic.Still next.traffic

theorem Same.refl (caller : BusCaller η) : caller.Same caller :=
  ⟨rfl, rfl, .refl _⟩

theorem Same.trans {last : BusCaller η} (first : caller.Same next) (second : next.Same last) :
    caller.Same last :=
  ⟨second.remaining.trans first.remaining, second.current.trans first.current,
    first.traffic.trans second.traffic⟩

theorem Same.isDone (same : caller.Same next) (done : caller.IsDone) : next.IsDone :=
  ⟨same.remaining.trans done.1, same.current.trans done.2⟩

theorem Same.stuck (same : caller.Same next) {turn : Turn} (stuck : caller.Stuck turn) :
    next.Stuck turn := by
  cases turn with
  | caller =>
      refine stuck.imp same.isDone ?_
      rintro ⟨id, journey, found, rest⟩
      exact ⟨id, journey, same.traffic.journeys ▸ found, same.traffic.sent _ ▸ rest⟩
  | service => exact same.traffic.atRest stuck
  | pass duration => trivial

theorem Same.rank_eq (same : caller.Same next) : next.rank = caller.rank := by
  have unrest : Journey.unrest next.traffic.board.waiting =
      Journey.unrest caller.traffic.board.waiting := by
    funext journey
    simp only [Journey.unrest, same.traffic.waiting]
  rw [rank, rank, same.remaining, same.traffic.journeys, same.traffic.unrest_eq, unrest]

section Following

variable {start : DirectCaller η} {tasks : List Task}

/-- What others do does not show in the results. -/
theorem Follows.aside (follows : caller.Follows execute directory initial start tasks)
    {traffic : Traffic Unit η} (regular : traffic.Regular execute initial)
    (aside : caller.traffic.Aside traffic) :
    { caller with traffic }.Follows execute directory initial start tasks ∧
      { caller with traffic }.rank + caller.traffic.unrest = caller.rank + traffic.unrest := by
  obtain ⟨complete, results, ⟨split, level⟩ | ⟨errand, journey, earlier, split, underway⟩⟩ :=
    follows.results
  · refine ⟨⟨regular, complete, results, .inl ⟨split, level.aside aside⟩⟩, ?_⟩
    rw [(level.aside aside).free.rank_eq, level.free.rank_eq]
    dsimp only
    omega
  · have after := underway.aside aside
    refine ⟨⟨regular, complete, results, .inr ⟨errand, journey, earlier, split, after⟩⟩, ?_⟩
    have found := underway.engaged.find?
    have own := (follows.regular.hidden.owning.client found).1
    have same : journey.unrest traffic.board.waiting =
        journey.unrest caller.traffic.board.waiting := by
      simp only [Journey.unrest, own, aside.waiting _ _ found]
    rw [after.engaged.rank_eq, underway.engaged.rank_eq]
    dsimp only
    omega

/-- With one more task complete, both callers are level again. -/
theorem Follows.ofLevel {complete : List Task} {task : Task}
    (regular : next.traffic.Regular execute initial)
    (results : caller.results = (start.run directory complete).2)
    (split : tasks = complete ++ task :: next.remaining)
    (added : next.results = caller.results ++ [((start.run directory complete).1.call directory task).2])
    (level : next.Level execute directory initial
      ((start.run directory complete).1.call directory task).1) :
    next.Follows execute directory initial start tasks := by
  refine ⟨regular, complete ++ [task], ?_, .inl ⟨?_, ?_⟩⟩
  · rw [added, DirectCaller.run_concat, results]
  · rw [split, List.append_assoc]
    rfl
  · rw [DirectCaller.run_concat]
    exact level

/-- A turn of the caller begins, continues or completes a task as the direct caller does, unless it is
stuck. -/
theorem Follows.proceed (follows : caller.Follows execute directory initial start tasks)
    (feasible : Feasible directory start tasks) (responsive : execute.Responsive)
    (proceeds : next = caller.proceed execute) :
    next.Follows execute directory initial start tasks ∧
      (next.rank < caller.rank ∨ next = caller ∧ caller.Stuck .caller) := by
  have regular := follows.regular
  obtain ⟨complete, results, ⟨split, level⟩ | ⟨errand, journey, earlier, split, underway⟩⟩ :=
    follows.results
  · cases rest : caller.remaining with
    | nil =>
        have unmoved : next = caller := by
          simp only [proceeds, BusCaller.proceed, level.free.current, rest]
        rw [unmoved]
        exact ⟨follows, .inr ⟨rfl, .inl ⟨rest, level.free.current⟩⟩⟩
    | cons task remaining =>
        rw [rest] at split
        let renewed : BusCaller η := { caller with remaining }
        have ahead : renewed.Level execute directory initial (start.run directory complete).1 :=
          ⟨⟨level.free.current, level.free.entries⟩, level.connected, level.host, level.registry,
            level.clear⟩
        have begins : next = renewed.begin execute task := by
          simp only [proceeds, BusCaller.proceed, level.free.current, rest, renewed]
        have before : caller.rank = 11 * (remaining.length + 1) + caller.traffic.unrest := by
          rw [level.free.rank_eq, rest, List.length_cons]
        cases begun : (task.begin caller.registry).result.begun with
        | finished result =>
            have called : (start.run directory complete).1.call directory task =
                ({ (start.run directory complete).1 with
                    registry := (task.begin caller.registry).state }, result) := by
              simp only [DirectCaller.call, ← level.registry, begun]
            rw [begin_finished (show (task.begin renewed.registry).result.begun = _ from begun)]
              at begins
            subst begins
            have free : BusCaller.Free { renewed with
                registry := (task.begin renewed.registry).state
                results := renewed.results ++ [result] } :=
              ⟨ahead.free.current, ahead.free.entries⟩
            refine ⟨.ofLevel regular results split (by rw [called]) ?_, .inl ?_⟩
            · rw [called]
              exact ⟨free, level.connected, level.host, rfl, level.clear⟩
            · rw [before, free.rank_eq]
              simp only [renewed]
              omega
        | sending pending =>
            obtain ⟨keeps, unrest, rests, kept, errand, journey, same, opened, underway⟩ :=
              ahead.begin regular responsive (feasible.fits task (by simp [split])) begun
            rw [← begins] at keeps unrest rests kept underway
            subst same
            refine ⟨⟨keeps, complete, kept.trans results, .inr ⟨errand, journey, _, ?_, underway⟩⟩,
              .inl ?_⟩
            · rw [rests, split]
            · rw [before, underway.engaged.rank_eq, rests, unrest]
              simp only [Journey.unrest, opened, renewed]
              omega
  · have member : errand.task ∈ tasks := by simp [split]
    have fits : Proxy.resultFits ((start.run directory complete).1.call directory errand.task).2 =
        true := by
      apply feasible.results
      rw [split, DirectCaller.run_append]
      simp [DirectCaller.run]
    cases stepped : (caller.traffic.clientStep false journey).2 with
    | none =>
        obtain ⟨result, ended⟩ := Sending.ended_of_step stepped
        obtain ⟨keeps, rests, added, level, lower⟩ := underway.finish regular responsive proceeds ended
        exact ⟨.ofLevel keeps results (by rw [rests, split]) added level, .inl lower⟩
    | some stage =>
        obtain ⟨keeps, rests, kept, ⟨later, goesOn⟩, moved⟩ := underway.proceed regular responsive
          proceeds (feasible.patient _ member) fits stepped
        refine ⟨⟨keeps, complete, kept.trans results, .inr ⟨errand, later, earlier, ?_, goesOn⟩⟩,
          moved.imp id ?_⟩
        · rw [rests, split]
        · rintro ⟨unmoved, sent, oneWay, early⟩
          exact ⟨unmoved, .inr ⟨errand.id, journey, underway.engaged.find?,
            underway.engaged.oneWay.trans oneWay, sent, early⟩⟩

theorem Follows.turn (follows : caller.Follows execute directory initial start tasks)
    (feasible : Feasible directory start tasks) (responsive : execute.Responsive) (turn : Turn) :
    (caller.turn execute turn).Follows execute directory initial start tasks ∧
      ((caller.turn execute turn).rank < caller.rank ∨
        caller.Same (caller.turn execute turn) ∧ caller.Stuck turn) := by
  cases turn with
  | caller =>
      obtain ⟨goesOn, moved⟩ := follows.proceed feasible responsive rfl
      refine ⟨goesOn, moved.imp id ?_⟩
      rintro ⟨unmoved, stuck⟩
      exact ⟨by rw [BusCaller.turn, unmoved]; exact .refl _, stuck⟩
  | service =>
      obtain ⟨regular, aside, moved⟩ := follows.regular.serve responsive false
      obtain ⟨goesOn, rank⟩ := follows.aside regular aside
      refine ⟨goesOn, moved.imp (fun lower => ?_) fun rest => ⟨⟨rfl, rfl, rest.2⟩, rest.1⟩⟩
      change BusCaller.rank { caller with
        traffic := caller.traffic.after (fun _ => execute) (.serve () false) } < _
      omega
  | pass duration =>
      obtain ⟨regular, aside, still⟩ := follows.regular.pass responsive duration
      exact ⟨(follows.aside regular aside).1, .inr ⟨⟨rfl, rfl, still⟩, trivial⟩⟩

/-- Along any turns the caller follows the direct caller, and either nobody could move or fewer steps are
left. -/
theorem Follows.run (follows : caller.Follows execute directory initial start tasks)
    (feasible : Feasible directory start tasks) (responsive : execute.Responsive) (turns : List Turn) :
    (caller.run execute turns).Follows execute directory initial start tasks ∧
      ((caller.run execute turns).rank < caller.rank ∨
        caller.Same (caller.run execute turns) ∧
          ∀ turn ∈ turns, (caller.run execute turns).Stuck turn) := by
  induction turns generalizing caller with
  | nil => exact ⟨follows, .inr ⟨.refl caller, by simp⟩⟩
  | cons turn turns ih =>
      obtain ⟨goesOn, moved⟩ := follows.turn feasible responsive turn
      obtain ⟨after, further⟩ := ih goesOn
      refine ⟨after, ?_⟩
      rcases moved with lower | ⟨same, stuck⟩ <;> rcases further with lowered | ⟨later, others⟩
      · exact .inl (lowered.trans lower)
      · exact .inl (later.rank_eq.trans_lt lower)
      · exact .inl (lowered.trans_eq same.rank_eq)
      · refine .inr ⟨same.trans later, ?_⟩
        rw [List.forall_mem_cons]
        exact ⟨later.stuck (same.stuck stuck), others⟩

/-- When neither the caller nor the service can move, all tasks have returned. -/
theorem Follows.done_of_stuck (follows : caller.Follows execute directory initial start tasks)
    (responsive : execute.Responsive) (stuck : caller.Stuck .caller) (rest : caller.Stuck .service) :
    caller.IsDone := by
  rcases stuck with done | ⟨id, journey, found, awaits, sent, early⟩
  · exact done
  · obtain ⟨complete, -, ⟨-, level⟩ | ⟨errand, own, earlier, -, underway⟩⟩ := follows.results
    · simp [Association.find?, level.free.entries, Association.lookup] at found
    · obtain rfl : own = journey := by
        have member := Association.mem_entries_of_find? found
        rw [underway.engaged.entries, List.mem_singleton] at member
        exact (congrArg Prod.snd member).symm
      have oneWay : errand.pending.oneWay = false := underway.engaged.oneWay.symm.trans awaits
      have kind : own.request.isOneWay = false := by
        rw [underway.engaged.request, underway.engaged.isOneWay_request, oneWay]
      have balance := follows.regular.served.count_answered follows.regular.hidden responsive kind
      have count := underway.count follows.regular sent oneWay
      rw [rest.pending_eq_nil, List.countP_nil] at balance
      omega

theorem Follows.rank_of_done (follows : caller.Follows execute directory initial start tasks)
    (done : caller.IsDone) (rest : caller.traffic.AtRest) : caller.rank = 0 := by
  obtain ⟨complete, -, ⟨-, level⟩ | ⟨errand, own, earlier, -, underway⟩⟩ := follows.results
  · rw [level.free.rank_eq, done.1, rest.unrest_eq]
    rfl
  · exact absurd done.2 (by simp [underway.engaged.current])

/-- After enough rounds in which both the caller and the service move, everything is done. -/
theorem Follows.rounds (follows : caller.Follows execute directory initial start tasks)
    (feasible : Feasible directory start tasks) (responsive : execute.Responsive)
    (rounds : List (List Turn)) (fair : ∀ round ∈ rounds, .caller ∈ round ∧ .service ∈ round)
    (enough : caller.rank < rounds.length) :
    (caller.run execute rounds.flatten).IsDone ∧
      (caller.run execute rounds.flatten).traffic.AtRest := by
  induction rounds generalizing caller with
  | nil => simp at enough
  | cons round rounds ih =>
      obtain ⟨calls, serves⟩ := fair round (by simp)
      have split : caller.run execute (round :: rounds).flatten =
          (caller.run execute round).run execute rounds.flatten :=
        List.foldl_append
      rw [split]
      obtain ⟨goesOn, lower | ⟨-, stuck⟩⟩ := follows.run feasible responsive round
      · refine ih goesOn (fun other member => fair other (by simp [member])) ?_
        rw [List.length_cons] at enough
        omega
      · -- Both had a turn and nobody moved, so nobody will move in later rounds either.
        have rest : (caller.run execute round).traffic.AtRest := stuck _ serves
        have done := goesOn.done_of_stuck responsive (stuck _ calls) rest
        rcases (goesOn.run feasible responsive rounds.flatten).2 with lower | ⟨same, -⟩
        · simp [goesOn.rank_of_done done rest] at lower
        · exact ⟨same.isDone done, same.traffic.atRest rest⟩

/-- A caller that is done has the results and the registry of the direct caller, and once the service is
at rest so has its host. -/
theorem Follows.agree (follows : caller.Follows execute directory initial start tasks) :
    caller.results <+: (start.run directory tasks).2 ∧
      (caller.IsDone →
        caller.results = (start.run directory tasks).2 ∧
        caller.registry = (start.run directory tasks).1.registry ∧
        (caller.traffic.AtRest → caller.traffic.host = (start.run directory tasks).1.host)) := by
  obtain ⟨complete, results, ⟨split, level⟩ | ⟨errand, own, earlier, split, underway⟩⟩ :=
    follows.results
  · constructor
    · rw [split, DirectCaller.run_append, results]
      exact List.prefix_append _ _
    · intro done
      rw [done.1, List.append_nil] at split
      subst split
      exact ⟨results, level.registry, fun rest =>
        (rest.idle.host_eq follows.regular.served follows.regular.hidden).trans level.host.symm⟩
  · constructor
    · rw [split, DirectCaller.run_append, results]
      exact List.prefix_append _ _
    · intro done
      exact absurd done.2 (by simp [underway.engaged.current])

end Following

theorem follows_start {endpointName : String}
    (bound : directory.find? endpointName = some execute.guarded) (registry : Registry) (now : Nat)
    (tasks : List Task) :
    (BusCaller.start initial now registry tasks).Follows execute directory initial
      { registry, line := { endpointName }, host := initial } tasks := by
  obtain ⟨hidden, served⟩ := start_private execute initial now registry tasks
  have punctual : (BusCaller.start initial now registry tasks).traffic.Punctual := by
    intro id journey travels
    cases travels
  have regular : (BusCaller.start initial now registry tasks).traffic.Regular execute initial :=
    ⟨hidden, served, punctual, ⟨.ready, rfl, rfl⟩, .inl rfl⟩
  have clear : (BusCaller.start initial now registry tasks).traffic.Clear := by
    intro frame member
    cases member
  exact ⟨regular, [], rfl, .inl ⟨rfl, ⟨rfl, rfl⟩, DirectCaller.connected_of_find? bound registry initial,
    rfl, rfl, clear⟩⟩

/-- Before the first turn the service has to open a channel and to look. -/
theorem rank_start (host : η) (now : Nat) (registry : Registry) (tasks : List Task) :
    (BusCaller.start host now registry tasks).rank = 11 * tasks.length + 2 := rfl

/-- Tasks without a time limit, each under its own policy, give the same results over a direct line and
over a bus with one service, however the caller, the service and the clock take turns. If both keep taking
turns, all tasks return and the hosts become equal. -/
theorem lines_interchangeable {σ : Type} (catalog : Catalog σ) (endpointName : String)
    (directory : Directory (Execution (Host σ)))
    (bound : directory.find? endpointName = some (Host.answer catalog)) (registry : Registry)
    (host : Host σ) (now : Nat) (tasks : List Task) :
    let execute := Host.execute catalog
    let direct : DirectCaller (Host σ) × List Result :=
      DirectCaller.run directory { registry, line := { endpointName }, host } tasks
    let start := BusCaller.start host now registry tasks
    (∀ task ∈ tasks, task.limit = none ∧ task.operation.fits = true) →
    (∀ result ∈ direct.2, Proxy.resultFits result = true) →
      (∀ turns,
        let caller := start.run execute turns
        caller.results <+: direct.2 ∧
          (caller.IsDone →
            caller.results = direct.2 ∧ caller.registry = direct.1.registry ∧
            (caller.traffic.AtRest →
              caller.traffic.host.instances = direct.1.host.instances ∧
              caller.traffic.host.statics = direct.1.host.statics))) ∧
      ∀ rounds : List (List Turn),
        (∀ round ∈ rounds, .caller ∈ round ∧ .service ∈ round) →
        11 * tasks.length + 2 < rounds.length →
        (start.run execute rounds.flatten).IsDone ∧
          (start.run execute rounds.flatten).traffic.AtRest := by
  intro execute direct start plain resultsFit
  have responsive := Host.execute_responsive catalog
  have feasible : Feasible directory { registry, line := { endpointName }, host } tasks :=
    ⟨fun task member => (plain task member).1, fun task member => (plain task member).2, resultsFit⟩
  have follows : start.Follows execute directory host { registry, line := { endpointName }, host } tasks :=
    follows_start bound registry now tasks
  constructor
  · intro turns caller
    obtain ⟨begins, done⟩ := (follows.run feasible responsive turns).1.agree
    refine ⟨begins, fun returned => ?_⟩
    obtain ⟨results, registries, hosts⟩ := done returned
    refine ⟨results, registries, fun rest => ?_⟩
    have same : caller.traffic.host = direct.1.host := hosts rest
    rw [same]
    exact ⟨rfl, rfl⟩
  · intro rounds fair enough
    rw [← rank_start host now registry tasks] at enough
    exact follows.rounds feasible responsive rounds fair enough

/-- The policy of one proxy forbids a write that that of the other would allow. The other write is still
pending when the read is sent, and a method that does not exist is refused. -/
theorem lines_interchangeable_mixed :
    let catalog : Catalog Unit :=
      .ofClasses [.ofMembers ⟨"demo.Foo", "Foo"⟩
        [.constructor [] fun _ => .ok (), .staticField "count" .i32 (.i32 0)]]
    let readers : Policy := fun kind _ => kind ≠ .writeField
    let writers : Policy := fun _ _ => true
    let tasks : List Task :=
      [⟨writers, "first", none, "demo.Foo", .construct "first" [] []⟩,
        ⟨writers, "first", none, "demo.Foo", .writeStaticField "count" (.i32 7)⟩,
        ⟨readers, "second", none, "demo.Foo", .writeStaticField "count" (.i32 9)⟩,
        ⟨readers, "second", none, "demo.Foo", .readStaticField "count"⟩,
        ⟨writers, "first", none, "demo.Foo", .invoke (some "first") "missing" [] []⟩]
    let results : List Result :=
      [.ok (.handle ⟨1⟩), .ok .done, .error (.permissionDenied .writeField "demo.Foo"),
        .ok (.value (.i32 7)), .error (.remote .memberNotFound)]
    let start := BusCaller.start (Host.initial catalog) 0 {} tasks
    let caller := start.run (Host.execute catalog)
      (List.replicate 58 [Turn.caller, Turn.pass 3, Turn.service]).flatten
    caller.results = results ∧ caller.IsDone ∧ caller.traffic.AtRest := by
  intro catalog readers writers tasks results start caller
  let directory : Directory (Execution (Host Unit)) := ⟨[("foo", Host.answer catalog)]⟩
  have direct : (DirectCaller.run directory
      { line := { endpointName := "foo" }, host := Host.initial catalog } tasks).2 = results := by
    decide +kernel
  have plain : ∀ task ∈ tasks, task.limit = none ∧ task.operation.fits = true := by decide +kernel
  have resultsFit : ∀ result ∈ results, Proxy.resultFits result = true := by decide +kernel
  obtain ⟨agree, reached⟩ := lines_interchangeable catalog "foo" directory rfl {}
    (Host.initial catalog) 0 tasks plain (direct ▸ resultsFit)
  obtain ⟨done, rest⟩ := reached (List.replicate 58 [.caller, .pass 3, .service])
    (fun round member => by rw [List.eq_of_mem_replicate member]; simp) (by decide)
  exact ⟨((agree _).2 done).1.trans direct, done, rest⟩

end BusCaller

end RemoteObjects
