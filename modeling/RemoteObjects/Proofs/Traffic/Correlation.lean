import RemoteObjects.Proofs.Traffic.Single

namespace RemoteObjects

namespace Traffic

variable {η : Type} {execute : Execution η} {initial : η} {traffic : Traffic Unit η}

/-- A client that wants a reply opens its channel only while no request under its tag is pending, and a
request is sent only while no other client under its tag is about to send its own. Nobody else uses the
bus. -/
def Orderly (traffic : Traffic Unit η) : Move Unit → Prop
  | .send oneWay _ request =>
      oneWay = false → ∀ frame ∈ traffic.pending, frame.tag ≠ request.tag
  | .proceed id _ =>
      ∀ journey ∈ traffic.journeys.find? id, journey.stage = .opened →
        ∀ other ∈ traffic.journeys.entries, other.1 ≠ id → other.2.oneWay = false →
          other.2.stage = .opened → other.2.request.tag ≠ journey.request.tag
  | .outside _ => False
  | .giveUp _ | .start _ | .serve _ _ | .stop _ | .pass _ => True

instance (traffic : Traffic Unit η) (move : Move Unit) : Decidable (traffic.Orderly move) :=
  match move with
  | .send oneWay _ request =>
      inferInstanceAs (Decidable (oneWay = false → ∀ frame ∈ traffic.pending, frame.tag ≠ request.tag))
  | .proceed id _ =>
      inferInstanceAs (Decidable (∀ journey ∈ traffic.journeys.find? id, journey.stage = .opened →
        ∀ other ∈ traffic.journeys.entries, other.1 ≠ id → other.2.oneWay = false →
          other.2.stage = .opened → other.2.request.tag ≠ journey.request.tag))
  | .outside _ => inferInstanceAs (Decidable False)
  | .giveUp _ | .start _ | .serve _ _ | .stop _ | .pass _ => inferInstanceAs (Decidable True)

/-- Each of the moves is orderly at its moment. -/
def AllOrderly (execute : Execution η) : Traffic Unit η → List (Move Unit) → Prop
  | _, [] => True
  | traffic, move :: moves =>
      traffic.Orderly move ∧ AllOrderly execute (traffic.after (fun _ => execute) move) moves

instance (execute : Execution η) : (traffic : Traffic Unit η) → (moves : List (Move Unit)) →
    Decidable (AllOrderly execute traffic moves)
  | _, [] => inferInstanceAs (Decidable True)
  | traffic, move :: moves =>
      have : Decidable (AllOrderly execute (traffic.after (fun _ => execute) move) moves) :=
        instDecidableAllOrderly execute (traffic.after (fun _ => execute) move) moves
      inferInstanceAs (Decidable (traffic.Orderly move ∧
        AllOrderly execute (traffic.after (fun _ => execute) move) moves))

/-- All requests under its tag that were sent before its own were answered before the client opened its
channel. -/
def Punctual (traffic : Traffic Unit η) : Prop :=
  ∀ id journey, traffic.journeys.find? id = some journey → journey.oneWay = false →
    journey.request.isOneWay = false →
      (journey.stage = .opened → journey.heard =
        traffic.board.sentRequests.countP fun frame => frame.tag = journey.request.tag) ∧
      (journey.stage.hasSent = true → journey.heard =
        (traffic.board.sentRequests.take journey.position).countP
          fun frame => frame.tag = journey.request.tag)

theorem Punctual.after (punctual : traffic.Punctual) (served : Served execute initial traffic)
    (hidden : Private (fun _ => execute) traffic) (responsive : execute.Responsive) {move : Move Unit}
    (orderly : traffic.Orderly move) : (traffic.after (fun _ => execute) move).Punctual := by
  intro id journey travels awaits replies
  have inside : ∀ act, move ≠ .outside act := by
    rintro act rfl
    exact orderly
  have requests := hidden.requests_after (hidden.effect inside)
  have grown : traffic.board.sentRequests <+:
      (traffic.after (fun _ => execute) move).board.sentRequests := by
    rcases requests with ⟨same, -⟩ | ⟨_, _, _, -, -, -, more, -⟩
    · exact same ▸ List.prefix_refl _
    · rw [more]
      exact List.prefix_append _ _
  have first {count : Nat} (within : count ≤ traffic.board.sentRequests.length) :
      (traffic.after (fun _ => execute) move).board.sentRequests.take count =
        traffic.board.sentRequests.take count := by
    obtain ⟨more, split⟩ := grown
    rw [← split, List.take_append_of_le_length within]
  have within {id : Nat} {journey : Journey} (found : traffic.journeys.find? id = some journey)
      (sent : journey.stage.hasSent = true) :
      journey.position ≤ traffic.board.sentRequests.length :=
    Nat.le_of_lt (List.getElem?_eq_some_iff.mp ((hidden.tracking id journey found).own sent)).1
  cases hidden.owning.client_step (fun _ => execute) travels with
  | kept found stays foreign =>
      obtain ⟨opened, sent⟩ := punctual id journey found awaits replies
      refine ⟨fun here => ?_, fun here => ?_⟩
      · rcases requests with ⟨same, -⟩ | ⟨other, mover, takesFrame, rfl, there, starts, more, -⟩
        · rw [same, opened here]
        · have different : id ≠ other := by
            rintro rfl
            exact stays takesFrame rfl
          have unlike := orderly mover there starts (id, journey)
            (Association.mem_entries_of_find? found) different awaits here
          rw [more, List.countP_append, opened here]
          simp [Request.frame, Ne.symm unlike]
      · rw [first (within found here), sent here]
  | @opens oneWay limit request sends isOpen fresh =>
      subst sends fresh
      refine ⟨fun _ => ?_, by simp [Sending.Stage.hasSent]⟩
      have answered : (traffic.board.sentUnder request.responseTag).length +
          traffic.pending.countP (fun frame => frame.tag = request.tag) =
            traffic.board.sentRequests.countP fun frame => frame.tag = request.tag :=
        served.count_answered hidden responsive replies
      have clear : traffic.pending.countP (fun frame => frame.tag = request.tag) = 0 :=
        List.countP_eq_zero.mpr fun frame member => by simpa using orderly awaits frame member
      rcases requests with ⟨same, -⟩ | ⟨_, _, _, proceeds, -⟩
      · rw [same]
        dsimp only
        omega
      · cases proceeds
  | @moves before takesFrame stage proceeds found stepped =>
      subst proceeds
      obtain ⟨opened, sent⟩ := punctual id before found awaits replies
      refine ⟨?_, fun _ => ?_⟩
      · rintro rfl
        exact absurd stepped (Sending.step_ne_opened _ _ _ _)
      · cases here : before.stage with
        | opened =>
            simp only [moved, here, if_true]
            rw [first (Nat.le_refl _), List.take_length, opened here]
        | waiting deadline =>
            have hasSent : before.stage.hasSent = true := by rw [here]; rfl
            simp only [moved, here, reduceCtorEq, if_false]
            rw [first (within found hasSent), sent hasSent]
        | ended result => simp [clientStep, Sending.step, here] at stepped

theorem AllOrderly.run {moves : List (Move Unit)} (orderly : AllOrderly execute traffic moves)
    (responsive : execute.Responsive) (hidden : Private (fun _ => execute) traffic)
    (served : Served execute initial traffic) (punctual : traffic.Punctual)
    (fits : ∀ request ∈ requestsOf moves, request.fits = true) :
    Private (fun _ => execute) (traffic.run (fun _ => execute) moves) ∧
      Served execute initial (traffic.run (fun _ => execute) moves) ∧
      (traffic.run (fun _ => execute) moves).Punctual := by
  induction moves generalizing traffic with
  | nil => exact ⟨hidden, served, punctual⟩
  | cons move moves ih =>
      have inside : ∀ act, move ≠ .outside act := by
        rintro act rfl
        exact orderly.1
      rw [requestsOf_cons, List.forall_mem_append] at fits
      exact ih orderly.2 (hidden.after inside fits.1) (served.effect (hidden.effect inside))
        (punctual.after served hidden responsive orderly.1) fits.2

/-- The first response that a client hears is the reply to its own request, after all requests that were
sent before it. -/
theorem Punctual.own_response (punctual : traffic.Punctual) (served : Served execute initial traffic)
    (hidden : Private (fun _ => execute) traffic) (responsive : execute.Responsive) {id : Nat}
    {journey : Journey} (found : traffic.journeys.find? id = some journey)
    (sent : journey.stage.hasSent = true) (awaits : journey.oneWay = false) {frame : Frame}
    (heard : (traffic.board.sentUnder journey.request.responseTag)[journey.heard]? = some frame) :
    traffic.requests[journey.position]? = some journey.request ∧
      journey.position < traffic.executed.length ∧
      ∃ own, (execute.guarded (execute.guarded.after initial (traffic.requests.take journey.position))
          journey.request).result = some own ∧
        frame.payload = own.encode := by
  have place := hidden.request_at (hidden.writable found) ((hidden.tracking id journey found).own sent)
  obtain ⟨replies, answered, other, given, known, rfl⟩ := served.reply_at hidden responsive heard
  have count := (punctual id journey found awaits replies).2 sent
  rw [hidden.sent, ← List.map_take, Request.countP_frame] at count
  have own := execute.guarded.getElem?_filter_replies initial place
  rw [← count] at own
  have result := (Prod.mk.inj (Option.some.inj (own.symm.trans known))).2
  refine ⟨place, ?_, given, result, rfl⟩
  -- If only requests before its own were handled, those under its tag would be too few.
  refine Nat.lt_of_not_le fun early => ?_
  have fewer : (traffic.requests.take traffic.executed.length).Sublist
      (traffic.requests.take journey.position) := (List.take_prefix_take_left early).sublist
  exact (answered.trans_le fewer.countP_le).ne count

/-- If a client opens its channel only while no request under its tag is pending, and no two clients under
one tag are about to send at once, then the reply that it returns is the one that the host gave to its own
request. Clients, one service and the clock move in any order. -/
theorem reply_answers_own_request {σ : Type} (catalog : Catalog σ) (host : Host σ) (now : Nat)
    (moves : List (Move Unit)) :
    let execute := Host.execute catalog
    let answer := Host.answer catalog
    let start : Traffic Unit (Host σ) := { host, now }
    let traffic := start.run (fun _ => execute) moves
    let count := traffic.executed.length
    AllOrderly execute start moves → (∀ request ∈ requestsOf moves, request.fits = true) →
      ∀ id journey reply, traffic.journeys.find? id = some journey →
        journey.stage = .ended (.ok (some reply)) →
          traffic.board.sentRequests = traffic.requests.map Request.frame ∧
            traffic.requests[journey.position]? = some journey.request ∧
            (∃ own, (answer (answer.after host (traffic.requests.take journey.position))
              journey.request).result = some own ∧ (own.fits = true → own = reply)) ∧
            journey.position < count ∧
            traffic.executed.map Prod.snd = (traffic.requests.take count).map Request.frame ∧
            traffic.host = answer.after host (traffic.requests.take count) ∧
            traffic.board.sentResponses ++ ((traffic.hand? ()).bind Service.Stage.reply?).toList =
              (answer.replies host (traffic.requests.take count)).filterMap fun entry =>
                entry.2.map fun content =>
                  { tag := entry.1.responseTag, payload := content.encode } := by
  intro execute answer start traffic count orderly fits id journey reply found ended
  have responsive := Host.execute_responsive catalog
  obtain ⟨hidden, served, punctual⟩ : Private (fun _ => execute) traffic ∧
      Served execute host traffic ∧ traffic.Punctual :=
    orderly.run responsive (.initially _ host now) (.initially execute host now)
      (by simp [Punctual, start]) fits
  obtain ⟨awaits, frame, heard, decoded⟩ := (hidden.tracking id journey found).replied reply ended
  obtain ⟨place, handled, own, result, payload⟩ := punctual.own_response served hidden responsive found
    (by rw [ended]; rfl) awaits heard
  rw [payload] at decoded
  exact ⟨hidden.sent, place,
    ⟨own, result, fun fits => Except.ok.inj ((Reply.decode_own fits).symm.trans decoded)⟩, handled,
    served.handled_eq hidden, served.host_eq hidden, served.responses_eq hidden⟩

/-- A read times out while nobody serves, and is answered late. A second one is sent behind a write that
waits, and gets what was written. -/
theorem reply_answers_own_request_after_timeout :
    let read := Request.readStaticField "demo.Foo" "count"
    let write := Request.writeStaticField "demo.Foo" "count" (.i32 7)
    let catalog : Catalog Unit :=
      .ofClasses [.ofMembers ⟨"demo.Foo", "Foo"⟩ [.staticField "count" .i32 (.i32 0)]]
    let moves : List (Move Unit) :=
      [.send false (some 5) read, .proceed 1 false, .proceed 1 false, .pass 10, .proceed 1 false,
        .proceed 1 false, .start ()] ++ .replicate 4 (.serve () false) ++
      [.send true none write, .proceed 3 false, .proceed 3 false, .send false none read,
        .proceed 4 false, .proceed 4 false] ++ .replicate 9 (.serve () false) ++ [.proceed 4 false]
    let start : Traffic Unit (Host Unit) := { host := Host.initial catalog }
    let traffic := start.run (fun _ => Host.execute catalog) moves
    AllOrderly (Host.execute catalog) start moves ∧
      (∀ request ∈ requestsOf moves, request.fits = true) ∧
      traffic.requests = [read, write, read] ∧
      ∃ journey, traffic.journeys.find? 4 = some journey ∧ journey.position = 2 ∧
        journey.stage = .ended (.ok (some (.granted (.i32 7)))) ∧
        traffic.requests[journey.position]? = some read ∧
        journey.position < traffic.executed.length := by
  intro read write catalog moves start traffic
  have orderly : AllOrderly (Host.execute catalog) start moves := by decide +kernel
  have fits : ∀ request ∈ requestsOf moves, request.fits = true := by decide +kernel
  have requests : traffic.requests = [read, write, read] := by decide +kernel
  let journey : Journey :=
    { request := read
      oneWay := false
      limit := none
      channel := ⟨4, .exact read.responseTag⟩
      stage := .ended (.ok (some (.granted (.i32 7))))
      heard := 1
      position := 2 }
  have travels : traffic.journeys.find? 4 = some journey := by decide +kernel
  obtain ⟨-, own, -, handled, -⟩ := reply_answers_own_request catalog (Host.initial catalog) 0 moves
    (by decide +kernel) fits 4 journey (.granted (.i32 7)) (by decide +kernel) rfl
  exact ⟨orderly, fits, requests, journey, travels, rfl, rfl, own, handled⟩

/-- It is not enough that no request under the tag is queued and no other client awaits a reply to one:
a service that took such a request answers the next call with it. -/
theorem taken_request_answers_later_call :
    let echo value := Request.invokeStatic "demo.Echo" "echo" [.i32] [.i32 value]
    let catalog : Catalog Unit :=
      .ofClasses [.ofMembers ⟨"demo.Echo", "Echo"⟩
        [.method "echo" [.i32] (.static fun arguments => .ok (.list arguments))]]
    let executions (_ : Unit) := Host.execute catalog
    let opening := run executions { host := Host.initial catalog }
      [.start (), .serve () false, .serve () false, .send false (some 5) (echo 1), .proceed 2 false,
        .serve () true, .proceed 2 false, .pass 10, .proceed 2 false, .proceed 2 false]
    let answered := opening.run executions
      [.send false none (echo 2), .proceed 3 false, .serve () false, .serve () false, .proceed 3 false]
    opening.board.bus.queue = [] ∧
      opening.board.bus.subscriptions.entries = [] ∧
      opening.journeys.entries = [] ∧
      answered.journeys.entries.map (fun entry => (entry.2.request, entry.2.stage)) =
        [(echo 2, .ended (.ok (some (.granted (.list [.i32 1])))))] ∧
      answered.board.bus.queue = [(echo 2).frame] ∧
      ∀ host, ((Host.answer catalog) host (echo 2)).result =
        some (.granted (.list [.i32 2])) := by
  refine ⟨by decide +kernel, by decide +kernel, by decide +kernel, by decide +kernel, by decide +kernel,
    fun host => ?_⟩
  rfl

end Traffic

end RemoteObjects
