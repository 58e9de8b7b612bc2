import RemoteObjects.Proofs.Traffic.Single

namespace RemoteObjects

namespace Traffic

variable {η : Type} {traffic : Traffic Unit η}

/-- What is known of a client at every moment after it opened its channel in the earlier traffic. -/
structure Follows (opening : Traffic Unit η) (request : Request) (traffic : Traffic Unit η) : Prop where
  opened : { id := opening.board.bus.nextId, filter := .exact request.responseTag } ∈
    traffic.board.opened
  grown : opening.board.sentRequests <+: traffic.board.sentRequests
  same : ∀ journey, traffic.journeys.find? opening.board.bus.nextId = some journey →
    journey.request = request ∧
      journey.heard = (opening.board.sentUnder request.responseTag).length ∧
      (journey.stage.hasSent = true → opening.board.sentRequests.length ≤ journey.position)

theorem Follows.after {opening : Traffic Unit η} {request : Request}
    (follows : opening.Follows request traffic) (owning : traffic.Owning)
    (executions : Unit → Execution η) (move : Move Unit) :
    opening.Follows request (traffic.after executions move) := by
  have board := owning.board_after executions move
  refine ⟨?_, ?_, ?_⟩
  · rw [board]
    cases traffic.act? move with
    | none => exact follows.opened
    | some act => exact (traffic.board.after_effect act).opened_subset follows.opened
  · rw [board]
    cases traffic.act? move with
    | none => exact follows.grown
    | some act => exact follows.grown.trans (traffic.board.sentRequests_isPrefix_after act)
  · intro journey travels
    cases owning.client_step executions travels with
    | kept found => exact follows.same journey found
    | opens _ _ fresh =>
        have below := owning.numbered.fresh _ follows.opened
        simp only at below
        omega
    | @moves before takesFrame stage proceeds found stepped =>
        obtain ⟨request, heard, position⟩ := follows.same before found
        refine ⟨request, heard, fun _ => ?_⟩
        cases here : before.stage with
        | opened =>
            simp only [moved, here, if_true]
            exact follows.grown.length_le
        | waiting deadline =>
            simp only [moved, here, reduceCtorEq, if_false]
            exact position (by rw [here]; rfl)
        | ended result => simp [clientStep, Sending.step, here] at stepped

theorem Follows.opens {opening : Traffic Unit η} (owning : opening.Owning)
    (isOpen : opening.board.bus.closed = false) (executions : Unit → Execution η)
    (limit : Option Nat) (request : Request) :
    opening.Follows request (opening.after executions (.send false limit request)) where
  opened := by
    have attaches : opening.act? (.send false limit request) = some (.attach (request.filter false)) :=
      rfl
    exact (owning.after executions _).numbered.opened_of_live
      (owning.opened_live executions attaches isOpen)
  grown := by
    rw [owning.board_after]
    exact opening.board.sentRequests_isPrefix_after (.attach (request.filter false))
  same := by
    intro journey travels
    cases owning.client_step executions travels with
    | kept found =>
        obtain ⟨own, live, -⟩ := owning.client found
        have below := owning.numbered.fresh _ (owning.numbered.opened_of_live live)
        omega
    | opens sends =>
        cases sends
        exact ⟨rfl, rfl, by simp [Sending.Stage.hasSent]⟩
    | moves proceeds => cases proceeds

/-- A client gets the reply to the oldest request under its tag that was not answered when its channel was
opened, be it that of a client that has gone long since. Clients, one service and the clock move in any
order. -/
theorem reply_answers_oldest_alike {σ : Type} (catalog : Catalog σ) (host : Host σ) (now : Nat)
    (earlier later : List (Move Unit)) (limit : Option Nat) (request : Request) :
    let executions (_ : Unit) := Host.execute catalog
    let opening := run executions { host, now } earlier
    let traffic := (opening.after executions (.send false limit request)).run executions later
    let alike := ((Host.answer catalog).replies host traffic.requests).filter
      fun entry => entry.1.tag = request.tag
    let oldest := (opening.board.sentUnder request.responseTag).length
    (∀ act, .outside act ∉ earlier ++ later) →
      (∀ other ∈ requestsOf (earlier ++ .send false limit request :: later), other.fits = true) →
      ∀ journey, traffic.journeys.find? opening.board.bus.nextId = some journey →
        journey.stage.hasSent = true →
          let before := traffic.requests.take journey.position
          let own := before.countP fun other => other.tag = request.tag
          (∃ reply, alike[own]? = some (request, reply)) ∧
            (request.isOneWay = false → oldest ≤ own ∧ (oldest = own ↔
              (∀ frame ∈ opening.pending, frame.tag ≠ request.tag) ∧
                ∀ other ∈ before.drop opening.requests.length, other.tag ≠ request.tag)) ∧
            (∀ reply, journey.stage = .ended (.ok (some reply)) → request.isOneWay = false ∧
              ∃ other given, alike[oldest]? = some (other, some given) ∧
                (given.fits = true → reply = given)) ∧
            ∀ deadline, journey.stage = .waiting deadline →
              oldest < (traffic.board.sentUnder request.responseTag).length →
                ∃ other given, alike[oldest]? = some (other, some given) ∧
                  (given.fits = true → ∀ takesFrame, (traffic.clientStep takesFrame journey).2 =
                    some (.ended (.ok (some given)))) := by
  intro executions opening traffic alike oldest inside fits journey travels sent before own
  have responsive := Host.execute_responsive catalog
  have outside : (∀ act, .outside act ∉ earlier) ∧ ∀ act, .outside act ∉ later :=
    ⟨fun act member => inside act (by simp [member]), fun act member => inside act (by simp [member])⟩
  have split : requestsOf (earlier ++ .send false limit request :: later) =
      requestsOf earlier ++ request :: requestsOf later := by
    rw [requestsOf, List.filterMap_append]
    rfl
  rw [split, List.forall_mem_append, List.forall_mem_cons] at fits
  obtain ⟨fitsEarlier, fitsOwn, fitsLater⟩ := fits
  obtain ⟨hidden₀, served₀⟩ : Private executions opening ∧ Served (Host.execute catalog) host opening :=
    (Served.initially (Host.execute catalog) host now).run (.initially _ host now) earlier outside.1
      fitsEarlier
  have here : ∀ act, (.send false limit request : Move Unit) ≠ .outside act := by simp
  obtain ⟨hidden, served, follows⟩ : Private executions traffic ∧
      Served (Host.execute catalog) host traffic ∧ opening.Follows request traffic :=
    (hidden₀.after here (by simpa [requestsOf] using fitsOwn)).run_induction
      (motive := fun traffic => Served (Host.execute catalog) host traffic ∧
        opening.Follows request traffic)
      (fun hidden both inside => ⟨both.1.effect (hidden.effect inside),
        both.2.after hidden.owning executions _⟩)
      ⟨served₀.effect (hidden₀.effect here),
        .opens hidden₀.owning hidden₀.isOpen executions limit request⟩ later outside.2 fitsLater
  obtain ⟨rfl, heard, position⟩ := follows.same journey travels
  have tracked := hidden.tracking _ journey travels
  have place := hidden.request_at (hidden.writable travels) (tracked.own sent)
  have bound : journey.position ≤ traffic.requests.length :=
    Nat.le_of_lt (List.getElem?_eq_some_iff.mp place).1
  refine ⟨?_, ?_, ?_, ?_⟩
  · exact ⟨_, (Host.answer catalog).getElem?_filter_replies host place⟩
  · intro awaits
    have answered := served₀.count_answered hidden₀ responsive awaits
    rw [hidden₀.sent, Request.countP_frame] at answered
    have split : before = opening.requests ++ before.drop opening.requests.length := by
      have grown : opening.requests <+: traffic.requests := follows.grown.filterMap _
      have length : opening.requests.length = opening.board.sentRequests.length := by
        rw [hidden₀.sent, List.length_map]
      have first : opening.requests <+: before :=
        List.prefix_take_iff.mpr ⟨grown, length ▸ position sent⟩
      nth_rewrite 1 [← List.take_append_drop opening.requests.length before]
      rw [← List.prefix_iff_eq_take.mp first]
    have count : own = (opening.requests.countP fun other => decide (other.tag = journey.request.tag)) +
        (before.drop opening.requests.length).countP
          fun other => decide (other.tag = journey.request.tag) := by
      rw [← List.countP_append, ← split]
    have unanswered : (∀ frame ∈ opening.pending, frame.tag ≠ journey.request.tag) ↔
        opening.pending.countP (fun frame => decide (frame.tag = journey.request.tag)) = 0 := by
      simp [List.countP_eq_zero]
    have unsent : (∀ other ∈ before.drop opening.requests.length, other.tag ≠ journey.request.tag) ↔
        (before.drop opening.requests.length).countP
          (fun other => decide (other.tag = journey.request.tag)) = 0 := by
      simp [List.countP_eq_zero]
    rw [unanswered, unsent]
    omega
  · intro reply ended
    obtain ⟨-, awaits, -, other, given, known, same⟩ := served.replied hidden responsive travels ended
    rw [heard] at known
    exact ⟨awaits, other, given, known, same⟩
  · intro deadline waits answered
    obtain ⟨reply, later, -, found, completes⟩ := hidden.completes travels waits (heard ▸ answered)
    obtain ⟨-, -, other, given, known, same⟩ := served.reply_at hidden responsive (heard ▸ found)
    have payload : reply.encode = given.encode := congrArg Frame.payload same
    refine ⟨other, given, known, fun fits takesFrame => ?_⟩
    rw [completes takesFrame, payload, Reply.decode_own fits]
    rfl

/-- A read times out while nobody serves, and a write follows. The next read, sent after the write, is
answered with what the first one found. -/
theorem reply_answers_oldest_alike_stale_read :
    let read := Request.readStaticField "demo.Foo" "count"
    let write := Request.writeStaticField "demo.Foo" "count" (.i32 7)
    let catalog : Catalog Unit :=
      .ofClasses [.ofMembers ⟨"demo.Foo", "Foo"⟩ [.staticField "count" .i32 (.i32 0)]]
    let earlier : List (Move Unit) :=
      [.send false (some 5) read, .proceed 1 false, .proceed 1 false, .pass 10, .proceed 1 false,
        .proceed 1 false, .send true none write, .proceed 2 false, .proceed 2 false]
    let later : List (Move Unit) :=
      [.proceed 3 false, .proceed 3 false, .start (), .serve () false, .serve () false,
        .serve () false, .serve () false]
    let opening := run (fun _ => Host.execute catalog) { host := Host.initial catalog } earlier
    let traffic := (opening.after (fun _ => Host.execute catalog) (.send false none read)).run
      (fun _ => Host.execute catalog) later
    (∀ act, .outside act ∉ earlier ++ later) ∧
      (∀ other ∈ requestsOf (earlier ++ .send false none read :: later), other.fits = true) ∧
      opening.journeys.entries = [] ∧
      opening.pending = [read.frame, write.frame] ∧
      ∃ journey, traffic.journeys.find? opening.board.bus.nextId = some journey ∧
        journey.position = 2 ∧
        ∀ takesFrame, (traffic.clientStep takesFrame journey).2 =
          some (.ended (.ok (some (.granted (.i32 0))))) := by
  intro read write catalog earlier later opening traffic
  have inside : ∀ act, .outside act ∉ earlier ++ later := by simp [earlier, later]
  have fits : ∀ other ∈ requestsOf (earlier ++ .send false none read :: later),
      other.fits = true := by decide +kernel
  let journey : Journey :=
    { request := read
      oneWay := false
      limit := none
      channel := ⟨3, .exact read.responseTag⟩
      stage := .waiting none
      heard := 0
      position := 2 }
  have travels : traffic.journeys.find? opening.board.bus.nextId = some journey := by decide +kernel
  have idle : opening.journeys.entries = [] := by decide +kernel
  have pending : opening.pending = [read.frame, write.frame] := by decide +kernel
  obtain ⟨-, -, -, returns⟩ := reply_answers_oldest_alike catalog (Host.initial catalog) 0 earlier later
    none read inside fits journey (by decide +kernel) rfl
  obtain ⟨other, given, known, completes⟩ := returns none rfl (by decide +kernel)
  have first : some (other, some given) = some (read, some (.granted (.i32 0))) :=
    known.symm.trans (by decide +kernel)
  obtain ⟨rfl, rfl⟩ : other = read ∧ given = .granted (.i32 0) := by simpa using first
  exact ⟨inside, fits, idle, pending, journey, travels, rfl, completes rfl⟩

/-- A client that has one request at a time under way can get the answer to one that it gave up. Its
first call times out before the service looks for the first time, and its second call returns the reply
to the first. -/
theorem late_service_answers_abandoned_call :
    let echo value := Request.invokeStatic "demo.Echo" "echo" [.i32] [.i32 value]
    let catalog : Catalog Unit :=
      .ofClasses [.ofMembers ⟨"demo.Echo", "Echo"⟩
        [.method "echo" [.i32] (.static fun arguments => .ok (.list arguments))]]
    let executions (_ : Unit) := Host.execute catalog
    let calls (traffic : Traffic Unit (Host Unit)) := traffic.journeys.entries.map fun entry =>
      (entry.2.request, entry.2.stage)
    let due := run executions { host := Host.initial catalog }
      [.send false (some 5) (echo 1), .proceed 1 false, .pass 10, .proceed 1 false]
    let idle := due.after executions (.proceed 1 false)
    let answered := idle.run executions
      [.send false (some 5) (echo 2), .proceed 2 false, .start (), .serve () false, .serve () false,
        .serve () false, .serve () false, .proceed 2 false]
    calls due = [(echo 1, .ended (.error .timeout))] ∧
      calls idle = [] ∧
      calls answered = [(echo 2, .ended (.ok (some (.granted (.list [.i32 1])))))] ∧
      ∀ host, ((Host.answer catalog) host (echo 2)).result =
        some (.granted (.list [.i32 2])) := by
  refine ⟨by decide +kernel, by decide +kernel, by decide +kernel, fun host => ?_⟩
  rfl

end Traffic

end RemoteObjects
