import RemoteObjects.Proofs.Traffic.Tracking

namespace RemoteObjects

theorem Request.countP_frame (requests : List Request) (tag : Tag) :
    (requests.map frame).countP (fun frame => frame.tag = tag) =
      requests.countP fun request => request.tag = tag := by
  rw [List.countP_map]
  rfl

/-- Among the replies under its tag that of a request has as many before it as such requests were before
this one. -/
theorem Execution.getElem?_filter_replies {η : Type} (call : Execution η) (host : η)
    {requests : List Request} {place : Nat} {request : Request}
    (found : requests[place]? = some request) :
    ((call.replies host requests).filter fun entry => entry.1.tag = request.tag)[
        (requests.take place).countP fun other => other.tag = request.tag]? =
      some (request, (call (call.after host (requests.take place)) request).result) := by
  have entry := call.getElem?_replies host requests place
  rw [found, Option.map_some] at entry
  have alike := getElem?_filter_of_getElem?
    (fun entry => decide (entry.1.tag = request.tag)) entry (by simp)
  rw [← call.replies_take] at alike
  have count := call.countP_replies host (requests.take place)
    fun other => decide (other.tag = request.tag)
  rwa [count] at alike

namespace Traffic

variable {η : Type} {execute : Execution η} {initial : η} {traffic next : Traffic Unit η}

/-- The frames that the service handled, in order. -/
def handled (traffic : Traffic Unit η) : List Frame :=
  traffic.executed.map Prod.snd

/-- The requests that were sent and not answered: what the service has in its hands and what is queued. -/
def pending (traffic : Traffic Unit η) : List Frame :=
  ((traffic.hand? ()).bind Service.Stage.frame?).toList ++ traffic.board.bus.queue

/-- The queue is known from what was sent and what was taken. -/
theorem queue_eq_of_taken (before : traffic.Owning) (after : next.Owning)
    (requests : next.board.sentRequests = traffic.board.sentRequests)
    (taken : next.board.taken = traffic.board.taken) :
    next.board.bus.queue = traffic.board.bus.queue := by
  have first : traffic.board.taken.map Prod.snd ++ traffic.board.bus.queue =
      traffic.board.sentRequests := before.balanced.requests
  have second : next.board.taken.map Prod.snd ++ next.board.bus.queue =
      next.board.sentRequests := after.balanced.requests
  rw [taken, requests, ← first] at second
  exact List.append_cancel_left second

/-- Nothing becomes pending but the request that is sent. -/
theorem pending_after (before : traffic.Owning) (after : next.Owning) {move : Move Unit}
    (effect : traffic.Effect (fun _ => execute) move next) :
    next.pending ⊆ traffic.pending ∨
      ∃ id journey takesFrame, move = .proceed id takesFrame ∧
        traffic.journeys.find? id = some journey ∧ journey.stage = .opened ∧
        next.pending = traffic.pending ++ [journey.request.frame] := by
  have first : traffic.board.taken.map Prod.snd ++ traffic.board.bus.queue =
      traffic.board.sentRequests := before.balanced.requests
  have second : next.board.taken.map Prod.snd ++ next.board.bus.queue =
      next.board.sentRequests := after.balanced.requests
  cases effect with
  | quiet board hands =>
      refine .inl ?_
      rw [pending, pending, hands, queue_eq_of_taken before after board.requests board.taken]
      exact List.Subset.refl _
  | @sends id journey takesFrame found opened requests _ taken hands _ _ proceeds =>
      refine .inr ⟨id, journey, takesFrame, proceeds, found, opened, ?_⟩
      rw [taken, requests, ← first, List.append_assoc] at second
      rw [pending, pending, hands, List.append_cancel_left second, List.append_assoc]
  | @takes _ channel frame empty queued requests _ taken hands =>
      refine .inl ?_
      rw [taken, requests, ← first, List.map_append, List.append_assoc] at second
      have same := List.append_cancel_left second
      have hand : next.hand? () = some (.holding channel frame) := by
        rw [hands, Function.update_self]
      rw [pending, pending, hand, empty, ← same]
      exact List.Subset.refl _
  | @handles _ channel frame held board hands =>
      refine .inl ?_
      have hand : next.hand? () =
          (Service.handle execute traffic.host frame).result.map (.replying channel frame) := by
        rw [hands, Function.update_self]
      rw [pending, pending, hand, held, board]
      cases (Service.handle execute traffic.host frame).result <;> simp [Service.Stage.frame?]
  | @replies _ channel frame reply held requests _ taken hands =>
      refine .inl ?_
      have hand : next.hand? () = none := by rw [hands, Function.update_self]
      rw [pending, pending, hand, held, queue_eq_of_taken before after requests taken]
      simp [Service.Stage.frame?]

/-- The only service has handled what was taken, but for the frame that it holds, and has published all
answers, but for the one that it is about to publish. -/
structure Served (execute : Execution η) (initial : η) (traffic : Traffic Unit η) : Prop where
  taken : traffic.handled ++ ((traffic.hand? ()).bind Service.Stage.held?).toList =
    traffic.board.taken.map Prod.snd
  host : traffic.host = Service.hostAfter execute initial traffic.handled
  responses : traffic.board.sentResponses ++ ((traffic.hand? ()).bind Service.Stage.reply?).toList =
    (Service.answers execute initial traffic.handled).reduceOption
  last : ∀ channel frame reply, traffic.hand? () = some (.replying channel frame reply) →
    frame ∈ traffic.handled

theorem Served.initially (execute : Execution η) (host : η) (now : Nat) :
    Served execute host { host, now } where
  taken := rfl
  host := rfl
  responses := rfl
  last := by simp [hand?]

theorem Served.effect (served : Served execute initial traffic) {move : Move Unit}
    (effect : traffic.Effect (fun _ => execute) move next) : Served execute initial next := by
  obtain ⟨taken, host, responses, last⟩ := served
  cases effect with
  | quiet board hands same executed =>
      have handled : next.handled = traffic.handled := congrArg (List.map Prod.snd) executed
      exact ⟨by rw [handled, hands, board.taken, taken], by rw [same, host, handled],
        by rw [board.responses, hands, handled, responses], by rwa [hands, handled]⟩
  | sends _ _ _ unsent untaken hands same executed =>
      have handled : next.handled = traffic.handled := congrArg (List.map Prod.snd) executed
      exact ⟨by rw [handled, hands, untaken, taken], by rw [same, host, handled],
        by rw [unsent, hands, handled, responses], by rwa [hands, handled]⟩
  | @takes _ channel frame empty _ _ unsent more hands same executed =>
      have handled : next.handled = traffic.handled := congrArg (List.map Prod.snd) executed
      have hand : next.hand? () = some (.holding channel frame) := by
        rw [hands, Function.update_self]
      rw [empty] at taken responses
      refine ⟨?_, by rw [same, host, handled], ?_, by simp [hand]⟩
      · rw [handled, hand, more, List.map_append, ← taken]
        simp [Service.Stage.held?]
      · rw [unsent, hand, handled, ← responses]
        simp [Service.Stage.reply?]
  | @handles _ channel frame held board hands done executed =>
      have handled : next.handled = traffic.handled ++ [frame] := by
        simp [Traffic.handled, executed]
      have hand : next.hand? () =
          (Service.handle execute traffic.host frame).result.map (.replying channel frame) := by
        rw [hands, Function.update_self]
      rw [held] at taken responses
      refine ⟨?_, ?_, ?_, ?_⟩
      · rw [handled, hand, board, ← taken]
        cases (Service.handle execute traffic.host frame).result <;> simp [Service.Stage.held?]
      · rw [done, handled, host, Service.hostAfter_append]
        rfl
      · rw [handled, Service.answers_concat, List.reduceOption_append, ← responses, ← host, hand, board]
        cases (Service.handle execute traffic.host frame).result <;>
          simp [Service.Stage.reply?, List.reduceOption]
      · intro other found reply replying
        rw [hand, Option.map_eq_some_iff] at replying
        obtain ⟨_, -, same⟩ := replying
        cases same
        simp [handled]
  | @replies _ channel frame reply held _ more untaken hands same executed =>
      have handled : next.handled = traffic.handled := congrArg (List.map Prod.snd) executed
      have hand : next.hand? () = none := by rw [hands, Function.update_self]
      rw [held] at taken responses
      refine ⟨?_, by rw [same, host, handled], ?_, by simp [hand]⟩
      · rw [handled, hand, untaken, ← taken]
        simp [Service.Stage.held?]
      · rw [more, hand, handled, ← responses]
        simp [Service.Stage.reply?]

namespace Served

theorem run (hidden : Private (fun _ => execute) traffic) (served : Served execute initial traffic)
    (moves : List (Move Unit)) (inside : ∀ act, .outside act ∉ moves)
    (fits : ∀ request ∈ requestsOf moves, request.fits = true) :
    Private (fun _ => execute) (traffic.run (fun _ => execute) moves) ∧
      Served execute initial (traffic.run (fun _ => execute) moves) :=
  hidden.run_induction (fun hidden served inside => served.effect (hidden.effect inside)) served moves
    inside fits

variable (served : Served execute initial traffic) (hidden : Private (fun _ => execute) traffic)

include served hidden

/-- The requests that were sent are those that were handled, the one that the service holds, and those
in the queue. -/
theorem sentRequests_eq :
    traffic.board.sentRequests =
      traffic.handled ++ (((traffic.hand? ()).bind Service.Stage.held?).toList ++
        traffic.board.bus.queue) := by
  have balanced : traffic.board.taken.map Prod.snd ++ traffic.board.bus.queue =
      traffic.board.sentRequests := hidden.owning.balanced.requests
  rw [← balanced, ← served.taken, List.append_assoc]

theorem handled_eq :
    traffic.handled = (traffic.requests.take traffic.executed.length).map Request.frame := by
  have count : traffic.handled.length = traffic.executed.length := List.length_map _
  rw [List.map_take, ← hidden.sent, served.sentRequests_eq hidden, ← count, List.take_left]

theorem filterMap_handled :
    traffic.handled.filterMap Frame.request? = traffic.requests.take traffic.executed.length := by
  rw [served.handled_eq hidden]
  exact Request.filterMap_request?_frame fun request member =>
    hidden.fits request (List.mem_of_mem_take member)

theorem host_eq :
    traffic.host =
      execute.guarded.after initial (traffic.requests.take traffic.executed.length) := by
  rw [served.host, Service.hostAfter_eq_after, served.filterMap_handled hidden]

theorem responses_eq :
    traffic.board.sentResponses ++ ((traffic.hand? ()).bind Service.Stage.reply?).toList =
      Service.replyFrames
        (execute.guarded.replies initial (traffic.requests.take traffic.executed.length)) := by
  rw [served.responses, Service.answers_eq_replyFrames, served.filterMap_handled hidden]

/-- What was sent under a response tag are the first replies to the requests under its tag. -/
theorem sentUnder_isPrefix (request : Request) :
    traffic.board.sentUnder request.responseTag <+:
      Service.replyFrames ((execute.guarded.replies initial
        (traffic.requests.take traffic.executed.length)).filter
          fun entry => entry.1.tag = request.tag) := by
  rw [Switchboard.sentUnder_eq_filter request.isRequest_responseTag, ← Service.filter_replyFrames,
    ← served.responses_eq hidden, List.filter_append]
  exact List.prefix_append _ _

/-- A response is the reply to the request that has the same place among those under its tag, and this
one was handled. -/
theorem reply_at (responsive : execute.Responsive) {request : Request} {place : Nat} {frame : Frame}
    (sent : (traffic.board.sentUnder request.responseTag)[place]? = some frame) :
    request.isOneWay = false ∧
      (place < (traffic.requests.take traffic.executed.length).countP
        fun other => other.tag = request.tag) ∧
      ∃ other own, ((execute.guarded.replies initial traffic.requests).filter
          fun entry => entry.1.tag = request.tag)[place]? = some (other, some own) ∧
        frame = Service.replyFrame other own := by
  let replies := execute.guarded.replies initial (traffic.requests.take traffic.executed.length)
  have found := getElem?_of_isPrefix (served.sentUnder_isPrefix hidden request) sent
  have alike (entry : Request × Option Reply)
      (member : entry ∈ replies.filter fun entry => entry.1.tag = request.tag) :
      entry.2.isSome = !request.isOneWay := by
    obtain ⟨known, same⟩ := List.mem_filter.mp member
    rw [responsive.guarded.replies initial _ entry known,
      Request.isOneWay_eq_of_tag_eq (of_decide_eq_true same)]
  cases awaits : request.isOneWay with
  | true =>
      rw [Service.replyFrames_of_unreplied fun entry member => by simp [alike entry member, awaits]]
        at found
      cases found
  | false =>
      obtain ⟨other, own, known, rfl⟩ :=
        (Service.replyFrames_of_replied fun entry member => by simp [alike entry member, awaits]).2
          place frame found
      refine ⟨rfl, ?_, other, own, ?_, rfl⟩
      · have count := execute.guarded.countP_replies initial
          (traffic.requests.take traffic.executed.length) fun other => decide (other.tag = request.tag)
        rw [← count, List.countP_eq_length_filter]
        exact (List.getElem?_eq_some_iff.mp known).1
      · refine getElem?_of_isPrefix ?_ known
        rw [Execution.replies_take]
        exact (List.take_prefix _ _).filter _

/-- What a client got is the reply to the first request under its tag that was not answered when its
channel was opened. -/
theorem replied (responsive : execute.Responsive) {id : Nat} {journey : Journey} {reply : Reply}
    (travels : traffic.journeys.find? id = some journey)
    (ended : journey.stage = .ended (.ok (some reply))) :
    journey.oneWay = false ∧ journey.request.isOneWay = false ∧
      (journey.heard < (traffic.requests.take traffic.executed.length).countP
        fun other => other.tag = journey.request.tag) ∧
      ∃ other given, ((execute.guarded.replies initial traffic.requests).filter
          fun entry => entry.1.tag = journey.request.tag)[journey.heard]? = some (other, some given) ∧
        (given.fits = true → reply = given) := by
  obtain ⟨awaits, frame, found, decoded⟩ :=
    (hidden.tracking id journey travels).replied reply ended
  obtain ⟨replies, answered, other, given, known, rfl⟩ := served.reply_at hidden responsive found
  exact ⟨awaits, replies, answered, other, given, known, fun fits =>
    Except.ok.inj (decoded.symm.trans (Reply.decode_own fits))⟩

end Served

/-- The frame in the hands of a service and the reply that it is about to publish belong together. -/
theorem Served.reply_alike (served : Served execute initial traffic)
    (hidden : Private (fun _ => execute) traffic) {channel : Channel} {frame reply : Frame}
    (hand : traffic.hand? () = some (.replying channel frame reply)) (request : Request) :
    reply.tag = request.responseTag ↔ frame.tag = request.tag := by
  have known := served.last channel frame reply hand
  rw [served.handled_eq hidden, List.mem_map] at known
  obtain ⟨other, member, rfl⟩ := known
  rw [hidden.answering.tag_eq (hidden.fits other (List.mem_of_mem_take member)) hand]
  exact ⟨Tag.response_injective other.isRequest_tag request.isRequest_tag, congrArg Tag.response⟩

/-- Every request under the tag of one that awaits a reply was answered or is pending. -/
theorem Served.count_answered (served : Served execute initial traffic)
    (hidden : Private (fun _ => execute) traffic) (responsive : execute.Responsive)
    {request : Request} (awaits : request.isOneWay = false) :
    (traffic.board.sentUnder request.responseTag).length +
        traffic.pending.countP (fun frame => frame.tag = request.tag) =
      traffic.board.sentRequests.countP fun frame => frame.tag = request.tag := by
  let replies := execute.guarded.replies initial (traffic.requests.take traffic.executed.length)
  have alike (entry : Request × Option Reply)
      (member : entry ∈ replies.filter fun entry => entry.1.tag = request.tag) :
      entry.2.isSome = true := by
    obtain ⟨known, same⟩ := List.mem_filter.mp member
    rw [responsive.guarded.replies initial _ entry known,
      Request.isOneWay_eq_of_tag_eq (of_decide_eq_true same), awaits]
    rfl
  -- Every request that was handled has its reply among the responses or as the next one.
  have replied : (traffic.board.sentUnder request.responseTag).length +
      ((traffic.hand? ()).bind Service.Stage.reply?).toList.countP
        (fun frame => frame.tag = request.responseTag) =
      traffic.handled.countP fun frame => frame.tag = request.tag := by
    have count := congrArg List.length (Service.filter_replyFrames replies request)
    rw [(Service.replyFrames_of_replied alike).1, ← served.responses_eq hidden, List.filter_append,
      ← Switchboard.sentUnder_eq_filter request.isRequest_responseTag, List.length_append,
      ← List.countP_eq_length_filter, ← List.countP_eq_length_filter] at count
    rw [count, served.handled_eq hidden, Request.countP_frame]
    exact execute.guarded.countP_replies initial _ fun other => decide (other.tag = request.tag)
  rw [served.sentRequests_eq hidden, List.countP_append, List.countP_append, ← replied, pending,
    List.countP_append]
  cases hand : traffic.hand? () with
  | none => simp
  | some stage =>
      have busy := (Option.filter_eq_some_iff.mp hand).2
      cases stage with
      | holding channel frame => simp [Service.Stage.frame?, Service.Stage.held?, Service.Stage.reply?]
      | replying channel frame reply =>
          have same := served.reply_alike hidden hand request
          simp [Service.Stage.frame?, Service.Stage.held?, Service.Stage.reply?, List.countP_cons, same]
          omega
      | ready => cases busy
      | looking channel => cases busy
      | leaving channel failure? => cases busy
      | failed failure => cases busy

end Traffic

end RemoteObjects
