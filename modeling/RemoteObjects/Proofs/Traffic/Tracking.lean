import RemoteObjects.Proofs.List
import RemoteObjects.Proofs.Traffic.Effects

namespace RemoteObjects

open Switchboard (Act)

/-- The request was sent without failure. -/
def Sending.Stage.hasSent : Sending.Stage → Bool
  | .waiting _ | .ended (.ok _) => true
  | .opened | .ended (.error _) => false

def Sending.Stage.isEnded : Sending.Stage → Bool
  | .ended _ => true
  | .opened | .waiting _ => false

/-- Until it is over a journey has in its buffer what was sent under its response tag since its channel
was opened. Its request stands where its position says, and its reply is the first of those responses. -/
structure Journey.Tracked (board : Switchboard) (journey : Journey) : Prop where
  early : journey.heard ≤ (board.sentUnder journey.request.responseTag).length
  listens : ∀ deadline, journey.stage = .waiting deadline → journey.oneWay = false
  buffered : journey.oneWay = false → journey.stage.isEnded = false →
    board.bus.subscriptions.find? journey.channel.id =
      some {
        tag := journey.request.responseTag
        buffer := (board.sentUnder journey.request.responseTag).drop journey.heard }
  own : journey.stage.hasSent = true →
    board.sentRequests[journey.position]? = some journey.request.frame
  replied : ∀ reply, journey.stage = .ended (.ok (some reply)) → journey.oneWay = false ∧
    ∃ frame, (board.sentUnder journey.request.responseTag)[journey.heard]? = some frame ∧
      Reply.decode frame.payload = .ok reply

namespace Journey.Tracked

variable {board : Switchboard} {journey : Journey}

/-- Others add to the buffer what they send, and change nothing else that concerns the journey. -/
theorem foreign (tracked : journey.Tracked board) (numbered : board.Numbered)
    (live : journey.channel ∈ board.live) {act : Act}
    (others : act.named? ≠ some journey.channel.id) : journey.Tracked (board.after act) where
  early := tracked.early.trans (board.sentUnder_isPrefix_after act _).length_le
  listens := tracked.listens
  buffered := by
    intro awaits travels
    obtain ⟨more, sent, subscribed⟩ := numbered.buffer_foreign live
      journey.request.isRequest_responseTag others (tracked.buffered awaits travels)
    rw [subscribed, sent, List.drop_append_of_le_length tracked.early]
  own := fun sent =>
    getElem?_of_isPrefix (board.sentRequests_isPrefix_after act) (tracked.own sent)
  replied := by
    intro reply ended
    obtain ⟨awaits, frame, found, decoded⟩ := tracked.replied reply ended
    exact ⟨awaits, frame, getElem?_of_isPrefix (board.sentUnder_isPrefix_after act _) found, decoded⟩

/-- A new journey has heard nothing and sent nothing. -/
theorem opens {oneWay : Bool} {limit : Option Nat} {request : Request} {next : Switchboard}
    (isOpen : board.bus.closed = false) (attached : next = board.attach (request.filter oneWay)) :
    Journey.Tracked next
      { request
        oneWay
        limit
        channel := { id := board.bus.nextId, filter := request.filter oneWay }
        heard := (board.sentUnder request.responseTag).length } := by
  have unsent : next.sentUnder request.responseTag = board.sentUnder request.responseTag := by
    rw [attached, Switchboard.sentUnder_attach]
  refine ⟨by rw [unsent], by simp, ?_, by simp [Sending.Stage.hasSent], by simp⟩
  intro awaits _
  dsimp only at awaits ⊢
  rw [unsent, List.drop_length]
  subst awaits attached
  simp [Switchboard.attach, Bus.attach_open isOpen, Request.filter, Filter.subscribe]

/-- The request takes its place behind all others. -/
theorem publishes (tracked : journey.Tracked board) (unsent : journey.stage = .opened)
    (isOpen : board.bus.closed = false) (now : Nat) :
    Journey.Tracked (board.publish journey.request.frame)
      { journey with stage := .sent now journey.toSending, position := board.sentRequests.length } := by
  have request := journey.request.isRequest_frame
  have response := journey.request.isRequest_responseTag
  have other : journey.request.frame.tag ≠ journey.request.responseTag := by
    intro same
    rw [same, response] at request
    cases request
  have sent : (board.publish journey.request.frame).sentUnder journey.request.responseTag =
      board.sentUnder journey.request.responseTag := by
    simp [Switchboard.sentUnder_publish isOpen, other]
  refine ⟨by simpa [sent] using tracked.early, ?_, ?_, fun _ => ?_, ?_⟩
  · intro deadline waits
    cases oneWay : journey.oneWay with
    | false => rfl
    | true => simp [Sending.Stage.sent, oneWay] at waits
  · intro awaits _
    have subscribed := tracked.buffered awaits (by simp [unsent, Sending.Stage.isEnded])
    rw [sent]
    simpa [Switchboard.publish_of_open isOpen, request, Bus.enqueue] using subscribed
  · simp [Switchboard.sentRequests_publish isOpen, request]
  · intro reply ended
    cases oneWay : journey.oneWay <;> simp [Sending.Stage.sent, oneWay] at ended

/-- A failure ends a journey. -/
theorem fails {next : Switchboard} (tracked : journey.Tracked board)
    (sent : next.sentUnder journey.request.responseTag =
      board.sentUnder journey.request.responseTag)
    (failure : Transport.Failure) (position : Nat) :
    Journey.Tracked next { journey with stage := .ended (.error failure), position } :=
  ⟨by simpa [sent] using tracked.early, by simp, by simp [Sending.Stage.isEnded],
    by simp [Sending.Stage.hasSent], by simp⟩

/-- What a look at these buffered frames tells a journey that waits. -/
theorem looks (tracked : journey.Tracked board) {deadline : Option Nat}
    (waits : journey.stage = .waiting deadline)
    (filter : journey.channel.filter = journey.request.filter journey.oneWay) (now : Nat)
    (look : Bus.Look) :
    Journey.Tracked (board.receive look journey.channel)
      { journey with
        stage := .looked now journey.toSending deadline (board.bus.poll look journey.channel).2 } := by
  have awaits := tracked.listens deadline waits
  have listens : journey.channel.filter = .exact journey.request.responseTag := by
    simp [filter, awaits, Request.filter]
  have subscribed := tracked.buffered awaits (by simp [waits, Sending.Stage.isEnded])
  have own := tracked.own (by simp [waits, Sending.Stage.hasSent])
  have sent := board.sentUnder_receive look journey.channel journey.request.responseTag
  rcases board.bus.poll_listener_cases listens subscribed look with
    ⟨frame, rest, buffered, polled⟩ | ⟨empty, isOpen, polled⟩ | ⟨closed, refused⟩
  · have first : (board.sentUnder journey.request.responseTag)[journey.heard]? = some frame := by
      rw [← List.head?_drop]
      exact congrArg List.head? buffered
    have tag := Switchboard.tag_of_mem_sentUnder (List.mem_of_getElem? first)
    rw [polled]
    simp only [Sending.Stage.looked, tag, if_true]
    refine ⟨by simpa [sent] using tracked.early, by simp, by simp [Sending.Stage.isEnded], ?_, ?_⟩
    · intro _
      rw [Switchboard.sentRequests_receive]
      exact own
    · intro reply ended
      refine ⟨awaits, frame, by rw [sent, first], ?_⟩
      cases decoded : Reply.decode frame.payload with
      | error fault => simp [decoded, Except.mapError, Except.map] at ended
      | ok found => simpa [decoded, Except.mapError, Except.map] using ended
  · rw [polled]
    simp only [Sending.Stage.looked]
    split
    · exact tracked.fails sent _ _
    · refine ⟨by simpa [sent] using tracked.early, fun _ _ => awaits, ?_, ?_, by simp⟩
      · intro _ _
        rw [sent, Switchboard.bus_receive, polled]
        exact subscribed
      · intro _
        rw [Switchboard.sentRequests_receive]
        exact own
  · rw [refused]
    exact tracked.fails sent _ _

end Journey.Tracked

namespace Traffic

variable {ι η : Type} [DecidableEq ι] {traffic : Traffic ι η}

/-- Every journey is tracked. -/
def Tracking (traffic : Traffic ι η) : Prop :=
  ∀ id journey, traffic.journeys.find? id = some journey → journey.Tracked traffic.board

theorem Tracking.after (tracking : traffic.Tracking) (owning : traffic.Owning)
    (executions : ι → Execution η) (move : Move ι) : (traffic.after executions move).Tracking := by
  intro id journey travels
  have board := owning.board_after executions move
  cases owning.client_step executions travels with
  | kept found stays foreign =>
      have tracked := tracking id journey found
      obtain ⟨own, live, -⟩ := owning.client found
      rw [board]
      cases acts : traffic.act? move with
      | none => exact tracked
      | some act => exact tracked.foreign owning.numbered live (own ▸ foreign act acts)
  | opens sends isOpen fresh =>
      subst sends fresh
      exact .opens isOpen board
  | @moves before takesFrame stage proceeds found stepped =>
      subst proceeds
      have tracked := tracking id before found
      obtain ⟨own, live, filter⟩ := owning.client found
      have acts : traffic.act? (.proceed id takesFrame) = some (before.act takesFrame) := by
        simp [act?, found]
      rw [board, acts, Option.elim_some]
      unfold clientStep Sending.step at stepped
      unfold Sending.act moved
      cases here : before.stage with
      | opened =>
          simp only [here, Medium.publish] at stepped
          cases closed : traffic.board.bus.closed with
          | true =>
              rw [Bus.publish_closed closed] at stepped
              cases stepped
              exact tracked.fails (by rw [Switchboard.after, Switchboard.publish_closed closed]) _ _
          | false =>
              have accepted : (traffic.board.bus.publish before.request.frame).result = .ok () :=
                (Bus.publish_request closed before.request.isRequest_frame).2
              rw [accepted] at stepped
              cases stepped
              exact tracked.publishes here closed traffic.now
      | waiting deadline =>
          simp only [here, Medium.poll] at stepped
          cases stepped
          rw [owning.numbered.after_receive live]
          exact tracked.looks here filter traffic.now _
      | ended result => simp [here] at stepped

/-- The requests that were sent. -/
def requests (traffic : Traffic ι η) : List Request :=
  traffic.board.sentRequests.filterMap Frame.request?

/-- The bus is open, nobody but the clients and the services uses it, and all requests can be written. -/
structure Private (executions : ι → Execution η) (traffic : Traffic ι η) : Prop where
  owning : traffic.Owning
  tracking : traffic.Tracking
  answering : Answering executions traffic
  isOpen : traffic.board.bus.closed = false
  writable : ∀ {id journey}, traffic.journeys.find? id = some journey → journey.request.fits = true
  sent : traffic.board.sentRequests = traffic.requests.map Request.frame
  fits : ∀ request ∈ traffic.requests, request.fits = true
  worded : ∀ frame ∈ traffic.board.sentResponses, ∃ reply : Reply, frame.payload = reply.encode

theorem Private.initially (executions : ι → Execution η) (host : η) (now : Nat) :
    Private executions { host, now } where
  owning := owning_run executions host now []
  tracking := by simp [Tracking]
  answering := by simp [Answering]
  isOpen := rfl
  writable := by simp
  sent := rfl
  fits := by simp [requests, Switchboard.sentRequests]
  worded := by simp [Switchboard.sentResponses]

namespace Private

variable {executions : ι → Execution η}

theorem effect (hidden : Private executions traffic) {move : Move ι}
    (inside : ∀ act, move ≠ .outside act) :
    traffic.Effect executions move (traffic.after executions move) :=
  after_effect hidden.owning hidden.isOpen hidden.answering inside

/-- One more request was sent, or none. -/
theorem requests_after (hidden : Private executions traffic) {move : Move ι} {next : Traffic ι η}
    (effect : traffic.Effect executions move next) :
    next.board.sentRequests = traffic.board.sentRequests ∧ next.requests = traffic.requests ∨
      ∃ id journey takesFrame, move = .proceed id takesFrame ∧
        traffic.journeys.find? id = some journey ∧ journey.stage = .opened ∧
        next.board.sentRequests = traffic.board.sentRequests ++ [journey.request.frame] ∧
        next.requests = traffic.requests ++ [journey.request] := by
  have same (kept : next.board.sentRequests = traffic.board.sentRequests) :
      next.board.sentRequests = traffic.board.sentRequests ∧ next.requests = traffic.requests :=
    ⟨kept, by rw [requests, kept, requests]⟩
  cases effect with
  | quiet board => exact .inl (same board.requests)
  | @sends id journey takesFrame found opened sent _ _ _ _ _ proceeds =>
      refine .inr ⟨id, journey, takesFrame, proceeds, found, opened, sent, ?_⟩
      rw [requests, sent, List.filterMap_append, requests]
      simp [Request.request?_frame (hidden.writable found)]
  | takes _ _ kept => exact .inl (same kept)
  | handles _ board => exact .inl (same (by rw [board]))
  | replies _ kept => exact .inl (same kept)

/-- A client sends its request with its first step. -/
theorem requests_proceed (hidden : Private executions traffic) {id : Nat} {journey : Journey}
    (found : traffic.journeys.find? id = some journey) (takesFrame : Bool) :
    (traffic.after executions (.proceed id takesFrame)).requests =
      traffic.requests ++ if journey.stage = .opened then [journey.request] else [] := by
  by_cases opened : journey.stage = .opened
  · have board : (traffic.after executions (.proceed id takesFrame)).board =
        traffic.board.publish journey.request.frame := by
      rw [hidden.owning.board_after]
      simp [act?, found, Sending.act, opened, Switchboard.after]
    rw [requests, board, Switchboard.sentRequests_publish hidden.isOpen,
      journey.request.isRequest_frame, List.filterMap_append, requests]
    simp [opened, Request.request?_frame (hidden.writable found)]
  · have effect : traffic.Effect executions (.proceed id takesFrame) _ := hidden.effect (by simp)
    rcases hidden.requests_after effect with ⟨-, same⟩ | ⟨_, other, _, moves, there, starts, -⟩
    · simp [same, opened]
    · cases moves
      rw [found] at there
      cases there
      exact absurd starts opened

/-- On an open bus no sending fails. -/
theorem clientStep_opened (hidden : Private executions traffic) {journey : Journey}
    (opened : journey.stage = .opened) (takesFrame : Bool) :
    (traffic.clientStep takesFrame journey).2 = some (.sent traffic.now journey.toSending) := by
  have sent := (Bus.publish_request hidden.isOpen journey.request.isRequest_frame).2
  simp only [clientStep, Sending.step, opened, Medium.publish, sent]

/-- What a service is about to publish is a reply. -/
theorem payload_eq (hidden : Private executions traffic) {name : ι} {channel : Channel}
    {frame reply : Frame} (hand : traffic.hand? name = some (.replying channel frame reply)) :
    ∃ content : Reply, reply.payload = content.encode := by
  obtain ⟨host, answered⟩ :=
    hidden.answering name channel frame reply (Option.filter_eq_some_iff.mp hand).1
  cases decodes : frame.request? with
  | none => simp [(Service.handle_undecodable _ host decodes).2] at answered
  | some request =>
      rw [(Service.handle_request _ host decodes).2, Option.map_eq_some_iff] at answered
      obtain ⟨content, -, rfl⟩ := answered
      exact ⟨content, rfl⟩

theorem after (hidden : Private executions traffic) {move : Move ι}
    (inside : ∀ act, move ≠ .outside act)
    (fits : ∀ request ∈ requestsOf [move], request.fits = true) :
    Private executions (traffic.after executions move) where
  owning := hidden.owning.after executions move
  tracking := hidden.tracking.after hidden.owning executions move
  answering := hidden.answering.after hidden.owning move
  isOpen := by
    rw [hidden.owning.board_after]
    cases acts : traffic.act? move with
    | none => exact hidden.isOpen
    | some act =>
        exact (Switchboard.closed_after (Owning.act?_ne_close inside acts)).trans hidden.isOpen
  writable := by
    intro id journey travels
    cases hidden.owning.client_step executions travels with
    | kept found => exact hidden.writable found
    | opens sends =>
        subst sends
        exact fits _ (by simp [requestsOf])
    | @moves before _ _ _ found =>
        exact (hidden.writable found : before.request.fits = true)
  sent := by
    rcases hidden.requests_after (hidden.effect inside) with
      ⟨sent, requests⟩ | ⟨id, journey, _, -, -, -, sent, requests⟩
    · rw [sent, requests, hidden.sent]
    · rw [sent, requests, hidden.sent, List.map_append]
      rfl
  fits := by
    rcases hidden.requests_after (hidden.effect inside) with
      ⟨-, requests⟩ | ⟨id, journey, _, -, found, -, -, requests⟩
    · rw [requests]
      exact hidden.fits
    · rw [requests, List.forall_mem_append]
      exact ⟨hidden.fits, by simpa using hidden.writable found⟩
  worded := by
    cases hidden.effect inside with
    | quiet board => exact board.responses ▸ hidden.worded
    | sends _ _ _ responses => exact responses ▸ hidden.worded
    | takes _ _ _ responses => exact responses ▸ hidden.worded
    | handles _ board => exact board ▸ hidden.worded
    | replies hand _ responses =>
        rw [responses, List.forall_mem_append]
        exact ⟨hidden.worded, by simpa using hidden.payload_eq hand⟩

theorem request_at (hidden : Private executions traffic) {place : Nat} {request : Request}
    (fits : request.fits = true)
    (sent : traffic.board.sentRequests[place]? = some request.frame) :
    traffic.requests[place]? = some request := by
  rw [hidden.sent, List.getElem?_map, Option.map_eq_some_iff] at sent
  obtain ⟨other, found, same⟩ := sent
  have decoded := Request.request?_frame (hidden.fits other (List.mem_of_getElem? found))
  rw [same, Request.request?_frame fits] at decoded
  rw [found, decoded]

/-- On an open bus a client with a response in its buffer is through with its next look. -/
theorem completes (hidden : Private executions traffic) {id : Nat} {journey : Journey}
    {deadline : Option Nat} (found : traffic.journeys.find? id = some journey)
    (waits : journey.stage = .waiting deadline)
    (answered : journey.heard < (traffic.board.sentUnder journey.request.responseTag).length) :
    ∃ (reply : Reply) (later : List Frame),
      traffic.board.bus.subscriptions.find? id =
          some {
            tag := journey.request.responseTag
            buffer := { tag := journey.request.responseTag, payload := reply.encode } :: later } ∧
        (traffic.board.sentUnder journey.request.responseTag)[journey.heard]? =
          some { tag := journey.request.responseTag, payload := reply.encode } ∧
        ∀ takesFrame, (traffic.clientStep takesFrame journey).2 =
          some (.ended (((Reply.decode reply.encode).mapError .faulty).map some)) := by
  have tracked := hidden.tracking id journey found
  obtain ⟨own, live, filter⟩ := hidden.owning.client found
  have awaits := tracked.listens deadline waits
  have subscribed := tracked.buffered awaits (by rw [waits]; rfl)
  obtain ⟨first, later, buffer⟩ :
      ∃ first later, (traffic.board.sentUnder journey.request.responseTag).drop journey.heard =
        first :: later :=
    List.exists_cons_of_length_pos (by rw [List.length_drop]; omega)
  have place : (traffic.board.sentUnder journey.request.responseTag)[journey.heard]? = some first := by
    rw [← List.head?_drop, buffer, List.head?_cons]
  have sent := List.mem_of_getElem? place
  have tag := Switchboard.tag_of_mem_sentUnder sent
  obtain ⟨reply, payload⟩ : ∃ reply : Reply, first.payload = reply.encode := by
    rw [Switchboard.sentUnder_eq_filter journey.request.isRequest_responseTag] at sent
    exact hidden.worded first (List.mem_filter.mp sent).1
  obtain rfl : first = { tag := journey.request.responseTag, payload := reply.encode } := by
    cases first
    simp_all
  rw [buffer, own] at subscribed
  refine ⟨reply, later, subscribed, place, fun takesFrame => ?_⟩
  have polled : (traffic.board.bus.poll (traffic.board.look journey.channel.id takesFrame)
      journey.channel).2 =
        .ready (.ok { tag := journey.request.responseTag, payload := reply.encode }) := by
    have listens : journey.channel.filter = .exact journey.request.responseTag := by
      rw [filter, awaits]
      rfl
    rw [Bus.poll_open hidden.isOpen, Bus.search_listener _ listens, Bus.pollBuffer, own, subscribed]
  simp only [clientStep, Sending.step, waits, Medium.poll, polled]
  simp [Sending.Stage.looked]

/-- A client without a deadline that has no response in its buffer does nothing but wait. -/
theorem waits_on (hidden : Private executions traffic) {id : Nat} {journey : Journey}
    (found : traffic.journeys.find? id = some journey) (waits : journey.stage = .waiting none)
    (early : (traffic.board.sentUnder journey.request.responseTag).length ≤ journey.heard)
    (takesFrame : Bool) :
    (traffic.clientStep takesFrame journey).2 = some (.waiting none) ∧
      traffic.after executions (.proceed id takesFrame) =
        { traffic with
          board := { traffic.board with waiting := Bus.joinLine traffic.board.waiting id } } := by
  have tracked := hidden.tracking id journey found
  obtain ⟨own, -, filter⟩ := hidden.owning.client found
  have awaits := tracked.listens none waits
  have subscribed := tracked.buffered awaits (by rw [waits]; rfl)
  rw [List.drop_eq_nil_of_le early] at subscribed
  have listens : journey.channel.filter = .exact journey.request.responseTag := by
    rw [filter, awaits]
    rfl
  have polled (look : Bus.Look) :
      traffic.board.bus.poll look journey.channel = (traffic.board.bus, .waiting) := by
    rw [Bus.poll_open hidden.isOpen, Bus.search_listener _ listens, Bus.pollBuffer, subscribed]
  have step : traffic.clientStep takesFrame journey =
      ({ traffic.board with waiting := Bus.joinLine traffic.board.waiting id },
        some (.waiting none)) := by
    simp [clientStep, Sending.step, waits, Medium.poll, polled, Switchboard.receive,
      Sending.Stage.looked, RoundTrip.isDue, Sending.trip, own]
  refine ⟨by rw [step], ?_⟩
  have same : traffic.moved journey (.waiting none) = journey := by
    rw [moved, if_neg (by simp [waits]), ← waits]
  simp only [Traffic.after, found, Option.elim_some, Traffic.proceed, step, same, own,
    Association.set_self found]

/-- What the moves of clients and services preserve holds after all of them. -/
theorem run_induction {motive : Traffic ι η → Prop}
    (step : ∀ {traffic : Traffic ι η} {move : Move ι}, Private executions traffic → motive traffic →
      (∀ act, move ≠ .outside act) → motive (traffic.after executions move))
    (hidden : Private executions traffic) (start : motive traffic) (moves : List (Move ι))
    (inside : ∀ act, .outside act ∉ moves)
    (fits : ∀ request ∈ requestsOf moves, request.fits = true) :
    Private executions (traffic.run executions moves) ∧ motive (traffic.run executions moves) := by
  induction moves generalizing traffic with
  | nil => exact ⟨hidden, start⟩
  | cons move moves ih =>
      rw [requestsOf_cons, List.forall_mem_append] at fits
      have here : ∀ act, move ≠ .outside act := fun act same => inside act (by simp [same])
      exact ih (hidden.after here fits.1) (step hidden start here)
        (fun act member => inside act (List.mem_cons_of_mem _ member)) fits.2

end Private

end Traffic

end RemoteObjects
