import Mathlib.Data.List.Induction
import RemoteObjects.Proofs.Bus.Switchboard

namespace RemoteObjects

namespace Bus

theorem mem_joinLine {line : List Nat} {id other : Nat} :
    other ∈ joinLine line id ↔ other ∈ line ∨ other = id := by
  unfold joinLine
  split
  · constructor
    · exact .inl
    · rintro (old | rfl) <;> assumption
  · simp

theorem nodup_joinLine {line : List Nat} (nodup : line.Nodup) (id : Nat) :
    (joinLine line id).Nodup := by
  unfold joinLine
  split
  · exact nodup
  · next absent => exact List.nodup_append.mpr ⟨nodup, List.nodup_singleton id, by grind⟩

theorem Subscription.mem_receive {frame other : Frame} {subscription : Subscription}
    (member : other ∈ (Subscription.receive frame subscription).buffer) :
    other ∈ subscription.buffer ∨ other = frame := by
  unfold Subscription.receive at member
  split at member
  · simpa using member
  · exact .inl member

end Bus

namespace Switchboard

variable {board : Switchboard}

/-- What the readers took, with what is queued, is what was sent as requests; and requests and responses
never meet, neither in a buffer nor at a channel. -/
structure Balanced (board : Switchboard) : Prop where
  requests :
    (board.journal.filterMap Entry.taken?).map Prod.snd ++ board.bus.queue =
      board.journal.filterMap Entry.sentRequest?
  responses : ∀ {id subscription}, board.bus.subscriptions.find? id = some subscription →
    ∀ frame ∈ subscription.buffer, frame.tag.isRequest = false
  apart : ∀ {channel frame}, .received channel frame ∈ board.journal →
    (channel.filter = .requests ↔ frame.tag.isRequest = true)

theorem balanced_empty : Balanced {} where
  requests := rfl
  responses := by simp
  apart := by simp

theorem Balanced.isRequest_of_queued (balanced : board.Balanced) {frame : Frame}
    (queued : frame ∈ board.bus.queue) : frame.tag.isRequest = true := by
  have sent : frame ∈ board.journal.filterMap Entry.sentRequest? := by
    rw [← balanced.requests]
    exact List.mem_append_right _ queued
  obtain ⟨entry, -, isSent⟩ := List.mem_filterMap.mp sent
  exact (Entry.sentRequest?_eq_some_iff.mp isSent).2

theorem Balanced.apart_concat (balanced : board.Balanced) {channel : Channel} {frame : Frame}
    (suits : channel.filter = .requests ↔ frame.tag.isRequest = true) {other : Channel}
    {found : Frame} (received : .received other found ∈ board.journal ++ [.received channel frame]) :
    other.filter = .requests ↔ found.tag.isRequest = true := by
  rcases List.mem_append.mp received with before | now
  · exact balanced.apart before
  · obtain ⟨rfl, rfl⟩ : other = channel ∧ found = frame := by simpa using now
    exact suits

theorem Balanced.effect {next : Switchboard} (balanced : board.Balanced)
    (effect : board.Effect next) : next.Balanced := by
  have requests := balanced.requests
  cases effect with
  | opens filter =>
      refine ⟨by simpa [List.filterMap_cons, Entry.taken?, Entry.sentRequest?] using requests, ?_, ?_⟩
      · intro id subscription subscribed frame buffered
        by_cases own : id = board.bus.nextId
        · subst own
          cases filter with
          | exact tag =>
              obtain rfl : { tag } = subscription := by simpa [Filter.subscribe] using subscribed
              cases buffered
          | requests => exact balanced.responses subscribed frame buffered
          | sendOnly => exact balanced.responses subscribed frame buffered
        · rw [Filter.find?_subscribe_of_ne filter own] at subscribed
          exact balanced.responses subscribed frame buffered
      · intro channel frame received
        exact balanced.apart (by simpa using received)
  | @queues frame request =>
      refine ⟨?_, balanced.responses, fun received => balanced.apart (by simpa using received)⟩
      simp [Entry.taken?, Entry.sentRequest?, Bus.enqueue, request, ← requests]
  | @delivers frame response =>
      refine ⟨?_, ?_, fun received => balanced.apart (by simpa using received)⟩
      · simpa [List.filterMap_cons, Entry.taken?, Entry.sentRequest?, response, Bus.deliver] using requests
      · intro id subscription subscribed other buffered
        rw [Bus.find?_deliver, Option.map_eq_some_iff] at subscribed
        obtain ⟨before, subscribed, rfl⟩ := subscribed
        rcases Bus.Subscription.mem_receive buffered with old | rfl
        · exact balanced.responses subscribed other old
        · exact response
  | @takes channel frame rest line waiting member reader queued =>
      have request : frame.tag.isRequest = true := balanced.isRequest_of_queued (by simp [queued])
      refine ⟨?_, balanced.responses, balanced.apart_concat (iff_of_true reader request)⟩
      rw [queued] at requests
      simpa [List.filterMap_cons, Entry.taken?, Entry.sentRequest?, reader] using requests
  | @hears channel tag subscription frame rest waiting member listens subscribed buffered =>
      have response (other : Frame) (kept : other = frame ∨ other ∈ rest) :
          other.tag.isRequest = false :=
        balanced.responses subscribed other (by simpa [buffered] using kept)
      have suits : channel.filter = .requests ↔ frame.tag.isRequest = true := by
        simp [listens, response frame (.inl rfl)]
      refine ⟨?_, ?_, balanced.apart_concat suits⟩
      · simpa [List.filterMap_cons, Entry.taken?, Entry.sentRequest?, listens] using requests
      · intro id found subscribed other kept
        by_cases own : channel.id = id
        · obtain rfl : { subscription with buffer := rest } = found := by
            simpa [own] using subscribed
          exact response other (.inr kept)
        · exact balanced.responses (by simpa [own] using subscribed) other kept
  | @drops channel member =>
      refine ⟨by simpa [detach] using requests, ?_, balanced.apart⟩
      intro id subscription subscribed
      exact balanced.responses (Bus.find?_of_find?_detach subscribed)
  | idles waiting queue nextId subscriptions =>
      exact ⟨by simpa [queue] using requests,
        fun subscribed => balanced.responses (subscriptions ▸ subscribed), balanced.apart⟩

theorem balanced_run (acts : List Act) : (run {} acts).Balanced :=
  run_induction Balanced.effect balanced_empty acts

/-- The line has one place for each of some readers whose channel is live and whose receive is not
over. -/
structure Attended (board : Switchboard) : Prop where
  distinct : board.bus.line.Nodup
  waits : ∀ id ∈ board.bus.line, id ∈ board.waiting
  reads : ∀ id ∈ board.bus.line, ∃ channel ∈ board.live, channel.id = id ∧ channel.filter = .requests

theorem attended_empty : Attended {} where
  distinct := List.nodup_nil
  waits := by simp
  reads := by simp

theorem Attended.not_mem_line (attended : board.Attended) (numbered : board.Numbered)
    {channel : Channel} (member : channel ∈ board.live) (notReader : channel.filter ≠ .requests) :
    channel.id ∉ board.bus.line := by
  intro inLine
  obtain ⟨other, live, same, reader⟩ := attended.reads channel.id inLine
  have equal := numbered.eq_of_id_eq (numbered.opened_of_live live)
    (numbered.opened_of_live member) same
  exact notReader (equal ▸ reader)

/-- A channel that is not in line leaves everybody else's wait as it is. -/
theorem Attended.others (attended : board.Attended) {next : Switchboard} {id : Nat}
    (absent : id ∉ board.bus.line) (line : next.bus.line = board.bus.line)
    (live : next.live = board.live)
    (waiting : ∀ other ∈ board.waiting, other ≠ id → other ∈ next.waiting) : next.Attended where
  distinct := line ▸ attended.distinct
  waits := by
    intro other inLine
    rw [line] at inLine
    exact waiting other (attended.waits other inLine) (fun same => absent (same ▸ inLine))
  reads := by
    rw [line, live]
    exact attended.reads

theorem Attended.receive (attended : board.Attended) (numbered : board.Numbered)
    (isOpen : board.bus.closed = false) {channel : Channel} (member : channel ∈ board.live)
    (look : Bus.Look) : (board.receive look channel).Attended := by
  unfold Switchboard.receive
  rw [Bus.poll_open isOpen]
  cases filter : channel.filter with
  | sendOnly =>
      have absent := attended.not_mem_line numbered member (by simp [filter])
      simp only [Bus.search_sender _ filter]
      exact attended.others absent rfl rfl (by simp +contextual)
  | exact tag =>
      have absent := attended.not_mem_line numbered member (by simp [filter])
      simp only [Bus.search_listener _ filter, Bus.pollBuffer]
      cases board.bus.subscriptions.find? channel.id with
      | none => exact attended.others absent rfl rfl (by simp +contextual)
      | some subscription =>
          cases buffered : subscription.buffer with
          | nil =>
              simp only [buffered]
              exact attended.others absent rfl rfl fun _ waits _ => Bus.mem_joinLine.mpr (.inl waits)
          | cons frame rest =>
              simp only [buffered]
              exact attended.others absent rfl rfl (by simp +contextual)
  | requests =>
      have distinct := Bus.nodup_joinLine attended.distinct channel.id
      have reads (id : Nat) (inLine : id ∈ Bus.joinLine board.bus.line channel.id) :
          ∃ other ∈ board.live, other.id = id ∧ other.filter = .requests := by
        rcases Bus.mem_joinLine.mp inLine with old | rfl
        · exact attended.reads id old
        · exact ⟨channel, member, rfl, filter⟩
      rcases Bus.search_reader board.bus filter with
        found | ⟨frame, rest, line, queued, joined, found⟩
      · simp only [found]
        refine ⟨distinct, ?_, reads⟩
        intro id inLine
        rcases Bus.mem_joinLine.mp inLine with old | rfl
        · exact Bus.mem_joinLine.mpr (.inl (attended.waits id old))
        · exact Bus.mem_joinLine.mpr (.inr rfl)
      · -- The reader leaves the line with the frame, and the line never held it twice.
        rw [joined, List.nodup_cons] at distinct
        simp only [found]
        refine ⟨distinct.2, ?_, fun id inLine => reads id (by simp [joined, inLine])⟩
        intro id inLine
        have own : id ≠ channel.id := fun same => distinct.1 (same ▸ inLine)
        have old : id ∈ board.bus.line := by
          have both : id ∈ Bus.joinLine board.bus.line channel.id := by simp [joined, inLine]
          exact (Bus.mem_joinLine.mp both).resolve_right own
        simp [own, attended.waits id old]

theorem Attended.abandon (attended : board.Attended) (channel : Channel) :
    (board.abandon channel).Attended where
  distinct := attended.distinct.filter _
  waits := by
    intro id inLine
    obtain ⟨old, other⟩ := List.mem_filter.mp inLine
    exact List.mem_filter.mpr ⟨attended.waits id old, other⟩
  reads := fun id inLine => attended.reads id (List.mem_filter.mp inLine).1

theorem Attended.detach (attended : board.Attended) (channel : Channel) :
    (board.detach channel).Attended := by
  have line : (board.detach channel).bus.line = (board.abandon channel).bus.line :=
    Bus.line_detach board.bus channel
  have others := attended.abandon channel
  refine ⟨line ▸ others.distinct, line ▸ others.waits, ?_⟩
  intro id inLine
  rw [line] at inLine
  obtain ⟨old, other⟩ := List.mem_filter.mp inLine
  obtain ⟨reader, member, same, filter⟩ := attended.reads id old
  exact ⟨reader, List.mem_filter.mpr ⟨member, by simpa [same] using other⟩, same, filter⟩

theorem Attended.attach (attended : board.Attended) (isOpen : board.bus.closed = false)
    (filter : Filter) : (board.attach filter).Attended := by
  unfold Switchboard.attach
  rw [Bus.attach_open isOpen]
  refine ⟨attended.distinct, attended.waits, ?_⟩
  intro id inLine
  obtain ⟨reader, member, reads⟩ := attended.reads id inLine
  exact ⟨reader, List.mem_append_left _ member, reads⟩

theorem Attended.publish (attended : board.Attended) (isOpen : board.bus.closed = false)
    (frame : Frame) : (board.publish frame).Attended := by
  unfold Switchboard.publish
  cases request : frame.tag.isRequest with
  | true =>
      obtain ⟨state, result⟩ := Bus.publish_request isOpen request
      simp only [state, result]
      exact ⟨attended.distinct, attended.waits, attended.reads⟩
  | false =>
      obtain ⟨state, result⟩ := Bus.publish_response isOpen request
      simp only [state, result]
      exact ⟨attended.distinct, attended.waits, attended.reads⟩

theorem isOpen_of_after {act : Act} (isOpen : (board.after act).bus.closed = false) :
    board.bus.closed = false := by
  cases closed : board.bus.closed with
  | false => rfl
  | true =>
      have still := (board.after_effect act).closed closed
      rw [isOpen] at still
      cases still

theorem Attended.after (attended : board.Attended) (numbered : board.Numbered) {act : Act}
    (isOpen : (board.after act).bus.closed = false) : (board.after act).Attended := by
  have wasOpen := isOpen_of_after isOpen
  cases act with
  | attach filter => exact attended.attach wasOpen filter
  | publish frame => exact attended.publish wasOpen frame
  | receive id takesFrame =>
      simp only [Switchboard.after]
      cases found : board.channel? id with
      | none => exact attended
      | some channel => exact attended.receive numbered wasOpen (mem_of_channel? found) _
  | abandon id =>
      simp only [Switchboard.after]
      cases board.channel? id with
      | none => exact attended
      | some channel => exact attended.abandon channel
  | detach id =>
      simp only [Switchboard.after]
      cases board.channel? id with
      | none => exact attended
      | some channel => exact attended.detach channel
  | close => cases isOpen

theorem attended_run (acts : List Act) (isOpen : (run {} acts).bus.closed = false) :
    (run {} acts).Attended := by
  induction acts using List.reverseRecOn with
  | nil => exact attended_empty
  | append_singleton acts act ih =>
      rw [run_append] at isOpen ⊢
      exact (ih (isOpen_of_after isOpen)).after (numbered_run acts) isOpen

/-- The first in line takes the first of the queue. -/
theorem receive_first (isOpen : board.bus.closed = false) {channel : Channel}
    (reader : channel.filter = .requests)
    (first : board.bus.line = [] ∨ board.bus.line.head? = some channel.id) {frame : Frame}
    {rest : List Frame} (queued : board.bus.queue = frame :: rest) (look : Bus.Look) :
    (board.receive look channel).journal = board.journal ++ [.received channel frame] ∧
      (board.receive look channel).bus.queue = rest := by
  have head : (Bus.joinLine board.bus.line channel.id).head? = some channel.id := by
    rcases first with empty | first
    · simp [empty, Bus.joinLine_nil]
    · have inLine : channel.id ∈ board.bus.line := List.mem_of_head? first
      simp [Bus.joinLine, inLine, first]
  have polled : board.bus.poll look channel = board.bus.pollQueue channel.id := by
    simp [Bus.poll_open isOpen, Bus.search, reader]
  simp [Switchboard.receive, polled, Bus.pollQueue, queued, head]

/-- On an open bus every channel can be opened. -/
theorem attach_open (isOpen : board.bus.closed = false) (filter : Filter) :
    let channel : Channel := { id := board.bus.nextId, filter }
    (board.attach filter).live = board.live ++ [channel] ∧
      (board.attach filter).journal = board.journal ++ [.opened channel] := by
  simp [Switchboard.attach, Bus.attach_open isOpen]

/-- In every order of acts the readers together take the requests once and in order, and on an open bus
the first in the line takes the next one as soon as it looks. -/
theorem requests_taken_once_in_order (acts : List Act) :
    let board := run {} acts
    (board.journal.filterMap Entry.taken?).map Prod.snd ++ board.bus.queue =
        board.journal.filterMap Entry.sentRequest? ∧
      (∀ channel frame, .received channel frame ∈ board.journal →
        (channel.filter = .requests ↔ frame.tag.isRequest = true)) ∧
      (board.bus.closed = false →
        (∀ filter,
          let channel : Channel := { id := board.bus.nextId, filter }
          (board.attach filter).live = board.live ++ [channel] ∧
            (board.attach filter).journal = board.journal ++ [.opened channel]) ∧
          (∀ frame, (board.publish frame).journal = board.journal ++ [.sent frame]) ∧
          board.Attended ∧
          ∀ channel ∈ board.live, channel.filter = .requests →
            board.bus.line = [] ∨ board.bus.line.head? = some channel.id →
              ∀ frame rest, board.bus.queue = frame :: rest → ∀ look,
                (board.receive look channel).journal =
                    board.journal ++ [.received channel frame] ∧
                  (board.receive look channel).bus.queue = rest) := by
  intro board
  have balanced := balanced_run acts
  refine ⟨balanced.requests, fun channel frame => balanced.apart, ?_⟩
  intro isOpen
  refine ⟨attach_open isOpen, publish_open isOpen, attended_run acts isOpen, ?_⟩
  intro channel _ reader first frame rest queued look
  exact receive_first isOpen reader first queued look

/-- A reader that gave up and one that went away leave the queue to the one that came later. -/
example :
    let frame (payload : UInt8) : Frame := ⟨⟨0, 0, 1⟩, [payload]⟩
    let board := run {}
      [.attach .requests, .attach .requests, .receive 1 false, .receive 2 false,
        .publish (frame 1), .publish (frame 2), .abandon 1, .detach 2, .attach .requests,
        .receive 3 false, .receive 1 false]
    board.journal.filterMap Entry.taken? =
      [(⟨3, .requests⟩, frame 1), (⟨1, .requests⟩, frame 2)] := by
  decide

end Switchboard

end RemoteObjects
