import RemoteObjects.Proofs.Bus.Switchboard

namespace RemoteObjects

namespace Bus

/-- A listener takes the first frame of its buffer or, on an open bus, waits if there is none. On a closed
bus it may go away without one. -/
theorem poll_listener_cases (bus : Bus) {channel : Channel} {tag : Tag}
    {subscription : Subscription} (listens : channel.filter = .exact tag)
    (subscribed : bus.subscriptions.find? channel.id = some subscription) (look : Look) :
    (∃ frame rest, subscription.buffer = frame :: rest ∧
        bus.poll look channel =
          ({ bus with
              subscriptions :=
                bus.subscriptions.set channel.id { subscription with buffer := rest } },
            .ready (.ok frame))) ∨
      (subscription.buffer = [] ∧ bus.closed = false ∧ bus.poll look channel = (bus, .waiting)) ∨
      (bus.closed = true ∧ (bus.poll look channel).2 = .ready (.error .closed)) := by
  cases buffered : subscription.buffer with
  | cons frame rest =>
      rcases bus.poll_cases look channel with found | ⟨closed, line, refused⟩
      · refine .inl ⟨frame, rest, rfl, ?_⟩
        simp [found, search_listener bus listens, pollBuffer, subscribed, buffered]
      · exact .inr (.inr ⟨closed, by rw [refused]⟩)
  | nil =>
      have searched : bus.search channel = (bus, .waiting) := by
        simp [search_listener bus listens, pollBuffer, subscribed, buffered]
      by_cases closed : bus.closed = true
      · refine .inr (.inr ⟨closed, ?_⟩)
        cases look with
        | first => rw [poll_first_closed closed]
        | again takesFrame =>
            rw [poll_again_closed closed]
            rcases bus.wake_cases takesFrame channel with ⟨frame, -, found⟩ | refused
            · rw [searched] at found
              cases found
            · rw [refused]
      · have isOpen := Bool.eq_false_iff.mpr closed
        exact .inr (.inl ⟨rfl, isOpen, (poll_open isOpen look channel).trans searched⟩)

theorem publish_closed {bus : Bus} (closed : bus.closed = true) (frame : Frame) :
    bus.publish frame = { state := bus, result := .error .closed } := by
  simp [publish, closed]

theorem attach_closed {bus : Bus} (closed : bus.closed = true) (filter : Filter) :
    bus.attach filter = (bus, .error .closed) := by
  simp [attach, closed]

end Bus

namespace Switchboard

variable {board : Switchboard} {channel : Channel} {tag : Tag}

theorem publish_closed (closed : board.bus.closed = true) (frame : Frame) :
    board.publish frame = board := by
  simp [publish, Bus.publish_closed closed]

theorem attach_closed (closed : board.bus.closed = true) (filter : Filter) :
    board.attach filter = board := by
  simp [attach, Bus.attach_closed closed]

/-- A receive writes at most the frame that it found into the journal. -/
theorem journal_receive (board : Switchboard) (look : Bus.Look) (channel : Channel) :
    (board.receive look channel).journal = board.journal ∨
      ∃ frame, (board.bus.poll look channel).2 = .ready (.ok frame) ∧
        (board.receive look channel).journal = board.journal ++ [.received channel frame] := by
  unfold receive
  rcases board.bus.poll look channel with ⟨bus, (failure | frame) | _⟩
  · exact .inl rfl
  · exact .inr ⟨frame, rfl, rfl⟩
  · exact .inl rfl

/-- Nothing was sent or taken. -/
structure Quiet (board next : Switchboard) : Prop where
  requests : next.sentRequests = board.sentRequests
  responses : next.sentResponses = board.sentResponses
  taken : next.taken = board.taken

theorem attach_quiet (board : Switchboard) (filter : Filter) : board.Quiet (board.attach filter) := by
  unfold attach
  rcases board.bus.attach filter with ⟨bus, failure | channel⟩
  · exact ⟨rfl, rfl, rfl⟩
  · exact ⟨by simp [sentRequests, Entry.sentRequest?], by simp [sentResponses, Entry.sentResponse?],
      by simp [taken, Entry.taken?]⟩

theorem receive_quiet (board : Switchboard) (look : Bus.Look) {channel : Channel}
    (unread : channel.filter ≠ .requests ∨
      ∀ frame, (board.bus.poll look channel).2 ≠ .ready (.ok frame)) :
    board.Quiet (board.receive look channel) := by
  rcases board.journal_receive look channel with same | ⟨frame, found, more⟩
  · exact ⟨by simp [sentRequests, same], by simp [sentResponses, same], by simp [taken, same]⟩
  · have other : channel.filter ≠ .requests := unread.resolve_right fun never => never frame found
    exact ⟨by simp [sentRequests, more, Entry.sentRequest?],
      by simp [sentResponses, more, Entry.sentResponse?], by simp [taken, more, Entry.taken?, other]⟩

/-- A reader that finds a frame takes the first of the queue. -/
theorem receive_taken {look : Bus.Look} {frame : Frame} (reader : channel.filter = .requests)
    (found : (board.bus.poll look channel).2 = .ready (.ok frame)) :
    board.bus.queue.head? = some frame ∧
      (board.receive look channel).sentRequests = board.sentRequests ∧
      (board.receive look channel).sentResponses = board.sentResponses ∧
      (board.receive look channel).taken = board.taken ++ [(channel, frame)] := by
  have queued : board.bus.queue.head? = some frame := by
    rcases board.bus.poll_cases look channel with searched | ⟨-, line, refused⟩
    · rw [searched] at found
      rcases Bus.search_reader board.bus reader with waits | ⟨first, rest, line, queue, -, takes⟩
      · rw [waits] at found
        cases found
      · rw [takes] at found
        cases found
        rw [queue, List.head?_cons]
    · rw [refused] at found
      cases found
  have journal : (board.receive look channel).journal =
      board.journal ++ [.received channel frame] := by
    unfold receive
    split
    · next polled => simp [polled] at found
    · next polled => simp [polled] at found
    · next polled =>
        rw [polled] at found
        cases found
        rfl
  exact ⟨queued, by simp [sentRequests, journal, Entry.sentRequest?],
    by simp [sentResponses, journal, Entry.sentResponse?], by simp [taken, journal, Entry.taken?, reader]⟩

theorem detach_quiet (board : Switchboard) (channel : Channel) : board.Quiet (board.detach channel) :=
  ⟨rfl, rfl, rfl⟩

theorem sentUnder_attach (board : Switchboard) (filter : Filter) (tag : Tag) :
    (board.attach filter).sentUnder tag = board.sentUnder tag := by
  unfold attach
  rcases board.bus.attach filter with ⟨bus, failure | channel⟩
  · rfl
  · simp [sentUnder, Entry.sentUnder?]

theorem sentRequests_receive (board : Switchboard) (look : Bus.Look) (channel : Channel) :
    (board.receive look channel).sentRequests = board.sentRequests := by
  rcases board.journal_receive look channel with same | ⟨frame, -, more⟩
  · simp [sentRequests, same]
  · simp [sentRequests, more, Entry.sentRequest?]

theorem sentUnder_receive (board : Switchboard) (look : Bus.Look) (channel : Channel) (tag : Tag) :
    (board.receive look channel).sentUnder tag = board.sentUnder tag := by
  rcases board.journal_receive look channel with same | ⟨frame, -, more⟩
  · simp [sentUnder, same]
  · simp [sentUnder, more, Entry.sentUnder?]

/-- On an open bus a request joins the queue and a response goes to its listeners. -/
theorem publish_of_open (isOpen : board.bus.closed = false) (frame : Frame) :
    board.publish frame =
      { board with
        bus := if frame.tag.isRequest then board.bus.enqueue frame else board.bus.deliver frame
        journal := board.journal ++ [.sent frame] } := by
  unfold publish
  cases request : frame.tag.isRequest with
  | true =>
      obtain ⟨state, result⟩ := Bus.publish_request isOpen request
      simp [state, result]
  | false =>
      obtain ⟨state, result⟩ := Bus.publish_response isOpen request
      simp [state, result]

theorem sentRequests_publish (isOpen : board.bus.closed = false) (frame : Frame) :
    (board.publish frame).sentRequests =
      board.sentRequests ++ if frame.tag.isRequest then [frame] else [] := by
  rw [publish_of_open isOpen]
  by_cases request : frame.tag.isRequest = true <;>
    simp [sentRequests, Entry.sentRequest?, request]

theorem sentUnder_publish (isOpen : board.bus.closed = false) (frame : Frame) (tag : Tag) :
    (board.publish frame).sentUnder tag =
      board.sentUnder tag ++ if frame.tag = tag then [frame] else [] := by
  rw [publish_of_open isOpen]
  by_cases own : frame.tag = tag <;> simp [sentUnder, Entry.sentUnder?, own]

theorem sentResponses_publish (isOpen : board.bus.closed = false) (frame : Frame) :
    (board.publish frame).sentResponses =
      board.sentResponses ++ if frame.tag.isRequest then [] else [frame] := by
  rw [publish_of_open isOpen]
  by_cases request : frame.tag.isRequest = true <;>
    simp [sentResponses, Entry.sentResponse?, request]

theorem taken_publish (isOpen : board.bus.closed = false) (frame : Frame) :
    (board.publish frame).taken = board.taken := by
  simp [publish_of_open isOpen, taken, Entry.taken?]

theorem sentUnder_eq_filter (response : tag.isRequest = false) :
    board.sentUnder tag = board.sentResponses.filter fun frame => frame.tag = tag := by
  rw [sentUnder, sentResponses, List.filter_filterMap]
  refine List.filterMap_congr fun entry _ => ?_
  cases entry with
  | sent frame =>
      by_cases own : frame.tag = tag
      · simp [Entry.sentUnder?, Entry.sentResponse?, Option.filter, own, response]
      · by_cases request : frame.tag.isRequest = true <;>
          simp [Entry.sentUnder?, Entry.sentResponse?, Option.filter, own, request]
  | opened channel => rfl
  | received channel frame => rfl

theorem tag_of_mem_sentUnder {frame : Frame} (sent : frame ∈ board.sentUnder tag) :
    frame.tag = tag := by
  obtain ⟨entry, -, found⟩ := List.mem_filterMap.mp sent
  exact (Entry.sentUnder?_eq_some_iff.mp found).2

/-- Nothing that was written into the journal is ever changed. -/
theorem journal_isPrefix_after (board : Switchboard) (act : Act) :
    board.journal <+: (board.after act).journal := by
  cases act with
  | attach filter =>
      simp only [after, attach]
      split <;> simp
  | publish frame =>
      simp only [after, publish]
      split <;> simp
  | receive id takesFrame =>
      simp only [after]
      cases board.channel? id with
      | none => simp
      | some channel =>
          rcases board.journal_receive (board.look id takesFrame) channel with same | ⟨frame, -, more⟩
          · simp [same]
          · simp [more]
  | abandon id =>
      simp only [after]
      cases board.channel? id <;> simp [abandon]
  | detach id =>
      simp only [after]
      cases board.channel? id <;> simp [detach]
  | close => simp [after]

theorem sentRequests_isPrefix_after (board : Switchboard) (act : Act) :
    board.sentRequests <+: (board.after act).sentRequests :=
  (board.journal_isPrefix_after act).filterMap _

theorem sentUnder_isPrefix_after (board : Switchboard) (act : Act) (tag : Tag) :
    board.sentUnder tag <+: (board.after act).sentUnder tag :=
  (board.journal_isPrefix_after act).filterMap _

theorem closed_receive (board : Switchboard) (look : Bus.Look) (channel : Channel) :
    (board.receive look channel).bus.closed = board.bus.closed := by
  rw [bus_receive]
  rcases board.bus.poll_cases look channel with found | ⟨-, line, refused⟩
  · rw [found]
    cases filter : channel.filter with
    | sendOnly => rw [Bus.search_sender _ filter]
    | requests =>
        rcases Bus.search_reader board.bus filter with
          searched | ⟨frame, rest, line, -, -, searched⟩ <;> rw [searched]
    | exact tag =>
        rw [Bus.search_listener _ filter, Bus.pollBuffer]
        split
        · rfl
        · split <;> rfl
  · rw [refused]

/-- Nothing but a closing closes the bus. -/
theorem closed_after {act : Act} (different : act ≠ .close) :
    (board.after act).bus.closed = board.bus.closed := by
  cases act with
  | attach filter =>
      cases closed : board.bus.closed with
      | true => rw [after, attach_closed closed, closed]
      | false => simp [after, attach, Bus.attach_open closed, closed]
  | publish frame =>
      cases closed : board.bus.closed with
      | true => rw [after, publish_closed closed, closed]
      | false =>
          rw [after, publish_of_open closed]
          cases frame.tag.isRequest <;> exact closed
  | receive id takesFrame =>
      simp only [after]
      cases board.channel? id with
      | none => rfl
      | some channel => exact board.closed_receive _ channel
  | abandon id =>
      simp only [after]
      cases board.channel? id <;> rfl
  | detach id =>
      simp only [after]
      cases board.channel? id with
      | none => rfl
      | some channel => exact Bus.closed_detach board.bus channel
  | close => exact absurd rfl different

/-- A receive touches the buffer of its own channel at most. -/
theorem find?_receive_of_ne (board : Switchboard) (look : Bus.Look) {id : Nat}
    (apart : id ≠ channel.id) :
    (board.receive look channel).bus.subscriptions.find? id = board.bus.subscriptions.find? id := by
  rw [bus_receive]
  rcases board.bus.poll_cases look channel with found | ⟨-, line, refused⟩
  · rw [found]
    cases filter : channel.filter with
    | sendOnly => rw [Bus.search_sender _ filter]
    | requests =>
        rcases Bus.search_reader board.bus filter with
          searched | ⟨frame, rest, line, -, -, searched⟩ <;> rw [searched]
    | exact tag =>
        rw [Bus.search_listener _ filter, Bus.pollBuffer]
        split
        · rfl
        · split
          · rfl
          · simp [Ne.symm apart]
  · rw [refused]

/-- While others act, what is sent under the tag of a listener goes to the end of its buffer. -/
theorem Numbered.buffer_foreign (numbered : board.Numbered) (live : channel ∈ board.live)
    (response : tag.isRequest = false) {act : Act} (foreign : act.named? ≠ some channel.id)
    {buffer : List Frame}
    (subscribed : board.bus.subscriptions.find? channel.id = some { tag, buffer }) :
    ∃ more, (board.after act).sentUnder tag = board.sentUnder tag ++ more ∧
      (board.after act).bus.subscriptions.find? channel.id =
        some { tag, buffer := buffer ++ more } := by
  -- An act that sends nothing under the tag leaves the buffer as it is.
  have unsent (sent : (board.after act).sentUnder tag = board.sentUnder tag)
      (kept : (board.after act).bus.subscriptions.find? channel.id =
        board.bus.subscriptions.find? channel.id) :
      ∃ more, (board.after act).sentUnder tag = board.sentUnder tag ++ more ∧
        (board.after act).bus.subscriptions.find? channel.id =
          some { tag, buffer := buffer ++ more } :=
    ⟨[], by simp [sent], by simp [kept, subscribed]⟩
  cases act with
  | attach filter =>
      refine unsent (board.sentUnder_attach filter tag) ?_
      cases closed : board.bus.closed with
      | true => rw [after, attach_closed closed]
      | false =>
          have other := (numbered.fresh channel (numbered.opened_of_live live)).ne
          simp [after, attach, Bus.attach_open closed, Filter.find?_subscribe_of_ne filter other]
  | publish frame =>
      cases closed : board.bus.closed with
      | true => exact unsent (by rw [after, publish_closed closed]) (by rw [after, publish_closed closed])
      | false =>
          refine ⟨_, sentUnder_publish closed frame tag, ?_⟩
          rw [after, publish_of_open closed]
          cases request : frame.tag.isRequest with
          | true =>
              have other : frame.tag ≠ tag := by
                rintro rfl
                rw [request] at response
                cases response
              simpa [other, Bus.enqueue] using subscribed
          | false =>
              simp only [Bool.false_eq_true, if_false, Bus.find?_deliver, subscribed, Option.map_some,
                Bus.Subscription.receive]
              by_cases own : tag = frame.tag
              · simp [own]
              · simp [own, Ne.symm own]
  | receive id takesFrame =>
      cases found : board.channel? id with
      | none => exact unsent (by simp [after, found]) (by simp [after, found])
      | some reader =>
          have own : reader.id = id := id_of_channel? found
          have apart : channel.id ≠ reader.id := by
            rw [own]
            rintro rfl
            exact foreign rfl
          refine unsent ?_ ?_
          · simp [after, found, sentUnder_receive]
          · simp [after, found, find?_receive_of_ne _ _ apart]
  | abandon id =>
      cases found : board.channel? id <;>
        exact unsent (by simp [after, found, abandon, sentUnder])
          (by simp [after, found, abandon, Bus.abandon])
  | detach id =>
      cases found : board.channel? id with
      | none => exact unsent (by simp [after, found]) (by simp [after, found])
      | some dropped =>
          have own : dropped.id = id := id_of_channel? found
          have apart : channel.id ≠ dropped.id := by
            rw [own]
            rintro rfl
            exact foreign rfl
          refine unsent (by simp [after, found, detach, sentUnder]) ?_
          simp [after, found, detach, Bus.find?_detach_of_ne _ apart]
  | close => exact unsent rfl rfl

end Switchboard

end RemoteObjects
