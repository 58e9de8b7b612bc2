import RemoteObjects.Proofs.Bus.Journal
import RemoteObjects.Proofs.Transport.Sending

namespace RemoteObjects

namespace Switchboard

variable {board : Switchboard} {channel : Channel} {tag : Tag}

/-- The channel received the first of the frames under this tag that were sent since it was opened, and
the rest is in its buffer for as long as the channel is live. -/
def Heard (board : Switchboard) (channel : Channel) (tag : Tag) : Prop :=
  ∃ before since unheard,
    board.journal = before ++ .opened channel :: since ∧
      board.journal.filterMap (Entry.receivedBy? channel) ++ unheard =
        since.filterMap (Entry.sentUnder? tag) ∧
      (channel ∈ board.live →
        board.bus.subscriptions.find? channel.id = some { tag, buffer := unheard })

/-- While a channel itself receives nothing, what is sent under its tag goes to its buffer. -/
theorem Heard.records {next : Switchboard} (heard : board.Heard channel tag) {entries : List Entry}
    (journal : next.journal = board.journal ++ entries)
    (unread : entries.filterMap (Entry.receivedBy? channel) = [])
    (live : channel ∈ next.live → channel ∈ board.live)
    (buffered : channel ∈ next.live → ∀ buffer,
      board.bus.subscriptions.find? channel.id = some { tag, buffer } →
        next.bus.subscriptions.find? channel.id =
          some { tag, buffer := buffer ++ entries.filterMap (Entry.sentUnder? tag) }) :
    next.Heard channel tag := by
  obtain ⟨before, since, unheard, split, sent, subscribed⟩ := heard
  refine ⟨before, since ++ entries, unheard ++ entries.filterMap (Entry.sentUnder? tag), ?_, ?_, ?_⟩
  · simp [journal, split]
  · rw [journal, List.filterMap_append, unread, List.append_nil, ← List.append_assoc, sent,
      List.filterMap_append]
  · intro member
    exact buffered member unheard (subscribed (live member))

/-- A new listener has heard nothing. -/
theorem Numbered.heard_opened (numbered : board.Numbered) (tag : Tag) {next : Switchboard}
    {id : Nat} (fresh : id = board.bus.nextId)
    (journal : next.journal = board.journal ++ [.opened { id, filter := .exact tag }])
    (subscribed : next.bus.subscriptions.find? id = some { tag }) :
    next.Heard { id, filter := .exact tag } tag := by
  refine ⟨board.journal, [], [], journal, ?_, fun _ => subscribed⟩
  have unread : board.journal.filterMap (Entry.receivedBy? { id, filter := .exact tag }) = [] := by
    rw [List.filterMap_eq_nil_iff]
    intro entry member
    cases entry with
    | received other frame =>
        have smaller := numbered.fresh other (numbered.known member)
        have different : other ≠ { id, filter := .exact tag } := by
          rintro rfl
          simp only at smaller
          omega
        simp [Entry.receivedBy?, different]
    | opened other => rfl
    | sent frame => rfl
  rw [journal, List.filterMap_append, unread]
  rfl

/-- The channel that takes a frame from its buffer takes the first that it had not heard. -/
theorem Heard.hears (heard : board.Heard channel tag) (member : channel ∈ board.live)
    {subscription : Subscription} {frame : Frame} {rest : List Frame} {next : Switchboard}
    (subscribed : board.bus.subscriptions.find? channel.id = some subscription)
    (buffered : subscription.buffer = frame :: rest)
    (journal : next.journal = board.journal ++ [.received channel frame])
    (updated : next.bus.subscriptions.find? channel.id = some { subscription with buffer := rest }) :
    next.Heard channel tag := by
  obtain ⟨before, since, unheard, split, sent, held⟩ := heard
  obtain rfl : { tag, buffer := unheard } = subscription :=
    Option.some.inj ((held member).symm.trans subscribed)
  obtain rfl : unheard = frame :: rest := buffered
  refine ⟨before, since ++ [.received channel frame], rest, ?_, ?_, fun _ => updated⟩
  · simp [journal, split]
  · rw [journal, List.filterMap_append, List.filterMap_append, ← sent]
    simp [List.filterMap_cons, Entry.receivedBy?, Entry.sentUnder?]

/-- Every listener for responses has heard what it should. -/
def Attentive (board : Switchboard) : Prop :=
  ∀ channel ∈ board.opened, ∀ tag, channel.filter = .exact tag → tag.isRequest = false →
    board.Heard channel tag

theorem Attentive.opens (attentive : board.Attentive) (numbered : board.Numbered) (filter : Filter)
    {next : Switchboard} (live : next.live = board.live ++ [{ id := board.bus.nextId, filter }])
    (journal : next.journal = board.journal ++ [.opened { id := board.bus.nextId, filter }])
    (subscriptions : next.bus.subscriptions =
      filter.subscribe board.bus.nextId board.bus.subscriptions) : next.Attentive := by
  intro channel opened tag listens response
  have either : channel ∈ board.opened ∨ channel = { id := board.bus.nextId, filter } := by
    simpa [Switchboard.opened, journal, List.filterMap_cons, Entry.opened?] using opened
  rcases either with old | rfl
  · have different : channel.id ≠ board.bus.nextId := (numbered.fresh channel old).ne
    apply (attentive channel old tag listens response).records journal rfl
    · intro member
      rw [live, List.mem_append, List.mem_singleton] at member
      exact member.resolve_right fun same => different (congrArg Channel.id same)
    · intro _ buffer subscribed
      rw [subscriptions, Filter.find?_subscribe_of_ne filter different, subscribed]
      simp [List.filterMap_cons, Entry.sentUnder?]
  · obtain rfl : filter = .exact tag := listens
    exact numbered.heard_opened tag rfl journal (by simp [subscriptions, Filter.subscribe])

/-- Where no channel is opened it is enough to look at those that are. -/
theorem Attentive.records {next : Switchboard} (attentive : board.Attentive) {entries : List Entry}
    (journal : next.journal = board.journal ++ entries)
    (unopened : entries.filterMap Entry.opened? = [])
    (step : ∀ channel ∈ board.opened, ∀ tag, channel.filter = .exact tag → tag.isRequest = false →
      board.Heard channel tag → next.Heard channel tag) : next.Attentive := by
  intro channel opened tag listens response
  have before : channel ∈ board.opened := by
    simpa [Switchboard.opened, journal, unopened] using opened
  exact step channel before tag listens response (attentive channel before tag listens response)

theorem Attentive.effect {next : Switchboard} (attentive : board.Attentive)
    (numbered : board.Numbered) (effect : board.Effect next) : next.Attentive := by
  cases effect with
  | opens filter => exact attentive.opens numbered filter rfl rfl rfl
  | @queues frame request =>
      refine attentive.records rfl rfl fun channel _ tag _ response heard => ?_
      -- A request is never sent under the tag of a response.
      have other : frame.tag ≠ tag := by
        rintro rfl
        rw [request] at response
        cases response
      refine heard.records rfl rfl id fun _ buffer subscribed => ?_
      simpa [Entry.sentUnder?, other, Bus.enqueue] using subscribed
  | @delivers frame _ =>
      refine attentive.records rfl rfl fun channel _ tag _ _ heard => ?_
      refine heard.records rfl rfl id fun _ buffer subscribed => ?_
      rw [Bus.find?_deliver, subscribed]
      by_cases own : tag = frame.tag
      · simp [Entry.sentUnder?, Bus.Subscription.receive, own]
      · simp [Entry.sentUnder?, Bus.Subscription.receive, own, Ne.symm own]
  | @takes reader frame rest line waiting member reads queued =>
      refine attentive.records rfl rfl fun channel _ tag listens _ heard => ?_
      have other : reader ≠ channel := by
        rintro rfl
        rw [reads] at listens
        cases listens
      refine heard.records rfl (by simp [Entry.receivedBy?, other]) id
        fun _ buffer subscribed => ?_
      simpa [List.filterMap_cons, Entry.sentUnder?] using subscribed
  | @hears listener own subscription frame rest waiting member _ subscribed buffered =>
      refine attentive.records rfl rfl fun channel opened tag _ _ heard => ?_
      by_cases same : listener = channel
      · subst same
        exact heard.hears member subscribed buffered rfl (by simp)
      · have different : listener.id ≠ channel.id := fun equal =>
          same (numbered.eq_of_id_eq (numbered.opened_of_live member) opened equal)
        refine heard.records rfl (by simp [Entry.receivedBy?, same]) id
          fun _ buffer held => ?_
        simpa [List.filterMap_cons, Entry.sentUnder?, different] using held
  | @drops dropped member =>
      refine attentive.records (List.append_nil _).symm rfl fun channel _ tag _ _ heard => ?_
      refine heard.records (List.append_nil _).symm rfl (fun kept => (List.mem_filter.mp kept).1)
        fun kept buffer subscribed => ?_
      have different : channel.id ≠ dropped.id := by simpa using (List.mem_filter.mp kept).2
      simpa [Switchboard.detach, Bus.find?_detach_of_ne _ different] using subscribed
  | idles waiting queue nextId subscriptions =>
      refine attentive.records (List.append_nil _).symm rfl fun channel _ tag _ _ heard => ?_
      refine heard.records (List.append_nil _).symm rfl id fun _ buffer subscribed => ?_
      simpa [subscriptions] using subscribed

theorem attentive_run (acts : List Act) : (run {} acts).Attentive := by
  have both : (run {} acts).Numbered ∧ (run {} acts).Attentive :=
    run_induction (motive := fun board => board.Numbered ∧ board.Attentive)
      (fun invariant effect =>
        ⟨invariant.1.effect effect, invariant.2.effect invariant.1 effect⟩)
      ⟨numbered_empty, by simp [Attentive, Switchboard.opened]⟩ acts
  exact both.2

/-- Whatever a listener finds was sent under its tag. -/
theorem Heard.tag_eq (heard : board.Heard channel tag) (member : channel ∈ board.live)
    (listens : channel.filter = .exact tag) {look : Bus.Look} {frame : Frame}
    (found : (board.bus.poll look channel).2 = .ready (.ok frame)) : frame.tag = tag := by
  obtain ⟨before, since, unheard, split, sent, subscribed⟩ := heard
  rcases board.bus.poll_listener_cases listens (subscribed member) look with
    ⟨first, rest, rfl, polled⟩ | ⟨-, -, polled⟩ | ⟨-, refused⟩
  · rw [polled] at found
    cases found
    have heard : frame ∈ since.filterMap (Entry.sentUnder? tag) := by simp [← sent]
    obtain ⟨entry, -, isSent⟩ := List.mem_filterMap.mp heard
    exact (Entry.sentUnder?_eq_some_iff.mp isSent).2
  · rw [polled] at found
    cases found
  · rw [refused] at found
    cases found

/-- A listener that looks is given the first frame of its buffer. -/
theorem receive_first_buffered (isOpen : board.bus.closed = false)
    (listens : channel.filter = .exact tag) {frame : Frame} {rest : List Frame}
    (subscribed :
      board.bus.subscriptions.find? channel.id = some { tag, buffer := frame :: rest })
    (look : Bus.Look) :
    (board.receive look channel).journal = board.journal ++ [.received channel frame] := by
  simp [receive, Bus.poll_open isOpen, Bus.search_listener _ listens, Bus.pollBuffer, subscribed]

/-- A channel that looks once and is given back after that. -/
theorem Numbered.bus_run_receive_detach (numbered : board.Numbered) (member : channel ∈ board.live)
    (takesFrame : Bool) :
    (board.run [.receive channel.id takesFrame, .detach channel.id]).bus =
      (board.bus.poll (board.look channel.id takesFrame) channel).1.detach channel := by
  have still : (board.receive (board.look channel.id takesFrame) channel).channel? channel.id =
      some channel := by
    rw [channel?, live_receive]
    exact numbered.channel?_eq member
  simp [run, after, numbered.channel?_eq member, still, detach, bus_receive]

theorem Numbered.bus_run_receive (numbered : board.Numbered) (member : channel ∈ board.live)
    (takesFrame : Bool) :
    (board.run [.receive channel.id takesFrame]).bus =
      (board.bus.poll (board.look channel.id takesFrame) channel).1 := by
  simp [run, after, numbered.channel?_eq member, bus_receive]

end Switchboard

namespace RoundTrip

/-- Of a medium on which only its own response comes, a round trip sees what its channel finds. -/
theorem receive_own {bus : Bus} {trip : RoundTrip} {look : Bus.Look}
    (own : ∀ frame, (bus.poll look trip.channel).2 = .ready (.ok frame) →
      frame.tag = trip.responseTag) (fuel : Nat) :
    trip.receive fuel look bus =
      { state := (bus.poll look trip.channel).1, result := (bus.poll look trip.channel).2 } := by
  unfold receive
  rw [show Medium.poll bus look trip.channel = bus.poll look trip.channel from rfl]
  rcases polled : bus.poll look trip.channel with ⟨rest, (failure | frame) | _⟩
  · rfl
  · have same := own frame (by rw [polled])
    simp [same]
  · rfl

/-- A round trip is a listener that is opened before the request is sent. -/
theorem begin_run (board : Switchboard) (now : Nat) (limit : Option Nat) (request : Request) :
    let sent := RoundTrip.begin now limit board.bus request
    let later := board.run [.attach (.exact request.responseTag), .publish request.frame]
    sent.state = later.bus ∧
      (board.bus.closed = false → ∃ trip, sent.result = .ok trip) ∧
      ∀ trip, sent.result = .ok trip →
        trip.responseTag = request.responseTag ∧
          trip.channel.filter = .exact request.responseTag ∧ trip.channel ∈ later.live := by
  intro sent later
  cases closed : board.bus.closed with
  | true =>
      have refused : board.bus.attach (.exact request.responseTag) = (board.bus, .error .closed) := by
        simp [Bus.attach, closed]
      have began : sent = { state := board.bus, result := .error Bus.Failure.closed.toTransport } := by
        simp only [sent, RoundTrip.begin, Medium.attach, refused]
      have unchanged : later = board := by
        simp [later, Switchboard.run, Switchboard.after, Switchboard.attach, refused,
          Switchboard.publish, Bus.publish, closed]
      rw [began, unchanged]
      refine ⟨rfl, ?_, ?_⟩
      · intro isOpen
        cases isOpen
      · intro trip result
        cases result
  | false =>
      let attached : Bus :=
        { board.bus with
          nextId := board.bus.nextId + 1
          subscriptions :=
            (Filter.exact request.responseTag).subscribe board.bus.nextId board.bus.subscriptions }
      have accepted : board.bus.attach (.exact request.responseTag) =
          (attached, .ok { id := board.bus.nextId, filter := .exact request.responseTag }) :=
        Bus.attach_open closed _
      obtain ⟨state, result⟩ :=
        Bus.publish_request (show attached.closed = false from closed)
          (show request.frame.tag.isRequest = true from Request.isRequest_tag request)
      have began : sent.state = attached.enqueue request.frame ∧
          sent.result = .ok
            { responseTag := request.responseTag
              channel := { id := board.bus.nextId, filter := .exact request.responseTag }
              deadline := limit.map (now + ·) } := by
        simp only [sent, RoundTrip.begin, Medium.attach, accepted, Medium.publish]
        rw [show ({ tag := request.tag, payload := request.encode } : Frame) = request.frame from rfl,
          state, result]
        exact ⟨rfl, rfl⟩
      have ran : later.bus = attached.enqueue request.frame ∧
          later.live =
            board.live ++ [{ id := board.bus.nextId, filter := .exact request.responseTag }] := by
        simp [later, Switchboard.run, Switchboard.after, Switchboard.attach, accepted,
          Switchboard.publish, state, result]
      refine ⟨began.1.trans ran.1.symm, fun _ => ⟨_, began.2⟩, fun trip answered => ?_⟩
      obtain rfl := Except.ok.inj (began.2.symm.trans answered)
      exact ⟨rfl, rfl, by simp [ran.2]⟩

/-- A round trip whose channel finds nothing but its own response passes over no frame. -/
theorem poll_own {bus : Bus} {trip : RoundTrip} {look : Bus.Look}
    (own : ∀ frame, (bus.poll look trip.channel).2 = .ready (.ok frame) →
      frame.tag = trip.responseTag) (now : Nat) :
    (trip.poll now look bus).events = [] ∧
      ((trip.poll now look bus).state = (bus.poll look trip.channel).1 ∨
        (trip.poll now look bus).state = (bus.poll look trip.channel).1.detach trip.channel) := by
  unfold RoundTrip.poll
  rw [receive_own own]
  rcases bus.poll look trip.channel with ⟨rest, (failure | frame) | _⟩
  · exact ⟨rfl, .inr rfl⟩
  · exact ⟨rfl, .inr rfl⟩
  · cases due : trip.isDue now with
    | true => exact ⟨rfl, .inr rfl⟩
    | false => exact ⟨rfl, .inl rfl⟩

end RoundTrip

namespace Switchboard

/-- Whatever else goes on, each listener hears the responses under its tag from its opening on, one copy
each and in their order, and on an open bus it hears the next one as soon as it looks. A round trip opens
such a listener, and wherever its look for the response falls it passes over no frame. -/
theorem responses_reach_listeners (acts : List Act) :
    let board := run {} acts
    (∀ channel ∈ board.opened, ∀ tag, channel.filter = .exact tag → tag.isRequest = false →
        board.Heard channel tag) ∧
      (board.bus.closed = false → ∀ channel ∈ board.live, ∀ tag, channel.filter = .exact tag →
        ∀ frame rest,
          board.bus.subscriptions.find? channel.id = some { tag, buffer := frame :: rest } →
            ∀ look,
              (board.receive look channel).journal = board.journal ++ [.received channel frame]) ∧
      ∀ now limit request,
        let sending := acts ++ [.attach (.exact request.responseTag), .publish request.frame]
        let sent := RoundTrip.begin now limit board.bus request
        sent.state = (run {} sending).bus ∧
          (board.bus.closed = false → ∃ trip, sent.result = .ok trip) ∧
          ∀ trip, sent.result = .ok trip →
            trip.channel ∈ (run {} sending).live ∧
              ∀ later moment takesFrame,
                let current := run {} (sending ++ later)
                let receive := Act.receive trip.channel.id takesFrame
                trip.channel ∈ current.live →
                  let polled :=
                    trip.poll moment (current.look trip.channel.id takesFrame) current.bus
                  polled.events = [] ∧
                    (polled.state = (current.run [receive]).bus ∨
                      polled.state = (current.run [receive, .detach trip.channel.id]).bus) := by
  intro board
  refine ⟨attentive_run acts, ?_, fun now limit request => ?_⟩
  · intro isOpen channel _ tag listens frame rest subscribed
    exact receive_first_buffered isOpen listens subscribed
  intro sending sent
  have both := RoundTrip.begin_run board now limit request
  rw [← run_append] at both
  obtain ⟨state, begins, trips⟩ := both
  refine ⟨state, begins, fun trip began => ?_⟩
  obtain ⟨tag, listens, member⟩ := trips trip began
  refine ⟨member, fun later moment takesFrame => ?_⟩
  intro current receive live polled
  have numbered : current.Numbered := numbered_run _
  have heard : current.Heard trip.channel request.responseTag :=
    attentive_run _ trip.channel (numbered.opened_of_live live) _ listens
      (Request.isRequest_responseTag request)
  obtain ⟨silent, states⟩ :=
    RoundTrip.poll_own (fun frame found => (heard.tag_eq live listens found).trans tag.symm) moment
  refine ⟨silent, ?_⟩
  rw [numbered.bus_run_receive live, numbered.bus_run_receive_detach live]
  exact states

/-- Of two listeners on one tag the later one misses what was sent before. -/
example :
    let tag : Tag := ⟨7, 0, 0x102⟩
    let board := run {}
      [.attach (.exact tag), .publish ⟨tag, [1]⟩, .attach (.exact tag), .publish ⟨tag, [2]⟩,
        .receive 2 false, .receive 1 false, .detach 2, .publish ⟨tag, [3]⟩, .receive 1 false,
        .receive 2 false]
    board.journal.filterMap (Entry.receivedBy? ⟨1, .exact tag⟩) = [⟨tag, [1]⟩, ⟨tag, [2]⟩] ∧
      board.journal.filterMap (Entry.receivedBy? ⟨2, .exact tag⟩) = [⟨tag, [2]⟩] ∧
      board.bus.subscriptions.entries = [(1, ⟨tag, [⟨tag, [3]⟩]⟩)] := by
  decide

end Switchboard

end RemoteObjects
