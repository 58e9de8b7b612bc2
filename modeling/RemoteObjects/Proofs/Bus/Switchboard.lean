import Mathlib.Data.List.Nodup
import Mathlib.Data.List.Range
import RemoteObjects.Proofs.Bus.Recorded

namespace RemoteObjects

namespace Switchboard

/-- A channel was opened, a frame was sent without failure, or a channel received a frame. -/
inductive Entry where
  | opened (channel : Channel)
  | sent (frame : Frame)
  | received (channel : Channel) (frame : Frame)
deriving DecidableEq, Repr

namespace Entry

def opened? : Entry → Option Channel
  | .opened channel => some channel
  | .sent _ | .received _ _ => none

def sentRequest? : Entry → Option Frame
  | .sent frame => if frame.tag.isRequest then some frame else none
  | .opened _ | .received _ _ => none

def sentResponse? : Entry → Option Frame
  | .sent frame => if frame.tag.isRequest then none else some frame
  | .opened _ | .received _ _ => none

/-- A frame that was received by a reader of requests. -/
def taken? : Entry → Option (Channel × Frame)
  | .received channel frame => if channel.filter = .requests then some (channel, frame) else none
  | .opened _ | .sent _ => none

def sentUnder? (tag : Tag) : Entry → Option Frame
  | .sent frame => if frame.tag = tag then some frame else none
  | .opened _ | .received _ _ => none

def receivedBy? (channel : Channel) : Entry → Option Frame
  | .received other frame => if other = channel then some frame else none
  | .opened _ | .sent _ => none

theorem sentRequest?_eq_some_iff {entry : Entry} {frame : Frame} :
    entry.sentRequest? = some frame ↔ entry = .sent frame ∧ frame.tag.isRequest = true := by
  cases entry <;> grind [sentRequest?]

theorem sentUnder?_eq_some_iff {tag : Tag} {entry : Entry} {frame : Frame} :
    entry.sentUnder? tag = some frame ↔ entry = .sent frame ∧ frame.tag = tag := by
  cases entry <;> grind [sentUnder?]

end Entry

end Switchboard

/-- A bus with the channels that were not dropped, the numbers of those whose receive is not over, and
the journal. -/
structure Switchboard where
  bus : Bus := {}
  live : List Channel := []
  waiting : List Nat := []
  journal : List Switchboard.Entry := []

namespace Switchboard

/-- What the users of a bus can do, one operation of the bus at a time. A receive that has to wait is
looked at again and again, until it has a result or is abandoned; if it is woken on a closed bus, the act
says whether it takes a frame. Channels go by their numbers; who names none of them does nothing. -/
inductive Act where
  | attach (filter : Filter)
  | publish (frame : Frame)
  | receive (id : Nat) (takesFrame : Bool)
  | abandon (id : Nat)
  | detach (id : Nat)
  | close
deriving DecidableEq, Repr

def channel? (board : Switchboard) (id : Nat) : Option Channel :=
  board.live.find? fun channel => channel.id = id

def attach (board : Switchboard) (filter : Filter) : Switchboard :=
  match board.bus.attach filter with
  | (bus, .error _) => { board with bus }
  | (bus, .ok channel) =>
      { board with
        bus
        live := board.live ++ [channel]
        journal := board.journal ++ [.opened channel] }

def publish (board : Switchboard) (frame : Frame) : Switchboard :=
  let sent := board.bus.publish frame
  match sent.result with
  | .error _ => { board with bus := sent.state }
  | .ok () => { board with bus := sent.state, journal := board.journal ++ [.sent frame] }

/-- A receive that waits goes on, any other begins. -/
def look (board : Switchboard) (id : Nat) (takesFrame : Bool) : Bus.Look :=
  if id ∈ board.waiting then .again takesFrame else .first

def receive (board : Switchboard) (look : Bus.Look) (channel : Channel) : Switchboard :=
  match board.bus.poll look channel with
  | (bus, .waiting) => { board with bus, waiting := Bus.joinLine board.waiting channel.id }
  | (bus, .ready (.error _)) =>
      { board with bus, waiting := board.waiting.filter (· ≠ channel.id) }
  | (bus, .ready (.ok frame)) =>
      { board with
        bus
        waiting := board.waiting.filter (· ≠ channel.id)
        journal := board.journal ++ [.received channel frame] }

def abandon (board : Switchboard) (channel : Channel) : Switchboard :=
  { board with
    bus := board.bus.abandon channel
    waiting := board.waiting.filter (· ≠ channel.id) }

def detach (board : Switchboard) (channel : Channel) : Switchboard :=
  { board with
    bus := board.bus.detach channel
    live := board.live.filter (·.id ≠ channel.id)
    waiting := board.waiting.filter (· ≠ channel.id) }

def after (board : Switchboard) : Act → Switchboard
  | .attach filter => board.attach filter
  | .publish frame => board.publish frame
  | .receive id takesFrame =>
      (board.channel? id).elim board (board.receive (board.look id takesFrame))
  | .abandon id => (board.channel? id).elim board board.abandon
  | .detach id => (board.channel? id).elim board board.detach
  | .close => { board with bus := board.bus.close }

def run (board : Switchboard) (acts : List Act) : Switchboard :=
  acts.foldl after board

instance : Medium Switchboard where
  attach := fun board filter => (board.attach filter, (board.bus.attach filter).2)
  publish := fun board frame =>
    { state := board.publish frame
      result := (board.bus.publish frame).result
      events := (board.bus.publish frame).events }
  poll := fun board look channel => (board.receive look channel, (board.bus.poll look channel).2)
  abandon := abandon
  detach := detach
  backlog := fun board => board.bus.backlog

theorem run_append (board : Switchboard) (first second : List Act) :
    board.run (first ++ second) = (board.run first).run second :=
  List.foldl_append

end Switchboard

/-- The subscriptions with that of a new channel. -/
def Filter.subscribe (filter : Filter) (id : Nat) (subscriptions : Association Nat Subscription) :
    Association Nat Subscription :=
  match filter with
  | .exact tag => subscriptions.set id { tag }
  | .requests | .sendOnly => subscriptions

theorem Filter.find?_subscribe_of_ne (filter : Filter) {id other : Nat} (apart : other ≠ id)
    (subscriptions : Association Nat Subscription) :
    (filter.subscribe id subscriptions).find? other = subscriptions.find? other := by
  cases filter with
  | exact tag => simp [subscribe, Ne.symm apart]
  | requests => rfl
  | sendOnly => rfl

theorem Bus.attach_open {bus : Bus} (isOpen : bus.closed = false) (filter : Filter) :
    bus.attach filter =
      ({ bus with
          nextId := bus.nextId + 1
          subscriptions := filter.subscribe bus.nextId bus.subscriptions },
        .ok { id := bus.nextId, filter }) := by
  cases filter <;> simp [Bus.attach, isOpen, Filter.subscribe]

namespace Switchboard

variable {board : Switchboard}

/-- Everything that an act can do: open a channel, send a request or a response, let a reader take the
first request or a listener its first response, drop a channel, or none of these. -/
inductive Effect (board : Switchboard) : Switchboard → Prop where
  | opens (filter : Filter) :
      Effect board
        { board with
          bus :=
            { board.bus with
              nextId := board.bus.nextId + 1
              subscriptions := filter.subscribe board.bus.nextId board.bus.subscriptions }
          live := board.live ++ [{ id := board.bus.nextId, filter }]
          journal := board.journal ++ [.opened { id := board.bus.nextId, filter }] }
  | queues {frame : Frame} (request : frame.tag.isRequest = true) :
      Effect board
        { board with
          bus := board.bus.enqueue frame
          journal := board.journal ++ [.sent frame] }
  | delivers {frame : Frame} (response : frame.tag.isRequest = false) :
      Effect board
        { board with
          bus := board.bus.deliver frame
          journal := board.journal ++ [.sent frame] }
  | takes {channel : Channel} {frame : Frame} {rest : List Frame} (line waiting : List Nat)
      (member : channel ∈ board.live) (reader : channel.filter = .requests)
      (queued : board.bus.queue = frame :: rest) :
      Effect board
        { board with
          bus := { board.bus with queue := rest, line }
          waiting
          journal := board.journal ++ [.received channel frame] }
  | hears {channel : Channel} {tag : Tag} {subscription : Subscription} {frame : Frame}
      {rest : List Frame} (waiting : List Nat) (member : channel ∈ board.live)
      (listens : channel.filter = .exact tag)
      (subscribed : board.bus.subscriptions.find? channel.id = some subscription)
      (buffered : subscription.buffer = frame :: rest) :
      Effect board
        { board with
          bus :=
            { board.bus with
              subscriptions :=
                board.bus.subscriptions.set channel.id { subscription with buffer := rest } }
          waiting
          journal := board.journal ++ [.received channel frame] }
  | drops {channel : Channel} (member : channel ∈ board.live) : Effect board (board.detach channel)
  | idles {bus : Bus} (waiting : List Nat) (queue : bus.queue = board.bus.queue)
      (nextId : bus.nextId = board.bus.nextId)
      (subscriptions : bus.subscriptions = board.bus.subscriptions)
      (stays : board.bus.closed = true → bus.closed = true) :
      Effect board { board with bus, waiting }

theorem effect_self (board : Switchboard) : board.Effect board :=
  .idles board.waiting rfl rfl rfl id

theorem attach_effect (board : Switchboard) (filter : Filter) :
    board.Effect (board.attach filter) := by
  unfold attach
  cases closed : board.bus.closed with
  | true =>
      simp only [Bus.attach, closed, if_true]
      exact board.effect_self
  | false =>
      rw [Bus.attach_open closed]
      exact .opens filter

theorem publish_effect (board : Switchboard) (frame : Frame) :
    board.Effect (board.publish frame) := by
  unfold publish
  cases closed : board.bus.closed with
  | true =>
      simp only [Bus.publish, closed, if_true]
      exact board.effect_self
  | false =>
      cases request : frame.tag.isRequest with
      | true =>
          obtain ⟨state, result⟩ := Bus.publish_request closed request
          simp only [state, result]
          exact .queues request
      | false =>
          obtain ⟨state, result⟩ := Bus.publish_response closed request
          simp only [state, result]
          exact .delivers request

/-- On an open bus every frame can be sent. -/
theorem publish_open (isOpen : board.bus.closed = false) (frame : Frame) :
    (board.publish frame).journal = board.journal ++ [.sent frame] := by
  have sent : (board.bus.publish frame).result = .ok () := by
    cases request : frame.tag.isRequest with
    | true => exact (Bus.publish_request isOpen request).2
    | false => exact (Bus.publish_response isOpen request).2
  simp [publish, sent]

theorem receive_effect {channel : Channel} (member : channel ∈ board.live) (look : Bus.Look) :
    board.Effect (board.receive look channel) := by
  unfold receive
  rcases board.bus.poll_cases look channel with polled | ⟨_, line, polled⟩
  · rw [polled]
    cases filter : channel.filter with
    | sendOnly =>
        simp only [Bus.search_sender _ filter]
        exact .idles _ rfl rfl rfl id
    | requests =>
        rcases Bus.search_reader board.bus filter with
          found | ⟨frame, rest, line, queued, -, found⟩
        · simp only [found]
          exact .idles _ rfl rfl rfl id
        · simp only [found]
          exact .takes line _ member filter queued
    | exact tag =>
        simp only [Bus.search_listener _ filter, Bus.pollBuffer]
        cases subscribed : board.bus.subscriptions.find? channel.id with
        | none => exact .idles _ rfl rfl rfl id
        | some subscription =>
            cases buffered : subscription.buffer with
            | nil =>
                simp only [buffered]
                exact .idles _ rfl rfl rfl id
            | cons frame rest =>
                simp only [buffered]
                exact .hears _ member filter subscribed buffered
  · simp only [polled]
    exact .idles _ rfl rfl rfl id

theorem mem_of_channel? {id : Nat} {channel : Channel} (found : board.channel? id = some channel) :
    channel ∈ board.live :=
  List.mem_of_find?_eq_some found

theorem id_of_channel? {id : Nat} {channel : Channel} (found : board.channel? id = some channel) :
    channel.id = id := by
  simpa using List.find?_some found

theorem after_effect (board : Switchboard) (act : Act) : board.Effect (board.after act) := by
  cases act with
  | attach filter => exact board.attach_effect filter
  | publish frame => exact board.publish_effect frame
  | receive id takesFrame =>
      simp only [after]
      cases found : board.channel? id with
      | none => exact board.effect_self
      | some channel => exact receive_effect (mem_of_channel? found) _
  | abandon id =>
      simp only [after]
      cases board.channel? id with
      | none => exact board.effect_self
      | some channel => exact .idles _ rfl rfl rfl fun closed => closed
  | detach id =>
      simp only [after]
      cases found : board.channel? id with
      | none => exact board.effect_self
      | some channel => exact .drops (mem_of_channel? found)
  | close => exact .idles board.waiting rfl rfl rfl fun _ => rfl

/-- A closed bus stays closed. -/
theorem Effect.closed {next : Switchboard} (effect : board.Effect next)
    (closed : board.bus.closed = true) : next.bus.closed = true := by
  cases effect with
  | drops => exact (Bus.closed_detach _ _).trans closed
  | idles waiting queue nextId subscriptions stays => exact stays closed
  | opens => exact closed
  | queues => exact closed
  | delivers => exact closed
  | takes => exact closed
  | hears => exact closed

/-- What every effect preserves holds after every run. -/
theorem run_induction {motive : Switchboard → Prop}
    (step : ∀ {board next : Switchboard}, motive board → board.Effect next → motive next)
    (start : motive board) (acts : List Act) : motive (board.run acts) := by
  induction acts generalizing board with
  | nil => exact start
  | cons act acts ih => exact ih (step start (board.after_effect act))

/-- All channels that were ever opened, in their order. -/
def opened (board : Switchboard) : List Channel :=
  board.journal.filterMap Entry.opened?

/-- The request frames that were sent, in their order. -/
def sentRequests (board : Switchboard) : List Frame :=
  board.journal.filterMap Entry.sentRequest?

/-- The response frames that were sent, in their order. -/
def sentResponses (board : Switchboard) : List Frame :=
  board.journal.filterMap Entry.sentResponse?

/-- What the readers of requests took, with the channels through which they took it. -/
def taken (board : Switchboard) : List (Channel × Frame) :=
  board.journal.filterMap Entry.taken?

def sentUnder (board : Switchboard) (tag : Tag) : List Frame :=
  board.journal.filterMap (Entry.sentUnder? tag)

/-- No two channels ever have the same number, and who was never opened receives nothing. This rests on
the numbers of a bus never coming round again. -/
structure Numbered (board : Switchboard) : Prop where
  distinct : (board.opened.map Channel.id).Nodup
  fresh : ∀ channel ∈ board.opened, channel.id < board.bus.nextId
  kept : board.live.Sublist board.opened
  known : ∀ {channel frame}, .received channel frame ∈ board.journal → channel ∈ board.opened

theorem Numbered.opened_of_live (numbered : board.Numbered) {channel : Channel}
    (member : channel ∈ board.live) : channel ∈ board.opened :=
  numbered.kept.subset member

theorem Numbered.eq_of_id_eq (numbered : board.Numbered) {one other : Channel}
    (first : one ∈ board.opened) (second : other ∈ board.opened) (same : one.id = other.id) :
    one = other :=
  List.inj_on_of_nodup_map numbered.distinct first second same

theorem numbered_empty : Numbered {} where
  distinct := List.nodup_nil
  fresh := by simp [opened]
  kept := List.Sublist.slnil
  known := by simp

/-- Only the opening of a channel touches the numbers. -/
theorem Numbered.records {next : Switchboard} (numbered : board.Numbered) {entries : List Entry}
    (journal : next.journal = board.journal ++ entries)
    (unopened : entries.filterMap Entry.opened? = [])
    (known : ∀ channel frame, .received channel frame ∈ entries → channel ∈ board.live)
    (nextId : next.bus.nextId = board.bus.nextId)
    (live : next.live.Sublist board.live) : next.Numbered := by
  have opened : next.opened = board.opened := by simp [Switchboard.opened, journal, unopened]
  refine ⟨opened ▸ numbered.distinct, ?_, opened ▸ live.trans numbered.kept, ?_⟩
  · rw [opened, nextId]
    exact numbered.fresh
  · intro channel frame received
    rw [journal, List.mem_append] at received
    rw [opened]
    rcases received with before | now
    · exact numbered.known before
    · exact numbered.opened_of_live (known channel frame now)

theorem Numbered.opens (numbered : board.Numbered) {next : Switchboard} {channel : Channel}
    (journal : next.journal = board.journal ++ [.opened channel])
    (id : channel.id = board.bus.nextId) (nextId : next.bus.nextId = board.bus.nextId + 1)
    (live : next.live = board.live ++ [channel]) : next.Numbered := by
  have opened : next.opened = board.opened ++ [channel] := by
    simp [Switchboard.opened, journal, Entry.opened?]
  refine ⟨?_, ?_, ?_, ?_⟩
  · rw [opened, List.map_append, List.nodup_append]
    refine ⟨numbered.distinct, List.nodup_singleton _, ?_⟩
    rintro _ old _ new rfl
    obtain ⟨other, member, same⟩ := List.mem_map.mp old
    have smaller := numbered.fresh other member
    simp only [List.map_singleton, List.mem_singleton] at new
    omega
  · intro other member
    rw [opened, List.mem_append, List.mem_singleton] at member
    rcases member with old | rfl
    · exact nextId ▸ Nat.lt_succ_of_lt (numbered.fresh other old)
    · omega
  · rw [opened, live]
    exact numbered.kept.append (List.Sublist.refl _)
  · intro other frame received
    have before : Entry.received other frame ∈ board.journal := by simpa [journal] using received
    rw [opened]
    exact List.mem_append_left _ (numbered.known before)

theorem Numbered.effect {next : Switchboard} (numbered : board.Numbered)
    (effect : board.Effect next) : next.Numbered := by
  cases effect with
  | opens filter => exact numbered.opens rfl rfl rfl rfl
  | queues => exact numbered.records rfl rfl (by simp) rfl (.refl _)
  | delivers => exact numbered.records rfl rfl (by simp) rfl (.refl _)
  | takes line waiting member => exact numbered.records rfl rfl (by simpa using member) rfl (.refl _)
  | hears waiting member => exact numbered.records rfl rfl (by simpa using member) rfl (.refl _)
  | drops =>
      exact numbered.records (List.append_nil _).symm rfl (by simp) (Bus.nextId_detach _ _)
        List.filter_sublist
  | idles waiting queue nextId =>
      exact numbered.records (List.append_nil _).symm rfl (by simp) nextId (.refl _)

theorem numbered_run (acts : List Act) : (run {} acts).Numbered :=
  run_induction Numbered.effect numbered_empty acts

theorem Numbered.channel?_eq (numbered : board.Numbered) {channel : Channel}
    (member : channel ∈ board.live) : board.channel? channel.id = some channel := by
  cases found : board.channel? channel.id with
  | none =>
      have absent := List.find?_eq_none.mp found channel member
      simp at absent
  | some other =>
      have same : other.id = channel.id := id_of_channel? found
      exact congrArg some (numbered.eq_of_id_eq (numbered.opened_of_live (mem_of_channel? found))
        (numbered.opened_of_live member) same)

theorem bus_receive (board : Switchboard) (look : Bus.Look) (channel : Channel) :
    (board.receive look channel).bus = (board.bus.poll look channel).1 := by
  unfold receive
  rcases board.bus.poll look channel with ⟨bus, (failure | frame) | _⟩ <;> rfl

theorem live_receive (board : Switchboard) (look : Bus.Look) (channel : Channel) :
    (board.receive look channel).live = board.live := by
  unfold receive
  rcases board.bus.poll look channel with ⟨bus, (failure | frame) | _⟩ <;> rfl

section Live

variable {next : Switchboard} {channel : Channel}

theorem Effect.opened_subset (effect : board.Effect next) : board.opened ⊆ next.opened := by
  have grows {entries : List Entry} (journal : next.journal = board.journal ++ entries) :
      board.opened ⊆ next.opened := by
    rw [opened, opened, journal, List.filterMap_append]
    exact List.subset_append_left _ _
  cases effect with
  | opens | queues | delivers | takes | hears => exact grows rfl
  | drops | idles => exact List.Subset.refl _

/-- A channel that was opened is live until it is dropped. -/
theorem Numbered.mem_live_after_iff (numbered : board.Numbered) (opened : channel ∈ board.opened)
    (act : Act) :
    channel ∈ (board.after act).live ↔ channel ∈ board.live ∧ act ≠ .detach channel.id := by
  cases act with
  | attach filter =>
      have other : channel.id ≠ board.bus.nextId := (numbered.fresh channel opened).ne
      simp only [after, attach]
      cases closed : board.bus.closed with
      | true => simp [Bus.attach, closed]
      | false =>
          rw [Bus.attach_open closed]
          simp only [List.mem_append, List.mem_singleton]
          constructor
          · rintro (before | rfl)
            · exact ⟨before, by simp⟩
            · exact absurd rfl other
          · exact fun both => .inl both.1
  | publish frame =>
      simp only [after, publish]
      split <;> simp
  | receive id takesFrame =>
      simp only [after]
      cases board.channel? id with
      | none => simp
      | some reader => simp [live_receive]
  | abandon id =>
      simp only [after]
      cases board.channel? id <;> simp [abandon]
  | detach id =>
      simp only [after]
      cases found : board.channel? id with
      | none =>
          have absent := List.find?_eq_none.mp found
          simp only [Option.elim_none, ne_eq, Act.detach.injEq, iff_self_and]
          rintro live rfl
          simpa using absent channel live
      | some dropped =>
          have named : dropped.id = id := id_of_channel? found
          simp only [Option.elim_some, Switchboard.detach, named, List.mem_filter, decide_eq_true_eq,
            ne_eq, Act.detach.injEq]
          exact and_congr_right fun _ => not_congr eq_comm
  | close => simp [after]

theorem Numbered.mem_live_run_iff (numbered : board.Numbered) (opened : channel ∈ board.opened)
    (acts : List Act) :
    channel ∈ (board.run acts).live ↔ channel ∈ board.live ∧ .detach channel.id ∉ acts := by
  induction acts generalizing board with
  | nil => simp [run]
  | cons act acts ih =>
      have effect := board.after_effect act
      change channel ∈ ((board.after act).run acts).live ↔ _
      rw [ih (numbered.effect effect) (effect.opened_subset opened),
        numbered.mem_live_after_iff opened]
      simp [and_assoc, eq_comm]

theorem opened_subset_run (board : Switchboard) (acts : List Act) :
    board.opened ⊆ (board.run acts).opened := by
  induction acts generalizing board with
  | nil => exact List.Subset.refl _
  | cons act acts ih =>
      exact List.Subset.trans (board.after_effect act).opened_subset (ih (board.after act))

end Live

/-- The number of the channel that an act uses or drops. -/
def Act.named? : Act → Option Nat
  | .receive id _ | .abandon id | .detach id => some id
  | .attach _ | .publish _ | .close => none

/-- The act can be done without having any of these channels. -/
def Act.avoids (act : Act) (channels : List Channel) : Bool :=
  channels.all fun channel => act.named? ≠ some channel.id

end Switchboard

end RemoteObjects
