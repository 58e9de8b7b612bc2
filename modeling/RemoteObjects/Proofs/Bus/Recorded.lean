import RemoteObjects.Bus.Medium
import RemoteObjects.Proofs.Tag

namespace RemoteObjects

/-- A medium with the frames that were published on it without failure and the frames that readers of
requests took, each in their order. -/
structure Recorded (μ : Type) where
  medium : μ
  published : List Frame := []
  taken : List Frame := []

namespace Recorded

variable {μ : Type} [Medium μ]

/-- A reader of requests takes the frame that it finds. -/
def takenBy (channel : Channel) : Bus.Polled → List Frame
  | .ready (.ok frame) => if channel.filter = .requests then [frame] else []
  | .ready (.error _) | .waiting => []

def attach (recorded : Recorded μ) (filter : Filter) :
    Recorded μ × Except Bus.Failure Channel :=
  let (medium, result) := Medium.attach recorded.medium filter
  ({ recorded with medium }, result)

def publish (recorded : Recorded μ) (frame : Frame) :
    Step (Recorded μ) (Except Bus.Failure Unit) :=
  let sent := Medium.publish recorded.medium frame
  let published := match sent.result with
    | .ok () => recorded.published ++ [frame]
    | .error _ => recorded.published
  { state := { recorded with medium := sent.state, published }
    result := sent.result
    events := sent.events }

def poll (recorded : Recorded μ) (look : Bus.Look) (channel : Channel) :
    Recorded μ × Bus.Polled :=
  let (medium, polled) := Medium.poll recorded.medium look channel
  ({ recorded with medium, taken := recorded.taken ++ takenBy channel polled }, polled)

instance : Medium (Recorded μ) where
  attach := attach
  publish := publish
  poll := poll
  abandon := fun recorded channel =>
    { recorded with medium := Medium.abandon recorded.medium channel }
  detach := fun recorded channel =>
    { recorded with medium := Medium.detach recorded.medium channel }
  backlog := fun recorded => Medium.backlog recorded.medium

end Recorded

namespace Bus

/-- A request frame on an open bus goes to the end of the queue. -/
def enqueue (bus : Bus) (frame : Frame) : Bus :=
  { bus with queue := bus.queue ++ [frame] }

theorem publish_request {bus : Bus} (isOpen : bus.closed = false) {frame : Frame}
    (request : frame.tag.isRequest = true) :
    (bus.publish frame).state = bus.enqueue frame ∧ (bus.publish frame).result = .ok () := by
  simp [publish, isOpen, request, enqueue]

theorem publish_response {bus : Bus} (isOpen : bus.closed = false) {frame : Frame}
    (response : frame.tag.isRequest = false) :
    (bus.publish frame).state = bus.deliver frame ∧ (bus.publish frame).result = .ok () := by
  simp [publish, isOpen, response]

theorem lookup_map_second {κ ν ν' : Type} [DecidableEq κ] (f : ν → ν') (key : κ)
    (entries : List (κ × ν)) :
    Association.lookup key (entries.map fun (other, value) => (other, f value)) =
      (Association.lookup key entries).map f := by
  induction entries with
  | nil => rfl
  | cons entry rest ih =>
      simp only [List.map_cons, Association.lookup, ih]
      split <;> rfl

/-- A delivered frame reaches each subscription on its own. -/
theorem find?_deliver (bus : Bus) (frame : Frame) (id : Nat) :
    (bus.deliver frame).subscriptions.find? id =
      (bus.subscriptions.find? id).map (Subscription.receive frame) :=
  lookup_map_second (Subscription.receive frame) id bus.subscriptions.entries

/-- On an open bus it does not matter whether a receive begins or goes on. -/
theorem poll_open {bus : Bus} (isOpen : bus.closed = false) (look : Look) (channel : Channel) :
    bus.poll look channel = bus.search channel := by
  simp [poll, isOpen]

/-- The first reader in line takes the first frame of the queue. -/
theorem poll_requests_cons {bus : Bus} (isOpen : bus.closed = false) {look : Look}
    {channel : Channel} (reader : channel.filter = .requests)
    (alone : joinLine bus.line channel.id = [channel.id])
    {frame : Frame} {rest : List Frame} (queued : bus.queue = frame :: rest) :
    bus.poll look channel = ({ bus with queue := rest, line := [] }, .ready (.ok frame)) := by
  simp [poll_open isOpen, search, reader, pollQueue, queued, alone]

theorem poll_requests_nil {bus : Bus} (isOpen : bus.closed = false) {look : Look}
    {channel : Channel} (reader : channel.filter = .requests)
    (alone : joinLine bus.line channel.id = [channel.id])
    (queued : bus.queue = []) :
    bus.poll look channel = ({ bus with line := [channel.id] }, .waiting) := by
  simp [poll_open isOpen, search, reader, pollQueue, queued, alone]

/-- A reader joins the line and waits, or is the first in it and takes the first queued frame. -/
theorem search_reader (bus : Bus) {channel : Channel} (reader : channel.filter = .requests) :
    bus.search channel = ({ bus with line := joinLine bus.line channel.id }, .waiting) ∨
      ∃ frame rest line, bus.queue = frame :: rest ∧
        joinLine bus.line channel.id = channel.id :: line ∧
        bus.search channel = ({ bus with queue := rest, line }, .ready (.ok frame)) := by
  cases queued : bus.queue with
  | nil => exact .inl (by simp [search, reader, pollQueue, queued])
  | cons frame rest =>
      by_cases first : (joinLine bus.line channel.id).head? = some channel.id
      · obtain ⟨line, joined⟩ := List.head?_eq_some_iff.mp first
        exact .inr ⟨frame, rest, line, rfl, joined,
          by simp [search, reader, pollQueue, queued, joined]⟩
      · exact .inl (by simp [search, reader, pollQueue, queued, first])

theorem search_listener (bus : Bus) {channel : Channel} {tag : Tag}
    (listens : channel.filter = .exact tag) : bus.search channel = bus.pollBuffer channel.id := by
  simp [search, listens]

theorem search_sender (bus : Bus) {channel : Channel} (sends : channel.filter = .sendOnly) :
    bus.search channel = (bus, .ready (.error .notSubscribed)) := by
  simp [search, sends]

theorem poll_first_closed {bus : Bus} (closed : bus.closed = true) (channel : Channel) :
    bus.poll .first channel = (bus, .ready (.error .closed)) := by
  simp [poll, closed]

theorem poll_again_closed {bus : Bus} (closed : bus.closed = true) (takesFrame : Bool)
    (channel : Channel) : bus.poll (.again takesFrame) channel = bus.wake takesFrame channel := by
  simp [poll, closed]

/-- A receive that is woken on a closed bus takes the frame that a search finds, or it finds the bus
closed and leaves the line. -/
theorem wake_cases (bus : Bus) (takesFrame : Bool) (channel : Channel) :
    (∃ frame, bus.wake takesFrame channel = bus.search channel ∧
        (bus.search channel).2 = .ready (.ok frame)) ∨
      bus.wake takesFrame channel = (bus.abandon channel, .ready (.error .closed)) := by
  unfold wake
  split
  · next frame found => exact .inl ⟨frame, found.symm, by rw [found]⟩
  · exact .inr rfl

/-- A look does what a search does, or it finds that the bus is closed. -/
theorem poll_cases (bus : Bus) (look : Look) (channel : Channel) :
    bus.poll look channel = bus.search channel ∨
      bus.closed = true ∧ ∃ line, bus.poll look channel =
        ({ bus with line }, .ready (.error .closed)) := by
  by_cases closed : bus.closed = true
  · cases look with
    | first => exact .inr ⟨closed, bus.line, poll_first_closed closed channel⟩
    | again takesFrame =>
        rw [poll_again_closed closed]
        rcases bus.wake_cases takesFrame channel with ⟨_, found, _⟩ | refused
        · exact .inl found
        · exact .inr ⟨closed, _, refused⟩
  · exact .inl (poll_open (Bool.eq_false_iff.mpr closed) look channel)

@[simp] theorem queue_detach (bus : Bus) (channel : Channel) :
    (bus.detach channel).queue = bus.queue := by
  unfold detach
  cases channel.filter <;> rfl

@[simp] theorem closed_detach (bus : Bus) (channel : Channel) :
    (bus.detach channel).closed = bus.closed := by
  unfold detach
  cases channel.filter <;> rfl

@[simp] theorem line_detach (bus : Bus) (channel : Channel) :
    (bus.detach channel).line = bus.line.filter (· ≠ channel.id) := by
  unfold detach
  cases channel.filter <;> rfl

@[simp] theorem nextId_detach (bus : Bus) (channel : Channel) :
    (bus.detach channel).nextId = bus.nextId := by
  unfold detach
  cases channel.filter <;> rfl

theorem find?_detach_of_ne (bus : Bus) {channel : Channel} {id : Nat} (apart : id ≠ channel.id) :
    (bus.detach channel).subscriptions.find? id = bus.subscriptions.find? id := by
  unfold detach abandon
  cases channel.filter <;> simp [Ne.symm apart]

theorem find?_of_find?_detach {bus : Bus} {channel : Channel} {id : Nat}
    {subscription : Subscription}
    (found : (bus.detach channel).subscriptions.find? id = some subscription) :
    bus.subscriptions.find? id = some subscription := by
  by_cases own : id = channel.id
  · subst own
    unfold detach abandon at found
    cases filter : channel.filter <;> simp_all
  · rwa [bus.find?_detach_of_ne own] at found

theorem joinLine_nil (id : Nat) : joinLine [] id = [id] := rfl

theorem joinLine_self (id : Nat) : joinLine [id] id = [id] := by
  simp [joinLine]

end Bus

namespace Recorded

variable (recorded : Recorded Bus)

theorem poll_bus (look : Bus.Look) (channel : Channel) :
    Medium.poll recorded look channel =
      ({ recorded with
          medium := (recorded.medium.poll look channel).1
          taken := recorded.taken ++ takenBy channel (recorded.medium.poll look channel).2 },
        (recorded.medium.poll look channel).2) := rfl

theorem attach_bus (filter : Filter) :
    Medium.attach recorded filter =
      ({ recorded with medium := (recorded.medium.attach filter).1 },
        (recorded.medium.attach filter).2) := rfl

theorem detach_bus (channel : Channel) :
    Medium.detach recorded channel =
      { recorded with medium := recorded.medium.detach channel } := rfl

/-- What the bus accepts is recorded as published. -/
theorem publish_bus {frame : Frame} (accepted : (recorded.medium.publish frame).result = .ok ()) :
    (Medium.publish recorded frame).state =
        { recorded with
          medium := (recorded.medium.publish frame).state
          published := recorded.published ++ [frame] } ∧
      (Medium.publish recorded frame).result = .ok () := by
  constructor
  · simp only [Medium.publish, publish]
    rw [accepted]
  · exact accepted

/-- A channel without a subscription was opened. -/
def issueId : Recorded Bus :=
  { recorded with medium := { recorded.medium with nextId := recorded.medium.nextId + 1 } }

theorem attach_requests (isOpen : recorded.medium.closed = false) :
    Medium.attach recorded .requests =
      (recorded.issueId, .ok { id := recorded.medium.nextId, filter := .requests }) := by
  rw [attach_bus]
  simp [Bus.attach, isOpen, issueId]

/-- The first frame of the queue was taken and nobody is left in line. -/
def takeFirst (frame : Frame) (rest : List Frame) : Recorded Bus :=
  { recorded with
    medium := { recorded.medium with queue := rest, line := [] }
    taken := recorded.taken ++ [frame] }

/-- The only reader of requests is in line. -/
def lineUp (channel : Channel) : Recorded Bus :=
  { recorded with medium := { recorded.medium with line := [channel.id] } }

variable {recorded} {channel : Channel}

theorem poll_queued (isOpen : recorded.medium.closed = false) (reader : channel.filter = .requests)
    (alone : Bus.joinLine recorded.medium.line channel.id = [channel.id])
    {frame : Frame} {rest : List Frame} (queued : recorded.medium.queue = frame :: rest)
    (look : Bus.Look) :
    Medium.poll recorded look channel = (recorded.takeFirst frame rest, .ready (.ok frame)) := by
  rw [poll_bus, Bus.poll_requests_cons isOpen reader alone queued]
  simp [takeFirst, takenBy, reader]

theorem poll_idle (isOpen : recorded.medium.closed = false) (reader : channel.filter = .requests)
    (alone : Bus.joinLine recorded.medium.line channel.id = [channel.id])
    (queued : recorded.medium.queue = []) (look : Bus.Look) :
    Medium.poll recorded look channel = (recorded.lineUp channel, .waiting) := by
  rw [poll_bus, Bus.poll_requests_nil isOpen reader alone queued]
  simp [lineUp, takenBy]

/-- A channel that reads requests leaves no trace once its reader is out of the line. -/
theorem detach_of_line_nil (reader : channel.filter = .requests)
    (unattended : recorded.medium.line = []) : Medium.detach recorded channel = recorded := by
  have inner : recorded.medium.detach channel = recorded.medium := by
    simp only [Bus.detach, Bus.abandon, reader, unattended, List.filter_nil]
    rw [← unattended]
  rw [detach_bus, inner]

end Recorded

end RemoteObjects
