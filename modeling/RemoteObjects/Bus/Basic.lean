import RemoteObjects.Association
import RemoteObjects.Event
import RemoteObjects.Tag
import RemoteObjects.Transport.Failure

namespace RemoteObjects

/-- What a channel listens for. -/
inductive Filter where
  | exact (tag : Tag)
  | requests
  | sendOnly
deriving DecidableEq, Repr, Inhabited

structure Channel where
  id : Nat
  filter : Filter
deriving DecidableEq, Repr, Inhabited

/-- The frames that arrived for a channel and were not taken yet. -/
structure Subscription where
  tag : Tag
  buffer : List Frame := []
deriving DecidableEq, Repr, Inhabited

/-- Request frames queue until a reader of requests takes them, and the readers wait in line. The
arrivals are the listeners for which something arrived, until somebody has attended to them. Fewer
than 2 ^ 64 channels are opened on a bus, so that every channel has a number of its own. -/
structure Bus where
  closed : Bool := false
  queue : List Frame := []
  subscriptions : Association Nat Subscription := {}
  line : List Nat := []
  arrivals : List Nat := []
  nextId : Nat := 1
deriving DecidableEq, Repr, Inhabited

namespace Bus

inductive Failure where
  | closed
  | notSubscribed
deriving DecidableEq, Repr, Inhabited

def Failure.message : Failure → String
  | .closed => "Fabric closed"
  | .notSubscribed => "Channel has no receive subscription"

def Failure.toTransport : Failure → Transport.Failure
  | .closed => .unavailable "fabric closed"
  | .notSubscribed => .connectionLost Failure.notSubscribed.message

/-- A look for a frame finds one, fails, or has to wait. -/
inductive Polled where
  | ready (result : Except Failure Frame)
  | waiting

/-- A receive looks for a frame when it begins. If it has to wait it looks again when it is woken, and
one that is woken by a frame and by the closing of the bus may take the frame or not. -/
inductive Look where
  | first
  | again (takesFrame : Bool)
deriving DecidableEq, Repr

/-- A channel for an exact tag is subscribed as soon as it exists. -/
def attach (bus : Bus) (filter : Filter) : Bus × Except Failure Channel :=
  if bus.closed then (bus, .error .closed)
  else
    let channel := { id := bus.nextId, filter }
    let bus := { bus with nextId := bus.nextId + 1 }
    match filter with
    | .exact tag =>
        ({ bus with subscriptions := bus.subscriptions.set channel.id { tag } }, .ok channel)
    | .requests | .sendOnly => (bus, .ok channel)

/-- A subscription takes a copy of every frame under its tag. -/
def Subscription.receive (frame : Frame) (subscription : Subscription) : Subscription :=
  if subscription.tag = frame.tag then
    { subscription with buffer := subscription.buffer ++ [frame] }
  else
    subscription

/-- Whoever is not in line yet goes to its end. -/
def joinLine (line : List Nat) (id : Nat) : List Nat :=
  if id ∈ line then line else line ++ [id]

/-- The channels that listen for exactly this tag, the oldest first. -/
def listeners (bus : Bus) (tag : Tag) : List Nat :=
  (bus.subscriptions.entries.filter fun (_, subscription) => subscription.tag = tag).map Prod.fst

def deliver (bus : Bus) (frame : Frame) : Bus :=
  { bus with
    subscriptions :=
      ⟨bus.subscriptions.entries.map fun (id, subscription) =>
        (id, Subscription.receive frame subscription)⟩
    arrivals := (bus.listeners frame.tag).foldl joinLine bus.arrivals }

def publish (bus : Bus) (frame : Frame) : Step Bus (Except Failure Unit) :=
  if bus.closed then { state := bus, result := .error .closed }
  else if frame.tag.isRequest then
    { state := { bus with queue := bus.queue ++ [frame] }
      result := .ok ()
      events := [.trace "queued request frame" [("tag", frame.tag.text)]] }
  else
    { state := bus.deliver frame
      result := .ok ()
      events :=
        if bus.listeners frame.tag = [] then
          [.trace "dropped response frame with no subscriber" [("tag", frame.tag.text)]]
        else
          [] }

/-- Only the first reader in line takes a frame, and it leaves the line with it. -/
def pollQueue (bus : Bus) (id : Nat) : Bus × Polled :=
  let line := joinLine bus.line id
  match bus.queue with
  | [] => ({ bus with line }, .waiting)
  | frame :: queue =>
      if line.head? = some id then
        ({ bus with queue, line := line.tail }, .ready (.ok frame))
      else
        ({ bus with line }, .waiting)

def pollBuffer (bus : Bus) (id : Nat) : Bus × Polled :=
  match bus.subscriptions.find? id with
  | none => (bus, .ready (.error .notSubscribed))
  | some subscription =>
      match subscription.buffer with
      | [] => (bus, .waiting)
      | frame :: buffer =>
          ({ bus with subscriptions := bus.subscriptions.set id { subscription with buffer } },
            .ready (.ok frame))

def search (bus : Bus) (channel : Channel) : Bus × Polled :=
  match channel.filter with
  | .sendOnly => (bus, .ready (.error .notSubscribed))
  | .requests => bus.pollQueue channel.id
  | .exact _ => bus.pollBuffer channel.id

/-- A reader that gives up its wait leaves the line and keeps its channel. -/
def abandon (bus : Bus) (channel : Channel) : Bus :=
  { bus with line := bus.line.filter (· ≠ channel.id) }

/-- A receive that is woken on a closed bus is over, with a frame that it takes or without one. -/
def wake (bus : Bus) (takesFrame : Bool) (channel : Channel) : Bus × Polled :=
  match takesFrame, bus.search channel with
  | true, (bus, .ready (.ok frame)) => (bus, .ready (.ok frame))
  | _, _ => (bus.abandon channel, .ready (.error .closed))

/-- No receive begins on a closed bus, whatever arrived before. -/
def poll (bus : Bus) (look : Look) (channel : Channel) : Bus × Polled :=
  if bus.closed then
    match look with
    | .first => (bus, .ready (.error .closed))
    | .again takesFrame => bus.wake takesFrame channel
  else
    bus.search channel

/-- A waiting channel for which nothing arrived finds something only if the bus is closed or if it
reads a queue that is not empty. -/
def mayAnswer (bus : Bus) (filter : Filter) : Bool :=
  bus.closed || (filter = .requests && !bus.queue.isEmpty)

/-- A channel that goes away takes its subscription with it. -/
def detach (bus : Bus) (channel : Channel) : Bus :=
  let bus := bus.abandon channel
  match channel.filter with
  | .exact _ => { bus with subscriptions := bus.subscriptions.erase channel.id }
  | .requests | .sendOnly => bus

/-- The arrivals so far have been attended to. -/
def acknowledge (bus : Bus) : Bus :=
  { bus with arrivals := [] }

def close (bus : Bus) : Bus :=
  { bus with closed := true }

def subscriberCount (bus : Bus) : Nat :=
  bus.subscriptions.size

/-- The frames that can be taken before anything more is published. -/
def backlog (bus : Bus) : Nat :=
  bus.queue.length +
    bus.subscriptions.entries.foldr (fun entry total => entry.2.buffer.length + total) 0

end Bus

end RemoteObjects
