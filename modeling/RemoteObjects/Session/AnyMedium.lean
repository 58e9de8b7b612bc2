import RemoteObjects.Bus.Medium

namespace RemoteObjects.Session

/-- A session has buses and scripted media. -/
inductive AnyMedium where
  | live (bus : Bus)
  | scripted (script : Script)

namespace AnyMedium

def attach (medium : AnyMedium) (filter : Filter) : AnyMedium × Except Bus.Failure Channel :=
  match medium with
  | .live bus => let (bus, result) := bus.attach filter; (.live bus, result)
  | .scripted script => let (script, result) := script.attach filter; (.scripted script, result)

def publish (medium : AnyMedium) (frame : Frame) : Step AnyMedium (Except Bus.Failure Unit) :=
  match medium with
  | .live bus =>
      let sent := bus.publish frame
      { state := .live sent.state, result := sent.result, events := sent.events }
  | .scripted script =>
      let sent := script.publish frame
      { state := .scripted sent.state, result := sent.result, events := sent.events }

def poll (medium : AnyMedium) (look : Bus.Look) (channel : Channel) : AnyMedium × Bus.Polled :=
  match medium with
  | .live bus => let (bus, polled) := bus.poll look channel; (.live bus, polled)
  | .scripted script => let (script, polled) := script.poll look channel; (.scripted script, polled)

def abandon (medium : AnyMedium) (channel : Channel) : AnyMedium :=
  match medium with
  | .live bus => .live (bus.abandon channel)
  | .scripted script => .scripted script

def detach (medium : AnyMedium) (channel : Channel) : AnyMedium :=
  match medium with
  | .live bus => .live (bus.detach channel)
  | .scripted script => .scripted script

def backlog : AnyMedium → Nat
  | .live bus => bus.backlog
  | .scripted script => Medium.backlog script

/-- Nobody waits on a scripted medium, so nothing arrives there. -/
def arrivals : AnyMedium → List Nat
  | .live bus => bus.arrivals
  | .scripted _ => []

def acknowledge : AnyMedium → AnyMedium
  | .live bus => .live bus.acknowledge
  | .scripted script => .scripted script

def mayAnswer (medium : AnyMedium) (filter : Filter) : Bool :=
  match medium with
  | .live bus => bus.mayAnswer filter
  | .scripted _ => true

end AnyMedium

instance : Medium AnyMedium where
  attach := AnyMedium.attach
  publish := AnyMedium.publish
  poll := AnyMedium.poll
  abandon := AnyMedium.abandon
  detach := AnyMedium.detach
  backlog := AnyMedium.backlog

end RemoteObjects.Session
