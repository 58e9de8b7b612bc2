import RemoteObjects.Bus.Basic

namespace RemoteObjects

/-- A medium opens channels, carries frames and lets channels wait for them. -/
class Medium (μ : Type) where
  attach : μ → Filter → μ × Except Bus.Failure Channel
  publish : μ → Frame → Step μ (Except Bus.Failure Unit)
  poll : μ → Bus.Look → Channel → μ × Bus.Polled
  abandon : μ → Channel → μ
  detach : μ → Channel → μ
  backlog : μ → Nat

instance : Medium Bus where
  attach := Bus.attach
  publish := Bus.publish
  poll := Bus.poll
  abandon := Bus.abandon
  detach := Bus.detach
  backlog := Bus.backlog

/-- What was tried on a scripted medium, failed attempts included. -/
inductive Script.Attempt where
  | attach (filter : Filter)
  | publish (frame : Frame)
  | receive
deriving DecidableEq, Repr

/-- Each use takes the next planned outcome; a plan for receiving that is used up is closed. -/
structure Script where
  attachments : List (Except Bus.Failure Unit) := []
  publications : List (Except Bus.Failure Unit) := []
  receptions : List (Except Bus.Failure Frame) := []
  attempts : List Script.Attempt := []

namespace Script

/-- A plan that is used up lets everything pass. -/
def nextOutcome : List (Except Bus.Failure Unit) →
    Except Bus.Failure Unit × List (Except Bus.Failure Unit)
  | [] => (.ok (), [])
  | outcome :: rest => (outcome, rest)

def attach (script : Script) (filter : Filter) : Script × Except Bus.Failure Channel :=
  let (outcome, attachments) := nextOutcome script.attachments
  let attempts := script.attempts ++ [.attach filter]
  ({ script with attachments, attempts }, outcome.map fun () => { id := 0, filter })

def publish (script : Script) (frame : Frame) : Step Script (Except Bus.Failure Unit) :=
  let (outcome, publications) := nextOutcome script.publications
  let attempts := script.attempts ++ [.publish frame]
  { state := { script with publications, attempts }, result := outcome }

def poll (script : Script) (_ : Bus.Look) (_ : Channel) : Script × Bus.Polled :=
  let attempts := script.attempts ++ [.receive]
  match script.receptions with
  | [] => ({ script with attempts }, .ready (.error .closed))
  | outcome :: receptions => ({ script with receptions, attempts }, .ready outcome)

end Script

instance : Medium Script where
  attach := Script.attach
  publish := Script.publish
  poll := Script.poll
  abandon := fun script _ => script
  detach := fun script _ => script
  backlog := fun script => script.receptions.length

end RemoteObjects
