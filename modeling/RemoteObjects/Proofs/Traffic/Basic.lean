import RemoteObjects.Proofs.Bus.Switchboard
import RemoteObjects.Proofs.Service.Stages
import RemoteObjects.Proofs.Transport.Sending

namespace RemoteObjects

open Switchboard (Act)

/-- A request that is sent, with two numbers that nobody in the traffic sees: how many responses under
its response tag were sent before its channel was opened, and how many requests before its own. -/
structure Journey extends Sending where
  heard : Nat
  position : Nat := 0
deriving DecidableEq, Repr

/-- Any number of clients and services on one bus, and whatever the services work on. A journey goes by
the number of its channel. What the services handled is written down, the last at the end. -/
structure Traffic (ι η : Type) where
  board : Switchboard := {}
  host : η
  now : Nat := 0
  journeys : Association Nat Journey := {}
  services : Association ι Service.Stage := {}
  executed : List (ι × Frame) := []

namespace Traffic

/-- One move is at most one operation of the bus, or one request handled by a host. Clients, services and
the clock move in any order, and so do others with channels of their own. A receive that is woken on a
closed bus takes a frame or not, as the move says. -/
inductive Move (ι : Type) where
  | send (oneWay : Bool) (limit : Option Nat) (request : Request)
  | proceed (id : Nat) (takesFrame : Bool)
  | giveUp (id : Nat)
  | start (name : ι)
  | serve (name : ι) (takesFrame : Bool)
  | stop (name : ι)
  | pass (duration : Nat)
  | outside (act : Act)
deriving DecidableEq, Repr

/-- The requests that the moves send, in order. -/
def requestsOf {ι : Type} (moves : List (Move ι)) : List Request :=
  moves.filterMap fun
    | .send _ _ request => some request
    | .proceed _ _ | .giveUp _ | .start _ | .serve _ _ | .stop _ | .pass _ | .outside _ => none

theorem requestsOf_cons {ι : Type} (move : Move ι) (moves : List (Move ι)) :
    requestsOf (move :: moves) = requestsOf [move] ++ requestsOf moves := by
  rw [requestsOf, ← List.singleton_append, List.filterMap_append]
  rfl

variable {ι η : Type}

/-- The request opens its channel; on a closed bus it goes no further. -/
def send (traffic : Traffic ι η) (oneWay : Bool) (limit : Option Nat) (request : Request) :
    Traffic ι η :=
  match Medium.attach traffic.board (request.filter oneWay) with
  | (board, .error _) => { traffic with board }
  | (board, .ok channel) =>
      let heard := (traffic.board.sentUnder request.responseTag).length
      { traffic with
        board
        journeys := traffic.journeys.set channel.id { request, oneWay, limit, channel, heard } }

def clientStep (traffic : Traffic ι η) (takesFrame : Bool) (journey : Journey) :
    Switchboard × Option Sending.Stage :=
  journey.step traffic.now (traffic.board.look journey.channel.id takesFrame) traffic.board

/-- The journey at its next stage. The step from the first stage is the one that sends the request. -/
def moved (traffic : Traffic ι η) (journey : Journey) (stage : Sending.Stage) : Journey :=
  let position :=
    if journey.stage = .opened then traffic.board.sentRequests.length else journey.position
  { journey with stage, position }

def proceed (traffic : Traffic ι η) (takesFrame : Bool) (journey : Journey) : Traffic ι η :=
  let id := journey.channel.id
  match traffic.clientStep takesFrame journey with
  | (board, none) => { traffic with board, journeys := traffic.journeys.erase id }
  | (board, some stage) =>
      { traffic with board, journeys := traffic.journeys.set id (traffic.moved journey stage) }

/-- A client can be stopped only where it waits, and then its channel goes away. -/
def giveUp (traffic : Traffic ι η) (journey : Journey) : Traffic ι η :=
  if journey.channel.id ∈ traffic.board.waiting then
    { traffic with
      board := traffic.board.detach journey.channel
      journeys := traffic.journeys.erase journey.channel.id }
  else
    traffic

/-- The channels of the clients and of the services. -/
def owned (traffic : Traffic ι η) : List Channel :=
  traffic.journeys.entries.map (·.2.channel) ++
    traffic.services.entries.filterMap (·.2.channel?)

def serviceStep (executions : ι → Execution η) (traffic : Traffic ι η) (name : ι) (takesFrame : Bool)
    (stage : Service.Stage) : (Switchboard × η) × Service.Stage :=
  let look := stage.channel?.elim .first fun channel => traffic.board.look channel.id takesFrame
  stage.step (executions name) look traffic.board traffic.host

variable [DecidableEq ι]

def start (traffic : Traffic ι η) (name : ι) : Traffic ι η :=
  match traffic.services.find? name with
  | none | some (.failed _) => { traffic with services := traffic.services.set name .ready }
  | some _ => traffic

def serve (executions : ι → Execution η) (traffic : Traffic ι η) (name : ι) (takesFrame : Bool)
    (stage : Service.Stage) : Traffic ι η :=
  let ((board, host), next) := traffic.serviceStep executions name takesFrame stage
  { traffic with
    board
    host
    services := traffic.services.set name next
    executed := traffic.executed ++ stage.held?.toList.map fun frame => (name, frame) }

/-- A service stops between two frames or while it waits for one. -/
def stop (traffic : Traffic ι η) (name : ι) : Service.Stage → Traffic ι η
  | .ready => { traffic with services := traffic.services.erase name }
  | .looking channel =>
      if channel.id ∈ traffic.board.waiting then
        { traffic with
          board := traffic.board.detach channel
          services := traffic.services.erase name }
      else
        traffic
  | .holding _ _ | .replying _ _ _ | .leaving _ _ | .failed _ => traffic

/-- Who is named and is not there makes no move, nor do others with a channel that is not theirs. -/
def after (executions : ι → Execution η) (traffic : Traffic ι η) : Move ι → Traffic ι η
  | .send oneWay limit request => traffic.send oneWay limit request
  | .proceed id takesFrame => (traffic.journeys.find? id).elim traffic (traffic.proceed takesFrame)
  | .giveUp id => (traffic.journeys.find? id).elim traffic traffic.giveUp
  | .start name => traffic.start name
  | .serve name takesFrame =>
      (traffic.services.find? name).elim traffic (traffic.serve executions name takesFrame)
  | .stop name => (traffic.services.find? name).elim traffic (traffic.stop name)
  | .pass duration => { traffic with now := traffic.now + duration }
  | .outside act =>
      if act.avoids traffic.owned then { traffic with board := traffic.board.after act } else traffic

def run (executions : ι → Execution η) (traffic : Traffic ι η) (moves : List (Move ι)) :
    Traffic ι η :=
  moves.foldl (after executions) traffic

/-- What every move preserves holds after every run. -/
theorem run_induction {executions : ι → Execution η} {motive : Traffic ι η → Prop}
    (step : ∀ {traffic : Traffic ι η} (move : Move ι), motive traffic →
      motive (traffic.after executions move))
    {traffic : Traffic ι η} (start : motive traffic) (moves : List (Move ι)) :
    motive (traffic.run executions moves) := by
  induction moves generalizing traffic with
  | nil => exact start
  | cons move moves ih => exact ih (step move start)

end Traffic

end RemoteObjects
