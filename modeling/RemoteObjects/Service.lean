import RemoteObjects.Bus.Medium
import RemoteObjects.Host.Basic
import RemoteObjects.Wire.Request

namespace RemoteObjects

/-- The only failures of a service are those of its medium. -/
structure Service.Failure where
  medium : Bus.Failure
deriving DecidableEq, Repr

namespace Service

def Failure.message (failure : Failure) : String :=
  "Fabric error: " ++ failure.medium.message

def Failure.causes (failure : Failure) : List String :=
  [failure.medium.message]

variable {η μ : Type}

/-- The reply travels under the response tag of the request as it was decoded. -/
def replyFrame (request : Request) (reply : Reply) : Frame :=
  { tag := request.responseTag, payload := reply.encode }

/-- A frame under another tag than its request's is noticed and answered all the same. -/
def foreignTag (frame : Frame) (request : Request) : List Event :=
  if request.tag = frame.tag then []
  else [.warn "request arrived under a foreign tag"
    [("tag", frame.tag.text), ("expected", request.tag.text)]]

/-- One frame is handled completely; the result is the reply to publish, if any. -/
def handle (execute : Execution η) (host : η) (frame : Frame) : Step η (Option Frame) :=
  match Request.decodeAny frame.payload with
  | .error fault =>
      { state := host
        result := none
        events := [.warn "dropped undecodable request"
          [("tag", frame.tag.text), ("error", fault.message)]] }
  | .ok request =>
      match request.checkShape with
      | .ok () =>
          let answered := execute host request
          { state := answered.state
            result := answered.result.map (replyFrame request)
            events := foreignTag frame request ++ answered.events }
      | .error violation =>
          { state := host
            result := (Execution.refuseMalformed request).map (replyFrame request)
            events := foreignTag frame request ++
              [.warn "rejected malformed request"
                [("tag", frame.tag.text), ("class", request.className),
                  ("error", violation.fault.message)]] }

/-- A service waits on a channel, has served and may go on, or has failed. -/
inductive Progress where
  | waiting (channel : Channel)
  | served
  | failed (failure : Failure)
deriving DecidableEq, Repr

variable [Medium μ]

/-- A channel serves at most one frame and is given back after it. -/
def attend (execute : Execution η) (look : Bus.Look) (medium : μ) (host : η) (channel : Channel) :
    Step (μ × η) Progress :=
  match Medium.poll medium look channel with
  | (medium, .waiting) => { state := (medium, host), result := .waiting channel }
  | (medium, .ready (.error failure)) =>
      { state := (Medium.detach medium channel, host), result := .failed ⟨failure⟩ }
  | (medium, .ready (.ok frame)) =>
      let handled := handle execute host frame
      match handled.result with
      | none =>
          { state := (Medium.detach medium channel, handled.state)
            result := .served
            events := handled.events }
      | some reply =>
          let sent := Medium.publish medium reply
          let state := (Medium.detach sent.state channel, handled.state)
          match sent.result with
          | .error failure =>
              { state, result := .failed ⟨failure⟩, events := handled.events ++ sent.events }
          | .ok () =>
              { state
                result := .served
                events := handled.events ++ sent.events ++
                  [.trace "sent reply" [("tag", reply.tag.text)]] }

/-- Every frame is taken through a channel of its own. -/
def serveOne (execute : Execution η) (medium : μ) (host : η) : Step (μ × η) Progress :=
  match Medium.attach medium .requests with
  | (medium, .error failure) => { state := (medium, host), result := .failed ⟨failure⟩ }
  | (medium, .ok channel) => attend execute .first medium host channel

/-- The loop serves at most so many frames; it stops earlier when it has to wait or fails. -/
def serveUpTo (execute : Execution η) : Nat → μ → η → Step (μ × η) Progress
  | 0, medium, host => { state := (medium, host), result := .served }
  | limit + 1, medium, host =>
      let turn := serveOne execute medium host
      match turn.result with
      | .served =>
          let rest := serveUpTo execute limit turn.state.1 turn.state.2
          { rest with events := turn.events ++ rest.events }
      | .waiting _ | .failed _ => turn

/-- A failing medium ends the loop with an entry in the log. -/
def report (turn : Step (μ × η) Progress) : Step (μ × η) Progress :=
  match turn.result with
  | .failed failure =>
      { turn with
        events := turn.events ++ [.error "server loop failed" [("error", failure.message)]] }
  | .waiting _ | .served => turn

/-- After so many frames a loop gives way to others, even if more are queued. -/
def burst : Nat := 64

/-- A loop that gave way goes on with the queue. -/
def proceed (execute : Execution η) (medium : μ) (host : η) : Step (μ × η) Progress :=
  report (serveUpTo execute burst medium host)

def start (execute : Execution η) (medium : μ) (host : η) : Step (μ × η) Progress :=
  let turn := proceed execute medium host
  { turn with events := .info "server loop started" [] :: turn.events }

/-- A waiting loop looks at its channel again and, if it could serve, goes on with the queue. -/
def resume (execute : Execution η) (takesFrame : Bool) (medium : μ) (host : η) (channel : Channel) :
    Step (μ × η) Progress :=
  let first := attend execute (.again takesFrame) medium host channel
  match first.result with
  | .served =>
      let rest := serveUpTo execute (burst - 1) first.state.1 first.state.2
      report { rest with events := first.events ++ rest.events }
  | .waiting _ | .failed _ => report first

/-- A loop that is told to stop gives its channel back, if it waits on one. -/
def stop (medium : μ) (channel : Option Channel) : μ × List Event :=
  (channel.elim medium (Medium.detach medium), [.info "server loop stopped" []])

end Service

end RemoteObjects
