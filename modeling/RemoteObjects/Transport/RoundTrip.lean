import RemoteObjects.Bus.Medium
import RemoteObjects.Wire.Request

namespace RemoteObjects

/-- A round trip that waits for its response, possibly until a deadline. -/
structure RoundTrip where
  responseTag : Tag
  channel : Channel
  deadline : Option Nat
deriving DecidableEq, Repr

namespace RoundTrip

variable {μ : Type} [Medium μ]

/-- A one-way request is published on a channel that listens for nothing. -/
def sendOneWay (medium : μ) (request : Request) : Step μ (Except Transport.Failure Unit) :=
  match Medium.attach medium .sendOnly with
  | (medium, .error failure) => { state := medium, result := .error failure.toTransport }
  | (medium, .ok channel) =>
      let sent := Medium.publish medium { tag := request.tag, payload := request.encode }
      let medium := Medium.detach sent.state channel
      match sent.result with
      | .error failure =>
          { state := medium, result := .error failure.toTransport, events := sent.events }
      | .ok () =>
          { state := medium
            result := .ok ()
            events := sent.events ++ [.trace "sent one-way frame" [("tag", request.tag.text)]] }

/-- The deadline counts from the moment at which the request was sent. -/
def begin (now : Nat) (limit : Option Nat) (medium : μ) (request : Request) :
    Step μ (Except Transport.Failure RoundTrip) :=
  let responseTag := request.responseTag
  match Medium.attach medium (.exact responseTag) with
  | (medium, .error failure) => { state := medium, result := .error failure.toTransport }
  | (medium, .ok channel) =>
      let sent := Medium.publish medium { tag := request.tag, payload := request.encode }
      match sent.result with
      | .error failure =>
          { state := Medium.detach sent.state channel
            result := .error failure.toTransport
            events := sent.events }
      | .ok () =>
          { state := sent.state
            result := .ok { responseTag, channel, deadline := limit.map (now + ·) }
            events := sent.events ++
              [.trace "sent request frame"
                [("tag", request.tag.text), ("response", responseTag.text)]] }

def isDue (trip : RoundTrip) (now : Nat) : Bool :=
  match trip.deadline with
  | some deadline => deadline ≤ now
  | none => false

/-- Frames under other tags are passed over, each by a receive of its own; the fuel bounds their
number. -/
def receive (trip : RoundTrip) : Nat → Bus.Look → μ → Step μ Bus.Polled
  | fuel, look, medium =>
      match Medium.poll medium look trip.channel with
      | (medium, .ready (.ok frame)) =>
          if frame.tag = trip.responseTag then
            { state := medium, result := .ready (.ok frame) }
          else
            let ignored := Event.trace "ignored unrelated frame" [("tag", frame.tag.text)]
            match fuel with
            | 0 => { state := medium, result := .waiting, events := [ignored] }
            | fuel + 1 =>
                let rest := trip.receive fuel .first medium
                { rest with events := ignored :: rest.events }
      | (medium, polled) => { state := medium, result := polled }

/-- The buffered response is looked for before the clock. No result means that the trip waits. -/
def poll (now : Nat) (look : Bus.Look) (medium : μ) (trip : RoundTrip) :
    Step μ (Option (Except Transport.Failure Reply)) :=
  let received := trip.receive (Medium.backlog medium) look medium
  match received.result with
  | .ready (.ok frame) =>
      { state := Medium.detach received.state trip.channel
        result := some ((Reply.decode frame.payload).mapError .faulty)
        events := received.events }
  | .ready (.error failure) =>
      { state := Medium.detach received.state trip.channel
        result := some (.error failure.toTransport)
        events := received.events }
  | .waiting =>
      if trip.isDue now then
        { state := Medium.detach received.state trip.channel
          result := some (.error .timeout)
          events := received.events }
      else
        { state := received.state, result := none, events := received.events }

/-- A trip that is given up gives its channel back. -/
def cancel (medium : μ) (trip : RoundTrip) : μ :=
  Medium.detach medium trip.channel

end RoundTrip

end RemoteObjects
