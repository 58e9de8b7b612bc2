import RemoteObjects.Proofs.Service.Answering
import RemoteObjects.Proofs.Wire.RoundTrip
import RemoteObjects.Transport.RoundTrip

namespace RemoteObjects

/-- The frame in which a request travels. -/
def Request.frame (request : Request) : Frame :=
  { tag := request.tag, payload := request.encode }

theorem Request.isRequest_frame (request : Request) : request.frame.tag.isRequest = true :=
  request.isRequest_tag

theorem Request.request?_frame {request : Request} (fits : request.fits = true) :
    request.frame.request? = some request := by
  have decoded := Request.decodeAny_encode fits []
  rw [List.append_nil] at decoded
  simp [Frame.request?, Request.frame, decoded, Except.toOption]

theorem Request.filterMap_request?_frame {requests : List Request}
    (fits : ∀ request ∈ requests, request.fits = true) :
    (requests.map Request.frame).filterMap Frame.request? = requests := by
  induction requests with
  | nil => rfl
  | cons request requests ih =>
      rw [List.map_cons, List.filterMap_cons_some (request?_frame (fits request (by simp))),
        ih fun other member => fits other (by simp [member])]

/-- What comes next for a client: to publish its request, to look for the reply, or to give its channel
back. -/
inductive Sending.Stage where
  | opened
  | waiting (deadline : Option Nat)
  | ended (result : Except Transport.Failure (Option Reply))
deriving DecidableEq, Repr

/-- A request that is sent through a channel of its own. -/
structure Sending where
  request : Request
  oneWay : Bool
  limit : Option Nat
  channel : Channel
  stage : Sending.Stage := .opened
deriving DecidableEq, Repr

/-- Who sends one way listens for nothing. -/
def Request.filter (request : Request) (oneWay : Bool) : Filter :=
  if oneWay then .sendOnly else .exact request.responseTag

namespace Sending

variable {μ : Type} [Medium μ]

def trip (sending : Sending) (deadline : Option Nat) : RoundTrip :=
  { responseTag := sending.request.responseTag, channel := sending.channel, deadline }

/-- How a request that was published goes on. -/
def Stage.sent (now : Nat) (sending : Sending) : Stage :=
  if sending.oneWay then .ended (.ok none) else .waiting (sending.limit.map (now + ·))

/-- What a look for the reply tells a client. A frame under another tag is passed over. -/
def Stage.looked (now : Nat) (sending : Sending) (deadline : Option Nat) : Bus.Polled → Stage
  | .ready (.ok frame) =>
      if frame.tag = sending.request.responseTag then
        .ended (((Reply.decode frame.payload).mapError .faulty).map some)
      else
        .waiting deadline
  | .ready (.error failure) => .ended (.error failure.toTransport)
  | .waiting =>
      if (sending.trip deadline).isDue now then .ended (.error .timeout) else .waiting deadline

/-- A look does not move the deadline. -/
theorem Stage.deadline_of_looked {now : Nat} {sending : Sending} {deadline last : Option Nat}
    {polled : Bus.Polled} (waits : looked now sending deadline polled = .waiting last) :
    last = deadline := by
  unfold looked at waits
  split at waits
  · split at waits
    · cases waits
    · exact (Stage.waiting.inj waits).symm
  · cases waits
  · split at waits
    · cases waits
    · exact (Stage.waiting.inj waits).symm

/-- One use of the medium. Nothing comes after the channel was given back. -/
def step (now : Nat) (look : Bus.Look) (medium : μ) (sending : Sending) : μ × Option Stage :=
  match sending.stage with
  | .opened =>
      let sent := Medium.publish medium sending.request.frame
      match sent.result with
      | .error failure => (sent.state, some (.ended (.error failure.toTransport)))
      | .ok () => (sent.state, some (.sent now sending))
  | .waiting deadline =>
      let (medium, polled) := Medium.poll medium look sending.channel
      (medium, some (.looked now sending deadline polled))
  | .ended _ => (Medium.detach medium sending.channel, none)

/-- Nobody goes back to the first stage. -/
theorem step_ne_opened (now : Nat) (look : Bus.Look) (medium : μ) (sending : Sending) :
    (sending.step now look medium).2 ≠ some .opened := by
  unfold step
  cases sending.stage with
  | opened =>
      dsimp only
      split
      · simp
      · simp only [Stage.sent]
        split <;> simp
  | waiting deadline =>
      dsimp only [Stage.looked]
      split
      · split <;> simp
      · simp
      · split <;> simp
  | ended result => simp

theorem ended_of_step {now : Nat} {look : Bus.Look} {medium : μ} {sending : Sending}
    (stops : (sending.step now look medium).2 = none) : ∃ result, sending.stage = .ended result := by
  unfold step at stops
  cases stage : sending.stage with
  | opened =>
      simp only [stage] at stops
      split at stops <;> cases stops
  | waiting deadline => simp [stage] at stops
  | ended result => exact ⟨result, rfl⟩

/-- To send one way is to publish and to give the channel back. -/
theorem sendOneWay_eq_steps {medium opened : μ} {channel : Channel} (request : Request) (now : Nat)
    (attached : Medium.attach medium (request.filter true) = (opened, .ok channel)) :
    let sent := RoundTrip.sendOneWay medium request
    let next := step now .first opened { request, oneWay := true, limit := none, channel }
    next.2 = some (.ended (sent.result.map fun () => none)) ∧
      sent.state = Medium.detach next.1 channel := by
  simp only [Request.filter, if_true] at attached
  simp only [RoundTrip.sendOneWay, attached, step, Request.frame, Stage.sent]
  cases (Medium.publish opened { tag := request.tag, payload := request.encode }).result with
  | error failure => exact ⟨rfl, rfl⟩
  | ok value => exact ⟨rfl, rfl⟩

/-- A round trip begins by publishing its request, and it gives the channel back if that fails. -/
theorem begin_eq_steps {medium opened : μ} {channel : Channel} (request : Request) (now : Nat)
    (limit : Option Nat)
    (attached : Medium.attach medium (request.filter false) = (opened, .ok channel)) :
    let begun := RoundTrip.begin now limit medium request
    let next := step now .first opened { request, oneWay := false, limit, channel }
    (∃ trip, begun.result = .ok trip ∧ trip.responseTag = request.responseTag ∧
        trip.channel = channel ∧ next.2 = some (.waiting trip.deadline) ∧ begun.state = next.1) ∨
      ∃ failure, begun.result = .error failure ∧ next.2 = some (.ended (.error failure)) ∧
        begun.state = Medium.detach next.1 channel := by
  simp only [Request.filter, Bool.false_eq_true, if_false] at attached
  simp only [RoundTrip.begin, attached, step, Request.frame, Stage.sent]
  cases (Medium.publish opened { tag := request.tag, payload := request.encode }).result with
  | error failure => exact .inr ⟨_, rfl, rfl, rfl⟩
  | ok value => exact .inl ⟨_, rfl, rfl, rfl, rfl, rfl⟩

/-- Where only its own response comes, a round trip looks once at a time, and with a result it gives the
channel back. -/
theorem poll_eq_steps {medium : μ} {sending : Sending} {deadline : Option Nat}
    (waits : sending.stage = .waiting deadline) (now : Nat) (look : Bus.Look)
    (own : ∀ frame, (Medium.poll medium look sending.channel).2 = .ready (.ok frame) →
      frame.tag = sending.request.responseTag) :
    let polled := (sending.trip deadline).poll now look medium
    let next := sending.step now look medium
    (polled.result = none ∧ next.2 = some (.waiting deadline) ∧ polled.state = next.1) ∨
      ∃ result, polled.result = some result ∧ next.2 = some (.ended (result.map some)) ∧
        polled.state = Medium.detach next.1 sending.channel := by
  simp only [RoundTrip.poll, step, waits]
  unfold RoundTrip.receive
  rw [show (sending.trip deadline).channel = sending.channel from rfl]
  rcases found : Medium.poll medium look sending.channel with ⟨rest, (failure | frame) | _⟩
  · exact .inr ⟨_, rfl, rfl, rfl⟩
  · have same := own frame (by rw [found])
    simp [trip, same, Stage.looked]
  · simp only [Stage.looked]
    cases (sending.trip deadline).isDue now with
    | true => exact .inr ⟨_, rfl, rfl, rfl⟩
    | false => simp

end Sending

end RemoteObjects
