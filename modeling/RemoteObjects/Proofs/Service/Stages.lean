import RemoteObjects.Proofs.Service.Answering

namespace RemoteObjects

namespace Service

/-- What comes next for a service: to open a channel, to look for a frame, to handle the frame that it
took, to publish the reply, or to give the channel back. Then it goes on or has failed. -/
inductive Stage where
  | ready
  | looking (channel : Channel)
  | holding (channel : Channel) (frame : Frame)
  | replying (channel : Channel) (frame reply : Frame)
  | leaving (channel : Channel) (failure? : Option Failure)
  | failed (failure : Failure)
deriving DecidableEq, Repr

namespace Stage

variable {η μ : Type}

def channel? : Stage → Option Channel
  | .looking channel | .holding channel _ | .replying channel _ _ | .leaving channel _ => some channel
  | .ready | .failed _ => none

/-- The frame that the service took and has not answered yet. -/
def frame? : Stage → Option Frame
  | .holding _ frame | .replying _ frame _ => some frame
  | .ready | .looking _ | .leaving _ _ | .failed _ => none

/-- The frame that the service took and has not handled yet. -/
def held? : Stage → Option Frame
  | .holding _ frame => some frame
  | .ready | .looking _ | .replying _ _ _ | .leaving _ _ | .failed _ => none

/-- The reply that the service has not published yet. -/
def reply? : Stage → Option Frame
  | .replying _ _ reply => some reply
  | .ready | .looking _ | .holding _ _ | .leaving _ _ | .failed _ => none

/-- The failure with which a service is going to end or has ended. -/
def failure? : Stage → Option Failure
  | .leaving _ failure? => failure?
  | .failed failure => some failure
  | .ready | .looking _ | .holding _ _ | .replying _ _ _ => none

/-- A service that has looked for a frame. -/
def looked (channel : Channel) : Bus.Polled → Stage
  | .ready (.ok frame) => .holding channel frame
  | .ready (.error failure) => .leaving channel (some ⟨failure⟩)
  | .waiting => .looking channel

/-- A service that has handled a frame. -/
def handled (channel : Channel) (frame : Frame) : Option Frame → Stage
  | none => .leaving channel none
  | some reply => .replying channel frame reply

/-- A service that has tried to publish its reply. -/
def replied (channel : Channel) : Except Bus.Failure Unit → Stage
  | .ok () => .leaving channel none
  | .error failure => .leaving channel (some ⟨failure⟩)

/-- A service without a channel. -/
def left : Option Failure → Stage
  | none => .ready
  | some failure => .failed failure

def opened : Except Bus.Failure Channel → Stage
  | .ok channel => .looking channel
  | .error failure => .failed ⟨failure⟩

variable [Medium μ]

/-- One use of the medium or of the host. -/
def step (execute : Execution η) (look : Bus.Look) (medium : μ) (host : η) : Stage → (μ × η) × Stage
  | .ready =>
      let (medium, attached) := Medium.attach medium .requests
      ((medium, host), opened attached)
  | .looking channel =>
      let (medium, polled) := Medium.poll medium look channel
      ((medium, host), looked channel polled)
  | .holding channel frame =>
      let answered := handle execute host frame
      ((medium, answered.state), handled channel frame answered.result)
  | .replying channel _ reply =>
      let sent := Medium.publish medium reply
      ((sent.state, host), replied channel sent.result)
  | .leaving channel failure? => ((Medium.detach medium channel, host), left failure?)
  | .failed failure => ((medium, host), .failed failure)

/-- A reply is the answer to a frame that was just handled. -/
theorem step_eq_replying {execute : Execution η} {look : Bus.Look} {medium : μ} {host : η}
    {stage : Stage} {channel : Channel} {frame reply : Frame}
    (turned : (stage.step execute look medium host).2 = .replying channel frame reply) :
    stage = .holding channel frame ∧ (handle execute host frame).result = some reply := by
  cases stage with
  | ready =>
      simp only [step, opened] at turned
      split at turned <;> cases turned
  | looking held =>
      simp only [step, looked] at turned
      split at turned <;> cases turned
  | holding held taken =>
      simp only [step, handled] at turned
      split at turned
      · cases turned
      · next answered =>
          cases turned
          exact ⟨rfl, answered⟩
  | replying held taken given =>
      simp only [step, replied] at turned
      split at turned <;> cases turned
  | leaving held failure? => cases failure? <;> cases turned
  | failed failure => cases turned

/-- A service that took a frame neither waits nor stops before it has given its channel back. -/
def isBusy : Stage → Bool
  | .holding _ _ | .replying _ _ _ | .leaving _ _ => true
  | .ready | .looking _ | .failed _ => false

/-- The most steps that a service has left before it waits if nothing is queued. -/
def unrest (waiting : List Nat) : Stage → Nat
  | .looking channel => if channel.id ∈ waiting then 0 else 1
  | .ready => 2
  | .leaving _ _ => 3
  | .replying _ _ _ => 4
  | .holding _ _ => 5
  | .failed _ => 0

theorem unrest_le (waiting : List Nat) (stage : Stage) : stage.unrest waiting ≤ 5 := by
  cases stage with
  | looking channel =>
      simp only [unrest]
      split <;> omega
  | _ => simp [unrest]

/-- The service goes on until it is through with its frame, for so many steps at most. -/
def settle (execute : Execution η) : Nat → (μ × η) × Stage → (μ × η) × Stage
  | 0, current => current
  | limit + 1, current =>
      if current.2.isBusy then
        settle execute limit (current.2.step execute .first current.1.1 current.1.2)
      else
        current

def ofProgress : Progress → Stage
  | .waiting channel => .looking channel
  | .served => .ready
  | .failed failure => .failed failure

theorem settle_busy (execute : Execution η) (limit : Nat) (medium : μ) (host : η) {stage : Stage}
    (busy : stage.isBusy = true) :
    settle execute (limit + 1) ((medium, host), stage) =
      settle execute limit (stage.step execute .first medium host) := by
  simp [settle, busy]

/-- To attend to a channel is to look once and to go on until the frame, if there is one, is dealt
with. -/
theorem attend_eq_steps (execute : Execution η) (look : Bus.Look) (medium : μ) (host : η)
    (channel : Channel) :
    let turn := attend execute look medium host channel
    settle execute 3 (step execute look medium host (.looking channel)) =
      (turn.state, ofProgress turn.result) := by
  simp only [attend, step]
  rcases Medium.poll medium look channel with ⟨medium, (failure | frame) | _⟩
  · rfl
  · dsimp only [looked]
    rw [settle_busy execute 2 medium host rfl]
    dsimp only [step]
    cases (handle execute host frame).result with
    | none => rfl
    | some reply =>
        dsimp only [handled]
        rw [settle_busy execute 1 medium _ rfl]
        dsimp only [step]
        cases (Medium.publish medium reply).result with
        | error failure => rfl
        | ok value => rfl
  · rfl

/-- A service without a channel opens one before it looks. -/
theorem serveOne_eq_steps (execute : Execution η) (medium : μ) (host : η) :
    let opened := step execute .first medium host .ready
    let turn := serveOne execute medium host
    (∀ channel, opened.2 = .looking channel →
        turn = attend execute .first opened.1.1 opened.1.2 channel) ∧
      ∀ failure, opened.2 = .failed failure →
        turn = { state := opened.1, result := .failed failure } := by
  simp only [serveOne, step]
  rcases Medium.attach medium .requests with ⟨medium, failure | channel⟩
  · simp [Stage.opened]
  · simp [Stage.opened]

end Stage

end Service

end RemoteObjects
