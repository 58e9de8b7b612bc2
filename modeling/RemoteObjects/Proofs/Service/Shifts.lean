import RemoteObjects.Proofs.Service.Loop
import RemoteObjects.Proofs.Service.Stages

namespace RemoteObjects.Service

variable {μ η : Type}

/-- A loop gets to the end of the queue once it has more turns than there ever were frames. -/
theorem Loop.Sound.idle_of_length_lt {execute : Execution η} {initial : η} {frames : List Frame}
    {loop : Loop (Recorded Bus) η} (sound : loop.Sound execute initial frames) {turns : Nat}
    (enough : frames.length < turns) :
    (loop.run acceptOnRecorded execute (List.replicate turns .turn)).Idle := by
  have queued : loop.medium.medium.queue.length ≤ frames.length := by
    rw [← sound.accounts.accounted, List.length_append]
    exact Nat.le_add_left _ _
  exact sound.idle_of_turns turns (.inr (Nat.lt_of_le_of_lt queued enough))

/-- A place where at most one service works at a time. -/
structure Station (μ η : Type) where
  medium : μ
  host : η
  stage? : Option Stage := none

namespace Station

/-- Others publish a frame; a service begins, goes one step on, or notices that it is to stop. -/
inductive Act where
  | arrival (frame : Frame)
  | start
  | step (look : Bus.Look)
  | stop

/-- What a service that is never stopped would notice. -/
def Act.occurrence? : Act → Option Occurrence
  | .arrival frame => some (.arrival frame)
  | .step _ => some .turn
  | .start | .stop => none

def uninterrupted (acts : List Act) : List Occurrence :=
  acts.filterMap Act.occurrence?

/-- The frame that was taken and has not been handled yet. -/
def held (station : Station μ η) : List Frame :=
  (station.stage?.bind Stage.held?).toList

/-- The reply that has not been published yet. -/
def unsent (station : Station μ η) : List Frame :=
  (station.stage?.bind Stage.reply?).toList

section Acts

variable [Medium μ]

/-- The service at this stage goes one step on. -/
def advance (execute : Execution η) (look : Bus.Look) (station : Station μ η) (stage : Stage) :
    Station μ η :=
  let ((medium, host), next) := stage.step execute look station.medium station.host
  { medium, host, stage? := some next }

/-- A service that has taken a frame does not notice that it is to stop before it is through with
it. -/
def dismiss (station : Station μ η) (stage : Stage) : Station μ η :=
  if stage.isBusy then station
  else { station with medium := (Service.stop station.medium stage.channel?).1, stage? := none }

/-- A service that was started has not looked at the queue yet. -/
def after (accept : μ → Frame → μ) (execute : Execution η) (station : Station μ η) :
    Act → Station μ η
  | .arrival frame => { station with medium := accept station.medium frame }
  | .start => { station with stage? := some (station.stage?.getD .ready) }
  | .step look => station.stage?.elim station (station.advance execute look)
  | .stop => station.stage?.elim station station.dismiss

def run (accept : μ → Frame → μ) (execute : Execution η) (station : Station μ η) (acts : List Act) :
    Station μ η :=
  acts.foldl (after accept execute) station

end Acts

/-- The frames were handled in order, and their replies were published but for the last, which may
still be unsent. -/
structure Handled (execute : Execution η) (initial : η) (station : Station (Recorded Bus) η)
    (frames : List Frame) : Prop where
  taken : station.medium.taken = frames ++ station.held
  executed : station.host = hostAfter execute initial frames
  answered : station.medium.published ++ station.unsent =
    (answers execute initial frames).reduceOption

/-- Nobody is in line but a service that looks for a frame, and no service has failed. -/
def Posted (line : List Nat) : Option Stage → Prop
  | none | some .ready | some (.holding _ _) => line = []
  | some (.looking channel) => channel.filter = .requests ∧ (line = [] ∨ line = [channel.id])
  | some (.replying _ _ reply) => reply.tag.isRequest = false ∧ line = []
  | some (.leaving _ failure?) => failure? = none ∧ line = []
  | some (.failed _) => False

/-- The bus is open, the frames are those that were taken and those that are queued, and the taken
ones were dealt with. -/
structure Sound (execute : Execution η) (initial : η) (frames : List Frame)
    (station : Station (Recorded Bus) η) : Prop where
  isOpen : station.medium.medium.closed = false
  accounted : station.medium.taken ++ station.medium.medium.queue = frames
  handled : ∃ handled, station.Handled execute initial handled
  posted : Posted station.medium.medium.line station.stage?

/-- The service waits and no frame is queued. -/
def Idle (station : Station (Recorded Bus) η) : Prop :=
  ∃ channel, station.stage? = some (.looking channel) ∧
    station.medium.medium.line = [channel.id] ∧ station.medium.medium.queue = []

/-- The most steps that the service has left before it is idle. -/
def unrest (station : Station (Recorded Bus) η) : Nat :=
  6 * station.medium.medium.queue.length +
    station.stage?.elim 0 (Stage.unrest station.medium.medium.line)

/-- A step of the service kept the station sound and brought it closer to its rest. -/
def Advances (execute : Execution η) (initial : η) (frames : List Frame)
    (station next : Station (Recorded Bus) η) : Prop :=
  next.Sound execute initial frames ∧ (next.unrest < station.unrest ∨ station.Idle ∧ next.Idle)

section Steps

variable {execute : Execution η} {initial : η} {frames : List Frame} {recorded : Recorded Bus}
  {host : η}

/-- A service that looks takes the first queued frame, or waits for one. -/
theorem Sound.look {channel : Channel}
    (sound : Sound execute initial frames ⟨recorded, host, some (.looking channel)⟩)
    (look : Bus.Look) :
    Advances execute initial frames ⟨recorded, host, some (.looking channel)⟩
      (advance execute look ⟨recorded, host, some (.looking channel)⟩ (.looking channel)) := by
  obtain ⟨isOpen, accounted, ⟨handled, taken, executed, answered⟩, reader, line⟩ := sound
  have alone : Bus.joinLine recorded.medium.line channel.id = [channel.id] := by
    rcases line with empty | own
    · exact (congrArg (Bus.joinLine · channel.id) empty).trans (Bus.joinLine_nil _)
    · exact (congrArg (Bus.joinLine · channel.id) own).trans (Bus.joinLine_self _)
  simp only [advance, Stage.step]
  cases queued : recorded.medium.queue with
  | nil =>
      rw [Recorded.poll_idle isOpen reader alone queued]
      refine ⟨⟨isOpen, accounted, ⟨handled, taken, executed, answered⟩, reader, .inr rfl⟩, ?_⟩
      rcases line with empty | own
      · refine .inl ?_
        simp_all [unrest, Stage.unrest, Stage.looked, Recorded.lineUp]
      · exact .inr ⟨⟨channel, rfl, own, queued⟩, ⟨channel, rfl, rfl, queued⟩⟩
  | cons frame rest =>
      rw [Recorded.poll_queued isOpen reader alone queued]
      refine ⟨⟨isOpen, ?_, ⟨handled, ?_, executed, answered⟩, rfl⟩, .inl ?_⟩
      · simpa [Recorded.takeFirst, queued] using accounted
      · simpa [Recorded.takeFirst, held, Stage.looked, Stage.held?] using taken
      · simp only [unrest, Option.elim_some, Stage.looked, Stage.unrest, Recorded.takeFirst, queued,
          List.length_cons]
        omega

/-- A frame that was handled is the last one of those that were. -/
theorem Handled.concat {channel : Channel} {frame : Frame} {handled : List Frame}
    (holds : Handled execute initial ⟨recorded, host, some (.holding channel frame)⟩ handled) :
    Handled execute initial ⟨recorded, (handle execute host frame).state,
      some (.handled channel frame (handle execute host frame).result)⟩ (handled ++ [frame]) := by
  obtain ⟨taken, executed, answered⟩ := holds
  have through : recorded.taken = handled ++ [frame] := taken
  have before : recorded.published = (answers execute initial handled).reduceOption := by
    simpa [unsent, Stage.reply?] using answered
  refine ⟨?_, ?_, ?_⟩
  · cases (handle execute host frame).result <;>
      simpa [held, Stage.handled, Stage.held?] using through
  · rw [hostAfter_append, ← executed]
    rfl
  · rw [answers_concat, List.reduceOption_append, ← executed, ← before]
    cases (handle execute host frame).result <;> rfl

theorem Sound.advance {stage : Stage}
    (sound : Sound execute initial frames ⟨recorded, host, some stage⟩) (look : Bus.Look) :
    Advances execute initial frames ⟨recorded, host, some stage⟩
      (Station.advance execute look ⟨recorded, host, some stage⟩ stage) := by
  cases stage with
  | looking channel => exact sound.look look
  | ready =>
      obtain ⟨isOpen, accounted, ⟨handled, taken, executed, answered⟩, line⟩ := sound
      simp only [Station.advance, Stage.step]
      rw [Recorded.attach_requests _ isOpen]
      refine ⟨⟨isOpen, accounted, ⟨handled, taken, executed, answered⟩, rfl, .inl line⟩, .inl ?_⟩
      simp only [unrest, Option.elim_some, Stage.opened, Stage.unrest, Recorded.issueId]
      split <;> omega
  | holding channel frame =>
      obtain ⟨isOpen, accounted, ⟨handled, holds⟩, line⟩ := sound
      have further := holds.concat
      simp only [Station.advance, Stage.step]
      cases result : (handle execute host frame).result with
      | none =>
          rw [result] at further
          refine ⟨⟨isOpen, accounted, ⟨_, further⟩, rfl, line⟩, .inl ?_⟩
          simp [unrest, Stage.handled, Stage.unrest]
      | some reply =>
          rw [result] at further
          refine ⟨⟨isOpen, accounted, ⟨_, further⟩, isRequest_of_handle result, line⟩, .inl ?_⟩
          simp [unrest, Stage.handled, Stage.unrest]
  | replying channel frame reply =>
      obtain ⟨isOpen, accounted, ⟨handled, taken, executed, answered⟩, response, line⟩ := sound
      obtain ⟨delivered, accepted⟩ := Bus.publish_response isOpen response
      obtain ⟨state, result⟩ := recorded.publish_bus accepted
      simp only [Station.advance, Stage.step, result, state, delivered]
      refine ⟨⟨isOpen, accounted, ⟨handled, taken, executed, ?_⟩, rfl, line⟩, .inl ?_⟩
      · simpa [unsent, Stage.replied, Stage.reply?] using answered
      · simp [unrest, Stage.replied, Stage.unrest, Bus.deliver]
  | leaving channel failure? =>
      obtain ⟨isOpen, accounted, ⟨handled, taken, executed, answered⟩, rfl, line⟩ := sound
      have empty : recorded.medium.line = [] := line
      simp only [Station.advance, Stage.step, Recorded.detach_bus]
      refine ⟨⟨?_, ?_, ⟨handled, taken, executed, answered⟩, ?_⟩, .inl ?_⟩
      · exact (Bus.closed_detach _ _).trans isOpen
      · simpa using accounted
      · simp [Stage.left, Posted, empty]
      · simp [unrest, Stage.left, Stage.unrest]
  | failed failure => exact sound.posted.elim

/-- A service that stops leaves the line and takes nothing with it. -/
theorem Sound.dismiss {stage : Stage}
    (sound : Sound execute initial frames ⟨recorded, host, some stage⟩) :
    (Station.dismiss ⟨recorded, host, some stage⟩ stage).Sound execute initial frames := by
  cases stage with
  | ready =>
      obtain ⟨isOpen, accounted, ⟨handled, taken, executed, answered⟩, line⟩ := sound
      exact ⟨isOpen, accounted, ⟨handled, taken, executed, answered⟩, line⟩
  | looking channel =>
      obtain ⟨isOpen, accounted, ⟨handled, taken, executed, answered⟩, reader, line⟩ := sound
      refine ⟨(Bus.closed_detach _ _).trans isOpen, ?_, ⟨handled, taken, executed, answered⟩, ?_⟩
      · exact (congrArg (recorded.taken ++ ·) (Bus.queue_detach _ _)).trans accounted
      · refine (Bus.line_detach _ _).trans ?_
        rcases line with empty | own <;> simp_all
  | holding channel frame => exact sound
  | replying channel frame reply => exact sound
  | leaving channel failure? => exact sound
  | failed failure => exact sound.posted.elim

variable {station : Station (Recorded Bus) η}

theorem Sound.start (sound : station.Sound execute initial frames) :
    (station.after acceptOnRecorded execute .start).Sound execute initial frames := by
  obtain ⟨recorded, host, _ | stage⟩ := station
  · obtain ⟨isOpen, accounted, ⟨handled, taken, executed, answered⟩, line⟩ := sound
    exact ⟨isOpen, accounted, ⟨handled, taken, executed, answered⟩, line⟩
  · exact sound

theorem Sound.after (sound : station.Sound execute initial frames) (act : Act) :
    (station.after acceptOnRecorded execute act).Sound execute initial
      (frames ++ arrivals (uninterrupted [act])) := by
  cases act with
  | arrival frame =>
      obtain ⟨isOpen, queue, line⟩ := acceptOnBus_open sound.isOpen frame
      obtain ⟨handled, taken, executed, answered⟩ := sound.handled
      refine ⟨isOpen, ?_, ⟨handled, taken, executed, answered⟩, ?_⟩
      · simp [Station.after, acceptOnRecorded, queue, ← sound.accounted, uninterrupted,
          Act.occurrence?]
      · exact line.symm ▸ sound.posted
  | start =>
      rw [show arrivals (uninterrupted [.start]) = [] from rfl, List.append_nil]
      exact sound.start
  | step look =>
      rw [show arrivals (uninterrupted [.step look]) = [] from rfl, List.append_nil]
      obtain ⟨recorded, host, _ | stage⟩ := station
      · exact sound
      · exact (sound.advance look).1
  | stop =>
      rw [show arrivals (uninterrupted [.stop]) = [] from rfl, List.append_nil]
      obtain ⟨recorded, host, _ | stage⟩ := station
      · exact sound
      · exact sound.dismiss

/-- Through all changes of service exactly the request frames that arrived are accounted for. -/
theorem Sound.run (sound : station.Sound execute initial frames) (acts : List Act) :
    (station.run acceptOnRecorded execute acts).Sound execute initial
      (frames ++ arrivals (uninterrupted acts)) := by
  induction acts generalizing station frames with
  | nil => simpa [Station.run, uninterrupted, arrivals] using sound
  | cons act acts ih =>
      have split : arrivals (uninterrupted (act :: acts)) =
          arrivals (uninterrupted [act]) ++ arrivals (uninterrupted acts) := by
        rw [arrivals, uninterrupted, ← List.singleton_append, List.filterMap_append,
          List.filterMap_append]
        rfl
      rw [split, ← List.append_assoc]
      exact ih (sound.after act)

theorem Idle.unrest_eq (idle : station.Idle) : station.unrest = 0 := by
  obtain ⟨channel, looks, line, empty⟩ := idle
  simp [unrest, looks, line, empty, Stage.unrest]

theorem Sound.idle_of_unrest (sound : station.Sound execute initial frames)
    (busy : station.stage?.isSome = true) (rest : station.unrest = 0) : station.Idle := by
  obtain ⟨recorded, host, stage?⟩ := station
  obtain ⟨stage, rfl⟩ := Option.isSome_iff_exists.mp busy
  have empty : recorded.medium.queue = [] :=
    List.length_eq_zero_iff.mp (by simp only [unrest] at rest; omega)
  have left : stage.unrest recorded.medium.line = 0 := by
    simp only [unrest, Option.elim_some] at rest
    omega
  cases stage with
  | looking channel =>
      obtain ⟨-, unattended | own⟩ := sound.posted
      · have empty : recorded.medium.line = [] := unattended
        simp [Stage.unrest, empty] at left
      · exact ⟨channel, rfl, own, empty⟩
  | failed failure => exact sound.posted.elim
  | _ => cases left

/-- A service is idle once it had as many steps as it had left. -/
theorem Sound.idle_of_steps (sound : station.Sound execute initial frames)
    (busy : station.stage?.isSome = true) (looks : List Bus.Look)
    (enough : station.unrest ≤ looks.length) :
    (station.run acceptOnRecorded execute (looks.map .step)).Idle := by
  induction looks generalizing station with
  | nil => exact sound.idle_of_unrest busy (Nat.le_zero.mp enough)
  | cons look looks ih =>
      obtain ⟨recorded, host, stage?⟩ := station
      obtain ⟨stage, rfl⟩ := Option.isSome_iff_exists.mp busy
      obtain ⟨further, lower | ⟨-, idle⟩⟩ := sound.advance look
      · exact ih further rfl (Nat.le_of_lt_succ (Nat.lt_of_lt_of_le lower enough))
      · exact ih further rfl (Nat.le_trans (Nat.le_of_eq idle.unrest_eq) (Nat.zero_le _))

/-- Whoever works after a start is idle after six steps for each queued frame and five more. -/
theorem Sound.idle_of_start (sound : station.Sound execute initial frames) (looks : List Bus.Look)
    (enough : 6 * station.medium.medium.queue.length + 5 ≤ looks.length) :
    (station.run acceptOnRecorded execute (.start :: looks.map .step)).Idle := by
  refine sound.start.idle_of_steps rfl looks (Nat.le_trans ?_ enough)
  exact Nat.add_le_add_left (Stage.unrest_le _ _) _

/-- A service that has no frame in hand has handled all that was taken. -/
theorem Sound.handled_taken (sound : station.Sound execute initial frames)
    (unheld : station.held = []) : station.Handled execute initial station.medium.taken := by
  obtain ⟨handled, holds⟩ := sound.handled
  have all : station.medium.taken = handled := by rw [holds.taken, unheld, List.append_nil]
  exact all ▸ holds

/-- A station at rest has done what a loop at rest has done that had the same frames to serve. -/
theorem Sound.eq_of_idle {loop : Loop (Recorded Bus) η} (sound : station.Sound execute initial frames)
    (other : loop.Sound execute initial frames) (idle : station.Idle) (alsoIdle : loop.Idle) :
    station.host = loop.host ∧ station.medium.published = loop.medium.published := by
  obtain ⟨channel, looks, -, empty⟩ := idle
  have unheld : station.held = [] := by simp [held, looks, Stage.held?]
  have sent : station.unsent = [] := by simp [unsent, looks, Stage.reply?]
  obtain ⟨-, executed, answered⟩ := sound.handled_taken unheld
  have taken : station.medium.taken = loop.medium.taken := by
    have all := sound.accounted.trans other.accounts.accounted.symm
    simpa [empty, alsoIdle.2] using all
  rw [sent, List.append_nil] at answered
  exact ⟨by rw [executed, other.accounts.executed, taken],
    by rw [answered, other.accounts.answered, taken]⟩

end Steps

/-- The station on the medium inside the record. -/
def forget (station : Station (Recorded μ) η) : Station μ η :=
  { medium := station.medium.medium, host := station.host, stage? := station.stage? }

theorem forget_after (execute : Execution η) (station : Station (Recorded Bus) η) (act : Act) :
    (station.after acceptOnRecorded execute act).forget =
      station.forget.after acceptOnBus execute act := by
  obtain ⟨recorded, host, _ | stage⟩ := station
  · cases act <;> rfl
  · cases act with
    | arrival frame => rfl
    | start => rfl
    | step look => cases stage <;> rfl
    | stop => cases stage <;> rfl

theorem forget_run (execute : Execution η) (station : Station (Recorded Bus) η) (acts : List Act) :
    (station.run acceptOnRecorded execute acts).forget =
      station.forget.run acceptOnBus execute acts := by
  induction acts generalizing station with
  | nil => rfl
  | cons act acts ih =>
      exact (ih _).trans (congrArg (fun station : Station Bus η =>
        station.run acceptOnBus execute acts) (forget_after execute station act))

/-- However often services are stopped and started on an open bus, no frame is lost or left half
handled, and together they do what a single service would have done that was never stopped. -/
theorem stopping_loses_nothing {σ : Type} (catalog : Catalog σ) (host : Host σ) {bus : Bus}
    (isOpen : bus.closed = false) (unattended : bus.line = []) (acts : List Act) :
    let execute := Host.execute catalog
    let station : Station (Recorded Bus) (Host σ) :=
      run acceptOnRecorded execute { medium := { medium := bus }, host } acts
    let requests (frames : List Frame) := frames.filterMap Frame.request?
    station.forget = run acceptOnBus execute { medium := bus, host } acts ∧
      station.medium.taken ++ station.medium.medium.queue =
        bus.queue ++ arrivals (uninterrupted acts) ∧
      (∃ handled, station.medium.taken = handled ++ station.held ∧
        station.host = (Host.answer catalog).after host (requests handled) ∧
        station.medium.published ++ station.unsent =
          replyFrames ((Host.answer catalog).replies host (requests handled))) ∧
      (∀ failure, station.stage? ≠ some (.failed failure)) ∧
      (station.stage? = none →
        station.medium.medium.line = [] ∧
        station.host = (Host.answer catalog).after host (requests station.medium.taken) ∧
        station.medium.published =
          replyFrames ((Host.answer catalog).replies host (requests station.medium.taken))) ∧
      (∀ looks : List Bus.Look, 6 * station.medium.medium.queue.length + 5 ≤ looks.length →
        (station.run acceptOnRecorded execute (.start :: looks.map .step)).Idle) ∧
      ∀ occurrences, arrivals occurrences = arrivals (uninterrupted acts) →
        ∀ turns, (bus.queue ++ arrivals occurrences).length < turns →
          let single : Loop (Recorded Bus) (Host σ) :=
            (Loop.start execute { medium := bus } host).run acceptOnRecorded execute
              (occurrences ++ List.replicate turns .turn)
          single.Idle ∧
            (station.Idle →
              station.host = single.host ∧
                station.medium.published = single.medium.published) := by
  intro execute station requests
  let vacant : Station (Recorded Bus) (Host σ) := { medium := { medium := bus }, host }
  have ready : vacant.Sound execute host bus.queue := ⟨isOpen, rfl, ⟨[], rfl, rfl, rfl⟩, unattended⟩
  have sound : station.Sound execute host (bus.queue ++ arrivals (uninterrupted acts)) :=
    ready.run acts
  refine ⟨forget_run execute vacant acts, sound.accounted, ?_, ?_, ?_, sound.idle_of_start, ?_⟩
  · obtain ⟨handled, taken, executed, answered⟩ := sound.handled
    exact ⟨handled, taken, executed.trans (hostAfter_eq_after execute host _),
      answered.trans (answers_eq_replyFrames execute host _)⟩
  · intro failure failed
    have posted := sound.posted
    rwa [failed] at posted
  · intro gone
    have posted := sound.posted
    rw [gone] at posted
    have sent : station.unsent = [] := by simp [unsent, gone]
    obtain ⟨-, executed, answered⟩ := sound.handled_taken (by simp [held, gone])
    rw [sent, List.append_nil] at answered
    exact ⟨posted, executed.trans (hostAfter_eq_after execute host _),
      answered.trans (answers_eq_replyFrames execute host _)⟩
  · intro occurrences same turns enough single
    have before := (Loop.start_sound execute host isOpen unattended).run occurrences
    have split : single = Loop.run acceptOnRecorded execute
        (Loop.run acceptOnRecorded execute (Loop.start execute { medium := bus } host) occurrences)
        (List.replicate turns .turn) := List.foldl_append
    have alone : single.Idle := split ▸ before.idle_of_length_lt enough
    refine ⟨alone, fun idle => ?_⟩
    have never : single.Sound execute host (bus.queue ++ arrivals (uninterrupted acts)) := by
      have quiet : arrivals (List.replicate turns .turn) = [] := by simp [arrivals]
      rw [split, ← same]
      simpa [quiet] using before.run (List.replicate turns .turn)
    exact sound.eq_of_idle never idle alone

/-- A service that is told to stop while it holds the first of two frames replies to it, and leaves
the second one to the next service. -/
theorem stopping_loses_nothing_between_frames :
    let first := Request.readStaticField "demo.Foo" "count"
    let second := Request.readStaticField "demo.Foo" "size"
    let frames : List Frame := [⟨⟨0, 0, 2⟩, first.encode⟩, ⟨⟨0, 0, 2⟩, second.encode⟩]
    let execute : Execution (Host Unit) := Host.execute {}
    let vacant : Station (Recorded Bus) (Host Unit) := { medium := { medium := {} }, host := {} }
    let steps (count : Nat) : List Act := List.replicate count (.step .first)
    let stopping := frames.map Act.arrival ++ .start :: steps 2 ++ .stop :: steps 3 ++ [.stop]
    let station := vacant.run acceptOnRecorded execute stopping
    let relieved := vacant.run acceptOnRecorded execute (stopping ++ .start :: steps 8)
    let single : Loop (Recorded Bus) (Host Unit) :=
      (Loop.start execute { medium := {} } {}).run acceptOnRecorded execute
        (frames.map Occurrence.arrival ++ List.replicate 3 .turn)
    station.stage? = none ∧
      station.medium.medium.queue = [⟨⟨0, 0, 2⟩, second.encode⟩] ∧
      station.medium.published =
        [⟨first.responseTag, Reply.encode (.refused .classNotFound)⟩] ∧
      relieved.host = single.host ∧ relieved.medium.published = single.medium.published := by
  intro first second frames execute vacant steps stopping station relieved single
  have isOpen : ({} : Bus).closed = false := rfl
  have gone : station.stage? = none := by decide +kernel
  have queue : station.medium.medium.queue = [⟨⟨0, 0, 2⟩, second.encode⟩] := by decide +kernel
  obtain ⟨-, accounted, -, -, stopped, -⟩ :=
    stopping_loses_nothing ({} : Catalog Unit) {} isOpen rfl stopping
  have came : arrivals (uninterrupted stopping) = frames := by decide +kernel
  have taken : station.medium.taken = [⟨⟨0, 0, 2⟩, first.encode⟩] := by
    have all : station.medium.taken ++ station.medium.medium.queue = frames := accounted.trans came
    rw [queue] at all
    exact List.append_cancel_right (all.trans rfl)
  obtain ⟨-, -, -, -, -, -, compared⟩ :=
    stopping_loses_nothing ({} : Catalog Unit) {} isOpen rfl (stopping ++ .start :: steps 8)
  refine ⟨gone, queue, (stopped gone).2.2.trans ?_, ?_⟩
  · rw [taken]
    rfl
  · have idle : relieved.Idle :=
      ⟨⟨3, .requests⟩, by decide +kernel, by decide +kernel, by decide +kernel⟩
    have same : arrivals (frames.map Occurrence.arrival) =
        arrivals (uninterrupted (stopping ++ .start :: steps 8)) := by decide +kernel
    have agrees := (compared (frames.map Occurrence.arrival) same 3 (by decide +kernel)).2 idle
    dsimp only [relieved, single, vacant, execute]
    exact agrees

end Station

end RemoteObjects.Service
