import RemoteObjects.Proofs.Bus.Closing
import RemoteObjects.Proofs.Traffic.Tracking

namespace RemoteObjects

open Switchboard (Act)

namespace RoundTrip

variable {μ : Type} [Medium μ] {medium : μ} (shut : Medium.Shut medium)

include shut

theorem sendOneWay_shut (request : Request) :
    sendOneWay medium request =
      { state := medium, result := .error (.unavailable "fabric closed") } := by
  simp only [sendOneWay, shut.attach]
  rfl

theorem begin_shut (now : Nat) (limit : Option Nat) (request : Request) :
    RoundTrip.begin now limit medium request =
      { state := medium, result := .error (.unavailable "fabric closed") } := by
  simp only [RoundTrip.begin, shut.attach]
  rfl

end RoundTrip

namespace Service.Stage

/-- The most steps that a service has left on a closed bus. -/
def stepsLeft : Stage → Nat
  | .looking _ => 4
  | .holding _ _ => 3
  | .replying _ _ _ | .leaving _ none => 2
  | .ready | .leaving _ (some _) => 1
  | .failed _ => 0

theorem stepsLeft_le (stage : Stage) : stage.stepsLeft ≤ 4 := by
  unfold stepsLeft
  split <;> omega

/-- Everything that a service can do on a closed bus. -/
inductive Ending (board : Switchboard) : Stage → Stage → Prop where
  | refused : Ending board .ready (.failed ⟨.closed⟩)
  | takes {channel : Channel} {frame : Frame} (waits : channel.id ∈ board.waiting)
      (queued : board.bus.queue.head? = some frame) :
      Ending board (.looking channel) (.holding channel frame)
  | woken (channel : Channel) : Ending board (.looking channel) (.leaving channel (some ⟨.closed⟩))
  | handles (channel : Channel) (frame : Frame) (reply? : Option Frame) :
      Ending board (.holding channel frame) (.handled channel frame reply?)
  | unheard (channel : Channel) (frame reply : Frame) :
      Ending board (.replying channel frame reply) (.leaving channel (some ⟨.closed⟩))
  | leaves (channel : Channel) (failure? : Option Failure) :
      Ending board (.leaving channel failure?) (.left failure?)
  | ended (failure : Failure) : Ending board (.failed failure) (.failed failure)

namespace Ending

variable {board : Switchboard} {stage next : Stage} {channel : Channel} {frame : Frame}

theorem stepsLeft (ending : Ending board stage next) : next.stepsLeft ≤ stage.stepsLeft - 1 := by
  cases ending with
  | handles channel frame reply? => cases reply? <;> exact Nat.le_refl _
  | leaves channel failure? => cases failure? <;> exact Nat.le_refl _
  | refused => exact Nat.le_refl _
  | takes => exact Nat.le_refl _
  | woken channel => simp [Stage.stepsLeft]
  | unheard channel frame reply => exact Nat.le_refl _
  | ended failure => exact Nat.le_refl _

/-- No receive goes on waiting. -/
theorem ne_looking (ending : Ending board stage next) : next ≠ .looking channel := by
  cases ending with
  | handles channel frame reply? => cases reply? <;> simp [handled]
  | leaves channel failure? => cases failure? <;> simp [left]
  | refused => simp
  | takes => simp
  | woken channel => simp
  | unheard channel frame reply => simp
  | ended failure => simp

/-- Only a receive that waited finds a frame. -/
theorem holding (ending : Ending board stage next) (holds : next = .holding channel frame) :
    stage = .looking channel ∧ channel.id ∈ board.waiting ∧ board.bus.queue.head? = some frame := by
  cases ending with
  | takes waits queued =>
      cases holds
      exact ⟨rfl, waits, queued⟩
  | handles channel frame reply? => cases reply? <;> cases holds
  | leaves channel failure? => cases failure? <;> cases holds
  | refused => cases holds
  | woken channel => cases holds
  | unheard channel frame reply => cases holds
  | ended failure => cases holds

end Ending

/-- A service that reads requests fails for no other reason than that the bus is closed. -/
theorem failure?_step {η : Type} {execute : Execution η} {look : Bus.Look} {board : Switchboard}
    {host : η} {stage : Stage}
    (reads : ∀ channel, stage.channel? = some channel → channel.filter = .requests)
    {failure : Failure} (fails : (stage.step execute look board host).2.failure? = some failure) :
    failure = ⟨.closed⟩ ∨ stage.failure? = some failure := by
  cases stage with
  | ready =>
      cases closed : board.bus.closed with
      | true =>
          simp only [step, Medium.attach, Bus.attach_closed closed] at fails
          exact .inl (Option.some.inj fails).symm
      | false =>
          simp only [step, Medium.attach, Bus.attach_open closed] at fails
          cases fails
  | looking channel =>
      simp only [step, Medium.poll] at fails
      rcases board.bus.poll_cases look channel with searched | ⟨-, line, refused⟩
      · rw [searched] at fails
        rcases board.bus.search_reader (reads channel rfl) with waits | ⟨frame, rest, line, -, -, takes⟩
        · rw [waits] at fails
          cases fails
        · rw [takes] at fails
          cases fails
      · rw [refused] at fails
        exact .inl (Option.some.inj fails).symm
  | holding channel frame =>
      simp only [step] at fails
      cases answered : (handle execute host frame).result with
      | none => rw [answered] at fails; cases fails
      | some reply => rw [answered] at fails; cases fails
  | replying channel frame reply =>
      cases closed : board.bus.closed with
      | true =>
          simp only [step, Medium.publish, Bus.publish_closed closed] at fails
          exact .inl (Option.some.inj fails).symm
      | false =>
          have sent : (board.bus.publish reply).result = .ok () := by
            cases request : reply.tag.isRequest with
            | true => exact (Bus.publish_request closed request).2
            | false => exact (Bus.publish_response closed request).2
          simp only [step, Medium.publish, sent] at fails
          cases fails
  | leaving channel failure? => cases failure? <;> exact .inr fails
  | failed failure => exact .inr fails

end Service.Stage

namespace Traffic

variable {ι η : Type} {traffic closing : Traffic ι η}

/-- The frame under this name can still be handled when the bus is closed: the service has it in its
hands, or it waits for a frame and this one is queued. -/
inductive Due [DecidableEq ι] (closing : Traffic ι η) (name : ι) (frame : Frame) : Prop where
  | held {channel : Channel} (holds : closing.services.find? name = some (.holding channel frame))
  | parked {channel : Channel} (looks : closing.services.find? name = some (.looking channel))
      (waits : channel.id ∈ closing.board.waiting) (queued : frame ∈ closing.board.bus.queue)

/-- The host after these frames, each handled by its service. -/
def hostAfter (executions : ι → Execution η) (host : η) (handled : List (ι × Frame)) : η :=
  handled.foldl (fun host entry => (Service.handle (executions entry.1) host entry.2).state) host

variable [DecidableEq ι]

/-- What a move handles. -/
def handledBy (traffic : Traffic ι η) : Move ι → List (ι × Frame)
  | .serve name _ =>
      ((traffic.services.find? name).bind Service.Stage.held?).toList.map fun frame => (name, frame)
  | .send _ _ _ | .proceed _ _ | .giveUp _ | .start _ | .stop _ | .pass _ | .outside _ => []

theorem of_mem_handledBy {move : Move ι} {entry : ι × Frame} (handled : entry ∈ traffic.handledBy move) :
    (∃ takesFrame, move = .serve entry.1 takesFrame) ∧
      ∃ channel, traffic.services.find? entry.1 = some (.holding channel entry.2) := by
  cases move with
  | serve name takesFrame =>
      simp only [handledBy, List.mem_map, Option.mem_toList,
        Option.bind_eq_some_iff] at handled
      obtain ⟨frame, ⟨stage, found, held⟩, rfl⟩ := handled
      refine ⟨⟨takesFrame, rfl⟩, ?_⟩
      cases stage <;> cases held
      exact ⟨_, found⟩
  | _ => cases handled

theorem nodup_handledBy (traffic : Traffic ι η) (move : Move ι) :
    ((traffic.handledBy move).map Prod.fst).Nodup := by
  cases move with
  | serve name takesFrame =>
      simp only [handledBy]
      cases (traffic.services.find? name).bind Service.Stage.held? <;> simp
  | _ => exact List.nodup_nil

/-- Only what a move handles reaches the host. -/
theorem after_handledBy (executions : ι → Execution η) (traffic : Traffic ι η) (move : Move ι) :
    (traffic.after executions move).executed = traffic.executed ++ traffic.handledBy move ∧
      (traffic.after executions move).host =
        hostAfter executions traffic.host (traffic.handledBy move) := by
  have unused {next : Traffic ι η} (executed : next.executed = traffic.executed)
      (host : next.host = traffic.host) (handles : traffic.handledBy move = []) :
      next.executed = traffic.executed ++ traffic.handledBy move ∧
        next.host = hostAfter executions traffic.host (traffic.handledBy move) := by
    rw [handles, executed, host, List.append_nil]
    exact ⟨rfl, rfl⟩
  cases traffic.step_after executions move with
  | @serves _ _ stage found moved =>
      rw [moved, handledBy, found]
      cases stage <;> exact ⟨rfl, rfl⟩
  | absent missing same => exact unused (by rw [same]) (by rw [same]) (by simp [handledBy, missing])
  | idle _ unserved same =>
      refine unused (by rw [same]) (by rw [same]) ?_
      cases move with
      | serve name takesFrame => exact absurd rfl (unserved name takesFrame)
      | _ => rfl
  | refused _ moved | opens _ moved | advances _ _ moved | arrives _ moved | givesUp _ _ moved
  | starts _ moved | retires _ moved | leaves _ _ moved | passes moved | others _ moved =>
      exact unused (by rw [moved]) (by rw [moved]) rfl

theorem serviceStep_closed (owning : traffic.Owning) (closed : traffic.board.bus.closed = true)
    (executions : ι → Execution η) (takesFrame : Bool) {name : ι} {stage : Service.Stage}
    (found : traffic.services.find? name = some stage) :
    stage.Ending traffic.board (traffic.serviceStep executions name takesFrame stage).2 := by
  cases stage with
  | ready =>
      simp only [serviceStep, Service.Stage.step, Medium.attach, Bus.attach_closed closed]
      exact .refused
  | looking channel =>
      simp only [serviceStep, Service.Stage.step, Medium.poll, Service.Stage.channel?, Option.elim_some]
      rcases Bus.poll_closed_cases closed (traffic.board.look channel.id takesFrame) channel with
        ⟨line, refused⟩ | ⟨frame, again, first, takes, -⟩
      · rw [refused]
        exact .woken channel
      · rw [takes]
        have reader := (owning.server found rfl).2
        exact .takes (Switchboard.mem_waiting_of_look again).1 (by simpa [Bus.buffered, reader] using first)
  | holding channel frame => exact .handles channel frame _
  | replying channel frame reply =>
      simp only [serviceStep, Service.Stage.step, Medium.publish, Bus.publish_closed closed]
      exact .unheard channel frame reply
  | leaving channel failure? => exact .leaves channel failure?
  | failed failure => exact .ended failure

/-- What is left of the traffic after the closing, in which these frames were still handled. -/
structure Dwindles (executions : ι → Execution η) (closing current : Traffic ι η)
    (more : List (ι × Frame)) : Prop where
  board : closing.board.Dwindles current.board
  executed : current.executed = closing.executed ++ more
  host : current.host = hostAfter executions closing.host more
  once : (more.map Prod.fst).Nodup
  due : ∀ entry ∈ more, closing.Due entry.1 entry.2
  parked : ∀ {name channel}, current.services.find? name = some (.looking channel) →
    channel.id ∈ current.board.waiting →
      closing.services.find? name = some (.looking channel) ∧ name ∉ more.map Prod.fst
  held : ∀ {name channel frame}, current.services.find? name = some (.holding channel frame) →
    closing.Due name frame ∧ name ∉ more.map Prod.fst

namespace Dwindles

variable {executions : ι → Execution η} {more : List (ι × Frame)}

theorem self (closed : traffic.board.bus.closed = true) : Dwindles executions traffic traffic [] where
  board := .self closed
  executed := by simp
  host := rfl
  once := List.nodup_nil
  due := by simp
  parked found _ := ⟨found, List.not_mem_nil⟩
  held found := ⟨.held found, List.not_mem_nil⟩

theorem after (dwindles : Dwindles executions closing traffic more) (owning : traffic.Owning)
    (move : Move ι) :
    Dwindles executions closing (traffic.after executions move) (more ++ traffic.handledBy move) := by
  have closed := dwindles.board.bus.closed
  obtain ⟨executed, host⟩ := traffic.after_handledBy executions move
  have board : traffic.board.Dwindles (traffic.after executions move).board := by
    rw [owning.board_after]
    cases traffic.act? move with
    | none => exact .self closed
    | some act => exact Switchboard.after_dwindles closed act
  -- A service that has not moved has handled nothing.
  have others {name : ι} (stays : ∀ takesFrame, move ≠ .serve name takesFrame)
      (before : name ∉ more.map Prod.fst) : name ∉ (more ++ traffic.handledBy move).map Prod.fst := by
    rw [List.map_append, List.mem_append]
    rintro (early | late)
    · exact before early
    · obtain ⟨entry, handled, rfl⟩ := List.mem_map.mp late
      obtain ⟨⟨takesFrame, serves⟩, -⟩ := of_mem_handledBy handled
      exact stays takesFrame serves
  have turn {name : ι} {next : Service.Stage}
      (serves : (traffic.after executions move).services.find? name = some next) :
      (traffic.services.find? name = some next ∧ ∀ takesFrame, move ≠ .serve name takesFrame) ∨
        next = .ready ∨ ∃ stage takesFrame, move = .serve name takesFrame ∧
          traffic.services.find? name = some stage ∧ stage.Ending traffic.board next := by
    cases owning.server_step executions serves with
    | kept found stays foreign => exact .inl ⟨found, stays⟩
    | starts starts => exact .inr (.inl rfl)
    | moves turn found =>
        exact .inr (.inr ⟨_, _, turn, found, serviceStep_closed owning closed executions _ found⟩)
  refine ⟨dwindles.board.trans board, by rw [executed, dwindles.executed, List.append_assoc], ?_, ?_, ?_,
    ?_, ?_⟩
  · rw [host, dwindles.host]
    exact List.foldl_append.symm
  · rw [List.map_append, List.nodup_append]
    refine ⟨dwindles.once, traffic.nodup_handledBy move, ?_⟩
    rintro _ early _ late rfl
    obtain ⟨entry, handled, same⟩ := List.mem_map.mp late
    obtain ⟨-, channel, holds⟩ := of_mem_handledBy handled
    exact (dwindles.held holds).2 (same ▸ early)
  · intro entry member
    rcases List.mem_append.mp member with early | late
    · exact dwindles.due entry early
    · obtain ⟨-, channel, holds⟩ := of_mem_handledBy late
      exact (dwindles.held holds).1
  · intro name channel looks waits
    rcases turn looks with ⟨found, stays⟩ | starts | ⟨stage, takesFrame, -, -, ending⟩
    · obtain ⟨before, unserved⟩ := dwindles.parked found (board.waiting waits)
      exact ⟨before, others stays unserved⟩
    · cases starts
    · exact absurd rfl ending.ne_looking
  · intro name channel frame holds
    rcases turn holds with ⟨found, stays⟩ | starts | ⟨stage, takesFrame, rfl, found, ending⟩
    · obtain ⟨due, unserved⟩ := dwindles.held found
      exact ⟨due, others stays unserved⟩
    · cases starts
    · obtain ⟨rfl, waits, queued⟩ := ending.holding rfl
      obtain ⟨before, unserved⟩ := dwindles.parked found waits
      refine ⟨.parked before (dwindles.board.waiting waits)
        (dwindles.board.bus.queue.subset (List.mem_of_mem_head? queued)), ?_⟩
      simpa [handledBy, found, Service.Stage.held?] using unserved

/-- What is left dwindles on, whoever moves. -/
theorem run (dwindles : Dwindles executions closing traffic more) (owning : traffic.Owning)
    (moves : List (Move ι)) :
    ∃ more, Dwindles executions closing (traffic.run executions moves) more := by
  induction moves generalizing traffic more with
  | nil => exact ⟨more, dwindles⟩
  | cons move moves ih => exact ih (dwindles.after owning move) (owning.after executions move)

end Dwindles

/-- No service fails but for the closing of the bus. -/
def Cautious (traffic : Traffic ι η) : Prop :=
  ∀ name stage failure, traffic.services.find? name = some stage → stage.failure? = some failure →
    failure = ⟨.closed⟩

theorem Cautious.after (cautious : traffic.Cautious) (owning : traffic.Owning)
    (executions : ι → Execution η) (move : Move ι) : (traffic.after executions move).Cautious := by
  intro name stage failure serves fails
  cases owning.server_step executions serves with
  | kept found => exact cautious name stage failure found fails
  | starts => cases fails
  | @moves before takesFrame turn found =>
      rcases Service.Stage.failure?_step (fun channel has => (owning.server found has).2) fails with
        closed | earlier
      · exact closed
      · exact cautious name before failure found earlier

/-- What is known of the traffic on any bus, open or closed. -/
structure Sound (traffic : Traffic ι η) : Prop where
  owning : traffic.Owning
  tracking : traffic.Tracking
  cautious : traffic.Cautious

theorem Sound.initially (host : η) (now : Nat) : Sound ({ host, now } : Traffic ι η) :=
  ⟨⟨⟨[], rfl⟩, by simp, by simp, by simp⟩, by simp [Tracking], by simp [Cautious]⟩

theorem Sound.after (sound : traffic.Sound) (executions : ι → Execution η) (move : Move ι) :
    (traffic.after executions move).Sound :=
  ⟨sound.owning.after executions move, sound.tracking.after sound.owning executions move,
    sound.cautious.after sound.owning executions move⟩

/-- The move is a step of this service. -/
def Move.serves (name : ι) : Move ι → Bool
  | .serve other _ => other = name
  | .send _ _ _ | .proceed _ _ | .giveUp _ | .start _ | .stop _ | .pass _ | .outside _ => false

/-- A service that is neither started nor stopped makes its own steps and no others. -/
theorem find?_after_of_not_serves (executions : ι → Execution η) (traffic : Traffic ι η) {name : ι}
    {move : Move ι}
    (starts : move ≠ .start name) (stops : move ≠ .stop name) (stays : move.serves name = false) :
    (traffic.after executions move).services.find? name = traffic.services.find? name := by
  cases traffic.step_after executions move with
  | @starts other _ moved =>
      have apart : other ≠ name := fun same => starts (congrArg Move.start same)
      simp [moved, apart]
  | @serves other _ _ _ moved =>
      have apart : other ≠ name := of_decide_eq_false stays
      simp [moved, serve, apart]
  | @retires other _ moved | @leaves other _ _ _ moved =>
      have apart : other ≠ name := fun same => stops (congrArg Move.stop same)
      simp [moved, apart]
  | idle _ _ moved | refused _ moved | opens _ moved | advances _ _ moved | arrives _ moved
  | givesUp _ _ moved | absent _ moved | passes moved | others _ moved => rw [moved]

/-- On a closed bus a service has failed after a few steps of its own, whoever moves in between. -/
theorem fails_of_stepsLeft (executions : ι → Execution η) {name : ι} {stage : Service.Stage}
    (owning : traffic.Owning) (closed : traffic.board.bus.closed = true)
    (found : traffic.services.find? name = some stage) (moves : List (Move ι))
    (starts : .start name ∉ moves) (stops : .stop name ∉ moves)
    (enough : stage.stepsLeft ≤ moves.countP (Move.serves name)) :
    ∃ failure, (traffic.run executions moves).services.find? name = some (.failed failure) := by
  induction moves generalizing traffic stage with
  | nil =>
      cases stage with
      | failed failure => exact ⟨failure, found⟩
      | leaving channel failure? => cases failure? <;> cases enough
      | ready => cases enough
      | looking channel => cases enough
      | holding channel frame => cases enough
      | replying channel frame reply => cases enough
  | cons move moves ih =>
      rw [List.mem_cons, not_or] at starts stops
      have next := owning.after executions move
      have idle : Dwindles executions traffic traffic [] := .self closed
      have stays := (idle.after owning move).board.bus.closed
      cases turn : move.serves name with
      | false =>
          have same :=
            find?_after_of_not_serves executions traffic (Ne.symm starts.1) (Ne.symm stops.1) turn
          rw [List.countP_cons_of_neg (by simp [turn])] at enough
          exact ih next stays (same.trans found) starts.2 stops.2 enough
      | true =>
          rw [List.countP_cons_of_pos turn] at enough
          cases move with
          | serve other takesFrame =>
              obtain rfl : other = name := of_decide_eq_true turn
              have fewer := (serviceStep_closed owning closed executions takesFrame found).stepsLeft
              refine ih next stays ?_ starts.2 stops.2 (fewer.trans (by omega))
              simp [after, found, serve]
          | _ => cases turn

/-- A client on a closed bus is told so by its next step, unless it waited for its reply and takes it. -/
theorem clientStep_closed (owning : traffic.Owning) (tracking : traffic.Tracking)
    (closed : traffic.board.bus.closed = true) (takesFrame : Bool) {id : Nat} {journey : Journey}
    (found : traffic.journeys.find? id = some journey) (travels : journey.stage.isEnded = false) :
    (traffic.clientStep takesFrame journey).2 =
        some (.ended (.error (.unavailable "fabric closed"))) ∨
      ∃ deadline frame, journey.stage = .waiting deadline ∧ takesFrame = true ∧
        id ∈ traffic.board.waiting ∧
        (traffic.board.bus.buffered journey.channel).head? = some frame ∧
        frame.tag = journey.request.responseTag ∧
        (traffic.clientStep takesFrame journey).2 =
          some (.ended (((Reply.decode frame.payload).mapError .faulty).map some)) := by
  unfold clientStep Sending.step
  obtain ⟨own, -, filter⟩ := owning.client found
  have tracked := tracking id journey found
  cases stage : journey.stage with
  | ended result => simp [stage, Sending.Stage.isEnded] at travels
  | opened =>
      simp only [Medium.publish, Bus.publish_closed closed]
      exact .inl rfl
  | waiting deadline =>
      simp only [Medium.poll]
      rcases Bus.poll_closed_cases closed (traffic.board.look journey.channel.id takesFrame)
        journey.channel with ⟨line, refused⟩ | ⟨frame, again, first, takes, -⟩
      · rw [refused]
        exact .inl rfl
      · obtain ⟨waits, rfl⟩ := Switchboard.mem_waiting_of_look again
        have awaits := tracked.listens deadline stage
        have buffered : traffic.board.bus.buffered journey.channel =
            (traffic.board.sentUnder journey.request.responseTag).drop journey.heard := by
          simp [Bus.buffered, filter, awaits, Request.filter, tracked.buffered awaits travels]
        have tag : frame.tag = journey.request.responseTag := by
          rw [buffered] at first
          exact Switchboard.tag_of_mem_sentUnder
            (List.mem_of_mem_drop (List.mem_of_mem_head? first))
        refine .inr ⟨deadline, frame, rfl, rfl, own ▸ waits, first, tag, ?_⟩
        rw [takes]
        simp [Sending.Stage.looked, tag]

/-- Nothing begins on a closed bus. Only who waited when it was closed may still find a frame, one at most
and only if it was there; without one everybody is told that the bus is closed. -/
theorem closing_final (executions : ι → Execution η) (host : η) (now : Nat)
    (before later : List (Move ι)) :
    let closing := (run executions { host, now } before).after executions (.outside .close)
    let current := closing.run executions later
    let bus := current.board.bus
    let unavailable := Transport.Failure.unavailable "fabric closed"
    bus.closed = true ∧ Medium.Shut bus ∧ closing.board.Dwindles current.board ∧
      (∀ filter, bus.mayAnswer filter = true) ∧
      (∀ look channel,
        (∃ line, bus.poll look channel = ({ bus with line }, .ready (.error .closed))) ∨
          ∃ frame, look = .again true ∧ (bus.buffered channel).head? = some frame ∧
            (bus.poll look channel).2 = .ready (.ok frame)) ∧
      (∀ channel, closing.board.bus.buffered channel = [] → bus.buffered channel = []) ∧
      (∀ channel ∈ current.board.live, ∀ takesFrame,
        channel.id ∉ (current.board.after (.receive channel.id takesFrame)).waiting) ∧
      (∀ request, RoundTrip.sendOneWay bus request = { state := bus, result := .error unavailable }) ∧
      (∀ time limit request, RoundTrip.begin time limit bus request =
        { state := bus, result := .error unavailable }) ∧
      (∀ id journey takesFrame, current.journeys.find? id = some journey →
        journey.stage.isEnded = false →
          (current.clientStep takesFrame journey).2 = some (.ended (.error unavailable)) ∨
            ∃ deadline frame, journey.stage = .waiting deadline ∧ takesFrame = true ∧
              id ∈ current.board.waiting ∧ (bus.buffered journey.channel).head? = some frame ∧
              frame.tag = journey.request.responseTag ∧
              (current.clientStep takesFrame journey).2 =
                some (.ended (((Reply.decode frame.payload).mapError .faulty).map some))) ∧
      (∀ name stage, closing.services.find? name = some stage → .start name ∉ later →
        .stop name ∉ later → 4 ≤ later.countP (Move.serves name) →
          current.services.find? name = some (.failed ⟨.closed⟩)) ∧
      ∃ more, current.executed = closing.executed ++ more ∧
        current.host = hostAfter executions closing.host more ∧ (more.map Prod.fst).Nodup ∧
        ∀ entry ∈ more, closing.Due entry.1 entry.2 := by
  intro closing current bus unavailable
  have step {traffic : Traffic ι η} (move : Move ι) (sound : traffic.Sound) :=
    sound.after executions move
  have closes : closing.Sound := step (.outside .close) (run_induction step (.initially host now) before)
  obtain ⟨owning, tracking, cautious⟩ : current.Sound := run_induction step closes later
  have shuts : closing.board.bus.closed = true := by
    simp [closing, after, Act.avoids, Act.named?, Switchboard.after, Bus.close]
  have idle : Dwindles executions closing closing [] := .self shuts
  obtain ⟨more, dwindles⟩ := idle.run closes.owning later
  have closed : bus.closed = true := dwindles.board.bus.closed
  have shut : Medium.Shut bus := Bus.shut closed
  refine ⟨closed, shut, dwindles.board, ?mayAnswer, ?polls,
    fun channel => dwindles.board.bus.buffered_eq_nil, ?woken, RoundTrip.sendOneWay_shut shut,
    RoundTrip.begin_shut shut, ?clients, ?services, more, dwindles.executed, dwindles.host, dwindles.once, dwindles.due⟩
  case mayAnswer =>
    intro filter
    simp [Bus.mayAnswer, closed]
  case polls =>
    intro look channel
    rcases Bus.poll_closed_cases closed look channel with refused | ⟨frame, again, first, found, -⟩
    · exact .inl refused
    · exact .inr ⟨frame, again, first, found⟩
  case woken =>
    intro channel live takesFrame
    rw [owning.numbered.after_receive live]
    exact (Switchboard.receive_dwindles closed channel takesFrame).2
  case clients =>
    intro id journey takesFrame found travels
    exact clientStep_closed owning tracking closed takesFrame found travels
  case services =>
    intro name stage found starts stops enough
    obtain ⟨failure, fails⟩ := fails_of_stepsLeft executions closes.owning shuts found later starts stops
      (stage.stepsLeft_le.trans enough)
    rw [fails, cautious name _ failure fails rfl]

/-- A receive and two services wait, and two calls are queued, one of them with a deadline. The bus is
closed. One service takes the first call, the other is told at once that the bus is closed, and so are
the clients. The second call is never handled. -/
theorem closing_final_race :
    let echo argument := Request.invokeStatic "demo.Echo" "echo" [.i32] [.i32 argument]
    let catalog : Catalog Unit :=
      .ofClasses [.ofMembers ⟨"demo.Echo", "Echo"⟩
        [.method "echo" [.i32] (.static fun arguments => .ok (.list arguments))]]
    let executions (_ : Bool) : Execution (Host Unit) := Host.execute catalog
    let before : List (Move Bool) :=
      [.start false, .serve false false, .serve false false, .start true, .serve true false,
        .serve true false, .outside (.attach (.exact (echo 0).responseTag)),
        .outside (.receive 3 false), .send false none (echo 1), .proceed 4 false, .proceed 4 false,
        .send false (some 5) (echo 2), .proceed 5 false]
    let later : List (Move Bool) :=
      [.outside (.receive 3 true), .serve false true, .proceed 4 true, .pass 9, .proceed 5 true,
        .serve false false, .serve false false, .serve false false] ++
        List.replicate 4 (.serve true false)
    let closing := (run executions { host := Host.initial catalog } before).after executions
      (.outside .close)
    let current := closing.run executions later
    closing.board.waiting = [1, 2, 3, 4] ∧
      closing.board.bus.queue = [(echo 1).frame, (echo 2).frame] ∧
      current.board.waiting = [] ∧
      current.board.bus.queue = [(echo 2).frame] ∧
      current.journeys.entries.map (fun entry => (entry.1, entry.2.stage)) =
        [(4, .ended (.error (.unavailable "fabric closed"))),
          (5, .ended (.error (.unavailable "fabric closed")))] ∧
      (∀ name, current.services.find? name = some (.failed ⟨.closed⟩)) ∧
      current.executed = [(false, (echo 1).frame)] ∧ closing.Due false (echo 1).frame := by
  intro echo catalog executions before later closing current
  have waits : closing.board.waiting = [1, 2, 3, 4] := by decide +kernel
  have queued : closing.board.bus.queue = [(echo 1).frame, (echo 2).frame] := by decide +kernel
  have nobody : current.board.waiting = [] := by decide +kernel
  have left : current.board.bus.queue = [(echo 2).frame] := by decide +kernel
  have told : current.journeys.entries.map (fun entry => (entry.1, entry.2.stage)) =
      [(4, .ended (.error (.unavailable "fabric closed"))),
        (5, .ended (.error (.unavailable "fabric closed")))] := by decide +kernel
  have handled : current.executed = [(false, (echo 1).frame)] := by decide +kernel
  have unhandled : closing.executed = [] := by decide +kernel
  obtain ⟨_, _, _, _, _, _, _, _, _, _, services, more, executed, _, _, due⟩ :=
    closing_final executions (Host.initial catalog) 0 before later
  have only : more = [(false, (echo 1).frame)] := by
    have known : current.executed = closing.executed ++ more := executed
    rw [handled, unhandled] at known
    exact known.symm
  have first := services false (.looking ⟨1, .requests⟩) (by decide +kernel) (by decide +kernel)
    (by decide +kernel) (by decide +kernel)
  have second := services true (.looking ⟨2, .requests⟩) (by decide +kernel) (by decide +kernel)
    (by decide +kernel) (by decide +kernel)
  refine ⟨waits, queued, nobody, left, told, ?_, handled, due _ (only ▸ List.mem_singleton_self _)⟩
  intro name
  cases name with
  | false => exact first
  | true => exact second

/-- Closing the bus does not stop all work: a request that a service has taken, or that is queued while it
waits, is handled all the same. -/
theorem closing_outrun_by_requests :
    let construct := Request.construct ⟨1⟩ "demo.Foo" [] []
    let catalog : Catalog Unit :=
      .ofClasses [.ofMembers ⟨"demo.Foo", "Foo"⟩ [.constructor [] fun _ => .ok ()]]
    let executions (_ : Unit) : Execution (Host Unit) := Host.execute catalog
    let queued := run executions { host := Host.initial catalog }
      [.start (), .serve () false, .serve () false, .send true none construct, .proceed 2 false]
    let taken := queued.after executions (.serve () false)
    let early := queued.after executions (.outside .close)
    let late := taken.after executions (.outside .close)
    let woken := early.run executions [.serve () true, .serve () false]
    let goesOn := late.after executions (.serve () false)
    queued.board.waiting = [1] ∧ queued.board.bus.queue = [construct.frame] ∧
      early.board.bus.closed = true ∧ early.executed = [] ∧ woken.executed = [((), construct.frame)] ∧
      early.host.instances.entries.length = 0 ∧ woken.host.instances.entries.length = 1 ∧
      taken.board.waiting = [] ∧ taken.board.bus.queue = [] ∧
      late.board.bus.closed = true ∧ late.executed = [] ∧ goesOn.executed = [((), construct.frame)] := by
  decide +kernel

end Traffic

end RemoteObjects
