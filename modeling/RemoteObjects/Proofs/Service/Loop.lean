import RemoteObjects.Proofs.Service.Answering

namespace RemoteObjects.Service

variable {μ η : Type}

/-- A service loop between two of its turns. -/
structure Loop (μ η : Type) where
  medium : μ
  host : η
  progress : Progress

/-- Others publish a frame, or the loop has its turn. -/
inductive Occurrence where
  | arrival (frame : Frame)
  | turn

/-- The request frames that others published, in order. -/
def arrivals (occurrences : List Occurrence) : List Frame :=
  occurrences.filterMap fun
    | .arrival frame => if frame.tag.isRequest then some frame else none
    | .turn => none

namespace Loop

def ofStep (step : Step (μ × η) Progress) : Loop μ η :=
  { medium := step.state.1, host := step.state.2, progress := step.result }

def start [Medium μ] (execute : Execution η) (medium : μ) (host : η) : Loop μ η :=
  ofStep (Service.start execute medium host)

/-- A loop that has failed is over. On an open bus it does not matter what a woken loop prefers. -/
def turn [Medium μ] (execute : Execution η) (loop : Loop μ η) : Loop μ η :=
  match loop.progress with
  | .waiting channel => ofStep (resume execute false loop.medium loop.host channel)
  | .served => ofStep (proceed execute loop.medium loop.host)
  | .failed _ => loop

/-- How a frame of others gets onto the medium is given with the medium. -/
def after [Medium μ] (accept : μ → Frame → μ) (execute : Execution η) (loop : Loop μ η) :
    Occurrence → Loop μ η
  | .arrival frame => { loop with medium := accept loop.medium frame }
  | .turn => loop.turn execute

def run [Medium μ] (accept : μ → Frame → μ) (execute : Execution η) (loop : Loop μ η)
    (occurrences : List Occurrence) : Loop μ η :=
  occurrences.foldl (after accept execute) loop

end Loop

def acceptOnBus (bus : Bus) (frame : Frame) : Bus :=
  (bus.publish frame).state

/-- What others publish is not recorded as published by the loop. -/
def acceptOnRecorded (recorded : Recorded Bus) (frame : Frame) : Recorded Bus :=
  { recorded with medium := acceptOnBus recorded.medium frame }

/-- The bus is open, the frames are those that were taken and those that are queued, and the taken
ones were executed in order. -/
structure Accounts (execute : Execution η) (initial : η) (frames : List Frame)
    (recorded : Recorded Bus) (host : η) : Prop where
  isOpen : recorded.medium.closed = false
  accounted : recorded.taken ++ recorded.medium.queue = frames
  executed : host = hostAfter execute initial recorded.taken

/-- Nothing but the answers to the taken frames was published through the record. -/
structure Answered (execute : Execution η) (initial : η) (frames : List Frame)
    (recorded : Recorded Bus) (host : η) : Prop extends
    Accounts execute initial frames recorded host where
  answered : recorded.published = (answers execute initial recorded.taken).reduceOption

/-- A waiting loop is the only one in line, and a loop that served has left the line. -/
def InLine (recorded : Recorded Bus) : Progress → Prop
  | .waiting channel => channel.filter = .requests ∧ recorded.medium.line = [channel.id]
  | .served => recorded.medium.line = []
  | .failed _ => False

theorem InLine.congr {first second : Recorded Bus} {progress : Progress}
    (inLine : InLine first progress) (same : second.medium.line = first.medium.line) :
    InLine second progress := by
  cases progress with
  | waiting channel => exact ⟨inLine.1, same.trans inLine.2⟩
  | served => exact same.trans inLine
  | failed failure => exact inLine

namespace Loop

structure Sound (execute : Execution η) (initial : η) (frames : List Frame)
    (loop : Loop (Recorded Bus) η) : Prop where
  accounts : Answered execute initial frames loop.medium loop.host
  inLine : InLine loop.medium loop.progress

/-- The loop waits and no frame is queued. -/
def Idle (loop : Loop (Recorded Bus) η) : Prop :=
  (∃ channel, loop.progress = .waiting channel) ∧ loop.medium.medium.queue = []

/-- The loop has emptied the queue or at least made it shorter. -/
def Advanced (before : Recorded Bus) (loop : Loop (Recorded Bus) η) : Prop :=
  loop.Idle ∨ loop.medium.medium.queue.length < before.medium.queue.length

theorem Advanced.trans {before : Recorded Bus} {first second : Loop (Recorded Bus) η}
    (served : first.progress = .served) (advanced : first.Advanced before)
    (further : second.Advanced first.medium) : second.Advanced before := by
  have shorter : first.medium.medium.queue.length < before.medium.queue.length := by
    rcases advanced with ⟨⟨channel, waiting⟩, _⟩ | shorter
    · simp [served] at waiting
    · exact shorter
  rcases further with idle | less
  · exact .inl idle
  · exact .inr (Nat.lt_trans less shorter)

end Loop

open Loop

section Steps

variable {execute : Execution η} {initial : η} {frames : List Frame} {recorded : Recorded Bus}
  {host : η}

/-- Serving the first frame moves it from the queued frames to the executed ones. -/
theorem Accounts.afterServing (accounts : Accounts execute initial frames recorded host)
    {frame : Frame} {rest : List Frame} (queued : recorded.medium.queue = frame :: rest) :
    Accounts execute initial frames
      (Service.afterServing recorded frame rest (handle execute host frame).result)
      (handle execute host frame).state where
  isOpen := by simpa using accounts.isOpen
  accounted := by simpa [queued] using accounts.accounted
  executed := by
    rw [afterServing_taken, hostAfter_append, ← accounts.executed]
    rfl

theorem Answered.afterServing (accounts : Answered execute initial frames recorded host)
    {frame : Frame} {rest : List Frame} (queued : recorded.medium.queue = frame :: rest) :
    Answered execute initial frames
      (Service.afterServing recorded frame rest (handle execute host frame).result)
      (handle execute host frame).state where
  toAccounts := accounts.toAccounts.afterServing queued
  answered := by
    rw [afterServing_published, afterServing_taken, answers_concat, List.reduceOption_append,
      ← accounts.executed, accounts.answered]
    cases (handle execute host frame).result <;> rfl

/-- One look at the queue keeps the accounts and takes a frame if there is one. -/
theorem Answered.attend (accounts : Answered execute initial frames recorded host)
    {channel : Channel} (reader : channel.filter = .requests)
    (alone : Bus.joinLine recorded.medium.line channel.id = [channel.id]) (look : Bus.Look) :
    (ofStep (Service.attend execute look recorded host channel)).Sound execute initial frames ∧
      (ofStep (Service.attend execute look recorded host channel)).Advanced recorded := by
  cases queued : recorded.medium.queue with
  | nil =>
      obtain ⟨state, result⟩ := attend_idle execute look host accounts.isOpen reader alone queued
      simp only [ofStep, state, result]
      refine ⟨⟨⟨⟨accounts.isOpen, accounts.accounted, accounts.executed⟩, accounts.answered⟩,
        reader, rfl⟩, .inl ⟨⟨channel, rfl⟩, queued⟩⟩
  | cons frame rest =>
      obtain ⟨state, result⟩ := attend_queued execute look host accounts.isOpen reader alone queued
      simp only [ofStep, state, result]
      exact ⟨⟨accounts.afterServing queued, by simp [InLine]⟩, .inr (by simp [queued])⟩

/-- A loop without a channel opens one that nobody else reads. -/
theorem Answered.serveOne (accounts : Answered execute initial frames recorded host)
    (unattended : recorded.medium.line = []) :
    (ofStep (Service.serveOne execute recorded host)).Sound execute initial frames ∧
      (ofStep (Service.serveOne execute recorded host)).Advanced recorded := by
  have kept : Answered execute initial frames recorded.issueId host :=
    ⟨⟨accounts.isOpen, accounts.accounted, accounts.executed⟩, accounts.answered⟩
  rw [serveOne_open execute host accounts.isOpen]
  exact kept.attend rfl (by simp [Recorded.issueId, unattended, Bus.joinLine_nil]) .first

theorem ofStep_report (step : Step (μ × η) Progress) : ofStep (report step) = ofStep step := by
  unfold report
  split <;> rfl

/-- A loop that has served goes on from there with one frame less to serve. -/
theorem ofStep_serveUpTo_of_served [Medium μ] (limit : Nat) {medium : μ} {host : η}
    (served : (Service.serveOne execute medium host).result = .served) :
    ofStep (Service.serveUpTo execute (limit + 1) medium host) =
      ofStep (Service.serveUpTo execute limit (Service.serveOne execute medium host).state.1
        (Service.serveOne execute medium host).state.2) := by
  simp [Service.serveUpTo, served, ofStep]

theorem ofStep_serveUpTo_of_ne [Medium μ] (limit : Nat) {medium : μ} {host : η}
    (stopped : (Service.serveOne execute medium host).result ≠ .served) :
    ofStep (Service.serveUpTo execute (limit + 1) medium host) =
      ofStep (Service.serveOne execute medium host) := by
  cases progress : (Service.serveOne execute medium host).result <;>
    simp_all [Service.serveUpTo, ofStep]

theorem ofStep_resume_of_served [Medium μ] {takesFrame : Bool} {medium : μ} {host : η}
    {channel : Channel}
    (served : (Service.attend execute (.again takesFrame) medium host channel).result = .served) :
    ofStep (resume execute takesFrame medium host channel) =
      ofStep (Service.serveUpTo execute (burst - 1)
        (Service.attend execute (.again takesFrame) medium host channel).state.1
        (Service.attend execute (.again takesFrame) medium host channel).state.2) := by
  simp only [resume, served, ofStep_report]
  rfl

theorem ofStep_resume_of_ne [Medium μ] {takesFrame : Bool} {medium : μ} {host : η}
    {channel : Channel}
    (stopped : (Service.attend execute (.again takesFrame) medium host channel).result ≠ .served) :
    ofStep (resume execute takesFrame medium host channel) =
      ofStep (Service.attend execute (.again takesFrame) medium host channel) := by
  cases progress : (Service.attend execute (.again takesFrame) medium host channel).result <;>
    simp_all [resume, ofStep_report]

/-- A loop that may serve some frame keeps the accounts over all that it serves. -/
theorem Answered.serveUpTo (limit : Nat) {recorded : Recorded Bus} {host : η}
    (accounts : Answered execute initial frames recorded host)
    (unattended : recorded.medium.line = []) :
    (ofStep (Service.serveUpTo execute (limit + 1) recorded host)).Sound execute initial frames ∧
      (ofStep (Service.serveUpTo execute (limit + 1) recorded host)).Advanced recorded := by
  -- on the number of frames that may still be served; each leaves the line and keeps the accounts
  induction limit generalizing recorded host with
  | zero =>
      have one := accounts.serveOne unattended
      by_cases served : (Service.serveOne execute recorded host).result = .served
      · rw [ofStep, served] at one
        rw [ofStep_serveUpTo_of_served 0 served]
        exact one
      · rw [ofStep_serveUpTo_of_ne 0 served]
        exact one
  | succ limit ih =>
      obtain ⟨sound, advanced⟩ := accounts.serveOne unattended
      by_cases served : (Service.serveOne execute recorded host).result = .served
      · have left := sound.inLine
        rw [show (ofStep (Service.serveOne execute recorded host)).progress = .served from served]
          at left
        obtain ⟨further, more⟩ := ih sound.accounts left
        rw [ofStep_serveUpTo_of_served (limit + 1) served]
        exact ⟨further, advanced.trans served more⟩
      · rw [ofStep_serveUpTo_of_ne (limit + 1) served]
        exact ⟨sound, advanced⟩

/-- A turn keeps a sound loop sound, and leaves it idle or with fewer frames to serve. -/
theorem Loop.Sound.turn {loop : Loop (Recorded Bus) η} (sound : loop.Sound execute initial frames) :
    (loop.turn execute).Sound execute initial frames ∧
      (loop.turn execute).Advanced loop.medium := by
  obtain ⟨accounts, inLine⟩ := sound
  unfold Loop.turn
  cases progress : loop.progress with
  | served =>
      rw [progress] at inLine
      dsimp only [proceed]
      rw [ofStep_report]
      exact accounts.serveUpTo 63 inLine
  | waiting channel =>
      rw [progress] at inLine
      obtain ⟨reader, line⟩ := inLine
      obtain ⟨sound, advanced⟩ :=
        accounts.attend reader (by rw [line, Bus.joinLine_self]) (.again false)
      by_cases served :
          (Service.attend execute (.again false) loop.medium loop.host channel).result = .served
      · have left := sound.inLine
        rw [show (ofStep (Service.attend execute (.again false) loop.medium loop.host
          channel)).progress = .served from served] at left
        obtain ⟨further, more⟩ := sound.accounts.serveUpTo 62 left
        dsimp only
        rw [ofStep_resume_of_served served]
        exact ⟨further, advanced.trans served more⟩
      · dsimp only
        rw [ofStep_resume_of_ne served]
        exact ⟨sound, advanced⟩
  | failed failure =>
      rw [progress] at inLine
      exact inLine.elim

/-- A frame of others joins the queue if it is a request, and does not touch it otherwise. -/
theorem acceptOnBus_open {bus : Bus} (isOpen : bus.closed = false) (frame : Frame) :
    (acceptOnBus bus frame).closed = false ∧
      (acceptOnBus bus frame).queue = bus.queue ++ arrivals [.arrival frame] ∧
      (acceptOnBus bus frame).line = bus.line := by
  unfold acceptOnBus
  by_cases request : frame.tag.isRequest = true
  · rw [(Bus.publish_request isOpen request).1]
    simp [Bus.enqueue, arrivals, request, isOpen]
  · have response : frame.tag.isRequest = false := by simpa using request
    rw [(Bus.publish_response isOpen response).1]
    simp [Bus.deliver, arrivals, response, isOpen]

theorem Loop.Sound.arrival {loop : Loop (Recorded Bus) η}
    (sound : loop.Sound execute initial frames) (frame : Frame) :
    (loop.after acceptOnRecorded execute (.arrival frame)).Sound execute initial
      (frames ++ arrivals [.arrival frame]) := by
  obtain ⟨accounts, inLine⟩ := sound
  obtain ⟨isOpen, queue, line⟩ := acceptOnBus_open accounts.isOpen frame
  refine ⟨⟨⟨isOpen, ?_, accounts.executed⟩, accounts.answered⟩, inLine.congr line⟩
  simp [Loop.after, acceptOnRecorded, queue, ← accounts.accounted]

theorem arrivals_cons (occurrence : Occurrence) (occurrences : List Occurrence) :
    arrivals (occurrence :: occurrences) = arrivals [occurrence] ++ arrivals occurrences :=
  List.filterMap_append (l := [occurrence])

/-- Along any occurrences the loop accounts for exactly the request frames that arrived. -/
theorem Loop.Sound.run {loop : Loop (Recorded Bus) η} (sound : loop.Sound execute initial frames)
    (occurrences : List Occurrence) :
    (loop.run acceptOnRecorded execute occurrences).Sound execute initial
      (frames ++ arrivals occurrences) := by
  induction occurrences generalizing loop frames with
  | nil => simpa [Loop.run, arrivals] using sound
  | cons occurrence occurrences ih =>
      cases occurrence with
      | arrival frame =>
          rw [arrivals_cons, ← List.append_assoc]
          exact ih (sound.arrival frame)
      | turn => exact ih sound.turn.1

/-- A loop is idle after more turns than there are queued frames. -/
theorem Loop.Sound.idle_of_turns {loop : Loop (Recorded Bus) η}
    (sound : loop.Sound execute initial frames) (turns : Nat)
    (enough : loop.Idle ∨ loop.medium.medium.queue.length < turns) :
    (loop.run acceptOnRecorded execute (List.replicate turns .turn)).Idle := by
  induction turns generalizing loop with
  | zero =>
      rcases enough with idle | less
      · exact idle
      · omega
  | succ turns ih =>
      obtain ⟨sound, advanced⟩ := sound.turn
      refine ih sound ?_
      rcases advanced with idle | shorter
      · exact .inl idle
      · rcases enough with ⟨_, empty⟩ | less
        · simp [empty] at shorter
        · exact .inr (Nat.lt_of_lt_of_le shorter (Nat.le_of_lt_succ less))

/-- A loop starts with the frames that are already queued. -/
theorem Loop.start_sound (execute : Execution η) (host : η) {bus : Bus}
    (isOpen : bus.closed = false) (unattended : bus.line = []) :
    (Loop.start execute { medium := bus } host : Loop (Recorded Bus) η).Sound execute host
      bus.queue := by
  have accounts : Answered execute host bus.queue { medium := bus } host :=
    ⟨⟨isOpen, rfl, rfl⟩, rfl⟩
  have begun : Loop.start execute { medium := bus } host =
      ofStep (Service.serveUpTo execute 64 ({ medium := bus } : Recorded Bus) host) :=
    ofStep_report _
  rw [begun]
  exact (accounts.serveUpTo 63 unattended).1

end Steps

section Forgetting

variable [Medium μ]

/-- The loop on the medium inside the record. -/
def Loop.forget (loop : Loop (Recorded μ) η) : Loop μ η :=
  { medium := loop.medium.medium, host := loop.host, progress := loop.progress }

theorem forget_attend (execute : Execution η) (look : Bus.Look) (recorded : Recorded μ) (host : η)
    (channel : Channel) :
    (ofStep (attend execute look recorded host channel)).forget =
      ofStep (attend execute look recorded.medium host channel) := by
  have polled : Medium.poll recorded look channel =
      ({ recorded with
          medium := (Medium.poll recorded.medium look channel).1
          taken := recorded.taken ++
            Recorded.takenBy channel (Medium.poll recorded.medium look channel).2 },
        (Medium.poll recorded.medium look channel).2) := rfl
  unfold attend
  rw [polled]
  rcases Medium.poll recorded.medium look channel with ⟨medium, (failure | frame) | _⟩
  · rfl
  · dsimp only
    cases (handle execute host frame).result with
    | none => rfl
    | some reply =>
        dsimp only
        simp only [Medium.publish, Recorded.publish]
        cases (Medium.publish medium reply).result <;> rfl
  · rfl

theorem forget_serveOne (execute : Execution η) (recorded : Recorded μ) (host : η) :
    (ofStep (serveOne execute recorded host)).forget =
      ofStep (serveOne execute recorded.medium host) := by
  have attached : Medium.attach recorded .requests =
      ({ recorded with medium := (Medium.attach recorded.medium .requests).1 },
        (Medium.attach recorded.medium .requests).2) := rfl
  unfold serveOne
  rw [attached]
  rcases Medium.attach recorded.medium .requests with ⟨medium, failure | channel⟩
  · rfl
  · exact forget_attend execute .first _ host channel

theorem forget_serveUpTo (execute : Execution η) (limit : Nat) (recorded : Recorded μ) (host : η) :
    (ofStep (serveUpTo execute limit recorded host)).forget =
      ofStep (serveUpTo execute limit recorded.medium host) := by
  induction limit generalizing recorded host with
  | zero => rfl
  | succ limit ih =>
      have one := forget_serveOne execute recorded host
      have progress := congrArg Loop.progress one
      by_cases served : (serveOne execute recorded host).result = .served
      · rw [ofStep_serveUpTo_of_served limit served, ih,
          ofStep_serveUpTo_of_served limit (progress.symm.trans served)]
        exact congrArg (fun loop : Loop μ η =>
          ofStep (serveUpTo execute limit loop.medium loop.host)) one
      · rw [ofStep_serveUpTo_of_ne limit served,
          ofStep_serveUpTo_of_ne limit fun inner => served (progress.trans inner)]
        exact one

theorem forget_resume (execute : Execution η) (takesFrame : Bool) (recorded : Recorded μ) (host : η)
    (channel : Channel) :
    (ofStep (resume execute takesFrame recorded host channel)).forget =
      ofStep (resume execute takesFrame recorded.medium host channel) := by
  have first := forget_attend execute (.again takesFrame) recorded host channel
  have progress := congrArg Loop.progress first
  by_cases served : (attend execute (.again takesFrame) recorded host channel).result = .served
  · rw [ofStep_resume_of_served served, forget_serveUpTo,
      ofStep_resume_of_served (progress.symm.trans served)]
    exact congrArg (fun loop : Loop μ η =>
      ofStep (serveUpTo execute (burst - 1) loop.medium loop.host)) first
  · rw [ofStep_resume_of_ne served,
      ofStep_resume_of_ne fun inner => served (progress.trans inner)]
    exact first

theorem forget_turn (execute : Execution η) (loop : Loop (Recorded μ) η) :
    (loop.turn execute).forget = loop.forget.turn execute := by
  obtain ⟨recorded, host, progress⟩ := loop
  cases progress with
  | served =>
      simp only [Loop.turn, Loop.forget, proceed, ofStep_report]
      exact forget_serveUpTo execute burst recorded host
  | waiting channel => exact forget_resume execute false recorded host channel
  | failed failure => rfl

/-- Recording does not change what the loop does. -/
theorem forget_run (execute : Execution η) (loop : Loop (Recorded Bus) η)
    (occurrences : List Occurrence) :
    (loop.run acceptOnRecorded execute occurrences).forget =
      loop.forget.run acceptOnBus execute occurrences := by
  induction occurrences generalizing loop with
  | nil => rfl
  | cons occurrence occurrences ih =>
      refine (ih _).trans (congrArg (fun loop : Loop Bus η =>
        loop.run acceptOnBus execute occurrences) ?_)
      cases occurrence with
      | arrival frame => rfl
      | turn => exact forget_turn execute loop

theorem forget_start (execute : Execution η) (bus : Bus) (host : η) :
    (Loop.start execute ({ medium := bus } : Recorded Bus) host).forget =
      Loop.start execute bus host := by
  have plain : Loop.start execute bus host = ofStep (serveUpTo execute burst bus host) :=
    ofStep_report _
  have begun : Loop.start execute ({ medium := bus } : Recorded Bus) host =
      ofStep (serveUpTo execute burst ({ medium := bus } : Recorded Bus) host) :=
    ofStep_report _
  rw [plain, begun]
  exact forget_serveUpTo execute burst _ host

end Forgetting

/-- Every published frame answers a request, under a response tag. -/
theorem isRequest_of_mem_replyFrames {replies : List (Request × Option Reply)} {frame : Frame}
    (member : frame ∈ replyFrames replies) : frame.tag.isRequest = false := by
  obtain ⟨⟨request, reply⟩, _, answers⟩ := List.mem_filterMap.mp member
  obtain ⟨content, _, rfl⟩ := Option.map_eq_some_iff.mp answers
  exact Request.isRequest_responseTag request

/-- After enough turns a loop on an open bus that nobody else reads waits at an empty queue, has
answered exactly the requests that came, in order, and has published nothing but the replies. -/
theorem loop_refines_answers {σ : Type} (catalog : Catalog σ) (host : Host σ) {bus : Bus}
    (isOpen : bus.closed = false) (unattended : bus.line = []) (occurrences : List Occurrence)
    {turns : Nat} (enough : (bus.queue ++ arrivals occurrences).length < turns) :
    let requests := (bus.queue ++ arrivals occurrences).filterMap Frame.request?
    let schedule := occurrences ++ List.replicate turns .turn
    let recorded : Loop (Recorded Bus) (Host σ) :=
      (Loop.start (Host.execute catalog) { medium := bus } host).run acceptOnRecorded
        (Host.execute catalog) schedule
    let loop : Loop Bus (Host σ) :=
      (Loop.start (Host.execute catalog) bus host).run acceptOnBus (Host.execute catalog) schedule
    recorded.forget = loop ∧
      (∃ channel, loop.progress = .waiting channel) ∧
      loop.medium.queue = [] ∧
      loop.host = (Host.answer catalog).after host requests ∧
      recorded.medium.published = replyFrames ((Host.answer catalog).replies host requests) ∧
      ∀ frame ∈ recorded.medium.published, frame.tag.isRequest = false := by
  intro requests schedule recorded loop
  have forgotten : recorded.forget = loop :=
    (forget_run (Host.execute catalog) _ schedule).trans
      (congrArg (fun begun : Loop Bus (Host σ) =>
        begun.run acceptOnBus (Host.execute catalog) schedule)
        (forget_start (Host.execute catalog) bus host))
  have before := (Loop.start_sound (Host.execute catalog) host isOpen unattended).run occurrences
  have split : recorded = Loop.run acceptOnRecorded (Host.execute catalog)
      (Loop.run acceptOnRecorded (Host.execute catalog)
        (Loop.start (Host.execute catalog) { medium := bus } host) occurrences)
      (List.replicate turns .turn) := List.foldl_append
  have idle : recorded.Idle := by
    rw [split]
    refine before.idle_of_turns turns (.inr (Nat.lt_of_le_of_lt ?_ enough))
    rw [← before.accounts.accounted, List.length_append]
    exact Nat.le_add_left _ _
  have sound : recorded.Sound (Host.execute catalog) host (bus.queue ++ arrivals occurrences) := by
    have quiet : arrivals (List.replicate turns .turn) = [] := by simp [arrivals]
    rw [split]
    simpa [quiet] using before.run (List.replicate turns .turn)
  have taken : recorded.medium.taken = bus.queue ++ arrivals occurrences := by
    rw [← sound.accounts.accounted, idle.2, List.append_nil]
  have published : recorded.medium.published =
      replyFrames ((Host.answer catalog).replies host requests) := by
    rw [sound.accounts.answered, taken]
    exact answers_eq_replyFrames (Host.execute catalog) host _
  rw [← forgotten]
  refine ⟨rfl, idle.1, idle.2, ?_, published, ?_⟩
  · change recorded.host = _
    rw [sound.accounts.executed, taken]
    exact hostAfter_eq_after (Host.execute catalog) host _
  · intro frame member
    rw [published] at member
    exact isRequest_of_mem_replyFrames member

/-- A payload that is no request, a malformed invocation that is refused and a request under a
foreign tag are all dealt with. -/
theorem loop_refines_answers_mixed :
    let malformed := Request.invoke ⟨0⟩ "demo.Foo" "size" [.i64] []
    let unknown := Request.readStaticField "demo.Foo" "count"
    let occurrences : List Occurrence :=
      [.arrival ⟨⟨0, 0, 2⟩, [0xFF]⟩, .arrival ⟨⟨1, 2, 3⟩, malformed.encode⟩, .turn,
        .arrival ⟨⟨4, 5, 6⟩, unknown.encode⟩]
    let catalog : Catalog Unit := {}
    let loop : Loop (Recorded Bus) (Host Unit) :=
      (Loop.start (Host.execute catalog) { medium := {} } {}).run acceptOnRecorded
        (Host.execute catalog) (occurrences ++ List.replicate 4 .turn)
    loop.medium.medium.queue = [] ∧
      loop.medium.published =
        [⟨malformed.responseTag, Reply.encode (.refused .unsupported)⟩,
          ⟨unknown.responseTag, Reply.encode (.refused .classNotFound)⟩] := by
  intro malformed unknown occurrences catalog loop
  have requests : (arrivals occurrences).filterMap Frame.request? = [malformed, unknown] := by
    decide +kernel
  obtain ⟨forgotten, _, empty, _, published, _⟩ :=
    loop_refines_answers catalog {} (show ({} : Bus).closed = false from rfl) rfl occurrences
      (show _ < 4 by decide +kernel)
  refine ⟨(congrArg (fun plain => plain.medium.queue) forgotten).trans empty, ?_⟩
  refine published.trans ?_
  rw [show (({} : Bus).queue ++ arrivals occurrences) = arrivals occurrences from rfl, requests]
  rfl

end RemoteObjects.Service
