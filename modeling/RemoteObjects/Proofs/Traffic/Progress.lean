import RemoteObjects.Proofs.Traffic.Single

namespace RemoteObjects

open Switchboard (Act)

namespace Switchboard

variable {board : Switchboard} {channel : Channel}

/-- Who does not read requests takes none and does not join the line for them. -/
theorem receive_other (isOpen : board.bus.closed = false) (other : channel.filter ≠ .requests)
    (look : Bus.Look) :
    (board.receive look channel).bus.line = board.bus.line ∧
      (board.receive look channel).bus.queue = board.bus.queue := by
  rw [bus_receive, Bus.poll_open isOpen]
  cases filter : channel.filter with
  | sendOnly =>
      rw [Bus.search_sender _ filter]
      exact ⟨rfl, rfl⟩
  | requests => exact absurd filter other
  | exact tag =>
      rw [Bus.search_listener _ filter, Bus.pollBuffer]
      split
      · exact ⟨rfl, rfl⟩
      · split <;> exact ⟨rfl, rfl⟩

/-- Whether a receive waits changes only by what is done with its own channel. -/
theorem mem_waiting_after_iff {id : Nat} {act : Act} (foreign : act.named? ≠ some id) :
    id ∈ (board.after act).waiting ↔ id ∈ board.waiting := by
  have kept {other : Nat} (found : other ≠ id) : id ∈ board.waiting.filter (· ≠ other) ↔
      id ∈ board.waiting := by
    simp [Ne.symm found]
  cases act with
  | attach filter =>
      simp only [after, attach]
      split <;> rfl
  | publish frame =>
      simp only [after, publish]
      split <;> rfl
  | receive other takesFrame =>
      simp only [after]
      cases found : board.channel? other with
      | none => rfl
      | some channel =>
          have apart : channel.id ≠ id := by
            rw [id_of_channel? found]
            exact fun same => foreign (congrArg some same)
          simp only [Option.elim_some, receive]
          split
          · simp only [Bus.joinLine]
            split <;> simp [Ne.symm apart]
          · exact kept apart
          · exact kept apart
  | abandon other =>
      simp only [after]
      cases found : board.channel? other with
      | none => rfl
      | some channel =>
          exact kept fun same => foreign (congrArg some ((id_of_channel? found).symm.trans same))
  | detach other =>
      simp only [after]
      cases found : board.channel? other with
      | none => rfl
      | some channel =>
          exact kept fun same => foreign (congrArg some ((id_of_channel? found).symm.trans same))
  | close => rfl

end Switchboard

namespace Traffic

variable {η : Type} {execute : Execution η} {traffic next : Traffic Unit η}

/-- The most steps that the service has left. -/
def unrest (traffic : Traffic Unit η) : Nat :=
  6 * traffic.board.bus.queue.length +
    (traffic.services.find? ()).elim 0 (Service.Stage.unrest traffic.board.waiting)

/-- The service waits at an empty queue. -/
def AtRest (traffic : Traffic Unit η) : Prop :=
  traffic.board.bus.queue = [] ∧
    ∃ channel, traffic.services.find? () = some (.looking channel) ∧
      channel.id ∈ traffic.board.waiting

/-- All requests were handled: none is queued, and the service holds none. -/
def Idle (traffic : Traffic Unit η) : Prop :=
  traffic.board.bus.queue = [] ∧ (traffic.services.find? ()).bind Service.Stage.held? = none

instance (traffic : Traffic Unit η) : Decidable traffic.Idle :=
  inferInstanceAs (Decidable (_ ∧ _))

/-- An idle service has executed all requests that were sent. -/
theorem Idle.host_eq {initial : η} (idle : traffic.Idle) (served : Served execute initial traffic)
    (hidden : Private (fun _ => execute) traffic) :
    traffic.host = execute.guarded.after initial traffic.requests := by
  obtain ⟨empty, unheld⟩ := idle
  have held : (traffic.hand? ()).bind Service.Stage.held? = none := by
    cases found : traffic.services.find? () with
    | none => simp [hand?, found]
    | some stage =>
        rw [found] at unheld
        rw [hand?_of_found found]
        split
        · exact unheld
        · rfl
  have sent := congrArg List.length (served.sentRequests_eq hidden)
  rw [hidden.sent, empty, held] at sent
  have count : traffic.requests.length = traffic.executed.length := by simpa [handled] using sent
  rw [served.host_eq hidden, List.take_of_length_le count.le]

theorem AtRest.idle (rest : traffic.AtRest) : traffic.Idle := by
  obtain ⟨empty, channel, looks, -⟩ := rest
  exact ⟨empty, by rw [looks]; rfl⟩

/-- There is a service, it does not fail, and it stands alone in the line for requests. -/
structure Attended (traffic : Traffic Unit η) : Prop where
  serves : ∃ stage, traffic.services.find? () = some stage ∧ stage.failure? = none
  alone : traffic.board.bus.line = [] ∨
    ∃ channel, traffic.services.find? () = some (.looking channel) ∧
      traffic.board.bus.line = [channel.id]

/-- Nothing has changed but that time passed, or that somebody who waits has looked again. -/
structure Still (traffic next : Traffic Unit η) : Prop where
  queue : next.board.bus.queue = traffic.board.bus.queue
  waiting : ∀ id, id ∈ next.board.waiting ↔ id ∈ traffic.board.waiting
  sent : ∀ tag, next.board.sentUnder tag = traffic.board.sentUnder tag
  journeys : next.journeys = traffic.journeys
  services : next.services = traffic.services

theorem Still.refl (traffic : Traffic Unit η) : traffic.Still traffic :=
  ⟨rfl, fun _ => .rfl, fun _ => rfl, rfl, rfl⟩

theorem Still.trans {last : Traffic Unit η} (first : traffic.Still next) (second : next.Still last) :
    traffic.Still last where
  queue := second.queue.trans first.queue
  waiting id := (second.waiting id).trans (first.waiting id)
  sent tag := (second.sent tag).trans (first.sent tag)
  journeys := second.journeys.trans first.journeys
  services := second.services.trans first.services

theorem Still.unrest_eq (still : traffic.Still next) : next.unrest = traffic.unrest := by
  unfold unrest
  rw [still.queue, still.services]
  cases traffic.services.find? () with
  | none => rfl
  | some stage => cases stage <;> simp [Service.Stage.unrest, still.waiting]

theorem Still.atRest (still : traffic.Still next) (rest : traffic.AtRest) : next.AtRest := by
  obtain ⟨empty, channel, looks, waits⟩ := rest
  exact ⟨still.queue.trans empty, channel, still.services ▸ looks, (still.waiting _).mpr waits⟩

theorem AtRest.unrest_eq (rest : traffic.AtRest) : traffic.unrest = 0 := by
  obtain ⟨empty, channel, looks, waits⟩ := rest
  simp [unrest, empty, looks, Service.Stage.unrest, waits]

theorem AtRest.pending_eq_nil (rest : traffic.AtRest) : traffic.pending = [] := by
  obtain ⟨empty, channel, looks, -⟩ := rest
  simp [pending, empty, hand?_of_found looks, Service.Stage.frame?]

/-- What the clients see of a move that is not theirs. -/
structure Aside (traffic next : Traffic Unit η) : Prop where
  journeys : next.journeys = traffic.journeys
  requests : next.requests = traffic.requests
  pending : next.pending ⊆ traffic.pending
  waiting : ∀ id journey, traffic.journeys.find? id = some journey →
    (id ∈ next.board.waiting ↔ id ∈ traffic.board.waiting)

namespace Private

variable (hidden : Private (fun _ => execute) traffic)

include hidden

/-- Nothing becomes pending but by the first step of a client. -/
theorem pending_subset {move : Move Unit} (inside : ∀ act, move ≠ .outside act)
    (silent : ∀ id journey takesFrame, move = .proceed id takesFrame →
      traffic.journeys.find? id = some journey → journey.stage ≠ .opened) :
    (traffic.after (fun _ => execute) move).pending ⊆ traffic.pending := by
  rcases pending_after hidden.owning (hidden.owning.after _ move) (hidden.effect inside) with
    less | ⟨id, journey, takesFrame, moves, found, opened, -⟩
  · exact less
  · exact absurd opened (silent id journey takesFrame moves found)

theorem aside {move : Move Unit} (inside : ∀ act, move ≠ .outside act)
    (others : ∀ id takesFrame, move ≠ .proceed id takesFrame) (keeps : ∀ id, move ≠ .giveUp id)
    (journeys : (traffic.after (fun _ => execute) move).journeys = traffic.journeys) :
    traffic.Aside (traffic.after (fun _ => execute) move) where
  journeys
  requests := by
    rcases hidden.requests_after (hidden.effect inside) with
      ⟨-, same⟩ | ⟨id, _, takesFrame, moves, -⟩
    · exact same
    · exact absurd moves (others id takesFrame)
  pending := hidden.pending_subset inside fun id _ takesFrame moves _ =>
    absurd moves (others id takesFrame)
  waiting := by
    intro id journey found
    rw [hidden.owning.board_after]
    cases acts : traffic.act? move with
    | none => rfl
    | some act =>
        exact Switchboard.mem_waiting_after_iff
          (hidden.owning.foreign_client found (others id) (keeps id) acts)

theorem aside_serve (takesFrame : Bool) :
    traffic.Aside (traffic.after (fun _ => execute) (.serve () takesFrame)) := by
  refine hidden.aside (by simp) (by simp) (by simp) ?_
  simp only [Traffic.after]
  cases traffic.services.find? () <;> rfl

theorem aside_pass (duration : Nat) :
    traffic.Aside (traffic.after (fun _ => execute) (.pass duration)) :=
  hidden.aside (by simp) (by simp) (by simp) rfl

end Private

namespace Attended

theorem joinLine_eq (attended : traffic.Attended) {channel : Channel}
    (found : traffic.services.find? () = some (.looking channel)) :
    Bus.joinLine traffic.board.bus.line channel.id = [channel.id] := by
  rcases attended.alone with empty | ⟨other, looks, alone⟩
  · rw [empty, Bus.joinLine_nil]
  · obtain rfl : channel = other := by simpa [found] using looks
    rw [alone, Bus.joinLine_self]

theorem line_eq_nil (attended : traffic.Attended) {stage : Service.Stage}
    (found : traffic.services.find? () = some stage) (other : ∀ channel, stage ≠ .looking channel) :
    traffic.board.bus.line = [] := by
  rcases attended.alone with empty | ⟨channel, looks, -⟩
  · exact empty
  · exact absurd (Option.some.inj (found.symm.trans looks)) (other channel)

variable (attended : traffic.Attended) (hidden : Private (fun _ => execute) traffic)

include attended hidden

/-- A service that finds nothing waits, and one that waited already changes nothing. -/
theorem looks {channel : Channel} (found : traffic.services.find? () = some (.looking channel))
    (empty : traffic.board.bus.queue = []) (takesFrame : Bool) :
    let next := traffic.serve (fun _ => execute) () takesFrame (.looking channel)
    next.Attended ∧ next.AtRest ∧ (channel.id ∈ traffic.board.waiting → traffic.Still next) := by
  intro next
  have polled : traffic.board.bus.poll (traffic.board.look channel.id takesFrame) channel =
      ({ traffic.board.bus with line := [channel.id] }, .waiting) := by
    rw [Bus.poll_open hidden.isOpen, Bus.search, (hidden.owning.server found rfl).2]
    simp [Bus.pollQueue, empty, attended.joinLine_eq found]
  have board : next.board =
      { traffic.board with
        bus := { traffic.board.bus with line := [channel.id] }
        waiting := Bus.joinLine traffic.board.waiting channel.id } := by
    change traffic.board.receive _ channel = _
    simp [Switchboard.receive, Service.Stage.channel?, polled]
  have services : next.services = traffic.services := by
    have same : next.services = traffic.services.set () (.looking channel) := by
      change traffic.services.set () (.looked channel _) = _
      simp [Service.Stage.channel?, polled, Service.Stage.looked]
    rw [same, Association.set_self found]
  have looks := services ▸ found
  refine ⟨⟨⟨_, looks, rfl⟩, .inr ⟨channel, looks, by rw [board]⟩⟩,
    ⟨by simp [board, empty], channel, looks, ?_⟩, fun waits => ?_⟩
  · rw [board]
    simp only [Bus.joinLine]
    split <;> simp_all
  · have same : Bus.joinLine traffic.board.waiting channel.id = traffic.board.waiting :=
      if_pos waits
    exact ⟨by rw [board], fun _ => by rw [board, same], fun _ => by rw [board]; rfl, rfl, services⟩

/-- A service that finds a frame takes it, and has as many steps left as the frame is worth. -/
theorem takes {channel : Channel} (found : traffic.services.find? () = some (.looking channel))
    {frame : Frame} {rest : List Frame} (queued : traffic.board.bus.queue = frame :: rest)
    (takesFrame : Bool) :
    let next := traffic.serve (fun _ => execute) () takesFrame (.looking channel)
    next.Attended ∧ next.unrest < traffic.unrest := by
  intro next
  have polled : traffic.board.bus.poll (traffic.board.look channel.id takesFrame) channel =
      ({ traffic.board.bus with queue := rest, line := [] }, .ready (.ok frame)) :=
    Bus.poll_requests_cons hidden.isOpen (hidden.owning.server found rfl).2
      (attended.joinLine_eq found) queued
  have board : next.board.bus = { traffic.board.bus with queue := rest, line := [] } := by
    change (traffic.board.receive (traffic.board.look channel.id takesFrame) channel).bus = _
    rw [Switchboard.bus_receive, polled]
  have services : next.services = traffic.services.set () (.holding channel frame) := by
    change traffic.services.set () (.looked channel (traffic.board.bus.poll
      (traffic.board.look channel.id takesFrame) channel).2) = _
    rw [polled]
    rfl
  refine ⟨⟨⟨.holding channel frame, by simp [services], rfl⟩, .inl (by rw [board])⟩, ?_⟩
  simp only [unrest, board, services, queued, Association.find?_set, if_true, Option.elim_some,
    Service.Stage.unrest, List.length_cons]
  omega

/-- A step of the service brings it closer to its rest, unless it is at rest. -/
theorem serve (takesFrame : Bool) :
    let next := traffic.after (fun _ => execute) (.serve () takesFrame)
    next.Attended ∧ (next.unrest < traffic.unrest ∨ traffic.AtRest ∧ traffic.Still next) := by
  intro next
  obtain ⟨stage, found, sound⟩ := attended.serves
  have moved : next = traffic.serve (fun _ => execute) () takesFrame stage := by
    simp only [next, Traffic.after, found, Option.elim_some]
  -- Every step but a look leaves the line empty.
  have busy (last : Service.Stage) (other : ∀ channel, stage ≠ .looking channel)
      (line : next.board.bus.line ⊆ traffic.board.bus.line)
      (services : next.services = traffic.services.set () last) (fails : last.failure? = none)
      (queue : next.board.bus.queue = traffic.board.bus.queue)
      (lower : last.unrest next.board.waiting < stage.unrest traffic.board.waiting) :
      next.Attended ∧ (next.unrest < traffic.unrest ∨ traffic.AtRest ∧ traffic.Still next) := by
    have empty := attended.line_eq_nil found other
    rw [empty] at line
    refine ⟨⟨⟨last, by simp [services], fails⟩, .inl (List.eq_nil_of_subset_nil line)⟩, .inl ?_⟩
    simp only [unrest, queue, services, found, Association.find?_set, if_true, Option.elim_some]
    omega
  cases stage with
  | ready =>
      have board : next.board = traffic.board.attach .requests := by rw [moved]; rfl
      have attached := Bus.attach_open hidden.isOpen .requests
      refine busy (.looking { id := traffic.board.bus.nextId, filter := .requests }) (by simp) ?_ ?_ rfl
        ?_ ?_
      · simp [board, Switchboard.attach, attached]
      · rw [moved]
        change traffic.services.set () (.opened (traffic.board.bus.attach .requests).2) = _
        rw [attached]
        rfl
      · simp [board, Switchboard.attach, attached]
      · simp only [Service.Stage.unrest]
        split <;> omega
  | looking channel =>
      cases queued : traffic.board.bus.queue with
      | nil =>
          obtain ⟨keeps, rest, still⟩ := attended.looks hidden found queued takesFrame
          rw [← moved] at keeps rest still
          refine ⟨keeps, ?_⟩
          by_cases waits : channel.id ∈ traffic.board.waiting
          · exact .inr ⟨⟨queued, channel, found, waits⟩, still waits⟩
          · refine .inl ?_
            rw [rest.unrest_eq]
            simp [unrest, found, Service.Stage.unrest, waits]
      | cons frame rest =>
          rw [moved]
          obtain ⟨keeps, lower⟩ := attended.takes hidden found queued takesFrame
          exact ⟨keeps, .inl lower⟩
  | holding channel frame =>
      have board : next.board = traffic.board := by rw [moved]; rfl
      have services : next.services = traffic.services.set ()
          (.handled channel frame (Service.handle execute traffic.host frame).result) := by
        rw [moved]
        rfl
      refine busy _ (by simp) (by rw [board]; exact List.Subset.refl _) services ?_ (by rw [board]) ?_
      · cases (Service.handle execute traffic.host frame).result <;> rfl
      · cases (Service.handle execute traffic.host frame).result <;>
          simp [Service.Stage.handled, Service.Stage.unrest]
  | replying channel frame reply =>
      obtain ⟨host, answered⟩ := hidden.answering () channel frame reply found
      have response := Service.isRequest_of_handle answered
      have board : next.board = traffic.board.publish reply := by rw [moved]; rfl
      have services : next.services = traffic.services.set () (.leaving channel none) := by
        rw [moved]
        change traffic.services.set () (.replied channel (traffic.board.bus.publish reply).result) = _
        rw [(Bus.publish_response hidden.isOpen response).2]
        rfl
      rw [Switchboard.publish_of_open hidden.isOpen, response] at board
      exact busy _ (by simp) (by simp [board, Bus.deliver]) services rfl (by simp [board, Bus.deliver])
        (by simp [Service.Stage.unrest])
  | leaving channel failure? =>
      obtain rfl : failure? = none := sound
      have board : next.board = traffic.board.detach channel := by rw [moved]; rfl
      have services : next.services = traffic.services.set () .ready := by rw [moved]; rfl
      refine busy _ (by simp) ?_ services rfl ?_ (by simp [Service.Stage.unrest])
      · simp [board, Switchboard.detach]
      · simp [board, Switchboard.detach]
  | failed failure => cases sound

/-- What a client does neither moves the service nor puts anybody before it. -/
theorem client (move : Move Unit) {act : Act} (acts : traffic.act? move = some act)
    (others : ∀ takesFrame, move ≠ .serve () takesFrame) (goesOn : move ≠ .stop ())
    (services : (traffic.after (fun _ => execute) move).services = traffic.services)
    (line : ∀ id, act.named? ≠ some id → traffic.board.bus.line = [id] →
      (traffic.board.after act).bus.line = [id])
    (empty : traffic.board.bus.line = [] → (traffic.board.after act).bus.line = []) :
    let next := traffic.after (fun _ => execute) move
    next.Attended ∧ next.unrest + 6 * traffic.board.bus.queue.length =
      traffic.unrest + 6 * next.board.bus.queue.length := by
  intro next
  have board : next.board = traffic.board.after act := by
    rw [hidden.owning.board_after, acts]
    rfl
  have foreign {channel : Channel} (looks : traffic.services.find? () = some (.looking channel)) :
      act.named? ≠ some channel.id :=
    hidden.owning.foreign_server looks rfl others goesOn acts
  refine ⟨⟨by rw [services]; exact attended.serves, ?_⟩, ?_⟩
  · rw [services, board]
    rcases attended.alone with none | ⟨channel, looks, alone⟩
    · exact .inl (empty none)
    · exact .inr ⟨channel, looks, line channel.id (foreign looks) alone⟩
  · obtain ⟨stage, found, -⟩ := attended.serves
    have same : stage.unrest next.board.waiting = stage.unrest traffic.board.waiting := by
      cases stage with
      | looking channel =>
          simp only [Service.Stage.unrest, board, Switchboard.mem_waiting_after_iff (foreign found)]
      | ready => rfl
      | holding channel frame => rfl
      | replying channel frame reply => rfl
      | leaving channel failure? => rfl
      | failed failure => rfl
    rw [unrest, unrest, services, found, Option.elim_some, Option.elim_some, same]
    omega

theorem send (oneWay : Bool) (limit : Option Nat) (request : Request) :
    let next := traffic.after (fun _ => execute) (.send oneWay limit request)
    next.Attended ∧ next.unrest = traffic.unrest := by
  intro next
  have attached : (traffic.board.attach (request.filter oneWay)).bus.line = traffic.board.bus.line ∧
      (traffic.board.attach (request.filter oneWay)).bus.queue = traffic.board.bus.queue := by
    simp [Switchboard.attach, Bus.attach_open hidden.isOpen]
  have board : next.board = traffic.board.attach (request.filter oneWay) :=
    hidden.owning.board_after _ (.send oneWay limit request)
  obtain ⟨keeps, count⟩ := attended.client hidden (.send oneWay limit request) rfl (by simp) (by simp)
    (traffic.services_send oneWay limit request) (fun _ _ alone => attached.1.trans alone)
    attached.1.trans
  refine ⟨keeps, ?_⟩
  change next.unrest + _ = _ + 6 * next.board.bus.queue.length at count
  rw [board, attached.2] at count
  omega

/-- A client gives the service work only by sending its request. -/
theorem proceed {id : Nat} {journey : Journey} (found : traffic.journeys.find? id = some journey)
    (takesFrame : Bool) :
    let next := traffic.after (fun _ => execute) (.proceed id takesFrame)
    next.Attended ∧ next.unrest = traffic.unrest + if journey.stage = .opened then 6 else 0 := by
  intro next
  obtain ⟨own, live, filter⟩ := hidden.owning.client found
  have acts : traffic.act? (.proceed id takesFrame) = some (journey.act takesFrame) := by
    simp [act?, found]
  have board : next.board = traffic.board.after (journey.act takesFrame) := by
    rw [hidden.owning.board_after, acts]
    rfl
  have services : next.services = traffic.services := by
    simp only [next, after, found, Option.elim_some]
    exact (traffic.proceed_others takesFrame journey).1
  have counted (more : Nat)
      (line : ∀ id, (journey.act takesFrame).named? ≠ some id → traffic.board.bus.line = [id] →
        (traffic.board.after (journey.act takesFrame)).bus.line = [id])
      (empty : traffic.board.bus.line = [] →
        (traffic.board.after (journey.act takesFrame)).bus.line = [])
      (queue : (traffic.board.after (journey.act takesFrame)).bus.queue.length =
        traffic.board.bus.queue.length + more) :
      next.Attended ∧ next.unrest = traffic.unrest + 6 * more := by
    obtain ⟨keeps, count⟩ := attended.client hidden (.proceed id takesFrame) acts (by simp) (by simp)
      services line empty
    change next.unrest + _ = _ + 6 * next.board.bus.queue.length at count
    rw [board, queue] at count
    exact ⟨keeps, by omega⟩
  unfold Sending.act at counted
  cases stage : journey.stage with
  | opened =>
      simp only [stage, Switchboard.after, Switchboard.publish_of_open hidden.isOpen,
        journey.request.isRequest_frame, if_true] at counted
      exact counted 1 (fun _ _ alone => alone) (fun empty => empty) (by simp [Bus.enqueue])
  | waiting deadline =>
      have other : journey.channel.filter ≠ .requests := by
        rw [filter, Request.filter]
        split <;> simp
      obtain ⟨line, queue⟩ := Switchboard.receive_other hidden.isOpen other
        (traffic.board.look journey.channel.id takesFrame)
      simp only [stage, hidden.owning.numbered.after_receive live] at counted
      exact counted 0 (fun _ _ alone => line.trans alone) line.trans (by simp [queue])
  | ended result =>
      simp only [stage, hidden.owning.numbered.after_detach live, Switchboard.detach] at counted
      refine counted 0 (fun id foreign alone => ?_) (fun empty => ?_) (by simp)
      · have apart : id ≠ journey.channel.id := fun same => foreign (congrArg some same.symm)
        simp [alone, apart]
      · simp [empty]

end Attended

end Traffic

end RemoteObjects
