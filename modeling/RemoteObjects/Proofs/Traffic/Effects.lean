import RemoteObjects.Proofs.Bus.Journal
import RemoteObjects.Proofs.Traffic.Ownership

namespace RemoteObjects

open Switchboard (Act)

namespace Traffic

variable {ι η : Type} [DecidableEq ι] {traffic next : Traffic ι η}

/-- A service with a frame in its hands that it has not answered. -/
def hand? (traffic : Traffic ι η) (name : ι) : Option Service.Stage :=
  (traffic.services.find? name).filter fun stage => stage.frame?.isSome

/-- Everything that a move on an open bus can do to the requests, as long as nobody else moves: nothing,
send one, take one, handle one or publish its reply. -/
inductive Effect (executions : ι → Execution η) (traffic : Traffic ι η) (move : Move ι)
    (next : Traffic ι η) : Prop where
  | quiet (board : traffic.board.Quiet next.board) (hands : next.hand? = traffic.hand?)
      (host : next.host = traffic.host) (executed : next.executed = traffic.executed)
  | sends {id : Nat} {journey : Journey} {takesFrame : Bool}
      (found : traffic.journeys.find? id = some journey) (opened : journey.stage = .opened)
      (requests : next.board.sentRequests = traffic.board.sentRequests ++ [journey.request.frame])
      (responses : next.board.sentResponses = traffic.board.sentResponses)
      (taken : next.board.taken = traffic.board.taken) (hands : next.hand? = traffic.hand?)
      (host : next.host = traffic.host) (executed : next.executed = traffic.executed)
      (proceeds : move = .proceed id takesFrame)
  | takes {name : ι} {channel : Channel} {frame : Frame} (empty : traffic.hand? name = none)
      (queued : traffic.board.bus.queue.head? = some frame)
      (requests : next.board.sentRequests = traffic.board.sentRequests)
      (responses : next.board.sentResponses = traffic.board.sentResponses)
      (taken : next.board.taken = traffic.board.taken ++ [(channel, frame)])
      (hands : next.hand? = Function.update traffic.hand? name (some (.holding channel frame)))
      (host : next.host = traffic.host) (executed : next.executed = traffic.executed)
  | handles {name : ι} {channel : Channel} {frame : Frame}
      (held : traffic.hand? name = some (.holding channel frame))
      (board : next.board = traffic.board)
      (hands : next.hand? = Function.update traffic.hand? name
        ((Service.handle (executions name) traffic.host frame).result.map (.replying channel frame)))
      (host : next.host = (Service.handle (executions name) traffic.host frame).state)
      (executed : next.executed = traffic.executed ++ [(name, frame)])
  | replies {name : ι} {channel : Channel} {frame reply : Frame}
      (held : traffic.hand? name = some (.replying channel frame reply))
      (requests : next.board.sentRequests = traffic.board.sentRequests)
      (responses : next.board.sentResponses = traffic.board.sentResponses ++ [reply])
      (taken : next.board.taken = traffic.board.taken)
      (hands : next.hand? = Function.update traffic.hand? name none)
      (host : next.host = traffic.host) (executed : next.executed = traffic.executed)

omit [DecidableEq ι] in
/-- A client finds no request. -/
theorem receive_client {journey : Journey} {board : Switchboard}
    (filter : journey.channel.filter = journey.request.filter journey.oneWay) (look : Bus.Look) :
    board.Quiet (board.receive look journey.channel) := by
  refine board.receive_quiet look (.inl ?_)
  rw [filter, Request.filter]
  split <;> simp

theorem hand?_of_found {name : ι} {stage : Service.Stage}
    (found : traffic.services.find? name = some stage) :
    traffic.hand? name = if stage.frame?.isSome then some stage else none := by
  simp [hand?, found, Option.filter]

theorem hand?_of_vacant {name : ι}
    (vacant : (traffic.services.find? name).bind Service.Stage.frame? = none) :
    traffic.hand? name = none := by
  unfold hand?
  cases found : traffic.services.find? name with
  | none => rfl
  | some stage =>
      rw [found, Option.bind_some] at vacant
      simp [Option.filter, vacant]

theorem hand?_set {name : ι} {stage : Service.Stage}
    (services : next.services = traffic.services.set name stage) :
    next.hand? =
      Function.update traffic.hand? name (if stage.frame?.isSome then some stage else none) := by
  funext other
  by_cases own : name = other
  · subst own
    simp [hand?, services, Option.filter]
  · simp [hand?, services, own, Ne.symm own]

/-- Nothing comes into a hand that is empty and stays so. -/
theorem hand?_set_of_empty (name : ι) {stage : Service.Stage}
    (services : next.services = traffic.services.set name stage)
    (before : traffic.hand? name = none) (after : stage.frame? = none) :
    next.hand? = traffic.hand? := by
  rw [hand?_set services, after, Function.update_eq_self_iff, before]
  rfl

theorem hand?_erase (name : ι) (services : next.services = traffic.services.erase name)
    (before : traffic.hand? name = none) : next.hand? = traffic.hand? := by
  funext other
  by_cases own : name = other
  · subst own
    rw [before]
    simp [hand?, services]
  · simp [hand?, services, own]

theorem hand?_congr (services : next.services = traffic.services) : next.hand? = traffic.hand? := by
  funext name
  simp [hand?, services]

omit [DecidableEq ι] in
theorem services_send (traffic : Traffic ι η) (oneWay : Bool) (limit : Option Nat)
    (request : Request) : (traffic.send oneWay limit request).services = traffic.services := by
  unfold send
  split <;> rfl

omit [DecidableEq ι] in
/-- Clients leave the services and the host alone. -/
theorem proceed_others (traffic : Traffic ι η) (takesFrame : Bool) (journey : Journey) :
    (traffic.proceed takesFrame journey).services = traffic.services ∧
      (traffic.proceed takesFrame journey).host = traffic.host ∧
      (traffic.proceed takesFrame journey).executed = traffic.executed := by
  unfold proceed
  split <;> exact ⟨rfl, rfl, rfl⟩

theorem effect_self (executions : ι → Execution η) (traffic : Traffic ι η) (move : Move ι) :
    traffic.Effect executions move traffic :=
  .quiet ⟨rfl, rfl, rfl⟩ rfl rfl rfl

/-- A client sends its request, or it changes nothing that concerns the requests. -/
theorem proceed_effect (owning : traffic.Owning) (isOpen : traffic.board.bus.closed = false)
    (executions : ι → Execution η) (takesFrame : Bool) {id : Nat} {journey : Journey}
    (found : traffic.journeys.find? id = some journey) :
    traffic.Effect executions (.proceed id takesFrame) (traffic.proceed takesFrame journey) := by
  obtain ⟨services, host, executed⟩ := traffic.proceed_others takesFrame journey
  obtain ⟨own, live, filter⟩ := owning.client found
  have board : (traffic.proceed takesFrame journey).board =
      traffic.board.after (journey.act takesFrame) := by
    have moved := owning.board_after executions (.proceed id takesFrame)
    simpa [after, act?, found] using moved
  unfold Sending.act at board
  cases stage : journey.stage with
  | opened =>
      have request := journey.request.isRequest_frame
      simp only [stage, Switchboard.after] at board
      refine .sends found stage ?_ ?_ ?_ (hand?_congr services) host executed rfl
      · simp [board, Switchboard.sentRequests_publish isOpen, request]
      · simp [board, Switchboard.sentResponses_publish isOpen, request]
      · simp [board, Switchboard.taken_publish isOpen]
  | waiting deadline =>
      rw [stage] at board
      dsimp only at board
      rw [owning.numbered.after_receive live] at board
      exact .quiet (board ▸ receive_client filter _) (hand?_congr services) host executed
  | ended result =>
      rw [stage] at board
      dsimp only at board
      rw [owning.numbered.after_detach live] at board
      exact .quiet (board ▸ traffic.board.detach_quiet _) (hand?_congr services) host executed

/-- What a service is about to publish is the answer to the frame in its hands. -/
def Answering (executions : ι → Execution η) (traffic : Traffic ι η) : Prop :=
  ∀ name channel frame reply,
    traffic.services.find? name = some (.replying channel frame reply) →
      ∃ host, (Service.handle (executions name) host frame).result = some reply

theorem Answering.after {executions : ι → Execution η} (answering : Answering executions traffic)
    (owning : traffic.Owning) (move : Move ι) :
    Answering executions (traffic.after executions move) := by
  intro name channel frame reply serves
  generalize turned : Service.Stage.replying channel frame reply = stage at serves
  cases owning.server_step executions serves with
  | kept found =>
      subst turned
      exact answering name channel frame reply found
  | starts => cases turned
  | moves _ found => exact ⟨traffic.host, (Service.Stage.step_eq_replying turned.symm).2⟩

/-- Who awaits a reply to a request that can be written is answered under the response tag. -/
theorem Answering.tag_eq {executions : ι → Execution η} (answering : Answering executions traffic)
    {name : ι} {channel : Channel} {request : Request} {reply : Frame} (fits : request.fits = true)
    (hand : traffic.hand? name = some (.replying channel request.frame reply)) :
    reply.tag = request.responseTag := by
  obtain ⟨host, answered⟩ :=
    answering name channel request.frame reply (Option.filter_eq_some_iff.mp hand).1
  rw [(Service.handle_request _ _ (Request.request?_frame fits)).2, Option.map_eq_some_iff] at answered
  obtain ⟨content, -, rfl⟩ := answered
  rfl

/-- A service takes a frame, handles it or replies, or it does nothing of the kind. -/
theorem serve_effect (owning : traffic.Owning) (isOpen : traffic.board.bus.closed = false)
    {executions : ι → Execution η} (answering : Answering executions traffic) {name : ι}
    (takesFrame : Bool) {stage : Service.Stage}
    (found : traffic.services.find? name = some stage) :
    traffic.Effect executions (.serve name takesFrame)
      (traffic.serve executions name takesFrame stage) := by
  have hand := hand?_of_found found
  cases stage with
  | ready =>
      refine .quiet (traffic.board.attach_quiet .requests) ?_ rfl (List.append_nil _)
      refine hand?_set_of_empty name rfl hand ?_
      rw [Bus.attach_open isOpen]
      rfl
  | looking channel =>
      let look := traffic.board.look channel.id takesFrame
      have quiet (unread : ∀ frame, (traffic.board.bus.poll look channel).2 ≠ .ready (.ok frame))
          (empty : (Service.Stage.looked channel (traffic.board.bus.poll look channel).2).frame? =
            none) :
          traffic.Effect executions (.serve name takesFrame)
            (traffic.serve executions name takesFrame (.looking channel)) :=
        .quiet (traffic.board.receive_quiet look (.inr unread))
          (hand?_set_of_empty name rfl hand empty) rfl (List.append_nil _)
      rcases polled : (traffic.board.bus.poll look channel).2 with (failure | frame) | _
      · exact quiet (by simp [polled]) (by rw [polled]; rfl)
      · obtain ⟨queued, requests, responses, taken⟩ :=
          Switchboard.receive_taken (owning.server found rfl).2 polled
        have services :
            (traffic.serve executions name takesFrame (.looking channel)).services =
              traffic.services.set name (.holding channel frame) :=
          congrArg (fun found => traffic.services.set name (.looked channel found)) polled
        exact .takes hand queued requests responses taken (hand?_set services) rfl (List.append_nil _)
      · exact quiet (by simp [polled]) (by rw [polled]; rfl)
  | holding channel frame =>
      refine .handles hand rfl ?_ rfl rfl
      have services :
          (traffic.serve executions name takesFrame (.holding channel frame)).services =
            traffic.services.set name (.handled channel frame
              (Service.handle (executions name) traffic.host frame).result) := rfl
      rw [hand?_set services]
      cases (Service.handle (executions name) traffic.host frame).result <;> rfl
  | replying channel frame reply =>
      obtain ⟨host, answered⟩ := answering name channel frame reply found
      have response := Service.isRequest_of_handle answered
      have sent : (traffic.board.bus.publish reply).result = .ok () :=
        (Bus.publish_response isOpen response).2
      have services :
          (traffic.serve executions name takesFrame (.replying channel frame reply)).services =
            traffic.services.set name (.leaving channel none) :=
        congrArg (fun result => traffic.services.set name (.replied channel result)) sent
      refine .replies hand ?_ ?_ ?_ (hand?_set services) rfl (List.append_nil _)
      · exact (Switchboard.sentRequests_publish isOpen reply).trans (by simp [response])
      · exact (Switchboard.sentResponses_publish isOpen reply).trans (by simp [response])
      · exact Switchboard.taken_publish isOpen reply
  | leaving channel failure? =>
      refine .quiet (traffic.board.detach_quiet channel) ?_ rfl (List.append_nil _)
      exact hand?_set_of_empty name rfl hand (by cases failure? <;> rfl)
  | failed failure =>
      refine .quiet ⟨rfl, rfl, rfl⟩ ?_ rfl (List.append_nil _)
      exact hand?_set_of_empty name rfl hand rfl

theorem after_effect (owning : traffic.Owning) (isOpen : traffic.board.bus.closed = false)
    {executions : ι → Execution η} (answering : Answering executions traffic) {move : Move ι}
    (inside : ∀ act, move ≠ .outside act) :
    traffic.Effect executions move (traffic.after executions move) := by
  cases traffic.step_after executions move with
  | idle _ _ same | absent _ same => rw [same]; exact traffic.effect_self executions _
  | refused _ moved | opens _ moved =>
      rw [moved]
      exact .quiet (traffic.board.attach_quiet _) rfl rfl rfl
  | advances found _ _ | arrives found _ =>
      simpa [after, found] using proceed_effect owning isOpen executions _ found
  | givesUp _ _ moved =>
      rw [moved]
      exact .quiet (traffic.board.detach_quiet _) rfl rfl rfl
  | starts vacant moved =>
      rw [moved]
      exact .quiet ⟨rfl, rfl, rfl⟩ (hand?_set_of_empty _ rfl (hand?_of_vacant vacant) rfl) rfl rfl
  | serves found moved =>
      rw [moved]
      exact serve_effect owning isOpen answering _ found
  | retires found moved =>
      rw [moved]
      exact .quiet ⟨rfl, rfl, rfl⟩ (hand?_erase _ rfl (hand?_of_found found)) rfl rfl
  | leaves found _ moved =>
      rw [moved]
      exact .quiet (traffic.board.detach_quiet _) (hand?_erase _ rfl (hand?_of_found found)) rfl rfl
  | passes moved => rw [moved]; exact .quiet ⟨rfl, rfl, rfl⟩ rfl rfl rfl
  | others _ _ => exact absurd rfl (inside _)

end Traffic

end RemoteObjects
