import RemoteObjects.Proofs.Association
import RemoteObjects.Proofs.Bus.Requests
import RemoteObjects.Proofs.Traffic.Basic

namespace RemoteObjects

open Switchboard (Act)

/-- The operation of the bus that is a client's next step. -/
def Sending.act (sending : Sending) (takesFrame : Bool) : Act :=
  match sending.stage with
  | .opened => .publish sending.request.frame
  | .waiting _ => .receive sending.channel.id takesFrame
  | .ended _ => .detach sending.channel.id

/-- The operation of the bus that is a service's next step, unless it uses only its host. -/
def Service.Stage.act? (stage : Service.Stage) (takesFrame : Bool) : Option Act :=
  match stage with
  | .ready => some (.attach .requests)
  | .looking channel => some (.receive channel.id takesFrame)
  | .replying _ _ reply => some (.publish reply)
  | .leaving channel _ => some (.detach channel.id)
  | .holding _ _ | .failed _ => none

namespace Switchboard

variable {board : Switchboard} {channel : Channel}

theorem Numbered.after_receive (numbered : board.Numbered) (member : channel ∈ board.live)
    (takesFrame : Bool) :
    board.after (.receive channel.id takesFrame) =
      board.receive (board.look channel.id takesFrame) channel := by
  simp [after, numbered.channel?_eq member]

theorem Numbered.after_detach (numbered : board.Numbered) (member : channel ∈ board.live) :
    board.after (.detach channel.id) = board.detach channel := by
  simp [after, numbered.channel?_eq member]

end Switchboard

theorem Sending.step_board {board : Switchboard} (numbered : board.Numbered) {sending : Sending}
    (member : sending.channel ∈ board.live) (now : Nat) (takesFrame : Bool) :
    (sending.step now (board.look sending.channel.id takesFrame) board).1 =
      board.after (sending.act takesFrame) := by
  unfold Sending.step Sending.act
  cases sending.stage with
  | opened =>
      dsimp only [Medium.publish]
      cases (board.bus.publish sending.request.frame).result <;> rfl
  | waiting deadline => exact (numbered.after_receive member takesFrame).symm
  | ended result => exact (numbered.after_detach member).symm

theorem Service.Stage.step_board {η : Type} (execute : Execution η) (host : η) {board : Switchboard}
    (numbered : board.Numbered) {stage : Service.Stage}
    (member : ∀ channel, stage.channel? = some channel → channel ∈ board.live) (takesFrame : Bool) :
    let look := stage.channel?.elim .first fun channel => board.look channel.id takesFrame
    (stage.step execute look board host).1.1 = (stage.act? takesFrame).elim board board.after := by
  cases stage with
  | looking channel => exact (numbered.after_receive (member channel rfl) takesFrame).symm
  | leaving channel failure? => exact (numbered.after_detach (member channel rfl)).symm
  | ready => rfl
  | holding channel frame => rfl
  | replying channel frame reply => rfl
  | failed failure => rfl

namespace Traffic

variable {ι η : Type} [DecidableEq ι] {traffic : Traffic ι η}

/-- The operation of the bus that a move is, if it is one. -/
def act? (traffic : Traffic ι η) : Move ι → Option Act
  | .send oneWay _ request => some (.attach (request.filter oneWay))
  | .proceed id takesFrame =>
      (traffic.journeys.find? id).map fun journey => journey.act takesFrame
  | .giveUp id =>
      (traffic.journeys.find? id).bind fun journey =>
        if journey.channel.id ∈ traffic.board.waiting then some (.detach journey.channel.id) else none
  | .serve name takesFrame => (traffic.services.find? name).bind (·.act? takesFrame)
  | .stop name =>
      (traffic.services.find? name).bind fun
        | .looking channel =>
            if channel.id ∈ traffic.board.waiting then some (.detach channel.id) else none
        | .ready | .holding _ _ | .replying _ _ _ | .leaving _ _ | .failed _ => none
  | .outside act => if act.avoids traffic.owned then some act else none
  | .start _ | .pass _ => none

/-- Everything that a move can do: one case for each way in which it ends. -/
inductive Step (executions : ι → Execution η) (traffic next : Traffic ι η) : Move ι → Prop where
  | idle {move : Move ι} (inactive : traffic.act? move = none)
      (unserved : ∀ name takesFrame, move ≠ .serve name takesFrame) (same : next = traffic) :
      Step executions traffic next move
  | refused {oneWay : Bool} {limit : Option Nat} {request : Request}
      (closed : traffic.board.bus.closed = true)
      (moved : next = { traffic with board := traffic.board.attach (request.filter oneWay) }) :
      Step executions traffic next (.send oneWay limit request)
  | opens {oneWay : Bool} {limit : Option Nat} {request : Request}
      (isOpen : traffic.board.bus.closed = false)
      (moved : next =
        { traffic with
          board := traffic.board.attach (request.filter oneWay)
          journeys := traffic.journeys.set traffic.board.bus.nextId
            { request
              oneWay
              limit
              channel := { id := traffic.board.bus.nextId, filter := request.filter oneWay }
              heard := (traffic.board.sentUnder request.responseTag).length } }) :
      Step executions traffic next (.send oneWay limit request)
  | advances {id : Nat} {takesFrame : Bool} {journey : Journey} {stage : Sending.Stage}
      (found : traffic.journeys.find? id = some journey)
      (stepped : (traffic.clientStep takesFrame journey).2 = some stage)
      (moved : next =
        { traffic with
          board := (traffic.clientStep takesFrame journey).1
          journeys := traffic.journeys.set journey.channel.id (traffic.moved journey stage) }) :
      Step executions traffic next (.proceed id takesFrame)
  | arrives {id : Nat} {takesFrame : Bool} {journey : Journey}
      (found : traffic.journeys.find? id = some journey)
      (moved : next =
        { traffic with
          board := (traffic.clientStep takesFrame journey).1
          journeys := traffic.journeys.erase journey.channel.id }) :
      Step executions traffic next (.proceed id takesFrame)
  | givesUp {id : Nat} {journey : Journey} (found : traffic.journeys.find? id = some journey)
      (waits : journey.channel.id ∈ traffic.board.waiting)
      (moved : next =
        { traffic with
          board := traffic.board.detach journey.channel
          journeys := traffic.journeys.erase journey.channel.id }) :
      Step executions traffic next (.giveUp id)
  | starts {name : ι} (vacant : (traffic.services.find? name).bind Service.Stage.frame? = none)
      (moved : next = { traffic with services := traffic.services.set name .ready }) :
      Step executions traffic next (.start name)
  | absent {name : ι} {takesFrame : Bool} (missing : traffic.services.find? name = none)
      (same : next = traffic) : Step executions traffic next (.serve name takesFrame)
  | serves {name : ι} {takesFrame : Bool} {stage : Service.Stage}
      (found : traffic.services.find? name = some stage)
      (moved : next = traffic.serve executions name takesFrame stage) :
      Step executions traffic next (.serve name takesFrame)
  | retires {name : ι} (found : traffic.services.find? name = some .ready)
      (moved : next = { traffic with services := traffic.services.erase name }) :
      Step executions traffic next (.stop name)
  | leaves {name : ι} {channel : Channel}
      (found : traffic.services.find? name = some (.looking channel))
      (waits : channel.id ∈ traffic.board.waiting)
      (moved : next =
        { traffic with
          board := traffic.board.detach channel
          services := traffic.services.erase name }) :
      Step executions traffic next (.stop name)
  | passes {duration : Nat} (moved : next = { traffic with now := traffic.now + duration }) :
      Step executions traffic next (.pass duration)
  | others {act : Act} (avoids : act.avoids traffic.owned = true)
      (moved : next = { traffic with board := traffic.board.after act }) :
      Step executions traffic next (.outside act)

theorem step_after (executions : ι → Execution η) (traffic : Traffic ι η) (move : Move ι) :
    Step executions traffic (traffic.after executions move) move := by
  cases move with
  | send oneWay limit request =>
      simp only [after, send, Medium.attach]
      cases closed : traffic.board.bus.closed with
      | true => exact .refused closed (by simp [Bus.attach, closed])
      | false => exact .opens closed (by rw [Bus.attach_open closed])
  | proceed id takesFrame =>
      simp only [after]
      cases found : traffic.journeys.find? id with
      | none => exact .idle (by simp [act?, found]) (by simp) rfl
      | some journey =>
          rw [Option.elim_some, proceed]
          rcases stepped : traffic.clientStep takesFrame journey with ⟨board, none | stage⟩
          · exact .arrives found (by rw [stepped])
          · exact .advances found (by rw [stepped]) (by rw [stepped])
  | giveUp id =>
      simp only [after]
      cases found : traffic.journeys.find? id with
      | none => exact .idle (by simp [act?, found]) (by simp) rfl
      | some journey =>
          rw [Option.elim_some, giveUp]
          split
          · next waits => exact .givesUp found waits rfl
          · next awake => exact .idle (by simp [act?, found, awake]) (by simp) rfl
  | start name =>
      simp only [after, start]
      split
      · next absent => exact .starts (by simp [absent]) rfl
      · next failed => exact .starts (by simp [failed, Service.Stage.frame?]) rfl
      · exact .idle rfl (by simp) rfl
  | serve name takesFrame =>
      simp only [after]
      cases found : traffic.services.find? name with
      | none => exact .absent found rfl
      | some stage => exact .serves found rfl
  | stop name =>
      simp only [after]
      cases found : traffic.services.find? name with
      | none => exact .idle (by simp [act?, found]) (by simp) rfl
      | some stage =>
          cases stage with
          | ready => exact .retires found rfl
          | looking channel =>
              simp only [Option.elim_some, stop]
              split
              · next waits => exact .leaves found waits rfl
              · next awake => exact .idle (by simp [act?, found, awake]) (by simp) rfl
          | holding channel frame => exact .idle (by simp [act?, found]) (by simp) rfl
          | replying channel frame reply => exact .idle (by simp [act?, found]) (by simp) rfl
          | leaving channel failure? => exact .idle (by simp [act?, found]) (by simp) rfl
          | failed failure => exact .idle (by simp [act?, found]) (by simp) rfl
  | pass duration => exact .passes rfl
  | outside act =>
      simp only [after]
      split
      · next avoids => exact .others avoids rfl
      · next busy => exact .idle (by simp [act?, busy]) (by simp) rfl

/-- Every client and every service has a live channel of the right kind to itself. -/
structure Owning (traffic : Traffic ι η) : Prop where
  reached : ∃ acts, traffic.board = Switchboard.run {} acts
  client : ∀ {id journey}, traffic.journeys.find? id = some journey →
    journey.channel.id = id ∧ journey.channel ∈ traffic.board.live ∧
      journey.channel.filter = journey.request.filter journey.oneWay
  server : ∀ {name stage channel}, traffic.services.find? name = some stage →
    stage.channel? = some channel →
      channel ∈ traffic.board.live ∧ channel.filter = .requests
  apart : ∀ {one other first second channel}, traffic.services.find? one = some first →
    traffic.services.find? other = some second → first.channel? = some channel →
      second.channel? = some channel → one = other

namespace Owning

theorem numbered (owning : traffic.Owning) : traffic.board.Numbered := by
  obtain ⟨acts, reached⟩ := owning.reached
  rw [reached]
  exact Switchboard.numbered_run acts

theorem balanced (owning : traffic.Owning) : traffic.board.Balanced := by
  obtain ⟨acts, reached⟩ := owning.reached
  rw [reached]
  exact Switchboard.balanced_run acts

/-- A move does to the bus what its operation does. -/
theorem board_after (owning : traffic.Owning) (executions : ι → Execution η) (move : Move ι) :
    (traffic.after executions move).board =
      (traffic.act? move).elim traffic.board traffic.board.after := by
  have numbered := owning.numbered
  cases traffic.step_after executions move with
  | idle inactive _ same => rw [inactive, same, Option.elim_none]
  | absent missing same => simp [same, act?, missing]
  | refused _ moved => rw [moved]; rfl
  | opens _ moved => rw [moved]; rfl
  | advances found _ moved =>
      rw [moved, act?, found]
      exact Sending.step_board numbered (owning.client found).2.1 traffic.now _
  | arrives found moved =>
      rw [moved, act?, found]
      exact Sending.step_board numbered (owning.client found).2.1 traffic.now _
  | givesUp found waits moved =>
      simp only [moved, act?, found, Option.bind_some, waits, if_true]
      exact (numbered.after_detach (owning.client found).2.1).symm
  | starts _ moved => rw [moved]; rfl
  | serves found moved =>
      rw [moved, act?, found]
      exact Service.Stage.step_board _ traffic.host numbered
        (fun channel has => (owning.server found has).1) _
  | retires found moved => simp [moved, act?, found]
  | leaves found waits moved =>
      simp only [moved, act?, found, Option.bind_some, waits, if_true]
      exact (numbered.after_detach (owning.server found rfl).1).symm
  | passes moved => rw [moved]; rfl
  | others avoids moved => simp [moved, act?, avoids]

theorem client_ne_server (owning : traffic.Owning) {id : Nat} {journey : Journey} {name : ι}
    {stage : Service.Stage} {channel : Channel} (travels : traffic.journeys.find? id = some journey)
    (serves : traffic.services.find? name = some stage) (has : stage.channel? = some channel) :
    channel.id ≠ id := by
  obtain ⟨named, live, filter⟩ := owning.client travels
  obtain ⟨member, reader⟩ := owning.server serves has
  rintro rfl
  have same := owning.numbered.eq_of_id_eq (owning.numbered.opened_of_live live)
    (owning.numbered.opened_of_live member) named
  rw [same, reader] at filter
  cases oneWay : journey.oneWay <;> simp [Request.filter, oneWay] at filter

omit [DecidableEq ι] in
theorem client_mem_owned {id : Nat} {journey : Journey}
    (found : traffic.journeys.find? id = some journey) : journey.channel ∈ traffic.owned := by
  have entry := Association.mem_entries_of_find? found
  exact List.mem_append_left _ (List.mem_map.mpr ⟨_, entry, rfl⟩)

theorem server_mem_owned {name : ι} {stage : Service.Stage} {channel : Channel}
    (found : traffic.services.find? name = some stage) (has : stage.channel? = some channel) :
    channel ∈ traffic.owned := by
  have entry := Association.mem_entries_of_find? found
  exact List.mem_append_right _ (List.mem_filterMap.mpr ⟨_, entry, has⟩)

/-- Clients and services never close the bus. -/
theorem act?_ne_close {move : Move ι} (inside : ∀ act, move ≠ .outside act) {act : Act}
    (acts : traffic.act? move = some act) : act ≠ .close := by
  rintro rfl
  cases move with
  | send oneWay limit request => cases acts
  | proceed id takesFrame =>
      obtain ⟨journey, -, closes⟩ := Option.map_eq_some_iff.mp acts
      unfold Sending.act at closes
      split at closes <;> cases closes
  | giveUp id =>
      obtain ⟨journey, -, closes⟩ := Option.bind_eq_some_iff.mp acts
      split at closes <;> cases closes
  | serve name takesFrame =>
      obtain ⟨stage, -, closes⟩ := Option.bind_eq_some_iff.mp acts
      cases stage <;> cases closes
  | stop name =>
      obtain ⟨stage, -, closes⟩ := Option.bind_eq_some_iff.mp acts
      split at closes
      · split at closes <;> cases closes
      all_goals cases closes
  | outside act => exact inside act rfl
  | start name => cases acts
  | pass duration => cases acts

/-- Who uses a channel that is open has it. -/
theorem named_cases (owning : traffic.Owning) {move : Move ι} {act : Act} {id : Nat}
    (acts : traffic.act? move = some act) (named : act.named? = some id) :
    (∃ takesFrame, move = .proceed id takesFrame) ∨ move = .giveUp id ∨
      (∃ name stage channel, traffic.services.find? name = some stage ∧
        stage.channel? = some channel ∧ channel.id = id ∧
        ((∃ takesFrame, move = .serve name takesFrame) ∨ move = .stop name)) ∨
      act.avoids traffic.owned = true := by
  cases move with
  | send oneWay limit request =>
      cases acts
      cases named
  | proceed other takesFrame =>
      obtain ⟨mover, moves, rfl⟩ := Option.map_eq_some_iff.mp acts
      have own := (owning.client moves).1
      unfold Sending.act at named
      cases stage : mover.stage <;> simp_all [Act.named?]
  | giveUp other =>
      obtain ⟨mover, moves, gives⟩ := Option.bind_eq_some_iff.mp acts
      have own := (owning.client moves).1
      split at gives <;> cases gives
      simp_all [Act.named?]
  | serve name takesFrame =>
      obtain ⟨stage, serves, acts⟩ := Option.bind_eq_some_iff.mp acts
      refine .inr (.inr (.inl ⟨name, stage, ?_⟩))
      cases stage <;> cases acts <;> simp_all [Act.named?, Service.Stage.channel?]
  | stop name =>
      obtain ⟨stage, serves, acts⟩ := Option.bind_eq_some_iff.mp acts
      refine .inr (.inr (.inl ⟨name, stage, ?_⟩))
      cases stage with
      | looking channel =>
          dsimp only at acts
          split at acts <;> cases acts
          simp_all [Act.named?, Service.Stage.channel?]
      | ready => cases acts
      | holding channel frame => cases acts
      | replying channel frame reply => cases acts
      | leaving channel failure? => cases acts
      | failed failure => cases acts
  | outside other =>
      simp only [act?] at acts
      split at acts <;> cases acts
      exact .inr (.inr (.inr ‹_›))
  | start name => cases acts
  | pass duration => cases acts

/-- Only a client itself uses its channel. -/
theorem foreign_client (owning : traffic.Owning) {id : Nat} {journey : Journey}
    (found : traffic.journeys.find? id = some journey) {move : Move ι}
    (stays : ∀ takesFrame, move ≠ .proceed id takesFrame) (kept : move ≠ .giveUp id) {act : Act}
    (acts : traffic.act? move = some act) : act.named? ≠ some id := by
  intro named
  rcases owning.named_cases acts named with
    ⟨takesFrame, moves⟩ | gives | ⟨name, stage, channel, serves, has, same, _⟩ | avoids
  · exact stays takesFrame moves
  · exact kept gives
  · exact owning.client_ne_server found serves has same
  · have absent := List.all_eq_true.mp avoids _ (client_mem_owned found)
    rw [(owning.client found).1] at absent
    exact of_decide_eq_true absent named

/-- Only a service itself uses its channel. -/
theorem foreign_server (owning : traffic.Owning) {name : ι} {stage : Service.Stage}
    {channel : Channel} (found : traffic.services.find? name = some stage)
    (has : stage.channel? = some channel) {move : Move ι}
    (stays : ∀ takesFrame, move ≠ .serve name takesFrame) (kept : move ≠ .stop name) {act : Act}
    (acts : traffic.act? move = some act) : act.named? ≠ some channel.id := by
  intro named
  rcases owning.named_cases acts named with
    ⟨takesFrame, rfl⟩ | rfl | ⟨other, second, held, serves, holds, same, moves⟩ | avoids
  · obtain ⟨journey, travels, -⟩ := Option.map_eq_some_iff.mp acts
    exact owning.client_ne_server travels found has rfl
  · obtain ⟨journey, travels, -⟩ := Option.bind_eq_some_iff.mp acts
    exact owning.client_ne_server travels found has rfl
  · have equal := owning.numbered.eq_of_id_eq
      (owning.numbered.opened_of_live (owning.server serves holds).1)
      (owning.numbered.opened_of_live (owning.server found has).1) same
    obtain rfl := owning.apart serves found holds (equal ▸ has)
    rcases moves with ⟨takesFrame, moves⟩ | stops
    · exact stays takesFrame moves
    · exact kept stops
  · exact of_decide_eq_true (List.all_eq_true.mp avoids _ (server_mem_owned found has)) named

end Owning

/-- Where the journeys after a move come from. -/
inductive ClientStep (traffic : Traffic ι η) (move : Move ι) (id : Nat) : Journey → Prop where
  | kept {journey : Journey} (found : traffic.journeys.find? id = some journey)
      (stays : ∀ takesFrame, move ≠ .proceed id takesFrame)
      (foreign : ∀ act, traffic.act? move = some act → act.named? ≠ some id) :
      ClientStep traffic move id journey
  | opens {oneWay : Bool} {limit : Option Nat} {request : Request}
      (sends : move = .send oneWay limit request) (isOpen : traffic.board.bus.closed = false)
      (fresh : id = traffic.board.bus.nextId) :
      ClientStep traffic move id
        { request
          oneWay
          limit
          channel := { id, filter := request.filter oneWay }
          heard := (traffic.board.sentUnder request.responseTag).length }
  | moves {journey : Journey} {takesFrame : Bool} {stage : Sending.Stage}
      (proceeds : move = .proceed id takesFrame) (found : traffic.journeys.find? id = some journey)
      (stepped : (traffic.clientStep takesFrame journey).2 = some stage) :
      ClientStep traffic move id (traffic.moved journey stage)

/-- Where the services after a move come from. -/
inductive ServerStep (executions : ι → Execution η) (traffic : Traffic ι η) (move : Move ι) (name : ι) :
    Service.Stage → Prop where
  | kept {stage : Service.Stage} (found : traffic.services.find? name = some stage)
      (stays : ∀ takesFrame, move ≠ .serve name takesFrame)
      (foreign : ∀ channel, stage.channel? = some channel →
        ∀ act, traffic.act? move = some act → act.named? ≠ some channel.id) :
      ServerStep executions traffic move name stage
  | starts (starts : move = .start name) : ServerStep executions traffic move name .ready
  | moves {stage : Service.Stage} {takesFrame : Bool} (serves : move = .serve name takesFrame)
      (found : traffic.services.find? name = some stage) :
      ServerStep executions traffic move name
        (traffic.serviceStep executions name takesFrame stage).2

namespace Owning

theorem client_step (owning : traffic.Owning) (executions : ι → Execution η) {move : Move ι}
    {id : Nat} {journey : Journey}
    (travels : (traffic.after executions move).journeys.find? id = some journey) :
    traffic.ClientStep move id journey := by
  have kept (found : traffic.journeys.find? id = some journey)
      (stays : ∀ takesFrame, move ≠ .proceed id takesFrame) (keeps : move ≠ .giveUp id) :
      traffic.ClientStep move id journey :=
    .kept found stays fun act acts => owning.foreign_client found stays keeps acts
  cases traffic.step_after executions move with
  | idle inactive _ same =>
      rw [same] at travels
      refine .kept travels ?_ (by simp [inactive])
      rintro takesFrame rfl
      simp [act?, travels] at inactive
  | opens isOpen moved =>
      rw [moved, Association.find?_set] at travels
      split at travels
      · next same =>
          cases same
          cases travels
          exact .opens rfl isOpen rfl
      · exact kept travels (by simp) (by simp)
  | advances found stepped moved =>
      have own := (owning.client found).1
      rw [moved, own, Association.find?_set] at travels
      split at travels
      · next same =>
          cases same
          cases travels
          exact .moves rfl found stepped
      · next different => exact kept travels (by simp [different]) (by simp)
  | arrives found moved =>
      have own := (owning.client found).1
      rw [moved, own, Association.find?_erase] at travels
      split at travels
      · cases travels
      · next different => exact kept travels (by simp [different]) (by simp)
  | givesUp found _ moved =>
      have own := (owning.client found).1
      rw [moved, own, Association.find?_erase] at travels
      split at travels
      · cases travels
      · next different => exact kept travels (by simp) (by simp [different])
  | refused _ moved | starts _ moved | absent _ moved | serves _ moved | retires _ moved
  | leaves _ _ moved | passes moved | others _ moved =>
      rw [moved] at travels
      exact kept travels (by simp) (by simp)

theorem server_step (owning : traffic.Owning) (executions : ι → Execution η) {move : Move ι}
    {name : ι} {stage : Service.Stage}
    (serves : (traffic.after executions move).services.find? name = some stage) :
    ServerStep executions traffic move name stage := by
  have kept (found : traffic.services.find? name = some stage)
      (stays : ∀ takesFrame, move ≠ .serve name takesFrame) (keeps : move ≠ .stop name) :
      ServerStep executions traffic move name stage :=
    .kept found stays fun channel has act acts => owning.foreign_server found has stays keeps acts
  cases traffic.step_after executions move with
  | idle inactive unserved same => exact .kept (same ▸ serves) (unserved name) (by simp [inactive])
  | absent missing same =>
      rw [same] at serves
      refine kept serves ?_ (by simp)
      rintro _ same
      cases same
      cases missing.symm.trans serves
  | starts _ moved =>
      rw [moved, Association.find?_set] at serves
      split at serves
      · next same =>
          cases same
          cases serves
          exact .starts rfl
      · next different => exact kept serves (by simp) (by simp)
  | serves found moved =>
      rw [moved, serve, Association.find?_set] at serves
      split at serves
      · next same =>
          cases same
          cases serves
          exact .moves rfl found
      · next different => exact kept serves (by simp [different]) (by simp)
  | retires _ moved | leaves _ _ moved =>
      rw [moved, Association.find?_erase] at serves
      split at serves
      · cases serves
      · next different => exact kept serves (by simp) (by simp [different])
  | refused _ moved | opens _ moved | advances _ _ moved | arrives _ moved | givesUp _ _ moved
  | passes moved | others _ moved =>
      rw [moved] at serves
      exact kept serves (by simp) (by simp)

end Owning

omit [DecidableEq ι] in
/-- A step gives a service a new channel or leaves it the one that it has. -/
theorem serviceStep_channel? (executions : ι → Execution η) (traffic : Traffic ι η) (name : ι)
    (takesFrame : Bool) {stage : Service.Stage} {channel : Channel}
    (has : (traffic.serviceStep executions name takesFrame stage).2.channel? = some channel) :
    stage.channel? = some channel ∨
      stage = .ready ∧ traffic.board.bus.closed = false ∧
        channel = { id := traffic.board.bus.nextId, filter := .requests } := by
  cases stage with
  | ready =>
      simp only [serviceStep, Service.Stage.step, Medium.attach] at has
      cases closed : traffic.board.bus.closed with
      | true =>
          simp [Bus.attach, closed, Service.Stage.opened, Service.Stage.channel?] at has
      | false =>
          rw [Bus.attach_open closed] at has
          cases has
          exact .inr ⟨rfl, rfl, rfl⟩
  | looking held =>
      left
      simp only [serviceStep, Service.Stage.step, Service.Stage.looked] at has
      split at has <;> exact has
  | holding held frame =>
      left
      simp only [serviceStep, Service.Stage.step, Service.Stage.handled] at has
      split at has <;> exact has
  | replying held frame reply =>
      left
      simp only [serviceStep, Service.Stage.step, Service.Stage.replied] at has
      split at has <;> exact has
  | leaving held failure? => cases failure? <;> cases has
  | failed failure => cases has

namespace Owning

/-- A channel lives on if nobody drops it. -/
theorem live_after (owning : traffic.Owning) (executions : ι → Execution η) {move : Move ι}
    {channel : Channel} (live : channel ∈ traffic.board.live)
    (kept : ∀ act, traffic.act? move = some act → act ≠ .detach channel.id) :
    channel ∈ (traffic.after executions move).board.live := by
  rw [owning.board_after]
  cases acts : traffic.act? move with
  | none => exact live
  | some act =>
      exact (owning.numbered.mem_live_after_iff (owning.numbered.opened_of_live live) act).mpr
        ⟨live, kept act acts⟩

theorem opened_live (owning : traffic.Owning) (executions : ι → Execution η) {move : Move ι}
    {filter : Filter} (opens : traffic.act? move = some (.attach filter))
    (isOpen : traffic.board.bus.closed = false) :
    { id := traffic.board.bus.nextId, filter } ∈ (traffic.after executions move).board.live := by
  rw [owning.board_after, opens]
  simp [Switchboard.after, Switchboard.attach, Bus.attach_open isOpen]

theorem not_detach_of_foreign {act : Act} {id : Nat} (foreign : act.named? ≠ some id) :
    act ≠ .detach id := by
  rintro rfl
  exact foreign rfl

theorem fresh_ne (owning : traffic.Owning) {channel : Channel} (live : channel ∈ traffic.board.live)
    (filter : Filter) : channel ≠ { id := traffic.board.bus.nextId, filter } := by
  rintro rfl
  exact absurd (owning.numbered.fresh _ (owning.numbered.opened_of_live live)) (Nat.lt_irrefl _)

omit [DecidableEq ι] in
/-- A step that leaves a client on its way does not drop its channel. -/
theorem clientStep_keeps {journey : Journey} {takesFrame : Bool} {next : Sending.Stage}
    (stepped : (traffic.clientStep takesFrame journey).2 = some next) :
    journey.act takesFrame ≠ .detach journey.channel.id := by
  unfold clientStep Sending.step at stepped
  unfold Sending.act
  cases stage : journey.stage with
  | opened => simp
  | waiting deadline => simp
  | ended result => simp [stage] at stepped

omit [DecidableEq ι] in
theorem serviceStep_keeps {executions : ι → Execution η} {name : ι} {takesFrame : Bool}
    {stage : Service.Stage} {channel : Channel} {act : Act}
    (has : (traffic.serviceStep executions name takesFrame stage).2.channel? = some channel)
    (acts : stage.act? takesFrame = some act) : act ≠ .detach channel.id := by
  cases stage with
  | ready => cases acts; simp
  | looking held => cases acts; simp
  | holding held frame => cases acts
  | replying held frame reply => cases acts; simp
  | leaving held failure? => cases failure? <;> cases has
  | failed failure => cases acts

theorem after (owning : traffic.Owning) (executions : ι → Execution η) (move : Move ι) :
    (traffic.after executions move).Owning where
  reached := by
    obtain ⟨acts, reached⟩ := owning.reached
    refine ⟨acts ++ (traffic.act? move).toList, ?_⟩
    rw [owning.board_after, Switchboard.run_append, ← reached]
    cases traffic.act? move <;> rfl
  client := by
    intro id journey travels
    cases owning.client_step executions travels with
    | kept found stays foreign =>
        obtain ⟨own, live, filter⟩ := owning.client found
        refine ⟨own, owning.live_after executions live fun act acts => ?_, filter⟩
        rw [own]
        exact not_detach_of_foreign (foreign act acts)
    | opens sends isOpen fresh =>
        subst sends fresh
        exact ⟨rfl, owning.opened_live executions rfl isOpen, rfl⟩
    | @moves before takesFrame stage proceeds found stepped =>
        subst proceeds
        obtain ⟨own, live, filter⟩ := owning.client found
        refine ⟨own, owning.live_after executions live fun act acts => ?_, filter⟩
        rw [act?, found, Option.map_some, Option.some.injEq] at acts
        exact acts ▸ clientStep_keeps stepped
  server := by
    intro name stage channel serves has
    cases owning.server_step executions serves with
    | kept found stays foreign =>
        obtain ⟨live, reader⟩ := owning.server found has
        exact ⟨owning.live_after executions live fun act acts =>
          not_detach_of_foreign (foreign channel has act acts), reader⟩
    | starts => cases has
    | @moves before takesFrame turn found =>
        subst turn
        rcases serviceStep_channel? executions traffic name takesFrame has with
          old | ⟨rfl, isOpen, rfl⟩
        · obtain ⟨live, reader⟩ := owning.server found old
          refine ⟨owning.live_after executions live fun act acts => ?_, reader⟩
          rw [act?, found, Option.bind_some] at acts
          exact serviceStep_keeps has acts
        · exact ⟨owning.opened_live executions (by simp [act?, found, Service.Stage.act?]) isOpen, rfl⟩
  apart := by
    intro one other first second channel serves also has shares
    cases owning.server_step executions serves with
    | starts => cases has
    | kept found =>
        cases owning.server_step executions also with
        | starts => cases shares
        | kept found' => exact owning.apart found found' has shares
        | moves _ found' =>
            rcases serviceStep_channel? executions traffic other _ shares with
              old | ⟨_, _, rfl⟩
            · exact owning.apart found found' has old
            · exact absurd rfl (owning.fresh_ne (owning.server found has).1 .requests)
    | moves turn found =>
        cases owning.server_step executions also with
        | starts => cases shares
        | moves turn' _ =>
            cases turn.symm.trans turn'
            rfl
        | kept found' =>
            rcases serviceStep_channel? executions traffic one _ has with old | ⟨_, _, rfl⟩
            · exact owning.apart found found' old shares
            · exact absurd rfl (owning.fresh_ne (owning.server found' shares).1 .requests)

end Owning

theorem owning_run (executions : ι → Execution η) (host : η) (now : Nat) (moves : List (Move ι)) :
    (run executions { host, now } moves).Owning :=
  run_induction (fun move owning => owning.after executions move)
    ⟨⟨[], rfl⟩, by simp, by simp, by simp⟩ moves

end Traffic

end RemoteObjects
