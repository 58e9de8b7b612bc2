import RemoteObjects.Proofs.Traffic.Custody

namespace RemoteObjects

open Switchboard (Act)

/-- Everything that happened on a bus so far, the channels that the client opened, and what the others
are going to do before each of its next steps. -/
structure Crowd where
  past : List Act := []
  own : List Channel := []
  others : List (List Act) := []

namespace Crowd

def board (crowd : Crowd) : Switchboard :=
  Switchboard.run {} crowd.past

/-- What the others do before the next step of the client. They do not have its channels. -/
def turn (crowd : Crowd) : List Act :=
  (crowd.others.headD []).filter fun act => act.avoids crowd.own

def yield (crowd : Crowd) : Crowd :=
  { crowd with past := crowd.past ++ crowd.turn, others := crowd.others.tail }

/-- The client acts after the others. -/
def use (crowd : Crowd) (act : Act) : Crowd :=
  { crowd.yield with past := crowd.yield.past ++ [act] }

def attach (crowd : Crowd) (filter : Filter) : Crowd × Except Bus.Failure Channel :=
  let result := (crowd.yield.board.bus.attach filter).2
  ({ crowd.use (.attach filter) with own := crowd.own ++ result.toOption.toList }, result)

def publish (crowd : Crowd) (frame : Frame) : Step Crowd (Except Bus.Failure Unit) :=
  let sent := crowd.yield.board.bus.publish frame
  { state := crowd.use (.publish frame), result := sent.result, events := sent.events }

/-- Whether a receive begins or goes on is known from what happened. -/
def poll (crowd : Crowd) (look : Bus.Look) (channel : Channel) : Crowd × Bus.Polled :=
  let takesFrame := look = .again true
  let board := crowd.yield.board
  (crowd.use (.receive channel.id takesFrame),
    (board.bus.poll (board.look channel.id takesFrame) channel).2)

instance : Medium Crowd where
  attach := attach
  publish := publish
  poll := poll
  abandon := fun crowd channel => crowd.use (.abandon channel.id)
  detach := fun crowd channel => crowd.use (.detach channel.id)
  backlog := fun crowd => crowd.board.bus.backlog

variable {crowd : Crowd} {channel : Channel}

theorem numbered (crowd : Crowd) : crowd.board.Numbered :=
  Switchboard.numbered_run crowd.past

theorem tidy (crowd : Crowd) : crowd.board.Tidy :=
  Switchboard.tidy_run crowd.past

theorem opened_of_live (live : channel ∈ crowd.board.live) : channel ∈ crowd.board.opened :=
  crowd.numbered.opened_of_live live

theorem board_yield (crowd : Crowd) : crowd.yield.board = crowd.board.run crowd.turn :=
  Switchboard.run_append {} crowd.past crowd.turn

theorem board_use (crowd : Crowd) (act : Act) :
    (crowd.use act).board = crowd.yield.board.after act :=
  Switchboard.run_append {} crowd.yield.past [act]

theorem opened_yield (opened : channel ∈ crowd.board.opened) :
    channel ∈ crowd.yield.board.opened := by
  rw [board_yield]
  exact crowd.board.opened_subset_run crowd.turn opened

theorem opened_use (opened : channel ∈ crowd.board.opened) (act : Act) :
    channel ∈ (crowd.use act).board.opened := by
  rw [board_use]
  exact (crowd.yield.board.after_effect act).opened_subset (opened_yield opened)

theorem mem_live_use_iff (opened : channel ∈ crowd.board.opened) (act : Act) :
    channel ∈ (crowd.use act).board.live ↔
      channel ∈ crowd.board.live ∧ .detach channel.id ∉ crowd.turn ∧ act ≠ .detach channel.id := by
  rw [board_use, crowd.yield.numbered.mem_live_after_iff (opened_yield opened), board_yield,
    crowd.numbered.mem_live_run_iff opened, and_assoc]

/-- The client has opened this one channel and has not given it back. -/
structure Waits (crowd : Crowd) (channel : Channel) : Prop where
  own : crowd.own = [channel]
  live : channel ∈ crowd.board.live

/-- The client has given back whatever it has opened. -/
def Settled (crowd : Crowd) : Prop :=
  ∀ channel ∈ crowd.own, channel ∈ crowd.board.opened ∧ channel ∉ crowd.board.live

/-- The channel belongs to one of the others, and none of them is going to drop it. -/
structure Bystander (crowd : Crowd) (channel : Channel) : Prop where
  live : channel ∈ crowd.board.live
  foreign : channel ∉ crowd.own
  kept : ∀ turn ∈ crowd.others, .detach channel.id ∉ turn

/-- Nobody else loses a channel from the first to the second moment. -/
def Spares (crowd later : Crowd) : Prop :=
  ∀ channel, crowd.Bystander channel → later.Bystander channel

theorem Spares.trans {later last : Crowd} (first : crowd.Spares later) (second : later.Spares last) :
    crowd.Spares last := fun channel bystander => second channel (first channel bystander)

/-- A client that has given everything back has no subscription. -/
theorem Settled.unsubscribed (settled : crowd.Settled) (member : channel ∈ crowd.own) :
    crowd.board.bus.subscriptions.find? channel.id = none := by
  obtain ⟨opened, dropped⟩ := settled channel member
  apply crowd.tidy.find?_eq_none
  intro other live same
  have equal := crowd.numbered.eq_of_id_eq (opened_of_live live) opened same
  exact dropped (equal ▸ live)

theorem detach_not_mem_turn_of_own (member : channel ∈ crowd.own) :
    .detach channel.id ∉ crowd.turn := by
  intro dropped
  have avoided := (List.mem_filter.mp dropped).2
  simpa [Act.named?] using List.all_eq_true.mp avoided channel member

theorem Bystander.detach_not_mem_turn (bystander : crowd.Bystander channel) :
    .detach channel.id ∉ crowd.turn := by
  intro dropped
  have planned := (List.mem_filter.mp dropped).1
  cases others : crowd.others with
  | nil => simp [others] at planned
  | cons turn rest =>
      rw [others, List.headD_cons] at planned
      exact bystander.kept turn (by simp [others]) planned

theorem Waits.use (waits : crowd.Waits channel) {act : Act} (keeps : act ≠ .detach channel.id) :
    (crowd.use act).Waits channel where
  own := waits.own
  live := (mem_live_use_iff (opened_of_live waits.live) act).mpr
    ⟨waits.live, detach_not_mem_turn_of_own (by simp [waits.own]), keeps⟩

theorem Waits.detach (waits : crowd.Waits channel) : (Medium.detach crowd channel).Settled := by
  intro other member
  have opened := opened_of_live waits.live
  have own : crowd.own = [channel] := waits.own
  obtain rfl : other = channel := List.mem_singleton.mp (own ▸ member)
  refine ⟨opened_use opened _, fun live => ?_⟩
  exact ((mem_live_use_iff opened _).mp live).2.2 rfl

theorem Bystander.use (bystander : crowd.Bystander channel) {act : Act}
    (keeps : act ≠ .detach channel.id) : (crowd.use act).Bystander channel where
  live := (mem_live_use_iff (opened_of_live bystander.live) act).mpr
    ⟨bystander.live, bystander.detach_not_mem_turn, keeps⟩
  foreign := bystander.foreign
  kept := fun turn member => bystander.kept turn (List.mem_of_mem_tail member)

theorem spares_use {act : Act} (keeps : ∀ id, act ≠ .detach id) : crowd.Spares (crowd.use act) :=
  fun channel bystander => bystander.use (keeps channel.id)

theorem Waits.spares_detach (waits : crowd.Waits channel) :
    crowd.Spares (Medium.detach crowd channel) := by
  intro other bystander
  apply bystander.use
  rintro same
  have equal := crowd.numbered.eq_of_id_eq (opened_of_live waits.live) (opened_of_live bystander.live)
    (Act.detach.inj same)
  exact bystander.foreign (by simp [waits.own, equal])

/-- The number of a new channel is larger than that of every other one. -/
theorem Bystander.attach (bystander : crowd.Bystander channel) {filter : Filter} {own : List Channel}
    (new : ∀ opened ∈ own, opened.id = crowd.yield.board.bus.nextId) :
    Bystander { crowd.use (.attach filter) with own } channel := by
  have used : (crowd.use (.attach filter)).Bystander channel := bystander.use (by simp)
  refine { used with foreign := fun member => ?_ }
  have older := crowd.yield.numbered.fresh channel (opened_yield (opened_of_live bystander.live))
  rw [new channel member] at older
  exact Nat.lt_irrefl _ older

theorem attach_closed (unused : crowd.own = []) (closed : crowd.yield.board.bus.closed = true)
    (filter : Filter) :
    Medium.attach crowd filter = ({ crowd.use (.attach filter) with own := [] }, .error .closed) := by
  change crowd.attach filter = _
  simp [Crowd.attach, unused, Bus.attach_closed closed, Except.toOption]

theorem attach_open (unused : crowd.own = []) (isOpen : crowd.yield.board.bus.closed = false)
    (filter : Filter) :
    let channel : Channel := { id := crowd.yield.board.bus.nextId, filter }
    Medium.attach crowd filter = ({ crowd.use (.attach filter) with own := [channel] }, .ok channel) := by
  change crowd.attach filter = _
  simp [Crowd.attach, unused, Bus.attach_open isOpen, Except.toOption]

/-- A client that has opened nothing yet opens one channel and gives it back, and nobody else loses any. -/
theorem custody (unused : crowd.own = []) :
    Medium.Custody (· = crowd) (fun later => crowd.Spares later ∧ later.Settled)
      (fun later channel => crowd.Spares later ∧ later.Waits channel) where
  refused := by
    rintro crowd later filter failure rfl attached
    cases closed : crowd.yield.board.bus.closed with
    | true =>
        cases (attach_closed unused closed filter).symm.trans attached
        exact ⟨fun other bystander => bystander.attach (by simp), by simp [Settled]⟩
    | false => cases (attach_open unused closed filter).symm.trans attached
  granted := by
    rintro crowd later filter channel rfl attached
    cases closed : crowd.yield.board.bus.closed with
    | true => cases (attach_closed unused closed filter).symm.trans attached
    | false =>
        cases (attach_open unused closed filter).symm.trans attached
        have live : (crowd.use (.attach filter)).board.live =
            crowd.yield.board.live ++ [{ id := crowd.yield.board.bus.nextId, filter }] := by
          rw [board_use, Switchboard.after, Switchboard.attach, Bus.attach_open closed]
        refine ⟨rfl, fun other bystander => bystander.attach (by simp), rfl, ?_⟩
        change _ ∈ (crowd.use (.attach filter)).board.live
        rw [live]
        exact List.mem_append_right _ (List.mem_singleton_self _)
  publish := fun frame ⟨spares, waits⟩ => ⟨spares.trans (spares_use (by simp)), waits.use (by simp)⟩
  poll := fun look ⟨spares, waits⟩ => ⟨spares.trans (spares_use (by simp)), waits.use (by simp)⟩
  detach := fun ⟨spares, waits⟩ => ⟨spares.trans waits.spares_detach, waits.detach⟩

end Crowd

namespace RoundTrip

/-- The table of subscriptions is at all times that of the live listeners. A send that is over, however it
ended, has left no row in it, whatever others do meanwhile. -/
theorem subscriptions_never_leak :
    (∀ acts : List Act,
      let board := Switchboard.run {} acts
      board.bus.rows = board.live.filterMap Channel.row? ∧
        (board.live.map Channel.id).Nodup ∧
        board.bus.subscriptions.keys.Nodup ∧
        board.bus.subscriberCount = board.live.countP fun channel => channel.row?.isSome) ∧
    ∀ (past : List Act) (now : Nat) (limit : Option Nat) (oneWay : Bool) (request : Request)
      (looks : List (Nat × Bus.Look)),
      (let bus := (Switchboard.run {} past).bus
        let after := (send now limit oneWay request looks bus).1
        match (send now limit oneWay request looks bus).2 with
        | .ended _ => after.rows = bus.rows
        | .underWay trip =>
            after.rows = bus.rows ++ [(trip.channel.id, request.responseTag)] ∧
              (cancel after trip).rows = bus.rows) ∧
      ∀ others : List (List Act),
        let before : Crowd := { past, others }
        let after := (send now limit oneWay request looks before).1
        (∀ channel, before.Bystander channel → channel ∈ after.board.live) ∧
          match (send now limit oneWay request looks before).2 with
          | .ended _ => ∀ channel ∈ after.own, after.board.bus.subscriptions.find? channel.id = none
          | .underWay trip =>
              after.own = [trip.channel] ∧
                (trip.channel.id, request.responseTag) ∈ after.board.bus.rows ∧
                (cancel after trip).own = [trip.channel] ∧
                (cancel after trip).board.bus.subscriptions.find? trip.channel.id = none := by
  refine ⟨fun acts => ?_, fun past now limit oneWay request looks => ⟨?_, fun others => ?_⟩⟩
  · have tidy := Switchboard.tidy_run acts
    have numbered := Switchboard.numbered_run acts
    exact ⟨tidy, numbered.nodup_live, tidy.nodup_keys numbered, tidy.subscriberCount⟩
  · intro bus after
    have fresh := (Switchboard.tidy_run past).fresh (Switchboard.numbered_run past)
    have accounts := (Bus.custody fresh).send rfl now limit oneWay request looks
    cases stage : (send now limit oneWay request looks bus).2 with
    | ended result =>
        rw [stage] at accounts
        exact accounts
    | underWay trip =>
        rw [stage] at accounts
        obtain ⟨listens, lends⟩ := accounts
        have row : trip.channel.row? = some (trip.channel.id, request.responseTag) :=
          Channel.row?_eq_some_iff.mpr ⟨rfl, listens⟩
        have rows := lends.1
        rw [row] at rows
        exact ⟨rows, lends.detach⟩
  · intro before after
    have unused : before.own = [] := rfl
    have accounts := (Crowd.custody unused).send rfl now limit oneWay request looks
    cases stage : (send now limit oneWay request looks before).2 with
    | ended result =>
        rw [stage] at accounts
        obtain ⟨spares, settled⟩ := accounts
        exact ⟨fun channel bystander => (spares channel bystander).live,
          fun channel member => settled.unsubscribed member⟩
    | underWay trip =>
        rw [stage] at accounts
        obtain ⟨listens, spares, waits⟩ := accounts
        have own : (cancel after trip).own = [trip.channel] := waits.own
        refine ⟨fun channel bystander => (spares channel bystander).live, waits.own,
          after.tidy.mem_rows_iff.mpr ?_, own, ?_⟩
        · rw [← listens]
          exact waits.live
        · exact waits.detach.unsubscribed (own ▸ List.mem_singleton_self trip.channel)

/-- Somebody else waits for the same response, and the bus is closed after the client has opened its channel
and before it has sent its request. -/
theorem subscriptions_never_leak_closed_before_sending :
    let request := Request.finalize ⟨7⟩ "demo.Foo"
    let listener : Channel := { id := 1, filter := .exact request.responseTag }
    let before : Crowd := { past := [.attach listener.filter], others := [[], [.close]] }
    let after := (send 0 none false request [] before).1
    before.Bystander listener ∧
      after.own = [{ id := 2, filter := .exact request.responseTag }] ∧
      after.board.bus.closed = true ∧
      after.board.bus.subscriptions.find? 2 = none ∧
      listener ∈ after.board.live := by
  intro request listener before after
  have bystander : before.Bystander listener :=
    { live := List.mem_singleton_self _, foreign := List.not_mem_nil, kept := by simp [before] }
  have own : after.own = [{ id := 2, filter := .exact request.responseTag }] := rfl
  have closed : after.board.bus.closed = true := rfl
  have refused : (send 0 none false request [] before).2 =
      .ended (.error (.unavailable "fabric closed")) := rfl
  obtain ⟨spared, gone⟩ := (subscriptions_never_leak.2 before.past 0 none false request []).2 before.others
  rw [refused] at gone
  have member : { id := 2, filter := .exact request.responseTag } ∈ after.own := by
    rw [own]
    exact List.mem_singleton_self _
  exact ⟨bystander, own, closed, gone _ member, spared listener bystander⟩

end RoundTrip

end RemoteObjects
