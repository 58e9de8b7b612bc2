import RemoteObjects.Proofs.Association
import RemoteObjects.Proofs.Bus.Switchboard

namespace RemoteObjects

/-- The row that a channel has among the subscriptions; channels that listen for no tag have none. -/
def Channel.row? (channel : Channel) : Option (Nat × Tag) :=
  match channel.filter with
  | .exact tag => some (channel.id, tag)
  | .requests | .sendOnly => none

theorem Channel.row?_eq_some_iff {channel : Channel} {id : Nat} {tag : Tag} :
    channel.row? = some (id, tag) ↔ channel.id = id ∧ channel.filter = .exact tag := by
  unfold Channel.row?
  cases channel.filter <;> simp

theorem Channel.rows_ids_sublist (channels : List Channel) :
    ((channels.filterMap row?).map Prod.fst).Sublist (channels.map Channel.id) := by
  induction channels with
  | nil => exact .slnil
  | cons channel channels ih =>
      cases row : channel.row? with
      | none => simpa [List.filterMap_cons, row] using ih.cons channel.id
      | some entry =>
          obtain ⟨own, -⟩ := row?_eq_some_iff.mp (show channel.row? = some (entry.1, entry.2) from row)
          simpa [List.filterMap_cons, row, own] using ih

/-- The rows of the other channels are those under other numbers. -/
theorem Channel.rows_filter (channels : List Channel) (id : Nat) :
    (channels.filter fun channel => channel.id ≠ id).filterMap row? =
      (channels.filterMap row?).filter fun row => row.1 ≠ id := by
  induction channels with
  | nil => rfl
  | cons channel channels ih =>
      cases row : channel.row? with
      | none =>
          by_cases same : channel.id = id
          · simpa [List.filterMap_cons, row, same] using ih
          · simpa [List.filterMap_cons, row, same] using ih
      | some entry =>
          obtain ⟨own, tag⟩ := entry
          obtain ⟨rfl, -⟩ := row?_eq_some_iff.mp row
          by_cases same : channel.id = id
          · simpa [List.filterMap_cons, row, same] using ih
          · simpa [List.filterMap_cons, row, same] using ih

namespace Bus

/-- The numbers and tags of all subscriptions, the oldest first. -/
def rows (bus : Bus) : List (Nat × Tag) :=
  bus.subscriptions.entries.map fun (id, subscription) => (id, subscription.tag)

theorem length_rows (bus : Bus) : bus.rows.length = bus.subscriberCount :=
  List.length_map _

theorem map_fst_rows (bus : Bus) : bus.rows.map Prod.fst = bus.subscriptions.keys := by
  simp [rows, Association.keys]

theorem find?_eq_none_of_rows {bus : Bus} {id : Nat} (absent : id ∉ bus.rows.map Prod.fst) :
    bus.subscriptions.find? id = none := by
  rw [map_fst_rows, Association.mem_keys_iff] at absent
  simpa using absent

theorem find?_nextId_eq_none {bus : Bus} (fresh : ∀ row ∈ bus.rows, row.1 < bus.nextId) :
    bus.subscriptions.find? bus.nextId = none := by
  apply find?_eq_none_of_rows
  intro member
  obtain ⟨row, present, same⟩ := List.mem_map.mp member
  exact absurd same (fresh row present).ne

/-- A frame that arrives changes no row. -/
theorem rows_deliver (bus : Bus) (frame : Frame) : (bus.deliver frame).rows = bus.rows := by
  have tag (subscription : Subscription) :
      (Subscription.receive frame subscription).tag = subscription.tag := by
    unfold Subscription.receive
    split <;> rfl
  simp [rows, deliver, tag]

end Bus

/-- Nobody who sees no difference between the old and the new value sees the update. -/
theorem Association.map_update {κ ν β : Type} [DecidableEq κ] (view : ν → β) {key : κ} {old new : ν}
    (same : view new = view old) {entries : List (κ × ν)} (found : lookup key entries = some old) :
    (update key new entries).map (fun (other, value) => (other, view value)) =
      entries.map fun (other, value) => (other, view value) := by
  induction entries with
  | nil => cases found
  | cons entry rest ih =>
      obtain ⟨other, value⟩ := entry
      by_cases own : other = key
      · simp only [lookup, own, if_true, Option.some.injEq] at found
        simp [update, own, same, found]
      · simp only [lookup, own, if_false] at found
        simp [update, own, ih found]

namespace Bus

theorem rows_publish (bus : Bus) (frame : Frame) : (bus.publish frame).state.rows = bus.rows := by
  unfold publish
  split
  · rfl
  · split
    · rfl
    · exact bus.rows_deliver frame

theorem rows_pollQueue (bus : Bus) (id : Nat) : (bus.pollQueue id).1.rows = bus.rows := by
  unfold pollQueue
  dsimp only
  split
  · rfl
  · split <;> rfl

/-- A subscription that gets another buffer keeps its row. -/
theorem rows_rebuffer {bus : Bus} {id : Nat} {subscription : Subscription}
    (subscribed : bus.subscriptions.find? id = some subscription) (buffer : List Frame) :
    ({ bus with subscriptions := bus.subscriptions.set id { subscription with buffer } } : Bus).rows =
      bus.rows := by
  have same : ({ subscription with buffer } : Subscription).tag = subscription.tag := rfl
  exact Association.map_update Subscription.tag same subscribed

theorem rows_pollBuffer (bus : Bus) (id : Nat) : (bus.pollBuffer id).1.rows = bus.rows := by
  unfold pollBuffer
  split
  · rfl
  · next subscription subscribed =>
      split
      · rfl
      · next frame buffer _ => exact rows_rebuffer subscribed buffer

theorem rows_poll (bus : Bus) (look : Look) (channel : Channel) :
    (bus.poll look channel).1.rows = bus.rows := by
  rcases bus.poll_cases look channel with polled | ⟨_, line, polled⟩
  · rw [polled, search]
    split
    · rfl
    · exact bus.rows_pollQueue channel.id
    · exact bus.rows_pollBuffer channel.id
  · rw [polled]
    rfl

/-- A listener that goes away takes its row with it, and nobody else takes one. -/
theorem rows_detach (bus : Bus) (channel : Channel) :
    (bus.detach channel).rows =
      if channel.row?.isSome then bus.rows.filter fun row => row.1 ≠ channel.id else bus.rows := by
  unfold detach Channel.row?
  cases channel.filter with
  | exact tag => simp [rows, abandon, Association.erase, List.filter_map, Function.comp_def]
  | requests => rfl
  | sendOnly => rfl

end Bus

/-- A listener under a new number gets the last row. -/
theorem Filter.rows_subscribe (filter : Filter) {bus : Bus} {id : Nat}
    (absent : bus.subscriptions.find? id = none) :
    ({ bus with subscriptions := filter.subscribe id bus.subscriptions } : Bus).rows =
      bus.rows ++ (Channel.row? { id, filter }).toList := by
  cases filter with
  | requests => simp [Bus.rows, Filter.subscribe, Channel.row?]
  | sendOnly => simp [Bus.rows, Filter.subscribe, Channel.row?]
  | exact tag =>
      simp [Bus.rows, Filter.subscribe, Association.entries_set_of_absent absent, Channel.row?]

namespace Switchboard

variable {board : Switchboard}

/-- The rows are those of the live channels, in the order of their opening. -/
def Tidy (board : Switchboard) : Prop :=
  board.bus.rows = board.live.filterMap Channel.row?

theorem Tidy.mem_rows_iff (tidy : board.Tidy) {id : Nat} {tag : Tag} :
    (id, tag) ∈ board.bus.rows ↔ ⟨id, .exact tag⟩ ∈ board.live := by
  rw [tidy, List.mem_filterMap]
  constructor
  · rintro ⟨⟨_, _⟩, live, row⟩
    obtain ⟨rfl, rfl⟩ := Channel.row?_eq_some_iff.mp row
    exact live
  · exact fun live => ⟨_, live, rfl⟩

/-- Where there is no live channel of this number, there is no subscription. -/
theorem Tidy.find?_eq_none (tidy : board.Tidy) {id : Nat}
    (absent : ∀ channel ∈ board.live, channel.id ≠ id) : board.bus.subscriptions.find? id = none := by
  apply Bus.find?_eq_none_of_rows
  rintro member
  obtain ⟨⟨_, tag⟩, row, rfl⟩ := List.mem_map.mp member
  exact absent _ (tidy.mem_rows_iff.mp row) rfl

theorem Tidy.subscriberCount (tidy : board.Tidy) :
    board.bus.subscriberCount = board.live.countP fun channel => channel.row?.isSome := by
  rw [← Bus.length_rows, tidy, List.length_filterMap_eq_countP]

theorem Numbered.nodup_live (numbered : board.Numbered) : (board.live.map Channel.id).Nodup :=
  numbered.distinct.sublist (numbered.kept.map Channel.id)

theorem Tidy.nodup_keys (tidy : board.Tidy) (numbered : board.Numbered) :
    board.bus.subscriptions.keys.Nodup := by
  rw [← Bus.map_fst_rows, tidy]
  exact numbered.nodup_live.sublist (Channel.rows_ids_sublist board.live)

/-- The number of the next channel is new to the table as well. -/
theorem Tidy.fresh (tidy : board.Tidy) (numbered : board.Numbered) :
    ∀ row ∈ board.bus.rows, row.1 < board.bus.nextId := by
  rintro ⟨id, tag⟩ row
  exact numbered.fresh _ (numbered.opened_of_live (tidy.mem_rows_iff.mp row))

theorem Tidy.opens (tidy : board.Tidy) {next : Switchboard} {channel : Channel}
    (live : next.live = board.live ++ [channel])
    (rows : next.bus.rows = board.bus.rows ++ channel.row?.toList) : next.Tidy := by
  rw [Tidy, rows, live, List.filterMap_append, show board.bus.rows = _ from tidy]
  cases row : channel.row? <;> simp [row]

theorem Tidy.drops (tidy : board.Tidy) (numbered : board.Numbered) {channel : Channel}
    (member : channel ∈ board.live) : (board.detach channel).Tidy := by
  have others : (board.detach channel).live.filterMap Channel.row? =
      board.bus.rows.filter fun row => row.1 ≠ channel.id := by
    rw [show board.bus.rows = _ from tidy, ← Channel.rows_filter]
    rfl
  have dropped : (board.detach channel).bus.rows = (board.bus.detach channel).rows := rfl
  rw [Tidy, others, dropped, Bus.rows_detach]
  split
  · rfl
  · next silent =>
      symm
      apply List.filter_eq_self.mpr
      rintro ⟨id, tag⟩ row
      have live := tidy.mem_rows_iff.mp row
      simp only [ne_eq, decide_not, Bool.not_eq_true', decide_eq_false_iff_not]
      rintro rfl
      -- A listener of the same number would be the dropped channel, which is no listener.
      have same := numbered.eq_of_id_eq (numbered.opened_of_live member)
        (numbered.opened_of_live live) rfl
      rw [same] at silent
      exact silent rfl

theorem Tidy.effect {next : Switchboard} (tidy : board.Tidy) (numbered : board.Numbered)
    (effect : board.Effect next) : next.Tidy := by
  cases effect with
  | opens filter =>
      have absent := Bus.find?_nextId_eq_none (tidy.fresh numbered)
      exact tidy.opens rfl (filter.rows_subscribe absent)
  | queues => exact tidy
  | delivers => exact (Bus.rows_deliver _ _).trans tidy
  | takes => exact tidy
  | hears waiting member listens subscribed => exact (Bus.rows_rebuffer subscribed _).trans tidy
  | drops member => exact tidy.drops numbered member
  | idles waiting queue nextId subscriptions =>
      unfold Tidy Bus.rows at tidy ⊢
      rw [subscriptions, tidy]

theorem tidy_run (acts : List Act) : (run {} acts).Tidy := by
  have both : (run {} acts).Numbered ∧ (run {} acts).Tidy :=
    run_induction (motive := fun board => board.Numbered ∧ board.Tidy)
      (fun invariant effect =>
        ⟨invariant.1.effect effect, invariant.2.effect invariant.1 effect⟩)
      ⟨numbered_empty, rfl⟩ acts
  exact both.2

end Switchboard

end RemoteObjects
