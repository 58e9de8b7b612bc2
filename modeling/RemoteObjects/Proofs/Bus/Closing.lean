import RemoteObjects.Proofs.Bus.Journal

namespace RemoteObjects

/-- Whatever begins on the medium fails because it is closed, and changes nothing. -/
structure Medium.Shut {μ : Type} [Medium μ] (medium : μ) : Prop where
  attach : ∀ filter, Medium.attach medium filter = (medium, .error .closed)
  publish : ∀ frame, Medium.publish medium frame = { state := medium, result := .error .closed }
  poll : ∀ channel, Medium.poll medium .first channel = (medium, .ready (.error .closed))

namespace Bus

variable {bus later latest : Bus} {channel : Channel}

theorem shut (closed : bus.closed = true) : Medium.Shut bus where
  attach := attach_closed closed
  publish := publish_closed closed
  poll := poll_first_closed closed

/-- The frames that a receive on this channel could take. -/
def buffered (bus : Bus) (channel : Channel) : List Frame :=
  match channel.filter with
  | .sendOnly => []
  | .requests => bus.queue
  | .exact _ => ((bus.subscriptions.find? channel.id).map Subscription.buffer).getD []

/-- The later bus is closed and has nothing but what was there before: no new channel, and of the queue
and of each buffer the last part. -/
structure Dwindles (bus later : Bus) : Prop where
  closed : later.closed = true
  queue : later.queue <:+ bus.queue
  nextId : later.nextId = bus.nextId
  subscriptions : ∀ id subscription, later.subscriptions.find? id = some subscription →
    ∃ before, bus.subscriptions.find? id = some before ∧ subscription.tag = before.tag ∧
      subscription.buffer <:+ before.buffer

namespace Dwindles

theorem of_same (closed : later.closed = true) (queue : later.queue = bus.queue)
    (nextId : later.nextId = bus.nextId)
    (subscriptions : ∀ id subscription, later.subscriptions.find? id = some subscription →
      bus.subscriptions.find? id = some subscription) : bus.Dwindles later where
  closed := closed
  queue := queue ▸ List.suffix_refl _
  nextId := nextId
  subscriptions id subscription found :=
    ⟨subscription, subscriptions id subscription found, rfl, List.suffix_refl _⟩

theorem self (closed : bus.closed = true) : bus.Dwindles bus :=
  .of_same closed rfl rfl fun _ _ found => found

theorem trans (first : bus.Dwindles later) (second : later.Dwindles latest) :
    bus.Dwindles latest where
  closed := second.closed
  queue := second.queue.trans first.queue
  nextId := second.nextId.trans first.nextId
  subscriptions := by
    intro id subscription found
    obtain ⟨middle, known, sameTag, fewer⟩ := second.subscriptions id subscription found
    obtain ⟨before, there, tag, less⟩ := first.subscriptions id middle known
    exact ⟨before, there, sameTag.trans tag, fewer.trans less⟩

theorem detach (closed : bus.closed = true) (channel : Channel) : bus.Dwindles (bus.detach channel) :=
  .of_same ((bus.closed_detach channel).trans closed) (bus.queue_detach channel)
    (bus.nextId_detach channel) fun _ _ found => find?_of_find?_detach found

/-- Where nothing is buffered nothing will be. -/
theorem buffered_eq_nil (dwindles : bus.Dwindles later) (empty : bus.buffered channel = []) :
    later.buffered channel = [] := by
  unfold buffered at empty ⊢
  cases filter : channel.filter with
  | sendOnly => rfl
  | requests =>
      rw [filter] at empty
      exact List.eq_nil_of_suffix_nil (empty ▸ dwindles.queue)
  | exact tag =>
      rw [filter] at empty
      cases subscribed : later.subscriptions.find? channel.id with
      | none => rfl
      | some subscription =>
          obtain ⟨before, known, -, fewer⟩ := dwindles.subscriptions _ _ subscribed
          have nothing : before.buffer = [] := by simpa [known] using empty
          exact List.eq_nil_of_suffix_nil (nothing ▸ fewer)

end Dwindles

/-- A search that finds a frame takes the first of those buffered. -/
theorem search_frame {frame : Frame} (closed : bus.closed = true)
    (found : (bus.search channel).2 = .ready (.ok frame)) :
    (bus.buffered channel).head? = some frame ∧ bus.Dwindles (bus.search channel).1 := by
  cases filter : channel.filter with
  | sendOnly =>
      rw [search_sender bus filter] at found
      cases found
  | requests =>
      rcases bus.search_reader filter with waits | ⟨first, rest, line, queued, -, takes⟩
      · rw [waits] at found
        cases found
      · rw [takes] at found ⊢
        cases found
        refine ⟨by simp [buffered, filter, queued], closed, ?_, rfl, ?_⟩
        · rw [queued]
          exact List.suffix_cons _ _
        · exact fun _ subscription known => ⟨subscription, known, rfl, List.suffix_refl _⟩
  | exact tag =>
      rw [search_listener bus filter, pollBuffer] at found ⊢
      cases subscribed : bus.subscriptions.find? channel.id with
      | none => simp [subscribed] at found
      | some subscription =>
          cases holds : subscription.buffer with
          | nil => simp [subscribed, holds] at found
          | cons first rest =>
              simp only [subscribed, holds] at found ⊢
              cases found
              refine ⟨by simp [buffered, filter, subscribed, holds], closed, List.suffix_refl _, rfl, ?_⟩
              intro id other known
              rw [Association.find?_set] at known
              split at known
              · next own =>
                  cases known
                  exact ⟨subscription, own ▸ subscribed, rfl, by simp [holds]⟩
              · exact ⟨other, known, rfl, List.suffix_refl _⟩

/-- On a closed bus a receive finds the bus closed and changes at most the line, unless it waited before,
takes a frame and there is one. -/
theorem poll_closed_cases (closed : bus.closed = true) (look : Look) (channel : Channel) :
    (∃ line, bus.poll look channel = ({ bus with line }, .ready (.error .closed))) ∨
      ∃ frame, look = .again true ∧ (bus.buffered channel).head? = some frame ∧
        (bus.poll look channel).2 = .ready (.ok frame) ∧ bus.Dwindles (bus.poll look channel).1 := by
  cases look with
  | first => exact .inl ⟨bus.line, poll_first_closed closed channel⟩
  | again takesFrame =>
      rw [poll_again_closed closed]
      cases takesFrame with
      | false => exact .inl ⟨_, rfl⟩
      | true =>
          rcases bus.wake_cases true channel with ⟨frame, wakes, found⟩ | refused
          · rw [wakes]
            obtain ⟨first, dwindles⟩ := search_frame closed found
            exact .inr ⟨frame, rfl, first, found, dwindles⟩
          · exact .inl ⟨_, refused⟩

end Bus

namespace Switchboard

variable {board next last : Switchboard}

/-- Of a board with a closed bus nothing is left but what was there. Its journal gets no entry but of
receives that waited, one of each at most. -/
structure Dwindles (board next : Switchboard) : Prop where
  bus : board.bus.Dwindles next.bus
  live : next.live.Sublist board.live
  waiting : next.waiting ⊆ board.waiting
  journal : ∃ takers : List (Channel × Frame),
    next.journal = board.journal ++ takers.map (fun taker => .received taker.1 taker.2) ∧
      (takers.map fun taker => taker.1.id).Nodup ∧
      ∀ taker ∈ takers, taker.1.id ∈ board.waiting ∧ taker.1.id ∉ next.waiting

namespace Dwindles

theorem silent (bus : board.bus.Dwindles next.bus) (live : next.live.Sublist board.live)
    (waiting : next.waiting ⊆ board.waiting) (journal : next.journal = board.journal) :
    board.Dwindles next :=
  ⟨bus, live, waiting, [], by simpa using journal, List.nodup_nil, by simp⟩

theorem self (closed : board.bus.closed = true) : board.Dwindles board :=
  .silent (.self closed) (List.Sublist.refl _) (List.Subset.refl _) rfl

theorem trans (first : board.Dwindles next) (second : next.Dwindles last) : board.Dwindles last where
  bus := first.bus.trans second.bus
  live := second.live.trans first.live
  waiting := List.Subset.trans second.waiting first.waiting
  journal := by
    obtain ⟨early, more, distinct, done⟩ := first.journal
    obtain ⟨late, further, apart, takers⟩ := second.journal
    refine ⟨early ++ late, by simp [more, further], ?_, ?_⟩
    · rw [List.map_append, List.nodup_append]
      refine ⟨distinct, apart, ?_⟩
      rintro _ one _ other rfl
      obtain ⟨taker, member, rfl⟩ := List.mem_map.mp one
      obtain ⟨again, there, same⟩ := List.mem_map.mp other
      exact (done taker member).2 (same ▸ (takers again there).1)
    · intro taker member
      rcases List.mem_append.mp member with before | after
      · exact ⟨(done taker before).1, fun waits => (done taker before).2 (second.waiting waits)⟩
      · exact ⟨first.waiting (takers taker after).1, (takers taker after).2⟩

end Dwindles

/-- Only a receive that waits is woken. -/
theorem mem_waiting_of_look {id : Nat} {takesFrame : Bool}
    (again : board.look id takesFrame = .again true) : id ∈ board.waiting ∧ takesFrame = true := by
  unfold look at again
  split at again
  · next waits => exact ⟨waits, by simpa using again⟩
  · cases again

theorem receive_dwindles (closed : board.bus.closed = true) (channel : Channel) (takesFrame : Bool) :
    board.Dwindles (board.receive (board.look channel.id takesFrame) channel) ∧
      channel.id ∉ (board.receive (board.look channel.id takesFrame) channel).waiting := by
  have fewer : board.waiting.filter (· ≠ channel.id) ⊆ board.waiting := List.filter_subset_self _
  have gone : channel.id ∉ board.waiting.filter (· ≠ channel.id) := by simp
  rcases Bus.poll_closed_cases closed (board.look channel.id takesFrame) channel with
    ⟨line, refused⟩ | ⟨frame, again, -, found, dwindles⟩
  · simp only [receive, refused]
    exact ⟨.silent (.of_same closed rfl rfl fun _ _ known => known) (List.Sublist.refl _) fewer rfl, gone⟩
  · have waits := (mem_waiting_of_look again).1
    unfold receive
    rcases polled : board.bus.poll (board.look channel.id takesFrame) channel with ⟨bus, result⟩
    rw [polled] at found dwindles
    subst found
    exact ⟨⟨dwindles, List.Sublist.refl _, fewer, [(channel, frame)], rfl, List.nodup_singleton _,
      by simpa using waits⟩, gone⟩

theorem after_dwindles (closed : board.bus.closed = true) (act : Act) :
    board.Dwindles (board.after act) := by
  have fewer (channel : Channel) : board.waiting.filter (· ≠ channel.id) ⊆ board.waiting :=
    List.filter_subset_self _
  cases act with
  | attach filter =>
      rw [after, attach_closed closed]
      exact .self closed
  | publish frame =>
      rw [after, publish_closed closed]
      exact .self closed
  | receive id takesFrame =>
      simp only [after]
      cases found : board.channel? id with
      | none => exact .self closed
      | some channel =>
          rw [← id_of_channel? found]
          exact (receive_dwindles closed channel takesFrame).1
  | abandon id =>
      simp only [after]
      cases board.channel? id with
      | none => exact .self closed
      | some channel =>
          exact .silent (.of_same closed rfl rfl fun _ _ found => found) (List.Sublist.refl _)
            (fewer channel) rfl
  | detach id =>
      simp only [after]
      cases board.channel? id with
      | none => exact .self closed
      | some channel => exact .silent (.detach closed channel) List.filter_sublist (fewer channel) rfl
  | close =>
      exact .silent (.of_same rfl rfl rfl fun _ _ found => found) (List.Sublist.refl _)
        (List.Subset.refl _) rfl

end Switchboard

end RemoteObjects
