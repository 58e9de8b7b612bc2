import RemoteObjects.Proofs.Bus.Journal
import RemoteObjects.Proofs.Bus.Subscriptions
import RemoteObjects.Proofs.Transport.Sending

namespace RemoteObjects

namespace RoundTrip

/-- A send is over, or its round trip waits. -/
inductive Stage where
  | ended (result : Except Transport.Failure (Option Reply))
  | underWay (trip : RoundTrip)

variable {μ : Type} [Medium μ]

/-- A round trip is looked at, at these moments and with these looks, until it is over. -/
def follow (trip : RoundTrip) : List (Nat × Bus.Look) → μ → μ × Stage
  | [], medium => (medium, .underWay trip)
  | (now, look) :: later, medium =>
      let polled := trip.poll now look medium
      match polled.result with
      | some result => (polled.state, .ended (result.map some))
      | none => trip.follow later polled.state

/-- A whole send, as far as the looks at it go. -/
def send (now : Nat) (limit : Option Nat) (oneWay : Bool) (request : Request)
    (looks : List (Nat × Bus.Look)) (medium : μ) : μ × Stage :=
  if oneWay then
    let sent := sendOneWay medium request
    (sent.state, .ended (sent.result.map fun () => none))
  else
    let begun := RoundTrip.begin now limit medium request
    match begun.result with
    | .error failure => (begun.state, .ended (.error failure))
    | .ok trip => trip.follow looks begun.state

end RoundTrip

/-- What a medium is like before a client opens its channel, while the client has it, and after it was
given back. A client that is refused has nothing to give back. -/
structure Medium.Custody {μ : Type} [Medium μ] (before after : μ → Prop)
    (lent : μ → Channel → Prop) : Prop where
  refused : ∀ {medium later filter failure}, before medium →
    Medium.attach medium filter = (later, .error failure) → after later
  granted : ∀ {medium later filter channel}, before medium →
    Medium.attach medium filter = (later, .ok channel) →
      channel.filter = filter ∧ lent later channel
  publish : ∀ {medium channel} (frame : Frame), lent medium channel →
    lent (Medium.publish medium frame).state channel
  poll : ∀ {medium channel} (look : Bus.Look), lent medium channel →
    lent (Medium.poll medium look channel).1 channel
  detach : ∀ {medium channel}, lent medium channel → after (Medium.detach medium channel)

namespace Medium.Custody

open RoundTrip (Stage)

variable {μ : Type} [Medium μ] {before after : μ → Prop} {lent : μ → Channel → Prop} {medium : μ}
  {trip : RoundTrip}

/-- The channel is back, whether or not the frame could be sent. -/
theorem sendOneWay (custody : Custody before after lent) (start : before medium)
    (request : Request) : after (RoundTrip.sendOneWay medium request).state := by
  unfold RoundTrip.sendOneWay
  rcases attached : Medium.attach medium .sendOnly with ⟨later, failure | channel⟩
  · exact custody.refused start attached
  · have sent := custody.publish request.frame (custody.granted start attached).2
    have back := custody.detach sent
    dsimp only
    split <;> exact back

/-- Only a round trip that has begun has a channel, and it listens for the response. -/
theorem begin (custody : Custody before after lent) (start : before medium) (now : Nat)
    (limit : Option Nat) (request : Request) :
    let begun := RoundTrip.begin now limit medium request
    (∃ failure, begun.result = .error failure) ∧ after begun.state ∨
      ∃ trip, begun.result = .ok trip ∧ trip.channel.filter = .exact request.responseTag ∧
        lent begun.state trip.channel := by
  unfold RoundTrip.begin
  dsimp only
  rcases attached : Medium.attach medium (.exact request.responseTag) with ⟨later, failure | channel⟩
  · exact .inl ⟨⟨_, rfl⟩, custody.refused start attached⟩
  · obtain ⟨listens, out⟩ := custody.granted start attached
    have sent := custody.publish request.frame out
    dsimp only
    split
    · exact .inl ⟨⟨_, rfl⟩, custody.detach sent⟩
    · exact .inr ⟨_, rfl, listens, sent⟩

/-- A look keeps the channel, however many frames under other tags it passes over. -/
theorem receive (custody : Custody before after lent) (fuel : Nat) (look : Bus.Look)
    (out : lent medium trip.channel) :
    lent (trip.receive fuel look medium).state trip.channel := by
  induction fuel generalizing medium look with
  | zero =>
      have polled := custody.poll look out
      rw [RoundTrip.receive]
      generalize Medium.poll medium look trip.channel = looked at polled ⊢
      rcases looked with ⟨later, (failure | frame) | _⟩
      · exact polled
      · dsimp only
        split <;> exact polled
      · exact polled
  | succ fuel ih =>
      have polled := custody.poll look out
      rw [RoundTrip.receive]
      generalize Medium.poll medium look trip.channel = looked at polled ⊢
      rcases looked with ⟨later, (failure | frame) | _⟩
      · exact polled
      · dsimp only
        split
        · exact polled
        · exact ih .first polled
      · exact polled

/-- With a result the channel is back, be it a reply, bad bytes, a failure or the deadline. -/
theorem looked (custody : Custody before after lent) (now : Nat) (look : Bus.Look)
    (out : lent medium trip.channel) :
    let looked := trip.poll now look medium
    (∃ result, looked.result = some result) ∧ after looked.state ∨
      looked.result = none ∧ lent looked.state trip.channel := by
  have received := custody.receive (Medium.backlog medium) look out
  have back := custody.detach received
  unfold RoundTrip.poll
  dsimp only
  rcases (trip.receive (Medium.backlog medium) look medium).result with (failure | frame) | _
  · exact .inl ⟨⟨_, rfl⟩, back⟩
  · exact .inl ⟨⟨_, rfl⟩, back⟩
  · dsimp only
    split
    · exact .inl ⟨⟨_, rfl⟩, back⟩
    · exact .inr ⟨rfl, received⟩

/-- What holds of the medium at a stage of a send. -/
def Accounts (after : μ → Prop) (lent : μ → Channel → Prop) (request : Request) (medium : μ) :
    Stage → Prop
  | .ended _ => after medium
  | .underWay trip =>
      trip.channel.filter = .exact request.responseTag ∧ lent medium trip.channel

theorem follow (custody : Custody before after lent) {request : Request}
    (listens : trip.channel.filter = .exact request.responseTag) (looks : List (Nat × Bus.Look))
    (out : lent medium trip.channel) :
    Accounts after lent request (trip.follow looks medium).1 (trip.follow looks medium).2 := by
  induction looks generalizing medium with
  | nil => exact ⟨listens, out⟩
  | cons moment later ih =>
      rcases custody.looked moment.1 moment.2 out with ⟨⟨result, done⟩, back⟩ | ⟨pending, still⟩
      · simp only [RoundTrip.follow, done]
        exact back
      · simp only [RoundTrip.follow, pending]
        exact ih still

theorem send (custody : Custody before after lent) (start : before medium) (now : Nat)
    (limit : Option Nat) (oneWay : Bool) (request : Request) (looks : List (Nat × Bus.Look)) :
    Accounts after lent request (RoundTrip.send now limit oneWay request looks medium).1
      (RoundTrip.send now limit oneWay request looks medium).2 := by
  unfold RoundTrip.send
  cases oneWay with
  | true => exact custody.sendOneWay start request
  | false =>
      simp only [Bool.false_eq_true, if_false]
      rcases custody.begin start now limit request with
        ⟨⟨failure, refused⟩, back⟩ | ⟨trip, begun, listens, out⟩
      · simp only [refused]
        exact back
      · simp only [begun]
        exact custody.follow listens looks out

end Medium.Custody

namespace Bus

/-- While a channel is out, the table has its row after all others, and it is the only one under its
number. -/
def Lends (bus : Bus) (rows : List (Nat × Tag)) (channel : Channel) : Prop :=
  bus.rows = rows ++ channel.row?.toList ∧ ∀ row ∈ rows, row.1 ≠ channel.id

theorem Lends.detach {rows : List (Nat × Tag)} {bus : Bus} {channel : Channel}
    (lends : bus.Lends rows channel) : (bus.detach channel).rows = rows := by
  obtain ⟨table, others⟩ := lends
  rw [rows_detach, table]
  cases row : channel.row? with
  | none => simp
  | some entry =>
      obtain ⟨own, -⟩ := Channel.row?_eq_some_iff.mp (show channel.row? = some (entry.1, entry.2) from row)
      have kept : rows.filter (fun row => row.1 ≠ channel.id) = rows :=
        List.filter_eq_self.mpr fun row present => decide_eq_true (others row present)
      rw [Option.isSome_some, if_pos rfl, List.filter_append, kept]
      simp [own]

theorem custody {bus : Bus} (fresh : ∀ row ∈ bus.rows, row.1 < bus.nextId) :
    Medium.Custody (· = bus) (fun later => later.rows = bus.rows)
      (fun later channel => later.Lends bus.rows channel) where
  refused := by
    rintro medium later filter failure rfl attached
    cases closed : medium.closed with
    | true =>
        cases (attach_closed closed filter).symm.trans attached
        rfl
    | false => cases (attach_open closed filter).symm.trans attached
  granted := by
    rintro medium later filter channel rfl attached
    cases closed : medium.closed with
    | true => cases (attach_closed closed filter).symm.trans attached
    | false =>
        cases (attach_open closed filter).symm.trans attached
        have absent := find?_nextId_eq_none fresh
        exact ⟨rfl, filter.rows_subscribe absent, fun row present => (fresh row present).ne⟩
  publish := fun frame lends => ⟨(rows_publish _ frame).trans lends.1, lends.2⟩
  poll := fun look lends => ⟨(rows_poll _ look _).trans lends.1, lends.2⟩
  detach := fun lends => lends.detach

end Bus

end RemoteObjects
