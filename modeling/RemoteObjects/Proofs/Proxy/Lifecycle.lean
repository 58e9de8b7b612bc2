import RemoteObjects.Proofs.Proxy.Agreement
import RemoteObjects.Proofs.Proxy.Errands
import RemoteObjects.Proofs.Traffic.Progress

namespace RemoteObjects

open Proxy (Pending Task)

variable {σ : Type} {catalogs : Nat → Catalog σ} {initial : Host σ × Nat}

namespace DirectCaller

/-- Each task is complete before the next one begins. Besides the caller the requests are kept that
were sent. -/
def work {η : Type} (directory : Directory (Execution η)) (caller : DirectCaller η)
    (sent : List Request) : List Task → DirectCaller η × List Request
  | [] => (caller, sent)
  | task :: tasks =>
      work directory (caller.call directory task).1
        (sent ++ (task.begin caller.registry).result.begun.requests) tasks

variable {directory : Directory (Execution (Host σ × Nat))} {sent : List Request}
  {caller : DirectCaller (Host σ × Nat)}

/-- The host behind the line has executed what was sent, and the books are right. -/
structure Keeps (catalogs : Nat → Catalog σ) (directory : Directory (Execution (Host σ × Nat)))
    (initial : Host σ × Nat) (sent : List Request) (caller : DirectCaller (Host σ × Nat)) :
    Prop where
  connected : caller.Connected (Host.answerEach catalogs) directory
  sound : caller.registry.Sound
  tally : Tally catalogs initial sent caller.registry
  host : caller.host = (Host.answerEach catalogs).after initial sent

theorem Keeps.call (keeps : caller.Keeps catalogs directory initial sent) (task : Task) :
    (caller.call directory task).1.Keeps catalogs directory initial
      (sent ++ (task.begin caller.registry).result.begun.requests) := by
  have begins := keeps.sound.begins
    (Proxy.begin_begins task.policy task.enclave caller.registry task.operation)
  cases begun : (task.begin caller.registry).result.begun with
  | finished result =>
      simp only [DirectCaller.call, begun]
      refine ⟨keeps.connected, begins, ?_, ?_⟩
      · exact keeps.tally.transition keeps.sound (Proxy.transition_finished begun)
      · rw [Proxy.Begun.requests, List.append_nil]
        exact keeps.host
  | sending pending =>
      simp only [DirectCaller.call, begun]
      let renewed : DirectCaller (Host σ × Nat) :=
        { caller with registry := (task.begin caller.registry).state }
      have connected : renewed.Connected (Host.answerEach catalogs) directory := keeps.connected
      obtain ⟨registry, host, _, stays⟩ := connected.send task pending
      obtain ⟨handle, _, _, shape⟩ := Proxy.begin_sending_target begun
      obtain ⟨reply, outcome⟩ := conclude_ok (Host.executeEach_responsive catalogs).guarded caller.host
        caller.line task.operation handle
      have transition := Proxy.transition_sent begun reply
      rw [show renewed.line.conclude pending.request pending.oneWay
        (Host.answerEach catalogs renewed.host pending.request).result = .ok reply by
          rw [shape]
          exact outcome] at registry
      refine ⟨stays, ?_, ?_, ?_⟩
      · rw [registry]
        exact begins.finish _ _ _
      · rw [registry]
        exact keeps.tally.transition keeps.sound transition
      · rw [host, Proxy.Begun.requests, Execution.after_concat, ← keeps.host]

theorem Keeps.work (keeps : caller.Keeps catalogs directory initial sent) (tasks : List Task) :
    (caller.work directory sent tasks).1.Keeps catalogs directory initial
      (caller.work directory sent tasks).2 := by
  induction tasks generalizing caller sent with
  | nil => exact keeps
  | cons task tasks ih => exact ih (keeps.call task)

end DirectCaller

namespace BusCaller

variable {caller next : BusCaller (Host σ × Nat)} {errand : Errand} {journey : Journey}
  {earlier : List Request}

/-- No task is under way, or one that has sent its request and awaits the reply. -/
def Settled {η : Type} (caller : BusCaller η) : Prop :=
  ∀ errand ∈ caller.current, errand.pending.oneWay = false ∧
    ∀ journey ∈ caller.traffic.journeys.find? errand.id, journey.stage ≠ .opened

instance {η : Type} (caller : BusCaller η) : Decidable caller.Settled :=
  inferInstanceAs (Decidable (∀ errand ∈ caller.current, errand.pending.oneWay = false ∧
    ∀ journey ∈ caller.traffic.journeys.find? errand.id, journey.stage ≠ .opened))

/-- The books were right before the task under way, and no task ends but after its request was sent. -/
structure Keeps (catalogs : Nat → Catalog σ) (initial : Host σ × Nat)
    (caller : BusCaller (Host σ × Nat)) : Prop where
  hidden : caller.traffic.Private fun _ => Host.executeEach catalogs
  served : caller.traffic.Served (Host.executeEach catalogs) initial
  fits : ∀ task ∈ caller.remaining, task.operation.fits = true
  books :
    (caller.Free ∧ caller.registry.Sound ∧
      Tally catalogs initial caller.traffic.requests caller.registry) ∨
    ∃ errand journey earlier, caller.Engaged errand journey earlier ∧ errand.before.Sound ∧
      Tally catalogs initial earlier errand.before

/-- A round trip changes nothing in the registry, however it ends. -/
theorem Engaged.finish_state {η : Type} {caller : BusCaller η}
    (engaged : caller.Engaged errand journey earlier) (awaits : errand.pending.oneWay = false)
    (outcome : Except Transport.Failure (Option Reply)) :
    (errand.task.finish caller.registry errand.pending outcome).state = caller.registry := by
  obtain ⟨handle, shape⟩ := Proxy.begin_sending engaged.begun
  refine Proxy.finish_awaits _ _ ?_ _
  rw [shape] at awaits ⊢
  simpa [Proxy.Operation.pending] using awaits

/-- Once its request was sent a task leaves the books right, whatever comes back. -/
theorem Engaged.tally {η : Type} {caller : BusCaller η} (engaged : caller.Engaged errand journey earlier)
    (sound : errand.before.Sound) (tally : Tally catalogs initial earlier errand.before)
    (sent : journey.stage ≠ .opened) (outcome : Except Transport.Failure (Option Reply))
    (posted : errand.pending.oneWay = true → outcome = .ok none) :
    (errand.task.finish caller.registry errand.pending outcome).state.Sound ∧
      Tally catalogs initial caller.traffic.requests
        (errand.task.finish caller.registry errand.pending outcome).state := by
  have begins := sound.begins (Proxy.begin_begins errand.task.policy errand.task.enclave errand.before
    errand.task.operation)
  have transition := Proxy.transition_sent engaged.begun none
  have same : (errand.task.finish caller.registry errand.pending outcome).state =
      (errand.task.finish caller.registry errand.pending (.ok none)).state := by
    cases oneWay : errand.pending.oneWay with
    | true => rw [posted oneWay]
    | false => rw [engaged.finish_state oneWay, engaged.finish_state oneWay]
  rw [same, (engaged.sent sent).1, ← engaged.registry]
  exact ⟨begins.finish _ _ _, tally.transition sound transition⟩

namespace Keeps

variable (keeps : caller.Keeps catalogs initial)

include keeps

/-- Neither a turn of the service nor the passing of time concerns the books. -/
theorem aside {move : Traffic.Move Unit} (inside : ∀ act, move ≠ .outside act)
    (silent : Traffic.requestsOf [move] = [])
    (aside : caller.traffic.Aside
      (caller.traffic.after (fun _ => Host.executeEach catalogs) move)) :
    { caller with
      traffic := caller.traffic.after (fun _ => Host.executeEach catalogs) move }.Keeps
        catalogs initial where
  hidden := keeps.hidden.after inside (by simp [silent])
  served := keeps.served.effect (keeps.hidden.effect inside)
  fits := keeps.fits
  books := by
    refine keeps.books.imp ?_ ?_
    · rintro ⟨free, sound, tally⟩
      exact ⟨free.keeps rfl aside.journeys, sound, aside.requests ▸ tally⟩
    · rintro ⟨errand, journey, earlier, engaged, before⟩
      exact ⟨errand, journey, earlier, engaged.keeps rfl rfl aside.journeys aside.requests, before⟩

theorem begin (free : caller.Free) (sound : caller.registry.Sound)
    (tally : Tally catalogs initial caller.traffic.requests caller.registry) {task : Task}
    (fits : task.operation.fits = true) :
    (caller.begin (Host.executeEach catalogs) task).Keeps catalogs initial := by
  have begins := sound.begins
    (Proxy.begin_begins task.policy task.enclave caller.registry task.operation)
  cases begun : (task.begin caller.registry).result.begun with
  | finished result =>
      have transition := tally.transition sound (Proxy.transition_finished begun)
      rw [List.append_nil] at transition
      rw [begin_finished begun]
      exact ⟨keeps.hidden, keeps.served, keeps.fits,
        .inl ⟨⟨free.current, free.entries⟩, begins, transition⟩⟩
  | sending pending =>
      let send : Traffic.Move Unit := .send pending.oneWay task.limit pending.request
      have inside : ∀ act, send ≠ .outside act := by simp [send]
      have written : ∀ request ∈ Traffic.requestsOf [send], request.fits = true := by
        obtain ⟨handle, shape⟩ := Proxy.begin_sending begun
        have own : pending.request.fits = true := by
          rw [shape]
          exact (task.operation.fits_request handle).trans fits
        simpa [Traffic.requestsOf, send] using own
      obtain ⟨traffic, remaining, -, id, journey, -, engaged⟩ := free.begin keeps.hidden begun
      refine ⟨?_, ?_, ?_, .inr ⟨_, journey, _, engaged, sound, tally⟩⟩
      · rw [traffic]
        exact keeps.hidden.after inside written
      · rw [traffic]
        exact keeps.served.effect (keeps.hidden.effect inside)
      · rw [remaining]
        exact keeps.fits

theorem proceed : (caller.proceed (Host.executeEach catalogs)).Keeps catalogs initial := by
  rcases keeps.books with ⟨free, sound, tally⟩ | ⟨errand, journey, earlier, engaged, sound, tally⟩
  · cases rest : caller.remaining with
    | nil =>
        have unmoved : caller.proceed (Host.executeEach catalogs) = caller := by
          simp only [BusCaller.proceed, free.current, rest]
        rwa [unmoved]
    | cons task remaining =>
        have fits := keeps.fits
        rw [rest, List.forall_mem_cons] at fits
        let renewed : BusCaller (Host σ × Nat) := { caller with remaining }
        have begins : caller.proceed (Host.executeEach catalogs) =
            renewed.begin (Host.executeEach catalogs) task := by
          simp only [BusCaller.proceed, free.current, rest, renewed]
        have ahead : renewed.Free := ⟨free.current, free.entries⟩
        have keeps : renewed.Keeps catalogs initial :=
          ⟨keeps.hidden, keeps.served, fits.2, .inl ⟨ahead, sound, tally⟩⟩
        rw [begins]
        exact keeps.begin ahead sound tally fits.1
  · let step : Traffic.Move Unit := .proceed errand.id false
    have inside : ∀ act, step ≠ .outside act := by simp [step]
    have hidden := keeps.hidden.after inside (by simp [Traffic.requestsOf, step])
    have served := keeps.served.effect (keeps.hidden.effect inside)
    cases stepped : (caller.traffic.clientStep false journey).2 with
    | none =>
        obtain ⟨result, ended⟩ := Sending.ended_of_step stepped
        obtain ⟨split, entries, requests⟩ := engaged.finishes keeps.hidden ended
        obtain ⟨sound, tally⟩ := engaged.tally sound tally (by simp [ended]) result
          fun oneWay => engaged.posted oneWay result ended
        rw [← requests] at tally
        rw [split]
        exact ⟨hidden, served, keeps.fits, .inl ⟨⟨rfl, entries⟩, sound, tally⟩⟩
    | some stage =>
        obtain ⟨split, goesOn⟩ := engaged.proceed keeps.hidden stepped
        rw [split] at goesOn ⊢
        exact ⟨hidden, served, keeps.fits, .inr ⟨errand, _, earlier, goesOn, sound, tally⟩⟩

theorem turn (turn : Turn) :
    (caller.turn (Host.executeEach catalogs) turn).Keeps catalogs initial := by
  cases turn with
  | caller => exact keeps.proceed
  | service => exact keeps.aside (by simp) rfl (keeps.hidden.aside_serve false)
  | pass duration => exact keeps.aside (by simp) rfl (keeps.hidden.aside_pass duration)

theorem run (turns : List Turn) :
    (caller.run (Host.executeEach catalogs) turns).Keeps catalogs initial := by
  induction turns generalizing caller with
  | nil => exact keeps
  | cons turn turns ih => exact ih (keeps.turn turn)

/-- The registry is right as it is unless a task is at its beginning or at the end of a one-way
request. -/
theorem settled (settled : caller.Settled) :
    caller.registry.Sound ∧ Tally catalogs initial caller.traffic.requests caller.registry := by
  rcases keeps.books with ⟨-, right⟩ | ⟨errand, journey, earlier, engaged, sound, tally⟩
  · exact right
  · obtain ⟨awaits, sent⟩ := settled errand engaged.current
    have right := engaged.tally sound tally (sent journey engaged.find?) (.ok none) fun _ => rfl
    rwa [engaged.finish_state awaits] at right

end Keeps

end BusCaller

/-- Registry and host agree on which objects exist: over a direct line after every task, and over a bus
whenever the service has handled all requests and the caller is not just sending one. The catalog may be
another at each request. -/
theorem sides_agree (catalogs : Nat → Catalog σ) (statics : Statics) (tasks : List Task) :
    let initial : Host σ := { statics }
    (∀ (directory : Directory (Execution (Host σ × Nat))) (endpointName : String),
      directory.find? endpointName = some (Host.answerEach catalogs) →
        let worked := DirectCaller.work directory
          { line := { endpointName }, host := (initial, 0) } [] tasks
        Agreement catalogs initial worked.2 worked.1.registry worked.1.host.1) ∧
      ((∀ task ∈ tasks, task.operation.fits = true) → ∀ (now : Nat) (turns : List BusCaller.Turn),
        let start := BusCaller.start (initial, 0) now {} tasks
        let caller := start.run (Host.executeEach catalogs) turns
        caller.Settled → caller.traffic.Idle →
          caller.traffic.board.sentRequests = caller.traffic.requests.map Request.frame ∧
            Agreement catalogs initial caller.traffic.requests caller.registry
              caller.traffic.host.1) := by
  intro initial
  constructor
  · intro directory endpointName bound worked
    have keeps := DirectCaller.Keeps.work
      ⟨DirectCaller.connected_of_find? bound {} (initial, 0), .empty, Tally.initially rfl, rfl⟩ tasks
    rw [keeps.host]
    exact keeps.tally.agreement keeps.sound
  · intro fits now turns start caller settled idle
    obtain ⟨hidden, served⟩ :=
      BusCaller.start_private (Host.executeEach catalogs) (initial, 0) now {} tasks
    have initially : start.Keeps catalogs (initial, 0) :=
      ⟨hidden, served, fits, .inl ⟨⟨rfl, rfl⟩, .empty, Tally.initially rfl⟩⟩
    have keeps := initially.run turns
    obtain ⟨sound, tally⟩ := keeps.settled settled
    refine ⟨keeps.hidden.sent, ?_⟩
    rw [idle.host_eq keeps.served keeps.hidden]
    exact tally.agreement sound

/-- A constructor that works at first fails at its second call, and one object is not permitted. Another
one is released while its construction is still queued, and its class and name are used again. -/
theorem sides_agree_reconstructed :
    let catalogs (served : Nat) : Catalog Unit :=
      .ofClasses [.ofMembers ⟨"demo.Foo", "Foo"⟩
        [.constructor [] fun _ => if served = 2 then .error ⟨["no"]⟩ else .ok ()]]
    let task (enclave : String) (className : String) (action : Proxy.Action) : Task :=
      { policy := fun _ request => request.className ≠ "demo.Bar"
        enclave
        operation := ⟨className, action⟩ }
    let tasks : List Task :=
      [task "one" "demo.Foo" (.construct "a" [] []), task "two" "demo.Foo" (.finalize "a"),
        task "two" "demo.Foo" (.construct "b" [] []),
        task "one" "demo.Bar" (.construct "a" [] []), task "one" "demo.Foo" (.construct "a" [] []),
        task "two" "demo.Foo" (.invoke (some "b") "missing" [] [])]
    let turns : List BusCaller.Turn := .replicate 15 .caller ++ .replicate 20 .service
    let initial : Host Unit := {}
    let caller := (BusCaller.start (initial, 0) 0 {} tasks).run (Host.executeEach catalogs) turns
    caller.Settled ∧ caller.traffic.Idle ∧
      caller.registry.entries.entries = [(⟨"demo.Foo", "b"⟩, ⟨2⟩), (⟨"demo.Foo", "a"⟩, ⟨4⟩)] ∧
      caller.traffic.host.1.instances.entries.map Prod.fst = [⟨"demo.Foo", ⟨4⟩⟩] ∧
      Agreement catalogs initial caller.traffic.requests caller.registry caller.traffic.host.1 := by
  intro catalogs task tasks turns
  have agrees := (sides_agree catalogs {} tasks).2 (by decide +kernel) 0 turns (by decide +kernel)
    (by decide +kernel)
  exact ⟨by decide +kernel, by decide +kernel, by decide +kernel, by decide +kernel, agrees.2⟩

end RemoteObjects
