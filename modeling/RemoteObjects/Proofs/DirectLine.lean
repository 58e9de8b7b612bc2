import Mathlib.Data.List.Induction
import Mathlib.Logic.Function.Basic
import RemoteObjects.Session.Exchange

namespace RemoteObjects

variable {ι ε η : Type}

namespace Directory

/-- What is done to a directory. -/
inductive Change (ε : Type) where
  | bind (name : String) (endpoint : ε)
  | rebind (name : String) (endpoint : ε)
  | unbind (name : String)
  | exportHost (name : String) (endpoint : ε)

def change (directory : Directory ε) : Change ε → Directory ε
  | .bind name endpoint => (directory.bind name endpoint).state
  | .rebind name endpoint => (directory.rebind name endpoint).state
  | .unbind name => (directory.unbind name).1
  | .exportHost name endpoint => (directory.exportHost name endpoint).state

/-- What a name is bound to after a change. A bound name has to be rebound or unbound. -/
def Change.binding (name : String) (bound : Option ε) : Change ε → Option ε
  | .bind other endpoint | .exportHost other endpoint =>
      if other = name then bound.or (some endpoint) else bound
  | .rebind other endpoint => if other = name then some endpoint else bound
  | .unbind other => if other = name then none else bound

theorem find?_bind (directory : Directory ε) (other name : String) (endpoint : ε) :
    (directory.bind other endpoint).state.find? name =
      if other = name then (directory.find? name).or (some endpoint) else directory.find? name := by
  unfold bind Association.contains
  by_cases same : other = name
  · subst same
    cases found : directory.find? other with
    | none => simp
    | some bound => simp [found]
  · cases found : directory.find? other with
    | none => simp [same]
    | some bound => simp [same]

theorem state_exportHost (directory : Directory ε) (name : String) (endpoint : ε) :
    (directory.exportHost name endpoint).state = (directory.bind name endpoint).state := by
  unfold exportHost
  dsimp only
  split <;> rfl

theorem find?_change (directory : Directory ε) (change : Change ε) (name : String) :
    (directory.change change).find? name = change.binding name (directory.find? name) := by
  cases change with
  | bind other endpoint => exact find?_bind ..
  | rebind other endpoint => exact Association.find?_set ..
  | unbind other => exact Association.find?_erase ..
  | exportHost other endpoint =>
      rw [Directory.change, state_exportHost]
      exact find?_bind ..

end Directory

namespace DirectLine

/-- The endpoint that a line has kept, or else the one that its name is bound to. -/
def endpoint? (line : DirectLine ε) (directory : Directory ε) : Option ε :=
  line.endpoint.or (directory.find? line.endpointName)

theorem state_resolve (line : DirectLine ε) (directory : Directory ε) :
    (line.resolve directory).state = { line with endpoint := line.endpoint? directory } := by
  obtain ⟨name, endpoint⟩ := line
  cases endpoint with
  | some kept => rfl
  | none =>
      unfold resolve Directory.resolve endpoint?
      dsimp only
      cases directory.find? name with
      | none => rfl
      | some bound => rfl

theorem result_resolve (line : DirectLine ε) (directory : Directory ε) :
    (line.resolve directory).result =
      match line.endpoint? directory with
      | some endpoint => .ok endpoint
      | none => .error (.unavailable ("Name not bound: " ++ line.endpointName)) := by
  obtain ⟨name, endpoint⟩ := line
  cases endpoint with
  | some kept => rfl
  | none =>
      unfold resolve Directory.resolve endpoint?
      dsimp only
      cases directory.find? name with
      | none => rfl
      | some bound => rfl

/-- A whole call over the line. The endpoint changes the world in which it lives. -/
def send (call : ε → Execution η) (directory : Directory ε) (line : DirectLine ε) (world : η)
    (request : Request) (oneWay : Bool) :
    Step (DirectLine ε × η) (Except Transport.Failure (Option Reply)) :=
  let resolved := line.resolve directory
  match resolved.result with
  | .error failure =>
      { state := (resolved.state, world), result := .error failure, events := resolved.events }
  | .ok endpoint =>
      let called := call endpoint world request
      { state := (resolved.state, called.state)
        result := line.conclude request oneWay called.result
        events := resolved.events ++ called.events }

section Send

variable {call : ε → Execution η} {directory : Directory ε} {line : DirectLine ε} {world : η}
  {request : Request} {oneWay : Bool}

theorem state_send :
    (line.send call directory world request oneWay).state.1 =
      { line with endpoint := line.endpoint? directory } := by
  rw [← state_resolve, send]
  dsimp only
  split <;> rfl

/-- The endpoint is called once, with this request. -/
theorem send_of_found {endpoint : ε} (found : line.endpoint? directory = some endpoint) :
    let called := call endpoint world request
    (line.send call directory world request oneWay).state.2 = called.state ∧
      (line.send call directory world request oneWay).result =
        line.conclude request oneWay called.result := by
  have resolved : (line.resolve directory).result = .ok endpoint := by rw [result_resolve, found]
  simp only [send, resolved, and_self]

theorem send_of_missing (missing : line.endpoint? directory = none) :
    (line.send call directory world request oneWay).state.2 = world ∧
      (line.send call directory world request oneWay).result =
        .error (.unavailable ("Name not bound: " ++ line.endpointName)) := by
  have resolved : (line.resolve directory).result =
      .error (.unavailable ("Name not bound: " ++ line.endpointName)) := by
    rw [result_resolve, missing]
  simp only [send, resolved, and_self]

end Send

end DirectLine

namespace Session

/-- What the endpoints of a session do to its stores. -/
def Endpoint.execution : Endpoint → Execution Stores
  | .dispatcher host => Stores.answer host
  | .echo => fun stores request =>
      { state := stores, result := some (.granted (.str request.className)) }
  | .fixed reply => fun stores _ => { state := stores, result := reply }

theorem run_callEndpoint (endpoint : Endpoint) (request : Request) (session : Session) :
    let answered := endpoint.execution session.stores request
    (callEndpoint endpoint request).run.run session =
      (.ok answered.result,
        { session with stores := answered.state, log := session.log ++ answered.events }) := by
  cases endpoint with
  | dispatcher host => rfl
  | echo =>
      change (_, session) = (_, { session with log := session.log ++ [] })
      rw [List.append_nil]
      rfl
  | fixed reply =>
      change (_, session) = (_, { session with log := session.log ++ [] })
      rw [List.append_nil]
      rfl

/-- What follows a step goes on from its result and its state. -/
theorem run_bind {α β : Type} {act : Acting α} {next : α → Acting β} {session after : Session}
    {value : α} (ran : act.run.run session = (.ok value, after)) :
    (act >>= next).run.run session = (next value).run.run after := by
  rw [ExceptT.run_bind, StateT.run_bind, ran]
  rfl

/-- A session sends over its direct links as over any direct line. -/
theorem run_sendDirect (session : Session) (id : Nat) (holder : String) (line : DirectLine Endpoint)
    (request : Request) (oneWay : Bool) :
    let sent := line.send Endpoint.execution ((session.directories.find? holder).getD {})
      session.stores request oneWay
    (sendDirect id holder line request oneWay).run.run session =
      (.ok (.concluded sent.result),
        { session with
          links := session.links.set id (.direct holder sent.state.1)
          stores := sent.state.2
          log := session.log ++ sent.events }) := by
  have looked : (directoryNamed holder).run.run session =
      (.ok ((session.directories.find? holder).getD {}), session) := rfl
  have stored (link : Link) (current : Session) : (setLink id link).run.run current =
      (.ok (), { current with links := current.links.set id link }) := rfl
  have emitted (events : List Event) (current : Session) : (emit events).run.run current =
      (.ok (), { current with log := current.log ++ events }) := rfl
  rw [sendDirect, run_bind looked, DirectLine.send]
  dsimp only
  rw [run_bind (stored _ _), run_bind (emitted _ _)]
  cases (line.resolve ((session.directories.find? holder).getD {})).result with
  | error failure => rfl
  | ok endpoint =>
      dsimp only
      rw [run_bind (run_callEndpoint endpoint request _), ← List.append_assoc]
      rfl

end Session

namespace DirectLine

/-- Everything that the calls to endpoints change, together with a list of all calls so far. -/
structure Ledger (ε η : Type) where
  world : η
  calls : List (ε × Request) := []

/-- Every call is entered in the ledger. -/
def Ledger.call (call : ε → Execution η) (endpoint : ε) : Execution (Ledger ε η) :=
  fun ledger request =>
    let called := call endpoint ledger.world request
    { state := ⟨called.state, ledger.calls ++ [(endpoint, request)]⟩
      result := called.result
      events := called.events }

/-- A directory and the direct lines that look up their endpoints in it. -/
structure Office (ι ε η : Type) where
  directory : Directory ε := {}
  lines : ι → DirectLine ε
  ledger : Ledger ε η

/-- Somebody changes the directory, or a request is sent over a line. -/
inductive Act (ι ε : Type) where
  | change (change : Directory.Change ε)
  | send (line : ι) (request : Request) (oneWay : Bool)

/-- What a name is bound to after these acts, if it was bound to this before. -/
def binding (name : String) (bound : Option ε) (acts : List (Act ι ε)) : Option ε :=
  acts.foldl (fun
    | bound, .change change => change.binding name bound
    | bound, .send .. => bound) bound

/-- All sends over this line were made while the name was not bound. -/
def Missed (name : String) (bound : Option ε) (line : ι) (acts : List (Act ι ε)) : Prop :=
  ∀ earlier request oneWay later, acts = earlier ++ .send line request oneWay :: later →
    binding name bound earlier = none

/-- The name was bound to this endpoint at the first send over this line at which it was bound at all. -/
def Caught (name : String) (bound : Option ε) (line : ι) (acts : List (Act ι ε)) (endpoint : ε) :
    Prop :=
  ∃ earlier request oneWay later, acts = earlier ++ .send line request oneWay :: later ∧
    Missed name bound line earlier ∧ binding name bound earlier = some endpoint

section History

variable {name : String} {bound : Option ε} {line : ι} {acts : List (Act ι ε)} {endpoint : ε}

theorem binding_change (change : Directory.Change ε) :
    binding name bound (acts ++ [.change change]) =
      change.binding name (binding name bound acts) := by
  simp [binding]

theorem binding_send (other : ι) (request : Request) (oneWay : Bool) :
    binding name bound (acts ++ [.send other request oneWay]) = binding name bound acts := by
  simp [binding]

theorem Caught.not_missed (caught : Caught name bound line acts endpoint) :
    ¬ Missed name bound line acts := by
  obtain ⟨earlier, request, oneWay, later, split, missed, found⟩ := caught
  intro missedAll
  rw [missedAll earlier request oneWay later split] at found
  cases found

/-- An item of a list with a last item is this last one, or it comes before. -/
theorem concat_eq_append_cons_iff {α : Type} {items earlier later : List α} {last item : α} :
    items ++ [last] = earlier ++ item :: later ↔
      (items = earlier ∧ last = item ∧ later = []) ∨
        ∃ between, items = earlier ++ item :: between ∧ later = between ++ [last] := by
  constructor
  · intro split
    rcases List.eq_nil_or_concat later with rfl | ⟨between, final, rfl⟩
    · obtain ⟨front, back⟩ := List.append_inj' split rfl
      exact .inl ⟨front, (List.cons.inj back).1, rfl⟩
    · rw [List.concat_eq_append] at split ⊢
      rw [← List.cons_append, ← List.append_assoc] at split
      obtain ⟨front, back⟩ := List.append_inj' split rfl
      exact .inr ⟨between, front, by rw [(List.cons.inj back).1]⟩
  · rintro (⟨rfl, rfl, rfl⟩ | ⟨between, rfl, rfl⟩)
    · rfl
    · simp

theorem missed_concat_iff (act : Act ι ε) :
    Missed name bound line (acts ++ [act]) ↔
      Missed name bound line acts ∧
        ∀ request oneWay, act = .send line request oneWay → binding name bound acts = none := by
  simp only [Missed, concat_eq_append_cons_iff]
  constructor
  · intro missed
    refine ⟨?_, ?_⟩
    · intro earlier request oneWay later split
      exact missed earlier request oneWay (later ++ [act]) (.inr ⟨later, split, rfl⟩)
    · intro request oneWay last
      exact missed acts request oneWay [] (.inl ⟨rfl, last, rfl⟩)
  · rintro ⟨missed, last⟩ earlier request oneWay later (⟨rfl, same, rfl⟩ | ⟨between, split, rfl⟩)
    · exact last request oneWay same
    · exact missed earlier request oneWay between split

theorem caught_concat_iff (act : Act ι ε) :
    Caught name bound line (acts ++ [act]) endpoint ↔
      Caught name bound line acts endpoint ∨
        ∃ request oneWay, act = .send line request oneWay ∧ Missed name bound line acts ∧
          binding name bound acts = some endpoint := by
  simp only [Caught, concat_eq_append_cons_iff]
  constructor
  · rintro ⟨earlier, request, oneWay, later, ⟨rfl, last, rfl⟩ | ⟨between, split, rfl⟩, missed, found⟩
    · exact .inr ⟨request, oneWay, last, missed, found⟩
    · exact .inl ⟨earlier, request, oneWay, between, split, missed, found⟩
  · rintro (⟨earlier, request, oneWay, later, split, missed, found⟩ |
      ⟨request, oneWay, last, missed, found⟩)
    · exact ⟨earlier, request, oneWay, later ++ [act], .inr ⟨later, split, rfl⟩, missed, found⟩
    · exact ⟨acts, request, oneWay, [], .inl ⟨rfl, last, rfl⟩, missed, found⟩

/-- Sends are missed exactly as long as nothing is caught. -/
theorem missed_iff : Missed name bound line acts ↔ ∀ endpoint, ¬ Caught name bound line acts endpoint := by
  constructor
  · intro missed endpoint caught
    exact caught.not_missed missed
  · induction acts using List.reverseRecOn with
    | nil =>
        intro _ earlier request oneWay later split
        cases earlier <;> cases split
    | append_singleton acts act ih =>
        intro free
        simp only [caught_concat_iff, not_or] at free
        have missed := ih fun endpoint => (free endpoint).1
        refine (missed_concat_iff act).mpr ⟨missed, fun request oneWay last => ?_⟩
        rw [Option.eq_none_iff_forall_ne_some]
        intro endpoint found
        exact (free endpoint).2 ⟨request, oneWay, last, missed, found⟩

end History

namespace Office

variable [DecidableEq ι]

/-- The line may keep an endpoint, and the endpoint may be called; nobody else is concerned. -/
def send (call : ε → Execution η) (office : Office ι ε η) (line : ι) (request : Request)
    (oneWay : Bool) : Step (Office ι ε η) (Except Transport.Failure (Option Reply)) :=
  let sent := (office.lines line).send (Ledger.call call) office.directory office.ledger request oneWay
  { state :=
      { office with
        lines := Function.update office.lines line sent.state.1
        ledger := sent.state.2 }
    result := sent.result
    events := sent.events }

def after (call : ε → Execution η) (office : Office ι ε η) : Act ι ε → Office ι ε η
  | .change change => { office with directory := office.directory.change change }
  | .send line request oneWay => (office.send call line request oneWay).state

def run (call : ε → Execution η) (office : Office ι ε η) (acts : List (Act ι ε)) : Office ι ε η :=
  acts.foldl (after call) office

variable (call : ε → Execution η) (office : Office ι ε η)

theorem run_concat (acts : List (Act ι ε)) (act : Act ι ε) :
    office.run call (acts ++ [act]) = (office.run call acts).after call act := by
  simp [run]

theorem find?_run (acts : List (Act ι ε)) (name : String) :
    (office.run call acts).directory.find? name =
      binding name (office.directory.find? name) acts := by
  induction acts using List.reverseRecOn with
  | nil => rfl
  | append_singleton acts act ih =>
      rw [run_concat]
      cases act with
      | change change => rw [binding_change, ← ih, after, Directory.find?_change]
      | send line request oneWay => rw [binding_send, ← ih, after, send]

theorem lines_send (line other : ι) (request : Request) (oneWay : Bool) :
    (office.send call line request oneWay).state.lines other =
      if other = line then
        { office.lines line with endpoint := (office.lines line).endpoint? office.directory }
      else office.lines other := by
  simp only [send, Function.update_apply, state_send]

theorem endpointName_run (acts : List (Act ι ε)) (line : ι) :
    ((office.run call acts).lines line).endpointName = (office.lines line).endpointName := by
  induction acts using List.reverseRecOn with
  | nil => rfl
  | append_singleton acts act ih =>
      rw [run_concat, ← ih]
      cases act with
      | change change => rfl
      | send other request oneWay =>
          rw [after, lines_send]
          split
          · rename_i same
            rw [same]
          · rfl

variable {office} (line : ι)

/-- If a line keeps what it has caught, then its next send finds what it has caught by then. -/
theorem endpoint?_iff_of_keeps {acts : List (Act ι ε)} (request : Request) (oneWay : Bool)
    {name : String} (named : (office.lines line).endpointName = name)
    (keeps : ∀ endpoint, ((office.run call acts).lines line).endpoint = some endpoint ↔
      Caught name (office.directory.find? name) line acts endpoint) (endpoint : ε) :
    ((office.run call acts).lines line).endpoint? (office.run call acts).directory = some endpoint ↔
      Caught name (office.directory.find? name) line (acts ++ [.send line request oneWay])
        endpoint := by
  rw [endpoint?, endpointName_run, named, find?_run, caught_concat_iff, ← keeps]
  cases kept : ((office.run call acts).lines line).endpoint with
  | some found =>
      have caught := (keeps found).mp kept
      simp [caught.not_missed]
  | none =>
      have missed : Missed name (office.directory.find? name) line acts := by
        refine missed_iff.mpr fun endpoint caught => ?_
        have found := (keeps endpoint).mpr caught
        rw [kept] at found
        cases found
      simp [missed]

section Fresh

variable (fresh : (office.lines line).endpoint = none)
include fresh

/-- A line keeps exactly what it has caught. -/
theorem endpoint_run_iff {name : String} (named : (office.lines line).endpointName = name)
    (acts : List (Act ι ε)) (endpoint : ε) :
    ((office.run call acts).lines line).endpoint = some endpoint ↔
      Caught name (office.directory.find? name) line acts endpoint := by
  induction acts using List.reverseRecOn generalizing endpoint with
  | nil =>
      refine iff_of_false (by simp [run, fresh]) ?_
      rintro ⟨earlier, request, oneWay, later, split, _⟩
      cases earlier <;> cases split
  | append_singleton acts act ih =>
      rw [run_concat]
      cases act with
      | change change =>
          rw [caught_concat_iff, ← ih]
          simp [after]
      | send other request oneWay =>
          rw [after, lines_send]
          by_cases same : line = other
          · subst same
            rw [if_pos rfl]
            exact endpoint?_iff_of_keeps call line request oneWay named ih endpoint
          · rw [if_neg same, caught_concat_iff, ← ih]
            simp [Ne.symm same]

end Fresh

end Office

/-- A line calls the endpoint to which its name was bound at the first send that found it bound, whatever
happens to the name afterwards. Earlier sends fail as unavailable and leave no trace. -/
theorem lines_bind_once [DecidableEq ι] (call : ε → Execution η) (office : Office ι ε η) (line : ι)
    (fresh : (office.lines line).endpoint = none) (acts : List (Act ι ε)) :
    let name := (office.lines line).endpointName
    let caught := Caught name (office.directory.find? name) line
    let now := office.run call acts
    ((now.lines line).isResolved = true ↔ ∃ endpoint, caught acts endpoint) ∧
    (∀ request oneWay,
      let sent := now.send call line request oneWay
      let sends := acts ++ [.send line request oneWay]
      ((∀ endpoint, ¬ caught sends endpoint) →
        sent.result = .error (.unavailable ("Name not bound: " ++ name)) ∧
          sent.state.ledger = now.ledger) ∧
      ∀ endpoint, caught sends endpoint →
        let called := call endpoint now.ledger.world request
        sent.result = (now.lines line).conclude request oneWay called.result ∧
          sent.state.ledger = ⟨called.state, now.ledger.calls ++ [(endpoint, request)]⟩) ∧
    ∀ (session : Session) (id : Nat) (holder : String) (link : DirectLine Session.Endpoint)
      (request : Request) (oneWay : Bool),
      let sent := link.send Session.Endpoint.execution ((session.directories.find? holder).getD {})
        session.stores request oneWay
      (Session.sendDirect id holder link request oneWay).run.run session =
        (.ok (.concluded sent.result),
          { session with
            links := session.links.set id (.direct holder sent.state.1)
            stores := sent.state.2
            log := session.log ++ sent.events }) := by
  intro name caught now
  have keeps := Office.endpoint_run_iff call line fresh rfl acts
  refine ⟨?_, ?_, Session.run_sendDirect⟩
  · rw [isResolved, Option.isSome_iff_exists]
    exact exists_congr keeps
  · intro request oneWay sent sends
    have finds (endpoint : ε) :
        (now.lines line).endpoint? now.directory = some endpoint ↔ caught sends endpoint :=
      Office.endpoint?_iff_of_keeps call line request oneWay rfl keeps endpoint
    have named : (now.lines line).endpointName = name := office.endpointName_run call acts line
    refine ⟨?_, ?_⟩
    · intro vain
      have missing : (now.lines line).endpoint? now.directory = none := by
        rw [Option.eq_none_iff_forall_ne_some]
        exact fun endpoint found => vain endpoint ((finds endpoint).mp found)
      obtain ⟨ledger, result⟩ := send_of_missing missing
      exact ⟨by rw [← named]; exact result, ledger⟩
    · intro endpoint found called
      obtain ⟨ledger, result⟩ := send_of_found ((finds endpoint).mpr found)
      exact ⟨result, ledger⟩

/-- A line sends before its name is exported, so that it has to send again. It keeps the endpoint of the
export, which a later binding does not replace, while another line gets the endpoint of a rebinding.
When the name is unbound, both go on as before. -/
theorem lines_bind_once_rebound :
    let call (number : Nat) : Execution Unit := fun _ _ =>
      { state := (), result := some (.granted (.i32 (Int32.ofNat number))) }
    let office : Office Bool Nat Unit :=
      { lines := fun _ => { endpointName := "svc" }, ledger := { world := () } }
    let read := Request.field .static "demo.Foo" "COUNT" none .read .static
    let acts : List (Act Bool Nat) :=
      [.send true read false, .change (.exportHost "svc" 1), .change (.bind "svc" 2),
        .send true read false, .change (.rebind "svc" 3), .send false read false,
        .change (.unbind "svc")]
    let early := office.send call true read false
    let late := (office.run call acts).send call true read false
    (office.lines true).endpoint = none ∧
      (early.result = .error (.unavailable "Name not bound: svc") ∧ early.state.ledger.calls = []) ∧
      (office.run call acts).ledger.calls = [(1, read), (3, read)] ∧
      late.result = .ok (some (.granted (.i32 1))) ∧
      late.state.ledger.calls = [(1, read), (3, read), (1, read)] := by
  intro call office read acts early late
  have fresh : (office.lines true).endpoint = none := rfl
  have vain (endpoint : Nat) :
      ¬ Caught "svc" none true ([] ++ [.send true read false]) endpoint := by
    intro caught
    cases (Office.endpoint_run_iff call true fresh rfl _ endpoint).mpr caught
  have caught : Caught "svc" none true (acts ++ [.send true read false]) 1 :=
    (Office.endpoint_run_iff call true fresh rfl _ 1).mp rfl
  obtain ⟨_, first, _⟩ := lines_bind_once call office true fresh []
  obtain ⟨_, later, _⟩ := lines_bind_once call office true fresh acts
  obtain ⟨failed, untouched⟩ := (first read false).1 vain
  obtain ⟨replied, entered⟩ := (later read false).2 1 caught
  exact ⟨fresh, ⟨failed, congrArg Ledger.calls untouched⟩, rfl, replied, congrArg Ledger.calls entered⟩

end DirectLine

end RemoteObjects
