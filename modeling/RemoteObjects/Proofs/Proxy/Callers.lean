import RemoteObjects.Proofs.Traffic.Correlation
import RemoteObjects.Proxy.Basic
import RemoteObjects.Transport.DirectLine

namespace RemoteObjects

variable {η : Type}

namespace Proxy

abbrev Result := Except Failure Answer

/-- What the proxy was given fits into a frame, whatever the handle will be. -/
def Operation.fits (operation : Operation) : Bool :=
  (operation.request .static).fits

theorem Operation.fits_request (operation : Operation) (handle : Handle) :
    (operation.request handle).fits = operation.fits := by
  obtain ⟨className, action⟩ := operation
  cases action <;> rfl

/-- What the other side gave fits into a frame. -/
def resultFits : Result → Bool
  | .ok (.value value) => value.fits
  | .error (.remote reason) => reason.fits
  | .ok (.handle _) | .ok .done | .error _ => true

theorem Operation.isOneWay_request (operation : Operation) (handle : Handle) :
    (operation.request handle).isOneWay = !operation.action.awaitsReply := by
  obtain ⟨className, action⟩ := operation
  cases action <;> rfl

/-- What is sent is the request of the operation for some handle. -/
theorem begin_sending {policy : Policy} {enclave : String} {registry : Registry}
    {operation : Operation} {pending : Pending}
    (sending : (Proxy.begin policy enclave registry operation).result.begun = .sending pending) :
    ∃ handle, pending = operation.pending handle := by
  have constructing (object : ObjectId)
      (sending : (beginConstruct policy enclave registry operation object).result.begun =
        .sending pending) : ∃ handle, pending = operation.pending handle := by
    unfold beginConstruct at sending
    dsimp only at sending
    split at sending
    · simp at sending
    · simp at sending
    · split at sending
      · exact ⟨_, (Begun.sending.inj sending).symm⟩
      · simp at sending
  have working (found : Except Registry.Failure Handle)
      (sending : (beginOn policy enclave registry operation found).result.begun =
        .sending pending) : ∃ handle, pending = operation.pending handle := by
    unfold beginOn at sending
    split at sending
    · simp at sending
    · dsimp only at sending
      split at sending
      · simp at sending
      · exact ⟨_, (Begun.sending.inj sending).symm⟩
  unfold Proxy.begin at sending
  split at sending
  · exact constructing _ sending
  · exact working _ sending
  · exact working _ sending

/-- The reply to a round trip fits if the result that is made of it does. -/
theorem reply_fits_of_resultFits {operation : Operation}
    (awaits : operation.action.awaitsReply = true) {enclave : String} {registry : Registry}
    {handle : Handle} {reply : Reply}
    (fits : resultFits (finish enclave registry (operation.pending handle)
      (.ok (some reply))).result = true) : reply.fits = true := by
  obtain ⟨className, action⟩ := operation
  cases action <;> simp only [Action.awaitsReply, Bool.false_eq_true] at awaits <;>
    cases reply <;> exact fits

/-- An operation with the policy, the enclave and the time limit of the proxy that performs it. -/
structure Task where
  policy : Policy
  enclave : String
  limit : Option Nat := none
  operation : Operation

def Task.begin (task : Task) (registry : Registry) : Step Registry Opening :=
  Proxy.begin task.policy task.enclave registry task.operation

def Task.finish (task : Task) (registry : Registry) (pending : Pending)
    (outcome : Except Transport.Failure (Option Reply)) : Step Registry Result :=
  Proxy.finish task.enclave registry pending outcome

end Proxy

open Proxy (Operation Pending Result Task)

/-- A line that was resolved once resolves to the same endpoint again. -/
theorem DirectLine.resolve_state {ε : Type} {line : DirectLine ε} {directory : Directory ε}
    {endpoint : ε} (resolved : (line.resolve directory).result = .ok endpoint) :
    ((line.resolve directory).state.resolve directory).result = .ok endpoint := by
  cases kept : line.endpoint with
  | some found =>
      have unchanged : (line.resolve directory).state = line := by simp [resolve, kept]
      rw [unchanged]
      exact resolved
  | none =>
      cases bound : directory.resolve line.endpointName with
      | error failure => simp [resolve, kept, bound] at resolved
      | ok found => simpa [resolve, kept, bound] using resolved

/-- Proxies that share a registry and have a direct line to the endpoint of a host. -/
structure DirectCaller (η : Type) where
  registry : Registry := {}
  line : DirectLine (Execution η)
  host : η

namespace DirectCaller

/-- The endpoint answers before the call returns. -/
def send (directory : Directory (Execution η)) (caller : DirectCaller η) (task : Task)
    (pending : Pending) : DirectCaller η × Result :=
  let resolved := caller.line.resolve directory
  match resolved.result with
  | .error failure =>
      let finished := task.finish caller.registry pending (.error failure)
      ({ caller with registry := finished.state, line := resolved.state }, finished.result)
  | .ok endpoint =>
      let answered := endpoint caller.host pending.request
      let outcome := caller.line.conclude pending.request pending.oneWay answered.result
      let finished := task.finish caller.registry pending outcome
      ({ registry := finished.state, line := resolved.state, host := answered.state },
        finished.result)

def call (directory : Directory (Execution η)) (caller : DirectCaller η) (task : Task) :
    DirectCaller η × Result :=
  let begun := task.begin caller.registry
  let caller := { caller with registry := begun.state }
  match begun.result.begun with
  | .finished result => (caller, result)
  | .sending pending => caller.send directory task pending

def run (directory : Directory (Execution η)) :
    DirectCaller η → List Task → DirectCaller η × List Result
  | caller, [] => (caller, [])
  | caller, task :: tasks =>
      let called := caller.call directory task
      let rest := run directory called.1 tasks
      (rest.1, called.2 :: rest.2)

section Connected

variable {answer : Execution η} {directory : Directory (Execution η)} {caller : DirectCaller η}

/-- The line leads to this endpoint. -/
def Connected (answer : Execution η) (directory : Directory (Execution η))
    (caller : DirectCaller η) : Prop :=
  (caller.line.resolve directory).result = .ok answer

theorem connected_of_find? {endpointName : String}
    (bound : directory.find? endpointName = some answer) (registry : Registry) (host : η) :
    Connected answer directory { registry, line := { endpointName }, host } := by
  simp [Connected, DirectLine.resolve, Directory.resolve, bound]

theorem Connected.send (connected : caller.Connected answer directory) (task : Task)
    (pending : Pending) :
    let answered := answer caller.host pending.request
    let outcome := caller.line.conclude pending.request pending.oneWay answered.result
    let finished := task.finish caller.registry pending outcome
    let sent := caller.send directory task pending
    sent.1.registry = finished.state ∧ sent.1.host = answered.state ∧ sent.2 = finished.result ∧
      sent.1.Connected answer directory := by
  intro answered outcome finished sent
  have resolved : (caller.line.resolve directory).result = .ok answer := connected
  simp only [sent, DirectCaller.send, resolved]
  exact ⟨rfl, rfl, rfl, DirectLine.resolve_state resolved⟩

theorem run_append (caller : DirectCaller η) (first second : List Task) :
    caller.run directory (first ++ second) =
      (((caller.run directory first).1.run directory second).1,
        (caller.run directory first).2 ++ ((caller.run directory first).1.run directory second).2) := by
  induction first generalizing caller with
  | nil => rfl
  | cons task first ih => simp only [List.cons_append, run, ih]

theorem run_concat (caller : DirectCaller η) (tasks : List Task) (task : Task) :
    caller.run directory (tasks ++ [task]) =
      (((caller.run directory tasks).1.call directory task).1,
        (caller.run directory tasks).2 ++ [((caller.run directory tasks).1.call directory task).2]) := by
  rw [run_append]
  rfl

/-- A responsive endpoint never fails a request of a proxy. -/
theorem conclude_ok (responsive : answer.Responsive) (host : η) (line : DirectLine (Execution η))
    (operation : Operation) (handle : Handle) :
    ∃ reply, line.conclude (operation.request handle) (!operation.action.awaitsReply)
      (answer host (operation.request handle)).result = .ok reply := by
  cases awaits : operation.action.awaitsReply with
  | false => exact ⟨none, rfl⟩
  | true =>
      have oneWay : (operation.request handle).isOneWay = false := by
        rw [operation.isOneWay_request, awaits]
        rfl
      obtain ⟨own, replied⟩ := responsive.exists_reply host oneWay
      refine ⟨some own, ?_⟩
      rw [replied]
      rfl

end Connected

end DirectCaller

/-- A task under way: what it sends and through which channel, and the registry from before it, at which
nobody looks any more. -/
structure Errand where
  task : Task
  pending : Pending
  id : Nat
  before : Registry

/-- Proxies that share a registry and a bus with one service. They perform their tasks one after the
other and may wait in the middle of one. -/
structure BusCaller (η : Type) where
  registry : Registry := {}
  traffic : Traffic Unit η
  remaining : List Task
  current : Option Errand := none
  results : List Result := []

namespace BusCaller

def finish (caller : BusCaller η) (task : Task) (pending : Pending)
    (outcome : Except Transport.Failure (Option Reply)) : BusCaller η :=
  let finished := task.finish caller.registry pending outcome
  { caller with
    registry := finished.state
    current := none
    results := caller.results ++ [finished.result] }

def begin (execute : Execution η) (caller : BusCaller η) (task : Task) : BusCaller η :=
  let begun := task.begin caller.registry
  let next := { caller with registry := begun.state }
  match begun.result.begun with
  | .finished result => { next with results := caller.results ++ [result] }
  | .sending pending =>
      let send := Traffic.Move.send pending.oneWay task.limit pending.request
      let traffic := caller.traffic.after (fun _ => execute) send
      match (caller.traffic.board.bus.attach (pending.request.filter pending.oneWay)).2 with
      | .error failure => { next with traffic }.finish task pending (.error failure.toTransport)
      | .ok channel =>
          { next with
            traffic
            current := some { task, pending, id := channel.id, before := caller.registry } }

/-- A caller with a task under way goes on with it, any other begins the next one. -/
def proceed (execute : Execution η) (caller : BusCaller η) : BusCaller η :=
  match caller.current with
  | some errand =>
      let next :=
        { caller with
          traffic := caller.traffic.after (fun _ => execute) (.proceed errand.id false) }
      match (caller.traffic.journeys.find? errand.id).map fun journey : Journey => journey.stage with
      | some (.ended result) => next.finish errand.task errand.pending result
      | some .opened | some (.waiting _) | none => next
  | none =>
      match caller.remaining with
      | [] => caller
      | task :: remaining => { caller with remaining }.begin execute task

/-- The caller or the service makes a step, or time passes. Nobody closes the bus. -/
inductive Turn where
  | caller
  | service
  | pass (duration : Nat)
deriving DecidableEq

def turn (execute : Execution η) (caller : BusCaller η) : Turn → BusCaller η
  | .caller => caller.proceed execute
  | .service =>
      { caller with traffic := caller.traffic.after (fun _ => execute) (.serve () false) }
  | .pass duration =>
      { caller with traffic := caller.traffic.after (fun _ => execute) (.pass duration) }

def run (execute : Execution η) (caller : BusCaller η) (turns : List Turn) : BusCaller η :=
  turns.foldl (turn execute) caller

/-- A caller with these tasks before it, and a service that is about to open its first channel. -/
def start (host : η) (now : Nat) (registry : Registry) (tasks : List Task) : BusCaller η where
  registry
  traffic := Traffic.start { host, now } ()
  remaining := tasks

/-- All tasks have returned. -/
def IsDone (caller : BusCaller η) : Prop :=
  caller.remaining = [] ∧ caller.current = none

end BusCaller

end RemoteObjects
