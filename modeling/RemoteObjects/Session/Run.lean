import RemoteObjects.Session.Classes
import RemoteObjects.Session.Objects
import RemoteObjects.Session.Proxies

/-! After each command the operations that wait are looked at until none of them can move. -/

namespace RemoteObjects.Session

/-- An operation completes or goes on waiting. -/
inductive Look where
  | completed (outcome : Outcome)
  | waiting (purpose : Purpose)

/-- Nothing is left to be found when a command closes a bus, so it does not matter what is taken
then. -/
def lookAgain : Bus.Look :=
  .again false

/-- A channel gets its name back when the wait on it is over. -/
def lookReceive (medium : Nat) (name : String) (channel : Channel) : Acting Look := do
  let found ← numbered (← get).media medium
  let (found, polled) := found.poll lookAgain channel
  setMedium medium found
  match polled with
  | .waiting => pure (.waiting (.receive name channel))
  | .ready result =>
      replaceChannel name medium channel
      pure (.completed (.ofExcept .bus .frame result))

def lookTrip (medium : Nat) (trip : RoundTrip) :
    Acting (Option (Except Transport.Failure Reply)) := do
  let found ← numbered (← get).media medium
  let polled := RoundTrip.poll (← get).now lookAgain found trip
  setMedium medium polled.state
  emit polled.events
  pure polled.result

def look (medium : Nat) : Purpose → Acting Look
  | .receive name channel => lookReceive medium name channel
  | .send trip => do
      match ← lookTrip medium trip with
      | none => pure (.waiting (.send trip))
      | some result => pure (.completed (sendingOutcome (result.map some)))
  | .operate registry enclave strict pending trip => do
      match ← lookTrip medium trip with
      | none => pure (.waiting (.operate registry enclave strict pending trip))
      | some result =>
          .completed <$> finishOperation registry enclave strict pending (result.map some)
  | .serveOne dispatcher channel => do
      let progress ← runTurn medium fun found stores =>
        Service.attend (Stores.execute dispatcher) lookAgain found stores channel
      match progress with
      | .waiting channel => pure (.waiting (.serveOne dispatcher channel))
      | .served => pure (.completed .done)
      | .failed failure => pure (.completed (.failed (.service failure)))
  | .serve dispatcher stop channel => do
      let progress ← runTurn medium fun found stores =>
        match channel with
        | some channel => Service.resume (Stores.execute dispatcher) false found stores channel
        | none => Service.proceed (Stores.execute dispatcher) found stores
      match progress with
      | .waiting channel => pure (.waiting (.serve dispatcher stop (some channel)))
      | .served => pure (.waiting (.serve dispatcher stop none))
      | .failed failure => pure (.completed (.failed (.service failure)))

/-- An operation has moved if it gave way or waits on another channel than before. -/
def Purpose.movedFrom (before after : Purpose) : Bool :=
  after.channel?.isNone || after.channel? ≠ before.channel?

/-- An operation that completes is no longer among those that wait. The result says whether the
operation has moved. -/
def lookAt (task : Suspended) : Acting Bool := do
  match ← look task.medium task.purpose with
  | .completed outcome =>
      modify fun session =>
        { session with
          suspended := session.suspended.filter fun other => other.step ≠ task.step
          completed := session.completed ++ [(task.step, outcome)] }
      pure true
  | .waiting purpose =>
      if task.purpose.movedFrom purpose then
        modify fun session =>
          { session with
            suspended := session.suspended.map fun other =>
              if other.step = task.step then { other with purpose } else other }
        pure true
      else
        pure false

/-- The first operation of that kind, if there is one, is looked at. -/
def lookWhere (waits : Suspended → Bool) : Acting Bool := do
  match (← get).suspended.find? waits with
  | some task => lookAt task
  | none => pure false

def Suspended.waitsOn (medium channel : Nat) (task : Suspended) : Bool :=
  task.medium = medium && task.purpose.channel?.any (·.id = channel)

/-- The medium and the channel of every arrival that nobody has attended to, in order. -/
def takeArrivals : Acting (List (Nat × Nat)) := do
  let session ← get
  set { session with media := session.media.map AnyMedium.acknowledge }
  pure (session.media.zipIdx.flatMap fun (medium, id) =>
    medium.arrivals.map fun channel => (id, channel))

/-- Operations for which something arrived go on in the order of the arrivals. -/
def attendArrivals : List (Nat × Nat) → Acting Bool
  | [] => pure false
  | (medium, channel) :: arrivals => do
      let moved ← lookWhere (Suspended.waitsOn medium channel)
      let others ← attendArrivals arrivals
      pure (moved || others)

/-- What one operation does for others is attended to before the next one is looked at. -/
def lookInTurn : List Nat → Acting Bool
  | [] => pure false
  | step :: steps => do
      let moved ← lookWhere fun task => task.step = step
      let attended ← attendArrivals (← takeArrivals)
      let others ← lookInTurn steps
      pure (moved || attended || others)

/-- An operation for which nothing arrived moves only if it gave way before, if it is due or if its
medium may have an answer for it. -/
def Suspended.mayMove (session : Session) (task : Suspended) : Bool :=
  match task.purpose.channel? with
  | none => true
  | some channel =>
      task.purpose.deadline.any (· ≤ session.now) ||
        session.media[task.medium]?.any fun medium => medium.mayAnswer channel.filter

/-- Once a pass moves nothing, no later pass would. -/
def passes : Nat → Acting Unit
  | 0 => pure ()
  | count + 1 => do
      let _ ← attendArrivals (← takeArrivals)
      let session ← get
      let movable := session.suspended.filter (Suspended.mayMove session)
      if ← lookInTurn (movable.map (·.step)) then passes count

/-- Every pass in which something moves completes an operation or takes a frame, so this many
passes let everything come to rest. -/
def restingPasses (session : Session) : Nat :=
  1 + session.suspended.length + (session.media.map AnyMedium.backlog).foldr (· + ·) 0

def comeToRest : Acting Unit := do
  passes (restingPasses (← get))

/-- The deadlines up to a moment, the earliest first. -/
def dueDeadlines (session : Session) (moment : Nat) : List Nat :=
  let deadlines := session.suspended.filterMap fun task => task.purpose.deadline
  (deadlines.filter (· ≤ moment)).eraseDups.mergeSort

/-- The clock stops at every deadline on its way. -/
def advanceThrough : List Nat → Acting Unit
  | [] => pure ()
  | moment :: moments => do
      modify fun session => { session with now := max session.now moment }
      comeToRest
      advanceThrough moments

def advance (milliseconds : Nat) : Acting Outcome := do
  let session ← get
  let target := session.now + milliseconds
  advanceThrough (dueDeadlines session target ++ [target])
  pure .done

/-- A cancelled operation gives up its channel. -/
def cancel (step : Nat) : Acting Outcome := do
  match (← get).suspended.find? fun task => task.step = step with
  | none => pure (.cancelled false)
  | some task =>
      let found ← numbered (← get).media task.medium
      setMedium task.medium (task.purpose.channel?.elim found found.detach)
      modify fun session =>
        { session with suspended := session.suspended.filter fun other => other.step ≠ step }
      pure (.cancelled true)

inductive Command where
  | registry (name : String) (command : RegistryCommand)
  | table (name : String) (command : TableCommand)
  | catalog (name : String) (command : CatalogCommand)
  | dispatcher (name : String) (command : DispatcherCommand)
  | directory (directory name : String) (command : DirectoryCommand)
  | medium (name : String) (command : MediumCommand)
  | channel (name : String) (command : ChannelCommand)
  | link (name : String) (command : LinkCommand)
  | service (command : ServiceCommand)
  | proxy (name : String) (command : ProxyCommand)
  | advance (milliseconds : Nat)
  | cancel (step : Nat)

def Command.perform (step : Nat) : Command → Acting Outcome
  | .registry name command => command.perform name
  | .table name command => command.perform name
  | .catalog name command => command.perform name
  | .dispatcher name command => command.perform name
  | .directory holder name command => command.perform holder name
  | .medium name command => command.perform name
  | .channel name command => command.perform step name
  | .link name command => command.perform step name
  | .service command => command.perform step
  | .proxy name command => command.perform step name
  | .advance milliseconds => Session.advance milliseconds
  | .cancel other => Session.cancel other

/-- The result of a command, what completed meanwhile, and the log. -/
structure Entry where
  outcome : Outcome
  completed : List (Nat × Outcome)
  log : List Event

/-- A command that completes within its own step gives its result at once. -/
def entryOf (step : Nat) (outcome : Outcome) (session : Session) : Entry :=
  let own := session.completed.find? fun (other, _) => other = step
  let others := session.completed.filter fun (other, _) => other ≠ step
  { outcome := (own.map Prod.snd).getD outcome
    completed := others.mergeSort fun first second => first.1 ≤ second.1
    log := session.log }

/-- A command that names something unknown changes nothing further. -/
def runCommand (step : Nat) (command : Command) (session : Session) : Entry × Session :=
  let act : Acting Outcome := do
    let outcome ← command.perform step
    comeToRest
    pure outcome
  let (result, session) := act.run { session with completed := [], log := [] }
  match result with
  | .ok outcome => (entryOf step outcome session, session)
  | .error name => (entryOf step (.unknown name) session, session)

def runFrom : Nat → Session → List Command → List Entry × Session
  | _, session, [] => ([], session)
  | step, session, command :: commands =>
      let (entry, session) := runCommand step command session
      let (entries, session) := runFrom (step + 1) session commands
      (entry :: entries, session)

/-- The entries of all commands, and the commands that still wait at the end. -/
def run (commands : List Command) : List Entry × List Nat :=
  let (entries, session) := runFrom 0 {} commands
  (entries, (session.suspended.map (·.step)).mergeSort)

end RemoteObjects.Session
