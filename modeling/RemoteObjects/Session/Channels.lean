import RemoteObjects.Session.State

namespace RemoteObjects.Session

inductive MediumCommand where
  | openChannel (channel : String) (filter : Filter)
  | close
  | count
  | follow (script : Script)
  | attempts

/-- The older channel of the same name goes away after the new one is open. -/
def replaceChannel (name : String) (medium : Nat) (channel : Channel) : Acting Unit := do
  let older := (← get).channels.find? name
  modify fun session => { session with channels := session.channels.set name (medium, channel) }
  match older with
  | none => pure ()
  | some (olderMedium, olderChannel) =>
      let found ← numbered (← get).media olderMedium
      setMedium olderMedium (found.detach olderChannel)

def openChannel (medium : Nat) (name : String) (filter : Filter) : Acting Outcome := do
  let found ← numbered (← get).media medium
  let (found, opened) := found.attach filter
  setMedium medium found
  match opened with
  | .error failure => pure (.failed (.bus failure))
  | .ok channel =>
      replaceChannel name medium channel
      pure .done

/-- From now on the name stands for a scripted medium. -/
def scriptMedium (name : String) (script : Script) : Acting Outcome := do
  let session ← get
  set { session with
    media := session.media ++ [AnyMedium.scripted script]
    mediumNames := session.mediumNames.set name session.media.length }
  pure .done

def liveBus (name : String) (medium : AnyMedium) : Acting Bus :=
  match medium with
  | .live bus => pure bus
  | .scripted _ => throw name

def scriptOf (name : String) (medium : AnyMedium) : Acting Script :=
  match medium with
  | .scripted script => pure script
  | .live _ => throw name

def MediumCommand.perform (name : String) (command : MediumCommand) : Acting Outcome := do
  match command with
  | .follow script => scriptMedium name script
  | .openChannel channel filter =>
      let id ← namedMedium name
      Session.openChannel id channel filter
  | .close =>
      let id ← namedMedium name
      let bus ← liveBus name (← numbered (← get).media id)
      setMedium id (.live bus.close)
      pure .done
  | .count =>
      let id ← namedMedium name
      let bus ← liveBus name (← numbered (← get).media id)
      pure (.subscribers bus.subscriberCount)
  | .attempts =>
      let id ← namedMedium name
      let script ← scriptOf name (← numbered (← get).media id)
      setMedium id (.scripted { script with attempts := [] })
      pure (.attempts script.attempts)

inductive ChannelCommand where
  | send (frame : Frame)
  | receive
  | await
  | drop
deriving Repr

def sendOn (medium : Nat) (frame : Frame) : Acting Outcome := do
  let found ← numbered (← get).media medium
  let sent := found.publish frame
  setMedium medium sent.state
  emit sent.events
  pure (.ofExcept .bus (fun () => .done) sent.result)

/-- A receiver that would have to wait gives up at once. -/
def receiveNow (medium : Nat) (channel : Channel) : Acting Outcome := do
  let found ← numbered (← get).media medium
  match found.poll .first channel with
  | (found, .ready result) =>
      setMedium medium found
      pure (.ofExcept .bus .frame result)
  | (found, .waiting) =>
      setMedium medium (found.abandon channel)
      pure .empty

/-- While an operation waits on a channel, the channel has no name. -/
def awaitFrame (step : Nat) (name : String) (medium : Nat) (channel : Channel) :
    Acting Outcome := do
  let found ← numbered (← get).media medium
  let (found, polled) := found.poll .first channel
  setMedium medium found
  match polled with
  | .ready result => pure (.ofExcept .bus .frame result)
  | .waiting =>
      modify fun session => { session with channels := session.channels.erase name }
      suspend { step, medium, purpose := .receive name channel }
      pure .pending

def dropChannel (name : String) : Acting Outcome := do
  match (← get).channels.find? name with
  | none => pure (.dropped false)
  | some (medium, channel) =>
      let found ← numbered (← get).media medium
      setMedium medium (found.detach channel)
      modify fun session => { session with channels := session.channels.erase name }
      pure (.dropped true)

def ChannelCommand.perform (step : Nat) (name : String) : ChannelCommand → Acting Outcome
  | .drop => dropChannel name
  | .send frame => do
      let (medium, _) ← known (← get).channels name
      sendOn medium frame
  | .receive => do
      let (medium, channel) ← known (← get).channels name
      receiveNow medium channel
  | .await => do
      let (medium, channel) ← known (← get).channels name
      awaitFrame step name medium channel

end RemoteObjects.Session
