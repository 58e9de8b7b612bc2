import RemoteObjects.Session.AnyMedium
import RemoteObjects.Session.Outcome
import RemoteObjects.Session.PolicyPlan
import RemoteObjects.Session.Stores
import RemoteObjects.Transport.DirectLine
import RemoteObjects.Transport.RoundTrip

/-! Things that can be named anew keep their number, so whoever holds the number keeps the thing. -/

namespace RemoteObjects.Session

/-- What a directory can lead to. -/
inductive Endpoint where
  | dispatcher (dispatcher : Dispatcher)
  | echo
  | fixed (reply : Option Reply)

inductive Link where
  | direct (directory : String) (line : DirectLine Endpoint)
  | correlated (medium : Nat) (timeout : Option Nat)
  | recorder (reply : Option Reply) (failure : Option Transport.Failure)
      (sent : List (Request × Bool))

structure ProxyState where
  settings : Settings
  link : Nat
  registry : Nat
  policy : PolicyPlan
  asked : List Request := []

/-- What an operation does when the channel on which it waits has something for it. -/
inductive Purpose where
  | receive (name : String) (channel : Channel)
  | send (trip : RoundTrip)
  | operate (registry : Nat) (enclave : String) (strict : Bool) (pending : Proxy.Pending)
      (trip : RoundTrip)
  | serveOne (dispatcher : Dispatcher) (channel : Channel)
  | serve (dispatcher : Dispatcher) (stop : Option String) (channel : Option Channel)

/-- An operation of an earlier command that waits on a channel of a medium. -/
structure Suspended where
  step : Nat
  medium : Nat
  purpose : Purpose

/-- A service that gave way to others waits on no channel. -/
def Purpose.channel? : Purpose → Option Channel
  | .receive _ channel | .serveOne _ channel => some channel
  | .serve _ _ channel => channel
  | .send trip | .operate _ _ _ _ trip => some trip.channel

def Purpose.deadline : Purpose → Option Nat
  | .send trip | .operate _ _ _ _ trip => trip.deadline
  | .receive .. | .serveOne .. | .serve .. => none

end RemoteObjects.Session

namespace RemoteObjects

open Session

structure Session where
  now : Nat := 0
  stores : Stores := {}
  catalogNames : Association String Nat := {}
  dispatchers : Association String Dispatcher := {}
  directories : Association String (Directory Endpoint) := {}
  registries : List Registry := []
  registryNames : Association String Nat := {}
  media : List AnyMedium := []
  mediumNames : Association String Nat := {}
  channels : Association String (Nat × Channel) := {}
  links : List Link := []
  linkNames : Association String Nat := {}
  proxies : Association String ProxyState := {}
  suspended : List Suspended := []
  completed : List (Nat × Outcome) := []
  log : List Event := []

namespace Session

/-- A command changes the session, and fails if it names something that does not exist. -/
abbrev Acting := ExceptT String (StateM Session)

def emit (events : List Event) : Acting Unit :=
  modify fun session => { session with log := session.log ++ events }

/-- A name that must have been introduced before. -/
def known {α : Type} (names : Association String α) (name : String) : Acting α :=
  match names.find? name with
  | some found => pure found
  | none => throw name

def numbered {α : Type} (items : List α) (id : Nat) : Acting α :=
  match items[id]? with
  | some item => pure item
  | none => throw ("#" ++ id.repr)

/-- A registry is created, empty, when it is first named. -/
def namedRegistry (name : String) : Acting Nat := do
  let session ← get
  match session.registryNames.find? name with
  | some id => pure id
  | none =>
      let id := session.registries.length
      set { session with
        registries := session.registries ++ [({} : Registry)]
        registryNames := session.registryNames.set name id }
      pure id

def newRegistry : Acting Nat := do
  let session ← get
  set { session with registries := session.registries ++ [({} : Registry)] }
  pure session.registries.length

def setRegistry (id : Nat) (registry : Registry) : Acting Unit :=
  modify fun session => { session with registries := session.registries.set id registry }

/-- A bus is created, open and empty, when it is first named. -/
def namedMedium (name : String) : Acting Nat := do
  let session ← get
  match session.mediumNames.find? name with
  | some id => pure id
  | none =>
      let id := session.media.length
      set { session with
        media := session.media ++ [AnyMedium.live {}]
        mediumNames := session.mediumNames.set name id }
      pure id

def setMedium (id : Nat) (medium : AnyMedium) : Acting Unit :=
  modify fun session => { session with media := session.media.set id medium }

def directoryNamed (name : String) : Acting (Directory Endpoint) := do
  pure (((← get).directories.find? name).getD {})

def setDirectory (name : String) (directory : Directory Endpoint) : Acting Unit :=
  modify fun session => { session with directories := session.directories.set name directory }

def setStores (stores : Stores) : Acting Unit :=
  modify fun session => { session with stores }

def namedTable (name : String) : Acting Nat := do
  let (stores, id) := (← get).stores.namedTable name
  setStores stores
  pure id

def suspend (task : Suspended) : Acting Unit :=
  modify fun session => { session with suspended := session.suspended ++ [task] }

end Session

end RemoteObjects
