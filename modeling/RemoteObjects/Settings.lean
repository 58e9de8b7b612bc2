import RemoteObjects.Text.Blank
import RemoteObjects.Text.Number

namespace RemoteObjects

inductive TransportKind where
  | direct
  | correlated
deriving DecidableEq, Repr, Inhabited

def TransportKind.text : TransportKind → String
  | .direct => "direct"
  | .correlated => "correlated"

structure Settings where
  transport : TransportKind := .correlated
  endpoint : String := "ClosureRemote"
  enclave : String := "local"
  timeout : Option Nat := none
deriving DecidableEq, Repr, Inhabited

namespace Settings

inductive Failure where
  | invalidTransport (text : String)
  | invalidTimeout (text : String)
  | emptyValue (key : String)
deriving DecidableEq, Repr

def Failure.message : Failure → String
  | .invalidTransport text => "Unknown transport kind: " ++ text
  | .invalidTimeout text => "Invalid receive timeout: " ++ text
  | .emptyValue key => key ++ " is set but empty"

def transportKey : String := "XDRUN_TRANSPORT"
def endpointKey : String := "XDRUN_ENDPOINT"
def enclaveKey : String := "XDRUN_ENCLAVE"
def timeoutKey : String := "XDRUN_RECV_TIMEOUT_MS"

/-- Blanks around the word and the case of its letters do not matter. -/
def readTransport (text : String) : Except Failure TransportKind :=
  let word := Text.asciiLower (Text.trim text)
  if word = "direct" || word = "sync" then .ok .direct
  else if word = "correlated" || word = "async" then .ok .correlated
  else .error (.invalidTransport text)

/-- A name is kept as it is, blanks included. -/
def readName (key text : String) : Except Failure String :=
  if Text.isAllBlank text then .error (.emptyValue key) else .ok text

/-- A timeout counts milliseconds in one word of 64 bits. -/
def readTimeout (text : String) : Except Failure Nat :=
  match Text.readNumber UInt64.size (Text.trim text) with
  | some milliseconds => .ok milliseconds
  | none => .error (.invalidTimeout text)

/-- An unset key keeps its default. -/
def readKey {α : Type} (text? : Option String) (default : α)
    (read : String → Except Failure α) : Except Failure α :=
  match text? with
  | none => .ok default
  | some text => read text

/-- The first invalid key in this order decides the failure. -/
def ofLookup (lookup : String → Option String) : Except Failure Settings := do
  let defaults : Settings := {}
  let transport ← readKey (lookup transportKey) defaults.transport readTransport
  let endpoint ← readKey (lookup endpointKey) defaults.endpoint (readName endpointKey)
  let enclave ← readKey (lookup enclaveKey) defaults.enclave (readName enclaveKey)
  let timeout ← readKey (lookup timeoutKey) defaults.timeout fun text => some <$> readTimeout text
  pure { transport, endpoint, enclave, timeout }

end Settings

end RemoteObjects
