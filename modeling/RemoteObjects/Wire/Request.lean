import RemoteObjects.Reply
import RemoteObjects.Request.Shape
import RemoteObjects.Wire.Value

namespace RemoteObjects

def Handle.encode (handle : Handle) : List UInt8 :=
  Wire.int32 handle.number

def Handle.read : Wire.Reader Handle :=
  Handle.mk <$> Wire.readInt32

def Mode.encode : Mode → List UInt8
  | .read => Wire.variant 0
  | .write => Wire.variant 1

def Mode.reader : Wire.Reader Mode := do
  match ← Wire.readVariant with
  | 0 => pure .read
  | 1 => pure .write
  | _ => Wire.Reader.fail .unknownVariant

def Scope.encode : Scope → List UInt8
  | .object => Wire.variant 0
  | .static => Wire.variant 1

def Scope.read : Wire.Reader Scope := do
  match ← Wire.readVariant with
  | 0 => pure .object
  | 1 => pure .static
  | _ => Wire.Reader.fail .unknownVariant

/-- The parts follow each other in the order of their declaration. -/
def Request.encode : Request → List UInt8
  | .construct handle className types arguments =>
      Wire.variant 0 ++ (handle.encode ++ (Wire.text className ++
        (Wire.sequence ValueType.encode types ++ Wire.sequence Value.encode arguments)))
  | .invoke handle className method types arguments =>
      Wire.variant 1 ++ (handle.encode ++ (Wire.text className ++ (Wire.text method ++
        (Wire.sequence ValueType.encode types ++ Wire.sequence Value.encode arguments))))
  | .field handle className name value mode scope =>
      Wire.variant 2 ++ (handle.encode ++ (Wire.text className ++ (Wire.text name ++
        (Wire.option Value.encode value ++ (mode.encode ++ scope.encode)))))
  | .finalize handle className =>
      Wire.variant 3 ++ (handle.encode ++ Wire.text className)

/-- Any decodable combination of parts is read, whatever its shape. -/
def Request.read : Wire.Reader Request := do
  match ← Wire.readVariant with
  | 0 =>
      let handle ← Handle.read
      let className ← Wire.readText
      let types ← Wire.readSequence ValueType.read
      let arguments ← Wire.readSequence Value.read
      pure (.construct handle className types arguments)
  | 1 =>
      let handle ← Handle.read
      let className ← Wire.readText
      let method ← Wire.readText
      let types ← Wire.readSequence ValueType.read
      let arguments ← Wire.readSequence Value.read
      pure (.invoke handle className method types arguments)
  | 2 =>
      let handle ← Handle.read
      let className ← Wire.readText
      let name ← Wire.readText
      let value ← Wire.readOption Value.read
      let mode ← Mode.reader
      let scope ← Scope.read
      pure (.field handle className name value mode scope)
  | 3 =>
      let handle ← Handle.read
      let className ← Wire.readText
      pure (.finalize handle className)
  | _ => Wire.Reader.fail .unknownVariant

def Request.decodeAny (bytes : List UInt8) : Except Fault Request :=
  Fault.ofReading (Request.read.decode bytes)

/-- A decoded request is accepted only if its shape is right. -/
def Request.decode (bytes : List UInt8) : Except Fault Request := do
  let request ← Request.decodeAny bytes
  match request.checkShape with
  | .ok () => pure request
  | .error violation => throw violation.fault

def Refusal.encode : Refusal → List UInt8
  | .handleNotFound => Wire.variant 0
  | .classNotFound => Wire.variant 1
  | .memberNotFound => Wire.variant 2
  | .typeMismatch => Wire.variant 3
  | .invocationFailed message => Wire.variant 4 ++ Wire.text message
  | .unsupported => Wire.variant 5

def Refusal.read : Wire.Reader Refusal := do
  match ← Wire.readVariant with
  | 0 => pure .handleNotFound
  | 1 => pure .classNotFound
  | 2 => pure .memberNotFound
  | 3 => pure .typeMismatch
  | 4 => .invocationFailed <$> Wire.readText
  | 5 => pure .unsupported
  | _ => Wire.Reader.fail .unknownVariant

def Reply.encode : Reply → List UInt8
  | .granted result => Wire.variant 0 ++ result.encode
  | .refused reason => Wire.variant 1 ++ reason.encode

def Reply.read : Wire.Reader Reply := do
  match ← Wire.readVariant with
  | 0 => .granted <$> Value.read
  | 1 => .refused <$> Refusal.read
  | _ => Wire.Reader.fail .unknownVariant

def Reply.decode (bytes : List UInt8) : Except Fault Reply :=
  Fault.ofReading (Reply.read.decode bytes)

end RemoteObjects
