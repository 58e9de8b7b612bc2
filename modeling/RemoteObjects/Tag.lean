import RemoteObjects.Digest.Blake3
import RemoteObjects.Request.Basic
import RemoteObjects.Text.Number
import RemoteObjects.Wire.Primitive

namespace RemoteObjects

structure Tag where
  mux : UInt32
  sec : UInt32
  typ : UInt32
deriving DecidableEq, Repr, Inhabited

namespace Tag

/-- Every response has this bit in its last word, and no request has it. -/
def responseBit : UInt32 := 0x100

/-- A zero byte separates the class from the member. -/
def digestInput (className member : String) : List UInt8 :=
  Wire.textBytes className ++ 0 :: Wire.textBytes member

/-- The digest may be any function of its input. -/
def requestWith (digest : List UInt8 → UInt32) (kind : UInt32) (className member : String)
    (handle : Handle) : Tag where
  mux := handle.number.toUInt32
  sec := digest (digestInput className member)
  typ := kind &&& ~~~responseBit

def request (kind : UInt32) (className member : String) (handle : Handle) : Tag :=
  requestWith Digest.blake3Word kind className member handle

def response (tag : Tag) : Tag :=
  { tag with typ := tag.typ ||| responseBit }

def isResponse (tag : Tag) : Bool :=
  tag.typ &&& responseBit != 0

def isRequest (tag : Tag) : Bool :=
  !tag.isResponse

/-- The digest word is always written with eight digits. -/
def text (tag : Tag) : String :=
  "<" ++ tag.mux.toNat.repr ++ ", 0x" ++ Text.paddedHexadecimal 8 tag.sec.toNat ++
    ", 0x" ++ Text.hexadecimal tag.typ.toNat ++ ">"

def encode (tag : Tag) : List UInt8 :=
  Wire.uint32 tag.mux ++ (Wire.uint32 tag.sec ++ Wire.uint32 tag.typ)

def read : Wire.Reader Tag := do
  let mux ← Wire.readUInt32
  let sec ← Wire.readUInt32
  let typ ← Wire.readUInt32
  pure { mux, sec, typ }

end Tag

/-- A request without a member is digested with an empty member name. -/
def Request.tagWith (digest : List UInt8 → UInt32) (request : Request) : Tag :=
  Tag.requestWith digest request.kind.code request.className (request.member?.getD "")
    request.handle

def Request.tag (request : Request) : Tag :=
  request.tagWith Digest.blake3Word

def Request.responseTag (request : Request) : Tag :=
  request.tag.response

/-- A frame carries a payload under a tag. -/
structure Frame where
  tag : Tag
  payload : List UInt8
deriving DecidableEq, Repr, Inhabited

end RemoteObjects
