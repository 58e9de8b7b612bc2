import RemoteObjects.Proofs.Wire.Primitive
import RemoteObjects.Wire.Request

namespace RemoteObjects

open Wire.Reader (Reads)

/-- A text, a byte sequence or a list is counted in one word of 64 bits. -/
def Wire.fitsWord (count : Nat) : Bool :=
  count < 2 ^ 64

def Wire.textFits (text : String) : Bool :=
  Wire.fitsWord text.utf8ByteSize

mutual

/-- Every length inside the value fits into a word. -/
def Value.fits : Value → Bool
  | .null | .bool _ | .i32 _ | .i64 _ | .f64 _ | .char _ => true
  | .str text => Wire.textFits text
  | .bytes octets => Wire.fitsWord octets.length
  | .list items => Wire.fitsWord items.length && Value.itemsFit items

def Value.itemsFit : List Value → Bool
  | [] => true
  | item :: items => item.fits && Value.itemsFit items

end

/-- Every length inside the request fits into a word. -/
def Request.fits : Request → Bool
  | .construct _ className types arguments =>
      Wire.textFits className && Wire.fitsWord types.length && Wire.fitsWord arguments.length &&
        Value.itemsFit arguments
  | .invoke _ className method types arguments =>
      Wire.textFits className && Wire.textFits method && Wire.fitsWord types.length &&
        Wire.fitsWord arguments.length && Value.itemsFit arguments
  | .field _ className name value _ _ =>
      Wire.textFits className && Wire.textFits name && value.all Value.fits
  | .finalize _ className => Wire.textFits className

def Refusal.fits : Refusal → Bool
  | .invocationFailed text => Wire.textFits text
  | .handleNotFound | .classNotFound | .memberNotFound | .typeMismatch | .unsupported => true

/-- Every length inside the reply fits into a word. -/
def Reply.fits : Reply → Bool
  | .granted result => result.fits
  | .refused reason => reason.fits

theorem Wire.fitsWord_iff (count : Nat) : Wire.fitsWord count = true ↔ count < 2 ^ 64 := by
  simp [Wire.fitsWord]

theorem Wire.textFits_iff (text : String) :
    Wire.textFits text = true ↔ text.utf8ByteSize < 2 ^ 64 :=
  Wire.fitsWord_iff text.utf8ByteSize

theorem Value.itemsFit_iff (items : List Value) :
    Value.itemsFit items = true ↔ ∀ item ∈ items, item.fits = true := by
  induction items with
  | nil => simp [Value.itemsFit]
  | cons item items ih => simp [Value.itemsFit, ih]

theorem Value.encodeItems_eq_flatMap (items : List Value) :
    Value.encodeItems items = items.flatMap Value.encode := by
  induction items with
  | nil => rfl
  | cons item items ih => rw [Value.encodeItems, ih, List.flatMap_cons]

/-- The bytes of an item are among the bytes of its list. -/
theorem Value.length_encode_le_of_mem {item : Value} {items : List Value} (member : item ∈ items) :
    item.encode.length ≤ (Value.encodeItems items).length := by
  induction items with
  | nil => simp at member
  | cons head items ih =>
      rw [Value.encodeItems, List.length_append]
      rcases List.mem_cons.mp member with rfl | later
      · exact Nat.le_add_right _ _
      · exact (ih later).trans (Nat.le_add_left _ _)

theorem ValueType.ofIndex?_index (type : ValueType) : ValueType.ofIndex? type.index = some type := by
  cases type <;> rfl

theorem ValueType.read_encode (type : ValueType) : ValueType.read.Reads type.encode type := by
  have small : type.index < 2 ^ 32 := by cases type <;> decide
  apply (Wire.readVariant_variant small).bind_pure
  rw [ValueType.ofIndex?_index]

theorem Value.length_encode_pos (value : Value) : 0 < value.encode.length := by
  have first := Wire.length_variant_pos
  cases value <;> simp only [Value.encode, List.length_append] <;>
    first | exact first _ | exact Nat.add_pos_left (first _) _

/-- The induction is on the fuel: an item of a list has fewer bytes than the list, so the fuel that
is left for it still covers its nesting. -/
theorem Value.readWithin_encode (fuel : Nat) (value : Value) (fits : value.fits = true)
    (enough : value.encode.length ≤ fuel) :
    (Value.readWithin fuel).Reads value.encode value := by
  induction fuel generalizing value with
  | zero => exact absurd value.length_encode_pos (by omega)
  | succ fuel ih =>
      cases value with
      | null => exact (Wire.readVariant_variant (by decide)).bind_pure rfl
      | bool flag =>
          exact (Wire.readVariant_variant (by decide)).bind ((Wire.readFlag_flag flag).map _)
      | i32 number =>
          exact (Wire.readVariant_variant (by decide)).bind ((Wire.readInt32_int32 number).map _)
      | i64 number =>
          exact (Wire.readVariant_variant (by decide)).bind ((Wire.readInt64_int64 number).map _)
      | f64 bits =>
          exact (Wire.readVariant_variant (by decide)).bind ((Wire.readWord_word bits).map _)
      | char character =>
          exact (Wire.readVariant_variant (by decide)).bind
            ((Wire.readCharacter_character character).map _)
      | str text =>
          have counted : text.utf8ByteSize < 2 ^ 64 := (Wire.textFits_iff text).mp fits
          exact (Wire.readVariant_variant (by decide)).bind ((Wire.readText_text counted).map _)
      | bytes octets =>
          have counted : octets.length < 2 ^ 64 := (Wire.fitsWord_iff octets.length).mp fits
          have content := Wire.readSequence_sequence counted
            fun octet _ => Wire.Reader.byte_reads octet
          rw [Wire.sequence, List.flatMap_singleton'] at content
          exact (Wire.readVariant_variant (by decide)).bind (content.map _)
      | list items =>
          simp only [Value.fits, Bool.and_eq_true, Wire.fitsWord_iff, Value.itemsFit_iff] at fits
          have each (item : Value) (member : item ∈ items) :
              (Value.readWithin fuel).Reads item.encode item := by
            have shorter := Value.length_encode_le_of_mem member
            have shape := Wire.length_variant_pos 8
            simp only [Value.encode, List.length_append] at enough
            exact ih item (fits.2 item member) (by omega)
          have content := Wire.readSequence_sequence fits.1 each
          rw [Wire.sequence, ← Value.encodeItems_eq_flatMap] at content
          exact (Wire.readVariant_variant (by decide)).bind (content.map _)

/-- The input is at least as long as the encoding at its front, and so is the fuel. -/
theorem Value.read_encode {value : Value} (fits : value.fits = true) :
    Value.read.Reads value.encode value := by
  intro rest
  apply Value.readWithin_encode _ value fits
  rw [List.length_append]
  omega

theorem Handle.read_encode (handle : Handle) : Handle.read.Reads handle.encode handle :=
  (Wire.readInt32_int32 handle.number).map Handle.mk

theorem Mode.reader_encode (mode : Mode) : Mode.reader.Reads mode.encode mode := by
  cases mode <;> exact (Wire.readVariant_variant (by decide)).bind_pure rfl

theorem Scope.read_encode (scope : Scope) : Scope.read.Reads scope.encode scope := by
  cases scope <;> exact (Wire.readVariant_variant (by decide)).bind_pure rfl

theorem ValueType.readSequence_encode {types : List ValueType} (fits : types.length < 2 ^ 64) :
    (Wire.readSequence ValueType.read).Reads (Wire.sequence ValueType.encode types) types :=
  Wire.readSequence_sequence fits fun type _ => type.read_encode

theorem Value.readSequence_encode {values : List Value} (count : values.length < 2 ^ 64)
    (fits : ∀ value ∈ values, value.fits = true) :
    (Wire.readSequence Value.read).Reads (Wire.sequence Value.encode values) values :=
  Wire.readSequence_sequence count fun value member => Value.read_encode (fits value member)

/-- The parts of a request are read in the order in which they were written. -/
theorem Request.read_encode {request : Request} (fits : request.fits = true) :
    Request.read.Reads request.encode request := by
  cases request with
  | construct handle className types arguments =>
      simp only [Request.fits, Bool.and_eq_true, Wire.fitsWord_iff, Wire.textFits_iff,
        Value.itemsFit_iff] at fits
      obtain ⟨⟨⟨name, typeCount⟩, count⟩, each⟩ := fits
      exact (Wire.readVariant_variant (by decide)).bind
        (handle.read_encode.bind ((Wire.readText_text name).bind
          ((ValueType.readSequence_encode typeCount).bind
            ((Value.readSequence_encode count each).bind_pure rfl))))
  | invoke handle className method types arguments =>
      simp only [Request.fits, Bool.and_eq_true, Wire.fitsWord_iff, Wire.textFits_iff,
        Value.itemsFit_iff] at fits
      obtain ⟨⟨⟨⟨name, member⟩, typeCount⟩, count⟩, each⟩ := fits
      exact (Wire.readVariant_variant (by decide)).bind
        (handle.read_encode.bind ((Wire.readText_text name).bind ((Wire.readText_text member).bind
          ((ValueType.readSequence_encode typeCount).bind
            ((Value.readSequence_encode count each).bind_pure rfl)))))
  | field handle className name value mode scope =>
      simp only [Request.fits, Bool.and_eq_true, Wire.textFits_iff, Option.all_eq_true] at fits
      obtain ⟨⟨owner, member⟩, content⟩ := fits
      have written := Wire.readOption_option value fun inner same =>
        Value.read_encode (content inner (by rw [same]))
      exact (Wire.readVariant_variant (by decide)).bind
        (handle.read_encode.bind ((Wire.readText_text owner).bind ((Wire.readText_text member).bind
          (written.bind (mode.reader_encode.bind (scope.read_encode.bind_pure rfl))))))
  | finalize handle className =>
      have name : className.utf8ByteSize < 2 ^ 64 := (Wire.textFits_iff className).mp fits
      exact (Wire.readVariant_variant (by decide)).bind
        (handle.read_encode.bind ((Wire.readText_text name).bind_pure rfl))

theorem Refusal.read_encode {reason : Refusal} (fits : reason.fits = true) :
    Refusal.read.Reads reason.encode reason := by
  cases reason with
  | invocationFailed text =>
      have counted : text.utf8ByteSize < 2 ^ 64 := (Wire.textFits_iff text).mp fits
      exact (Wire.readVariant_variant (by decide)).bind ((Wire.readText_text counted).map _)
  | handleNotFound => exact (Wire.readVariant_variant (by decide)).bind_pure rfl
  | classNotFound => exact (Wire.readVariant_variant (by decide)).bind_pure rfl
  | memberNotFound => exact (Wire.readVariant_variant (by decide)).bind_pure rfl
  | typeMismatch => exact (Wire.readVariant_variant (by decide)).bind_pure rfl
  | unsupported => exact (Wire.readVariant_variant (by decide)).bind_pure rfl

theorem Reply.read_encode {reply : Reply} (fits : reply.fits = true) :
    Reply.read.Reads reply.encode reply := by
  cases reply with
  | granted result =>
      exact (Wire.readVariant_variant (by decide)).bind ((Value.read_encode fits).map _)
  | refused reason =>
      exact (Wire.readVariant_variant (by decide)).bind ((Refusal.read_encode fits).map _)

theorem Fault.ofReading_decode {α : Type} {reader : Wire.Reader α} {bytes : List UInt8} {value : α}
    (reads : reader.Reads bytes value) (rest : List UInt8) :
    Fault.ofReading (reader.decode (bytes ++ rest)) = .ok value := by
  rw [reads.decode rest]
  rfl

/-- A request comes back from its encoding whatever its shape. -/
theorem Request.decodeAny_encode {request : Request} (fits : request.fits = true)
    (rest : List UInt8) : Request.decodeAny (request.encode ++ rest) = .ok request :=
  Fault.ofReading_decode (Request.read_encode fits) rest

theorem Reply.decode_encode {reply : Reply} (fits : reply.fits = true) (rest : List UInt8) :
    Reply.decode (reply.encode ++ rest) = .ok reply :=
  Fault.ofReading_decode (Reply.read_encode fits) rest

theorem Reply.decode_own {reply : Reply} (fits : reply.fits = true) :
    Reply.decode reply.encode = .ok reply := by
  simpa using Reply.decode_encode fits []

/-- The shape of what was decoded decides between the request and its violation. -/
theorem Request.decode_encode {request : Request} (fits : request.fits = true)
    (rest : List UInt8) :
    Request.decode (request.encode ++ rest) =
      match request.checkShape with
      | .ok () => .ok request
      | .error violation => .error violation.fault := by
  rw [Request.decode, Request.decodeAny_encode fits rest]
  cases shape : request.checkShape <;> simp [bind, Except.bind, shape, pure, Except.pure, throw,
    throwThe, MonadExceptOf.throw]

/-- Requests of any shape, replies and values are read back from the front of any input, exactly
their bytes are taken, and no encoding begins with the encoding of something else. A request that is
decoded for use is refused exactly with the violation of its shape. -/
theorem Wire.encodings_read_back :
    (∀ request : Request, request.fits = true → ∀ rest : List UInt8,
      Request.read (request.encode ++ rest) = .ok (request, rest) ∧
      Request.decodeAny (request.encode ++ rest) = .ok request ∧
      Request.decode (request.encode ++ rest) =
        match request.checkShape with
        | .ok () => .ok request
        | .error violation => .error violation.fault) ∧
    (∀ reply : Reply, reply.fits = true → ∀ rest : List UInt8,
      Reply.read (reply.encode ++ rest) = .ok (reply, rest) ∧
      Reply.decode (reply.encode ++ rest) = .ok reply) ∧
    (∀ value : Value, value.fits = true → ∀ rest : List UInt8,
      Value.read (value.encode ++ rest) = .ok (value, rest)) ∧
    (∀ first second : Request, first.fits = true → second.fits = true →
      first.encode <+: second.encode → first = second) ∧
    (∀ first second : Reply, first.fits = true → second.fits = true →
      first.encode <+: second.encode → first = second) ∧
    (∀ first second : Value, first.fits = true → second.fits = true →
      first.encode <+: second.encode → first = second) := by
  refine ⟨?_, ?_, ?_, ?_, ?_, ?_⟩
  · intro request fits rest
    exact ⟨Request.read_encode fits rest, Request.decodeAny_encode fits rest,
      Request.decode_encode fits rest⟩
  · intro reply fits rest
    exact ⟨Reply.read_encode fits rest, Reply.decode_encode fits rest⟩
  · intro value fits rest
    exact Value.read_encode fits rest
  · intro first second firstFits secondFits begins
    exact ((Request.read_encode firstFits).prefix_free (Request.read_encode secondFits) begins).1
  · intro first second firstFits secondFits begins
    exact ((Reply.read_encode firstFits).prefix_free (Reply.read_encode secondFits) begins).1
  · intro first second firstFits secondFits begins
    exact ((Value.read_encode firstFits).prefix_free (Value.read_encode secondFits) begins).1

/-- A malformed static invocation, a refusal with a text and a nested list, each before other bytes. -/
theorem Wire.encodings_read_back_nested :
    let request := Request.invoke ⟨0⟩ "demo.Foo" "größe" [.list, .i64] [.i64 Int64.minValue]
    let reply := Reply.refused (.invocationFailed "kaboom")
    let value := Value.list [.list [.f64 0x7FF8000000000001, .char '😀'], .bytes [0, 255], .null]
    request.fits = true ∧ reply.fits = true ∧ value.fits = true ∧
      Request.read (request.encode ++ [0x80]) = .ok (request, [0x80]) ∧
      Request.decode (request.encode ++ [0x80]) =
        .error (Request.Violation.invalidHandle "invoke" ⟨0⟩).fault ∧
      Reply.decode (reply.encode ++ [1, 2]) = .ok reply ∧
      Value.read (value.encode ++ value.encode) = .ok (value, value.encode) ∧
      ¬ Value.null.encode <+: value.encode := by
  intro request reply value
  have requestFits : request.fits = true := by decide
  have replyFits : reply.fits = true := by decide
  have valueFits : value.fits = true := by decide
  obtain ⟨requests, replies, values, _, _, distinct⟩ := Wire.encodings_read_back
  refine ⟨requestFits, replyFits, valueFits, (requests request requestFits [0x80]).1,
    (requests request requestFits [0x80]).2.2, (replies reply replyFits [1, 2]).2,
    values value valueFits value.encode, ?_⟩
  intro begins
  have same : Value.null = value := distinct .null value rfl valueFits begins
  simp [value] at same

end RemoteObjects
