import RemoteObjects.Wire.Primitive
import Mathlib.Tactic.Ring
import Mathlib.Tactic.Linarith

namespace RemoteObjects.Wire

namespace Reader

/-- The reader takes exactly these bytes and gives this value, whatever follows them. -/
def Reads {α : Type} (reader : Reader α) (bytes : List UInt8) (value : α) : Prop :=
  ∀ rest, reader (bytes ++ rest) = .ok (value, rest)

variable {α β : Type} {reader : Reader α} {bytes more : List UInt8} {value : α} {result : β}

theorem Reads.pure (value : α) : (pure value : Reader α).Reads [] value :=
  fun _ => rfl

/-- What follows the bytes of the first reader is left to the second one. -/
theorem Reads.bind {next : α → Reader β} (first : reader.Reads bytes value)
    (second : (next value).Reads more result) :
    (reader >>= next).Reads (bytes ++ more) result := by
  intro rest
  rw [List.append_assoc]
  change (reader (bytes ++ (more ++ rest)) >>= fun step => next step.1 step.2) = _
  rw [first (more ++ rest)]
  exact second rest

/-- A continuation that reads nothing only changes the value. -/
theorem Reads.bind_pure {next : α → Reader β} (first : reader.Reads bytes value)
    (second : next value = Pure.pure result) : (reader >>= next).Reads bytes result := by
  have nothing : (next value).Reads [] result := second ▸ Reads.pure result
  have joined : (reader >>= next).Reads (bytes ++ []) result := first.bind nothing
  rwa [List.append_nil] at joined

theorem Reads.map (first : reader.Reads bytes value) (f : α → β) :
    (f <$> reader).Reads bytes (f value) := by
  intro rest
  change (reader (bytes ++ rest) >>= fun step => Except.ok (f step.1, step.2)) = _
  rw [first rest]
  rfl

theorem Reads.decode (reads : reader.Reads bytes value) (rest : List UInt8) :
    reader.decode (bytes ++ rest) = .ok value := by
  rw [Reader.decode, reads rest]
  rfl

/-- One reader cannot take two readings of which one begins with the other. -/
theorem Reads.prefix_free {other : α} {longer : List UInt8} (reads : reader.Reads bytes value)
    (others : reader.Reads longer other) (begins : bytes <+: longer) :
    value = other ∧ bytes = longer := by
  obtain ⟨rest, rfl⟩ := begins
  have same : (Except.ok (value, rest) : Except Failure (α × List UInt8)) = .ok (other, []) := by
    rw [← reads rest, ← others [], List.append_nil]
  injection same with pair
  injection pair with equal empty
  exact ⟨equal, by rw [empty, List.append_nil]⟩

theorem byte_reads (octet : UInt8) : Reader.byte.Reads [octet] octet :=
  fun _ => rfl

theorem take_reads (bytes : List UInt8) : (Reader.take bytes.length).Reads bytes bytes := by
  intro rest
  simp [Reader.take]

/-- The items follow each other, and each of them is read where the one before it ended. -/
theorem many_reads (encode : α → List UInt8) (items : List α)
    (each : ∀ item ∈ items, reader.Reads (encode item) item) :
    (Reader.many reader items.length).Reads (items.flatMap encode) items := by
  induction items with
  | nil => exact Reads.pure []
  | cons item items ih =>
      have head := each item List.mem_cons_self
      have tail := ih fun other member => each other (List.mem_cons_of_mem item member)
      exact head.bind (tail.bind_pure rfl)

end Reader

open Reader (Reads)

section Varint

/-- The number of values that a word of this width can hold. -/
def Width.capacity (width : Width) : Nat :=
  128 ^ width.extraBytes * (width.lastBound + 1)

theorem word32_capacity : word32.capacity = 2 ^ 32 := by decide

theorem word64_capacity : word64.capacity = 2 ^ 64 := by decide

theorem toNat_ofNat_of_lt {number : Nat} (small : number < 256) :
    (UInt8.ofNat number).toNat = number :=
  UInt8.toNat_ofNat_of_lt' small

/-- The last byte is within its bound because seven bits go into each byte before it. -/
theorem readVarintBytes_varintBytes {lastBound : Nat} (bound : lastBound < 128) (extra : Nat)
    (number : Nat) (within : number < 128 ^ extra * (lastBound + 1)) :
    (readVarintBytes lastBound extra).Reads (varintBytes extra number) number := by
  induction extra generalizing number with
  | zero =>
      intro rest
      have last : number ≤ lastBound := by omega
      have byte : (UInt8.ofNat number).toNat = number := toNat_ofNat_of_lt (by omega)
      simp [varintBytes, readVarintBytes, byte, last]
  | succ extra ih =>
      intro rest
      by_cases small : number < 128
      · have byte : (UInt8.ofNat number).toNat = number := toNat_ofNat_of_lt (by omega)
        simp [varintBytes, readVarintBytes, small, byte]
      · have byte : (UInt8.ofNat (number % 128 + 128)).toNat = number % 128 + 128 :=
          toNat_ofNat_of_lt (by omega)
        have carried : number / 128 < 128 ^ extra * (lastBound + 1) := by
          apply Nat.div_lt_of_lt_mul
          calc number < 128 ^ (extra + 1) * (lastBound + 1) := within
            _ = 128 * (128 ^ extra * (lastBound + 1)) := by ring
        have tail := ih (number / 128) carried rest
        have sum : number % 128 + 128 * (number / 128) = number := Nat.mod_add_div number 128
        simp only [varintBytes, small, if_false, List.cons_append, readVarintBytes, byte, tail]
        rw [if_neg (by omega), Nat.add_sub_cancel, sum]

theorem readVarint_varint {width : Width} (bound : width.lastBound < 128) {number : Nat}
    (within : number < width.capacity) : (readVarint width).Reads (varint width number) number :=
  readVarintBytes_varintBytes bound width.extraBytes number within

theorem readVarint_word32 {number : Nat} (within : number < 2 ^ 32) :
    (readVarint word32).Reads (varint word32 number) number :=
  readVarint_varint (by decide) (word32_capacity ▸ within)

theorem readVarint_word64 {number : Nat} (within : number < 2 ^ 64) :
    (readVarint word64).Reads (varint word64 number) number :=
  readVarint_varint (by decide) (word64_capacity ▸ within)

theorem length_varint_pos (width : Width) (number : Nat) : 0 < (varint width number).length := by
  unfold varint
  cases width.extraBytes with
  | zero => simp [varintBytes]
  | succ extra =>
      unfold varintBytes
      split <;> simp

theorem unzigzag_zigzag (number : Int) : unzigzag (zigzag number) = number := by
  unfold zigzag unzigzag
  split <;> split <;> omega

/-- The sign takes one bit, so the code needs one bit more than the magnitude. -/
theorem zigzag_lt (bound : Nat) {number : Int} (lower : -(bound : Int) ≤ number)
    (upper : number < bound) : zigzag number < 2 * bound := by
  unfold zigzag
  split <;> omega

end Varint

theorem readInt32_int32 (number : Int32) : readInt32.Reads (int32 number) number := by
  have code : zigzag number.toInt < 2 ^ 32 :=
    zigzag_lt (2 ^ 31) number.le_toInt number.toInt_lt
  apply (readVarint_word32 code).bind_pure
  rw [unzigzag_zigzag, Int32.ofInt_toInt]

theorem readInt64_int64 (number : Int64) : readInt64.Reads (int64 number) number := by
  have code : zigzag number.toInt < 2 ^ 64 :=
    zigzag_lt (2 ^ 63) number.le_toInt number.toInt_lt
  apply (readVarint_word64 code).bind_pure
  rw [unzigzag_zigzag, Int64.ofInt_toInt]

theorem readFlag_flag (value : Bool) : readFlag.Reads (flag value) value := by
  cases value <;> exact fun _ => rfl

theorem length_littleEndian (count number : Nat) : (littleEndian count number).length = count := by
  induction count generalizing number with
  | zero => rfl
  | succ count ih => simp [littleEndian, ih]

theorem ofLittleEndian_littleEndian (count number : Nat) (within : number < 256 ^ count) :
    ofLittleEndian (littleEndian count number) = number := by
  induction count generalizing number with
  | zero => simp_all [littleEndian, ofLittleEndian]
  | succ count ih =>
      have carried : number / 256 < 256 ^ count := by
        apply Nat.div_lt_of_lt_mul
        calc number < 256 ^ (count + 1) := within
          _ = 256 * 256 ^ count := by ring
      simp only [littleEndian, ofLittleEndian, ih _ carried, UInt8.toNat_ofNat']
      exact Nat.mod_add_div number 256

/-- The bytes of a number of known length are fixed by its value. -/
theorem littleEndian_ofLittleEndian (bytes : List UInt8) :
    littleEndian bytes.length (ofLittleEndian bytes) = bytes := by
  induction bytes with
  | nil => rfl
  | cons byte rest ih =>
      have low : UInt8.ofNat (byte.toNat + 256 * ofLittleEndian rest) = byte := by
        apply UInt8.toNat_inj.mp
        have bound := byte.toNat_lt
        rw [UInt8.toNat_ofNat']
        omega
      have carried : (byte.toNat + 256 * ofLittleEndian rest) / 256 = ofLittleEndian rest := by
        have bound := byte.toNat_lt
        omega
      rw [List.length_cons, littleEndian, ofLittleEndian, low, carried, ih]

theorem ofLittleEndian_lt (bytes : List UInt8) : ofLittleEndian bytes < 256 ^ bytes.length := by
  induction bytes with
  | nil => simp [ofLittleEndian]
  | cons byte rest ih =>
      have bound := byte.toNat_lt
      rw [List.length_cons, Nat.pow_succ, ofLittleEndian]
      omega

/-- Every pattern of 64 bits comes back, so no payload of a number that is none is lost. -/
theorem readWord_word (bits : UInt64) : readWord.Reads (word bits) bits := by
  have taken := Reader.take_reads (word bits)
  rw [show (word bits).length = 8 from length_littleEndian 8 bits.toNat] at taken
  apply taken.bind_pure
  have same : ofLittleEndian (word bits) = bits.toNat :=
    ofLittleEndian_littleEndian 8 bits.toNat bits.toNat_lt
  rw [same, UInt64.ofNat_toNat]

theorem readLength_length {count : Nat} (fits : count < 2 ^ 64) :
    readLength.Reads (length count) count :=
  readVarint_word64 fits

theorem readVariant_variant {index : Nat} (fits : index < 2 ^ 32) :
    readVariant.Reads (variant index) index :=
  readVarint_word32 fits

theorem length_variant_pos (index : Nat) : 0 < (variant index).length :=
  length_varint_pos word32 index

theorem ofTextBytes?_textBytes (text : String) : ofTextBytes? (textBytes text) = some text := by
  have bytes : (⟨(textBytes text).toArray⟩ : ByteArray) = text.toByteArray := by
    simp [textBytes]
  rw [ofTextBytes?, bytes, String.fromUTF8?, dif_pos text.isValidUTF8]
  rfl

theorem length_textBytes (text : String) : (textBytes text).length = text.utf8ByteSize :=
  rfl

theorem readText_text {value : String} (fits : value.utf8ByteSize < 2 ^ 64) :
    readText.Reads (text value) value := by
  have counted : readLength.Reads (length (textBytes value).length) (textBytes value).length :=
    readLength_length fits
  apply counted.bind
  apply (Reader.take_reads (textBytes value)).bind_pure
  rw [ofTextBytes?_textBytes]

/-- A character takes at most four bytes, so it is never too long for its reader. -/
theorem readCharacter_character (value : Char) :
    readCharacter.Reads (character value) value := by
  have size : (textBytes value.toString).length = value.utf8Size := by
    rw [length_textBytes]
    exact String.utf8ByteSize_singleton
  have four := value.utf8Size_le_four
  have counted : readLength.Reads (length (textBytes value.toString).length)
      (textBytes value.toString).length := readLength_length (by omega)
  apply counted.bind
  rw [if_neg (by omega)]
  apply (Reader.take_reads (textBytes value.toString)).bind_pure
  rw [ofTextBytes?_textBytes]
  simp [Char.toString, String.toList_singleton]

theorem readOption_option {α : Type} {item : Reader α} {encode : α → List UInt8}
    (value : Option α) (each : ∀ content, value = some content → item.Reads (encode content) content) :
    (readOption item).Reads (option encode value) value := by
  cases value with
  | none => exact fun _ => rfl
  | some content =>
      have present := (each content rfl).map some
      exact (Reader.byte_reads 1).bind present

theorem readSequence_sequence {α : Type} {item : Reader α} {encode : α → List UInt8}
    {items : List α} (fits : items.length < 2 ^ 64)
    (each : ∀ content ∈ items, item.Reads (encode content) content) :
    (readSequence item).Reads (sequence encode items) items :=
  (readLength_length fits).bind (Reader.many_reads encode items each)

end RemoteObjects.Wire
