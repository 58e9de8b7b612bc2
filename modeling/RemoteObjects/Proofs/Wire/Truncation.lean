import RemoteObjects.Proofs.Wire.RoundTrip

namespace RemoteObjects

namespace Wire.Reader

variable {α β : Type}

/-- What a reader finds in the beginning of an input, and what it finds once these bytes follow. -/
inductive Continues (more : List UInt8) :
    Except Failure (α × List UInt8) → Except Failure (α × List UInt8) → Prop where
  | missed (found : Except Failure (α × List UInt8)) :
      Continues more (.error .unexpectedEnd) found
  | failed (failure : Failure) : Continues more (.error failure) (.error failure)
  | gave (value : α) (rest : List UInt8) :
      Continues more (.ok (value, rest)) (.ok (value, rest ++ more))

/-- The second reader, with any bytes more, finds what the first one found and did not miss. -/
def ExtendsTo (reader further : Reader α) : Prop :=
  ∀ bytes more, Continues more (reader bytes) (further (bytes ++ more))

/-- More input only matters to the reader if it missed something. -/
abbrev Steady (reader : Reader α) : Prop :=
  reader.ExtendsTo reader

variable {reader further : Reader α} {next nextFurther : α → Reader β}

/-- A reading that takes all of some bytes misses the end of every proper beginning of them. -/
theorem Reads.take_eq_unexpectedEnd {bytes : List UInt8} {value : α} (reads : reader.Reads bytes value)
    (steady : reader.Steady) {count : Nat} (short : count < bytes.length) :
    reader (bytes.take count) = .error .unexpectedEnd := by
  have whole : reader bytes = .ok (value, []) := by simpa using reads []
  have continues := steady (bytes.take count) (bytes.drop count)
  rw [List.take_append_drop, whole] at continues
  generalize reader (bytes.take count) = found at continues ⊢
  generalize complete : (Except.ok (value, []) : Except Failure (α × List UInt8)) = final
    at continues
  cases continues with
  | missed => rfl
  | failed failure => cases complete
  | gave other rest =>
      -- the bytes that were cut off would still be left
      have left : rest ++ bytes.drop count = [] := by
        injection complete with pair
        injection pair with _ left
        exact left.symm
      have none : bytes.drop count = [] := (List.append_eq_nil_iff.mp left).2
      exact absurd (List.drop_eq_nil_iff.mp none) (by omega)

theorem pure_steady (value : α) : (pure value : Reader α).Steady :=
  fun bytes _ => .gave value bytes

theorem fail_steady (failure : Failure) : (Reader.fail failure : Reader α).Steady :=
  fun _ _ => .failed failure

namespace ExtendsTo

/-- A reader that gives up for want of input says nothing about what others find. -/
theorem of_unexpectedEnd (further : Reader α) :
    (Reader.fail .unexpectedEnd : Reader α).ExtendsTo further :=
  fun _ _ => .missed _

theorem bind (first : reader.ExtendsTo further)
    (second : ∀ value, (next value).ExtendsTo (nextFurther value)) :
    (reader >>= next).ExtendsTo (further >>= nextFurther) := by
  intro bytes more
  change Continues more (reader bytes >>= fun step => next step.1 step.2)
    (further (bytes ++ more) >>= fun step => nextFurther step.1 step.2)
  have continues := first bytes more
  generalize reader bytes = found at continues ⊢
  generalize further (bytes ++ more) = final at continues ⊢
  cases continues with
  | missed => exact .missed _
  | failed failure => exact .failed failure
  | gave value rest => exact second value rest more

theorem map (first : reader.ExtendsTo further) (f : α → β) :
    (f <$> reader).ExtendsTo (f <$> further) := by
  rw [← bind_pure_comp, ← bind_pure_comp]
  exact first.bind fun value => pure_steady (f value)

theorem many (item : reader.ExtendsTo further) (count : Nat) :
    (Reader.many reader count).ExtendsTo (Reader.many further count) := by
  induction count with
  | zero => exact pure_steady []
  | succ count ih => exact item.bind fun first => ih.bind fun rest => pure_steady (first :: rest)

end ExtendsTo

theorem byte_steady : Reader.byte.Steady := by
  intro bytes more
  cases bytes with
  | nil => exact .missed _
  | cons first rest => exact .gave first rest

theorem take_steady (count : Nat) : (Reader.take count).Steady := by
  intro bytes more
  unfold Reader.take
  by_cases enough : count ≤ bytes.length
  · have still : count ≤ (bytes ++ more).length := by
      rw [List.length_append]
      omega
    rw [if_pos enough, if_pos still, List.take_append_of_le_length enough,
      List.drop_append_of_le_length enough]
    exact .gave _ _
  · rw [if_neg enough]
    exact .missed _

end Wire.Reader

namespace Wire

/-- A number that lacks its last byte is incomplete and not yet wrong. -/
theorem readVarintBytes_steady (lastBound extra : Nat) :
    (readVarintBytes lastBound extra).Steady := by
  induction extra with
  | zero =>
      intro bytes more
      cases bytes with
      | nil => exact .missed _
      | cons last rest =>
          simp only [List.cons_append, readVarintBytes]
          split
          · exact .gave _ rest
          · exact .failed .badVarint
  | succ extra ih =>
      intro bytes more
      cases bytes with
      | nil => exact .missed _
      | cons first rest =>
          have continues := ih rest more
          simp only [List.cons_append, readVarintBytes]
          split
          · exact .gave _ rest
          · generalize readVarintBytes lastBound extra rest = found at continues ⊢
            generalize readVarintBytes lastBound extra (rest ++ more) = final at continues ⊢
            cases continues with
            | missed => exact .missed _
            | failed failure => exact .failed failure
            | gave number left => exact .gave _ left

theorem readVarint_steady (width : Width) : (readVarint width).Steady :=
  readVarintBytes_steady width.lastBound width.extraBytes

theorem readInt32_steady : readInt32.Steady :=
  (readVarint_steady word32).bind fun _ => Reader.pure_steady _

theorem readInt64_steady : readInt64.Steady :=
  (readVarint_steady word64).bind fun _ => Reader.pure_steady _

theorem readFlag_steady : readFlag.Steady := by
  apply Reader.byte_steady.bind
  intro code
  split
  · exact Reader.pure_steady false
  · split
    · exact Reader.pure_steady true
    · exact Reader.fail_steady .badBool

theorem readWord_steady : readWord.Steady :=
  (Reader.take_steady 8).bind fun _ => Reader.pure_steady _

theorem readLength_steady : readLength.Steady :=
  readVarint_steady word64

theorem readVariant_steady : readVariant.Steady :=
  readVarint_steady word32

theorem readText_steady : readText.Steady := by
  apply readLength_steady.bind
  intro count
  apply (Reader.take_steady count).bind
  intro bytes
  cases ofTextBytes? bytes with
  | some text => exact Reader.pure_steady text
  | none => exact Reader.fail_steady .badText

/-- The bytes of a character are counted before they are looked at. -/
theorem readCharacter_steady : readCharacter.Steady := by
  apply readLength_steady.bind
  intro count
  split
  · exact Reader.fail_steady .badChar
  · apply (Reader.take_steady count).bind
    intro bytes
    cases (ofTextBytes? bytes).bind fun text => text.toList.head? with
    | some character => exact Reader.pure_steady character
    | none => exact Reader.fail_steady .badChar

theorem readOption_steady {α : Type} {item : Reader α} (steady : item.Steady) :
    (readOption item).Steady := by
  apply Reader.byte_steady.bind
  intro code
  split
  · exact Reader.pure_steady none
  · split
    · exact steady.map some
    · exact Reader.fail_steady .badOption

theorem readSequence_extendsTo {α : Type} {item further : Reader α} (each : item.ExtendsTo further) :
    (readSequence item).ExtendsTo (readSequence further) :=
  readLength_steady.bind fun count => each.many count

end Wire

theorem ValueType.read_steady : ValueType.read.Steady := by
  apply Wire.readVariant_steady.bind
  intro index
  cases ValueType.ofIndex? index with
  | some type => exact Wire.Reader.pure_steady type
  | none => exact Wire.Reader.fail_steady .unknownVariant

/-- Values that are nested too deeply for the fuel count as cut off, so more fuel only adds to what is
found. -/
theorem Value.readWithin_extendsTo (fuel extra : Nat) :
    (Value.readWithin fuel).ExtendsTo (Value.readWithin (fuel + extra)) := by
  induction fuel with
  | zero => exact Wire.Reader.ExtendsTo.of_unexpectedEnd _
  | succ fuel ih =>
      rw [Nat.succ_add]
      apply Wire.readVariant_steady.bind
      intro index
      split
      · exact Wire.Reader.pure_steady _
      · exact Wire.readFlag_steady.map _
      · exact Wire.readInt32_steady.map _
      · exact Wire.readInt64_steady.map _
      · exact Wire.readWord_steady.map _
      · exact Wire.readCharacter_steady.map _
      · exact Wire.readText_steady.map _
      · exact (Wire.readSequence_extendsTo Wire.Reader.byte_steady).map _
      · exact (Wire.readSequence_extendsTo ih).map _
      · exact Wire.Reader.fail_steady .unknownVariant

/-- The fuel grows with the input. -/
theorem Value.read_steady : Value.read.Steady := by
  intro bytes more
  have continues := Value.readWithin_extendsTo (bytes.length + 1) more.length bytes more
  rwa [Nat.add_right_comm, ← List.length_append] at continues

theorem Handle.read_steady : Handle.read.Steady :=
  Wire.readInt32_steady.map Handle.mk

theorem Mode.reader_steady : Mode.reader.Steady := by
  apply Wire.readVariant_steady.bind
  intro index
  split
  · exact Wire.Reader.pure_steady _
  · exact Wire.Reader.pure_steady _
  · exact Wire.Reader.fail_steady .unknownVariant

theorem Scope.read_steady : Scope.read.Steady := by
  apply Wire.readVariant_steady.bind
  intro index
  split
  · exact Wire.Reader.pure_steady _
  · exact Wire.Reader.pure_steady _
  · exact Wire.Reader.fail_steady .unknownVariant

theorem Request.read_steady : Request.read.Steady := by
  have types := Wire.readSequence_extendsTo ValueType.read_steady
  have arguments := Wire.readSequence_extendsTo Value.read_steady
  apply Wire.readVariant_steady.bind
  intro index
  split
  · exact Handle.read_steady.bind fun _ => Wire.readText_steady.bind fun _ =>
      types.bind fun _ => arguments.bind fun _ => Wire.Reader.pure_steady _
  · exact Handle.read_steady.bind fun _ => Wire.readText_steady.bind fun _ =>
      Wire.readText_steady.bind fun _ => types.bind fun _ => arguments.bind fun _ =>
        Wire.Reader.pure_steady _
  · exact Handle.read_steady.bind fun _ => Wire.readText_steady.bind fun _ =>
      Wire.readText_steady.bind fun _ => (Wire.readOption_steady Value.read_steady).bind fun _ =>
        Mode.reader_steady.bind fun _ => Scope.read_steady.bind fun _ => Wire.Reader.pure_steady _
  · exact Handle.read_steady.bind fun _ => Wire.readText_steady.bind fun _ =>
      Wire.Reader.pure_steady _
  · exact Wire.Reader.fail_steady .unknownVariant

theorem Refusal.read_steady : Refusal.read.Steady := by
  apply Wire.readVariant_steady.bind
  intro index
  split
  · exact Wire.Reader.pure_steady _
  · exact Wire.Reader.pure_steady _
  · exact Wire.Reader.pure_steady _
  · exact Wire.Reader.pure_steady _
  · exact Wire.readText_steady.map _
  · exact Wire.Reader.pure_steady _
  · exact Wire.Reader.fail_steady .unknownVariant

theorem Reply.read_steady : Reply.read.Steady := by
  apply Wire.readVariant_steady.bind
  intro index
  split
  · exact Value.read_steady.map _
  · exact Refusal.read_steady.map _
  · exact Wire.Reader.fail_steady .unknownVariant

theorem Fault.ofReading_take {α : Type} {reader : Wire.Reader α} {bytes : List UInt8} {value : α}
    (reads : reader.Reads bytes value) (steady : reader.Steady) {count : Nat}
    (short : count < bytes.length) :
    Fault.ofReading (reader.decode (bytes.take count)) = .error (.malformed .unexpectedEnd) := by
  rw [Wire.Reader.decode, reads.take_eq_unexpectedEnd steady short]
  rfl

/-- The shape of a request is not looked at before all of it has been read. -/
theorem Request.decode_take {request : Request} (fits : request.fits = true) {count : Nat}
    (short : count < request.encode.length) :
    Request.decode (request.encode.take count) = .error (.malformed .unexpectedEnd) := by
  have cut : Request.decodeAny (request.encode.take count) = .error (.malformed .unexpectedEnd) :=
    Fault.ofReading_take (Request.read_encode fits) Request.read_steady short
  rw [Request.decode, cut]
  rfl

/-- Wherever the encoding of a request, a reply or a value is cut off, its reader reports that the input
ended, and nothing else. -/
theorem Wire.truncation_noticed :
    (∀ request : Request, request.fits = true → ∀ count < request.encode.length,
      Request.read (request.encode.take count) = .error .unexpectedEnd ∧
      Request.decodeAny (request.encode.take count) = .error (.malformed .unexpectedEnd) ∧
      Request.decode (request.encode.take count) = .error (.malformed .unexpectedEnd)) ∧
    (∀ reply : Reply, reply.fits = true → ∀ count < reply.encode.length,
      Reply.read (reply.encode.take count) = .error .unexpectedEnd ∧
      Reply.decode (reply.encode.take count) = .error (.malformed .unexpectedEnd)) ∧
    (∀ value : Value, value.fits = true → ∀ count < value.encode.length,
      Value.read (value.encode.take count) = .error .unexpectedEnd ∧
      Fault.ofReading (Value.read.decode (value.encode.take count)) =
        .error (.malformed .unexpectedEnd)) := by
  refine ⟨?_, ?_, ?_⟩
  · intro request fits count short
    have reads := Request.read_encode fits
    exact ⟨reads.take_eq_unexpectedEnd Request.read_steady short,
      Fault.ofReading_take reads Request.read_steady short, Request.decode_take fits short⟩
  · intro reply fits count short
    have reads := Reply.read_encode fits
    exact ⟨reads.take_eq_unexpectedEnd Reply.read_steady short,
      Fault.ofReading_take reads Reply.read_steady short⟩
  · intro value fits count short
    have reads := Value.read_encode fits
    exact ⟨reads.take_eq_unexpectedEnd Value.read_steady short,
      Fault.ofReading_take reads Value.read_steady short⟩

/-- Every cut through a request that breaks its shape, through a text with letters of two bytes, and
through a nested list with a number that is none. -/
theorem Wire.truncation_noticed_everywhere :
    let request := Request.invoke ⟨0⟩ "demo.Foo" "größe" [.list, .i64] [.i64 Int64.minValue]
    let reply := Reply.refused (.invocationFailed "größe")
    let value := Value.list [.list [.f64 0x7FF8000000000001, .char '😀'], .bytes [0, 255], .null]
    request.fits = true ∧ reply.fits = true ∧ value.fits = true ∧
      request.checkShape = .error (.invalidHandle "invoke" ⟨0⟩) ∧
      request.encode.length = 34 ∧ value.encode.length = 24 ∧
      (∀ count < 34,
        Request.decode (request.encode.take count) = .error (.malformed .unexpectedEnd)) ∧
      (∀ count < reply.encode.length,
        Reply.decode (reply.encode.take count) = .error (.malformed .unexpectedEnd)) ∧
      ∀ count < 24, Value.read (value.encode.take count) = .error .unexpectedEnd := by
  intro request reply value
  have requestFits : request.fits = true := by decide
  have replyFits : reply.fits = true := by decide
  have valueFits : value.fits = true := by decide
  have requestLength : request.encode.length = 34 := by decide
  have valueLength : value.encode.length = 24 := by decide
  obtain ⟨requests, replies, values⟩ := Wire.truncation_noticed
  refine ⟨requestFits, replyFits, valueFits, by decide, requestLength, valueLength, ?_, ?_, ?_⟩
  · intro count short
    exact (requests request requestFits count (by omega)).2.2
  · intro count short
    exact (replies reply replyFits count short).2
  · intro count short
    exact (values value valueFits count (by omega)).1

end RemoteObjects
