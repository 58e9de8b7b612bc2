import RemoteObjects.Proofs.Wire.RoundTrip

namespace RemoteObjects

namespace Wire

/-- The written bytes are fewer than the taken ones, or they are the same. -/
def Succinct (written taken : List UInt8) : Prop :=
  written.length < taken.length ∨ written = taken

namespace Succinct

variable {written taken : List UInt8}

theorem refl (bytes : List UInt8) : Succinct bytes bytes :=
  .inr rfl

theorem length_le (succinct : Succinct written taken) : written.length ≤ taken.length := by
  rcases succinct with shorter | rfl
  · omega
  · exact Nat.le_refl _

theorem eq_of_length_eq (succinct : Succinct written taken)
    (same : written.length = taken.length) : written = taken := by
  rcases succinct with shorter | equal
  · omega
  · exact equal

theorem append {written' taken' : List UInt8} (first : Succinct written taken)
    (second : Succinct written' taken') : Succinct (written ++ written') (taken ++ taken') := by
  have firstLe := first.length_le
  have secondLe := second.length_le
  unfold Succinct
  rw [List.length_append, List.length_append]
  rcases first with shorter | rfl
  · exact .inl (by omega)
  · rcases second with shorter | rfl
    · exact .inl (by omega)
    · exact .inr rfl

end Succinct

namespace Reader

variable {α β : Type}

/-- Whatever the reader gives stands in this relation to the bytes that it took. -/
def Yields (reader : Reader α) (relation : α → List UInt8 → Prop) : Prop :=
  ∀ bytes value rest, reader bytes = .ok (value, rest) →
    ∃ taken, bytes = taken ++ rest ∧ relation value taken

namespace Yields

variable {reader : Reader α} {next : α → Reader β} {relation : α → List UInt8 → Prop}
  {outcome : β → List UInt8 → Prop}

theorem pure {value : α} (related : relation value []) :
    (pure value : Reader α).Yields relation := by
  intro bytes found rest gave
  cases gave
  exact ⟨[], rfl, related⟩

theorem fail (failure : Failure) : (Reader.fail failure : Reader α).Yields relation := by
  intro bytes found rest gave
  cases gave

theorem imp {weaker : α → List UInt8 → Prop} (yields : reader.Yields relation)
    (implies : ∀ value taken, relation value taken → weaker value taken) :
    reader.Yields weaker := by
  intro bytes value rest gave
  obtain ⟨taken, split, related⟩ := yields bytes value rest gave
  exact ⟨taken, split, implies value taken related⟩

/-- The second reader's bytes come right after those of the first. -/
theorem bind (first : reader.Yields relation)
    (second : ∀ value taken, relation value taken →
      (next value).Yields fun result more => outcome result (taken ++ more)) :
    (reader >>= next).Yields outcome := by
  intro bytes result rest gave
  change (reader bytes >>= fun step => next step.1 step.2) = _ at gave
  cases found : reader bytes with
  | error failure =>
      rw [found] at gave
      cases gave
  | ok step =>
      obtain ⟨value, left⟩ := step
      rw [found] at gave
      obtain ⟨taken, rfl, related⟩ := first bytes value left found
      obtain ⟨more, rfl, final⟩ := second value taken related left result rest gave
      exact ⟨taken ++ more, (List.append_assoc _ _ _).symm, final⟩

/-- A continuation that takes nothing only changes the value. -/
theorem bind_pure {final : α → β} (first : reader.Yields relation)
    (second : ∀ value taken, relation value taken → outcome (final value) taken) :
    (reader >>= fun value => Pure.pure (final value)).Yields outcome := by
  apply first.bind
  intro value taken related
  apply pure
  rw [List.append_nil]
  exact second value taken related

theorem map {f : α → β} (first : reader.Yields relation)
    (second : ∀ value taken, relation value taken → outcome (f value) taken) :
    (f <$> reader).Yields outcome := by
  rw [← bind_pure_comp]
  exact first.bind_pure second

end Yields

theorem byte_yields : Reader.byte.Yields fun octet taken => taken = [octet] := by
  intro bytes octet rest gave
  cases bytes with
  | nil => cases gave
  | cons first others =>
      cases gave
      exact ⟨[octet], rfl, rfl⟩

theorem take_yields (count : Nat) :
    (Reader.take count).Yields fun bytes taken => bytes = taken ∧ bytes.length = count := by
  intro bytes found rest gave
  unfold Reader.take at gave
  split at gave
  · rename_i enough
    cases gave
    exact ⟨bytes.take count, (List.take_append_drop count bytes).symm, rfl,
      List.length_take_of_le enough⟩
  · cases gave

/-- Each item is written in at most as many bytes as were taken for it. -/
theorem many_yields {item : Reader α} {encode : α → List UInt8} {fits : α → Prop}
    (each : item.Yields fun value taken => fits value ∧ Succinct (encode value) taken)
    (count : Nat) :
    (Reader.many item count).Yields fun items taken =>
      items.length = count ∧ (∀ content ∈ items, fits content) ∧
        Succinct (items.flatMap encode) taken := by
  induction count with
  | zero => exact .pure ⟨rfl, by simp, .refl []⟩
  | succ count ih =>
      apply each.bind
      rintro first taken ⟨firstFits, firstSuccinct⟩
      apply ih.bind_pure
      rintro rest more ⟨length, restFit, restSuccinct⟩
      exact ⟨by simp [length], by simpa using ⟨firstFits, restFit⟩,
        firstSuccinct.append restSuccinct⟩

/-- As many items are read as there are bytes at most, if each takes one. -/
theorem length_le_of_many {item : Reader α} (each : item.Yields fun _ taken => 0 < taken.length)
    (count : Nat) : (Reader.many item count).Yields fun _ taken => count ≤ taken.length := by
  induction count with
  | zero => exact .pure (Nat.le_refl 0)
  | succ count ih =>
      apply each.bind
      intro first taken positive
      apply ih.bind_pure
      intro rest more enough
      rw [List.length_append]
      omega

end Reader

open Reader (Yields)

section Varint

theorem length_varintBytes_pos (extra number : Nat) : 0 < (varintBytes extra number).length :=
  length_varint_pos ⟨extra, 0⟩ number

/-- A byte that announces another one is superfluous if the number is small, and is the one that the
encoding begins with if it is not. -/
theorem succinct_varintBytes_cons {extra high : Nat} {first : UInt8} {taken : List UInt8}
    (large : ¬ first.toNat < 128) (succinct : Succinct (varintBytes extra high) taken) :
    Succinct (varintBytes (extra + 1) (first.toNat - 128 + 128 * high)) (first :: taken) := by
  have byte := first.toNat_lt
  by_cases small : first.toNat - 128 + 128 * high < 128
  · have positive := length_varintBytes_pos extra high
    have longer := succinct.length_le
    left
    simp only [varintBytes, small, if_true, List.length_cons, List.length_nil]
    omega
  · have low : (first.toNat - 128 + 128 * high) % 128 + 128 = first.toNat := by omega
    have carried : (first.toNat - 128 + 128 * high) / 128 = high := by omega
    simp only [varintBytes, small, if_false, low, carried, UInt8.ofNat_toNat]
    exact (Succinct.refl [first]).append succinct

/-- A number in its shortest form has no byte to spare, and its value fixes the bytes of every form of
that length. -/
theorem readVarintBytes_yields (lastBound extra : Nat) :
    (readVarintBytes lastBound extra).Yields fun number taken =>
      number < 128 ^ extra * (lastBound + 1) ∧ Succinct (varintBytes extra number) taken := by
  induction extra with
  | zero =>
      intro bytes number rest gave
      cases bytes with
      | nil => cases gave
      | cons last others =>
          simp only [readVarintBytes] at gave
          split at gave
          · cases gave
            exact ⟨[last], rfl, by omega, .inr (by simp [varintBytes])⟩
          · cases gave
  | succ extra ih =>
      intro bytes number rest gave
      have room : 1 ≤ 128 ^ extra * (lastBound + 1) := Nat.mul_pos (by positivity) (by omega)
      have widen : 128 ^ (extra + 1) * (lastBound + 1) =
          128 * (128 ^ extra * (lastBound + 1)) := by ring
      rw [widen]
      cases bytes with
      | nil => cases gave
      | cons first others =>
          simp only [readVarintBytes] at gave
          split at gave
          · rename_i small
            cases gave
            exact ⟨[first], rfl, by omega, .inr (by simp [varintBytes, small])⟩
          · rename_i large
            cases found : readVarintBytes lastBound extra others with
            | error failure =>
                rw [found] at gave
                cases gave
            | ok step =>
                obtain ⟨high, left⟩ := step
                rw [found] at gave
                cases gave
                obtain ⟨taken, rfl, within, succinct⟩ := ih others high rest found
                have byte := first.toNat_lt
                exact ⟨first :: taken, rfl, by omega, succinct_varintBytes_cons large succinct⟩

theorem readVarint_yields (width : Width) :
    (readVarint width).Yields fun number taken =>
      number < width.capacity ∧ Succinct (varint width number) taken :=
  readVarintBytes_yields width.lastBound width.extraBytes

theorem readLength_yields :
    readLength.Yields fun count taken => count < 2 ^ 64 ∧ Succinct (length count) taken := by
  rw [← word64_capacity]
  exact readVarint_yields word64

theorem readVariant_yields :
    readVariant.Yields fun index taken => Succinct (variant index) taken :=
  (readVarint_yields word32).imp fun _ _ both => both.2

theorem zigzag_unzigzag (code : Nat) : zigzag (unzigzag code) = code := by
  unfold zigzag unzigzag
  split <;> split <;> omega

theorem unzigzag_bounds (bound : Nat) {code : Nat} (within : code < 2 * bound) :
    -(bound : Int) ≤ unzigzag code ∧ unzigzag code < bound := by
  unfold unzigzag
  split <;> omega

end Varint

theorem readInt32_yields : readInt32.Yields fun number taken => Succinct (int32 number) taken := by
  apply (readVarint_yields word32).bind_pure
  rintro code taken ⟨within, succinct⟩
  rw [word32_capacity] at within
  obtain ⟨lower, upper⟩ := unzigzag_bounds (2 ^ 31) within
  rwa [int32, Int32.toInt_ofInt_of_le lower upper, zigzag_unzigzag]

theorem readInt64_yields : readInt64.Yields fun number taken => Succinct (int64 number) taken := by
  apply (readVarint_yields word64).bind_pure
  rintro code taken ⟨within, succinct⟩
  rw [word64_capacity] at within
  obtain ⟨lower, upper⟩ := unzigzag_bounds (2 ^ 63) within
  rwa [int64, Int64.toInt_ofInt_of_le lower upper, zigzag_unzigzag]

theorem readFlag_yields : readFlag.Yields fun value taken => Succinct (flag value) taken := by
  apply Reader.byte_yields.bind
  rintro code taken rfl
  split
  · rename_i zero
    exact .pure (.inr (by simp [flag, zero]))
  · split
    · rename_i one
      exact .pure (.inr (by simp [flag, one]))
    · exact .fail .badBool

theorem readWord_yields : readWord.Yields fun bits taken => Succinct (word bits) taken := by
  apply (Reader.take_yields 8).bind_pure
  rintro bytes taken ⟨rfl, count⟩
  have within := ofLittleEndian_lt bytes
  rw [count] at within
  have bits : (UInt64.ofNat (ofLittleEndian bytes)).toNat = ofLittleEndian bytes :=
    UInt64.toNat_ofNat_of_lt' within
  have same := littleEndian_ofLittleEndian bytes
  rw [count] at same
  right
  rw [word, bits, same]

theorem textBytes_of_ofTextBytes? {bytes : List UInt8} {text : String}
    (decoded : ofTextBytes? bytes = some text) : textBytes text = bytes := by
  unfold ofTextBytes? String.fromUTF8? at decoded
  split at decoded
  · cases decoded
    simp [textBytes, String.fromUTF8]
  · cases decoded

theorem readText_yields :
    readText.Yields fun value taken => textFits value = true ∧ Succinct (text value) taken := by
  apply readLength_yields.bind
  rintro count counted ⟨fits, succinct⟩
  apply (Reader.take_yields count).bind
  rintro bytes taken ⟨rfl, length⟩
  cases decoded : ofTextBytes? bytes with
  | none => exact .fail .badText
  | some value =>
      have same := textBytes_of_ofTextBytes? decoded
      have size : value.utf8ByteSize = count := by rw [← length_textBytes, same, length]
      apply Yields.pure
      rw [List.append_nil, text, same, length, textFits_iff, size]
      exact ⟨fits, succinct.append (.refl bytes)⟩

/-- The bytes of a text begin with those of its first letter. -/
theorem textBytes_head {text : String} {first : Char} (begins : text.toList.head? = some first) :
    ∃ rest, textBytes text = textBytes first.toString ++ rest := by
  obtain ⟨letters, split⟩ := List.head?_eq_some_iff.mp begins
  have joined : text = String.singleton first ++ String.ofList letters := by
    rw [← String.ofList_cons, ← split, String.ofList_toList]
  refine ⟨textBytes (String.ofList letters), ?_⟩
  rw [joined]
  simp [textBytes, Char.toString]

theorem length_length {count : Nat} (small : count < 128) : (length count).length = 1 := by
  simp [length, varint, word64, varintBytes, small]

/-- Letters after the first one only add to what was taken. -/
theorem readCharacter_yields :
    readCharacter.Yields fun value taken => Succinct (character value) taken := by
  apply readLength_yields.bind
  rintro count counted ⟨-, succinct⟩
  split
  · exact .fail .badChar
  · rename_i few
    apply (Reader.take_yields count).bind
    rintro bytes taken ⟨rfl, size⟩
    cases decoded : (ofTextBytes? bytes).bind fun text => text.toList.head? with
    | none => exact .fail .badChar
    | some value =>
        obtain ⟨whole, found, begins⟩ := Option.bind_eq_some_iff.mp decoded
        obtain ⟨rest, split⟩ := textBytes_head begins
        rw [textBytes_of_ofTextBytes? found] at split
        apply Yields.pure
        rw [List.append_nil, character, text]
        cases rest with
        | nil =>
            rw [List.append_nil] at split
            rw [← split, size]
            exact succinct.append (.refl bytes)
        | cons byte more =>
            have enough := succinct.length_le
            have total := congrArg List.length split
            rw [List.length_append, List.length_cons] at total
            rw [length_length (by omega)] at enough
            left
            rw [List.length_append, List.length_append, length_length (by omega)]
            omega

theorem readOption_yields {α : Type} {item : Reader α} {encode : α → List UInt8} {fits : α → Prop}
    (each : item.Yields fun value taken => fits value ∧ Succinct (encode value) taken) :
    (readOption item).Yields fun value taken =>
      (∀ content ∈ value, fits content) ∧ Succinct (option encode value) taken := by
  apply Reader.byte_yields.bind
  rintro code taken rfl
  split
  · rename_i zero
    exact .pure ⟨by simp, .inr (by simp [option, zero])⟩
  · split
    · rename_i one
      apply each.map
      rintro content more ⟨contentFits, succinct⟩
      rw [one]
      exact ⟨by simpa using contentFits, (Succinct.refl [1]).append succinct⟩
    · exact .fail .badOption

theorem readSequence_yields {α : Type} {item : Reader α} {encode : α → List UInt8}
    {fits : α → Prop}
    (each : item.Yields fun value taken => fits value ∧ Succinct (encode value) taken) :
    (readSequence item).Yields fun items taken =>
      items.length < 2 ^ 64 ∧ (∀ content ∈ items, fits content) ∧
        Succinct (sequence encode items) taken := by
  apply readLength_yields.bind
  rintro count counted ⟨within, succinct⟩
  apply (Reader.many_yields each count).imp
  rintro items taken ⟨rfl, fit, content⟩
  exact ⟨within, fit, succinct.append content⟩

/-- A reader that takes at least as many bytes as were declared does not get beyond a greater number
than there are bytes. -/
theorem ne_ok_of_overdeclared {β : Type} {next : Nat → Reader β}
    (each : ∀ count, (next count).Yields fun _ taken => count ≤ taken.length)
    {bytes rest : List UInt8} {count : Nat} (declared : readLength bytes = .ok (count, rest))
    (short : rest.length < count) (found : β × List UInt8) :
    (readLength >>= next) bytes ≠ .ok found := by
  intro gave
  change (readLength bytes >>= fun step => next step.1 step.2) = _ at gave
  rw [declared] at gave
  obtain ⟨taken, split, enough⟩ := each count rest found.1 found.2 gave
  rw [split, List.length_append] at short
  omega

theorem readText_ne_ok {bytes rest : List UInt8} {count : Nat}
    (declared : readLength bytes = .ok (count, rest)) (short : rest.length < count)
    (found : String × List UInt8) : readText bytes ≠ .ok found := by
  refine ne_ok_of_overdeclared (fun number => ?_) declared short found
  apply (Reader.take_yields number).bind
  rintro content taken ⟨rfl, size⟩
  cases ofTextBytes? content with
  | none => exact .fail .badText
  | some value => exact .pure (by simp [size])

theorem readCharacter_ne_ok {bytes rest : List UInt8} {count : Nat}
    (declared : readLength bytes = .ok (count, rest)) (short : rest.length < count)
    (found : Char × List UInt8) : readCharacter bytes ≠ .ok found := by
  refine ne_ok_of_overdeclared (fun number => ?_) declared short found
  split
  · exact .fail .badChar
  · apply (Reader.take_yields number).bind
    rintro content taken ⟨rfl, size⟩
    cases (ofTextBytes? content).bind fun text => text.toList.head? with
    | none => exact .fail .badChar
    | some value => exact .pure (by simp [size])

theorem readSequence_ne_ok {α : Type} {item : Reader α}
    (each : item.Yields fun _ taken => 0 < taken.length) {bytes rest : List UInt8} {count : Nat}
    (declared : readLength bytes = .ok (count, rest)) (short : rest.length < count)
    (found : List α × List UInt8) : readSequence item bytes ≠ .ok found :=
  ne_ok_of_overdeclared (Reader.length_le_of_many each) declared short found

end Wire

theorem ValueType.index_ofIndex? {index : Nat} {type : ValueType}
    (found : ValueType.ofIndex? index = some type) : type.index = index := by
  unfold ValueType.ofIndex? at found
  split at found <;> cases found <;> rfl

theorem ValueType.read_yields :
    ValueType.read.Yields fun type taken => Wire.Succinct type.encode taken := by
  apply Wire.readVariant_yields.bind
  intro index taken succinct
  cases found : ValueType.ofIndex? index with
  | none => exact .fail .unknownVariant
  | some type =>
      apply Wire.Reader.Yields.pure
      rwa [List.append_nil, ValueType.encode, ValueType.index_ofIndex? found]

/-- What was read fits into words, and no fewer bytes were taken than its encoding has. -/
theorem Value.readWithin_yields (fuel : Nat) :
    (Value.readWithin fuel).Yields fun value taken =>
      value.fits = true ∧ Wire.Succinct value.encode taken := by
  induction fuel with
  | zero => exact .fail .unexpectedEnd
  | succ fuel ih =>
      apply Wire.readVariant_yields.bind
      intro index taken shape
      split
      · exact .pure ⟨rfl, by rwa [List.append_nil]⟩
      · exact Wire.readFlag_yields.map fun _ _ content => ⟨rfl, shape.append content⟩
      · exact Wire.readInt32_yields.map fun _ _ content => ⟨rfl, shape.append content⟩
      · exact Wire.readInt64_yields.map fun _ _ content => ⟨rfl, shape.append content⟩
      · exact Wire.readWord_yields.map fun _ _ content => ⟨rfl, shape.append content⟩
      · exact Wire.readCharacter_yields.map fun _ _ content => ⟨rfl, shape.append content⟩
      · exact Wire.readText_yields.map fun _ _ content => ⟨content.1, shape.append content.2⟩
      · have octet : Wire.Reader.byte.Yields fun octet taken => True ∧ Wire.Succinct [octet] taken :=
          Wire.Reader.byte_yields.imp fun _ _ taken => ⟨trivial, .inr taken.symm⟩
        apply (Wire.readSequence_yields octet).map
        rintro octets more ⟨count, -, content⟩
        rw [Wire.sequence, List.flatMap_singleton'] at content
        exact ⟨(Wire.fitsWord_iff octets.length).mpr count, shape.append content⟩
      · apply (Wire.readSequence_yields ih).map
        rintro items more ⟨count, fit, content⟩
        rw [Wire.sequence, ← Value.encodeItems_eq_flatMap] at content
        refine ⟨?_, shape.append content⟩
        rw [Value.fits, Bool.and_eq_true, Wire.fitsWord_iff, Value.itemsFit_iff]
        exact ⟨count, fit⟩
      · exact .fail .unknownVariant

theorem Value.read_yields :
    Value.read.Yields fun value taken =>
      value.fits = true ∧ Wire.Succinct value.encode taken :=
  fun bytes => Value.readWithin_yields (bytes.length + 1) bytes

theorem Handle.read_yields :
    Handle.read.Yields fun handle taken => Wire.Succinct handle.encode taken :=
  Wire.readInt32_yields.map fun _ _ succinct => succinct

theorem Mode.reader_yields :
    Mode.reader.Yields fun mode taken => Wire.Succinct mode.encode taken := by
  apply Wire.readVariant_yields.bind
  intro index taken succinct
  split
  · exact .pure (by rwa [List.append_nil])
  · exact .pure (by rwa [List.append_nil])
  · exact .fail .unknownVariant

theorem Scope.read_yields :
    Scope.read.Yields fun scope taken => Wire.Succinct scope.encode taken := by
  apply Wire.readVariant_yields.bind
  intro index taken succinct
  split
  · exact .pure (by rwa [List.append_nil])
  · exact .pure (by rwa [List.append_nil])
  · exact .fail .unknownVariant

/-- The parts of a request are written in the order in which they were read. -/
theorem Request.read_yields :
    Request.read.Yields fun request taken =>
      request.fits = true ∧ Wire.Succinct request.encode taken := by
  have readType : ValueType.read.Yields fun type taken => True ∧ Wire.Succinct type.encode taken :=
    ValueType.read_yields.imp fun _ _ succinct => ⟨trivial, succinct⟩
  have readTypes := Wire.readSequence_yields readType
  have readArguments := Wire.readSequence_yields Value.read_yields
  apply Wire.readVariant_yields.bind
  intro index first kind
  split
  · apply Handle.read_yields.bind
    intro handle second target
    apply Wire.readText_yields.bind
    rintro className third ⟨nameFits, name⟩
    apply readTypes.bind
    rintro types fourth ⟨typeCount, -, signature⟩
    apply readArguments.bind_pure
    rintro arguments fifth ⟨count, fit, content⟩
    refine ⟨?_, kind.append (target.append (name.append (signature.append content)))⟩
    simp only [Request.fits, Bool.and_eq_true, Wire.fitsWord_iff, Value.itemsFit_iff]
    exact ⟨⟨⟨nameFits, typeCount⟩, count⟩, fit⟩
  · apply Handle.read_yields.bind
    intro handle second target
    apply Wire.readText_yields.bind
    rintro className third ⟨nameFits, name⟩
    apply Wire.readText_yields.bind
    rintro method fourth ⟨methodFits, member⟩
    apply readTypes.bind
    rintro types fifth ⟨typeCount, -, signature⟩
    apply readArguments.bind_pure
    rintro arguments sixth ⟨count, fit, content⟩
    refine ⟨?_, kind.append (target.append (name.append (member.append
      (signature.append content))))⟩
    simp only [Request.fits, Bool.and_eq_true, Wire.fitsWord_iff, Value.itemsFit_iff]
    exact ⟨⟨⟨⟨nameFits, methodFits⟩, typeCount⟩, count⟩, fit⟩
  · apply Handle.read_yields.bind
    intro handle second target
    apply Wire.readText_yields.bind
    rintro className third ⟨nameFits, name⟩
    apply Wire.readText_yields.bind
    rintro field fourth ⟨fieldFits, member⟩
    apply (Wire.readOption_yields Value.read_yields).bind
    rintro value fifth ⟨valueFits, content⟩
    apply Mode.reader_yields.bind
    intro mode sixth access
    apply Scope.read_yields.bind_pure
    intro scope seventh place
    refine ⟨?_, kind.append (target.append (name.append (member.append (content.append
      (access.append place)))))⟩
    simp only [Request.fits, Bool.and_eq_true, Option.all_eq_true]
    exact ⟨⟨nameFits, fieldFits⟩, valueFits⟩
  · apply Handle.read_yields.bind
    intro handle second target
    apply Wire.readText_yields.bind_pure
    rintro className third ⟨nameFits, name⟩
    exact ⟨nameFits, kind.append (target.append name)⟩
  · exact .fail .unknownVariant

theorem Refusal.read_yields :
    Refusal.read.Yields fun reason taken =>
      reason.fits = true ∧ Wire.Succinct reason.encode taken := by
  apply Wire.readVariant_yields.bind
  intro index taken succinct
  split
  · exact .pure ⟨rfl, by rwa [List.append_nil]⟩
  · exact .pure ⟨rfl, by rwa [List.append_nil]⟩
  · exact .pure ⟨rfl, by rwa [List.append_nil]⟩
  · exact .pure ⟨rfl, by rwa [List.append_nil]⟩
  · exact Wire.readText_yields.map fun _ _ content => ⟨content.1, succinct.append content.2⟩
  · exact .pure ⟨rfl, by rwa [List.append_nil]⟩
  · exact .fail .unknownVariant

theorem Reply.read_yields :
    Reply.read.Yields fun reply taken =>
      reply.fits = true ∧ Wire.Succinct reply.encode taken := by
  apply Wire.readVariant_yields.bind
  intro index taken succinct
  split
  · exact Value.read_yields.map fun _ _ content => ⟨content.1, succinct.append content.2⟩
  · exact Refusal.read_yields.map fun _ _ content => ⟨content.1, succinct.append content.2⟩
  · exact .fail .unknownVariant

mutual

/-- The size of a value as a structure: one for each of its nodes, and the bytes of its texts and byte
sequences. -/
def Value.extent : Value → Nat
  | .null | .bool _ | .i32 _ | .i64 _ | .f64 _ | .char _ => 1
  | .str text => 1 + text.utf8ByteSize
  | .bytes octets => 1 + octets.length
  | .list items => 1 + Value.extents items

def Value.extents : List Value → Nat
  | [] => 0
  | item :: items => item.extent + Value.extents items

end

def Request.extent : Request → Nat
  | .construct _ className types arguments =>
      1 + className.utf8ByteSize + types.length + Value.extents arguments
  | .invoke _ className method types arguments =>
      1 + className.utf8ByteSize + method.utf8ByteSize + types.length + Value.extents arguments
  | .field _ className name value _ _ =>
      1 + className.utf8ByteSize + name.utf8ByteSize + value.elim 0 Value.extent
  | .finalize _ className => 1 + className.utf8ByteSize

def Refusal.extent : Refusal → Nat
  | .invocationFailed text => 1 + text.utf8ByteSize
  | .handleNotFound | .classNotFound | .memberNotFound | .typeMismatch | .unsupported => 1

def Reply.extent : Reply → Nat
  | .granted result => 1 + result.extent
  | .refused reason => 1 + reason.extent

mutual

theorem Value.extent_le_length_encode : (value : Value) → value.extent ≤ value.encode.length
  | .null => Value.length_encode_pos _
  | .bool _ => Value.length_encode_pos _
  | .i32 _ => Value.length_encode_pos _
  | .i64 _ => Value.length_encode_pos _
  | .f64 _ => Value.length_encode_pos _
  | .char _ => Value.length_encode_pos _
  | .str text => by
      have shape := Wire.length_variant_pos 6
      simp only [Value.extent, Value.encode, Wire.text, List.length_append, Wire.length_textBytes]
      omega
  | .bytes octets => by
      have shape := Wire.length_variant_pos 7
      simp only [Value.extent, Value.encode, List.length_append]
      omega
  | .list items => by
      have shape := Wire.length_variant_pos 8
      have content := Value.extents_le_length_encodeItems items
      simp only [Value.extent, Value.encode, List.length_append]
      omega

theorem Value.extents_le_length_encodeItems :
    (items : List Value) → Value.extents items ≤ (Value.encodeItems items).length
  | [] => Nat.le_refl 0
  | item :: items => by
      have head := Value.extent_le_length_encode item
      have tail := Value.extents_le_length_encodeItems items
      simp only [Value.extents, Value.encodeItems, List.length_append]
      omega

end

theorem ValueType.length_le_flatMap_encode (types : List ValueType) :
    types.length ≤ (types.flatMap ValueType.encode).length := by
  induction types with
  | nil => exact Nat.le_refl 0
  | cons type types ih =>
      have head := Wire.length_variant_pos type.index
      simp only [List.flatMap_cons, List.length_append, List.length_cons, ValueType.encode]
      omega

theorem Request.extent_le_length_encode (request : Request) :
    request.extent ≤ request.encode.length := by
  cases request with
  | construct handle className types arguments =>
      have kind := Wire.length_variant_pos 0
      have signature := ValueType.length_le_flatMap_encode types
      have content := Value.extents_le_length_encodeItems arguments
      simp only [extent, encode, Wire.text, Wire.sequence, ← Value.encodeItems_eq_flatMap,
        List.length_append, Wire.length_textBytes]
      omega
  | invoke handle className method types arguments =>
      have kind := Wire.length_variant_pos 1
      have signature := ValueType.length_le_flatMap_encode types
      have content := Value.extents_le_length_encodeItems arguments
      simp only [extent, encode, Wire.text, Wire.sequence, ← Value.encodeItems_eq_flatMap,
        List.length_append, Wire.length_textBytes]
      omega
  | field handle className name value mode scope =>
      have kind := Wire.length_variant_pos 2
      have content : value.elim 0 Value.extent ≤ (Wire.option Value.encode value).length := by
        cases value with
        | none => exact Nat.zero_le _
        | some inner => exact Nat.le_succ_of_le inner.extent_le_length_encode
      simp only [extent, encode, Wire.text, List.length_append, Wire.length_textBytes]
      omega
  | finalize handle className =>
      have kind := Wire.length_variant_pos 3
      simp only [extent, encode, Wire.text, List.length_append, Wire.length_textBytes]
      omega

theorem Refusal.extent_le_length_encode (reason : Refusal) :
    reason.extent ≤ reason.encode.length := by
  cases reason with
  | invocationFailed text =>
      have kind := Wire.length_variant_pos 4
      simp only [extent, encode, Wire.text, List.length_append, Wire.length_textBytes]
      omega
  | handleNotFound => exact Wire.length_variant_pos 0
  | classNotFound => exact Wire.length_variant_pos 1
  | memberNotFound => exact Wire.length_variant_pos 2
  | typeMismatch => exact Wire.length_variant_pos 3
  | unsupported => exact Wire.length_variant_pos 5

theorem Reply.extent_le_length_encode (reply : Reply) : reply.extent ≤ reply.encode.length := by
  cases reply with
  | granted result =>
      have kind := Wire.length_variant_pos 0
      have content := result.extent_le_length_encode
      simp only [extent, encode, List.length_append]
      omega
  | refused reason =>
      have kind := Wire.length_variant_pos 1
      have content := reason.extent_le_length_encode
      simp only [extent, encode, List.length_append]
      omega

/-- Of all inputs from which a value is read, its encoding takes the fewest bytes, and no other input
takes as few. The value as a structure is no larger than the bytes that were taken. -/
def Wire.Reader.Shortest {α : Type} (reader : Wire.Reader α) (encode : α → List UInt8)
    (extent : α → Nat) : Prop :=
  ∀ bytes value rest, reader bytes = .ok (value, rest) →
    reader (encode value) = .ok (value, []) ∧
      ∃ count ≤ bytes.length, rest = bytes.drop count ∧
        (encode value).length ≤ count ∧
        ((encode value).length = count → encode value = bytes.take count) ∧
        extent value ≤ count

theorem Wire.Reader.Yields.shortest {α : Type} {reader : Wire.Reader α} {encode : α → List UInt8}
    {fits : α → Prop} {extent : α → Nat}
    (yields : reader.Yields fun value taken => fits value ∧ Wire.Succinct (encode value) taken)
    (reads : ∀ value, fits value → reader.Reads (encode value) value)
    (within : ∀ value, extent value ≤ (encode value).length) :
    reader.Shortest encode extent := by
  intro bytes value rest gave
  obtain ⟨taken, rfl, fit, succinct⟩ := yields bytes value rest gave
  have le := succinct.length_le
  refine ⟨by simpa using reads value fit [], taken.length, by simp, by simp, le, ?_,
    (within value).trans le⟩
  intro same
  rw [List.take_left]
  exact succinct.eq_of_length_eq same

/-- Requests of any shape, replies and values are encoded in the one shortest way in which they can be
read, and none of them is larger than its input. More letters, bytes, types or items than there are
bytes are never read. -/
theorem Wire.encodings_shortest :
    Request.read.Shortest Request.encode Request.extent ∧
    Reply.read.Shortest Reply.encode Reply.extent ∧
    Value.read.Shortest Value.encode Value.extent ∧
    ∀ bytes count rest, Wire.readLength bytes = .ok (count, rest) → rest.length < count →
      (∀ found, Wire.readText bytes ≠ .ok found) ∧
      (∀ found, Wire.readCharacter bytes ≠ .ok found) ∧
      (∀ found, Wire.readSequence Wire.Reader.byte bytes ≠ .ok found) ∧
      (∀ found, Wire.readSequence ValueType.read bytes ≠ .ok found) ∧
      (∀ found, Wire.readSequence Value.read bytes ≠ .ok found) ∧
      ∀ fuel found, Wire.readSequence (Value.readWithin fuel) bytes ≠ .ok found := by
  refine ⟨?_, ?_, ?_, ?_⟩
  · exact Request.read_yields.shortest (fun _ fits => Request.read_encode fits)
      Request.extent_le_length_encode
  · exact Reply.read_yields.shortest (fun _ fits => Reply.read_encode fits)
      Reply.extent_le_length_encode
  · exact Value.read_yields.shortest (fun _ fits => Value.read_encode fits)
      Value.extent_le_length_encode
  · intro bytes count rest declared short
    have octet : Wire.Reader.byte.Yields fun _ taken => 0 < taken.length :=
      Wire.Reader.byte_yields.imp fun _ _ taken => by simp [taken]
    have type : ValueType.read.Yields fun _ taken => 0 < taken.length :=
      ValueType.read_yields.imp fun type _ succinct =>
        (Wire.length_variant_pos type.index).trans_le succinct.length_le
    have value : Value.read.Yields fun _ taken => 0 < taken.length :=
      Value.read_yields.imp fun value _ both =>
        value.length_encode_pos.trans_le both.2.length_le
    have within (fuel : Nat) : (Value.readWithin fuel).Yields fun _ taken => 0 < taken.length :=
      (Value.readWithin_yields fuel).imp fun value _ both =>
        value.length_encode_pos.trans_le both.2.length_le
    exact ⟨Wire.readText_ne_ok declared short, Wire.readCharacter_ne_ok declared short,
      Wire.readSequence_ne_ok octet declared short, Wire.readSequence_ne_ok type declared short,
      Wire.readSequence_ne_ok value declared short,
      fun fuel => Wire.readSequence_ne_ok (within fuel) declared short⟩

/-- The letter `a` can be read from six bytes, with the index and the length in two bytes each and with a
second letter that is cut off. It is written in three. A list of 255 items cannot be read from two bytes. -/
theorem Wire.encodings_shortest_overlong :
    let bytes : List UInt8 := [0x85, 0x00, 0x82, 0x00, 0x61, 0x62, 0x07]
    let letter := Value.char 'a'
    Value.read bytes = .ok (letter, [0x07]) ∧
      letter.encode = [0x05, 0x01, 0x61] ∧
      Value.read letter.encode = .ok (letter, []) ∧
      (∃ count ≤ bytes.length, [0x07] = bytes.drop count ∧ letter.encode.length ≤ count ∧
        letter.extent ≤ count) ∧
      Wire.readLength [0xFF, 0x01, 0x00, 0x00] = .ok (255, [0x00, 0x00]) ∧
      ∀ found, Wire.readSequence Value.read [0xFF, 0x01, 0x00, 0x00] ≠ .ok found := by
  intro bytes letter
  have read : Value.read bytes = .ok (letter, [0x07]) := by rfl
  have declared : Wire.readLength [0xFF, 0x01, 0x00, 0x00] = .ok (255, [0x00, 0x00]) := by rfl
  obtain ⟨_, _, values, overdeclared⟩ := Wire.encodings_shortest
  obtain ⟨readsBack, count, within, dropped, shorter, _, extent⟩ := values bytes letter _ read
  obtain ⟨_, _, _, _, items, _⟩ := overdeclared _ _ _ declared (by decide)
  exact ⟨read, by decide, readsBack, ⟨count, within, dropped, shorter, extent⟩, declared, items⟩

end RemoteObjects
