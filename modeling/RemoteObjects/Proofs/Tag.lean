import RemoteObjects.Tag

namespace RemoteObjects

namespace Tag

theorem or_and_self (word mask : UInt32) : (word ||| mask) &&& mask = mask := by
  apply UInt32.toBitVec_inj.mp
  ext index within
  simp only [UInt32.toBitVec_and, UInt32.toBitVec_or, BitVec.getElem_and, BitVec.getElem_or]
  cases word.toBitVec[index] <;> cases mask.toBitVec[index] <;> rfl

theorem and_not_and_self (word mask : UInt32) : (word &&& ~~~mask) &&& mask = 0 := by
  apply UInt32.toBitVec_inj.mp
  ext index within
  simp only [UInt32.toBitVec_and, UInt32.toBitVec_not, BitVec.getElem_and, BitVec.getElem_not]
  cases word.toBitVec[index] <;> cases mask.toBitVec[index] <;> simp

/-- A word without the bits of the mask survives setting and clearing them. -/
theorem or_and_not_of_and_eq_zero {word mask : UInt32} (clear : word &&& mask = 0) :
    (word ||| mask) &&& ~~~mask = word := by
  apply UInt32.toBitVec_inj.mp
  ext index within
  have bit : (word &&& mask).toBitVec[index] = (0 : UInt32).toBitVec[index] := by rw [clear]
  revert bit
  simp only [UInt32.toBitVec_and, UInt32.toBitVec_or, UInt32.toBitVec_not, BitVec.getElem_and,
    BitVec.getElem_or, BitVec.getElem_not]
  cases word.toBitVec[index] <;> cases mask.toBitVec[index] <;> simp

theorem isRequest_iff (tag : Tag) : tag.isRequest = true ↔ tag.typ &&& responseBit = 0 := by
  simp [isRequest, isResponse]

@[simp] theorem isRequest_response (tag : Tag) : tag.response.isRequest = false := by
  have set : tag.response.typ &&& responseBit = responseBit := or_and_self tag.typ responseBit
  simp only [isRequest, isResponse, set]
  decide

/-- Clearing the response bit gives the request tag back. -/
theorem response_injective {first second : Tag} (firstRequest : first.isRequest = true)
    (secondRequest : second.isRequest = true) (same : first.response = second.response) :
    first = second := by
  simp only [response, Tag.mk.injEq] at same
  obtain ⟨mux, sec, typ⟩ := same
  have cleared : first.typ = second.typ := by
    rw [← or_and_not_of_and_eq_zero ((isRequest_iff first).mp firstRequest), typ,
      or_and_not_of_and_eq_zero ((isRequest_iff second).mp secondRequest)]
  cases first
  cases second
  simp_all

end Tag

/-- No two kinds become one when the response bit is cleared. -/
theorem Kind.eq_of_cleared_code_eq {first second : Kind}
    (same : first.code &&& ~~~Tag.responseBit = second.code &&& ~~~Tag.responseBit) :
    first = second := by
  revert same
  cases first <;> cases second <;> decide

namespace Request

theorem isRequest_tagWith (digest : List UInt8 → UInt32) (request : Request) :
    (request.tagWith digest).isRequest = true :=
  (Tag.isRequest_iff _).mpr (Tag.and_not_and_self request.kind.code Tag.responseBit)

@[simp] theorem isRequest_tag (request : Request) : request.tag.isRequest = true :=
  request.isRequest_tagWith _

@[simp] theorem isRequest_responseTag (request : Request) : request.responseTag.isRequest = false :=
  Tag.isRequest_response request.tag

/-- The last word of a tag holds the kind, which decides whether a reply is due. -/
theorem kind_eq_of_tag_eq {first second : Request} (same : first.tag = second.tag) :
    first.kind = second.kind :=
  Kind.eq_of_cleared_code_eq (congrArg Tag.typ same)

theorem isOneWay_eq_of_tag_eq {first second : Request} (same : first.tag = second.tag) :
    first.isOneWay = second.isOneWay := by
  rw [isOneWay, isOneWay, kind_eq_of_tag_eq same]

end Request

end RemoteObjects
