import RemoteObjects.Proofs.Bus.Routing

/-! Names may contain the separator as well, so the digest cannot tell where the class ends. -/

namespace RemoteObjects

namespace Wire

theorem textBytes_append (first second : String) :
    textBytes (first ++ second) = textBytes first ++ textBytes second := by
  simp [textBytes]

theorem textBytes_injective {first second : String} (same : textBytes first = textBytes second) :
    first = second := by
  have read := ofTextBytes?_textBytes first
  rw [same, ofTextBytes?_textBytes] at read
  exact (Option.some.inj read).symm

end Wire

namespace Tag

/-- The character that is written between the class and the member. -/
def separator : Char := '\x00'

/-- The class and the member as the one text that is digested. -/
def joined (className member : String) : String :=
  className ++ separator.toString ++ member

theorem digestInput_eq_textBytes (className member : String) :
    digestInput className member = Wire.textBytes (joined className member) := by
  rw [joined, Wire.textBytes_append, Wire.textBytes_append, List.append_assoc]
  rfl

theorem toList_joined (className member : String) :
    (joined className member).toList = className.toList ++ separator :: member.toList := by
  simp [joined]

/-- The first class ends in a piece after a separator, and the second member begins with that piece. All
else is the same: the piece went from the class to the member. -/
def Regrouped (firstClass firstMember secondClass secondMember : String) : Prop :=
  ∃ piece, firstClass = joined secondClass piece ∧ secondMember = joined piece firstMember

/-- Where two lists are cut at an occurrence of one item and agree as a whole, they are cut at the same
place, or one of them has a piece more before the cut and the other has it after the cut. -/
theorem append_cons_eq_iff {α : Type} {item : α} {before after otherBefore otherAfter : List α} :
    before ++ item :: after = otherBefore ++ item :: otherAfter ↔
      before = otherBefore ∧ after = otherAfter ∨
      (∃ piece, before = otherBefore ++ item :: piece ∧ otherAfter = piece ++ item :: after) ∨
      ∃ piece, otherBefore = before ++ item :: piece ∧ after = piece ++ item :: otherAfter := by
  constructor
  · intro same
    rcases List.append_eq_append_iff.mp same with ⟨cut, longer, rest⟩ | ⟨cut, longer, rest⟩
    · cases cut with
      | nil =>
          rw [List.append_nil] at longer
          exact .inl ⟨longer.symm, (List.cons.inj rest).2⟩
      | cons first piece =>
          obtain ⟨rfl, moved⟩ := List.cons.inj rest
          exact .inr (.inr ⟨piece, longer, moved⟩)
    · cases cut with
      | nil =>
          rw [List.append_nil] at longer
          exact .inl ⟨longer, (List.cons.inj rest).2.symm⟩
      | cons first piece =>
          obtain ⟨rfl, moved⟩ := List.cons.inj rest
          exact .inr (.inl ⟨piece, longer, moved⟩)
  · rintro (⟨rfl, rfl⟩ | ⟨piece, rfl, rfl⟩ | ⟨piece, rfl, rfl⟩) <;> simp

theorem regrouped_iff {firstClass firstMember secondClass secondMember : String} :
    Regrouped firstClass firstMember secondClass secondMember ↔
      ∃ piece, firstClass.toList = secondClass.toList ++ separator :: piece ∧
        secondMember.toList = piece ++ separator :: firstMember.toList := by
  constructor
  · rintro ⟨piece, rfl, rfl⟩
    exact ⟨piece.toList, toList_joined .., toList_joined ..⟩
  · rintro ⟨piece, fromClass, toMember⟩
    refine ⟨String.ofList piece, String.toList_inj.mp ?_, String.toList_inj.mp ?_⟩
    · rw [fromClass, toList_joined, String.toList_ofList]
    · rw [toMember, toList_joined, String.toList_ofList]

variable {firstClass firstMember secondClass secondMember : String}

theorem digestInput_eq_iff :
    digestInput firstClass firstMember = digestInput secondClass secondMember ↔
      firstClass = secondClass ∧ firstMember = secondMember ∨
      Regrouped firstClass firstMember secondClass secondMember ∨
      Regrouped secondClass secondMember firstClass firstMember := by
  have texts : digestInput firstClass firstMember = digestInput secondClass secondMember ↔
      (joined firstClass firstMember).toList = (joined secondClass secondMember).toList := by
    rw [digestInput_eq_textBytes, digestInput_eq_textBytes, String.toList_inj]
    exact ⟨Wire.textBytes_injective, congrArg Wire.textBytes⟩
  rw [texts, toList_joined, toList_joined, append_cons_eq_iff, regrouped_iff, regrouped_iff,
    String.toList_inj, String.toList_inj]

/-- Nothing can be moved into a class or out of it unless one of its names has a separator. -/
theorem Regrouped.separated (regrouped : Regrouped firstClass firstMember secondClass secondMember) :
    separator ∈ firstClass.toList ∧ separator ∈ secondMember.toList := by
  obtain ⟨piece, rfl, rfl⟩ := regrouped
  simp [toList_joined]

theorem exists_joined {text : String} (separated : separator ∈ text.toList) :
    ∃ before after, text = joined before after := by
  obtain ⟨before, after, split⟩ := List.append_of_mem separated
  refine ⟨String.ofList before, String.ofList after, String.toList_inj.mp ?_⟩
  rw [split, toList_joined, String.toList_ofList, String.toList_ofList]

theorem length_joined (className member : String) :
    (joined className member).length = className.length + member.length + 1 := by
  simp [joined]
  omega

/-- A member is digested like no other exactly if neither its class nor its name has a separator. -/
theorem digested_alone_iff (className member : String) :
    (∀ otherClass otherMember, digestInput otherClass otherMember = digestInput className member →
        otherClass = className ∧ otherMember = member) ↔
      separator ∉ className.toList ∧ separator ∉ member.toList := by
  constructor
  · intro alone
    constructor
    · intro separated
      obtain ⟨before, piece, rfl⟩ := exists_joined separated
      have same := alone before (joined piece member)
        (digestInput_eq_iff.mpr (.inr (.inr ⟨piece, rfl, rfl⟩)))
      have lengths := congrArg String.length same.1
      rw [length_joined] at lengths
      omega
    · intro separated
      obtain ⟨piece, after, rfl⟩ := exists_joined separated
      have same := alone (joined className piece) after
        (digestInput_eq_iff.mpr (.inr (.inl ⟨piece, rfl, rfl⟩)))
      have lengths := congrArg String.length same.2
      rw [length_joined] at lengths
      omega
  · rintro ⟨plainClass, plainMember⟩ otherClass otherMember same
    rcases digestInput_eq_iff.mp same with equal | fromOther | fromOwn
    · exact equal
    · exact absurd fromOther.separated.2 plainMember
    · exact absurd fromOwn.separated.1 plainClass

end Tag

namespace Request

/-- The name under which a request is digested; requests without a member have the empty name. -/
def memberName (request : Request) : String :=
  request.member?.getD ""

theorem identity_eq_iff {first second : Request} :
    first.identity = second.identity ↔
      first.className = second.className ∧ first.memberName = second.memberName ∨
      Tag.Regrouped first.className first.memberName second.className second.memberName ∨
      Tag.Regrouped second.className second.memberName first.className first.memberName :=
  Tag.digestInput_eq_iff

/-- Two members are digested alike exactly if they are the same, or if a piece between separators has gone
from the class of one to the name of the other. -/
theorem digested_alike_iff_regrouped (digest : List UInt8 → UInt32) :
    (∀ firstClass firstMember secondClass secondMember,
      Tag.digestInput firstClass firstMember = Tag.digestInput secondClass secondMember ↔
        firstClass = secondClass ∧ firstMember = secondMember ∨
        Tag.Regrouped firstClass firstMember secondClass secondMember ∨
        Tag.Regrouped secondClass secondMember firstClass firstMember) ∧
    (∀ className member,
      (∀ otherClass otherMember,
          Tag.digestInput otherClass otherMember = Tag.digestInput className member →
            otherClass = className ∧ otherMember = member) ↔
        Tag.separator ∉ className.toList ∧ Tag.separator ∉ member.toList) ∧
    ∀ first second : Request,
      first.tagWith digest = second.tagWith digest ↔
        first.kind = second.kind ∧ first.handle = second.handle ∧
          ((first.className = second.className ∧ first.memberName = second.memberName) ∨
            (Tag.Regrouped first.className first.memberName second.className second.memberName ∨
              Tag.Regrouped second.className second.memberName first.className first.memberName) ∨
            first.identity ≠ second.identity ∧ digest first.identity = digest second.identity) := by
  refine ⟨fun _ _ _ _ => Tag.digestInput_eq_iff, Tag.digested_alone_iff, fun first second => ?_⟩
  rw [tagWith_eq_iff, ← or_assoc, ← identity_eq_iff]
  have collides : digest first.identity = digest second.identity ↔
      first.identity = second.identity ∨
        first.identity ≠ second.identity ∧ digest first.identity = digest second.identity := by
    by_cases same : first.identity = second.identity
    · simp [same]
    · simp [same]
  rw [← collides]

/-- The class `a` with a separator and `b` after it, and its method `c`, are digested like the class `a`
with a method whose name is `b`, a separator and `c`. The calls of both have the same tag, so that a reply
to the one goes to whoever waits for the other. -/
theorem regrouped_members_share_tag :
    let first := Request.invoke ⟨1⟩ "a\x00b" "c" [] []
    let second := Request.invoke ⟨1⟩ "a" "b\x00c" [] []
    Tag.digestInput first.className first.memberName =
        Tag.digestInput second.className second.memberName ∧
      first.className ≠ second.className ∧ first.memberName ≠ second.memberName ∧
      first.tag = second.tag := by
  decide +kernel

end Request

end RemoteObjects
