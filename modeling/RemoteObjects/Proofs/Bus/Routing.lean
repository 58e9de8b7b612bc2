import RemoteObjects.Proofs.Bus.Recorded
import RemoteObjects.Proofs.Wire.Primitive

namespace RemoteObjects

/-- The part of a digest that goes into a tag: its first four bytes, the least significant first. -/
def Digest.firstWord (digest : List UInt8) : UInt32 :=
  UInt32.ofNat (Wire.ofLittleEndian (digest.take 4))

theorem Digest.toNat_firstWord {digest : List UInt8} (long : 4 ≤ digest.length) :
    (Digest.firstWord digest).toNat = Wire.ofLittleEndian (digest.take 4) := by
  have within := Wire.ofLittleEndian_lt (digest.take 4)
  rw [List.length_take_of_le long] at within
  exact UInt32.toNat_ofNat_of_lt' within

theorem Digest.firstWord_eq_iff {first second : List UInt8} (long : 4 ≤ first.length)
    (alsoLong : 4 ≤ second.length) :
    Digest.firstWord first = Digest.firstWord second ↔ first.take 4 = second.take 4 := by
  constructor
  · intro same
    have numbers : Wire.ofLittleEndian (first.take 4) = Wire.ofLittleEndian (second.take 4) := by
      rw [← toNat_firstWord long, same, toNat_firstWord alsoLong]
    have one := Wire.littleEndian_ofLittleEndian (first.take 4)
    have other := Wire.littleEndian_ofLittleEndian (second.take 4)
    rw [List.length_take_of_le long] at one
    rw [List.length_take_of_le alsoLong] at other
    rw [← one, numbers, other]
  · intro same
    rw [Digest.firstWord, same, Digest.firstWord]

/-- A word holds all bits of a handle, whatever its sign. -/
theorem Handle.eq_of_toUInt32_eq {first second : Handle}
    (same : first.number.toUInt32 = second.number.toUInt32) : first = second :=
  congrArg (fun word => Handle.mk (Int32.ofUInt32 word)) same

namespace Request

/-- What the digest is taken of: the class and the member, which may be absent. -/
def identity (request : Request) : List UInt8 :=
  Tag.digestInput request.className (request.member?.getD "")

variable (digest : List UInt8 → UInt32)

theorem tagWith_eq_iff (first second : Request) :
    first.tagWith digest = second.tagWith digest ↔
      first.kind = second.kind ∧ first.handle = second.handle ∧
        digest first.identity = digest second.identity := by
  simp only [tagWith, Tag.requestWith, Tag.mk.injEq, identity]
  constructor
  · rintro ⟨mux, sec, typ⟩
    exact ⟨Kind.eq_of_cleared_code_eq typ, Handle.eq_of_toUInt32_eq mux, sec⟩
  · rintro ⟨kind, handle, sec⟩
    rw [kind, handle]
    exact ⟨rfl, sec, rfl⟩

theorem response_tagWith_eq_iff (first second : Request) :
    (first.tagWith digest).response = (second.tagWith digest).response ↔
      first.tagWith digest = second.tagWith digest :=
  ⟨Tag.response_injective (first.isRequest_tagWith digest) (second.isRequest_tagWith digest),
    congrArg Tag.response⟩

theorem response_tagWith_ne (first second : Request) :
    (first.tagWith digest).response ≠ second.tagWith digest := by
  intro same
  have request := second.isRequest_tagWith digest
  rw [← same, Tag.isRequest_response] at request
  cases request

/-- Whatever the digest, a tag tells the kind, the handle and the digested word of its request and nothing
else. Response tags are as different as request tags and never among them, and a bus goes by that. -/
theorem tags_tell_identity :
    (∀ request : Request, request.tag = request.tagWith Digest.blake3Word ∧
      request.responseTag = (request.tagWith Digest.blake3Word).response) ∧
    (∀ first second : Request,
      (first.tagWith digest = second.tagWith digest ↔
        first.kind = second.kind ∧ first.handle = second.handle ∧
          digest (Wire.textBytes first.className ++
              0 :: Wire.textBytes (first.member?.getD "")) =
            digest (Wire.textBytes second.className ++
              0 :: Wire.textBytes (second.member?.getD ""))) ∧
      ((first.tagWith digest).response = (second.tagWith digest).response ↔
        first.tagWith digest = second.tagWith digest) ∧
      (first.tagWith digest).response ≠ second.tagWith digest) ∧
    (∀ hash : List UInt8 → Vector UInt8 32,
      (∀ input, digest input = Digest.firstWord (hash input).toList) →
        ∀ one other, digest one = digest other ↔
          (hash one).toList.take 4 = (hash other).toList.take 4) ∧
    (∀ handle className types arguments otherTypes otherArguments,
      (construct handle className types arguments).tagWith digest =
        (construct handle className otherTypes otherArguments).tagWith digest) ∧
    (∀ handle className method types arguments otherTypes otherArguments,
      (invoke handle className method types arguments).tagWith digest =
        (invoke handle className method otherTypes otherArguments).tagWith digest) ∧
    (∀ handle className name mode value scope otherValue otherScope,
      (field handle className name value mode scope).tagWith digest =
        (field handle className name otherValue mode otherScope).tagWith digest) ∧
    ∀ bus : Bus, bus.closed = false → ∀ (request : Request) (payload : List UInt8),
      let asked : Frame := ⟨request.tagWith digest, payload⟩
      let answer : Frame := ⟨(request.tagWith digest).response, payload⟩
      (bus.publish asked).result = .ok () ∧
        (bus.publish asked).state = { bus with queue := bus.queue ++ [asked] } ∧
        (bus.publish answer).result = .ok () ∧
        (bus.publish answer).state.queue = bus.queue ∧
        ∀ id, (bus.publish answer).state.subscriptions.find? id =
          (bus.subscriptions.find? id).map fun subscription =>
            { tag := subscription.tag
              buffer :=
                if subscription.tag = answer.tag then subscription.buffer ++ [answer]
                else subscription.buffer } := by
  refine ⟨fun _ => ⟨rfl, rfl⟩, ?_, ?_, fun _ _ _ _ _ _ => rfl, fun _ _ _ _ _ _ _ => rfl, ?_, ?_⟩
  · intro first second
    exact ⟨tagWith_eq_iff digest first second, response_tagWith_eq_iff digest first second,
      response_tagWith_ne digest first second⟩
  · intro hash word one other
    rw [word one, word other]
    exact Digest.firstWord_eq_iff (by simp) (by simp)
  · intro handle className name mode value scope otherValue otherScope
    cases mode <;> rfl
  · intro bus isOpen request payload asked answer
    obtain ⟨queued, accepted⟩ := Bus.publish_request isOpen
      (show asked.tag.isRequest = true from request.isRequest_tagWith digest)
    obtain ⟨delivered, sent⟩ := Bus.publish_response isOpen
      (show answer.tag.isRequest = false from Tag.isRequest_response _)
    rw [delivered]
    refine ⟨accepted, queued, sent, rfl, fun id => ?_⟩
    rw [bus.find?_deliver answer]
    refine congrArg (Option.map · _) (funext fun subscription => ?_)
    unfold Bus.Subscription.receive
    split <;> rfl

/-- A static read and a static write of one field, the same write with another value, and the digest of
the library. -/
example :
    (readStaticField "demo.Foo" "x").tag ≠ (writeStaticField "demo.Foo" "x" .null).tag ∧
      (writeStaticField "demo.Foo" "x" .null).tag =
        (writeStaticField "demo.Foo" "x" (.i32 1)).tag := by
  decide +kernel

end Request

end RemoteObjects
