/-! The digest of a byte sequence in the default mode of BLAKE3. -/

namespace RemoteObjects.Digest

/-- Eight words chain one compression to the next. -/
abbrev Chain := List UInt32

def initial : Chain := [
  0x6A09E667, 0xBB67AE85, 0x3C6EF372, 0xA54FF53A, 0x510E527F, 0x9B05688C, 0x1F83D9AB, 0x5BE0CD19]

def chunkStart : UInt32 := 1
def chunkEnd : UInt32 := 2
def parentNode : UInt32 := 4
def rootNode : UInt32 := 8

def blockLength : Nat := 64
def chunkLength : Nat := 1024

def rotateRight (word count : UInt32) : UInt32 :=
  (word >>> count) ||| (word <<< (32 - count))

/-- Four words of the state are mixed with two words of the message. -/
def mixWords (a b c d x y : UInt32) : UInt32 × UInt32 × UInt32 × UInt32 :=
  let a := a + b + x
  let d := rotateRight (d ^^^ a) 16
  let c := c + d
  let b := rotateRight (b ^^^ c) 12
  let a := a + b + y
  let d := rotateRight (d ^^^ a) 8
  let c := c + d
  let b := rotateRight (b ^^^ c) 7
  (a, b, c, d)

/-- The state of a compression is a four by four matrix of words. -/
structure State where
  row0 : UInt32 × UInt32 × UInt32 × UInt32
  row1 : UInt32 × UInt32 × UInt32 × UInt32
  row2 : UInt32 × UInt32 × UInt32 × UInt32
  row3 : UInt32 × UInt32 × UInt32 × UInt32

/-- Missing words of the message are zero. -/
def wordAt (message : List UInt32) (index : Nat) : UInt32 :=
  message.getD index 0

/-- One round mixes the columns and then the diagonals. -/
def State.round (state : State) (message : List UInt32) : State :=
  let (s0, s1, s2, s3) := state.row0
  let (s4, s5, s6, s7) := state.row1
  let (s8, s9, s10, s11) := state.row2
  let (s12, s13, s14, s15) := state.row3
  let m := wordAt message
  let (s0, s4, s8, s12) := mixWords s0 s4 s8 s12 (m 0) (m 1)
  let (s1, s5, s9, s13) := mixWords s1 s5 s9 s13 (m 2) (m 3)
  let (s2, s6, s10, s14) := mixWords s2 s6 s10 s14 (m 4) (m 5)
  let (s3, s7, s11, s15) := mixWords s3 s7 s11 s15 (m 6) (m 7)
  let (s0, s5, s10, s15) := mixWords s0 s5 s10 s15 (m 8) (m 9)
  let (s1, s6, s11, s12) := mixWords s1 s6 s11 s12 (m 10) (m 11)
  let (s2, s7, s8, s13) := mixWords s2 s7 s8 s13 (m 12) (m 13)
  let (s3, s4, s9, s14) := mixWords s3 s4 s9 s14 (m 14) (m 15)
  ⟨(s0, s1, s2, s3), (s4, s5, s6, s7), (s8, s9, s10, s11), (s12, s13, s14, s15)⟩

/-- The words of the message change places between rounds. -/
def schedule : List Nat := [2, 6, 3, 10, 7, 0, 4, 13, 1, 11, 12, 5, 9, 14, 15, 8]

def permute (message : List UInt32) : List UInt32 :=
  schedule.map (wordAt message)

def State.rounds : Nat → State → List UInt32 → State
  | 0, state, _ => state
  | count + 1, state, message => State.rounds count (state.round message) (permute message)

/-- The first and the second half of the final state are joined into the next chain. -/
def compress (chain : Chain) (message : List UInt32) (counter : UInt64) (size flags : UInt32) :
    Chain :=
  let c := wordAt chain
  let i := wordAt initial
  let state := State.rounds 7
    { row0 := (c 0, c 1, c 2, c 3)
      row1 := (c 4, c 5, c 6, c 7)
      row2 := (i 0, i 1, i 2, i 3)
      row3 := (counter.toUInt32, (counter >>> 32).toUInt32, size, flags) } message
  let (s0, s1, s2, s3) := state.row0
  let (s4, s5, s6, s7) := state.row1
  let (s8, s9, s10, s11) := state.row2
  let (s12, s13, s14, s15) := state.row3
  [s0 ^^^ s8, s1 ^^^ s9, s2 ^^^ s10, s3 ^^^ s11, s4 ^^^ s12, s5 ^^^ s13, s6 ^^^ s14, s7 ^^^ s15]

/-- Words are read from their least significant byte; missing bytes are zero. -/
def words : Nat → List UInt8 → List UInt32
  | 0, _ => []
  | count + 1, bytes =>
      let byte (index : Nat) : UInt32 := (bytes.getD index 0).toUInt32
      (byte 0 ||| byte 1 <<< 8 ||| byte 2 <<< 16 ||| byte 3 <<< 24) :: words count (bytes.drop 4)

/-- The pieces have the given size, the last one possibly less; empty input is one empty piece. -/
def pieces (size : Nat) : Nat → List UInt8 → List (List UInt8)
  | 0, bytes => [bytes]
  | more + 1, bytes =>
      if bytes.length ≤ size then [bytes]
      else bytes.take size :: pieces size more (bytes.drop size)

/-- The blocks of a chunk are compressed in order; the last one carries the closing flags. -/
def compressBlocks (counter : UInt64) (closing : UInt32) :
    UInt32 → Chain → List (List UInt8) → Chain
  | _, chain, [] => chain
  | opening, chain, [block] =>
      compress chain (words 16 block) counter (UInt32.ofNat block.length)
        (opening ||| chunkEnd ||| closing)
  | opening, chain, block :: blocks =>
      compressBlocks counter closing 0
        (compress chain (words 16 block) counter (UInt32.ofNat block.length) opening) blocks

def compressChunk (closing : UInt32) (counter : Nat) (chunk : List UInt8) : Chain :=
  compressBlocks (UInt64.ofNat counter) closing chunkStart initial
    (pieces blockLength chunk.length chunk)

def compressParent (closing : UInt32) (left right : Chain) : Chain :=
  compress initial (left ++ right) 0 (UInt32.ofNat blockLength) (parentNode ||| closing)

/-- Neighbours are joined; a node without a partner moves up unchanged. -/
def joinPairs : List Chain → List Chain
  | left :: right :: rest => compressParent 0 left right :: joinPairs rest
  | nodes => nodes

/-- The last join carries the root flag. -/
def joinAll : Nat → List Chain → Chain
  | _, [left, right] => compressParent rootNode left right
  | 0, _ => initial
  | levels + 1, nodes => joinAll levels (joinPairs nodes)

/-- A single chunk is its own root. -/
def blake3 (bytes : List UInt8) : Chain :=
  match pieces chunkLength bytes.length bytes with
  | [chunk] => compressChunk rootNode 0 chunk
  | chunks =>
      joinAll chunks.length
        (chunks.zipIdx.map fun (chunk, counter) => compressChunk 0 counter chunk)

/-- The first word of the digest, read from its least significant byte. -/
def blake3Word (bytes : List UInt8) : UInt32 :=
  wordAt (blake3 bytes) 0

end RemoteObjects.Digest
