/-!
# SipHash-1-3 and the hash of a text

Hash tables of texts place each text by a 64-bit hash. The hash used is SipHash-1-3
with both keys zero, which is what a runtime computes when its hash randomization is
turned off, so the places (and with them the order in which a table yields its members)
are the same on every run.

The bytes hashed are the text's code units in the narrowest fixed width that holds all
of its characters: one byte each when every character is below 256, two little-endian
bytes each when every one is below 65536, four otherwise. The empty text hashes to 0,
and a hash of all ones (which stands for an error) becomes all ones but the last bit.
-/

namespace TransitKit.Digest

/-- Rotation of a 64-bit word to the left. -/
def rotl64 (x : UInt64) (n : UInt64) : UInt64 := (x <<< n) ||| (x >>> (64 - n))

/-- The four words of SipHash's state. -/
structure SipState where
  v0 : UInt64
  v1 : UInt64
  v2 : UInt64
  v3 : UInt64

/-- One SipRound: two half rounds of additions, rotations and exclusive ors. -/
def SipState.round (s : SipState) : SipState :=
  let v0 := s.v0 + s.v1
  let v2 := s.v2 + s.v3
  let v1 := rotl64 s.v1 13 ^^^ v0
  let v3 := rotl64 s.v3 16 ^^^ v2
  let v0 := rotl64 v0 32
  let v2 := v2 + v1
  let v0 := v0 + v3
  let v1 := rotl64 v1 17 ^^^ v2
  let v3 := rotl64 v3 21 ^^^ v0
  let v2 := rotl64 v2 32
  ⟨v0, v1, v2, v3⟩

/-- Mixes one message word in with a single round, as SipHash-1-3 compresses. -/
def SipState.absorb (s : SipState) (m : UInt64) : SipState :=
  let t := { s with v3 := s.v3 ^^^ m }.round
  { t with v0 := t.v0 ^^^ m }

/-- The little-endian word of up to eight bytes; missing bytes are zero. -/
def wordLE (bytes : List UInt8) : UInt64 :=
  bytes.foldr (fun b acc => (acc <<< 8) ||| b.toUInt64) 0

/-- The full eight-byte words of a message and the bytes left over. -/
def chunks8 (bytes : List UInt8) : List UInt64 × List UInt8 :=
  let n := bytes.length / 8
  ((List.range n).map fun i => wordLE ((bytes.drop (8 * i)).take 8), bytes.drop (8 * n))

/-- SipHash-1-3 of bytes with both keys zero. The last word holds the left-over bytes
and, in its top byte, the length of the message. -/
def sipHash13 (bytes : List UInt8) : UInt64 :=
  let start : SipState := ⟨0x736f6d6570736575, 0x646f72616e646f6d, 0x6c7967656e657261,
    0x7465646279746573⟩
  let (words, rest) := chunks8 bytes
  let s := words.foldl SipState.absorb start
  let s := s.absorb (wordLE rest ||| (bytes.length.toUInt64 <<< 56))
  let s := { s with v2 := s.v2 ^^^ 0xff }.round.round.round
  (s.v0 ^^^ s.v1) ^^^ (s.v2 ^^^ s.v3)

/-- The code units of a text as little-endian bytes of a given width. -/
def unitBytes (width : Nat) (s : String) : List UInt8 :=
  s.toList.flatMap fun c => (List.range width).map fun i => (c.toNat / Nat.pow 256 i % 256).toUInt8

/-- The hash of a text: SipHash-1-3 of its code units in the narrowest width. -/
def textHash (s : String) : UInt64 :=
  if s.isEmpty then 0
  else
    let top := s.toList.foldl (fun m c => max m c.toNat) 0
    let width := if top < 256 then 1 else if top < 65536 then 2 else 4
    let h := sipHash13 (unitBytes width s)
    if h == 0xffffffffffffffff then 0xfffffffffffffffe else h

/-- A text never hashes to the all-ones word, which stands for a failure. -/
theorem textHash_ne_max (s : String) : textHash s ≠ 0xffffffffffffffff := by
  unfold textHash
  split
  · decide
  · dsimp only
    generalize sipHash13 _ = h
    split
    · decide
    · rename_i hne
      simpa using hne

example : textHash "" = 0 := rfl

end TransitKit.Digest
