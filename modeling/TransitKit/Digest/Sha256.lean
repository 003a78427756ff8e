/-!
# SHA-256

The SHA-256 digest of a byte string (FIPS 180-4). The message is padded with a one bit,
zeros and its length in bits as a 64-bit big-endian number, up to a multiple of 64
bytes; each block of 64 bytes is expanded into 64 words and mixed into eight words of
state by 64 rounds. The digest is the final state, big-endian.
-/

namespace TransitKit.Digest

/-- The round constants: the first 32 bits of the fractional parts of the cube roots of
the first 64 primes. -/
def roundConstants : Array UInt32 := #[
  0x428a2f98, 0x71374491, 0xb5c0fbcf, 0xe9b5dba5, 0x3956c25b, 0x59f111f1, 0x923f82a4, 0xab1c5ed5,
  0xd807aa98, 0x12835b01, 0x243185be, 0x550c7dc3, 0x72be5d74, 0x80deb1fe, 0x9bdc06a7, 0xc19bf174,
  0xe49b69c1, 0xefbe4786, 0x0fc19dc6, 0x240ca1cc, 0x2de92c6f, 0x4a7484aa, 0x5cb0a9dc, 0x76f988da,
  0x983e5152, 0xa831c66d, 0xb00327c8, 0xbf597fc7, 0xc6e00bf3, 0xd5a79147, 0x06ca6351, 0x14292967,
  0x27b70a85, 0x2e1b2138, 0x4d2c6dfc, 0x53380d13, 0x650a7354, 0x766a0abb, 0x81c2c92e, 0x92722c85,
  0xa2bfe8a1, 0xa81a664b, 0xc24b8b70, 0xc76c51a3, 0xd192e819, 0xd6990624, 0xf40e3585, 0x106aa070,
  0x19a4c116, 0x1e376c08, 0x2748774c, 0x34b0bcb5, 0x391c0cb3, 0x4ed8aa4a, 0x5b9cca4f, 0x682e6ff3,
  0x748f82ee, 0x78a5636f, 0x84c87814, 0x8cc70208, 0x90befffa, 0xa4506ceb, 0xbef9a3f7, 0xc67178f2]

/-- The initial state: the first 32 bits of the fractional parts of the square roots of
the first eight primes. -/
def initialState : Array UInt32 :=
  #[0x6a09e667, 0xbb67ae85, 0x3c6ef372, 0xa54ff53a, 0x510e527f, 0x9b05688c, 0x1f83d9ab, 0x5be0cd19]

/-- Rotation of a word to the right. -/
def rotr (x : UInt32) (n : UInt32) : UInt32 := (x >>> n) ||| (x <<< (32 - n))

/-- A message padded to whole blocks of 64 bytes: a one bit, zeros, and the length in
bits as 64 bits big-endian. -/
def padMessage (msg : List UInt8) : List UInt8 :=
  let len := msg.length
  let zeros := (119 - len % 64) % 64
  let bits := len * 8
  msg ++ [0x80] ++ List.replicate zeros 0 ++
    (List.range 8).reverse.map fun i => (bits / Nat.pow 2 (8 * i) % 256).toUInt8

/-- The blocks of 64 bytes of a padded message. -/
def blocks (bytes : List UInt8) : List (List UInt8) :=
  (List.range (bytes.length / 64)).map fun i => (bytes.drop (64 * i)).take 64

/-- The big-endian word at a byte position of a block. -/
def wordAt (block : Array UInt8) (i : Nat) : UInt32 :=
  (block.getD i 0).toUInt32 <<< 24 ||| (block.getD (i + 1) 0).toUInt32 <<< 16 |||
    (block.getD (i + 2) 0).toUInt32 <<< 8 ||| (block.getD (i + 3) 0).toUInt32

/-- The 64 words a block expands to. -/
def schedule (block : List UInt8) : Array UInt32 :=
  let b := block.toArray
  let first := ((List.range 16).map fun i => wordAt b (4 * i)).toArray
  (List.range 48).foldl (fun w i =>
    let t := i + 16
    let x := w.getD (t - 15) 0
    let y := w.getD (t - 2) 0
    let s0 := rotr x 7 ^^^ rotr x 18 ^^^ (x >>> 3)
    let s1 := rotr y 17 ^^^ rotr y 19 ^^^ (y >>> 10)
    w.push (w.getD (t - 16) 0 + s0 + w.getD (t - 7) 0 + s1)) first

/-- The eight working words of a round. -/
structure Working where
  a : UInt32
  b : UInt32
  c : UInt32
  d : UInt32
  e : UInt32
  f : UInt32
  g : UInt32
  h : UInt32

/-- One round with its constant and word. -/
def round (s : Working) (k w : UInt32) : Working :=
  let s1 := rotr s.e 6 ^^^ rotr s.e 11 ^^^ rotr s.e 25
  let ch := (s.e &&& s.f) ^^^ ((~~~s.e) &&& s.g)
  let t1 := s.h + s1 + ch + k + w
  let s0 := rotr s.a 2 ^^^ rotr s.a 13 ^^^ rotr s.a 22
  let maj := (s.a &&& s.b) ^^^ (s.a &&& s.c) ^^^ (s.b &&& s.c)
  ⟨t1 + s0 + maj, s.a, s.b, s.c, s.d + t1, s.e, s.f, s.g⟩

/-- Mixes one block into the state. -/
def compress (state : Array UInt32) (block : List UInt8) : Array UInt32 :=
  let w := schedule block
  let v (i : Nat) := state.getD i 0
  let s := (List.range 64).foldl (fun s i => round s (roundConstants.getD i 0) (w.getD i 0))
    ⟨v 0, v 1, v 2, v 3, v 4, v 5, v 6, v 7⟩
  #[v 0 + s.a, v 1 + s.b, v 2 + s.c, v 3 + s.d, v 4 + s.e, v 5 + s.f, v 6 + s.g, v 7 + s.h]

/-- The bytes of words, big-endian. -/
def wordBytes (ws : Array UInt32) : List UInt8 :=
  ws.toList.flatMap fun (w : UInt32) => [(w >>> 24).toUInt8, (w >>> 16).toUInt8, (w >>> 8).toUInt8, w.toUInt8]

/-- The SHA-256 digest of bytes. -/
def sha256 (msg : List UInt8) : List UInt8 :=
  wordBytes ((blocks (padMessage msg)).foldl compress initialState)

/-- Bytes in lower-case hexadecimal, two digits each. -/
def hexBytes (bs : List UInt8) : String :=
  let digit (n : Nat) : Char := if n < 10 then Char.ofNat (48 + n) else Char.ofNat (87 + n)
  String.ofList (bs.flatMap fun b => [digit (b.toNat / 16), digit (b.toNat % 16)])

/-- The SHA-256 digest of a text's UTF-8 bytes, in hexadecimal. -/
def sha256Hex (s : String) : String := hexBytes (sha256 s.toUTF8.toList)

theorem padMessage_length (msg : List UInt8) : (padMessage msg).length % 64 = 0 := by
  simp only [padMessage, List.length_append, List.length_replicate, List.length_map,
    List.length_reverse, List.length_range, List.length_singleton]
  omega

end TransitKit.Digest
