import TransitKit.Digest.Sha256

/-!
# SHA-1

The SHA-1 digest of a byte string (FIPS 180-4), as version control uses it to name the
contents of files. The message is padded as for SHA-256; each block is expanded into 80
words, each the one-bit left rotation of the exclusive or of four earlier ones, and
mixed into five words of state by 80 rounds in four groups of twenty.
-/

namespace TransitKit.Digest

/-- Rotation of a word to the left. -/
def rotl (x : UInt32) (n : UInt32) : UInt32 := (x <<< n) ||| (x >>> (32 - n))

/-- The 80 words a block expands to. -/
def schedule1 (block : List UInt8) : Array UInt32 :=
  let b := block.toArray
  let first := ((List.range 16).map fun i => wordAt b (4 * i)).toArray
  (List.range 64).foldl (fun w i =>
    let t := i + 16
    w.push (rotl (w.getD (t - 3) 0 ^^^ w.getD (t - 8) 0 ^^^ w.getD (t - 14) 0 ^^^ w.getD (t - 16) 0) 1))
    first

/-- The mixing function and constant of a round. -/
def roundMix (i : Nat) (b c d : UInt32) : UInt32 × UInt32 :=
  if i < 20 then ((b &&& c) ||| ((~~~b) &&& d), 0x5A827999)
  else if i < 40 then (b ^^^ c ^^^ d, 0x6ED9EBA1)
  else if i < 60 then ((b &&& c) ||| (b &&& d) ||| (c &&& d), 0x8F1BBCDC)
  else (b ^^^ c ^^^ d, 0xCA62C1D6)

/-- Mixes one block into the state. -/
def compress1 (state : Array UInt32) (block : List UInt8) : Array UInt32 :=
  let w := schedule1 block
  let v (i : Nat) := state.getD i 0
  let (a, b, c, d, e) := (List.range 80).foldl (fun (a, b, c, d, e) i =>
    let (f, k) := roundMix i b c d
    (rotl a 5 + f + e + k + w.getD i 0, a, rotl b 30, c, d)) (v 0, v 1, v 2, v 3, v 4)
  #[v 0 + a, v 1 + b, v 2 + c, v 3 + d, v 4 + e]

/-- The SHA-1 digest of bytes. -/
def sha1 (msg : List UInt8) : List UInt8 :=
  wordBytes ((blocks (padMessage msg)).foldl compress1
    #[0x67452301, 0xEFCDAB89, 0x98BADCFE, 0x10325476, 0xC3D2E1F0])

/-- The name version control gives to the contents of a file. -/
def blobId (contents : String) : String :=
  let bytes := contents.toUTF8.toList
  hexBytes (sha1 (("blob " ++ toString bytes.length).toUTF8.toList ++ [0] ++ bytes))

end TransitKit.Digest
