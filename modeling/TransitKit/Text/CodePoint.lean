/-!
# Lone surrogates in texts

A JSON escape may name a surrogate code point (U+D800 to U+DFFF) that has no partner.
The text read then holds that lone surrogate as one character, is written back with
the same escape, and is quoted as `\udxxx`. A character cannot be a surrogate, so a
lone surrogate is kept as one of the last 2048 code points, U+10F800 to U+10FFFF, which
are private use and do not otherwise occur in the texts handled here: U+10F800 + k
stands for U+D800 + k.
-/

namespace TransitKit.Text

/-- The first code point that keeps a lone surrogate. -/
def surrogateBase : Nat := 0x10F800

/-- The character that keeps the lone surrogate `u` (between U+D800 and U+DFFF). -/
def loneSurrogate (u : Nat) : Char := Char.ofNat (surrogateBase + (u - 0xD800))

/-- The code point a character stands for: its own, or the surrogate it keeps. -/
def codePoint (c : Char) : Nat :=
  if c.toNat ≥ surrogateBase then 0xD800 + (c.toNat - surrogateBase) else c.toNat

/-- The character that keeps a lone surrogate stands for it. -/
theorem codePoint_loneSurrogate {u : Nat} (hlo : 0xD800 ≤ u) (hhi : u ≤ 0xDFFF) :
    codePoint (loneSurrogate u) = u := by
  have hvalid : (surrogateBase + (u - 0xD800)).isValidChar := by
    unfold Nat.isValidChar surrogateBase
    omega
  have hnat : (loneSurrogate u).toNat = surrogateBase + (u - 0xD800) := by
    have hc : (Char.ofNatAux _ hvalid).toNat = surrogateBase + (u - 0xD800) := rfl
    rw [loneSurrogate, ← hc, Char.ofNat_toNat]
  rw [codePoint, hnat, if_pos (Nat.le_add_right _ _)]
  omega

example : codePoint (loneSurrogate 0xD800) = 0xD800 := by decide

end TransitKit.Text
