/-!
# Percent-encoding

A character outside a safe set is written as the `%XX` escapes of its UTF-8 bytes,
upper-case hex. ASCII letters, digits and `_ . - ~` are always safe; a caller adds more.
In form encoding a space becomes `+` and `+` itself is escaped, so that a form reader
can turn `+` back into a space first.
-/

namespace TransitKit.Url

/-- The UTF-8 bytes of a character. -/
def utf8Bytes (c : Char) : List Nat :=
  let n := c.toNat
  if n < 0x80 then [n]
  else if n < 0x800 then [0xC0 + n / 64, 0x80 + n % 64]
  else if n < 0x10000 then [0xE0 + n / 4096, 0x80 + n / 64 % 64, 0x80 + n % 64]
  else [0xF0 + n / 262144, 0x80 + n / 4096 % 64, 0x80 + n / 64 % 64, 0x80 + n % 64]

/-- An upper-case hexadecimal digit. -/
def hexDigitUpper (n : Nat) : Char :=
  if n < 10 then Char.ofNat (48 + n) else Char.ofNat (55 + n)

/-- The escape `%XX` of one byte. -/
def escapeByte (b : Nat) : List Char := ['%', hexDigitUpper (b / 16 % 16), hexDigitUpper (b % 16)]

/-- The characters that are safe everywhere. -/
def isAlwaysSafe (c : Char) : Bool :=
  (c.toNat < 128 && c.isAlphanum) || c == '_' || c == '.' || c == '-' || c == '~'

/-- Escapes every character for which `safe` fails. -/
def encodeWhere (safe : Char → Bool) (s : String) : String :=
  String.ofList (s.toList.flatMap fun c =>
    if safe c then [c] else (utf8Bytes c).flatMap escapeByte)

/-- Escapes everything outside the always-safe characters and `extra`. -/
def quote (s : String) (extra : List Char := ['/']) : String :=
  encodeWhere (fun c => isAlwaysSafe c || extra.contains c) s

/-- Form encoding of one name or value: spaces become `+`. -/
def quotePlus (s : String) : String :=
  String.ofList (s.toList.flatMap fun c =>
    if c == ' ' then ['+']
    else if isAlwaysSafe c then [c]
    else (utf8Bytes c).flatMap escapeByte)

/-- Name-value pairs in form encoding, joined by `&`. -/
def formEncode (pairs : List (String × String)) : String :=
  "&".intercalate (pairs.map fun (k, v) => quotePlus k ++ "=" ++ quotePlus v)

end TransitKit.Url
