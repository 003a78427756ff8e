import TransitKit.Url.Percent
import TransitKit.Text.Pieces

/-!
# Escaping that keeps existing escapes

Before a URL goes on the wire, characters that may not stand in a part are written as
`%XX` escapes of their UTF-8 bytes. Text that is already an escape (`%` and two hex
digits) is kept as it is, so escaping twice changes nothing.
-/

namespace TransitKit.Url

/-- An ASCII hexadecimal digit. -/
def isHexChar (c : Char) : Bool :=
  c.isDigit || ('a' ≤ c && c ≤ 'f') || ('A' ≤ c && c ≤ 'F')

/-- The characters that are always safe: ASCII letters, digits and `- . _ ~`. -/
def isUnreserved (c : Char) : Bool :=
  (c.toNat < 128 && c.isAlphanum) || c == '-' || c == '.' || c == '_' || c == '~'

/-- Escapes every character for which `safe` fails, keeping `%XX` escapes. -/
def escapeKeeping (safe : Char → Bool) : List Char → List Char
  | '%' :: a :: b :: rest =>
    if isHexChar a && isHexChar b then '%' :: a :: b :: escapeKeeping safe rest
    else (if safe '%' then ['%'] else escapeByte 0x25) ++ escapeKeeping safe (a :: b :: rest)
  | c :: rest =>
    (if safe c then [c] else (utf8Bytes c).flatMap escapeByte) ++ escapeKeeping safe rest
  | [] => []

/-- Removes dot segments of a path: `.` goes, and `..` removes the segment before it
but never the empty segment in front of a leading `/`. -/
def removeDotSegments (path : String) : String :=
  let segs := Text.splitAt '/' path
  if !segs.contains "." && !segs.contains ".." then path
  else
    let out := segs.foldl (fun acc s =>
      if s == "." then acc
      else if s == ".." then (if acc.isEmpty || acc == [""] then acc else acc.dropLast)
      else acc ++ [s]) []
    "/".intercalate out

theorem escapeKeeping_nil (safe : Char → Bool) : escapeKeeping safe [] = [] := by
  simp [escapeKeeping]

end TransitKit.Url
