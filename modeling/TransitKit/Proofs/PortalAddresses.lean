import Mathlib
import TransitKit.Portal.Crawler
import TransitKit.Proofs.UrlSplitting
import TransitKit.Proofs.PortalRuns
import TransitKit.Proofs.JsonReadBack

/-!
# The addresses of plain portal requests

A request to the portal is prepared as the plain client prepares any URL: read by RFC 3986,
escaped, normalised and requoted. For the addresses the crawler builds none of that changes
anything: an `https` address with a plain host, path and query is sent as it is written, so a
request goes to its address followed by the encoded parameters. A network that serves the pages
of one API as JSON text answers every request for a page with the page's value.
-/

namespace TransitKit.Url

open Text

/-! ### Plain characters -/

/-- Characters of a plain host name: lower-case letters, digits, `-` and `.`. -/
def hostChar (c : Char) : Bool := c.isLower || c.isDigit || c == '-' || c == '.'

/-- Characters of a plain path: letters, digits, `-`, `_`, `~` and `/`. -/
def plainPathChar (c : Char) : Bool :=
  (c.toNat < 128 && c.isAlphanum) || c == '-' || c == '_' || c == '~' || c == '/'

/-- Characters of a plain query: the unreserved ones, `=`, `&` and the `%` of an escape. -/
def plainQueryChar (c : Char) : Bool := isUnreserved c || c == '=' || c == '&' || c == '%'

/-- A plain host name: plain characters, the first not a `.`. -/
structure PlainHost (cs : List Char) : Prop where
  chars : ∀ c ∈ cs, hostChar c = true
  head : ∃ c rest, cs = c :: rest ∧ c ≠ '.'

/-- A plain path: plain characters after a first `/`. -/
structure PlainPathChars (cs : List Char) : Prop where
  head : cs.head? = some '/'
  chars : ∀ c ∈ cs, plainPathChar c = true

/-- A plain query: plain characters, at least one, whose escapes are already in upper case and
stand for characters that the requoting leaves escaped. -/
structure PlainQuery (cs : List Char) : Prop where
  nonempty : cs ≠ []
  chars : ∀ c ∈ cs, plainQueryChar c = true
  escapes : upperEscapes cs = (cs, cs.count '%')
  unquoted : unquoteUnreserved cs = some cs

instance (cs : List Char) : Decidable (PlainQuery cs) :=
  decidable_of_iff (cs ≠ [] ∧ cs.all plainQueryChar = true ∧ upperEscapes cs = (cs, cs.count '%') ∧
      unquoteUnreserved cs = some cs)
    ⟨fun ⟨hne, hall, hesc, hun⟩ => ⟨hne, List.all_eq_true.mp hall, hesc, hun⟩,
      fun h => ⟨h.nonempty, List.all_eq_true.mpr h.chars, h.escapes, h.unquoted⟩⟩

/-- A plain host character is a lower-case letter, a digit, `-` or `.`, by code. -/
theorem hostChar_toNat {c : Char} (h : hostChar c = true) :
    (97 ≤ c.toNat ∧ c.toNat ≤ 122) ∨ (48 ≤ c.toNat ∧ c.toNat ≤ 57) ∨ c = '-' ∨ c = '.' := by
  simp only [hostChar, Char.isLower, Char.isDigit, Bool.or_eq_true, Bool.and_eq_true,
    decide_eq_true_eq, beq_iff_eq, ge_iff_le, UInt32.le_iff_toNat_le, Char.toNat_val] at h
  rcases h with ((h | h) | h) | h
  · exact .inl h
  · exact .inr (.inl h)
  · exact .inr (.inr (.inl h))
  · exact .inr (.inr (.inr h))

/-- A character outside a list of characters that a class leaves out. -/
theorem not_mem_of_class {p : Char → Bool} {c : Char} {ds : List Char} (h : p c = true)
    (hds : ∀ d ∈ ds, p d = false) : c ∉ ds := fun hc => by
  rw [hds c hc] at h
  cases h

theorem hostChar_facts {c : Char} (h : hostChar c = true) :
    c.toNat < 128 ∧ c.toLower = c ∧ isUnreserved c = true ∧
      c ∉ ['\\', '/', '?', '#', '@', ':', '%', '[', ']', '*'] := by
  refine ⟨?_, ?_, ?_, not_mem_of_class h ?_⟩
  · rcases hostChar_toNat h with h | h | rfl | rfl <;> first | omega | decide
  · rcases hostChar_toNat h with h | h | rfl | rfl
    · simp only [Char.toLower, ge_iff_le, UInt32.le_iff_toNat_le, Char.toNat_val, Char.reduceToNat]
      rw [dif_neg (by omega)]
    · simp only [Char.toLower, ge_iff_le, UInt32.le_iff_toNat_le, Char.toNat_val, Char.reduceToNat]
      rw [dif_neg (by omega)]
    · decide
    · decide
  · rcases hostChar_toNat h with h | h | rfl | rfl
    · simp only [isUnreserved, Char.isAlphanum, Char.isAlpha, Char.isLower, Bool.or_eq_true,
        Bool.and_eq_true, decide_eq_true_eq, ge_iff_le, UInt32.le_iff_toNat_le, Char.toNat_val,
        Char.reduceToNat]
      omega
    · simp only [isUnreserved, Char.isAlphanum, Char.isDigit, Bool.or_eq_true,
        Bool.and_eq_true, decide_eq_true_eq, ge_iff_le, UInt32.le_iff_toNat_le, Char.toNat_val,
        Char.reduceToNat]
      omega
    · decide
    · decide
  · simp only [List.forall_mem_cons, List.not_mem_nil, IsEmpty.forall_iff, implies_true, and_true]
    decide

theorem plainPathChar_facts {c : Char} (h : plainPathChar c = true) :
    c.toNat < 128 ∧ pathChar c = true ∧ requoteSafe true c = true ∧ c ∉ ['%', '?', '#', '.'] := by
  simp only [plainPathChar, Bool.or_eq_true, Bool.and_eq_true, decide_eq_true_eq, beq_iff_eq] at h
  rcases h with ((((⟨hlt, halnum⟩ | rfl) | rfl) | rfl) | rfl)
  · have hun : isUnreserved c = true := by simp [isUnreserved, hlt, halnum]
    refine ⟨hlt, by simp [pathChar, userinfoChar, hun], by simp [requoteSafe, hun],
      not_mem_of_class halnum ?_⟩
    simp only [List.forall_mem_cons, List.not_mem_nil, IsEmpty.forall_iff, implies_true, and_true]
    decide
  all_goals exact ⟨by decide, by decide, by decide, by simp⟩

theorem plainQueryChar_facts {c : Char} (h : plainQueryChar c = true) :
    c.toNat < 128 ∧ (queryChar c = true ∨ c = '%') ∧ requoteSafe true c = true ∧ c ≠ '#' := by
  simp only [plainQueryChar, Bool.or_eq_true, beq_iff_eq] at h
  rcases h with ((hun | rfl) | rfl) | rfl
  · have hlt : c.toNat < 128 := by
      simp only [isUnreserved, Bool.or_eq_true, Bool.and_eq_true, decide_eq_true_eq,
        beq_iff_eq] at hun
      rcases hun with ((((h | rfl) | rfl) | rfl) | rfl)
      · exact h.1
      all_goals decide
    refine ⟨hlt, .inl (by simp [queryChar, pathChar, userinfoChar, hun]),
      by simp [requoteSafe, hun], fun e => ?_⟩
    subst e
    exact absurd hun (by decide)
  all_goals exact ⟨by decide, by decide, by decide, by decide⟩

/-! ### Reading a plain address -/

variable {H P Q : List Char}

theorem hostChar_regName {c : Char} (h : hostChar c = true) : regNameChar c = true := by
  have hlist : "[]%:/?#".toList = ['[', ']', '%', ':', '/', '?', '#'] := rfl
  have hnot : c ∉ "[]%:/?#".toList := by
    rw [hlist]
    refine not_mem_of_class h ?_
    simp only [List.forall_mem_cons, List.not_mem_nil, IsEmpty.forall_iff, implies_true, and_true]
    decide
  unfold regNameChar
  cases hc : hasChar "[]%:/?#" c with
  | false => rfl
  | true => exact absurd ((hasChar_iff _ _).mp hc) hnot

/-- An address read by RFC 3986: `https`, the host after `//`, the path up to `?`, and the
query. -/
theorem read_plain (hH : PlainHost H) (hP : PlainPathChars P) (hQ : PlainQuery Q) :
    UriParts.read (['h', 't', 't', 'p', 's', ':', '/', '/'] ++ H ++ P ++ '?' :: Q) =
      ⟨some "https", some (String.ofList H), String.ofList P, some (String.ofList Q), none⟩ := by
  have hHd : ∀ c ∈ H, (c != '\\' && c != '/' && c != '?' && c != '#') = true := by
    intro c hc
    have := (hostChar_facts (hH.chars c hc)).2.2.2
    simp only [List.mem_cons, List.not_mem_nil, or_false, not_or] at this
    simp [this]
  have hPd : ∀ c ∈ P, (c != '?' && c != '#') = true := by
    intro c hc
    have := (plainPathChar_facts (hP.chars c hc)).2.2.2
    simp only [List.mem_cons, List.not_mem_nil, or_false, not_or] at this
    simp [this]
  have hQd : ∀ c ∈ Q, (c != '#') = true := by
    intro c hc
    simp [(plainQueryChar_facts (hQ.chars c hc)).2.2.2]
  obtain ⟨rest, hrest⟩ := List.head?_eq_some_iff.mp hP.head
  have hscheme (X : List Char) :
      ('t' :: 't' :: 'p' :: 's' :: ':' :: '/' :: '/' :: X).takeWhile (schemeTailChar true) =
        ['t', 't', 'p', 's'] := by
    simp [schemeTailChar]
  have hdrop (X : List Char) :
      List.drop ['t', 't', 'p', 's'].length ('t' :: 't' :: 'p' :: 's' :: X) = X := rfl
  have hauth : (H ++ (P ++ '?' :: Q)).takeWhile
      (fun c => c != '\\' && c != '/' && c != '?' && c != '#') = H := by
    rw [List.takeWhile_append_of_pos hHd, hrest]
    simp
  have hpath : (P ++ '?' :: Q).takeWhile (fun c => c != '?' && c != '#') = P := by
    rw [List.takeWhile_append_of_pos hPd]
    simp
  have hquery : Q.takeWhile (· != '#') = Q := List.takeWhile_eq_self_iff.mpr hQd
  have hh : (decide ('h'.toNat < 128) && 'h'.isAlpha) = true := by decide
  simp only [UriParts.read, List.cons_append, List.nil_append, List.append_assoc, hscheme, hh,
    if_true, hdrop, hauth, List.drop_left, hpath, hquery, List.drop_length]

/-- A host name is a registered name: no escapes, and none of `[ ] % : / ? #`. -/
theorem isRegName_of_forall : ∀ {cs : List Char}, (∀ c ∈ cs, hostChar c = true) → isRegName cs = true
  | [], _ => rfl
  | c :: cs, h => by
    have hc := h c List.mem_cons_self
    have hpct : c ≠ '%' := fun hc' => (hostChar_facts hc).2.2.2 (by simp [hc'])
    have ih := isRegName_of_forall fun d hd => h d (List.mem_cons_of_mem c hd)
    unfold isRegName
    split
    · rename_i heq
      exact absurd (List.cons.inj heq).1 hpct
    · rename_i heq
      obtain ⟨rfl, rfl⟩ := List.cons.inj heq
      simp [hostChar_regName hc, ih]
    · cases ‹c :: cs = []›

/-- A plain host has no port. -/
theorem splitHostPort_plain (hH : PlainHost H) : splitHostPort H = .ok (String.ofList H, none) := by
  have hcolon : ∀ c ∈ H, (c != ':') = true := by
    intro c hc
    have := (hostChar_facts (hH.chars c hc)).2.2.2
    simp only [List.mem_cons, List.not_mem_nil, or_false, not_or] at this
    simp [this]
  have htake : H.takeWhile (· != ':') = H := List.takeWhile_eq_self_iff.mpr hcolon
  obtain ⟨c, rest, hcs, -⟩ := hH.head
  have hbracket : c ≠ '[' := fun h => (hostChar_facts (hH.chars c (by simp [hcs]))).2.2.2 (by simp [h])
  unfold splitHostPort
  split
  · exact absurd (List.cons.inj hcs).1.symm hbracket
  · simp only [htake, isRegName_of_forall hH.chars, if_true, List.drop_length]
    rfl

/-! ### Normalising a plain path -/

/-- A piece of a list cut at a character holds only characters of the list. -/
theorem mem_of_mem_splitOn {a c : Char} :
    ∀ {xs seg : List Char}, seg ∈ xs.splitOn a → c ∈ seg → c ∈ xs
  | [], seg, hseg, hc => by simp_all
  | x :: xs, seg, hseg, hc => by
    rw [List.splitOn_cons_eq_if_modifyHead] at hseg
    split at hseg
    · rcases List.mem_cons.mp hseg with rfl | hseg
      · simp at hc
      · exact List.mem_cons_of_mem x (mem_of_mem_splitOn hseg hc)
    · obtain ⟨first, rest, hfr⟩ := List.exists_cons_of_ne_nil (List.splitOn_ne_nil a xs)
      rw [hfr, List.modifyHead_cons] at hseg
      rcases List.mem_cons.mp hseg with rfl | hseg
      · rcases List.mem_cons.mp hc with rfl | hc
        · exact List.mem_cons_self
        · exact List.mem_cons_of_mem x (mem_of_mem_splitOn (hfr ▸ List.mem_cons_self) hc)
      · exact List.mem_cons_of_mem x (mem_of_mem_splitOn (hfr ▸ List.mem_cons_of_mem _ hseg) hc)

/-- A text without a character of `pat` does not end with `pat`. -/
theorem endsWith_eq_false_of_not_mem {s pat : String} {c : Char} (hc : c ∈ pat.toList)
    (h : c ∉ s.toList) : s.endsWith pat = false := by
  rw [String.endsWith_eq_endsWith_toSlice, String.Slice.endsWith_string_eq_false_iff]
  intro hsuf
  simp only [String.copy_toSlice] at hsuf
  exact h (hsuf.subset hc)

/-- A plain path has no dot segment, so removing them keeps it. -/
theorem removeDotSegmentsKeeping_plain {path : String} (hP : PlainPathChars path.toList) :
    removeDotSegmentsKeeping path = path := by
  obtain ⟨rest, hrest⟩ := List.head?_eq_some_iff.mp hP.head
  have hdot : '.' ∉ path.toList := fun h => (plainPathChar_facts (hP.chars '.' h)).2.2.2 (by simp)
  have hsegs : ∀ seg ∈ splitAt '/' path, seg ≠ "." ∧ seg ≠ ".." := by
    intro seg hseg
    obtain ⟨cs, hcs, rfl⟩ := List.mem_map.mp hseg
    have hcs' : '.' ∉ cs := fun h => hdot (mem_of_mem_splitOn hcs h)
    constructor <;> intro h <;> apply hcs' <;>
      simp [show cs = _ by simpa using congrArg String.toList h]
  have hfold : (splitAt '/' path).foldl (fun acc seg =>
      if seg == "." then acc else if seg != ".." then acc ++ [seg] else acc.dropLast) [] =
        splitAt '/' path := by
    rw [foldl_append_of_forall (P := fun seg => seg ≠ "." ∧ seg ≠ "..") ?_ _ [] hsegs,
      List.nil_append]
    intro acc seg hseg
    simp [hseg.1, hseg.2]
  have hhead : (splitAt '/' path).headD "" = "" := by
    simp [splitAt, hrest, List.splitOn_cons_eq_if_modifyHead]
  have hend₁ : path.endsWith "/." = false := endsWith_eq_false_of_not_mem (c := '.') (by simp) hdot
  have hend₂ : path.endsWith "/.." = false := endsWith_eq_false_of_not_mem (c := '.') (by simp) hdot
  have hne : (splitAt '/' path).isEmpty = false := by simp [splitAt, List.splitOn_ne_nil]
  have hslash : "/" = String.singleton '/' := rfl
  unfold removeDotSegmentsKeeping
  simp only [hfold, hhead, hend₁, hend₂, hne, bne_self_eq_false, Bool.or_false, Bool.and_false,
    Bool.false_eq_true, if_false, hslash, intercalate_splitAt]

/-! ### Escaping and preparing a plain address -/

theorem upperEscapes_of_not_mem : ∀ {cs : List Char}, '%' ∉ cs → upperEscapes cs = (cs, 0)
  | [], _ => rfl
  | c :: cs, h => by
    have hc : c ≠ '%' := fun hc => h (hc ▸ List.mem_cons_self)
    have ih := upperEscapes_of_not_mem fun hr => h (List.mem_cons_of_mem c hr)
    unfold upperEscapes
    split
    · exact absurd (List.cons.inj ‹_›).1 hc
    · rename_i heq
      obtain ⟨rfl, rfl⟩ := List.cons.inj heq
      simp [ih]
    · cases ‹c :: cs = []›

/-- A part whose escapes are already in upper case, and whose other characters are allowed, is
kept as it is. -/
theorem escapeInvalid_of_escapes {allowed : Char → Bool} {part : String}
    (hesc : upperEscapes part.toList = (part.toList, part.toList.count '%'))
    (h : ∀ c ∈ part.toList, c = '%' ∨ (c.toNat < 128 ∧ allowed c = true)) :
    escapeInvalid allowed part = part := by
  unfold escapeInvalid
  rw [hesc]
  dsimp only
  rw [List.flatMap_congr (g := fun c => [c]) fun c hc => ?_, List.flatMap_singleton',
    String.ofList_toList]
  rcases h c hc with rfl | ⟨hlt, hal⟩
  · simp
  · simp [hlt, hal]

theorem escapeInvalid_of_forall {allowed : Char → Bool} {part : String} (hpct : '%' ∉ part.toList)
    (h : ∀ c ∈ part.toList, c.toNat < 128 ∧ allowed c = true) : escapeInvalid allowed part = part :=
  escapeInvalid_of_escapes (by rw [upperEscapes_of_not_mem hpct, List.count_eq_zero_of_not_mem hpct])
    fun c hc => .inr (h c hc)

/-- Text without `%` before the escapes is kept by the decoding of unreserved escapes. -/
theorem unquoteUnreserved_append_of_not_mem : ∀ {pre : List Char}, '%' ∉ pre →
    ∀ rest : List Char, unquoteUnreserved (pre ++ rest) = (pre ++ ·) <$> unquoteUnreserved rest
  | [], _, rest => by simp
  | c :: pre, h, rest => by
    have hc : c ≠ '%' := fun hc => h (hc ▸ List.mem_cons_self)
    have ih := unquoteUnreserved_append_of_not_mem (fun hr => h (List.mem_cons_of_mem c hr)) rest
    rw [List.cons_append]
    conv_lhs => unfold unquoteUnreserved
    split
    · exact absurd (List.cons.inj ‹_›).1 hc
    · rename_i heq
      obtain ⟨rfl, rfl⟩ := List.cons.inj heq
      rw [ih]
      cases unquoteUnreserved rest <;> rfl
    · cases ‹c :: (pre ++ rest) = []›

/-- An address whose escapes all stay escaped, and whose characters the requoting keeps, is
requoted as it is. -/
theorem requote_of_unquoted {url : String} (hun : unquoteUnreserved url.toList = some url.toList)
    (h : ∀ c ∈ url.toList, requoteSafe true c = true) : requote url = url := by
  unfold requote
  rw [hun]
  dsimp only
  unfold encodeWhere
  rw [String.toList_ofList, List.flatMap_congr (g := fun c => [c]) fun c hc => by simp [h c hc],
    List.flatMap_singleton', String.ofList_toList]

theorem toList_plain (host path query : String) :
    ("https://" ++ host ++ path ++ "?" ++ query).toList =
      ['h', 't', 't', 'p', 's', ':', '/', '/'] ++ host.toList ++ path.toList ++ '?' :: query.toList := by
  simp [String.toList_append]

theorem startsWith_eq_false_of_ne {s pat : String} {c d : Char} {cs ds : List Char}
    (hs : s.toList = c :: cs) (hpat : pat.toList = d :: ds) (hcd : c ≠ d) :
    s.startsWith pat = false := by
  rw [String.startsWith_eq_startsWith_toSlice, String.Slice.startsWith_string_eq_false_iff,
    String.copy_toSlice, hs, hpat]
  rintro ⟨t, ht⟩
  exact hcd (List.cons.inj ht).1.symm

theorem isEmpty_eq_false_of_toList_eq_cons {s : String} {c : Char} {cs : List Char}
    (h : s.toList = c :: cs) : s.isEmpty = false := by
  simp [← String.toList_eq_nil_iff, h]

theorem firstPass_plain {host path query : String} (hH : PlainHost host.toList)
    (hP : PlainPathChars path.toList) (hQ : PlainQuery query.toList) :
    firstPass ("https://" ++ host ++ path ++ "?" ++ query) =
      .ok (some "https", none, some host, none, path, some query, none) := by
  have hstart : startsWithSchemeOrSlash
      (['h', 't', 't', 'p', 's', ':', '/', '/'] ++ host.toList ++ path.toList ++ '?' :: query.toList) =
        true := by
    simp [startsWithSchemeOrSlash, schemeTailChar]
  have hscheme : (some "https").map (fun s => String.ofList (s.toList.map Char.toLower)) =
      some "https" := by decide
  obtain ⟨c, rest, hcs, -⟩ := hH.head
  have hc := hostChar_facts (hH.chars c (by simp [hcs]))
  have hhost : host.isEmpty = false := isEmpty_eq_false_of_toList_eq_cons hcs
  have hat : host.toList.reverse.idxOf? '@' = none := by
    rw [List.idxOf?_eq_none_iff, List.mem_reverse]
    exact fun h => (hostChar_facts (hH.chars '@' h)).2.2.2 (by simp)
  have hsplit : splitHostPort host.toList = pure (host, none) := by
    rw [splitHostPort_plain hH, String.ofList_toList]
    rfl
  have hbracket : host.startsWith "[" = false :=
    startsWith_eq_false_of_ne hcs (by simp : "[".toList = ['[']) fun h => hc.2.2.2 (by simp [h])
  have hascii : host.toList.all (fun c => decide (c.toNat < 128)) = true :=
    List.all_eq_true.mpr fun c hc => decide_eq_true (hostChar_facts (hH.chars c hc)).1
  have hlower : String.ofList (host.toList.map Char.toLower) = host := by
    rw [List.map_congr_left fun c hc => (hostChar_facts (hH.chars c hc)).2.1, List.map_id',
      String.ofList_toList]
  obtain ⟨prest, hprest⟩ := List.head?_eq_some_iff.mp hP.head
  have hpath : path.isEmpty = false := isEmpty_eq_false_of_toList_eq_cons hprest
  have hpathEsc : escapeInvalid pathChar (removeDotSegmentsKeeping path) = path := by
    rw [removeDotSegmentsKeeping_plain hP]
    exact escapeInvalid_of_forall (fun h => (plainPathChar_facts (hP.chars '%' h)).2.2.2 (by simp))
      fun c hc => ⟨(plainPathChar_facts (hP.chars c hc)).1, (plainPathChar_facts (hP.chars c hc)).2.1⟩
  have hquery : query.isEmpty = false := by simpa using hQ.nonempty
  have hqueryEsc : escapeInvalid queryChar query = query := by
    refine escapeInvalid_of_escapes hQ.escapes fun c hc => ?_
    obtain ⟨hlt, hq | rfl, -⟩ := plainQueryChar_facts (hQ.chars c hc)
    · exact .inr ⟨hlt, hq⟩
    · exact .inl rfl
  have hhttps : ("https" == "http" || "https" == "https") = true := by decide
  simp only [firstPass, toList_plain, hstart, if_true, read_plain hH hP hQ, hscheme,
    String.ofList_toList, hhost, hat, hsplit, hbracket, hascii, hlower, hpath, hpathEsc, hquery,
    hqueryEsc, hhttps, Bool.false_eq_true, if_false, Bool.not_false, Bool.and_true, Bool.true_and,
    pure_bind, Option.any_none, Option.map_some, Option.map_none, Option.filter_none]
  rfl

theorem prepared?_plain {host path query : String} (hH : PlainHost host.toList)
    (hP : PlainPathChars path.toList) (hQ : PlainQuery query.toList) :
    prepared? ("https://" ++ host ++ path ++ "?" ++ query) =
      .ok ("https://" ++ host ++ path ++ "?" ++ query) := by
  have hurl : ("https://" ++ host ++ path ++ "?" ++ query).toList =
      ['h', 't', 't', 'p', 's', ':', '/', '/'] ++ (host.toList ++ path.toList ++ '?' :: query.toList) := by
    rw [toList_plain, List.append_assoc, List.append_assoc, List.append_assoc]
  have hstrip : stripBlanksLeft ("https://" ++ host ++ path ++ "?" ++ query) =
      "https://" ++ host ++ path ++ "?" ++ query := by
    rw [stripBlanksLeft, hurl, List.cons_append, List.dropWhile_cons_of_neg (by decide),
      ← List.cons_append, ← hurl, String.ofList_toList]
  have hlower : (lowerText ("https://" ++ host ++ path ++ "?" ++ query)).startsWith "http" = true := by
    have hlit : ['h', 't', 't', 'p', 's', ':', '/', '/'].flatMap toLowerFull =
        ['h', 't', 't', 'p', 's', ':', '/', '/'] := by decide
    rw [String.startsWith_string_iff, lowerText, String.toList_ofList, hurl, List.flatMap_append,
      hlit]
    simp only [String.toList_ofList]
    exact ⟨['s', ':', '/', '/'] ++ _, rfl⟩
  obtain ⟨c, rest, hcs, hcdot⟩ := hH.head
  have hc := hostChar_facts (hH.chars c (by simp [hcs]))
  have hhost : host.isEmpty = false := isEmpty_eq_false_of_toList_eq_cons hcs
  have hstar : host.startsWith "*" = false :=
    startsWith_eq_false_of_ne hcs (by simp : "*".toList = ['*']) fun h => hc.2.2.2 (by simp [h])
  have hdot : host.startsWith "." = false :=
    startsWith_eq_false_of_ne hcs (by simp : ".".toList = ['.']) hcdot
  have hquery : query.isEmpty = false := by simpa using hQ.nonempty
  have hjoin : (Parts.mk "https" ("" ++ host ++ "") path query "").join =
      "https://" ++ host ++ path ++ "?" ++ query := by
    rw [join_web (by simp [webSchemes]) hP.head]
    simp [marked, hquery, String.append_assoc]
  have hpathne : path.isEmpty = false := by
    obtain ⟨prest, hprest⟩ := List.head?_eq_some_iff.mp hP.head
    exact isEmpty_eq_false_of_toList_eq_cons hprest
  have hfirst : firstPass ("https://" ++ host ++ path ++ "?" ++ query) =
      pure (some "https", none, some host, none, path, some query, none) := firstPass_plain hH hP hQ
  have hhttps : "https".isEmpty = false := by decide
  simp only [prepared?, hstrip, hlower, Bool.not_true, Bool.and_false, Bool.false_eq_true, if_false,
    hfirst, pure_bind, hhttps, hhost, hstar, hdot, Bool.or_false, hpathne, Option.getD_some,
    Option.getD_none, hjoin]
  have hlit : ∀ d ∈ ['h', 't', 't', 'p', 's', ':', '/', '/'],
      requoteSafe true d = true ∧ d ≠ '%' := by
    simp only [List.forall_mem_cons, List.not_mem_nil, IsEmpty.forall_iff, implies_true, and_true]
    decide
  have hhead : ∀ d ∈ ['h', 't', 't', 'p', 's', ':', '/', '/'] ++ host.toList ++ path.toList ++ ['?'],
      requoteSafe true d = true ∧ d ≠ '%' := by
    intro d hd
    simp only [List.mem_append, List.mem_singleton] at hd
    rcases hd with ((hd | hd) | hd) | rfl
    · exact hlit d hd
    · have h := hostChar_facts (hH.chars d hd)
      exact ⟨by simp [requoteSafe, h.2.2.1], fun e => h.2.2.2 (by simp [e])⟩
    · have h := plainPathChar_facts (hP.chars d hd)
      exact ⟨h.2.2.1, fun e => h.2.2.2 (by simp [e])⟩
    · decide
  have hsplit : ("https://" ++ host ++ path ++ "?" ++ query).toList =
      (['h', 't', 't', 'p', 's', ':', '/', '/'] ++ host.toList ++ path.toList ++ ['?']) ++
        query.toList := by
    rw [toList_plain]
    simp
  have hunquoted : unquoteUnreserved ("https://" ++ host ++ path ++ "?" ++ query).toList =
      some ("https://" ++ host ++ path ++ "?" ++ query).toList := by
    rw [hsplit, unquoteUnreserved_append_of_not_mem (fun h => (hhead '%' h).2 rfl), hQ.unquoted]
    rfl
  have hsafe : ∀ d ∈ ("https://" ++ host ++ path ++ "?" ++ query).toList,
      requoteSafe true d = true := by
    intro d hd
    rw [hsplit, List.mem_append] at hd
    rcases hd with hd | hd
    · exact (hhead d hd).1
    · exact (plainQueryChar_facts (hQ.chars d hd)).2.2.1
  rw [requote_of_unquoted hunquoted hsafe]
  rfl

end TransitKit.Url

namespace TransitKit.Portal

open Url

/-- Cutting a text at a character it does not hold keeps it whole. -/
theorem splitFirst_of_not_mem {c : Char} {s : String} (h : c ∉ s.toList) : splitFirst c s = (s, none) := by
  have hsplit : Text.splitAt c s = [s] := by
    rw [Text.splitAt, List.splitOn_eq_singleton h, List.map_singleton, String.ofList_toList]
  rw [splitFirst, hsplit]

/-- A request for a plain `https` address without a query goes to the address, `?` and the
form encoding of its parameters, when that encoding is a plain query. -/
theorem requestAddress_plain {host path : String} {params : List (String × String)}
    (hH : PlainHost host.toList) (hP : PlainPathChars path.toList)
    (hQ : PlainQuery (formEncode params).toList) :
    requestAddress ("https://" ++ host ++ path) params =
      .ok ("https://" ++ host ++ path ++ "?" ++ formEncode params) := by
  have hfree : ∀ d ∈ ("https://" ++ host ++ path).toList, d ≠ '?' ∧ d ≠ '#' := by
    intro d hd
    simp only [String.toList_append, List.mem_append] at hd
    rcases hd with (hd | hd) | hd
    · revert d
      simp only [show "https://".toList = ['h', 't', 't', 'p', 's', ':', '/', '/'] by simp,
        List.forall_mem_cons, List.not_mem_nil, IsEmpty.forall_iff, implies_true, and_true]
      decide
    · have h := (hostChar_facts (hH.chars d hd)).2.2.2
      exact ⟨fun e => h (by simp [e]), fun e => h (by simp [e])⟩
    · have h := (plainPathChar_facts (hP.chars d hd)).2.2.2
      exact ⟨fun e => h (by simp [e]), fun e => h (by simp [e])⟩
  unfold requestAddress
  rw [splitFirst_of_not_mem fun h => (hfree '#' h).2 rfl]
  dsimp only
  rw [splitFirst_of_not_mem fun h => (hfree '?' h).1 rfl, String.append_empty]
  exact prepared?_plain hH hP hQ

/-- The portal's host is plain. -/
theorem portalHost_plain : PlainHost "api-portal.tfl.gov.uk".toList := by
  have hlist : "api-portal.tfl.gov.uk".toList =
      ['a', 'p', 'i', '-', 'p', 'o', 'r', 't', 'a', 'l', '.', 't', 'f', 'l', '.', 'g', 'o', 'v', '.',
        'u', 'k'] := by simp
  rw [hlist]
  refine ⟨?_, ⟨'a', _, rfl, by decide⟩⟩
  simp only [List.forall_mem_cons, List.not_mem_nil, IsEmpty.forall_iff, implies_true, and_true]
  decide

/-- A request for a page of an API, at a plain suffix and with parameters whose form encoding
is a plain query, goes to the page's address, `?` and the encoding. -/
theorem addressFor_apiAddress {apiId suffix : String} {params : List (String × String)}
    (hid : ∀ c ∈ apiId.toList ++ suffix.toList, plainPathChar c = true)
    (hQ : PlainQuery (formEncode params).toList) :
    addressFor (apiAddress apiId ++ suffix) params =
      .ok (apiAddress apiId ++ suffix ++ "?" ++ formEncode params) := by
  have haddr : apiAddress apiId ++ suffix =
      "https://" ++ "api-portal.tfl.gov.uk" ++ ("/developer/apis/" ++ apiId ++ suffix) := by
    rw [← String.toList_inj]
    simp [apiAddress, portalBase]
  have hP : PlainPathChars ("/developer/apis/" ++ apiId ++ suffix).toList := by
    refine ⟨by simp, fun c hc => ?_⟩
    simp only [String.toList_append, List.mem_append] at hc
    rcases hc with (hc | hc) | hc
    · have hlit : ∀ d ∈ "/developer/apis/".toList, plainPathChar d = true := by
        simp only [show "/developer/apis/".toList =
            ['/', 'd', 'e', 'v', 'e', 'l', 'o', 'p', 'e', 'r', '/', 'a', 'p', 'i', 's', '/'] by simp,
          List.forall_mem_cons, List.not_mem_nil, IsEmpty.forall_iff, implies_true, and_true]
        decide
      exact hlit c hc
    · exact hid c (List.mem_append_left _ hc)
    · exact hid c (List.mem_append_right _ hc)
  unfold addressFor
  rw [haddr, requestAddress_plain portalHost_plain hP hQ]

/-- The address of a plain page of an API holds no query. -/
theorem not_mem_apiAddress {apiId suffix : String}
    (hid : ∀ c ∈ apiId.toList ++ suffix.toList, plainPathChar c = true) :
    '?' ∉ (apiAddress apiId ++ suffix).toList := by
  intro hq
  simp only [apiAddress, portalBase, String.toList_append, List.mem_append] at hq
  rcases hq with ((hq | hq) | hq) | hq
  · revert hq
    decide
  · revert hq
    decide
  · exact (plainPathChar_facts (hid _ (List.mem_append_left _ hq))).2.2.2 (by simp)
  · exact (plainPathChar_facts (hid _ (List.mem_append_right _ hq))).2.2.2 (by simp)

/-- A plain API name followed by a plain suffix. -/
theorem plainPath_append {apiId suffix : String} (hid : ∀ c ∈ apiId.toList, plainPathChar c = true)
    (hsuffix : suffix.toList.all plainPathChar = true) :
    ∀ c ∈ apiId.toList ++ suffix.toList, plainPathChar c = true := by
  intro c hc
  rcases List.mem_append.mp hc with hc | hc
  · exact hid c hc
  · exact List.all_eq_true.mp hsuffix c hc

/-! The queries of the crawler's requests: for an API's details, its operations, and an operation
or a schema. -/

theorem plainQuery_details :
    PlainQuery (formEncode [("expandApiVersionSet", "true"), ("api-version", apiVersion)]).toList := by
  decide

theorem plainQuery_operations :
    PlainQuery (formEncode [("$top", "50"), ("api-version", apiVersion)]).toList := by
  decide

theorem plainQuery_version : PlainQuery (formEncode [("api-version", apiVersion)]).toList := by
  decide

end TransitKit.Portal

namespace TransitKit.Client

/-- A network whose routes carry no query answers a request with a query by the route of its
address without the query. -/
theorem answerFor_queryFree {n : Network} {key q : String}
    (hroutes : ∀ r ∈ n.routes, '?' ∉ r.1.toList) (hkey : '?' ∉ key.toList) :
    n.answerFor (key ++ "?" ++ q) = ((n.routes.find? (·.1 == key)).map (·.2)).getD n.fallback := by
  have hwithout : withoutQuery (key ++ "?" ++ q) = key := by
    rw [withoutQuery, Text.splitAt, String.toList_append, String.toList_append,
      show "?".toList = ['?'] by simp, List.append_assoc, List.singleton_append,
      List.splitOn_append_cons_self_of_not_mem hkey]
    simp
  unfold Network.answerFor
  rw [@List.find?_congr _ _ (·.1 == key) n.routes fun r hr => ?_]
  · cases n.routes.find? (·.1 == key) <;> rfl
  · obtain ⟨u, c⟩ := r
    have hne : u ≠ key ++ "?" ++ q := fun e => hroutes _ hr (by simp [e])
    simp [hwithout, hne]

end TransitKit.Client

namespace TransitKit.Portal

open Url

/-! ### Pages served as JSON -/

/-- An answer whose body is the compact text of a plain value reads back as that value. -/
theorem readAnswer_compact {v : Json} (hv : Json.Plain v) (address : String) :
    readAnswer { body := Json.compact v } address = .ok v := by
  simp [readAnswer, statusFailure?_ok, Json.parse?_compact hv]

/-- A network that serves pages of one API: at each suffix of the API's address, the compact
text of a value. -/
def servePages (apiId : String) (pages : List (String × Json)) : Client.Network :=
  { routes := pages.map fun p => (apiAddress apiId ++ p.1, { body := Json.compact p.2 }) }

variable {apiId suffix : String} {pages : List (String × Json)} {v : Json}

/-- A served page, asked for with any query, is answered with its value. -/
theorem readAnswer_servePages
    (hpages : ∀ p ∈ pages, ∀ c ∈ apiId.toList ++ p.1.toList, plainPathChar c = true)
    (hid : ∀ c ∈ apiId.toList ++ suffix.toList, plainPathChar c = true)
    (hpage : (pages.find? (·.1 == suffix)).map (·.2) = some v) (hv : Json.Plain v) (q : String) :
    readAnswer ((servePages apiId pages).answerFor (apiAddress apiId ++ suffix ++ "?" ++ q))
      (apiAddress apiId ++ suffix ++ "?" ++ q) = .ok v := by
  have hroutes : ∀ r ∈ (servePages apiId pages).routes, '?' ∉ r.1.toList := by
    intro r hr
    obtain ⟨p, hp, rfl⟩ := List.mem_map.mp hr
    exact not_mem_apiAddress (hpages p hp)
  have hfind : ((servePages apiId pages).routes.find? (·.1 == apiAddress apiId ++ suffix)).map (·.2) =
      some { body := Json.compact v } := by
    have hkey : ∀ p : String × Json,
        (apiAddress apiId ++ p.1 == apiAddress apiId ++ suffix) = (p.1 == suffix) := by
      simp [beq_eq_decide]
    simp only [servePages, List.find?_map, Function.comp_def, hkey, Option.map_map]
    cases hf : pages.find? (·.1 == suffix) with
    | none => simp [hf] at hpage
    | some p =>
      simp only [hf, Option.map_some, Option.some.injEq] at hpage ⊢
      rw [hpage]
  rw [Client.answerFor_queryFree hroutes (not_mem_apiAddress hid), hfind]
  exact readAnswer_compact hv _

/-- Whatever is asked of a portal that serves pages of plain values, an answer that reads as
JSON is one of the pages. -/
theorem mem_of_readAnswer_servePages (hplain : ∀ p ∈ pages, Json.Plain p.2) {address : String}
    (h : readAnswer ((servePages apiId pages).answerFor address) address = .ok v) :
    ∃ p ∈ pages, v = p.2 := by
  unfold Client.Network.answerFor at h
  split at h
  · rename_i u c hfind
    obtain ⟨p, hp, hpc⟩ := List.mem_map.mp (List.mem_of_find?_eq_some hfind)
    simp only [Prod.mk.injEq] at hpc
    obtain ⟨-, rfl⟩ := hpc
    rw [readAnswer_compact (hplain p hp)] at h
    exact ⟨p, hp, (Except.ok.inj h).symm⟩
  · have hempty : Json.parse? "" = none := by decide
    simp [readAnswer, servePages, statusFailure?, hempty] at h

/-- A request for a served page of plain values, at a plain address with a plain query, gives
the page and is noted at the address, `?` and the query. -/
theorem run_getJson_servePages {params : List (String × String)}
    (hpages : ∀ p ∈ pages, ∀ c ∈ apiId.toList ++ p.1.toList, plainPathChar c = true)
    (hplain : ∀ p ∈ pages, Json.Plain p.2)
    (hid : ∀ c ∈ apiId.toList ++ suffix.toList, plainPathChar c = true)
    (hQ : PlainQuery (formEncode params).toList)
    (hpage : (pages.find? (·.1 == suffix)).map (·.2) = some v) (h : Host)
    (hnet : h.net = servePages apiId pages) :
    (getJson (apiAddress apiId ++ suffix) params).run.run h =
      (.ok v, { h with requests := h.requests ++ [apiAddress apiId ++ suffix ++ "?" ++ formEncode params] }) := by
  have hv : Json.Plain v := by
    obtain ⟨p, hp, rfl⟩ := Option.map_eq_some_iff.mp hpage
    exact hplain p (List.mem_of_find?_eq_some hp)
  exact run_getJson (addressFor_apiAddress hid hQ) (readAnswer_servePages hpages hid hpage hv _) h hnet

end TransitKit.Portal
