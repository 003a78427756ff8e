import Mathlib
import TransitKit.Url.Parts

/-!
# Splitting, resolving and joining URLs

Splitting a URL fails only on a location with one square bracket and not the other, so a text
without square brackets always splits, a reference resolves against a base whenever both split,
and joining bracket-free path pieces never fails. A path that starts with one `/` and has no
query, fragment, parameter or dot segment is kept as it is: resolved against a web address it
replaces the path, and the URL written from parts with such a path splits back into them.
-/

namespace TransitKit.Url

/-- Characters without square brackets. -/
def BracketFree (cs : List Char) : Prop := '[' ∉ cs ∧ ']' ∉ cs

instance (cs : List Char) : Decidable (BracketFree cs) :=
  inferInstanceAs (Decidable (_ ∧ _))

theorem BracketFree.mono {cs ds : List Char} (h : BracketFree cs) (hsub : ds ⊆ cs) :
    BracketFree ds :=
  ⟨fun hl => h.1 (hsub hl), fun hr => h.2 (hsub hr)⟩

theorem cleanChars_subset (url : String) : cleanChars url ⊆ url.toList := fun _ h =>
  List.dropWhile_subset _ (List.mem_filter.1 h).1

/-- What follows the scheme is a part of the text. -/
theorem splitOffScheme_subset (d : String) (cs : List Char) :
    (splitOffScheme d cs).2 ⊆ cs := by
  intro c h
  unfold splitOffScheme at h
  repeat' split at h
  all_goals first | exact h | exact List.mem_of_mem_drop h

/-- A location is refused only for its square brackets. -/
theorem splitOffNetloc?_isSome {cs : List Char} (h : BracketFree cs) :
    (splitOffNetloc? cs).isSome := by
  unfold splitOffNetloc?
  split
  · rename_i rest
    have hloc : ∀ p, BracketFree (rest.takeWhile p) := fun p => h.mono fun _ hc =>
      List.mem_cons_of_mem _ (List.mem_cons_of_mem _ (List.takeWhile_subset p hc))
    simp [(hloc _).1, (hloc _).2]
  · rfl

theorem split?_isSome {url : String} (d : String) (h : BracketFree url.toList) :
    (split? url d).isSome := by
  cases hs : splitOffScheme d (cleanChars url) with
  | mk scheme cs =>
    have hcs : BracketFree cs := h.mono fun c hc =>
      cleanChars_subset url (splitOffScheme_subset d _ (by rw [hs]; exact hc))
    obtain ⟨⟨netloc, rest⟩, hn⟩ := Option.isSome_iff_exists.1 (splitOffNetloc?_isSome hcs)
    simp [split?, hs, hn]

/-- Resolving fails only where splitting the base or the reference does. -/
theorem resolve?_isSome {base ref : String} (hb : (split? base).isSome)
    (hr : ∀ d, (split? ref d).isSome) : (resolve? base ref).isSome := by
  unfold resolve?
  split_ifs
  · rfl
  · rfl
  · obtain ⟨b, hb⟩ := Option.isSome_iff_exists.1 hb
    obtain ⟨r, hr⟩ := Option.isSome_iff_exists.1 (hr b.scheme)
    simp only [hb, hr, Option.bind_eq_bind, Option.bind_some]
    split_ifs <;> rfl

theorem joinPaths?_isSome {a b : String} (ha : BracketFree a.toList) (hb : BracketFree b.toList) :
    (joinPaths? a b).isSome := by
  unfold joinPaths?
  have hbase : BracketFree (a ++ "/").toList := by
    simpa [BracketFree, String.toList_append] using ha
  have href : BracketFree (String.ofList (b.toList.dropWhile (· == '/'))).toList := by
    rw [String.toList_ofList]
    exact hb.mono (List.dropWhile_subset _)
  exact resolve?_isSome (split?_isSome "" hbase) fun d => split?_isSome d href

/-! ### Stages that read plain text -/

/-- Characters that splitting neither drops at the start nor removes are read as they are. -/
theorem cleanChars_eq_self {url : String}
    (hhead : ∀ c ∈ url.toList.head?, isLeadingJunk c = false)
    (h : ∀ c ∈ url.toList, c ∉ ['\t', '\n', '\r']) : cleanChars url = url.toList := by
  have hdrop : url.toList.dropWhile isLeadingJunk = url.toList := by
    cases hu : url.toList with
    | nil => rfl
    | cons c rest =>
      rw [hu] at hhead
      exact List.dropWhile_cons_of_neg (by simpa using hhead c rfl)
  rw [cleanChars, hdrop, List.filter_eq_self]
  intro c hc
  simpa [and_assoc] using h c hc

/-- A text that starts with `/` has no scheme. -/
theorem splitOffScheme_slash {cs : List Char} (h : cs.head? = some '/') (d : String) :
    splitOffScheme d cs = (d, cs) := by
  obtain ⟨rest, rfl⟩ := List.head?_eq_some_iff.1 h
  unfold splitOffScheme
  split
  · simp [Char.isAlpha, Char.isUpper, Char.isLower]
  · rfl

/-- The schemes of web addresses. -/
def webSchemes : List String := ["http", "https"]

theorem splitOffScheme_web {scheme : String} (hs : scheme ∈ webSchemes) (d : String)
    (rest : List Char) : splitOffScheme d (scheme.toList ++ ':' :: rest) = (scheme, rest) := by
  simp only [webSchemes, List.mem_cons, List.not_mem_nil, or_false] at hs
  rcases hs with rfl | rfl <;> simp [splitOffScheme, isSchemeChar, List.idxOf?, List.findIdx?_cons]

/-- A text that starts with a single `/` has no location. -/
theorem splitOffNetloc?_slash {cs : List Char} (h : cs.head? = some '/')
    (hsingle : cs.tail.head? ≠ some '/') : splitOffNetloc? cs = some ("", cs) := by
  obtain ⟨rest, rfl⟩ := List.head?_eq_some_iff.1 h
  unfold splitOffNetloc?
  split
  · simp_all
  · rfl

theorem cutAt_of_not_mem {c : Char} {cs : List Char} (h : c ∉ cs) : cutAt c cs = (cs, "") := by
  simp [cutAt, splitAtFirst, List.idxOf?_eq_none_iff.2 h]

/-- The first `c` of a text whose beginning has none stands where that beginning ends. -/
theorem idxOf?_append_cons {c : Char} {a b : List Char} (h : c ∉ a) :
    (a ++ c :: b).idxOf? c = some a.length := by
  have hnone : a.idxOf? c = none := List.idxOf?_eq_none_iff.2 h
  simp only [List.idxOf?] at hnone ⊢
  simp [List.findIdx?_append, hnone, List.findIdx?_cons]

theorem cutAt_append {c : Char} {a b : List Char} (h : c ∉ a) :
    cutAt c (a ++ c :: b) = (a, String.ofList b) := by
  simp [cutAt, splitAtFirst, idxOf?_append_cons h]

/-- What a part adds to a URL: nothing when it is empty, and otherwise its mark and itself. -/
def marked (mark : Char) (s : String) : String :=
  if s.isEmpty then "" else String.singleton mark ++ s

theorem toList_marked (mark : Char) (s : String) :
    (marked mark s).toList = if s.isEmpty then [] else mark :: s.toList := by
  unfold marked
  split <;> simp

theorem mem_marked {mark c : Char} {s : String} (h : c ∈ (marked mark s).toList) :
    c = mark ∨ c ∈ s.toList := by
  rw [toList_marked] at h
  split at h
  · simp at h
  · exact List.mem_cons.1 h

/-- Cutting at a mark that only the marked part holds gives back the text before it and the
part. -/
theorem cutAt_marked {c : Char} {a : List Char} (h : c ∉ a) (s : String) :
    cutAt c (a ++ (marked c s).toList) = (a, s) := by
  rw [toList_marked]
  split
  · rename_i hs
    rw [List.append_nil, cutAt_of_not_mem h, String.isEmpty_iff.1 hs]
  · rw [cutAt_append h, String.ofList_toList]

/-- Characters with no tab, line feed or carriage return, which splitting would remove. -/
def Unbroken (cs : List Char) : Prop := ∀ c ∈ cs, c ∉ ['\t', '\n', '\r']

theorem Unbroken.append {a b : List Char} (ha : Unbroken a) (hb : Unbroken b) :
    Unbroken (a ++ b) := fun c hc => (List.mem_append.1 hc).elim (ha c) (hb c)

theorem Unbroken.marked {s : String} (hs : Unbroken s.toList) {mark : Char}
    (hmark : mark ∉ ['\t', '\n', '\r']) : Unbroken (marked mark s).toList := fun c hc =>
  (mem_marked hc).elim (fun h => h ▸ hmark) (hs c)

/-- Characters that avoid a list holding every break are unbroken. -/
theorem Unbroken.of_forall {cs bad : List Char} (h : ∀ c ∈ cs, c ∉ bad)
    (hbad : ['\t', '\n', '\r'] ⊆ bad) : Unbroken cs := fun c hc hm => h c hc (hbad hm)

/-! ### Network locations -/

/-- A network location as splitting reads it: no character that ends it or that splitting
removes, and either both square brackets or neither. -/
structure Netloc (cs : List Char) : Prop where
  chars : ∀ c ∈ cs, c ∉ ['/', '?', '#', '\t', '\n', '\r']
  brackets : '[' ∈ cs ↔ ']' ∈ cs

theorem Netloc.unbroken {cs : List Char} (h : Netloc cs) : Unbroken cs :=
  Unbroken.of_forall h.chars (by decide)

/-- The location read after `//` is a network location. -/
theorem splitOffNetloc?_netloc {cs rest : List Char} {net : String} (hcs : Unbroken cs)
    (h : splitOffNetloc? cs = some (net, rest)) : Netloc net.toList := by
  unfold splitOffNetloc? at h
  split at h
  · rename_i tail
    dsimp only at h
    split at h
    · cases h
    · rename_i hb
      simp only [Option.some.injEq, Prod.mk.injEq] at h
      obtain ⟨rfl, -⟩ := h
      rw [String.toList_ofList]
      refine ⟨fun c hc => ?_, ?_⟩
      · have hp := List.mem_takeWhile_imp hc
        have ht := hcs c
          (List.mem_cons_of_mem _ (List.mem_cons_of_mem _ (List.takeWhile_subset _ hc)))
        simp only [Bool.and_eq_true, bne_iff_ne, ne_eq] at hp
        simp only [List.mem_cons, List.not_mem_nil, or_false, not_or] at ht ⊢
        exact ⟨hp.1.1, hp.1.2, hp.2, ht⟩
      · simp only [Bool.or_eq_true, Bool.and_eq_true, Bool.not_eq_true', Bool.eq_false_iff,
          ne_eq, List.contains_iff_mem] at hb
        tauto
  · simp only [Option.some.injEq, Prod.mk.injEq] at h
    obtain ⟨rfl, -⟩ := h
    exact ⟨fun c hc => by simp at hc, by simp⟩

/-- The location a URL splits into is a network location. -/
theorem split?_netloc {url d : String} {p : Parts} (h : split? url d = some p) :
    Netloc p.netloc.toList := by
  have hclean : Unbroken (splitOffScheme d (cleanChars url)).2 := by
    intro c hc
    have hm := splitOffScheme_subset d _ hc
    simp only [cleanChars, List.mem_filter, Bool.and_eq_true, bne_iff_ne, ne_eq] at hm
    simp [hm.2.1.1, hm.2.1.2, hm.2.2]
  cases hs : splitOffScheme d (cleanChars url) with
  | mk scheme cs =>
    rw [hs] at hclean
    cases hn : splitOffNetloc? cs with
    | none => simp [split?, hs, hn] at h
    | some q =>
      obtain ⟨net, rest⟩ := q
      simp only [split?, hs, hn, Option.bind_eq_bind, Option.bind_some, Option.pure_def,
        Option.some.injEq] at h
      rw [← h]
      exact splitOffNetloc?_netloc hclean hn

/-- A network location followed by a path is read up to the path. -/
theorem splitOffNetloc?_of_netloc {net tail : List Char} (hnet : Netloc net)
    (htail : tail.head? = some '/') :
    splitOffNetloc? ('/' :: '/' :: (net ++ tail)) = some (String.ofList net, tail) := by
  obtain ⟨rest, rfl⟩ := List.head?_eq_some_iff.1 htail
  have hstop : ∀ c ∈ net, (c != '/' && c != '?' && c != '#') = true := fun c hc => by
    have hc' := hnet.chars c hc
    simp only [List.mem_cons, List.not_mem_nil, or_false, not_or] at hc'
    simp [hc'.1, hc'.2.1, hc'.2.2.1]
  have htake : (net ++ '/' :: rest).takeWhile (fun c => c != '/' && c != '?' && c != '#') =
      net := by
    rw [List.takeWhile_append_of_pos hstop]
    simp
  have hdrop : (net ++ '/' :: rest).dropWhile (fun c => c != '/' && c != '?' && c != '#') =
      '/' :: rest := by
    rw [List.dropWhile_append_of_pos hstop]
    simp
  simp only [splitOffNetloc?, htake, hdrop]
  rw [if_neg (by simp [hnet.brackets])]

/-! ### Paths, queries and fragments -/

/-- A path that starts with `/` and has no character that ends a path or that splitting
removes. -/
structure PlainPath (cs : List Char) : Prop where
  head : cs.head? = some '/'
  chars : ∀ c ∈ cs, c ∉ ['?', '#', '\t', '\n', '\r']

theorem PlainPath.not_mem {cs : List Char} (h : PlainPath cs) {c : Char}
    (hc : c ∈ ['?', '#', '\t', '\n', '\r']) : c ∉ cs := fun hm => h.chars c hm hc

theorem PlainPath.unbroken {cs : List Char} (h : PlainPath cs) : Unbroken cs :=
  Unbroken.of_forall h.chars (by decide)

/-- After a plain path, its query after `?` and its fragment after `#` are cut off in turn. -/
theorem cutAt_parts {path : List Char} (hp : PlainPath path) {q : String} (hq : '#' ∉ q.toList)
    (f : String) :
    cutAt '#' (path ++ (marked '?' q).toList ++ (marked '#' f).toList) =
        (path ++ (marked '?' q).toList, f) ∧
      cutAt '?' (path ++ (marked '?' q).toList) = (path, q) := by
  have hhash : '#' ∉ path ++ (marked '?' q).toList := fun hm =>
    (List.mem_append.1 hm).elim (hp.not_mem (by simp))
      fun hm => (mem_marked hm).elim (by decide) hq
  exact ⟨cutAt_marked hhash f, cutAt_marked (hp.not_mem (by simp)) q⟩

/-- A location that starts with a single `/` splits into its plain path, the query after `?`
and the fragment after `#`, in the given scheme. -/
theorem split?_path {path q f : String} (hp : PlainPath path.toList)
    (hsingle : path.toList.tail.head? ≠ some '/') (hq : '#' ∉ q.toList)
    (hqu : Unbroken q.toList) (hf : Unbroken f.toList) (d : String) :
    split? (path ++ marked '?' q ++ marked '#' f) d = some ⟨d, "", path, q, f⟩ := by
  let cs := path.toList ++ (marked '?' q).toList ++ (marked '#' f).toList
  have hhead : cs.head? = some '/' := by simp [cs, hp.head]
  have hsingle' : cs.tail.head? ≠ some '/' := by
    obtain ⟨rest, hrest⟩ := List.head?_eq_some_iff.1 hp.head
    rw [hrest, List.tail_cons] at hsingle
    cases rest with
    | cons r rs => simpa [cs, hrest] using hsingle
    | nil => simp only [cs, hrest, toList_marked]; split <;> split <;> simp
  have hclean : cleanChars (path ++ marked '?' q ++ marked '#' f) = cs := by
    rw [cleanChars_eq_self ?_ ?_, String.toList_append, String.toList_append]
    · intro c hc
      simp only [String.toList_append, List.head?_append, hp.head, Option.some_or,
        Option.mem_def, Option.some.injEq] at hc
      subst hc
      decide
    simp only [String.toList_append]
    exact (hp.unbroken.append (hqu.marked (by decide))).append (hf.marked (by decide))
  obtain ⟨hhash, hquery⟩ := cutAt_parts hp hq f
  simp only [split?, hclean, splitOffScheme_slash hhead, splitOffNetloc?_slash hhead hsingle',
    cs, hhash, hquery, Option.bind_eq_bind, Option.bind_some, Option.pure_def,
    String.ofList_toList]

/-! ### Web URLs -/

/-- What joining, splitting and resolving read of a web scheme. -/
theorem webScheme_reads {s : String} (hs : s ∈ webSchemes) :
    relativeSchemes.contains s = true ∧ netlocSchemes.contains s = true ∧ s.isEmpty = false ∧
      s.toList.head? = some 'h' ∧ Unbroken s.toList := by
  simp only [webSchemes, List.mem_cons, List.not_mem_nil, or_false] at hs
  rcases hs with rfl | rfl <;> refine ⟨by decide, by decide, by decide, by simp, by simp [Unbroken]⟩

/-- A text whose first character is `/` starts with `/` and is not empty. -/
theorem startsWith_slash {s : String} (h : s.toList.head? = some '/') :
    s.startsWith "/" = true ∧ s.isEmpty = false := by
  obtain ⟨rest, hr⟩ := List.head?_eq_some_iff.1 h
  constructor
  · simp [hr]
  · rw [← Bool.not_eq_true, String.isEmpty_iff, ← String.toList_inj, hr]
    simp

/-- A web URL is written as its scheme, `://`, its location and its path, then its query after
`?` and its fragment after `#`. -/
theorem join_web {scheme net path q f : String} (hs : scheme ∈ webSchemes)
    (hpath : path.toList.head? = some '/') :
    (Parts.mk scheme net path q f).join =
      scheme ++ "://" ++ net ++ path ++ marked '?' q ++ marked '#' f := by
  obtain ⟨-, hnl, hne, -⟩ := webScheme_reads hs
  have hstart := (startsWith_slash hpath).1
  have hsep : ∀ x : String, ":" ++ ("//" ++ x) = "://" ++ x := fun x => by
    rw [← String.append_assoc]
    rfl
  have hmark : ∀ c : Char, String.singleton c = String.ofList [c] := fun _ => rfl
  have hq : String.singleton '?' = "?" := rfl
  have hh : String.singleton '#' = "#" := rfl
  simp only [Parts.join, hnl, hne, hstart, Bool.not_false, Bool.not_true, Bool.or_true, Bool.true_or,
    Bool.and_true, Bool.and_false, if_true, Bool.false_eq_true, if_false, marked]
  split_ifs <;> simp only [String.append_assoc, String.append_empty, hsep, hq, hh]

/-- The URL written from a web scheme, a network location, a plain path, a query with no `#`
and a fragment splits back into those parts. -/
theorem split?_join {scheme net path q f : String} (hs : scheme ∈ webSchemes)
    (hnet : Netloc net.toList) (hp : PlainPath path.toList) (hq : '#' ∉ q.toList)
    (hqu : Unbroken q.toList) (hf : Unbroken f.toList) (d : String) :
    split? (Parts.mk scheme net path q f).join d = some ⟨scheme, net, path, q, f⟩ := by
  let tail := path.toList ++ (marked '?' q).toList ++ (marked '#' f).toList
  have hsep : "://".toList = [':', '/', '/'] := rfl
  have hurl : ((Parts.mk scheme net path q f).join).toList =
      scheme.toList ++ ':' :: '/' :: '/' :: (net.toList ++ tail) := by
    simp [join_web hs hp.head, tail, hsep]
  obtain ⟨-, -, -, hscheme⟩ := webScheme_reads hs
  have hclean : cleanChars (Parts.mk scheme net path q f).join =
      ((Parts.mk scheme net path q f).join).toList := by
    refine cleanChars_eq_self ?_ ?_
    · obtain ⟨rest, hr⟩ := List.head?_eq_some_iff.1 hscheme.1
      simp [hurl, hr]
      decide
    · rw [hurl]
      refine hscheme.2.append fun c hc => ?_
      simp only [List.mem_cons] at hc
      rcases hc with rfl | rfl | rfl | hc
      · decide
      · decide
      · decide
      · exact (hnet.unbroken.append ((hp.unbroken.append (hqu.marked (by decide))).append
          (hf.marked (by decide)))) c hc
  obtain ⟨hhash, hquery⟩ := cutAt_parts hp hq f
  simp only [split?, hclean, hurl, splitOffScheme_web hs,
    splitOffNetloc?_of_netloc hnet (by simp [tail, hp.head] : tail.head? = some '/'), tail,
    hhash, hquery, Option.bind_eq_bind, Option.bind_some, Option.pure_def, String.ofList_toList]

/-! ### Resolving a path against a web address -/

/-- Joining the pieces of a text cut at a character gives the text back. -/
theorem intercalate_splitAt (c : Char) (s : String) :
    (String.singleton c).intercalate (Text.splitAt c s) = s := by
  rw [← String.toList_inj, String.toList_intercalate, Text.splitAt, List.map_map]
  simp [Function.comp_def, String.toList_ofList, List.intercalate_splitOn]

/-- A fold that appends every item it meets, as long as the items allow it, appends them all. -/
theorem foldl_append_of_forall {α : Type} {P : α → Prop} {f : List α → α → List α}
    (hf : ∀ acc x, P x → f acc x = acc ++ [x]) :
    ∀ (xs acc : List α), (∀ x ∈ xs, P x) → xs.foldl f acc = acc ++ xs
  | [], acc, _ => by simp
  | x :: xs, acc, h => by
    rw [List.foldl_cons, hf acc x (h x List.mem_cons_self),
      foldl_append_of_forall hf xs _ fun y hy => h y (List.mem_cons_of_mem x hy)]
    simp

/-- Segments with no `.` or `..` among them are kept as they are. -/
theorem resolveSegments_of_forall {segs : List String}
    (h : ∀ s ∈ segs, s ≠ "." ∧ s ≠ "..") : resolveSegments segs = segs := by
  unfold resolveSegments
  rw [foldl_append_of_forall (P := fun s => s ≠ "." ∧ s ≠ "..") ?_ segs [] h, List.nil_append]
  · split
    · rename_i hlast
      exact absurd rfl (h _ (List.mem_of_getLast? hlast)).1
    · rename_i hlast
      exact absurd rfl (h _ (List.mem_of_getLast? hlast)).2
    · rfl
  · intro acc s hs
    simp [hs.1, hs.2]

theorem splitParams_of_not_mem {scheme path : String} (h : ';' ∉ path.toList) :
    splitParams scheme path = (path, "") := by
  simp [splitParams, String.contains_char_eq, h]

theorem split?_empty (d : String) : split? "" d = some ⟨d, "", "", "", ""⟩ := rfl

/-- A path that resolving keeps as it is: a plain path that starts with a single `/`, with no
`;` parameters and no `.` or `..` segment. -/
structure KeptPath (path : String) : Prop where
  plain : PlainPath path.toList
  single : path.toList.tail.head? ≠ some '/'
  params : ';' ∉ path.toList
  segments : ∀ s ∈ Text.splitAt '/' path, s ≠ "." ∧ s ≠ ".."

/-- A kept path resolved against a web address keeps the address's scheme and location and
replaces its path, query and fragment. -/
theorem resolve?_path {base path q f : String} {b : Parts} (hb : split? base = some b)
    (hweb : b.scheme ∈ webSchemes) (hnet : b.netloc ≠ "") (hp : KeptPath path)
    (hq : '#' ∉ q.toList) (hqu : Unbroken q.toList) (hf : Unbroken f.toList) :
    resolve? base (path ++ marked '?' q ++ marked '#' f) =
      some (Parts.mk b.scheme b.netloc path q f).join := by
  have hbase : base.isEmpty = false := by
    cases hbe : base.isEmpty
    · rfl
    · rw [String.isEmpty_iff.1 hbe, split?_empty, Option.some.injEq] at hb
      exact absurd (congrArg Parts.netloc hb).symm hnet
  have hloc : (path ++ marked '?' q ++ marked '#' f).isEmpty = false :=
    (startsWith_slash (by simp [hp.plain.head])).2
  obtain ⟨hrel, hnl, -⟩ := webScheme_reads hweb
  obtain ⟨hstart, hpath⟩ := startsWith_slash hp.plain.head
  have hjoin : "/".intercalate (resolveSegments (Text.splitAt '/' path)) = path := by
    rw [resolveSegments_of_forall hp.segments]
    exact intercalate_splitAt '/' path
  have hempty : "".isEmpty = true := rfl
  unfold resolve?
  simp only [hbase, hloc, hb, split?_path hp.plain hp.single hq hqu hf b.scheme,
    splitParams_of_not_mem hp.params, Option.bind_eq_bind, Option.bind_some, Bool.false_eq_true,
    if_false, bne_self_eq_false, hrel, hnl, Bool.not_true, Bool.or_false, hempty, Bool.false_and,
    hpath, hstart, if_true, hjoin, Bool.and_false, withParams]
  rfl

end TransitKit.Url
