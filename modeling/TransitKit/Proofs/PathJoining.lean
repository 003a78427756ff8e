import Mathlib
import TransitKit.Proofs.UrlSplitting

/-!
# Joining two path pieces

`joinPaths?` puts a `/` after the first piece, drops the slashes at the start of the second,
and resolves the second against the first as a relative reference. For pieces whose parts
resolving keeps, that is concatenation: the first piece without its trailing slashes, one
`/`, and the second without its leading slashes, its `;` parameters, query and fragment
included (`joinPaths?_eq_concat`). In general it is not: `..` removes the segment before it,
and a `?` with nothing after it is dropped (`joinPaths?_not_concat`).
-/

namespace TransitKit.Url

open Text

/-- A text without the slashes at its end. -/
def dropTrailingSlashes (s : String) : String :=
  String.ofList (s.toList.reverse.dropWhile (· == '/')).reverse

/-- A text without the slashes at its start. -/
def dropLeadingSlashes (s : String) : String := String.ofList (s.toList.dropWhile (· == '/'))

theorem joinPaths?_eq (a b : String) :
    joinPaths? a b = resolve? (a ++ "/") (dropLeadingSlashes b) := rfl

/-- Text that splitting and resolving read segment by segment as it is: no character that
ends a path or that splitting removes, no `.` or `..` segment, no scheme characters followed
by `:` at its start, and no control character or space at its start. -/
structure PlainSegments (s : String) : Prop where
  chars : ∀ c ∈ s.toList, c ∉ ['?', '#', '\t', '\n', '\r']
  noDots : ∀ seg ∈ splitAt '/' s, seg ≠ "." ∧ seg ≠ ".."
  noScheme : (s.toList.dropWhile isSchemeChar).head? ≠ some ':'
  head : ∀ c ∈ s.toList.head?, isLeadingJunk c = false

/-- A relative reference, given by its path, parameters, query and fragment, that splitting
and resolving read as it is: a plain path with no empty segment before its last and no `;`
after its last `/`, where parameters would start, then parameters, a query and a fragment
with no character that ends their part or that splitting removes. -/
structure PlainReference (path params query fragment : String) : Prop where
  plain : PlainSegments path
  inner : ∀ seg ∈ (splitAt '/' path).dropLast, seg ≠ ""
  lastSegment : ';' ∉ path.toList.reverse.takeWhile (· != '/')
  paramChars : ∀ c ∈ params.toList, c ∉ ['/', '?', '#', '\t', '\n', '\r']
  queryChars : ∀ c ∈ query.toList, c ∉ ['#', '\t', '\n', '\r']
  fragmentChars : Unbroken fragment.toList

/-! ### Slashes at the ends -/

theorem splitOn_replicate_slash (k : Nat) :
    (List.replicate k '/').splitOn '/' = List.replicate (k + 1) [] := by
  induction k with
  | zero => rfl
  | succ k ih =>
    rw [List.replicate_succ, ← List.nil_append ('/' :: _), List.splitOn_append_cons_self, ih]
    rfl

/-- Slashes after a text add one empty segment each. -/
theorem splitAt_append_slashes (s : String) (k : Nat) :
    splitAt '/' (String.ofList (s.toList ++ List.replicate (k + 1) '/')) =
      splitAt '/' s ++ List.replicate (k + 1) "" := by
  rw [splitAt, String.toList_ofList, List.replicate_succ, List.splitOn_append_cons_self,
    splitOn_replicate_slash, List.map_append, List.map_replicate, splitAt]

/-- A text is its form without trailing slashes followed by those slashes. -/
theorem exists_eq_dropTrailingSlashes (s : String) :
    ∃ k, s.toList = (dropTrailingSlashes s).toList ++ List.replicate k '/' := by
  let slashes := s.toList.reverse.takeWhile (· == '/')
  have hrep : slashes = List.replicate slashes.length '/' :=
    List.eq_replicate_iff.2 ⟨rfl, fun c hc => by simpa using List.mem_takeWhile_imp hc⟩
  refine ⟨slashes.length, ?_⟩
  calc s.toList = (slashes ++ s.toList.reverse.dropWhile (· == '/')).reverse := by
        rw [List.takeWhile_append_dropWhile, List.reverse_reverse]
    _ = (dropTrailingSlashes s).toList ++ List.replicate slashes.length '/' := by
        rw [List.reverse_append, dropTrailingSlashes, String.toList_ofList]
        conv => lhs; rw [hrep]
        rw [List.reverse_replicate]

theorem head?_dropLeadingSlashes (s : String) :
    (dropLeadingSlashes s).toList.head? ≠ some '/' := by
  intro h
  have hh := List.head?_dropWhile_not (· == '/') s.toList
  simp only [dropLeadingSlashes, String.toList_ofList] at h
  simp [h] at hh

/-! ### Parameters -/

theorem withParams_eq (path params : String) :
    withParams path params = path ++ marked ';' params := by
  by_cases h : params.isEmpty
  · simp [withParams, marked, h]
  · simp only [withParams, marked, h, String.append_assoc]
    rfl

theorem withParams_eq_empty {path params : String} :
    withParams path params = "" ↔ path = "" ∧ params = "" := by
  rw [withParams_eq, ← String.toList_inj, String.toList_append, toList_marked]
  by_cases h : params.isEmpty
  · simp [String.isEmpty_iff.1 h]
  · have hne : params ≠ "" := fun he => h (String.isEmpty_iff.2 he)
    simp [h, hne]

theorem mem_head?_marked {mark c : Char} {s : String} (h : c ∈ (marked mark s).toList.head?) :
    c = mark := by
  rw [toList_marked] at h
  split at h
  · cases h
  · exact (Option.some.inj h).symm

theorem mem_head?_append {xs ys : List Char} {c : Char} (h : c ∈ (xs ++ ys).head?) :
    c ∈ xs.head? ∨ c ∈ ys.head? := by
  cases xs with
  | nil => exact .inr h
  | cons x xs => exact .inl h

/-- The last `c` of a text followed by text without one stands where that text starts. -/
theorem lastIndexOf?_append_cons {c : Char} {xs ys : List Char} (h : c ∉ ys) :
    lastIndexOf? c (xs ++ c :: ys) = some xs.length := by
  have hidx : (ys.reverse ++ c :: xs.reverse).idxOf? c = some ys.length := by
    simpa using idxOf?_append_cons (b := xs.reverse) (fun hm => h (List.mem_reverse.1 hm))
  simp only [lastIndexOf?, List.reverse_append, List.reverse_cons, List.append_assoc,
    List.singleton_append, hidx, Option.map_some, List.length_append, List.length_cons]
  congr 1
  omega

theorem lastIndexOf?_of_not_mem {c : Char} {ys : List Char} (h : c ∉ ys) :
    lastIndexOf? c ys = none := by
  simp [lastIndexOf?, h]

/-- A text is what comes up to its last `/`, and the last segment after it. -/
theorem eq_append_lastSegment (cs : List Char) :
    cs = (cs.reverse.dropWhile (· != '/')).reverse ++ (cs.reverse.takeWhile (· != '/')).reverse := by
  rw [← List.reverse_append, List.takeWhile_append_dropWhile, List.reverse_reverse]

/-- `splitParams` reads the parameters of a path after the first `;` it finds from the last
`/` on: when the text from there holds no `;`, the parameters written after it are read
back. -/
theorem splitParams_cut {path params : String} {start : Nat} {pre : List Char}
    (hstart : (lastIndexOf? '/' (path.toList ++ (marked ';' params).toList)).getD 0 = start)
    (hle : start ≤ path.toList.length) (hdrop : path.toList.drop start = pre)
    (hpre : ';' ∉ pre) :
    splitParams "" (path ++ marked ';' params) = (path, params) := by
  by_cases hpar : params.isEmpty
  · obtain rfl : params = "" := String.isEmpty_iff.1 hpar
    have hmarked : marked ';' "" = "" := rfl
    rw [hmarked, String.toList_empty, List.append_nil] at hstart
    rw [hmarked, String.append_empty]
    unfold splitParams
    split
    · simp [hstart, hdrop, List.idxOf?_eq_none_iff.2 hpre]
    · rfl
  · have hm : (marked ';' params).toList = ';' :: params.toList := by
      simp [toList_marked, hpar]
    have hcontains : (path ++ marked ';' params).contains ';' = true := by
      simp [String.contains_char_eq, hm]
    have hdrop' : (path.toList ++ ';' :: params.toList).drop start = pre ++ ';' :: params.toList := by
      rw [List.drop_append_of_le_length hle, hdrop]
    have hidx : (pre ++ ';' :: params.toList).idxOf? ';' = some pre.length :=
      idxOf?_append_cons hpre
    have hpl : start + pre.length = path.toList.length := by
      rw [← hdrop, List.length_drop]
      omega
    rw [hm] at hstart
    unfold splitParams
    simp only [show paramSchemes.contains "" = true by decide, hcontains, Bool.and_true, if_true,
      String.toList_append, hm, hstart, hdrop', hidx, hpl]
    rw [List.take_append_of_le_length (le_refl _), List.take_length, String.ofList_toList]
    simp

/-- Parameters written after a path whose last segment holds no `;` are read back. -/
theorem splitParams_withParams {path params : String}
    (hlast : ';' ∉ path.toList.reverse.takeWhile (· != '/')) (hp : '/' ∉ params.toList) :
    splitParams "" (withParams path params) = (path, params) := by
  rw [withParams_eq]
  have hm : '/' ∉ (marked ';' params).toList := fun h => (mem_marked h).elim (by decide) hp
  set v := (path.toList.reverse.takeWhile (· != '/')).reverse with hv
  have hvsemi : ';' ∉ v := fun h => hlast (List.mem_reverse.1 h)
  have hvslash : '/' ∉ v := fun h => by
    simpa using List.mem_takeWhile_imp (List.mem_reverse.1 h)
  have hdecomp : path.toList = (path.toList.reverse.dropWhile (· != '/')).reverse ++ v :=
    eq_append_lastSegment _
  cases hd : path.toList.reverse.dropWhile (· != '/') with
  | nil =>
    rw [hd, List.reverse_nil, List.nil_append] at hdecomp
    have hnone : lastIndexOf? '/' (path.toList ++ (marked ';' params).toList) = none := by
      refine lastIndexOf?_of_not_mem fun h => ?_
      rw [hdecomp, List.mem_append] at h
      exact h.elim hvslash hm
    exact splitParams_cut (by rw [hnone]; rfl) (Nat.zero_le _) rfl
      (by rw [List.drop_zero, hdecomp]; exact hvsemi)
  | cons x d =>
    have hx : x = '/' := by
      simpa [hd] using List.head?_dropWhile_not (· != '/') path.toList.reverse
    subst hx
    rw [hd, List.reverse_cons, List.append_assoc, List.singleton_append] at hdecomp
    have hlastIdx : lastIndexOf? '/' (path.toList ++ (marked ';' params).toList) =
        some d.reverse.length := by
      rw [hdecomp, List.append_assoc, List.cons_append]
      refine lastIndexOf?_append_cons fun h => ?_
      rw [List.mem_append] at h
      exact h.elim hvslash hm
    have hstart : (lastIndexOf? '/' (path.toList ++ (marked ';' params).toList)).getD 0 =
        d.reverse.length := by
      rw [hlastIdx]
      rfl
    exact splitParams_cut hstart (by simp [hdecomp]) (by rw [hdecomp, List.drop_left])
      (by simp [hvsemi])

/-- A path that ends with `/` has no parameters. -/
theorem splitParams_of_getLast? {path : String} (h : path.toList.getLast? = some '/') :
    splitParams "" path = (path, "") := by
  have hlast : path.toList.reverse.takeWhile (· != '/') = [] := by
    obtain ⟨rest, hrest⟩ := List.head?_eq_some_iff.1 (by rwa [List.head?_reverse])
    rw [hrest]
    simp
  simpa [withParams] using @splitParams_withParams _ "" (by rw [hlast]; simp) (by simp)

/-! ### Splitting a plain reference -/

/-- A text that does not start with scheme characters and a `:` is read without a scheme. -/
theorem splitOffScheme_of_noScheme {cs : List Char}
    (h : (cs.dropWhile isSchemeChar).head? ≠ some ':') (d : String) :
    splitOffScheme d cs = (d, cs) := by
  cases cs with
  | nil => rfl
  | cons c rest =>
    unfold splitOffScheme
    split
    · rename_i i hi
      have hnot : ((c :: rest).take i).all isSchemeChar = false := by
        rw [Bool.eq_false_iff]
        intro hall
        obtain ⟨hlt, hget, -⟩ := List.idxOf?_eq_some_iff.1 hi
        have hdrop : (c :: rest).drop i = ':' :: (c :: rest).drop (i + 1) := by
          rw [List.drop_eq_getElem_cons hlt, hget]
        apply h
        rw [← List.take_append_drop i (c :: rest),
          List.dropWhile_append_of_pos (fun a ha => List.all_eq_true.1 hall a ha), hdrop]
        rfl
      simp [hnot]
    · rfl

/-- Text without a scheme followed by text that starts with no scheme character and no `:`
has no scheme either. -/
theorem noScheme_append {s rest : List Char} (hs : (s.dropWhile isSchemeChar).head? ≠ some ':')
    (hrest : ∀ c ∈ rest.head?, isSchemeChar c = false ∧ c ≠ ':') :
    ((s ++ rest).dropWhile isSchemeChar).head? ≠ some ':' := by
  rw [List.dropWhile_append]
  split
  · cases rest with
    | nil => simp
    | cons c more =>
      obtain ⟨hc, hcolon⟩ := hrest c rfl
      simp [hc, hcolon]
  · rename_i hne
    obtain ⟨x, xs, hx⟩ : ∃ x xs, s.dropWhile isSchemeChar = x :: xs :=
      List.exists_cons_of_ne_nil fun h => hne (by rw [h]; rfl)
    rw [hx] at hs ⊢
    simpa using hs

/-- A text that does not start with `//` has no location. -/
theorem splitOffNetloc?_of_not_double {cs : List Char} (h : cs.take 2 ≠ ['/', '/']) :
    splitOffNetloc? cs = some ("", cs) := by
  unfold splitOffNetloc?
  split
  · simp at h
  · rfl

/-- Text that does not start with `//`, followed by text that does not start with `/`, does
not start with `//`. -/
theorem take_two_append {xs ys : List Char} (hx : xs.take 2 ≠ ['/', '/'])
    (hy : ys.head? ≠ some '/') : (xs ++ ys).take 2 ≠ ['/', '/'] := by
  match xs, ys with
  | [], [] => simp
  | [], y :: ys => simpa using fun h => absurd h (by simpa using hy)
  | [x], [] => simp
  | [x], y :: ys => simpa using fun _ => hy
  | x :: x' :: xs, ys => simpa using hx

/-- A plain path followed by parameters, a query and a fragment, with their marks, splits
into those parts. -/
theorem split?_reference {path params query fragment : String} (hp : PlainSegments path)
    (hparams : ∀ c ∈ params.toList, c ∉ ['/', '?', '#', '\t', '\n', '\r'])
    (hq : ∀ c ∈ query.toList, c ∉ ['#', '\t', '\n', '\r']) (hf : Unbroken fragment.toList)
    (hdouble : path.toList.take 2 ≠ ['/', '/']) (d : String) :
    split? (withParams path params ++ marked '?' query ++ marked '#' fragment) d =
      some ⟨d, "", withParams path params, query, fragment⟩ := by
  let mp := (marked ';' params).toList
  let mq := (marked '?' query).toList
  let mf := (marked '#' fragment).toList
  have hurl : (withParams path params ++ marked '?' query ++ marked '#' fragment).toList =
      path.toList ++ mp ++ mq ++ mf := by
    simp only [withParams_eq, String.toList_append, mp, mq, mf]
  have hmarks : ∀ c ∈ (mp ++ mq ++ mf).head?, c = ';' ∨ c = '?' ∨ c = '#' := by
    intro c hc
    rcases mem_head?_append hc with hc | hc
    · rcases mem_head?_append hc with hc | hc
      · exact .inl (mem_head?_marked hc)
      · exact .inr (.inl (mem_head?_marked hc))
    · exact .inr (.inr (mem_head?_marked hc))
  have hall : path.toList ++ mp ++ mq ++ mf = path.toList ++ (mp ++ mq ++ mf) := by
    simp only [List.append_assoc]
  have hclean : cleanChars (withParams path params ++ marked '?' query ++ marked '#' fragment) =
      path.toList ++ mp ++ mq ++ mf := by
    rw [cleanChars_eq_self, hurl]
    · intro c hc
      rw [hurl, hall] at hc
      rcases mem_head?_append hc with hc | hc
      · exact hp.head c hc
      · rcases hmarks c hc with rfl | rfl | rfl <;> decide
    · rw [hurl]
      have hunbroken : Unbroken (path.toList ++ mp ++ mq ++ mf) :=
        ((Unbroken.of_forall hp.chars (by decide)).append
          ((Unbroken.of_forall hparams (by decide)).marked (by decide))).append
            ((Unbroken.of_forall hq (by decide)).marked (by decide)) |>.append (hf.marked (by decide))
      exact hunbroken
  have hscheme : splitOffScheme d (path.toList ++ mp ++ mq ++ mf) =
      (d, path.toList ++ mp ++ mq ++ mf) := by
    refine splitOffScheme_of_noScheme ?_ d
    rw [hall]
    refine noScheme_append hp.noScheme fun c hc => ?_
    rcases hmarks c hc with rfl | rfl | rfl <;> decide
  have hnetloc : splitOffNetloc? (path.toList ++ mp ++ mq ++ mf) =
      some ("", path.toList ++ mp ++ mq ++ mf) := by
    refine splitOffNetloc?_of_not_double ?_
    rw [hall]
    refine take_two_append hdouble fun h => ?_
    rcases hmarks '/' h with h | h | h <;> cases h
  have hnohash : '#' ∉ path.toList ++ mp ++ mq := by
    intro h
    simp only [List.mem_append] at h
    rcases h with (h | h) | h
    · exact hp.chars '#' h (by simp)
    · exact (mem_marked h).elim (by decide) fun h => hparams '#' h (by simp)
    · exact (mem_marked h).elim (by decide) fun h => hq '#' h (by simp)
  have hnoquery : '?' ∉ path.toList ++ mp := by
    intro h
    rcases List.mem_append.1 h with h | h
    · exact hp.chars '?' h (by simp)
    · exact (mem_marked h).elim (by decide) fun h => hparams '?' h (by simp)
  have hpath : String.ofList (path.toList ++ mp) = withParams path params := by
    rw [withParams_eq, ← String.toList_inj]
    simp [mp]
  have hcutFragment : cutAt '#' (path.toList ++ mp ++ mq ++ mf) = (path.toList ++ mp ++ mq, fragment) :=
    cutAt_marked hnohash fragment
  have hcutQuery : cutAt '?' (path.toList ++ mp ++ mq) = (path.toList ++ mp, query) :=
    cutAt_marked hnoquery query
  simp only [split?, hclean, hscheme, hnetloc, hcutFragment, hcutQuery, hpath, Option.bind_eq_bind,
    Option.bind_some, Option.pure_def]

/-! ### The base: the first piece and a slash -/

/-- A first piece whose segments after the first are not empty does not start with `//`, and
is no lone `/`. -/
theorem take_two_of_inner {s : String} (h : ∀ seg ∈ (splitAt '/' s).tail, seg ≠ "") :
    s.toList.take 2 ≠ ['/', '/'] ∧ s.toList ≠ ['/'] := by
  have hempty : ∀ rest : List Char, s.toList = '/' :: rest → rest.head? ≠ some '/' ∧ rest ≠ [] := by
    intro rest hs
    have hsegs : splitAt '/' s = "" :: (rest.splitOn '/').map String.ofList := by
      rw [splitAt, hs, List.splitOn_cons_eq_if_modifyHead]
      simp
    rw [hsegs, List.tail_cons] at h
    constructor
    · intro hr
      obtain ⟨more, rfl⟩ := List.head?_eq_some_iff.1 hr
      exact h "" (by simp [List.splitOn_cons_eq_if_modifyHead]) rfl
    · rintro rfl
      exact h "" (by simp) rfl
  constructor
  · intro h2
    obtain ⟨rest, hrest⟩ : ∃ rest, s.toList = '/' :: '/' :: rest :=
      ⟨s.toList.drop 2, by rw [← List.take_append_drop 2 s.toList, h2]; rfl⟩
    exact (hempty _ hrest).1 rfl
  · intro h1
    exact (hempty [] h1).2 rfl

theorem splitAt_empty : splitAt '/' "" = [""] := rfl

/-- Empty segments after a list of segments that ends in one, or of which there is one, leave
the last segment empty. -/
theorem getLastD_append_empties {A : List String} {j : Nat} (h : 0 < j ∨ A.getLastD "" = "") :
    (A ++ List.replicate j "").getLastD "" = "" := by
  cases j with
  | zero => simpa using h
  | succ j => simp [List.getLastD_eq_getLast?, List.getLast?_append, List.getLast?_replicate]

/-- The base made of the first piece and a `/` splits into a path whose segments are those of
the first piece without its trailing slashes, followed by empty ones; the path has no
parameters, and it is the base itself when the first piece has no trailing slashes. -/
theorem split?_base {a : String} (ha : PlainSegments (dropTrailingSlashes a))
    (hinner : ∀ seg ∈ (splitAt '/' (dropTrailingSlashes a)).tail, seg ≠ "") :
    ∃ bpath j, split? (a ++ "/") = some ⟨"", "", bpath, "", ""⟩ ∧
      splitAt '/' bpath = splitAt '/' (dropTrailingSlashes a) ++ List.replicate j "" ∧
      (splitAt '/' bpath).getLastD "" = "" ∧ splitParams "" bpath = (bpath, "") ∧
      (dropTrailingSlashes a = a → bpath = a ++ "/") := by
  obtain ⟨k, hk⟩ := exists_eq_dropTrailingSlashes a
  set a' := dropTrailingSlashes a with ha'
  have hbase : (a ++ "/").toList = a'.toList ++ List.replicate (k + 1) '/' := by
    rw [String.toList_append, hk, List.append_assoc, List.replicate_succ']
    rfl
  have hbase' : a ++ "/" = String.ofList (a'.toList ++ List.replicate (k + 1) '/') := by
    rw [← hbase, String.ofList_toList]
  by_cases hdouble : a' = "" ∧ 0 < k
  · obtain ⟨ha0, hk0⟩ := hdouble
    set rest := List.replicate (k - 1) '/' with hrest'
    have hrest : (a ++ "/").toList = '/' :: '/' :: rest := by
      rw [hbase, ha0, show k + 1 = (k - 1) + 1 + 1 by omega]
      rfl
    have hsegs : splitAt '/' (String.ofList rest) = [""] ++ List.replicate (k - 1) "" := by
      cases hk1 : k - 1 with
      | zero => rw [hrest', hk1]; rfl
      | succ m => simpa [hrest', hk1, splitAt_empty] using splitAt_append_slashes "" m
    refine ⟨String.ofList rest, k - 1, ?_, ?_, ?_, ?_, fun haa => ?_⟩
    · have hclean : cleanChars (a ++ "/") = (a ++ "/").toList :=
        cleanChars_eq_self (by simp [hrest, isLeadingJunk])
          (fun c hc => by rw [hrest] at hc; simp [hrest'] at hc; rcases hc with rfl | ⟨-, rfl⟩ <;> decide)
      have hloc : splitOffNetloc? ('/' :: '/' :: rest) = some ("", rest) := by
        cases hk1 : k - 1 with
        | zero => simp [hrest', hk1, splitOffNetloc?]
        | succ m => simp [hrest', hk1, splitOffNetloc?, List.replicate_succ]
      have hnot : ∀ c ∈ ['#', '?'], c ∉ rest := by
        intro c hc hm
        simp [hrest'] at hc hm
        rcases hc with rfl | rfl <;> simp at hm
      simp only [split?, hclean, hrest,
        splitOffScheme_slash (show ('/' :: '/' :: rest).head? = some '/' from rfl), hloc,
        cutAt_of_not_mem (hnot '#' (by simp)), cutAt_of_not_mem (hnot '?' (by simp)),
        Option.bind_eq_bind, Option.bind_some, Option.pure_def]
    · rw [ha0, splitAt_empty, hsegs]
    · rw [hsegs]
      exact getLastD_append_empties (Or.inr rfl)
    · exact splitParams_of_not_mem (by simp [hrest'])
    · have hk' : k = 0 := by
        have hlen := congrArg List.length hk
        rw [haa, List.length_append, List.length_replicate] at hlen
        omega
      omega
  · have hplain : PlainSegments (a ++ "/") := by
      refine ⟨fun c hc => ?_, fun seg hseg => ?_, ?_, fun c hc => ?_⟩
      · rw [hbase, List.mem_append] at hc
        rcases hc with hc | hc
        · exact ha.chars c hc
        · rw [List.eq_of_mem_replicate hc]
          decide
      · rw [hbase', splitAt_append_slashes] at hseg
        rcases List.mem_append.1 hseg with hseg | hseg
        · exact ha.noDots seg hseg
        · rw [List.eq_of_mem_replicate hseg]
          decide
      · rw [hbase]
        refine noScheme_append ha.noScheme fun c hc => ?_
        rw [List.head?_replicate, if_neg (Nat.succ_ne_zero k)] at hc
        obtain rfl := Option.mem_some_iff.1 hc
        decide
      · rw [hbase, List.head?_append] at hc
        cases ha0 : a'.toList.head? with
        | none =>
          simp only [ha0, Option.none_or, List.head?_replicate] at hc
          simp only [Nat.add_one_ne_zero, if_false, Option.mem_def, Option.some.injEq] at hc
          rw [← hc]
          rfl
        | some x =>
          simp only [ha0, Option.some_or, Option.mem_def, Option.some.injEq] at hc
          exact hc ▸ ha.head x ha0
    have hnotdouble : (a ++ "/").toList.take 2 ≠ ['/', '/'] := by
      obtain ⟨h2, h1⟩ := take_two_of_inner hinner
      rw [hbase]
      intro htake
      cases ha0 : a'.toList with
      | nil =>
        have hk0 : k = 0 := by
          by_contra hk
          exact hdouble ⟨String.toList_eq_nil_iff.1 ha0, Nat.pos_of_ne_zero hk⟩
        rw [ha0, hk0] at htake
        simp at htake
      | cons x rest =>
        cases rest with
        | nil =>
          rw [ha0] at htake h1
          simp at htake
          exact h1 (by rw [htake])
        | cons y more =>
          rw [ha0] at htake h2
          simp at htake h2
          exact h2 htake.1 htake.2
    have hsegs : splitAt '/' (a ++ "/") = splitAt '/' a' ++ List.replicate (k + 1) "" := by
      rw [hbase', splitAt_append_slashes]
    have hsplit : split? (a ++ "/") = some ⟨"", "", a ++ "/", "", ""⟩ := by
      simpa [withParams, marked] using
        @split?_reference _ "" "" "" hplain (by simp) (by simp)
          (by simp [Unbroken]) hnotdouble ""
    refine ⟨a ++ "/", k + 1, hsplit, hsegs, ?_, splitParams_of_getLast? (by simp), fun _ => rfl⟩
    rw [hsegs]
    exact getLastD_append_empties (Or.inl (Nat.succ_pos k))

/-! ### Merging, resolving and writing back -/

/-- Merging a base directory of segments followed by empty ones with a relative path drops
the empty segments between the two and keeps all others. -/
theorem mergeSegments_append_empties {A : List String} {rel : String} (j : Nat) (hA : A ≠ [])
    (hAin : ∀ s ∈ A.tail, s ≠ "") (hrel : ∀ s ∈ (splitAt '/' rel).dropLast, s ≠ "") :
    mergeSegments (A ++ List.replicate j "") rel = A ++ splitAt '/' rel := by
  obtain ⟨x, xs, rfl⟩ := List.exists_cons_of_ne_nil hA
  obtain ⟨B, z, hB⟩ : ∃ B z, splitAt '/' rel = B ++ [z] := by
    rcases List.eq_nil_or_concat (splitAt '/' rel) with h | ⟨B, z, h⟩
    · exact absurd h (by simp [splitAt])
    · exact ⟨B, z, by simpa using h⟩
  rw [hB, List.dropLast_concat] at hrel
  have hfilter : (xs ++ List.replicate j "" ++ B).filter (· != "") = xs ++ B := by
    have hxs : xs.filter (· != "") = xs := List.filter_eq_self.2 (by simpa using hAin)
    have hB' : B.filter (· != "") = B := List.filter_eq_self.2 (by simpa using hrel)
    have hempty : (List.replicate j "").filter (· != "") = [] :=
      List.filter_eq_nil_iff.2 fun s hs => by simp [List.eq_of_mem_replicate hs]
    rw [List.filter_append, List.filter_append, hxs, hB', hempty, List.append_nil]
  unfold mergeSegments
  rw [hB, show x :: xs ++ List.replicate j "" ++ (B ++ [z]) =
    x :: (xs ++ List.replicate j "" ++ B ++ [z]) by simp]
  simp only [List.getLast?_concat, List.dropLast_concat, hfilter]
  simp

/-- A path with no location is written with its query after `?` and its fragment after `#`,
unless it starts with `//` (which would read as a location). -/
theorem join_relative {p q f : String} (hp : p.toList.take 2 ≠ ['/', '/']) :
    (Parts.mk "" "" p q f).join = p ++ marked '?' q ++ marked '#' f := by
  have hstart : p.startsWith "//" = false := by
    rw [← Bool.not_eq_true, String.startsWith_string_iff, List.prefix_iff_eq_take]
    exact fun h => hp (by simpa using h.symm)
  by_cases hq : q.isEmpty <;> by_cases hf : f.isEmpty <;>
    simp [Parts.join, hstart, marked, hq, hf, String.append_assoc]

/-- A reference with a path or parameters, resolved against a base that splits into a path
alone whose last segment is empty, is the base path's segments merged with its own path,
written back with its parameters, query and fragment. -/
theorem resolve?_relative {base bpath path params query fragment P : String} (hbase : base ≠ "")
    (hb : split? base = some ⟨"", "", bpath, "", ""⟩) (hbp : splitParams "" bpath = (bpath, ""))
    (hr : split? (withParams path params ++ marked '?' query ++ marked '#' fragment) "" =
      some ⟨"", "", withParams path params, query, fragment⟩)
    (hrp : splitParams "" (withParams path params) = (path, params))
    (hne : withParams path params ≠ "") (hstart : path.startsWith "/" = false)
    (hlast : (splitAt '/' bpath).getLastD "" = "")
    (hmerge : "/".intercalate (resolveSegments (mergeSegments (splitAt '/' bpath) path)) = P)
    (hP : P ≠ "") :
    resolve? base (withParams path params ++ marked '?' query ++ marked '#' fragment) =
      some (Parts.mk "" "" (withParams P params) query fragment).join := by
  have hbase' : base.isEmpty = false := by simpa using hbase
  have href : (withParams path params ++ marked '?' query ++ marked '#' fragment).isEmpty =
      false := by
    rw [← Bool.not_eq_true, String.isEmpty_iff, ← String.toList_inj]
    simp only [String.toList_append, String.toList_empty, List.append_eq_nil_iff]
    exact fun h => hne (String.toList_eq_nil_iff.1 h.1.1)
  have hpp : (path.isEmpty && params.isEmpty) = false := by
    rw [Bool.eq_false_iff]
    intro h
    simp only [Bool.and_eq_true, String.isEmpty_iff] at h
    exact hne (withParams_eq_empty.2 h)
  have hP' : P.isEmpty = false := by simpa using hP
  have hempty : "".isEmpty = true := rfl
  have hrel0 : relativeSchemes.contains "" = true := by decide
  have hnet0 : netlocSchemes.contains "" = true := by decide
  unfold resolve?
  simp only [hbase', href, hb, hr, Bool.false_eq_true, if_false, Option.bind_eq_bind,
    Option.bind_some, bne_self_eq_false, hrel0, Bool.not_true, Bool.or_false, hbp, hrp, hnet0,
    hempty, if_true, hpp, hstart, hlast, hmerge, hP']
  rfl

/-- A reference of a query or fragment alone, resolved against a base that splits into a path
alone, keeps the base path. -/
theorem resolve?_queryOnly {base bpath query fragment : String} (hbase : base ≠ "")
    (hb : split? base = some ⟨"", "", bpath, "", ""⟩) (hbp : splitParams "" bpath = (bpath, ""))
    (hne : marked '?' query ++ marked '#' fragment ≠ "")
    (hr : split? (marked '?' query ++ marked '#' fragment) "" = some ⟨"", "", "", query, fragment⟩) :
    resolve? base (marked '?' query ++ marked '#' fragment) =
      some (Parts.mk "" "" bpath query fragment).join := by
  have hbase' : base.isEmpty = false := by simpa using hbase
  have href : (marked '?' query ++ marked '#' fragment).isEmpty = false := by simpa using hne
  have hempty : "".isEmpty = true := rfl
  have hrel0 : relativeSchemes.contains "" = true := by decide
  have hnet0 : netlocSchemes.contains "" = true := by decide
  have hquery : (if query.isEmpty then "" else query) = query := by
    split
    · rename_i h
      exact (String.isEmpty_iff.1 h).symm
    · rfl
  unfold resolve?
  simp only [hbase', href, hb, hr, Bool.false_eq_true, if_false, Option.bind_eq_bind,
    Option.bind_some, bne_self_eq_false, hrel0, Bool.not_true, Bool.or_false, hbp,
    splitParams_of_not_mem (by simp : ';' ∉ "".toList), hnet0, hempty, Bool.and_self, if_true,
    hquery]
  rfl

/-! ### Joining plain pieces -/

/-- Resolving a plain reference against a first piece followed by `/` is concatenation: the
first piece without its trailing slashes, one `/`, and the reference. The first piece,
trailing slashes dropped, must have no empty segment after its first, and a reference with
no path and no parameters needs a first piece without trailing slashes. -/
theorem resolve?_concat {a path params query fragment : String}
    (ha : PlainSegments (dropTrailingSlashes a))
    (hainner : ∀ seg ∈ (splitAt '/' (dropTrailingSlashes a)).tail, seg ≠ "")
    (hr : PlainReference path params query fragment) (hslash : path.toList.head? ≠ some '/')
    (hend : withParams path params ≠ "" ∨ dropTrailingSlashes a = a) :
    resolve? (a ++ "/") (withParams path params ++ marked '?' query ++ marked '#' fragment) =
      some (dropTrailingSlashes a ++ "/" ++
        (withParams path params ++ marked '?' query ++ marked '#' fragment)) := by
  set a' := dropTrailingSlashes a
  obtain ⟨bpath, j, hsplit, hsegs, hlast, hbp, hbpath⟩ := split?_base ha hainner
  have hdouble : path.toList.take 2 ≠ ['/', '/'] := fun h => hslash (by
    rw [← List.take_append_drop 2 path.toList, h]
    rfl)
  have hsr := split?_reference hr.plain hr.paramChars hr.queryChars hr.fragmentChars hdouble ""
  have hparams : '/' ∉ params.toList := fun h => hr.paramChars '/' h (by simp)
  have hnotdouble : ∀ t : String, t.toList.head? ≠ some '/' →
      (a' ++ "/" ++ t).toList.take 2 ≠ ['/', '/'] := by
    intro t ht
    obtain ⟨h2, h1⟩ := take_two_of_inner hainner
    intro h
    cases ha0 : a'.toList with
    | nil =>
      cases ht' : t.toList with
      | nil => simp [ha0, ht'] at h
      | cons y ys =>
        simp [ha0, ht'] at h
        exact ht (by simp [ht', h])
    | cons x rest =>
      cases rest with
      | nil =>
        simp [ha0] at h
        exact h1 (by rw [ha0, h])
      | cons y more =>
        simp [ha0] at h h2
        exact h2 h.1 h.2
  by_cases hwp : withParams path params = ""
  · have ha0 : a' = a := hend.resolve_left (not_not.2 hwp)
    obtain ⟨rfl, rfl⟩ := withParams_eq_empty.1 hwp
    have hwp' : withParams "" "" = "" := hwp
    rw [hwp', String.empty_append] at hsr ⊢
    by_cases hqf : marked '?' query ++ marked '#' fragment = ""
    · rw [hqf, String.append_empty, ← ha0]
      simp [resolve?]
    · have hbdouble : (a' ++ "/").toList.take 2 ≠ ['/', '/'] := by
        simpa using hnotdouble "" (by simp)
      rw [resolve?_queryOnly (by simp) hsplit hbp hqf hsr, hbpath ha0, ← ha0,
        join_relative hbdouble]
      simp only [String.append_assoc]
  · have hmerge : mergeSegments (splitAt '/' bpath) path = splitAt '/' a' ++ splitAt '/' path := by
      rw [hsegs]
      exact mergeSegments_append_empties j (by simp [splitAt]) hainner hr.inner
    have hkept : resolveSegments (splitAt '/' a' ++ splitAt '/' path) =
        splitAt '/' a' ++ splitAt '/' path :=
      resolveSegments_of_forall fun seg hseg =>
        (List.mem_append.1 hseg).elim (ha.noDots seg) (hr.plain.noDots seg)
    have hjoin : "/".intercalate (splitAt '/' a' ++ splitAt '/' path) = a' ++ "/" ++ path := by
      have hsa : "/".intercalate (splitAt '/' a') = a' := intercalate_splitAt '/' a'
      have hsp : "/".intercalate (splitAt '/' path) = path := intercalate_splitAt '/' path
      rw [String.intercalate_append_of_ne_nil (by simp [splitAt]) (by simp [splitAt]), hsa, hsp]
    have hstart : path.startsWith "/" = false := by
      rw [← Bool.not_eq_true, String.startsWith_string_iff]
      rintro ⟨t, ht⟩
      exact hslash (by rw [← ht]; rfl)
    have hwith : withParams (a' ++ "/" ++ path) params = a' ++ "/" ++ withParams path params := by
      rw [withParams_eq, withParams_eq, String.append_assoc]
    have hhead : (withParams path params).toList.head? ≠ some '/' := by
      rw [withParams_eq, String.toList_append]
      intro h
      rcases mem_head?_append h with h | h
      · exact hslash h
      · exact absurd (mem_head?_marked h) (by decide)
    rw [resolve?_relative (by simp) hsplit hbp hsr (splitParams_withParams hr.lastSegment hparams)
      hwp hstart hlast (by rw [hmerge, hkept, hjoin]) (by simp), hwith,
      join_relative (hnotdouble _ hhead)]
    simp only [String.append_assoc]

/-- A plain path joined to the empty prefix gets one leading `/`. -/
theorem joinPaths?_root {b path : String} (hb : dropLeadingSlashes b = path)
    (hr : PlainReference path "" "" "") (hne : path ≠ "") : joinPaths? "" b = some ("/" ++ path) := by
  have hslash : path.toList.head? ≠ some '/' := hb ▸ head?_dropLeadingSlashes b
  have hempty : PlainSegments (dropTrailingSlashes "") :=
    ⟨by simp [dropTrailingSlashes], by decide, by simp [dropTrailingSlashes],
      by simp [dropTrailingSlashes]⟩
  have hjoin := @resolve?_concat "" path "" "" "" hempty (by simp [dropTrailingSlashes, splitAt])
    hr hslash (Or.inl (by simpa [withParams] using hne))
  simpa [joinPaths?_eq, hb, withParams, marked, dropTrailingSlashes] using hjoin

/-- Joining two pieces whose parts resolving keeps is concatenation: the first piece without
its trailing slashes, one `/`, and the second without its leading slashes. The first piece,
trailing slashes dropped, must have no empty segment after its first; the second, leading
slashes dropped, must be a plain path with parameters, query and fragment; and a second piece
with no path and no parameters needs a first piece without trailing slashes. -/
theorem joinPaths?_eq_concat {a b path params query fragment : String}
    (ha : PlainSegments (dropTrailingSlashes a))
    (hainner : ∀ seg ∈ (splitAt '/' (dropTrailingSlashes a)).tail, seg ≠ "")
    (hb : dropLeadingSlashes b = withParams path params ++ marked '?' query ++ marked '#' fragment)
    (hr : PlainReference path params query fragment)
    (hend : withParams path params ≠ "" ∨ dropTrailingSlashes a = a) :
    joinPaths? a b = some (dropTrailingSlashes a ++ "/" ++ dropLeadingSlashes b) := by
  have hslash : path.toList.head? ≠ some '/' := by
    intro h
    apply head?_dropLeadingSlashes b
    rw [hb, withParams_eq]
    obtain ⟨rest, hrest⟩ := List.head?_eq_some_iff.1 h
    simp [hrest]
  rw [joinPaths?_eq, hb]
  exact resolve?_concat ha hainner hr hslash hend

/-- The prefix `/api/v1/` and the path `/users/{id}?page=2` join to
`/api/v1/users/{id}?page=2`. -/
theorem apiPrefix_joins :
    joinPaths? "/api/v1/" "/users/{id}?page=2" = some "/api/v1/users/{id}?page=2" := by
  have ha : dropTrailingSlashes "/api/v1/" = "/api/v1" := by decide +kernel
  have hb : dropLeadingSlashes "/users/{id}?page=2" =
      withParams "users/{id}" "" ++ marked '?' "page=2" ++ marked '#' "" := by decide +kernel
  have hpa : PlainSegments (dropTrailingSlashes "/api/v1/") := by
    rw [ha]
    exact ⟨by simp, by decide +kernel, by decide +kernel, by simp [isLeadingJunk]⟩
  have hr : PlainReference "users/{id}" "" "page=2" "" :=
    ⟨⟨by simp, by decide +kernel, by decide +kernel, by simp [isLeadingJunk]⟩, by decide +kernel,
      by decide +kernel, by simp, by simp, by simp [Unbroken]⟩
  have hjoin := joinPaths?_eq_concat hpa (by rw [ha]; decide +kernel) hb hr
    (Or.inl (by decide +kernel))
  rw [hjoin, ha]
  decide +kernel

/-- Resolving is no concatenation in general: `..` removes the segment before it, so `/a/b`
and `../c` join to `/a/c`, and a `?` with no query after it is dropped, so `/a` and `b?` join
to `/a/b`. -/
theorem joinPaths?_not_concat :
    joinPaths? "/a/b" "../c" = some "/a/c" ∧ joinPaths? "/a" "b?" = some "/a/b" := by
  constructor <;> cbv

end TransitKit.Url
