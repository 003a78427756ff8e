import Mathlib
import TransitKit.Codegen.ModelModule
import TransitKit.Proofs.Outcome

/-!
# Enumeration modules

An enumeration class is made from a list of values and written to a module of its own. Read
back, the module names the `k`-th value with a given member name by that name and a counter
after the first, so every value keeps an entry of its own unless one member name is another's
with such a suffix; a value equal to an earlier member's is an alias and is not written; every
member reads back as a text; and fields of different models whose classes share a name write
one module, the one written last.
-/

namespace TransitKit.Typing

/-! ## Naming the values -/

/-- The member name of a value, before a counter is added. -/
def baseName (v : Json) : String := Naming.enumMemberName v.text

/-- A name with the counter `k`: the name itself for `k ≤ 1`, and the name followed by
`_k` after that. -/
def withCounter (b : String) (k : Nat) : String :=
  if k ≤ 1 then b else b ++ "_" ++ toString k

/-- The names of a list of member names: the `k`-th occurrence of a name gets the
counter `k`. -/
def counterNames (bs : List String) : List String :=
  bs.mapIdx fun i b => withCounter b ((bs.take (i + 1)).count b)

/-- No member name is another's followed by a counter `_2`, `_3`, …; the names the
counter makes are then new when they are made. -/
def SuffixFree (bs : List String) : Prop :=
  ∀ b ∈ bs, ∀ b' ∈ bs, ∀ k, 2 ≤ k → b ≠ b' ++ "_" ++ toString k

theorem SuffixFree.mono {bs bs' : List String} (h : SuffixFree bs') (hs : bs ⊆ bs') :
    SuffixFree bs :=
  fun b hb b' hb' k hk => h b (hs hb) b' (hs hb') k hk

theorem length_counterNames (bs : List String) : (counterNames bs).length = bs.length :=
  List.length_mapIdx

theorem counterNames_concat (bs : List String) (b : String) :
    counterNames (bs ++ [b]) = counterNames bs ++ [withCounter b (bs.count b + 1)] := by
  unfold counterNames
  rw [List.mapIdx_concat]
  congr 1
  · rw [List.mapIdx_eq_mapIdx_iff]
    intro i hi
    rw [List.take_append_of_le_length (by omega)]
  · rw [List.take_of_length_le (by simp), List.count_append, List.count_singleton_self]

/-- Every name is a member name with a counter no greater than its count. -/
theorem mem_counterNames {bs : List String} {x : String} (hx : x ∈ counterNames bs) :
    ∃ b ∈ bs, ∃ k ≤ bs.count b, x = withCounter b k := by
  induction bs using List.reverseRecOn with
  | nil => simp [counterNames] at hx
  | append_singleton bs b ih =>
    rw [counterNames_concat, List.mem_append, List.mem_singleton] at hx
    rcases hx with hx | rfl
    · obtain ⟨b', hb', k, hk, rfl⟩ := ih hx
      exact ⟨b', by simp [hb'], k, by rw [List.count_append]; omega, rfl⟩
    · exact ⟨b, by simp, bs.count b + 1, by simp, rfl⟩

/-- The first occurrence of a member name keeps it. -/
theorem mem_counterNames_of_mem {bs : List String} {b : String} (hb : b ∈ bs) :
    b ∈ counterNames bs := by
  induction bs using List.reverseRecOn with
  | nil => simp at hb
  | append_singleton bs b' ih =>
    rw [counterNames_concat, List.mem_append]
    by_cases hin : b ∈ bs
    · exact Or.inl (ih hin)
    · have hb' : b = b' := by simpa [hin] using hb
      subst hb'
      right
      simp [withCounter, List.count_eq_zero_of_not_mem hin]

/-- The digits of a counter hold no underscore. -/
theorem underscore_not_mem_toString (k : Nat) : '_' ∉ (toString k).toList := by
  intro h
  have hd := Nat.isDigit_of_mem_toDigits (by decide) (by decide)
    (show '_' ∈ Nat.toDigits 10 k from Nat.toList_repr ▸ h)
  exact absurd hd (by decide)

/-- A name with a counter determines the name and the counter. -/
theorem suffixed_inj {b b' : String} {k k' : Nat}
    (h : b ++ "_" ++ toString k = b' ++ "_" ++ toString k') : b = b' ∧ k = k' := by
  have hu : ("_" : String).toList = ['_'] := rfl
  have hl := congrArg (fun s => s.toList.reverse) h
  simp only [String.toList_append, List.reverse_append, hu, List.reverse_singleton,
    List.singleton_append] at hl
  have hrun : ∀ n : Nat, ∀ rest : List Char,
      List.takeWhile (· != '_') ((toString n).toList.reverse ++ '_' :: rest) =
        (toString n).toList.reverse := by
    intro n rest
    rw [List.takeWhile_append_of_pos]
    · simp
    · intro c hc
      have : c ≠ '_' := fun he => underscore_not_mem_toString n (he ▸ List.mem_reverse.1 hc)
      simpa using this
  have hk : toString k = toString k' := by
    have h1 := congrArg (List.takeWhile (· != '_')) hl
    rw [hrun, hrun, List.reverse_inj, String.toList_inj] at h1
    exact h1
  have hkk : k = k' := Nat.repr_inj.1 hk
  subst hkk
  refine ⟨?_, rfl⟩
  rw [← String.toList_inj, ← List.reverse_inj]
  simpa using hl

/-! ## Naming as `namedEntries` takes it -/

/-- One step of `namedEntries`: a name already present is given the next counter of its
member name. -/
def nameStep (st : List (String × Json) × List (String × Nat)) (v : Json) :
    List (String × Json) × List (String × Nat) :=
  let (entries, counts) := st
  let base := baseName v
  if entries.any (·.1 == base) then
    let n := ((counts.lookup base).getD 1) + 1
    let counts := (base, n) :: counts.filter (·.1 != base)
    (setEntry entries (base ++ "_" ++ toString n) v, counts)
  else (setEntry entries base v, (base, 1) :: counts.filter (·.1 != base))

theorem namedEntries_eq_foldl (values : List Json) :
    namedEntries values = (values.foldl nameStep ([], [])).1 := rfl

theorem setEntry_of_not_mem {entries : List (String × Json)} {k : String} (v : Json)
    (hk : k ∉ entries.map (·.1)) : setEntry entries k v = entries ++ [(k, v)] := by
  have hany : entries.any (·.1 == k) = false := by
    rw [List.any_eq_false]
    intro p hp he
    exact hk (List.mem_map.2 ⟨p, hp, by simpa using he⟩)
  simp [setEntry, hany]

theorem map_fst_setEntry (entries : List (String × Json)) (k : String) (v : Json) :
    (setEntry entries k v).map (·.1) =
      if k ∈ entries.map (·.1) then entries.map (·.1) else entries.map (·.1) ++ [k] := by
  by_cases hk : k ∈ entries.map (·.1)
  · have hany : entries.any (·.1 == k) = true := by
      obtain ⟨p, hp, rfl⟩ := List.mem_map.1 hk
      exact List.any_eq_true.2 ⟨p, hp, by simp⟩
    simp only [setEntry, hany, if_true, hk, List.map_map]
    apply List.map_congr_left
    intro p _
    by_cases hp : p.1 = k <;> simp [hp]
  · simp [setEntry_of_not_mem v hk, hk]

theorem lookup_filter_ne {counts : List (String × Nat)} {b b' : String} (h : b' ≠ b) :
    (counts.filter (·.1 != b)).lookup b' = counts.lookup b' := by
  induction counts with
  | nil => rfl
  | cons p counts ih =>
    obtain ⟨k, n⟩ := p
    by_cases hk : k = b
    · subst hk
      have hb' : (b' == k) = false := by simp [h]
      simp [ih, List.lookup_cons, hb']
    · by_cases hq : b' = k
      · subst hq
        simp [hk]
      · have hq' : (b' == k) = false := by simp [hq]
        simp [hk, ih, List.lookup_cons, hq']

theorem lookup_cons_filter (counts : List (String × Nat)) (b b' : String) (n : Nat) :
    ((b, n) :: counts.filter (·.1 != b)).lookup b' =
      if b' = b then some n else counts.lookup b' := by
  by_cases h : b' = b
  · simp [h]
  · have hb : (b' == b) = false := by simp [h]
    simp [h, List.lookup_cons, hb, lookup_filter_ne h]

/-- What the naming state holds after a prefix of the values: each value under its name,
and for each member name the number of values that had it. -/
structure Named (pre : List Json) (st : List (String × Json) × List (String × Nat)) :
    Prop where
  entries_eq : st.1 = (counterNames (pre.map baseName)).zip pre
  counts_eq : ∀ b, st.2.lookup b =
    if (pre.map baseName).count b = 0 then none else some ((pre.map baseName).count b)

theorem Named.names {pre : List Json} {st} (h : Named pre st) :
    st.1.map (·.1) = counterNames (pre.map baseName) := by
  rw [h.entries_eq, List.map_fst_zip (by simp [length_counterNames])]

theorem Named.nil : Named [] ([], []) :=
  ⟨rfl, fun _ => rfl⟩

/-- A member name is taken exactly when an earlier value had it. -/
theorem mem_counterNames_iff {bs : List String} {b : String} (hfree : SuffixFree (bs ++ [b])) :
    b ∈ counterNames bs ↔ 0 < bs.count b := by
  constructor
  · intro hb
    obtain ⟨b', hb', k, hk, hx⟩ := mem_counterNames hb
    unfold withCounter at hx
    split at hx
    · subst hx
      exact List.count_pos_iff.2 hb'
    · exact absurd hx (hfree b (by simp) b' (by simp [hb']) k (by omega))
  · intro hb
    exact mem_counterNames_of_mem (List.count_pos_iff.1 hb)

/-- The next counter of a member name makes a name not yet taken. -/
theorem withCounter_not_mem_counterNames {bs : List String} {b : String}
    (hfree : SuffixFree (bs ++ [b]))
    (hb : 0 < bs.count b) : withCounter b (bs.count b + 1) ∉ counterNames bs := by
  intro hx
  obtain ⟨b', hb', k, hk, hx⟩ := mem_counterNames hx
  have hne : ¬ bs.count b + 1 ≤ 1 := by omega
  unfold withCounter at hx
  rw [if_neg hne] at hx
  split at hx
  · exact hfree b' (by simp [hb']) b (by simp) (bs.count b + 1) (by omega) hx.symm
  · obtain ⟨rfl, rfl⟩ := suffixed_inj hx
    omega

/-- What one step does after a prefix: the value goes under its member name with the next
counter, and that counter is recorded. -/
theorem Named.nameStep_eq {pre : List Json} {entries counts} {v : Json}
    (h : Named pre (entries, counts)) (hfree : SuffixFree (pre.map baseName ++ [baseName v])) :
    nameStep (entries, counts) v =
      (setEntry entries (withCounter (baseName v) ((pre.map baseName).count (baseName v) + 1)) v,
        (baseName v, (pre.map baseName).count (baseName v) + 1) ::
          counts.filter (·.1 != baseName v)) := by
  have htaken : entries.any (·.1 == baseName v) =
      decide (0 < (pre.map baseName).count (baseName v)) := by
    rw [Bool.eq_iff_iff, List.any_eq_true, decide_eq_true_iff, ← mem_counterNames_iff hfree,
      ← h.names]
    simp
  by_cases hm : (pre.map baseName).count (baseName v) = 0
  · have hany : entries.any (·.1 == baseName v) = false := by simp [htaken, hm]
    simp only [nameStep]
    rw [hany, if_neg Bool.false_ne_true, hm]
    simp [withCounter]
  · have hany : entries.any (·.1 == baseName v) = true := by
      rw [htaken]
      exact decide_eq_true (Nat.pos_of_ne_zero hm)
    have hcount : counts.lookup (baseName v) = some ((pre.map baseName).count (baseName v)) := by
      rw [h.counts_eq, if_neg hm]
    have hsuffix : ¬ (pre.map baseName).count (baseName v) + 1 ≤ 1 := by omega
    simp only [nameStep]
    rw [hany, if_pos rfl, hcount, Option.getD_some, withCounter, if_neg hsuffix]

/-- The name a step gives is not yet taken. -/
theorem Named.withCounter_not_mem {pre : List Json} {entries counts} {v : Json}
    (h : Named pre (entries, counts)) (hfree : SuffixFree (pre.map baseName ++ [baseName v])) :
    withCounter (baseName v) ((pre.map baseName).count (baseName v) + 1) ∉
      entries.map (·.1) := by
  rw [h.names]
  by_cases hm : (pre.map baseName).count (baseName v) = 0
  · have hfirst : withCounter (baseName v) (0 + 1) = baseName v := by simp [withCounter]
    rw [hm, hfirst, mem_counterNames_iff hfree, hm]
    exact Nat.lt_irrefl 0
  · exact withCounter_not_mem_counterNames hfree (Nat.pos_of_ne_zero hm)

theorem Named.step {pre : List Json} {st} {v : Json} (h : Named pre st)
    (hfree : SuffixFree ((pre ++ [v]).map baseName)) :
    Named (pre ++ [v]) (nameStep st v) := by
  obtain ⟨entries, counts⟩ := st
  have hfree' : SuffixFree (pre.map baseName ++ [baseName v]) := by simpa using hfree
  have hlen : (counterNames (pre.map baseName)).length = pre.length := by
    simp [length_counterNames]
  have hentries : entries = (counterNames (pre.map baseName)).zip pre := h.entries_eq
  rw [h.nameStep_eq hfree']
  constructor
  · dsimp only
    rw [setEntry_of_not_mem v (h.withCounter_not_mem hfree'), hentries, List.map_append,
      List.map_singleton, counterNames_concat, List.zip_append hlen]
    rfl
  · intro b
    dsimp only
    rw [lookup_cons_filter, List.map_append, List.map_singleton, List.count_append]
    by_cases hb : b = baseName v
    · subst hb
      simp
    · have hb' : ¬ (baseName v = b) := fun he => hb he.symm
      simp [hb, h.counts_eq b, hb']

theorem Named.run {values : List Json} (hfree : SuffixFree (values.map baseName)) :
    Named values (values.foldl nameStep ([], [])) := by
  induction values using List.reverseRecOn with
  | nil => exact Named.nil
  | append_singleton pre v ih =>
    rw [List.foldl_concat]
    have hsub : pre.map baseName ⊆ (pre ++ [v]).map baseName := by simp
    exact (ih (hfree.mono hsub)).step hfree

/-- While no member name is another's with a counter, every value has an entry of its own,
in order, under its member name and counter. -/
theorem namedEntries_eq_zip {values : List Json} (hfree : SuffixFree (values.map baseName)) :
    namedEntries values = (counterNames (values.map baseName)).zip values :=
  (Named.run hfree).entries_eq

/-- The names of the entries are pairwise distinct, whatever the values: a name that is
taken keeps its place. -/
theorem namedEntries_names_nodup (values : List Json) :
    ((namedEntries values).map (·.1)).Nodup := by
  rw [namedEntries_eq_foldl]
  suffices h : ∀ st : List (String × Json) × List (String × Nat), (st.1.map (·.1)).Nodup →
      ((values.foldl nameStep st).1.map (·.1)).Nodup from h ([], []) List.nodup_nil
  induction values with
  | nil => exact fun st h => h
  | cons v values ih =>
    intro st hst
    apply ih
    obtain ⟨entries, counts⟩ := st
    have hset : ∀ k, ((setEntry entries k v).map (·.1)).Nodup := by
      intro k
      rw [map_fst_setEntry]
      split
      · exact hst
      · rename_i hk
        exact hst.append (List.nodup_singleton k) (List.disjoint_singleton.2 hk)
    simp only [nameStep]
    split <;> exact hset _

/-! ## The class made from the values -/

/-- One step of `EnumClass.members`: an entry whose value equals a member's is an alias. -/
def memberStep (acc : List (String × Json)) (p : String × Json) : List (String × Json) :=
  if acc.any fun q => Json.sameValue q.2 p.2 then acc else acc ++ [p]

theorem EnumClass.members_eq_foldl (e : EnumClass) :
    e.members = e.entries.foldl memberStep [] := rfl

/-- The members of a class are some of its entries, in order. -/
theorem EnumClass.members_sublist (e : EnumClass) : e.members.Sublist e.entries := by
  rw [EnumClass.members_eq_foldl]
  suffices h : ∀ acc l : List (String × Json), (l.foldl memberStep acc).Sublist (acc ++ l) by
    simpa using h [] e.entries
  intro acc l
  induction l generalizing acc with
  | nil => simp
  | cons p l ih =>
    rw [List.foldl_cons]
    refine (ih _).trans ?_
    unfold memberStep
    split
    · exact (List.sublist_cons_self p l).append_left acc
    · simp

/-- A made class keeps the entries of its values whose names are not private to it. -/
theorem EnumClass.make?_eq_ok {c : String} {o : List Nat} {values : List Json} {e : EnumClass}
    (h : EnumClass.make? c o values = .ok e) :
    e.name = c ∧ e.entries = (namedEntries values).filter fun p => !isPrivateName c p.1 := by
  dsimp only [EnumClass.make?] at h
  split at h
  · cases h
  · cases h
    exact ⟨rfl, rfl⟩

/-- Each named value is a value of the list, under its member name with some counter. -/
theorem mem_zip_counterNames {values : List Json} {p : String × Json}
    (hp : p ∈ (counterNames (values.map baseName)).zip values) :
    p.2 ∈ values ∧ ∃ k, p.1 = withCounter (baseName p.2) k := by
  induction values using List.reverseRecOn with
  | nil => simp [counterNames] at hp
  | append_singleton vs v ih =>
    rw [List.map_append, List.map_singleton, counterNames_concat,
      List.zip_append (by simp [length_counterNames])] at hp
    rcases List.mem_append.1 hp with hp | hp
    · obtain ⟨hv, k, hk⟩ := ih hp
      exact ⟨List.mem_append_left _ hv, k, hk⟩
    · rw [List.zip_cons_cons, List.zip_nil_left, List.mem_singleton] at hp
      subst hp
      exact ⟨by simp, _, rfl⟩

/-- Member names that differ in length by at most one are never another's with a counter,
which adds at least two characters. -/
theorem suffixFree_of_lengths {bs : List String}
    (h : ∀ b ∈ bs, ∀ b' ∈ bs, b.length ≤ b'.length + 1) : SuffixFree bs := by
  intro b hb b' hb' k _ he
  have hlen := h b hb b' hb'
  have hk : 0 < (toString k).length := Nat.length_repr_pos
  rw [he, String.length_append, String.length_append] at hlen
  have hu : ("_" : String).length = 1 := rfl
  omega

/-- A class is made when no name of its values is private to it, empty or `mro`. -/
theorem EnumClass.make?_of_names {c : String} {o : List Nat} {values : List Json}
    (h : ∀ k ∈ (namedEntries values).map (·.1),
      isPrivateName c k = false ∧ k.isEmpty = false ∧ k ≠ "mro") :
    EnumClass.make? c o values = .ok ⟨c, o, namedEntries values⟩ := by
  have hkeep :
      (namedEntries values).filter (fun p => !isPrivateName c p.1) = namedEntries values := by
    rw [List.filter_eq_self]
    intro p hp
    simp [(h p.1 (List.mem_map_of_mem hp)).1]
  have hgood : ((namedEntries values).any fun p => p.1.isEmpty || p.1 == "mro") = false := by
    rw [List.any_eq_false]
    intro p hp
    obtain ⟨-, hempty, hmro⟩ := h p.1 (List.mem_map_of_mem hp)
    simp [hempty, hmro]
  show (if ((namedEntries values).filter fun p => !isPrivateName c p.1).any
      (fun p => p.1.isEmpty || p.1 == "mro") then (.error (.plain .badValue) : Outcome EnumClass)
    else .ok ⟨c, o, (namedEntries values).filter fun p => !isPrivateName c p.1⟩) = _
  rw [hkeep, hgood]
  rfl

/-- Values whose member names are never another's with a counter make a class with one
entry each, when no name is private to it, empty or `mro`. -/
theorem EnumClass.make?_eq_zip {c : String} {o : List Nat} {values : List Json}
    (hfree : SuffixFree (values.map baseName))
    (hok : ∀ k ∈ counterNames (values.map baseName),
      isPrivateName c k = false ∧ k.isEmpty = false ∧ k ≠ "mro") :
    EnumClass.make? c o values =
      .ok ⟨c, o, (counterNames (values.map baseName)).zip values⟩ := by
  have hnames : (namedEntries values).map (·.1) = counterNames (values.map baseName) := by
    rw [namedEntries_eq_zip hfree, List.map_fst_zip (by simp [length_counterNames])]
  rw [EnumClass.make?_of_names (hnames ▸ hok), namedEntries_eq_zip hfree]

end TransitKit.Typing

namespace TransitKit.Codegen

open Typing

/-! ## Reading an enumeration module back -/

/-- A character that stands for itself between single quotes: not a quote, a backslash or
a line end. -/
def isPlainChar (c : Char) : Bool := c != '\'' && c != '\\' && c != '\n' && c != '\r'

/-- A text that a literal in single quotes holds as it is. -/
def isPlainText (s : String) : Bool := s.toList.all isPlainChar

/-- A text that reads as one name: a character that may start a name, then characters that
may continue one. -/
def isIdentifier (s : String) : Bool :=
  match s.toList with
  | c :: cs => isNameStart c && cs.all isNameChar
  | [] => false

/-- The name at the front of a line and what follows it. -/
def readName : List Char → Option (String × List Char)
  | c :: rest =>
    if isNameStart c then
      some (String.ofList (c :: rest.takeWhile isNameChar), rest.dropWhile isNameChar)
    else none
  | [] => none

/-- A member line `    NAME = 'TEXT'`: the name, and the text as a string value. -/
def readMember (line : List Char) : Option (String × Json) := do
  let (name, after) ← readName (← "    ".toList.isPrefixOf? line)
  let lit ← " = '".toList.isPrefixOf? after
  if lit.getLast? = some '\'' ∧ lit.dropLast.all isPlainChar = true then
    some (name, .str (String.ofList lit.dropLast))
  else none

/-- The class name and the members, in order, that the text of an enumeration module
declares: the import line, two blank lines, the line `class NAME(Enum):`, then one member
line or more, each line ended by a line break. Member names must be distinct. -/
def readEnumModule (src : String) : Option (String × List (String × Json)) :=
  match src.toList.splitOn '\n' with
  | header :: blank :: blank' :: classLine :: body =>
    if header = "from enum import Enum".toList ∧ blank = [] ∧ blank' = [] ∧
        body.getLast? = some [] ∧ body.dropLast ≠ [] then do
      let (name, after) ← readName (← "class ".toList.isPrefixOf? classLine)
      let members ← body.dropLast.mapM readMember
      if after = "(Enum):".toList ∧ (members.map (·.1)).Nodup then some (name, members)
      else none
    else none
  | _ => none

theorem isPrefixOf?_append {α : Type} [BEq α] [LawfulBEq α] (p l : List α) :
    p.isPrefixOf? (p ++ l) = some l := by
  induction p with
  | nil => rfl
  | cons x p ih => simp [List.isPrefixOf?, ih]

theorem isIdentifier_iff {k : String} :
    isIdentifier k = true ↔
      ∃ c cs, k.toList = c :: cs ∧ isNameStart c = true ∧ ∀ d ∈ cs, isNameChar d = true := by
  unfold isIdentifier
  split
  · rename_i c cs hcs
    simp [hcs]
  · rename_i hnil
    simp [hnil]

/-- A character that can neither start nor continue a name is not in an identifier. -/
theorem not_mem_of_isIdentifier {k : String} {x : Char} (hk : isIdentifier k)
    (hs : isNameStart x = false) (hc : isNameChar x = false) : x ∉ k.toList := by
  obtain ⟨c, cs, hcs, hstart, hrest⟩ := isIdentifier_iff.1 hk
  rw [hcs]
  rintro (_ | ⟨_, hx⟩)
  · exact absurd hstart (by simp [hs])
  · exact absurd (hrest x hx) (by simp [hc])

theorem not_mem_of_isPlainText {t : String} {x : Char} (ht : isPlainText t)
    (hx : isPlainChar x = false) : x ∉ t.toList := by
  intro hmem
  have := List.all_eq_true.1 ht x hmem
  simp [hx] at this

/-- A name is read up to the first character that cannot continue it. -/
theorem readName_append {k : String} (d : Char) (more : List Char) (hk : isIdentifier k)
    (hd : isNameChar d = false) : readName (k.toList ++ d :: more) = some (k, d :: more) := by
  obtain ⟨c, cs, hcs, hstart, hrest⟩ := isIdentifier_iff.1 hk
  have htake : (cs ++ d :: more).takeWhile isNameChar = cs := by
    rw [List.takeWhile_append_of_pos hrest]
    simp [hd]
  have hdrop : (cs ++ d :: more).dropWhile isNameChar = d :: more := by
    rw [List.dropWhile_append_of_pos hrest]
    simp [hd]
  rw [hcs, List.cons_append]
  simp only [readName, hstart, if_true, htake, hdrop, ← hcs, String.ofList_toList]

/-- The line of a member. -/
def memberLine (k t : String) : List Char := ("    " ++ k ++ " = '" ++ t ++ "'").toList

/-- A member line reads back as its name and its text. -/
theorem readMember_memberLine {k t : String} (hk : isIdentifier k) (ht : isPlainText t) :
    readMember (memberLine k t) = some (k, .str t) := by
  have hname := readName_append ' ' ('=' :: ' ' :: '\'' :: (t.toList ++ ['\''])) hk (by decide)
  have hplain : ∀ x ∈ t.toList, isPlainChar x = true := List.all_eq_true.1 ht
  simp [readMember, memberLine, String.toList_append, hname, List.isPrefixOf?]
  exact hplain

theorem mapM_readMember {ps : List (String × Json)}
    (h : ∀ p ∈ ps, isIdentifier p.1 ∧ isPlainText p.2.text) :
    (ps.map fun p => memberLine p.1 p.2.text).mapM readMember =
      some (ps.map fun p => (p.1, .str p.2.text)) := by
  induction ps with
  | nil => rfl
  | cons p ps ih =>
    have hp := h p List.mem_cons_self
    rw [List.map_cons, List.mapM_cons, readMember_memberLine hp.1 hp.2,
      ih fun q hq => h q (List.mem_cons_of_mem p hq)]
    rfl

/-- The lines of an enumeration module, without their line breaks. -/
def enumLines (c : String) (e : EnumClass) : List (List Char) :=
  ["from enum import Enum".toList, [], [], ("class " ++ c ++ "(Enum):").toList] ++
    e.members.map fun p => memberLine p.1 p.2.text

theorem enumText_toList (c : String) (e : EnumClass) :
    (enumText c e).toList = ((enumLines c e).map (· ++ ['\n'])).flatten := by
  have hh : ("from enum import Enum\n\n\n" : String).toList =
      "from enum import Enum".toList ++ ['\n'] ++ ['\n'] ++ ['\n'] := by simp
  have hc : ("(Enum):\n" : String).toList = "(Enum):".toList ++ ['\n'] := by simp
  have hq : ("'\n" : String).toList = "'".toList ++ ['\n'] := by simp
  unfold enumText enumLines memberLine
  simp only [String.toList_append, String.toList_join, hh, hc, hq, List.map_cons,
    List.flatten_cons, List.map_map, List.flatMap_def, Function.comp_def, List.append_assoc,
    List.nil_append, List.cons_append]

/-- Lines each ended by a line break split back into those lines and an empty rest. -/
theorem splitOn_terminated {ls : List (List Char)} (h : ∀ l ∈ ls, '\n' ∉ l) :
    ((ls.map (· ++ ['\n'])).flatten).splitOn '\n' = ls ++ [[]] := by
  have hjoin : ∀ ls : List (List Char),
      (ls.map (· ++ ['\n'])).flatten = ['\n'].intercalate (ls ++ [[]]) := by
    intro ls
    induction ls with
    | nil => rfl
    | cons l ls ih =>
      obtain ⟨l', rest, hrest⟩ : ∃ l' rest, ls ++ [[]] = l' :: rest :=
        List.exists_cons_of_ne_nil (by simp)
      rw [List.map_cons, List.flatten_cons, ih, List.cons_append, hrest,
        List.intercalate_cons_cons, List.append_assoc]
  rw [hjoin]
  refine List.splitOn_intercalate '\n' (fun l hl => ?_) (by simp)
  rcases List.mem_append.1 hl with hl | hl
  · exact h l hl
  · rw [List.mem_singleton.1 hl]
    exact List.not_mem_nil

/-- The lines hold no line break or carriage return when the names are identifiers and the
texts are plain. -/
theorem enumLines_clean {c : String} {e : EnumClass} (hc : isIdentifier c)
    (hm : ∀ p ∈ e.members, isIdentifier p.1 ∧ isPlainText p.2.text) :
    ∀ l ∈ enumLines c e, '\n' ∉ l ∧ '\r' ∉ l := by
  intro l hl
  have hcn := not_mem_of_isIdentifier (x := '\n') hc (by decide) (by decide)
  have hcr := not_mem_of_isIdentifier (x := '\r') hc (by decide) (by decide)
  simp only [enumLines, List.mem_append, List.mem_cons, List.mem_map, List.not_mem_nil,
    or_false] at hl
  rcases hl with ((rfl | rfl | rfl | rfl) | ⟨p, hp, rfl⟩)
  · decide
  · decide
  · decide
  · simp [String.toList_append, hcn, hcr]
  · have hkn := not_mem_of_isIdentifier (x := '\n') (hm p hp).1 (by decide) (by decide)
    have hkr := not_mem_of_isIdentifier (x := '\r') (hm p hp).1 (by decide) (by decide)
    have htn := not_mem_of_isPlainText (x := '\n') (hm p hp).2 (by decide)
    have htr := not_mem_of_isPlainText (x := '\r') (hm p hp).2 (by decide)
    simp [memberLine, String.toList_append, hkn, hkr, htn, htr]

theorem readBack_enumText {c : String} {e : EnumClass} (hc : isIdentifier c)
    (hm : ∀ p ∈ e.members, isIdentifier p.1 ∧ isPlainText p.2.text) :
    Text.readBack (enumText c e) = enumText c e := by
  have hr : '\r' ∉ (enumText c e).toList := by
    rw [enumText_toList, List.mem_flatten]
    rintro ⟨_, hmem, hr⟩
    obtain ⟨l, hl, rfl⟩ := List.mem_map.1 hmem
    rcases List.mem_append.1 hr with hr | hr
    · exact (enumLines_clean hc hm l hl).2 hr
    · simp at hr
  rw [Text.readBack, Text.readBackChars_lf_free _ hr, String.ofList_toList]

/-- An enumeration module reads back as its class name and its members, each with its
value's text as a string; a class without members has a module that does not read. -/
theorem readEnumModule_enumText {c : String} {e : EnumClass} (hc : isIdentifier c)
    (hnodup : (e.members.map (·.1)).Nodup)
    (hm : ∀ p ∈ e.members, isIdentifier p.1 ∧ isPlainText p.2.text) :
    readEnumModule (Text.readBack (enumText c e)) =
      if e.members = [] then none else some (c, e.members.map fun p => (p.1, .str p.2.text)) := by
  have hclean := enumLines_clean hc hm
  have hparen : ("(Enum):" : String).toList = '(' :: ("Enum):" : String).toList := rfl
  have hlines : enumLines c e ++ [[]] = ("from enum import Enum" : String).toList :: [] :: [] ::
      (("class " : String).toList ++ (c.toList ++ '(' :: ("Enum):" : String).toList)) ::
        ((e.members.map fun p => memberLine p.1 p.2.text) ++ [[]]) := by
    rw [enumLines, String.toList_append, String.toList_append, hparen, List.append_assoc]
    rfl
  rw [readBack_enumText hc hm, readEnumModule, enumText_toList,
    splitOn_terminated fun l hl => (hclean l hl).1, hlines]
  simp only [List.getLast?_concat, List.dropLast_concat, isPrefixOf?_append, ne_eq,
    List.map_eq_nil_iff, true_and, Option.bind_eq_bind, Option.bind_some]
  rw [readName_append '(' _ hc (by decide), mapM_readMember hm, ← hparen]
  by_cases hnil : e.members = []
  · simp only [hnil, not_true_eq_false, if_false, if_true]
  · have hnames : ((e.members.map fun p => (p.1, Json.str p.2.text)).map (·.1)).Nodup := by
      simpa [List.map_map, Function.comp_def] using hnodup
    simp only [hnil, not_false_eq_true, if_true, if_false, Option.bind_some, true_and, hnames]

/-- A digit can continue a name. -/
theorem isNameChar_of_isDigit {d : Char} (h : d.isDigit = true) : isNameChar d = true := by
  simp [isNameChar, Char.isAlphanum, h]

/-- A counter keeps a name an identifier. -/
theorem isIdentifier_withCounter {b : String} (k : Nat) (hb : isIdentifier b) :
    isIdentifier (withCounter b k) := by
  unfold withCounter
  split
  · exact hb
  · have hdigits : ∀ d ∈ (toString k).toList, isNameChar d = true := fun d hd =>
      isNameChar_of_isDigit
        (Nat.isDigit_of_mem_toDigits (by decide) (by decide) (Nat.toList_repr ▸ hd))
    obtain ⟨c, cs, hcs, hstart, hrest⟩ := isIdentifier_iff.1 hb
    have hu : ("_" : String).toList = ['_'] := rfl
    refine isIdentifier_iff.2 ⟨c, cs ++ '_' :: (toString k).toList, ?_, hstart, fun d hd => ?_⟩
    · rw [String.toList_append, String.toList_append, hcs, hu]
      simp
    · rcases List.mem_append.1 hd with hd | hd
      · exact hrest d hd
      · rcases List.mem_cons.1 hd with rfl | hd
        · decide
        · exact hdigits d hd

/-! ## The module of a class name -/

/-- What writing one more file does to the files written so far. -/
def SourceFile.write (acc : List SourceFile) (f : SourceFile) : List SourceFile :=
  if acc.any (·.path == f.path) then acc.map fun g => if g.path == f.path then f else g
  else acc ++ [f]

theorem SourceFile.survivors_eq_foldl (fs : List SourceFile) :
    SourceFile.survivors fs = fs.foldl SourceFile.write [] := rfl

/-- After a file is written, its path holds it, and every other path what it held. -/
theorem SourceFile.find?_write (acc : List SourceFile) (f : SourceFile) (p : String) :
    (SourceFile.write acc f).find? (·.path == p) =
      if f.path = p then some f else acc.find? (·.path == p) := by
  unfold SourceFile.write
  split
  · rename_i hany
    have hpath : ((·.path == p) ∘ fun g : SourceFile => if g.path == f.path then f else g) =
        (·.path == p) := by
      funext g
      by_cases hg : g.path = f.path <;> simp [hg]
    rw [List.find?_map, hpath]
    split
    · rename_i hf
      subst hf
      obtain ⟨g, hg, hgp⟩ := List.any_eq_true.1 hany
      obtain ⟨g', hfind⟩ := Option.isSome_iff_exists.1
        (List.find?_isSome.2 ⟨g, hg, hgp⟩ : (acc.find? (·.path == f.path)).isSome)
      have hg' : g'.path = f.path := by simpa using List.find?_some hfind
      simp [hfind, hg']
    · rename_i hf
      cases hfind : acc.find? (·.path == p) with
      | none => rfl
      | some g =>
        have hg : g.path = p := by simpa using List.find?_some hfind
        have hne : g.path ≠ f.path := fun he => hf (he ▸ hg)
        simp [hne]
  · rename_i hany
    rw [List.find?_append]
    split
    · rename_i hf
      subst hf
      have hnone : acc.find? (·.path == f.path) = none := by
        rw [List.find?_eq_none]
        intro g hg hgp
        exact hany (List.any_eq_true.2 ⟨g, hg, hgp⟩)
      simp [hnone]
    · rename_i hf
      simp [hf]

/-- The files that survive a run of writes: each path holds the last file written to it. -/
theorem SourceFile.find?_survivors (fs : List SourceFile) (p : String) :
    (SourceFile.survivors fs).find? (·.path == p) = (fs.filter (·.path == p)).getLast? := by
  suffices h : ∀ acc, (fs.foldl SourceFile.write acc).find? (·.path == p) =
      (fs.filter (·.path == p)).getLast?.or (acc.find? (·.path == p)) by
    simpa [SourceFile.survivors_eq_foldl] using h []
  induction fs with
  | nil => simp
  | cons f fs ih =>
    intro acc
    rw [List.foldl_cons, ih, SourceFile.find?_write]
    by_cases hf : f.path = p
    · cases hlast : (fs.filter (·.path == p)).getLast? <;> simp [hf, hlast, List.getLast?_cons]
    · simp [hf]

/-- The path of the module of an enumeration class. -/
def enumPath (name : String) : String := "models/" ++ name ++ ".py"

theorem enumPath_inj {a b : String} (h : enumPath a = enumPath b) : a = b := by
  have hl := congrArg String.toList h
  simp only [enumPath, String.toList_append, List.append_assoc, List.append_cancel_left_eq,
    List.append_cancel_right_eq] at hl
  exact String.toList_inj.1 hl

/-- The enumeration classes the fields of the models use, in the order their modules are
written. -/
def fieldEnums (r : Model.Registry) : List EnumClass :=
  r.entries.flatMap fun p => p.2.fields.flatMap fun f => f.hint.enums

theorem enumFiles_eq_map (r : Model.Registry) :
    enumFiles r = (fieldEnums r).map fun e => ⟨enumPath e.name, enumText e.name e⟩ := by
  simp [enumFiles, fieldEnums, List.map_flatMap, enumPath]

/-- The enumeration modules are written after every other file of the models package. -/
theorem modelFiles_eq_append {r : Model.Registry} {graph : Model.DependencyGraph}
    {circular order : List String} {md : List (String × String)}
    {fd : List (String × List (String × String))} {files : List SourceFile}
    (h : modelFiles r graph circular order md fd = .ok files) :
    ∃ earlier, files = earlier ++ enumFiles r := by
  unfold modelFiles at h
  obtain ⟨models, -, hfiles⟩ := bind_eq_ok.1 h
  exact ⟨_, (pure_eq_ok.1 hfiles).symm⟩

/-- The module of a class name holds the last class of that name that the fields use,
whatever else was written to its path before. -/
theorem find?_enumModule {r : Model.Registry} {graph : Model.DependencyGraph}
    {circular order : List String} {md : List (String × String)}
    {fd : List (String × List (String × String))} {files : List SourceFile}
    (h : modelFiles r graph circular order md fd = .ok files) {c : String} {e : EnumClass}
    (hlast : ((fieldEnums r).filter (·.name == c)).getLast? = some e) :
    (SourceFile.survivors files).find? (·.path == enumPath c) =
      some ⟨enumPath c, enumText c e⟩ := by
  obtain ⟨earlier, rfl⟩ := modelFiles_eq_append h
  have hname : e.name = c := by
    simpa using (List.mem_filter.1 (List.mem_of_getLast? hlast)).2
  have hpath : ((·.path == enumPath c) ∘ fun e : EnumClass =>
      (⟨enumPath e.name, enumText e.name e⟩ : SourceFile)) = (·.name == c) := by
    funext e'
    simp only [Function.comp_apply, beq_eq_decide]
    exact decide_eq_decide.2 ⟨enumPath_inj, fun he => he ▸ rfl⟩
  rw [SourceFile.find?_survivors, List.filter_append, List.getLast?_append, enumFiles_eq_map,
    List.filter_map, hpath, List.getLast?_map, hlast, Option.map_some, Option.some_or, hname]

/-! ## The modules of the models package -/

/-- The module of each class name that the fields use holds the last class of that name.
A class made from values has pairwise distinct names; when its name and its values' member
names are identifiers, the values' texts are plain and no member name is another's with a
counter, its entries are the values under their names and counters, less the names
private to it, and its module reads back as its members, in order, each with its value's
text as a string. -/
theorem enumModules_read_back :
    (∀ (r : Model.Registry) (graph : Model.DependencyGraph) (circular order : List String)
        (md : List (String × String)) (fd : List (String × List (String × String)))
        (files : List SourceFile) (c : String) (e : EnumClass),
        modelFiles r graph circular order md fd = .ok files →
        ((fieldEnums r).filter (·.name == c)).getLast? = some e →
        (SourceFile.survivors files).find? (·.path == enumPath c) =
          some ⟨enumPath c, enumText c e⟩) ∧
    (∀ (c : String) (o : List Nat) (values : List Json) (e : EnumClass),
        EnumClass.make? c o values = .ok e →
        e.names.Nodup ∧
        (isIdentifier c → (∀ v ∈ values, isIdentifier (baseName v) ∧ isPlainText v.text) →
          SuffixFree (values.map baseName) →
          e.entries = ((counterNames (values.map baseName)).zip values).filter
            (fun p => !isPrivateName c p.1) ∧
          readEnumModule (Text.readBack (enumText c e)) =
            if e.members = [] then none
            else some (c, e.members.map fun p => (p.1, .str p.2.text)))) := by
  refine ⟨fun r graph circular order md fd files c e h hlast => find?_enumModule h hlast, ?_⟩
  intro c o values e hmake
  obtain ⟨-, hentries⟩ := EnumClass.make?_eq_ok hmake
  have hnodup : e.names.Nodup := by
    rw [EnumClass.names, hentries]
    exact (namedEntries_names_nodup values).sublist (List.filter_sublist.map _)
  refine ⟨hnodup, fun hc hvalues hfree => ?_⟩
  rw [namedEntries_eq_zip hfree] at hentries
  refine ⟨hentries, readEnumModule_enumText hc (hnodup.sublist (e.members_sublist.map _)) ?_⟩
  intro p hp
  have hzip := (List.mem_filter.1 (hentries ▸ e.members_sublist.subset hp)).1
  obtain ⟨hv, k, hk⟩ := mem_zip_counterNames hzip
  rw [hk]
  exact ⟨isIdentifier_withCounter k (hvalues p.2 hv).1, (hvalues p.2 hv).2⟩

/-- The values `1` and `2` come back from their module as the texts `'1'` and `'2'`. -/
theorem enumModule_one_two_texts :
    ∃ e, EnumClass.make? "StatusEnum" [] [.int 1, .int 2] = .ok e ∧
      readEnumModule (Text.readBack (enumText "StatusEnum" e)) =
        some ("StatusEnum", [("_1", .str "1"), ("_2", .str "2")]) := by
  have hbases : [Json.int 1, .int 2].map baseName = ["_1", "_2"] := by decide +kernel
  have hfree : SuffixFree ([Json.int 1, .int 2].map baseName) :=
    hbases ▸ suffixFree_of_lengths (by decide)
  have hnames : counterNames ["_1", "_2"] = ["_1", "_2"] := by decide
  refine ⟨_, EnumClass.make?_eq_zip hfree (by rw [hbases, hnames]; decide +kernel), ?_⟩
  rw [hbases, hnames]
  let e : EnumClass := ⟨"StatusEnum", [], [("_1", .int 1), ("_2", .int 2)]⟩
  have hmembers : e.members = e.entries := rfl
  show readEnumModule (Text.readBack (enumText "StatusEnum" e)) = _
  rw [readEnumModule_enumText (by decide) (by rw [hmembers]; decide +kernel)
    (by rw [hmembers]; decide +kernel), hmembers]
  rfl

/-- Two texts led by digits make a class whose module reads back as those texts. -/
theorem enumModule_digit_texts :
    EnumClass.make? "StatusEnum" [] [.str "1", .str "2"] =
        .ok ⟨"StatusEnum", [], [("_1", .str "1"), ("_2", .str "2")]⟩ ∧
      readEnumModule (Text.readBack (enumText "StatusEnum"
          ⟨"StatusEnum", [], [("_1", .str "1"), ("_2", .str "2")]⟩)) =
        some ("StatusEnum", [("_1", .str "1"), ("_2", .str "2")]) := by
  have hbases : [Json.str "1", .str "2"].map baseName = ["_1", "_2"] := by decide +kernel
  have hfree : SuffixFree ([Json.str "1", .str "2"].map baseName) :=
    hbases ▸ suffixFree_of_lengths (by decide)
  have hnames : counterNames ["_1", "_2"] = ["_1", "_2"] := by decide
  have hmake := EnumClass.make?_eq_zip (c := "StatusEnum") (o := []) hfree
    (by rw [hbases, hnames]; decide +kernel)
  have hzip : ["_1", "_2"].zip [Json.str "1", .str "2"] = [("_1", .str "1"), ("_2", .str "2")] :=
    rfl
  rw [hbases, hnames, hzip] at hmake
  obtain ⟨-, hread⟩ := enumModules_read_back.2 "StatusEnum" [] _ _ hmake
  refine ⟨hmake, ?_⟩
  rw [(hread (by decide) (by decide +kernel) hfree).2]
  rfl

end TransitKit.Codegen
