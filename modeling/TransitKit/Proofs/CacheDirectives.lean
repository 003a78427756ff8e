import Mathlib
import TransitKit.Client.Lifetime

/-!
# Reading `Cache-Control` directives

The client cuts a `Cache-Control` value at every comma followed by one space, keeps the pieces
that hold `=`, and names each by the text before its first `=`, with the text up to the next
`=` as its argument; a later directive of a name wins, and the argument is read as an integer
(`maxAges`).

So a value written as directives joined by `, `, with no `=` inside a name or an argument and no
`, ` inside a directive, gives the integer arguments of the last `s-maxage` and `max-age`
directives that carry one, whatever the other directives and their order (`maxAges_joined`).
Names are compared exactly and other separators are not seen: `max-age=5,s-maxage=10` has one
directive, named `max-age`, and `S-Maxage` is not `s-maxage` (`unspacedDirectives_unread`).
-/

namespace TransitKit.Text

variable {a b : Char}

/-- `p` holds `a` immediately followed by `b`. -/
def HoldsPair (a b : Char) (p : List Char) : Prop := ∃ l r, p = l ++ a :: b :: r

theorem not_holdsPair_tail {c : Char} {p : List Char} (h : ¬ HoldsPair a b (c :: p)) :
    ¬ HoldsPair a b p := by
  rintro ⟨l, r, hp⟩
  exact h ⟨c :: l, r, by simp [hp]⟩

theorem not_pair_of_not_holdsPair {c d : Char} {p : List Char}
    (h : ¬ HoldsPair a b (c :: d :: p)) : ¬ (c = a ∧ d = b) := by
  rintro ⟨rfl, rfl⟩
  exact h ⟨[], p, rfl⟩

theorem pairPieces_pair (rest : List Char) : pairPieces a b (a :: b :: rest) = [] :: pairPieces a b rest := by
  simp [pairPieces]

/-- A text without the pair is one piece. -/
theorem pairPieces_of_not_holdsPair : ∀ {p : List Char}, ¬ HoldsPair a b p → pairPieces a b p = [p]
  | [], _ => rfl
  | [_], _ => rfl
  | c :: d :: p, h => by
    rw [pairPieces, if_neg (not_pair_of_not_holdsPair h),
      pairPieces_of_not_holdsPair (not_holdsPair_tail h)]
    rfl

/-- A piece without the pair comes off whole before the pair, when the pair's two characters
differ, so that no occurrence runs across the piece's end. -/
theorem pairPieces_append_pair (hab : a ≠ b) (rest : List Char) :
    ∀ {p : List Char}, ¬ HoldsPair a b p →
      pairPieces a b (p ++ a :: b :: rest) = p :: pairPieces a b rest
  | [], _ => pairPieces_pair rest
  | [c], _ => by
    have hca : ¬ (c = a ∧ a = b) := fun h => hab h.2
    rw [List.singleton_append, pairPieces, if_neg hca, pairPieces_pair]
    rfl
  | c :: d :: p, h => by
    rw [List.cons_append, List.cons_append, pairPieces, if_neg (not_pair_of_not_holdsPair h),
      ← List.cons_append, pairPieces_append_pair hab rest (not_holdsPair_tail h)]
    rfl

/-- Cutting pieces joined by a pair of distinct characters gives the pieces back, when none
of them holds the pair. -/
theorem pairPieces_intercalate (hab : a ≠ b) :
    ∀ {ps : List (List Char)}, ps ≠ [] → (∀ p ∈ ps, ¬ HoldsPair a b p) →
      pairPieces a b ([a, b].intercalate ps) = ps
  | [p], _, h => by
    simpa using pairPieces_of_not_holdsPair (h p List.mem_cons_self)
  | p :: q :: ps, _, h => by
    have hp := h p List.mem_cons_self
    have hrest : ∀ x ∈ q :: ps, ¬ HoldsPair a b x := fun x hx => h x (List.mem_cons_of_mem p hx)
    rw [List.intercalate_cons_cons, List.append_assoc, List.cons_append, List.cons_append,
      List.nil_append, pairPieces_append_pair hab _ hp,
      pairPieces_intercalate hab (List.cons_ne_nil q ps) hrest]

theorem splitAtPair_intercalate (hab : a ≠ b) {ps : List String} (hps : ps ≠ [])
    (h : ∀ p ∈ ps, ¬ HoldsPair a b p.toList) :
    splitAtPair a b ((String.ofList [a, b]).intercalate ps) = ps := by
  have hmap : ps.map String.toList ≠ [] := by simpa using hps
  have hfree : ∀ p ∈ ps.map String.toList, ¬ HoldsPair a b p := by
    simpa using h
  simp only [splitAtPair, String.toList_intercalate, String.toList_ofList,
    pairPieces_intercalate hab hmap hfree, List.map_map]
  simp

/-- A text made of `x`, one `c` and `y` splits at the `c` into `x` and `y`. -/
theorem splitAt_of_toList {c : Char} {s x y : String} (hs : s.toList = x.toList ++ c :: y.toList)
    (hx : c ∉ x.toList) (hy : c ∉ y.toList) : splitAt c s = [x, y] := by
  simp [splitAt, hs, List.splitOn_append_cons_self_of_not_mem hx, List.splitOn_eq_singleton hy]

end TransitKit.Text

namespace TransitKit.Client

open Http Text

/-- A directive of a `Cache-Control` value: its name, and its argument when it has one. -/
structure Directive where
  name : String
  arg : Option String

/-- The text of a directive: its name, then `=` and the argument when there is one. -/
def Directive.text (d : Directive) : String :=
  match d.arg with
  | some v => d.name ++ "=" ++ v
  | none => d.name

/-- A directive that the client takes apart as written: no `=` in its name or argument, and no
comma followed by a space in its text. -/
structure Directive.Plain (d : Directive) : Prop where
  name : '=' ∉ d.name.toList
  arg : ∀ v, d.arg = some v → '=' ∉ v.toList
  unbroken : ¬ HoldsPair ',' ' ' d.text.toList

/-- The argument of the last directive of a name that carries one. -/
def lastArgument (ds : List Directive) (name : String) : Option String :=
  ((ds.filter (·.name == name)).filterMap (·.arg)).getLast?

/-- The directives named in a value joined from directives: those with an argument, in order. -/
def namedArguments (ds : List Directive) : List (String × String) :=
  ds.filterMap fun d => d.arg.map fun v => (d.name, v)

/-- A directive with no `=` in its name or argument and no comma at all is plain. -/
theorem Directive.Plain.of_commaFree {d : Directive} (hn : '=' ∉ d.name.toList)
    (ha : ∀ v, d.arg = some v → '=' ∉ v.toList) (hc : ',' ∉ d.text.toList) : d.Plain :=
  ⟨hn, ha, fun ⟨l, r, h⟩ => hc (by simp [h])⟩

theorem Directive.Plain.contains_eq {d : Directive} (hd : d.Plain) :
    d.text.contains '=' = d.arg.isSome := by
  rw [String.contains_char_eq]
  cases h : d.arg with
  | none => simpa [Directive.text, h] using hd.name
  | some v => simp [Directive.text, h]

theorem Directive.Plain.splitAt_text {d : Directive} (hd : d.Plain) {v : String}
    (hv : d.arg = some v) : splitAt '=' d.text = [d.name, v] := by
  have htext : d.text.toList = d.name.toList ++ '=' :: v.toList := by
    simp [Directive.text, hv]
  exact splitAt_of_toList htext hd.name (hd.arg v hv)

/-- The pieces of a value joined from plain directives are the directives' texts. -/
theorem splitAtPair_joined {ds : List Directive} (hds : ∀ d ∈ ds, d.Plain) (hne : ds ≠ []) :
    splitAtPair ',' ' ' (", ".intercalate (ds.map Directive.text)) = ds.map Directive.text := by
  have hsep : ", " = String.ofList [',', ' '] := rfl
  rw [hsep]
  apply splitAtPair_intercalate (by decide) (by simpa using hne)
  intro p hp
  obtain ⟨d, hd, rfl⟩ := List.mem_map.mp hp
  exact (hds d hd).unbroken

/-- Of the texts of plain directives, those with `=` are the directives with an argument. -/
theorem namedTexts {ds : List Directive} (hds : ∀ d ∈ ds, d.Plain) :
    ((ds.map Directive.text).filter fun t => t.contains '=').map
        (fun t => ((splitAt '=' t).headD "", directiveArgument t)) = namedArguments ds := by
  induction ds with
  | nil => rfl
  | cons d ds ih =>
    have hd := hds d List.mem_cons_self
    have hrest := ih fun x hx => hds x (List.mem_cons_of_mem d hx)
    rw [List.map_cons, List.filter_cons, hd.contains_eq]
    cases hv : d.arg with
    | none =>
      simp only [Option.isSome_none, Bool.false_eq_true, if_false, hrest]
      simp [namedArguments, hv]
    | some v =>
      simp only [Option.isSome_some, if_true, List.map_cons, hrest]
      simp [namedArguments, hv, directiveArgument, hd.splitAt_text hv]

/-- A value joined from plain directives names exactly the directives with an argument. -/
theorem directiveArgs_joined {ds : List Directive} (hds : ∀ d ∈ ds, d.Plain) :
    directiveArgs (", ".intercalate (ds.map Directive.text)) = namedArguments ds := by
  by_cases hne : ds = []
  · subst hne
    simp [directiveArgs, splitAtPair, pairPieces, namedArguments]
  · rw [directiveArgs, splitAtPair_joined hds hne]
    exact namedTexts hds

/-- The last value given to a name by a fold in which later pairs win. -/
theorem foldl_last_wins {name : String} {F : Option String → String × String → Option String}
    (hF : ∀ acc k v, F acc (k, v) = if k = name then some v else acc) :
    ∀ (xs : List (String × String)) (acc : Option String),
      xs.foldl F acc = (((xs.filter (·.1 == name)).map (·.2)).getLast?).or acc
  | [], acc => rfl
  | (k, v) :: xs, acc => by
    rw [List.foldl_cons, hF, foldl_last_wins hF xs]
    by_cases hk : k = name
    · cases hl : ((xs.filter (·.1 == name)).map (·.2)).getLast? <;>
        simp [hk, List.getLast?_cons, hl]
    · simp [hk]

theorem namedArguments_lastArgument (ds : List Directive) (name : String) :
    ((namedArguments ds).filter (·.1 == name)).map (·.2) =
      (ds.filter (·.name == name)).filterMap (·.arg) := by
  induction ds with
  | nil => rfl
  | cons d ds ih =>
    cases hv : d.arg with
    | none =>
      by_cases hn : d.name = name <;> simp_all [namedArguments]
    | some v =>
      by_cases hn : d.name = name <;> simp_all [namedArguments]

/-- A value joined from plain directives gives a name the argument of its last directive. -/
theorem directiveArg?_joined {ds : List Directive} (hds : ∀ d ∈ ds, d.Plain) (name : String) :
    directiveArg? (", ".intercalate (ds.map Directive.text)) name = lastArgument ds name := by
  rw [directiveArg?, directiveArgs_joined hds,
    @foldl_last_wins name _ (fun _ _ _ => by simp only [beq_iff_eq]) _ none,
    namedArguments_lastArgument, Option.or_none]
  rfl

/-- The `s-maxage` and `max-age` of a `Cache-Control` value written as directives joined by
`, `, none of them holding `=` in its name or argument or `, ` in its text: the arguments of the
last directives of those names that carry one, read as integers. Other directives, and their
order, do not matter. -/
theorem maxAges_joined {h : Headers} {ds : List Directive} (hds : ∀ d ∈ ds, d.Plain)
    (hcc : h.get? "Cache-Control" = some (", ".intercalate (ds.map Directive.text))) :
    maxAges h =
      ((lastArgument ds "s-maxage").bind readInt?, (lastArgument ds "max-age").bind readInt?) := by
  simp only [maxAges, hcc, directiveArg?_joined hds]

/-- The directives of a typical answer of the service. -/
def serviceDirectives : List Directive :=
  [⟨"public", none⟩, ⟨"max-age", some "43200"⟩, ⟨"s-maxage", some "86400"⟩]

/-- The header fields of a typical answer of the service. -/
def serviceFields : Headers := ⟨[("Cache-Control", "public, max-age=43200, s-maxage=86400")]⟩

theorem serviceDirectives_maxAges :
    (∀ d ∈ serviceDirectives, d.Plain) ∧
      serviceFields.get? "Cache-Control" =
        some (", ".intercalate (serviceDirectives.map Directive.text)) ∧
      maxAges serviceFields =
        ((lastArgument serviceDirectives "s-maxage").bind readInt?,
          (lastArgument serviceDirectives "max-age").bind readInt?) := by
  have hplain : ∀ d ∈ serviceDirectives, d.Plain := by
    intro d hd
    simp only [serviceDirectives, List.mem_cons, List.not_mem_nil, or_false] at hd
    rcases hd with rfl | rfl | rfl <;>
      exact .of_commaFree (by decide) (fun v hv => by cases hv <;> decide) (by decide)
  have hget : serviceFields.get? "Cache-Control" =
      some (", ".intercalate (serviceDirectives.map Directive.text)) := by
    decide +kernel
  exact ⟨hplain, hget, maxAges_joined hplain hget⟩

/-- Directives joined by a comma alone are read as one directive, and names in capitals are not
the names the client looks for: neither value gives an `s-maxage`, though both set it to 10. -/
theorem unspacedDirectives_unread :
    (maxAges ⟨[("Cache-Control", "max-age=5,s-maxage=10")]⟩).1 = none ∧
      maxAges ⟨[("Cache-Control", "S-Maxage=10, Max-Age=5")]⟩ = (none, none) := by
  have hunspaced : directiveArg? "max-age=5,s-maxage=10" "s-maxage" = none := by
    simp only [directiveArg?, directiveArgs, String.contains_char_eq]
    decide +kernel
  have hcapital (name : String) (hname : name = "s-maxage" ∨ name = "max-age") :
      directiveArg? "S-Maxage=10, Max-Age=5" name = none := by
    simp only [directiveArg?, directiveArgs, String.contains_char_eq]
    rcases hname with rfl | rfl <;> decide +kernel
  have hget₁ : Headers.get? ⟨[("Cache-Control", "max-age=5,s-maxage=10")]⟩ "Cache-Control" =
      some "max-age=5,s-maxage=10" := by decide +kernel
  have hget₂ : Headers.get? ⟨[("Cache-Control", "S-Maxage=10, Max-Age=5")]⟩ "Cache-Control" =
      some "S-Maxage=10, Max-Age=5" := by decide +kernel
  constructor
  · simp [maxAges, hget₁, hunspaced]
  · simp [maxAges, hget₂, hcapital]

end TransitKit.Client
