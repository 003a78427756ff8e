import Mathlib
import TransitKit.Proofs.MappingDisplays
import TransitKit.Proofs.ClassNames
import TransitKit.Proofs.PortalAddresses
import TransitKit.Proofs.CircularBreak

/-!
# Annotations that can be written

Writing the text of an annotation fails only at a container without the arguments it writes.
An annotation with no such container is writable and has a text, and every way the generator
builds or rebuilds annotations keeps them writable: reading a property's schema, its optional
form, unions of either kind, and the replacement of circular models by forward references,
which is found whenever those models have valid names.
-/

namespace TransitKit.Typing

/-! ## Names are expressions -/

namespace Grammar

variable {f : Nat} {n : String} {ts s : List Token}

@[simp] theorem isOp_name (o : String) : isOp o (.name n :: ts) = false := rfl

@[simp] theorem isWord_name (w : String) : isWord w (.name n :: ts) = (n == w) := rfl

theorem atom_name (hn : n ∉ keywords) : atom (f + 1) (.name n :: s) = some s := by
  simp [atom, hn]

theorem factor_of_name (hn : n ≠ "await") (hs : closesOperand s = true)
    (h : primary f (.name n :: ts) = some s) : factor (f + 1) (.name n :: ts) = some s := by
  have hpow : isOp "**" s = false := by
    rcases closesOperand_cases hs with rfl | ⟨o, r, rfl, rfl | rfl | rfl⟩ <;> rfl
  simp [factor, h, hpow, hn]

theorem inversion_of_name (hn : n ≠ "not") (h : comparison f (.name n :: ts) = some s) :
    inversion (f + 1) (.name n :: ts) = some s := by
  simp [inversion, h, hn]

theorem expression_of_name (hn : n ≠ "lambda") (hs : closesOperand s = true)
    (h : disjunction f (.name n :: ts) = some s) : expression (f + 1) (.name n :: ts) = some s := by
  have hif : isWord "if" s = false := by
    rcases closesOperand_cases hs with rfl | ⟨o, r, rfl, -⟩ <;> rfl
  simp [expression, h, hif, hn]

/-- A name that is no reserved word is one expression. -/
theorem expressions_name (hn : n ∉ keywords) : expressions 60 [.name n] = some [] := by
  have hne : ∀ w ∈ keywords, n ≠ w := fun w hw h => hn (h ▸ hw)
  have hs : closesOperand [] = true := rfl
  have hprimary := primary_of_atom (f := 45) hs (atom_name (f := 45) (s := []) hn)
  have hfactor := factor_of_name (hne "await" (by decide)) hs hprimary
  have hbinary := binary_of_factor hs hfactor 6 le_rfl
  have hexpr := expression_of_name (hne "lambda" (by decide)) hs
    (disjunction_of_conjunction hs (conjunction_of_inversion hs
      (inversion_of_name (hne "not" (by decide)) (comparison_of_binary hs hbinary))))
  simp only [Nat.reduceAdd] at hexpr
  simp [expressions, hexpr]

end Grammar

theorem ne_of_isNameStart {c d : Char} (hc : isNameStart c = true) (hd : isNameStart d = false) :
    c ≠ d := by
  rintro rfl
  rw [hc] at hd
  cases hd

/-- An identifier is lexed as one name. -/
theorem lex_identifier {n : String} {c : Char} {cs : List Char} (hn : n.toList = c :: cs)
    (hc : isNameStart c = true) (hcs : ∀ d ∈ cs, isNameChar d = true) : lex n = some [.name n] := by
  have hlen : n.length = cs.length + 1 := by simp [← String.length_toList, hn]
  have htake : cs.takeWhile isNameChar = cs := List.takeWhile_eq_self_iff.mpr hcs
  have hdrop : cs.dropWhile isNameChar = [] := List.dropWhile_eq_nil_iff.mpr hcs
  have hword : String.ofList (c :: cs) = n := by rw [← hn, String.ofList_toList]
  have hne : ∀ d : Char, isNameStart d = false → c ≠ d := fun d hd => ne_of_isNameStart hc hd
  unfold lex
  rw [hn, hlen]
  simp [lexWith, hne ' ' (by decide), hne '\t' (by decide), hne '\x0c' (by decide),
    hne '\n' (by decide), hne '\r' (by decide), hne '#' (by decide), hne '\\' (by decide),
    hne '\'' (by decide), hne '"' (by decide), hc, htake, hdrop, hword]

theorem isExpression_of_identifier {n : String} {c : Char} {cs : List Char}
    (hn : n.toList = c :: cs) (hc : isNameStart c = true) (hcs : ∀ d ∈ cs, isNameChar d = true)
    (hkw : n ∉ keywords) : isExpression n = true := by
  have hstart : ∀ (p : String) (d : Char) (ds : List Char), p.toList = d :: ds →
      isNameStart d = false → n.startsWith p = false := fun p d ds hp hd =>
    Url.startsWith_eq_false_of_ne hn hp (ne_of_isNameStart hc hd)
  have hline : '\n' ∉ n.toList := by
    rw [hn]
    rintro (_ | ⟨_, hmem⟩)
    · exact absurd hc (by decide)
    · exact absurd (hcs _ hmem) (by decide)
  have hsplit : Text.splitAt '\n' n = [n] := by
    simp [Text.splitAt, List.splitOn_eq_singleton hline]
  have hdrop : [Token.name n].dropWhile (· == .lineEnd) = [.name n] := rfl
  have hne : ∀ d : Char, isNameStart d = false → c ≠ d := fun d hd => ne_of_isNameStart hc hd
  unfold isExpression
  simp [hstart "*" '*' [] rfl (by decide), hsplit, hn, hstart " " ' ' [] rfl (by decide),
    hstart "\t" '\t' [] rfl (by decide), hstart "\x0c" '\x0c' [] rfl (by decide),
    lex_identifier hn hc hcs, hdrop, Grammar.expressions_name hkw, hne ' ' (by decide),
    hne '\t' (by decide), hne '\x0c' (by decide), hne '\r' (by decide), hne '#' (by decide)]

theorem keywords_eq_reservedWords : keywords = Naming.reservedWords := rfl

/-- A valid name is one expression. -/
theorem isExpression_of_validName {n : String} (h : Naming.ValidName n) : isExpression n = true := by
  obtain ⟨c, cs, hcs, hstart, hrest⟩ := Codegen.isIdentifier_iff.1 h.1
  have hkw : n ∉ keywords := by
    have hres := h.2
    rw [Naming.isReserved, List.contains_eq_mem, decide_eq_false_iff_not] at hres
    rwa [keywords_eq_reservedWords]
  exact isExpression_of_identifier hcs hstart hrest hkw

/-- A forward reference to a valid name is found. -/
theorem ref?_of_validName {n : String} (h : Naming.ValidName n) :
    TypeHint.ref? n = .ok (.ref n) := by
  obtain ⟨c, cs, hcs, -, -⟩ := Codegen.isIdentifier_iff.1 h.1
  have hne : n.isEmpty = false := by
    rw [Bool.eq_false_iff, ne_eq, String.isEmpty_iff]
    rintro rfl
    simp at hcs
  simp [TypeHint.ref?, hne, isExpression_of_validName h]

namespace TypeHint

theorem ref?_eq_ok {t : String} {h : TypeHint} (e : ref? t = .ok h) : h = .ref t := by
  unfold ref? at e
  split_ifs at e
  cases e
  rfl

/-! ## Writable annotations -/

/-- An annotation whose text can be written: every list in it has an argument and every
dictionary two. -/
inductive Writable : TypeHint → Prop
  | cls (c : TypeClass) : Writable (.cls c)
  | ref (t : String) : Writable (.ref t)
  | list {args : List TypeHint} : args ≠ [] → (∀ a ∈ args, Writable a) →
      Writable (.generic .list args)
  | dict {args : List TypeHint} : 2 ≤ args.length → (∀ a ∈ args, Writable a) →
      Writable (.generic .dict args)
  | bar {args : List TypeHint} : (∀ a ∈ args, Writable a) → Writable (.bar args)
  | union {args : List TypeHint} : (∀ a ∈ args, Writable a) → Writable (.union args)

/-- A writable annotation has a text to be declared with. -/
theorem Writable.typeText_ok {h : TypeHint} (hw : h.Writable) : ∃ t, h.typeText = .ok t := by
  induction hw with
  | cls c => cases c <;> exact ⟨_, by simp only [typeText]; rfl⟩
  | ref t => exact ⟨t, typeText_ref t⟩
  | @list args hne _ ih =>
    obtain ⟨a, as, rfl⟩ := List.exists_cons_of_ne_nil hne
    obtain ⟨t, ht⟩ := ih a List.mem_cons_self
    exact ⟨_, by rw [typeText, ht]; rfl⟩
  | @dict args hlen _ ih =>
    obtain ⟨k, v, as, rfl⟩ : ∃ k v as, args = k :: v :: as := by
      rcases args with _ | ⟨k, _ | ⟨v, as⟩⟩
      · simp at hlen
      · simp at hlen
      · exact ⟨k, v, as, rfl⟩
    obtain ⟨x, hx⟩ := ih k (by simp)
    obtain ⟨y, hy⟩ := ih v (by simp)
    exact ⟨_, by rw [typeText, hx, hy]; rfl⟩
  | @bar args _ ih =>
    by_cases hpair : ∃ a b, args = [a, b]
    · obtain ⟨a, b, rfl⟩ := hpair
      obtain ⟨x, hx⟩ := ih a (by simp)
      obtain ⟨y, hy⟩ := ih b (by simp)
      rw [typeText.eq_4]
      split_ifs <;> simp [hx, hy]
    · obtain ⟨ts, hts⟩ := exists_mapM_eq_ok ih
      rw [typeText.eq_5 _ fun a b h => hpair ⟨a, b, h⟩, hts]
      exact ⟨_, rfl⟩
  | @union args _ ih =>
    by_cases hpair : ∃ a b, args = [a, b]
    · obtain ⟨a, b, rfl⟩ := hpair
      obtain ⟨x, hx⟩ := ih a (by simp)
      obtain ⟨y, hy⟩ := ih b (by simp)
      rw [typeText.eq_10]
      split_ifs <;> simp [hx, hy]
    · obtain ⟨ts, hts⟩ := exists_mapM_eq_ok ih
      rw [typeText.eq_11 _ fun a b h => hpair ⟨a, b, h⟩, hts]
      exact ⟨_, rfl⟩

/-- An argument of a `|` union of a list is an item of the list, or an argument of a `|`
union among them. -/
theorem mem_barArgs {xs : List TypeHint} {y : TypeHint} (hy : y ∈ barArgs xs) :
    ∃ x ∈ xs, x = y ∨ ∃ ys, x = .bar ys ∧ y ∈ ys := by
  induction xs using barArgs.induct with
  | case1 => simp [barArgs] at hy
  | case2 ys rest ih =>
    rcases List.mem_append.mp hy with hy | hy
    · exact ⟨_, List.mem_cons_self, .inr ⟨ys, rfl, hy⟩⟩
    · obtain ⟨x, hx, hxy⟩ := ih hy
      exact ⟨x, List.mem_cons_of_mem _ hx, hxy⟩
  | case3 x rest hx ih =>
    rw [barArgs.eq_3 x rest hx] at hy
    rcases List.mem_cons.mp hy with rfl | hy
    · exact ⟨_, List.mem_cons_self, .inl rfl⟩
    · obtain ⟨x', hx', hxy⟩ := ih hy
      exact ⟨x', List.mem_cons_of_mem _ hx', hxy⟩

/-- An argument of a typing union of a list is an item of the list, or an argument of a
union of either kind among them. -/
theorem mem_unionArgs {xs : List TypeHint} {y : TypeHint} (hy : y ∈ unionArgs xs) :
    ∃ x ∈ xs, x = y ∨ ∃ ys, (x = .bar ys ∨ x = .union ys) ∧ y ∈ ys := by
  induction xs using unionArgs.induct with
  | case1 => simp [unionArgs] at hy
  | case2 ys rest ih =>
    rcases List.mem_append.mp hy with hy | hy
    · exact ⟨_, List.mem_cons_self, .inr ⟨ys, .inl rfl, hy⟩⟩
    · obtain ⟨x, hx, hxy⟩ := ih hy
      exact ⟨x, List.mem_cons_of_mem _ hx, hxy⟩
  | case3 ys rest ih =>
    rcases List.mem_append.mp hy with hy | hy
    · exact ⟨_, List.mem_cons_self, .inr ⟨ys, .inr rfl, hy⟩⟩
    · obtain ⟨x, hx, hxy⟩ := ih hy
      exact ⟨x, List.mem_cons_of_mem _ hx, hxy⟩
  | case4 x rest hbar hunion ih =>
    rw [unionArgs.eq_4 x rest hbar hunion] at hy
    rcases List.mem_cons.mp hy with rfl | hy
    · exact ⟨_, List.mem_cons_self, .inl rfl⟩
    · obtain ⟨x', hx', hxy⟩ := ih hy
      exact ⟨x', List.mem_cons_of_mem _ hx', hxy⟩

section Unions

variable {xs : List TypeHint}

theorem Writable.args_bar {ys : List TypeHint} (h : (TypeHint.bar ys).Writable) :
    ∀ y ∈ ys, y.Writable := by
  cases h with
  | bar h => exact h

theorem Writable.args_union {ys : List TypeHint} (h : (TypeHint.union ys).Writable) :
    ∀ y ∈ ys, y.Writable := by
  cases h with
  | union h => exact h

theorem writable_of_mem_barArgs (h : ∀ x ∈ xs, x.Writable) {y : TypeHint} (hy : y ∈ barArgs xs) :
    y.Writable := by
  obtain ⟨x, hx, rfl | ⟨ys, rfl, hy⟩⟩ := mem_barArgs hy
  · exact h _ hx
  · exact (h _ hx).args_bar y hy

theorem writable_of_mem_unionArgs (h : ∀ x ∈ xs, x.Writable) {y : TypeHint}
    (hy : y ∈ unionArgs xs) : y.Writable := by
  obtain ⟨x, hx, rfl | ⟨ys, rfl | rfl, hy⟩⟩ := mem_unionArgs hy
  · exact h _ hx
  · exact (h _ hx).args_bar y hy
  · exact (h _ hx).args_union y hy

/-- A `|` union of writable annotations is writable. -/
theorem Writable.barOf (h : ∀ x ∈ xs, x.Writable) : (barOf xs).Writable := by
  have hargs : ∀ y ∈ dedup (barArgs xs), y.Writable := fun y hy =>
    writable_of_mem_barArgs h (mem_of_mem_dedup hy)
  unfold TypeHint.barOf
  split
  · next x hx => exact hargs x (by simp [hx])
  · exact .bar hargs

/-- A typing union of writable annotations is writable. -/
theorem Writable.unionOf {x : TypeHint} (h : ∀ y ∈ x :: xs, y.Writable) :
    (unionOf x xs).Writable := by
  have hargs : ∀ y ∈ dedup (unionArgs (x :: xs)), y.Writable := fun y hy =>
    writable_of_mem_unionArgs h (mem_of_mem_dedup hy)
  unfold TypeHint.unionOf
  split
  · next y hy => exact hargs y (by simp [hy])
  · exact .union hargs

theorem Writable.or {a b : TypeHint} (ha : a.Writable) (hb : b.Writable) : (a.or b).Writable := by
  have hab : ∀ y ∈ [a, b], y.Writable := by simp [ha, hb]
  unfold TypeHint.or
  split
  · exact .barOf hab
  · exact .unionOf hab

theorem Writable.orAll {x : TypeHint} (h : ∀ y ∈ x :: xs, y.Writable) : (orAll x xs).Writable := by
  induction xs generalizing x with
  | nil => exact h x List.mem_cons_self
  | cons y ys ih =>
    refine ih (x := x.or y) fun z hz => ?_
    rcases List.mem_cons.mp hz with rfl | hz
    · exact .or (h x (by simp)) (h y (by simp))
    · exact h z (by simp [hz])

end Unions

/-! ## Rebuilding annotations -/

/-- Replacing the classes of circular models, all of valid names, by forward references
succeeds on a writable annotation and keeps it writable. -/
theorem Writable.replaceCircular {circular : List String} (hc : ∀ n ∈ circular, Naming.ValidName n)
    {h : TypeHint} (hw : h.Writable) :
    ∃ h', h.replaceCircular circular = .ok h' ∧ h'.Writable := by
  induction hw with
  | cls c =>
    rw [TypeHint.replaceCircular]
    split
    · next hmem => exact ⟨_, ref?_of_validName (hc _ (by simpa using hmem)), .ref _⟩
    · exact ⟨_, rfl, .cls c⟩
  | ref t => exact ⟨_, by rw [TypeHint.replaceCircular], .ref t⟩
  | @list args hne _ ih =>
    obtain ⟨ys, hys, -, hw⟩ := exists_mapM_eq_ok_forall Writable ih
    refine ⟨_, by rw [TypeHint.replaceCircular, hys]; rfl, .list ?_ hw⟩
    exact mt (eq_nil_iff_of_mapM_eq_ok hys).mp hne
  | @dict args hlen' _ ih =>
    obtain ⟨ys, hys, hlen, hw⟩ := exists_mapM_eq_ok_forall Writable ih
    exact ⟨_, by rw [TypeHint.replaceCircular, hys]; rfl, .dict (hlen ▸ hlen') hw⟩
  | @bar args _ ih =>
    obtain ⟨ys, hys, -, hw⟩ := exists_mapM_eq_ok_forall Writable ih
    rw [TypeHint.replaceCircular, hys]
    cases ys with
    | nil => exact ⟨_, rfl, .bar (by simp)⟩
    | cons y ys => exact ⟨_, rfl, .orAll hw⟩
  | @union args _ ih =>
    obtain ⟨ys, hys, -, hw⟩ := exists_mapM_eq_ok_forall Writable ih
    rw [TypeHint.replaceCircular, hys]
    cases ys with
    | nil => exact ⟨_, rfl, .union (by simp)⟩
    | cons y ys => exact ⟨_, rfl, .unionOf hw⟩

end TypeHint

/-! ## Annotations of properties -/

open TypeHint in
/-- The annotation read from a property's schema is writable: a forward reference, a class,
or a list of one writable annotation. -/
theorem fieldTypeWith_writable {fuel : Nat} {o : List Nat} {spec : Json} {field : String}
    {h : TypeHint} (hft : fieldTypeWith fuel o spec field = .ok h) : h.Writable := by
  induction fuel generalizing o spec h with
  | zero => cases hft
  | succ fuel ih =>
    unfold fieldTypeWith at hft
    simp only [bind_eq_ok] at hft
    obtain ⟨isRef, -, hft⟩ := hft
    split at hft
    · split at hft
      · split at hft
        · exact ref?_eq_ok hft ▸ .ref _
        · cases hft
      · cases hft
    split at hft
    · simp only [pure_bind] at hft
      split at hft
      · simp only [bind_eq_ok, pure_eq_ok] at hft
        obtain ⟨_, -, _, -, _, -, rfl⟩ := hft
        exact .cls _
      split at hft
      · split at hft
        · simp only [bind_eq_ok, pure_eq_ok] at hft
          obtain ⟨x, hx, rfl⟩ := hft
          exact .list (by simp) (by simpa using ih hx)
        · simp only [pure_eq_ok] at hft
          subst hft
          exact .list (by simp) (by simpa using Writable.cls _)
      · simp only [bind_eq_ok, pure_eq_ok] at hft
        obtain ⟨c, -, rfl⟩ := hft
        exact .cls c
    · simp at hft

end TransitKit.Typing
