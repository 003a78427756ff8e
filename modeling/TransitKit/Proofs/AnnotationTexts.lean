import Mathlib
import TransitKit.Proofs.AnnotationSyntax
import TransitKit.Proofs.UnionKeys
import TransitKit.Typing.Views

/-!
# Annotation texts read back

The generator writes an annotation as a declared text and, in field declarations, as a resolved
text with forward references to circular models quoted. Evaluated in a generated module's
scope, both read back as the annotation with its forward references resolved, except a resolved
text that writes a quoted reference beside `| None`, which is a type error. The proof writes
each text as the expression that renders it and evaluates it one constructor at a time, with
unions compared by the keys of their arguments.
-/

namespace TransitKit.Typing

open Codegen (isIdentifier isIdentifier_iff isPlainChar isPlainText)

/-- `|` between expressions, from the left. -/
def AnnExpr.joinBars : List AnnExpr → AnnExpr
  | [] => .name ""
  | e :: es => es.foldl .bar e

theorem AnnExpr.render_foldl_bar : ∀ (es : List AnnExpr) (acc : AnnExpr),
    (es.foldl .bar acc).render = " | ".intercalate (acc.render :: es.map render)
  | [], acc => by simp
  | [e], acc => by simp [render]
  | e :: e' :: es, acc => by
    rw [List.foldl_cons, render_foldl_bar (e' :: es) (.bar acc e)]
    simp [render, String.intercalate_cons_cons, String.append_assoc]

theorem AnnExpr.render_joinBars (es : List AnnExpr) :
    (joinBars es).render = " | ".intercalate (es.map render) := by
  cases es with
  | nil => rfl
  | cons e es => exact render_foldl_bar es e

theorem AnnExpr.renderArgs_eq_intercalate : ∀ es : List AnnExpr,
    renderArgs es = ", ".intercalate (es.map render)
  | [] => rfl
  | [e] => by simp [renderArgs]
  | e :: e' :: es => by
    rw [renderArgs.eq_3 e (e' :: es) (List.cons_ne_nil _ _), renderArgs_eq_intercalate (e' :: es)]
    simp [String.intercalate_cons_cons]

namespace TypeHint

mutual

/-- The expression that `resolvedText` writes. -/
def resolvedExpr (circular : List String) : TypeHint → AnnExpr
  | .ref t => if circular.contains t then .text t else .name t
  | .cls .noneClass => .name "None"
  | .cls c => .name c.name
  | .bar [a, b] =>
    if b.isNone then .bar (resolvedExpr circular a) (.name "None")
    else if a.isNone then .bar (resolvedExpr circular b) (.name "None")
    else .bar (resolvedExpr circular a) (resolvedExpr circular b)
  | .bar args => AnnExpr.joinBars (resolvedExprs circular args)
  | .union [a, b] =>
    if b.isNone then .bar (resolvedExpr circular a) (.name "None")
    else if a.isNone then .bar (resolvedExpr circular b) (.name "None")
    else .subscript "Union" [resolvedExpr circular a, resolvedExpr circular b]
  | .union args => .subscript "Union" (resolvedExprs circular args)
  | .generic o args => .subscript o.name (resolvedExprs circular args)

/-- The expressions that `resolvedText` writes of arguments. -/
def resolvedExprs (circular : List String) : List TypeHint → List AnnExpr
  | [] => []
  | a :: as => resolvedExpr circular a :: resolvedExprs circular as

end

mutual

/-- The resolved text of an annotation renders the expression of it. -/
theorem render_resolvedExpr (circular : List String) :
    ∀ h : TypeHint, (h.resolvedExpr circular).render = h.resolvedText circular
  | .ref t => by
    by_cases ht : t ∈ circular <;> simp [resolvedExpr, resolvedText, ht, AnnExpr.render]
  | .cls c => by cases c <;> simp [resolvedExpr, resolvedText, AnnExpr.render]
  | .generic o args => by
    simp [resolvedExpr, resolvedText, AnnExpr.render, AnnExpr.renderArgs_eq_intercalate,
      render_resolvedExprs circular args]
  | .bar args => by
    have ih := render_resolvedExprs circular args
    by_cases hpair : ∃ a b, args = [a, b]
    · obtain ⟨a, b, rfl⟩ := hpair
      simp only [resolvedExprs, List.map_cons, List.map_nil, List.cons.injEq, and_true] at ih
      rw [resolvedExpr.eq_4, resolvedText.eq_4]
      split_ifs <;> simp [AnnExpr.render, ih.1, ih.2, String.append_assoc]
    · have hne : ∀ a b, args = [a, b] → False := fun a b h => hpair ⟨a, b, h⟩
      rw [resolvedExpr.eq_5 _ _ hne, resolvedText.eq_5 _ _ hne, AnnExpr.render_joinBars, ih]
  | .union args => by
    have ih := render_resolvedExprs circular args
    by_cases hpair : ∃ a b, args = [a, b]
    · obtain ⟨a, b, rfl⟩ := hpair
      simp only [resolvedExprs, List.map_cons, List.map_nil, List.cons.injEq, and_true] at ih
      rw [resolvedExpr.eq_6, resolvedText.eq_6]
      split_ifs <;> simp [AnnExpr.render, AnnExpr.renderArgs, ih.1, ih.2, String.append_assoc]
    · have hne : ∀ a b, args = [a, b] → False := fun a b h => hpair ⟨a, b, h⟩
      rw [resolvedExpr.eq_7 _ _ hne, resolvedText.eq_7 _ _ hne, AnnExpr.render,
        AnnExpr.renderArgs_eq_intercalate, ih]
      simp

/-- The resolved texts of arguments render their expressions. -/
theorem render_resolvedExprs (circular : List String) :
    ∀ args : List TypeHint,
      (resolvedExprs circular args).map AnnExpr.render = args.map (resolvedText circular)
  | [] => rfl
  | a :: as => by
    simp [resolvedExprs, render_resolvedExpr circular a, render_resolvedExprs circular as]

end

theorem resolvedExprs_eq_map (circular : List String) :
    ∀ args : List TypeHint, resolvedExprs circular args = args.map (resolvedExpr circular)
  | [] => rfl
  | a :: as => by rw [resolvedExprs, resolvedExprs_eq_map circular as, List.map_cons]

/-! ## Annotations the type language builds -/

/-- An annotation as the type language builds it: a list has one argument and a dictionary
two; a `|` union joins distinct classes and containers, and a typing union distinct
arguments that are no unions. -/
inductive Built : TypeHint → Prop
  | cls (c : TypeClass) : Built (.cls c)
  | ref (t : String) : Built (.ref t)
  | list {a : TypeHint} : Built a → Built (.generic .list [a])
  | dict {k v : TypeHint} : Built k → Built v → Built (.generic .dict [k, v])
  | bar {args : List TypeHint} : args ≠ [] → (args.map key).Nodup → (∀ a ∈ args, Built a) →
      (∀ a ∈ args, a.joinsBar = true ∧ a.isUnion = false) → Built (.bar args)
  | union {args : List TypeHint} : args ≠ [] → (args.map key).Nodup → (∀ a ∈ args, Built a) →
      (∀ a ∈ args, a.isUnion = false) → Built (.union args)

/-- A class that a scope reads back from the name it is written by: `None`, `Any` and the
builtin classes as themselves, and a model or an enumeration class by an identifier, not a
reserved word, that the scope binds to it. -/
def ClassSpelled (scope : String → Option TypeClass) : TypeClass → Prop
  | .builtin n => n ∈ builtinClassNames
  | .anything | .noneClass => True
  | c => isIdentifier c.name = true ∧ c.name ∉ keywords ∧ scope c.name = some c

/-- An annotation whose names a scope reads back: each class is `ClassSpelled`, and each
forward reference is an identifier, not a reserved word, that the scope binds, and is an
expression as the typing library checks it. -/
inductive Spelled (scope : String → Option TypeClass) : TypeHint → Prop
  | cls {c : TypeClass} : ClassSpelled scope c → Spelled scope (.cls c)
  | ref {t : String} {c : TypeClass} : isIdentifier t = true → t ∉ keywords → scope t = some c →
      ref? t = .ok (.ref t) → Spelled scope (.ref t)
  | generic {o : Container} {args : List TypeHint} : (∀ a ∈ args, Spelled scope a) →
      Spelled scope (.generic o args)
  | bar {args : List TypeHint} : (∀ a ∈ args, Spelled scope a) → Spelled scope (.bar args)
  | union {args : List TypeHint} : (∀ a ∈ args, Spelled scope a) → Spelled scope (.union args)

/-- Whether the resolved text of an annotation writes a quoted forward reference beside
`| None`: somewhere in it is a typing union of two whose one argument is `None` and whose
other is a forward reference to a circular model. -/
inductive QuotesBesideNone (circular : List String) : TypeHint → Prop
  | left {t : String} {b : TypeHint} : t ∈ circular → b.isNone = true →
      QuotesBesideNone circular (.union [.ref t, b])
  | right {t : String} {a : TypeHint} : t ∈ circular → a.isNone = true →
      QuotesBesideNone circular (.union [a, .ref t])
  | generic {o : Container} {args : List TypeHint} {a : TypeHint} : a ∈ args →
      QuotesBesideNone circular a → QuotesBesideNone circular (.generic o args)
  | bar {args : List TypeHint} {a : TypeHint} : a ∈ args → QuotesBesideNone circular a →
      QuotesBesideNone circular (.bar args)
  | union {args : List TypeHint} {a : TypeHint} : a ∈ args → QuotesBesideNone circular a →
      QuotesBesideNone circular (.union args)

mutual

/-- The annotation with each forward reference whose text `bound` binds resolved to the
class it binds, unions rebuilt from their new arguments as the typing library rebuilds them. -/
def resolveWith (bound : String → Option TypeClass) : TypeHint → TypeHint
  | .ref t =>
    match bound t with
    | some c => .cls c
    | Option.none => .ref t
  | .cls c => .cls c
  | .generic o args => .generic o (resolveAll bound args)
  | .bar args => barOf (resolveAll bound args)
  | .union args =>
    match resolveAll bound args with
    | a :: rest => unionOf a rest
    | [] => .union []

/-- The arguments, each resolved. -/
def resolveAll (bound : String → Option TypeClass) : List TypeHint → List TypeHint
  | [] => []
  | a :: as => resolveWith bound a :: resolveAll bound as

end

theorem resolveAll_eq_map (bound : String → Option TypeClass) :
    ∀ args : List TypeHint, resolveAll bound args = args.map (resolveWith bound)
  | [] => rfl
  | a :: as => by rw [resolveAll, resolveAll_eq_map bound as, List.map_cons]

/-- The classes of the forward references a resolved text writes unquoted: those the scope
binds, other than circular models. -/
def unquoted (scope : String → Option TypeClass) (circular : List String) (t : String) :
    Option TypeClass :=
  if circular.contains t then Option.none else scope t

theorem unquoted_nil (scope : String → Option TypeClass) : unquoted scope [] = scope := by
  funext t
  simp [unquoted]

/-! ## The declared text and the resolved text -/

/-- A built annotation is declared by its resolved text with no circular models. -/
theorem typeText_eq_resolvedText {h : TypeHint} (hb : h.Built) :
    h.typeText = .ok (h.resolvedText []) := by
  induction hb with
  | cls c => cases c <;> simp [typeText, resolvedText]
  | ref t => simp [typeText, resolvedText]
  | list _ iha => simp [typeText, resolvedText, iha, Container.name, Except.map]
  | dict _ _ ihk ihv =>
    simp [typeText, resolvedText, ihk, ihv, Container.name, String.intercalate_cons_cons,
      String.append_assoc]
  | @bar args _ _ _ _ ih =>
    by_cases hpair : ∃ a b, args = [a, b]
    · obtain ⟨a, b, rfl⟩ := hpair
      rw [typeText.eq_4, resolvedText.eq_4, ih a (by simp), ih b (by simp)]
      split_ifs <;> simp [Except.map]
    · have hne : ∀ a b, args = [a, b] → False := fun a b h => hpair ⟨a, b, h⟩
      rw [typeText.eq_5 _ hne, resolvedText.eq_5 _ _ hne, mapM_eq_ok_map ih]
      rfl
  | @union args _ _ _ _ ih =>
    by_cases hpair : ∃ a b, args = [a, b]
    · obtain ⟨a, b, rfl⟩ := hpair
      rw [typeText.eq_10, resolvedText.eq_6, ih a (by simp), ih b (by simp)]
      split_ifs <;> simp [String.append_assoc, Except.map]
    · have hne : ∀ a b, args = [a, b] → False := fun a b h => hpair ⟨a, b, h⟩
      rw [typeText.eq_11 _ hne, resolvedText.eq_7 _ _ hne, mapM_eq_ok_map ih]
      simp [String.append_assoc, Except.map]

/-! ## The expressions read back -/

/-- A character of a name is none of the quote, the backslash and the line ends. -/
theorem isPlainChar_of_name {d : Char} (h : isNameStart d = true ∨ isNameChar d = true) :
    isPlainChar d = true := by
  by_contra hd
  simp only [isPlainChar, Bool.not_eq_true, Bool.and_eq_false_iff, bne_eq_false_iff_eq] at hd
  rcases hd with ((rfl | rfl) | rfl) | rfl <;> revert h <;> decide

theorem isPlainText_of_isIdentifier {t : String} (ht : isIdentifier t = true) :
    isPlainText t = true := by
  obtain ⟨c, cs, hcs, hstart, hrest⟩ := isIdentifier_iff.1 ht
  refine List.all_eq_true.mpr fun d hd => isPlainChar_of_name ?_
  rw [hcs] at hd
  rcases List.mem_cons.mp hd with rfl | hd
  · exact .inl hstart
  · exact .inr (hrest d hd)

theorem readable_foldl_bar : ∀ (es : List AnnExpr) {acc : AnnExpr}, acc.Readable →
    (∀ e ∈ es, e.Readable ∧ e.isOperand = true) → (es.foldl .bar acc).Readable
  | [], _, hacc, _ => hacc
  | e :: es, _, hacc, h =>
    readable_foldl_bar es (.bar hacc (h e List.mem_cons_self).1 (h e List.mem_cons_self).2)
      fun x hx => h x (List.mem_cons_of_mem e hx)

theorem readable_joinBars {es : List AnnExpr} (hne : es ≠ [])
    (h : ∀ e ∈ es, e.Readable ∧ e.isOperand = true) : (AnnExpr.joinBars es).Readable := by
  cases es with
  | nil => exact absurd rfl hne
  | cons e es =>
    exact readable_foldl_bar es (h e List.mem_cons_self).1 fun x hx => h x (List.mem_cons_of_mem e hx)

/-- Only a union is written with `|` at its top. -/
theorem isOperand_resolvedExpr (circular : List String) {a : TypeHint} (h : a.isUnion = false) :
    (a.resolvedExpr circular).isOperand = true := by
  cases a with
  | ref t => by_cases ht : t ∈ circular <;> simp [resolvedExpr, ht, AnnExpr.isOperand]
  | cls c => cases c <;> rfl
  | generic o args => rfl
  | bar args => simp [isUnion] at h
  | union args => simp [isUnion] at h

theorem isIdentifier_builtinClassNames : ∀ n ∈ builtinClassNames, isIdentifier n = true := by
  decide

theorem readable_name_none : (AnnExpr.name "None").Readable := .name (by decide)

/-- The resolved text of a built annotation whose names a scope reads back is the text of a
readable expression. -/
theorem readable_resolvedExpr {scope : String → Option TypeClass} (circular : List String)
    {h : TypeHint} (hb : h.Built) (hs : h.Spelled scope) : (h.resolvedExpr circular).Readable := by
  induction hb with
  | cls c =>
    cases hs with
    | cls hc =>
      cases c with
      | builtin n => exact .name (isIdentifier_builtinClassNames n hc)
      | anything => exact .name (by decide)
      | noneClass => exact readable_name_none
      | model n => exact .name hc.1
      | enumeration e => exact .name hc.1
  | ref t =>
    cases hs with
    | ref hid _ _ _ =>
      by_cases ht : t ∈ circular
      · simpa [resolvedExpr, ht] using AnnExpr.Readable.text (isPlainText_of_isIdentifier hid)
      · simpa [resolvedExpr, ht] using AnnExpr.Readable.name hid
  | list _ iha =>
    cases hs with
    | generic hargs =>
      exact .subscript (by decide) (by simp [resolvedExprs])
        (by simpa [resolvedExprs] using iha (hargs _ List.mem_cons_self))
  | dict _ _ ihk ihv =>
    cases hs with
    | generic hargs =>
      refine .subscript (by decide) (by simp [resolvedExprs]) ?_
      simp only [resolvedExprs, List.mem_cons, List.not_mem_nil, or_false]
      rintro e (rfl | rfl)
      · exact ihk (hargs _ (by simp))
      · exact ihv (hargs _ (by simp))
  | @bar args hne _ _ hjoin ih =>
    cases hs with
    | bar hargs =>
      have ih' : ∀ a ∈ args, (a.resolvedExpr circular).Readable := fun a ha => ih a ha (hargs a ha)
      by_cases hpair : ∃ a b, args = [a, b]
      · obtain ⟨a, b, rfl⟩ := hpair
        rw [resolvedExpr.eq_4]
        split_ifs
        · exact .bar (ih' a (by simp)) readable_name_none rfl
        · exact .bar (ih' b (by simp)) readable_name_none rfl
        · exact .bar (ih' a (by simp)) (ih' b (by simp))
            (isOperand_resolvedExpr circular (hjoin b (by simp)).2)
      · rw [resolvedExpr.eq_5 _ _ fun a b h => hpair ⟨a, b, h⟩, resolvedExprs_eq_map]
        refine readable_joinBars (by simpa using hne) ?_
        simp only [List.mem_map]
        rintro e ⟨a, ha, rfl⟩
        exact ⟨ih' a ha, isOperand_resolvedExpr circular (hjoin a ha).2⟩
  | @union args hne _ _ _ ih =>
    cases hs with
    | union hargs =>
      have ih' : ∀ a ∈ args, (a.resolvedExpr circular).Readable := fun a ha => ih a ha (hargs a ha)
      by_cases hpair : ∃ a b, args = [a, b]
      · obtain ⟨a, b, rfl⟩ := hpair
        rw [resolvedExpr.eq_6]
        split_ifs
        · exact .bar (ih' a (by simp)) readable_name_none rfl
        · exact .bar (ih' b (by simp)) readable_name_none rfl
        · refine .subscript (by decide) (by simp) ?_
          simp only [List.mem_cons, List.not_mem_nil, or_false]
          rintro e (rfl | rfl)
          · exact ih' a (by simp)
          · exact ih' b (by simp)
      · rw [resolvedExpr.eq_7 _ _ fun a b h => hpair ⟨a, b, h⟩, resolvedExprs_eq_map]
        refine .subscript (by decide) (by simpa using hne) ?_
        simp only [List.mem_map]
        rintro e ⟨a, ha, rfl⟩
        exact ih' a ha

theorem isNone_eq_true {a : TypeHint} (h : a.isNone = true) : a = none := by
  cases a with
  | cls c => cases c <;> simp_all [isNone, none]
  | _ => simp [isNone] at h

theorem isUnion_resolveWith {bound : String → Option TypeClass} {a : TypeHint}
    (h : a.isUnion = false) : (a.resolveWith bound).isUnion = false := by
  cases a with
  | ref t => cases hb : bound t <;> simp [resolveWith, hb, isUnion]
  | cls c => rfl
  | generic o args => rfl
  | _ => simp [isUnion] at h

end TypeHint

/-- A scope that leaves `Any`, `Union` and the builtin classes their own meaning. -/
def KeepsBuiltins (scope : String → Option TypeClass) : Prop :=
  ∀ n ∈ "Any" :: "Union" :: builtinClassNames, scope n = Option.none

/-- The scope of a module that binds each of some names to the model class of that name. -/
def modelScope (names : List String) (n : String) : Option TypeClass :=
  if names.contains n then some (.model n) else Option.none

theorem keepsBuiltins_modelScope {names : List String}
    (h : ∀ n ∈ names, n ∉ "Any" :: "Union" :: builtinClassNames) :
    KeepsBuiltins (modelScope names) := by
  intro n hn
  have hm : n ∉ names := fun hm => h n hm hn
  simp [modelScope, hm]

section Evaluation

variable {scope : String → Option TypeClass}

theorem lookupName_builtin (hk : KeepsBuiltins scope) {n : String} (hn : n ∈ builtinClassNames) :
    lookupName scope n = .ok (.hint (.cls (.builtin n))) := by
  have hs := hk n (by simp [hn])
  simp only [builtinClassNames, List.mem_cons, List.not_mem_nil, or_false] at hn
  rcases hn with rfl | rfl | rfl | rfl | rfl | rfl <;> simp [lookupName, hs, keywords, builtinClassNames]

theorem lookupName_any (hk : KeepsBuiltins scope) :
    lookupName scope "Any" = .ok (.hint (.cls .anything)) := by
  simp [lookupName, hk "Any" (by simp), keywords]

theorem lookupName_union (hk : KeepsBuiltins scope) : lookupName scope "Union" = .ok (.special false) := by
  simp [lookupName, hk "Union" (by simp), keywords]

theorem lookupName_bound {n : String} {c : TypeClass} (hkw : n ∉ keywords) (hs : scope n = some c) :
    lookupName scope n = .ok (.hint (.cls c)) := by
  have hnone : n ≠ "None" := by
    rintro rfl
    exact hkw (by decide)
  simp [lookupName, hnone, hkw, hs]

theorem joinsBar_of_toHint {v : AnnValue} {x : TypeHint} (hv : v.joinsBar = true)
    (hx : v.toHint = .ok x) : x.joinsBar = true := by
  cases v with
  | hint h =>
    cases hx
    exact hv
  | none =>
    cases hx
    rfl
  | text s => simp [AnnValue.joinsBar] at hv
  | special o => simp [AnnValue.joinsBar] at hv

/-- `|` between two values that take part in a `|` union, not both `None`, is the union of
the annotations they stand for. -/
theorem orValues_of_joinsBar {v w : AnnValue} {x y : TypeHint} (hv : v.joinsBar = true)
    (hw : w.joinsBar = true) (hnn : ¬ (v = .none ∧ w = .none)) (hx : v.toHint = .ok x)
    (hy : w.toHint = .ok y) : orValues v w = .ok (.hint (x.or y)) := by
  unfold orValues
  split
  · exact absurd ⟨rfl, rfl⟩ hnn
  · simp [hv, hw, hx, hy]

theorem eval_foldl_bar_error : ∀ (es : List AnnExpr) {acc : AnnExpr},
    acc.eval scope = .error .typeError → (es.foldl .bar acc).eval scope = .error .typeError
  | [], _, h => h
  | e :: es, acc, h => eval_foldl_bar_error es (by simp [AnnExpr.eval, h])

namespace TypeHint

/-- What the value of the resolved text of `h` says of `h`: it stands for an annotation equal
to `h` with the forward references the text writes unquoted resolved; it is `None` only for
`None` or a union; and it takes part in a `|` union unless `h` is a union or a quoted forward
reference. -/
structure ReadsBack (scope : String → Option TypeClass) (circular : List String) (h : TypeHint)
    (v : AnnValue) : Prop where
  stands : ∃ x, v.toHint = .ok x ∧ x.key = (h.resolveWith (unquoted scope circular)).key
  none_only : v = .none → h.isNone = true ∨ h.isUnion = true
  joins : h.isUnion = false → (∀ t, h = .ref t → t ∉ circular) → v.joinsBar = true

/-- Evaluating the resolved text of `h`: a type error when it writes a quoted reference beside
`| None`, and else a value that reads back as `h`. -/
def EvalsBack (scope : String → Option TypeClass) (circular : List String) (h : TypeHint) : Prop :=
  (h.QuotesBesideNone circular → (h.resolvedExpr circular).eval scope = .error .typeError) ∧
  (¬ h.QuotesBesideNone circular →
    ∃ v, (h.resolvedExpr circular).eval scope = .ok v ∧ ReadsBack scope circular h v)

theorem evalsBack_cls (hk : KeepsBuiltins scope) (circular : List String) {c : TypeClass}
    (hc : ClassSpelled scope c) : EvalsBack scope circular (.cls c) := by
  unfold EvalsBack
  refine ⟨fun h => (nomatch h), fun _ => ?_⟩
  have hval : ∃ v, ((TypeHint.cls c).resolvedExpr circular).eval scope = .ok v ∧
      v.toHint = .ok (.cls c) ∧ (v = .none → c = .noneClass) ∧ v.joinsBar = true := by
    cases c with
    | noneClass => exact ⟨.none, rfl, rfl, fun _ => rfl, rfl⟩
    | builtin n => exact ⟨_, lookupName_builtin hk hc, rfl, by simp, rfl⟩
    | anything => exact ⟨_, lookupName_any hk, rfl, by simp, rfl⟩
    | model n => exact ⟨_, lookupName_bound hc.2.1 hc.2.2, rfl, by simp, rfl⟩
    | enumeration e => exact ⟨_, lookupName_bound hc.2.1 hc.2.2, rfl, by simp, rfl⟩
  obtain ⟨v, hv, hx, hnone, hjoin⟩ := hval
  refine ⟨v, hv, ⟨⟨.cls c, hx, rfl⟩, fun h => .inl ?_, fun _ _ => hjoin⟩⟩
  rw [hnone h]
  rfl

theorem evalsBack_ref (circular : List String) {t : String} (hs : (TypeHint.ref t).Spelled scope) :
    EvalsBack scope circular (.ref t) := by
  unfold EvalsBack
  refine ⟨fun h => (nomatch h), fun _ => ?_⟩
  obtain ⟨c, hkw, hbound, href⟩ : ∃ c, t ∉ keywords ∧ scope t = some c ∧ ref? t = .ok (.ref t) := by
    cases hs with
    | ref _ hkw hbound href => exact ⟨_, hkw, hbound, href⟩
  by_cases ht : t ∈ circular
  · refine ⟨.text t, by simp [resolvedExpr, ht, AnnExpr.eval], ⟨⟨.ref t, ?_, ?_⟩, by simp,
      fun _ hq => absurd ht (hq t rfl)⟩⟩
    · simp [AnnValue.toHint, href]
    · simp [resolveWith, unquoted, ht]
  · refine ⟨.hint (.cls c), ?_, ⟨⟨.cls c, rfl, ?_⟩, by simp, fun _ _ => rfl⟩⟩
    · simpa [resolvedExpr, ht, AnnExpr.eval] using lookupName_bound hkw hbound
    · simp [resolveWith, unquoted, ht, hbound]

/-- The arguments of a subscription fail when one writes a quoted reference beside `| None`,
and else give the values that read back as them. -/
theorem evalArgs_resolvedExprs {circular : List String} {args : List TypeHint}
    (ih : ∀ a ∈ args, EvalsBack scope circular a) :
    ((∃ a ∈ args, a.QuotesBesideNone circular) →
      AnnExpr.evalArgs scope (resolvedExprs circular args) = .error .typeError) ∧
    ((∀ a ∈ args, ¬ a.QuotesBesideNone circular) → ∃ vs,
      AnnExpr.evalArgs scope (resolvedExprs circular args) = .ok vs ∧
      List.Forall₂ (ReadsBack scope circular) args vs) := by
  induction args with
  | nil => exact ⟨fun hq => hq.elim fun _ h => absurd h.1 List.not_mem_nil, fun _ => ⟨[], rfl, .nil⟩⟩
  | cons a as ihs =>
    have iha := ih a List.mem_cons_self
    have ihas := ihs fun b hb => ih b (List.mem_cons_of_mem a hb)
    constructor
    · rintro ⟨b, hb, hbad⟩
      by_cases ha : a.QuotesBesideNone circular
      · simp [resolvedExprs, AnnExpr.evalArgs, iha.1 ha]
      · obtain ⟨v, hv, -⟩ := iha.2 ha
        have hbas : ∃ b ∈ as, b.QuotesBesideNone circular := by
          rcases List.mem_cons.mp hb with rfl | hb
          · exact absurd hbad ha
          · exact ⟨b, hb, hbad⟩
        simp [resolvedExprs, AnnExpr.evalArgs, hv, ihas.1 hbas]
    · intro hgood
      obtain ⟨v, hv, hrv⟩ := iha.2 (hgood a List.mem_cons_self)
      obtain ⟨vs, hvs, hrvs⟩ := ihas.2 fun b hb => hgood b (List.mem_cons_of_mem a hb)
      exact ⟨v :: vs, by simp [resolvedExprs, AnnExpr.evalArgs, hv, hvs], .cons hrv hrvs⟩

theorem hints_of_forall₂ {circular : List String} : ∀ {args : List TypeHint} {vs : List AnnValue},
    List.Forall₂ (ReadsBack scope circular) args vs → ∃ xs, vs.mapM AnnValue.toHint = .ok xs ∧
      xs.map key = args.map fun a => (a.resolveWith (unquoted scope circular)).key
  | [], [], .nil => ⟨[], rfl, rfl⟩
  | _ :: _, _ :: _, .cons hr hrs => by
    obtain ⟨x, hx, hkey⟩ := hr.stands
    obtain ⟨xs, hxs, hkeys⟩ := hints_of_forall₂ hrs
    exact ⟨x :: xs, by simp [List.mapM_cons, hx, hxs], by simp [hkey, hkeys]⟩

/-- Annotations keyed like the resolved arguments of a union are no unions either. -/
theorem isUnion_of_keys {bound : String → Option TypeClass} {xs args : List TypeHint}
    (hkeys : xs.map key = args.map fun a => (a.resolveWith bound).key)
    (hargs : ∀ a ∈ args, a.isUnion = false) : ∀ x ∈ xs, x.isUnion = false := by
  intro x hx
  have hmem : x.key ∈ args.map fun a => (a.resolveWith bound).key := hkeys ▸ List.mem_map_of_mem hx
  obtain ⟨a, ha, hka⟩ := List.mem_map.mp hmem
  rw [isUnion_of_key_eq hka.symm, isUnion_resolveWith (hargs a ha)]

theorem evalsBack_generic (hk : KeepsBuiltins scope) (circular : List String) {o : Container}
    {args : List TypeHint} (ih : ∀ a ∈ args, EvalsBack scope circular a) :
    EvalsBack scope circular (.generic o args) := by
  have hhead : lookupName scope o.name = .ok (.hint (.cls (.builtin o.name))) :=
    lookupName_builtin hk (by cases o <;> decide)
  have hargs := evalArgs_resolvedExprs ih
  unfold EvalsBack
  constructor
  · intro hbad
    obtain ⟨a, ha, hbad⟩ : ∃ a ∈ args, a.QuotesBesideNone circular := by
      cases hbad with
      | generic ha hbad => exact ⟨_, ha, hbad⟩
    simp [resolvedExpr, AnnExpr.eval, hhead, hargs.1 ⟨a, ha, hbad⟩]
  · intro hgood
    obtain ⟨vs, hvs, hrs⟩ := hargs.2 fun a ha hbad => hgood (.generic ha hbad)
    obtain ⟨xs, hxs, hkeys⟩ := hints_of_forall₂ hrs
    have hsub : subscriptValue (.hint (.cls (.builtin o.name))) vs = .ok (.hint (.generic o xs)) := by
      cases o <;> simp [subscriptValue, hxs, Container.name]
    refine ⟨.hint (.generic o xs), by simp [resolvedExpr, AnnExpr.eval, hhead, hvs, hsub],
      ⟨⟨_, rfl, ?_⟩, by simp, fun _ _ => rfl⟩⟩
    simp [key, resolveWith, resolveAll_eq_map, hkeys, List.map_map, Function.comp_def]

/-- `W | None`, as both printers write a union of two whose other argument is `None`: a type
error when `W` is a quoted reference or writes one beside `| None`, and else the `|` union of
what `W` reads back as and `None`. -/
theorem eval_orNone {circular : List String} {w : TypeHint} (hu : w.isUnion = false)
    (hnn : w.isNone = false) (ih : EvalsBack scope circular w) :
    ((∃ t, w = .ref t ∧ t ∈ circular) ∨ w.QuotesBesideNone circular →
      (AnnExpr.bar (w.resolvedExpr circular) (.name "None")).eval scope = .error .typeError) ∧
    ((∀ t, w = .ref t → t ∉ circular) → ¬ w.QuotesBesideNone circular → ∃ x,
      (AnnExpr.bar (w.resolvedExpr circular) (.name "None")).eval scope =
        .ok (.hint (barOf [x, TypeHint.none])) ∧
      x.key = (w.resolveWith (unquoted scope circular)).key ∧ x.isUnion = false) := by
  constructor
  · rintro (⟨t, rfl, ht⟩ | hbad)
    · simp [resolvedExpr, ht, AnnExpr.eval, lookupName, orValues, AnnValue.joinsBar,
        AnnValue.isTyping]
      rfl
    · simp [AnnExpr.eval, ih.1 hbad]
  · intro hq hgood
    obtain ⟨v, hv, hr⟩ := ih.2 hgood
    obtain ⟨x, hx, hkey⟩ := hr.stands
    have hj : v.joinsBar = true := hr.joins hu hq
    have hvn : v ≠ .none := fun h => by
      rcases hr.none_only h with h | h <;> simp_all
    have hor : orValues v .none = .ok (.hint (x.or TypeHint.none)) :=
      orValues_of_joinsBar hj rfl (fun h => hvn h.1) hx rfl
    refine ⟨x, ?_, hkey, ?_⟩
    · rw [← or_none_of_joinsBar x (joinsBar_of_toHint hj hx)]
      simp [AnnExpr.eval, hv, lookupName, hor]
    · rw [isUnion_of_key_eq hkey, isUnion_resolveWith hu]

/-- `Union[…]` of the expressions of arguments that are no unions. -/
theorem eval_unionSubscript (hk : KeepsBuiltins scope) {circular : List String}
    {args : List TypeHint} (hne : args ≠ []) (hu : ∀ a ∈ args, a.isUnion = false)
    (ih : ∀ a ∈ args, EvalsBack scope circular a) :
    ((∃ a ∈ args, a.QuotesBesideNone circular) →
      (AnnExpr.subscript "Union" (resolvedExprs circular args)).eval scope = .error .typeError) ∧
    ((∀ a ∈ args, ¬ a.QuotesBesideNone circular) → ∃ x,
      (AnnExpr.subscript "Union" (resolvedExprs circular args)).eval scope = .ok (.hint x) ∧
      x.key = ((TypeHint.union args).resolveWith (unquoted scope circular)).key) := by
  have hargs := evalArgs_resolvedExprs ih
  constructor
  · intro hbad
    simp [AnnExpr.eval, lookupName_union hk, hargs.1 hbad]
  · intro hgood
    obtain ⟨vs, hvs, hrs⟩ := hargs.2 hgood
    obtain ⟨xs, hxs, hkeys⟩ := hints_of_forall₂ hrs
    obtain ⟨a, as, rfl⟩ := List.exists_cons_of_ne_nil hne
    obtain ⟨x, xs, rfl⟩ : ∃ x xs', xs = x :: xs' := by
      cases xs with
      | nil => simp at hkeys
      | cons x xs => exact ⟨x, xs, rfl⟩
    have hxu := isUnion_of_keys hkeys hu
    have hsub : subscriptValue (.special false) vs = .ok (.hint (unionOf x xs)) := by
      simp [subscriptValue, hxs]
    refine ⟨unionOf x xs, by simp [AnnExpr.eval, lookupName_union hk, hvs, hsub], ?_⟩
    have hres : (TypeHint.union (a :: as)).resolveWith (unquoted scope circular) =
        unionOf (a.resolveWith (unquoted scope circular))
          (as.map (resolveWith (unquoted scope circular))) := by
      simp [resolveWith, resolveAll_eq_map]
    have hru : ∀ y ∈ a.resolveWith (unquoted scope circular) ::
        as.map (resolveWith (unquoted scope circular)), y.isUnion = false := by
      simp only [← List.map_cons, List.mem_map]
      rintro y ⟨b, hb, rfl⟩
      exact isUnion_resolveWith (hu b hb)
    rw [hres, key_unionOf_eq_barOf hxu, key_unionOf_eq_barOf hru]
    refine key_barOf_congr hxu hru fun k => ?_
    rw [hkeys, ← List.map_cons, List.map_map]
    rfl

/-- A class or container is no forward reference, quoted or not. -/
theorem not_quotedRef_of_joinsBar {circular : List String} {c : TypeHint}
    (hc : c.joinsBar = true) : ¬ ∃ t, c = .ref t ∧ t ∈ circular := by
  rintro ⟨t, rfl, -⟩
  simp [joinsBar] at hc

/-- A class or container that reads back evaluates to a value that takes part in a `|`
union and stands for a class, container or `|` union keyed as the argument resolves. -/
theorem readsBack_joined {circular : List String} {a : TypeHint} {v : AnnValue}
    (hr : ReadsBack scope circular a v) (hja : a.joinsBar = true) (hua : a.isUnion = false) :
    ∃ x, v.toHint = .ok x ∧ x.key = (a.resolveWith (unquoted scope circular)).key ∧
      v.joinsBar = true ∧ x.joinsBar = true ∧ x.isUnion = false := by
  obtain ⟨x, hx, hkey⟩ := hr.stands
  have hjv : v.joinsBar = true :=
    hr.joins hua fun t ht htc => not_quotedRef_of_joinsBar hja ⟨t, ht, htc⟩
  exact ⟨x, hx, hkey, hjv, joinsBar_of_toHint hjv hx,
    by rw [isUnion_of_key_eq hkey, isUnion_resolveWith hua]⟩

/-- `|` after a built `|` union, from the left, with the expressions of classes and
containers: a type error when one of them writes a quoted reference beside `| None`, and else
the `|` union of all that they read back as. -/
theorem eval_foldl_bar {circular : List String} : ∀ (args : List TypeHint) {acc : AnnExpr}
    {L : List TypeHint}, acc.eval scope = .ok (.hint (barOf L)) →
    (∀ y ∈ barArgs L, y.joinsBar = true ∧ y.isUnion = false) →
    (∀ a ∈ args, EvalsBack scope circular a ∧ a.joinsBar = true ∧ a.isUnion = false) →
    ((∃ a ∈ args, a.QuotesBesideNone circular) →
      ((args.map (resolvedExpr circular)).foldl .bar acc).eval scope = .error .typeError) ∧
    ((∀ a ∈ args, ¬ a.QuotesBesideNone circular) → ∃ xs : List TypeHint,
      ((args.map (resolvedExpr circular)).foldl .bar acc).eval scope =
        .ok (.hint (xs.foldl or (barOf L))) ∧
      xs.map key = args.map (fun a => (a.resolveWith (unquoted scope circular)).key) ∧
      ∀ x ∈ xs, x.joinsBar = true ∧ x.isUnion = false)
  | [], _, _, hacc, _, _ =>
    ⟨fun hq => hq.elim fun _ h => absurd h.1 List.not_mem_nil, fun _ => ⟨[], hacc, rfl, by simp⟩⟩
  | a :: as, acc, L, hacc, hL, h => by
    obtain ⟨iha, hja, hua⟩ := h a List.mem_cons_self
    have hrest : ∀ b ∈ as, EvalsBack scope circular b ∧ b.joinsBar = true ∧ b.isUnion = false :=
      fun b hb => h b (List.mem_cons_of_mem a hb)
    by_cases hbad : a.QuotesBesideNone circular
    · have herr : (AnnExpr.bar acc (a.resolvedExpr circular)).eval scope = .error .typeError := by
        simp [AnnExpr.eval, hacc, iha.1 hbad]
      exact ⟨fun _ => by simpa using eval_foldl_bar_error (as.map (resolvedExpr circular)) herr,
        fun hgood => absurd hbad (hgood a List.mem_cons_self)⟩
    · obtain ⟨v, hv, hr⟩ := iha.2 hbad
      obtain ⟨x, hx, hkey, hjv, hjx, hux⟩ := readsBack_joined hr hja hua
      have hjL : (barOf L).joinsBar = true := joinsBar_barOf fun y hy => (hL y hy).1
      have hor : (barOf L).or x = barOf [barOf L, x] := by simp [TypeHint.or, hjL, hjx]
      have hstep : (AnnExpr.bar acc (a.resolvedExpr circular)).eval scope =
          .ok (.hint (barOf [barOf L, x])) := by
        have hval := @orValues_of_joinsBar (.hint (barOf L)) v (barOf L) x hjL hjv (by simp) rfl hx
        rw [hor] at hval
        simp [AnnExpr.eval, hacc, hv, hval]
      have hL' : ∀ y ∈ barArgs [barOf L, x], y.joinsBar = true ∧ y.isUnion = false := by
        rw [barArgs_barOf_pair (fun y hy => (hL y hy).2) hux]
        intro y hy
        rcases List.mem_append.mp hy with hy | hy
        · exact hL y (mem_of_mem_dedup hy)
        · rw [List.mem_singleton.mp hy]
          exact ⟨hjx, hux⟩
      obtain ⟨herr, hok⟩ := eval_foldl_bar as hstep hL' hrest
      refine ⟨fun hq => ?_, fun hgood => ?_⟩
      · obtain ⟨b, hb, hbadb⟩ := hq
        rcases List.mem_cons.mp hb with rfl | hb
        · exact absurd hbadb hbad
        · simpa using herr ⟨b, hb, hbadb⟩
      · obtain ⟨xs, hxs, hkeys, hxsj⟩ := hok fun b hb => hgood b (List.mem_cons_of_mem a hb)
        refine ⟨x :: xs, by simpa [hor] using hxs, by simp [hkey, hkeys], ?_⟩
        intro y hy
        rcases List.mem_cons.mp hy with rfl | hy
        · exact ⟨hjx, hux⟩
        · exact hxsj y hy

theorem quotesBesideNone_bar {circular : List String} {args : List TypeHint} :
    (TypeHint.bar args).QuotesBesideNone circular ↔ ∃ a ∈ args, a.QuotesBesideNone circular := by
  constructor
  · intro h
    cases h with
    | bar ha hbad => exact ⟨_, ha, hbad⟩
  · rintro ⟨a, ha, hbad⟩
    exact .bar ha hbad

theorem quotesBesideNone_union {circular : List String} {args : List TypeHint} :
    (TypeHint.union args).QuotesBesideNone circular ↔
      (∃ t b, args = [.ref t, b] ∧ t ∈ circular ∧ b.isNone = true) ∨
      (∃ t a, args = [a, .ref t] ∧ t ∈ circular ∧ a.isNone = true) ∨
      ∃ a ∈ args, a.QuotesBesideNone circular := by
  constructor
  · intro h
    cases h with
    | left ht hb => exact .inl ⟨_, _, rfl, ht, hb⟩
    | right ht ha => exact .inr (.inl ⟨_, _, rfl, ht, ha⟩)
    | union ha hbad => exact .inr (.inr ⟨_, ha, hbad⟩)
  · rintro (⟨t, b, rfl, ht, hb⟩ | ⟨t, a, rfl, ht, ha⟩ | ⟨a, ha, hbad⟩)
    · exact .left ht hb
    · exact .right ht ha
    · exact .union ha hbad

theorem not_quotesBesideNone_none {circular : List String} :
    ¬ TypeHint.none.QuotesBesideNone circular := fun h => nomatch h

/-- Two distinct annotations are not both `None`. -/
theorem isNone_eq_false_of_key_ne {a b : TypeHint} (hb : b.isNone = true) (h : a.key ≠ b.key) :
    a.isNone = false := by
  by_contra ha
  rw [Bool.not_eq_false] at ha
  rw [isNone_eq_true ha, isNone_eq_true hb] at h
  exact h rfl

theorem keySet_congr {xs ys : List TypeHint} (h : xs.map key = ys.map key) : keySet xs = keySet ys := by
  simp only [keySet, h]

/-- `X | None` and `None | X`, of either kind, are keyed alike. -/
theorem key_pair_none {x y : TypeHint} (hx : x.isUnion = false) (hy : y.isUnion = false)
    (h : x.key = y.key) :
    (barOf [x, none]).key = (barOf [y, none]).key ∧ (barOf [x, none]).key = (barOf [none, y]).key := by
  have hn : none.isUnion = false := rfl
  constructor
  · refine key_barOf_congr (by simp [hx, hn]) (by simp [hy, hn]) fun k => ?_
    simp [h]
  · refine key_barOf_congr (by simp [hx, hn]) (by simp [hn, hy]) fun k => ?_
    simp [h, or_comm]

/-- The first two classes or containers of a `|` union, neither writing a quoted reference
beside `| None`: their `|` union. -/
theorem eval_bar_pair {circular : List String} {a b : TypeHint} (hab : a.key ≠ b.key)
    (ha : EvalsBack scope circular a ∧ a.joinsBar = true ∧ a.isUnion = false)
    (hb : EvalsBack scope circular b ∧ b.joinsBar = true ∧ b.isUnion = false)
    (hga : ¬ a.QuotesBesideNone circular) (hgb : ¬ b.QuotesBesideNone circular) :
    ∃ x y, (AnnExpr.bar (a.resolvedExpr circular) (b.resolvedExpr circular)).eval scope =
        .ok (.hint (barOf [x, y])) ∧
      x.key = (a.resolveWith (unquoted scope circular)).key ∧
      y.key = (b.resolveWith (unquoted scope circular)).key ∧
      ∀ z ∈ barArgs [x, y], z.joinsBar = true ∧ z.isUnion = false := by
  obtain ⟨va, hva, hra⟩ := ha.1.2 hga
  obtain ⟨vb, hvb, hrb⟩ := hb.1.2 hgb
  obtain ⟨x, hx, hkx, hja, hjx, hux⟩ := readsBack_joined hra ha.2.1 ha.2.2
  obtain ⟨y, hy, hky, hjb, hjy, huy⟩ := readsBack_joined hrb hb.2.1 hb.2.2
  have hnn : ¬ (va = .none ∧ vb = .none) := by
    rintro ⟨hna, hnb⟩
    have h1 : a.isNone = true := by simpa [ha.2.2] using hra.none_only hna
    have h2 : b.isNone = true := by simpa [hb.2.2] using hrb.none_only hnb
    exact absurd (isNone_eq_false_of_key_ne h2 hab) (by simp [h1])
  refine ⟨x, y, ?_, hkx, hky, ?_⟩
  · have hor : x.or y = barOf [x, y] := by simp [TypeHint.or, hjx, hjy]
    simp [AnnExpr.eval, hva, hvb, orValues_of_joinsBar hja hjb hnn hx hy, hor]
  · rw [barArgs_eq_self (by simp [hux, huy])]
    simp [hjx, hjy, hux, huy]

/-- A `|` union of two classes or containers or more, written with `|` between them. -/
theorem evalsBack_barChain {circular : List String} {a b : TypeHint} {rest : List TypeHint}
    (hnd : ((a :: b :: rest).map key).Nodup)
    (h : ∀ c ∈ a :: b :: rest, EvalsBack scope circular c ∧ c.joinsBar = true ∧ c.isUnion = false) :
    ((∃ c ∈ a :: b :: rest, c.QuotesBesideNone circular) →
      ((rest.map (resolvedExpr circular)).foldl AnnExpr.bar
        (AnnExpr.bar (a.resolvedExpr circular) (b.resolvedExpr circular))).eval scope =
          .error .typeError) ∧
    ((∀ c ∈ a :: b :: rest, ¬ c.QuotesBesideNone circular) → ∃ v,
      ((rest.map (resolvedExpr circular)).foldl AnnExpr.bar
        (AnnExpr.bar (a.resolvedExpr circular) (b.resolvedExpr circular))).eval scope = .ok v ∧
      ReadsBack scope circular (.bar (a :: b :: rest)) v) := by
  have ha := h a (by simp)
  have hb := h b (by simp)
  have hrest : ∀ c ∈ rest, EvalsBack scope circular c ∧ c.joinsBar = true ∧ c.isUnion = false :=
    fun c hc => h c (by simp [hc])
  have hab : a.key ≠ b.key := by
    intro he
    simp [he] at hnd
  constructor
  · rintro ⟨c, hc, hbad⟩
    by_cases hba : a.QuotesBesideNone circular
    · exact eval_foldl_bar_error _ (by simp [AnnExpr.eval, ha.1.1 hba])
    obtain ⟨va, hva, -⟩ := ha.1.2 hba
    by_cases hbb : b.QuotesBesideNone circular
    · exact eval_foldl_bar_error _ (by simp [AnnExpr.eval, hva, hb.1.1 hbb])
    obtain ⟨x, y, hxy, -, -, hL⟩ := eval_bar_pair hab ha hb hba hbb
    have hc' : c ∈ rest := by
      rcases List.mem_cons.mp hc with rfl | hc
      · exact absurd hbad hba
      rcases List.mem_cons.mp hc with rfl | hc
      · exact absurd hbad hbb
      exact hc
    exact (eval_foldl_bar rest hxy hL hrest).1 ⟨c, hc', hbad⟩
  · intro hgood
    obtain ⟨x, y, hxy, hkx, hky, hL⟩ := eval_bar_pair hab ha hb (hgood a (by simp)) (hgood b (by simp))
    obtain ⟨xs, hxs, hkeys, hxsj⟩ :=
      (eval_foldl_bar rest hxy hL hrest).2 fun c hc => hgood c (by simp [hc])
    refine ⟨_, hxs, ⟨⟨_, rfl, ?_⟩, by simp, by simp [isUnion]⟩⟩
    have hres : ∀ c ∈ (a :: b :: rest).map (resolveWith (unquoted scope circular)), c.isUnion = false := by
      simp only [List.mem_map]
      rintro c ⟨d, hd, rfl⟩
      exact isUnion_resolveWith (h d hd).2.2
    rw [key_foldl_or_barOf xs [x, y] hL hxsj, resolveWith, resolveAll_eq_map, key_barOf,
      barArgs_eq_self hres, barArgs_eq_self (fun z hz => (hL z (by rwa [barArgs_eq_self
        (by simp [isUnion_of_key_eq hkx, isUnion_of_key_eq hky, isUnion_resolveWith ha.2.2,
          isUnion_resolveWith hb.2.2])])).2)]
    congr 1
    apply keySet_congr
    simp [hkx, hky, hkeys]

theorem resolveWith_bar_pair (bound : String → Option TypeClass) (a b : TypeHint) :
    (TypeHint.bar [a, b]).resolveWith bound = barOf [a.resolveWith bound, b.resolveWith bound] := by
  simp [resolveWith, resolveAll]

theorem resolveWith_union_pair (bound : String → Option TypeClass) (a b : TypeHint) :
    (TypeHint.union [a, b]).resolveWith bound = unionOf (a.resolveWith bound) [b.resolveWith bound] := by
  simp [resolveWith, resolveAll]

theorem resolveWith_none (bound : String → Option TypeClass) : none.resolveWith bound = none := rfl

theorem exists_quotesBesideNone_pair_none {circular : List String} {w : TypeHint} :
    ((∃ c ∈ [w, none], c.QuotesBesideNone circular) ↔ w.QuotesBesideNone circular) ∧
    ((∃ c ∈ [none, w], c.QuotesBesideNone circular) ↔ w.QuotesBesideNone circular) := by
  simp [not_quotesBesideNone_none]

/-- A union of two whose other argument `W` is not `None`, written `W | None` whichever side
`None` stands on: a type error when `W` is a quoted reference or writes one beside `| None`,
and else the `|` union of what `W` reads back as and `None`. -/
theorem evalsBack_orNone {circular : List String} {w H : TypeHint} (hu : w.isUnion = false)
    (hnn : w.isNone = false) (ih : EvalsBack scope circular w) (hH : H.isUnion = true)
    (hexpr : H.resolvedExpr circular = .bar (w.resolvedExpr circular) (.name "None"))
    (hbad : H.QuotesBesideNone circular ↔
      (∃ t, w = .ref t ∧ t ∈ circular) ∨ w.QuotesBesideNone circular)
    (hkey : (H.resolveWith (unquoted scope circular)).key =
      (barOf [w.resolveWith (unquoted scope circular), none]).key) :
    EvalsBack scope circular H := by
  obtain ⟨herr, hok⟩ := eval_orNone hu hnn ih
  unfold EvalsBack
  rw [hexpr]
  refine ⟨fun hq => herr (hbad.mp hq), fun hgood => ?_⟩
  have hq : ∀ t, w = .ref t → t ∉ circular := fun t ht htc =>
    hgood (hbad.mpr (.inl ⟨t, ht, htc⟩))
  obtain ⟨x, hx, hxkey, hxu⟩ := hok hq fun h => hgood (hbad.mpr (.inr h))
  refine ⟨_, hx, ⟨⟨_, rfl, ?_⟩, fun _ => .inr hH, fun h => by simp [hH] at h⟩⟩
  rw [hkey]
  exact (key_pair_none hxu (isUnion_resolveWith hu) hxkey).1

theorem evalsBack_bar (circular : List String) {args : List TypeHint} (hne : args ≠ [])
    (hnd : (args.map key).Nodup) (hjoin : ∀ a ∈ args, a.joinsBar = true ∧ a.isUnion = false)
    (ih : ∀ a ∈ args, EvalsBack scope circular a) : EvalsBack scope circular (.bar args) := by
  have h : ∀ a ∈ args, EvalsBack scope circular a ∧ a.joinsBar = true ∧ a.isUnion = false :=
    fun a ha => ⟨ih a ha, hjoin a ha⟩
  match args, hne, hnd, h with
  | [a], _, _, h =>
    have he : (TypeHint.bar [a]).resolvedExpr circular = a.resolvedExpr circular := by
      rw [resolvedExpr.eq_5 _ _ (by simp)]
      rfl
    obtain ⟨iha, -, hua⟩ := h a (by simp)
    unfold EvalsBack
    simp only [quotesBesideNone_bar, not_exists, not_and]
    rw [he]
    refine ⟨fun hq => hq.elim fun c hc => iha.1 (List.mem_singleton.mp hc.1 ▸ hc.2),
      fun hgood => ?_⟩
    obtain ⟨v, hv, hr⟩ := iha.2 (hgood a (by simp))
    obtain ⟨x, hx, hkey⟩ := hr.stands
    refine ⟨v, hv, ⟨⟨x, hx, ?_⟩, fun _ => .inr rfl, fun h => by simp [isUnion] at h⟩⟩
    rw [hkey, resolveWith, resolveAll_eq_map, List.map_singleton, key_barOf,
      barArgs_eq_self (by simp [isUnion_resolveWith hua]), keySet_singleton]
    rfl
  | [a, b], _, hnd, h =>
    have hab : a.key ≠ b.key := by
      intro he
      simp [he] at hnd
    obtain ⟨iha, hja, hua⟩ := h a (by simp)
    obtain ⟨ihb, hjb, hub⟩ := h b (by simp)
    by_cases hb : b.isNone = true
    · obtain rfl := isNone_eq_true hb
      refine evalsBack_orNone hua (isNone_eq_false_of_key_ne hb hab) iha rfl
        (by rw [resolvedExpr.eq_4, if_pos hb]) ?_ (by rw [resolveWith_bar_pair, resolveWith_none])
      rw [quotesBesideNone_bar, exists_quotesBesideNone_pair_none.1]
      exact (or_iff_right (not_quotedRef_of_joinsBar hja)).symm
    by_cases ha : a.isNone = true
    · obtain rfl := isNone_eq_true ha
      refine evalsBack_orNone hub (by simpa using hb) ihb rfl
        (by rw [resolvedExpr.eq_4, if_neg hb, if_pos ha]) ?_ ?_
      · rw [quotesBesideNone_bar, exists_quotesBesideNone_pair_none.2]
        exact (or_iff_right (not_quotedRef_of_joinsBar hjb)).symm
      · rw [resolveWith_bar_pair, resolveWith_none]
        exact (key_pair_none (isUnion_resolveWith hub) (isUnion_resolveWith hub) rfl).2.symm
    have he : (TypeHint.bar [a, b]).resolvedExpr circular =
        AnnExpr.bar (a.resolvedExpr circular) (b.resolvedExpr circular) := by
      rw [resolvedExpr.eq_4, if_neg hb, if_neg ha]
    unfold EvalsBack
    simp only [quotesBesideNone_bar, not_exists, not_and]
    rw [he]
    exact @evalsBack_barChain scope circular a b [] hnd h
  | a :: b :: c :: rest, _, hnd, h =>
    have he : (TypeHint.bar (a :: b :: c :: rest)).resolvedExpr circular =
        ((c :: rest).map (resolvedExpr circular)).foldl AnnExpr.bar
          (AnnExpr.bar (a.resolvedExpr circular) (b.resolvedExpr circular)) := by
      rw [resolvedExpr.eq_5 _ _ (by simp), resolvedExprs_eq_map]
      rfl
    unfold EvalsBack
    simp only [quotesBesideNone_bar, not_exists, not_and]
    rw [he]
    exact evalsBack_barChain hnd h

theorem evalsBack_union (hk : KeepsBuiltins scope) (circular : List String) {args : List TypeHint}
    (hne : args ≠ []) (hnd : (args.map key).Nodup) (hu : ∀ a ∈ args, a.isUnion = false)
    (ih : ∀ a ∈ args, EvalsBack scope circular a) : EvalsBack scope circular (.union args) := by
  by_cases hpair : ∃ a b, args = [a, b] ∧ (a.isNone = true ∨ b.isNone = true)
  · obtain ⟨a, b, rfl, hn⟩ := hpair
    have hab : a.key ≠ b.key := by
      intro he
      simp [he] at hnd
    have hua := hu a (by simp)
    have hub := hu b (by simp)
    by_cases hb : b.isNone = true
    · obtain rfl := isNone_eq_true hb
      refine evalsBack_orNone hua (isNone_eq_false_of_key_ne hb hab) (ih a (by simp)) rfl
        (by rw [resolvedExpr.eq_6, if_pos hb]) ?_ ?_
      · rw [quotesBesideNone_union, exists_quotesBesideNone_pair_none.1]
        simp [none, isNone]
      · rw [resolveWith_union_pair, resolveWith_none,
          key_unionOf_eq_barOf (by simp [isUnion_resolveWith hua]; rfl)]
    · have ha : a.isNone = true := by simpa [hb] using hn
      obtain rfl := isNone_eq_true ha
      refine evalsBack_orNone hub (by simpa using hb) (ih b (by simp)) rfl
        (by rw [resolvedExpr.eq_6, if_neg hb, if_pos ha]) ?_ ?_
      · rw [quotesBesideNone_union, exists_quotesBesideNone_pair_none.2]
        simp [none, isNone]
      · rw [resolveWith_union_pair, resolveWith_none,
          key_unionOf_eq_barOf (by simp [isUnion_resolveWith hub]; rfl)]
        exact (key_pair_none (isUnion_resolveWith hub) (isUnion_resolveWith hub) rfl).2.symm
  · unfold EvalsBack
    rw [quotesBesideNone_union]
    have hsub : (TypeHint.union args).resolvedExpr circular =
        .subscript "Union" (resolvedExprs circular args) := by
      by_cases h2 : ∃ a b, args = [a, b]
      · obtain ⟨a, b, rfl⟩ := h2
        have ha : a.isNone = false := by simpa using fun h => hpair ⟨a, b, rfl, .inl h⟩
        have hb : b.isNone = false := by simpa using fun h => hpair ⟨a, b, rfl, .inr h⟩
        simp [resolvedExpr, ha, hb, resolvedExprs]
      · exact resolvedExpr.eq_7 _ _ fun a b h => h2 ⟨a, b, h⟩
    rw [hsub]
    obtain ⟨herr, hok⟩ := eval_unionSubscript hk hne hu ih
    constructor
    · rintro (⟨t, b, rfl, -, hb⟩ | ⟨t, a, rfl, -, ha⟩ | hbad)
      · exact absurd ⟨_, _, rfl, .inr hb⟩ hpair
      · exact absurd ⟨_, _, rfl, .inl ha⟩ hpair
      · exact herr hbad
    · intro hgood
      obtain ⟨x, hx, hkey⟩ := hok fun a ha hbad => hgood (.inr (.inr ⟨a, ha, hbad⟩))
      exact ⟨_, hx, ⟨⟨x, rfl, hkey⟩, by simp, by simp [isUnion]⟩⟩

/-- The resolved text of a built annotation whose names the scope reads back evaluates to a
type error when it writes a quoted reference beside `| None`, and else to a value that reads
back as the annotation. The induction follows the shape the type language builds. -/
theorem evalsBack (hk : KeepsBuiltins scope) (circular : List String) {h : TypeHint}
    (hb : h.Built) (hs : h.Spelled scope) : EvalsBack scope circular h := by
  induction hb with
  | cls c =>
    cases hs with
    | cls hc => exact evalsBack_cls hk circular hc
  | ref t => exact evalsBack_ref circular hs
  | list _ iha =>
    cases hs with
    | generic hargs =>
      refine evalsBack_generic hk circular fun a ha => ?_
      rw [List.mem_singleton.mp ha]
      exact iha (hargs _ (by simp))
  | dict _ _ ihk ihv =>
    cases hs with
    | generic hargs =>
      refine evalsBack_generic hk circular fun a ha => ?_
      rcases List.mem_pair.mp ha with rfl | rfl
      · exact ihk (hargs _ (by simp))
      · exact ihv (hargs _ (by simp))
  | bar hne hnd _ hjoin ih =>
    cases hs with
    | bar hargs => exact evalsBack_bar circular hne hnd hjoin fun a ha => ih a ha (hargs a ha)
  | union hne hnd _ hu ih =>
    cases hs with
    | union hargs => exact evalsBack_union hk circular hne hnd hu fun a ha => ih a ha (hargs a ha)

/-- With no circular models nothing is quoted. -/
theorem not_quotesBesideNone_nil {h : TypeHint} : ¬ h.QuotesBesideNone [] := by
  intro hq
  induction hq with
  | left ht _ => exact List.not_mem_nil ht
  | right ht _ => exact List.not_mem_nil ht
  | generic _ _ ih => exact ih
  | bar _ _ ih => exact ih
  | union _ _ ih => exact ih

/-- What the resolved text of a built annotation declares: a type error when it writes a
quoted reference beside `| None`, and else the annotation with its unquoted forward
references resolved. -/
theorem hintOfText_resolvedText (hk : KeepsBuiltins scope) (circular : List String)
    {h : TypeHint} (hb : h.Built) (hs : h.Spelled scope) :
    (h.QuotesBesideNone circular →
      hintOfText scope (h.resolvedText circular) = .error .typeError) ∧
    (¬ h.QuotesBesideNone circular → ∃ x, hintOfText scope (h.resolvedText circular) = .ok x ∧
      x.same (h.resolveWith (unquoted scope circular)) = true) := by
  have hread : readAnnotationText (h.resolvedText circular) = some (h.resolvedExpr circular) := by
    rw [← render_resolvedExpr]
    exact AnnExpr.readAnnotationText_render (readable_resolvedExpr circular hb hs)
  obtain ⟨herr, hok⟩ := evalsBack hk circular hb hs
  refine ⟨fun hq => ?_, fun hq => ?_⟩
  · simp [hintOfText, hread, herr hq]
  · obtain ⟨v, hv, hr⟩ := hok hq
    obtain ⟨x, hx, hkey⟩ := hr.stands
    refine ⟨x, ?_, by simp [same, hkey]⟩
    simp [hintOfText, hread, hv, hx]

/-- The two texts of an annotation read back. In a scope that binds the names of its classes
and forward references and leaves the builtin and typing names their meaning, the declared
text of a built annotation declares the annotation with its forward references resolved to
the classes the scope binds. Its resolved text declares the annotation with its unquoted
forward references resolved, unless it writes a quoted reference beside `| None`: then
reading it is a type error. -/
theorem texts_read_back (circular : List String) {scope : String → Option TypeClass}
    {h : TypeHint} (hk : KeepsBuiltins scope) (hb : h.Built) (hs : h.Spelled scope) :
    (∃ s x, h.typeText = .ok s ∧ hintOfText scope s = .ok x ∧
      x.same (h.resolveWith scope) = true) ∧
    (¬ h.QuotesBesideNone circular → ∃ x, hintOfText scope (h.resolvedText circular) = .ok x ∧
      x.same (h.resolveWith (unquoted scope circular)) = true) ∧
    (h.QuotesBesideNone circular →
      hintOfText scope (h.resolvedText circular) = .error .typeError) := by
  obtain ⟨herr, hok⟩ := hintOfText_resolvedText hk circular hb hs
  obtain ⟨x, hx, hsame⟩ := (hintOfText_resolvedText hk [] hb hs).2 not_quotesBesideNone_nil
  rw [unquoted_nil] at hsame
  exact ⟨⟨_, x, typeText_eq_resolvedText hb, hx, hsame⟩, hok, herr⟩

/-! ## An optional reference to a circular model -/

theorem built_optionalA : (TypeHint.union [.ref "A", none]).Built := by
  have hkey : (ref "A").key ≠ none.key := by
    simp only [key, classKey, TypeHint.none, framed]
    decide +kernel
  refine .union (by simp) (by simp [hkey]) ?_ ?_
  · simp only [List.mem_cons, List.not_mem_nil, or_false, forall_eq_or_imp, forall_eq]
    exact ⟨.ref "A", .cls .noneClass⟩
  · simp only [List.mem_cons, List.not_mem_nil, or_false, forall_eq_or_imp, forall_eq]
    exact ⟨rfl, rfl⟩

theorem spelled_optionalA : (TypeHint.union [.ref "A", none]).Spelled (modelScope ["A"]) := by
  have href : ref? "A" = .ok (.ref "A") := by
    rw [ref?, if_neg (by decide), if_pos (by decide +kernel)]
  refine .union ?_
  simp only [List.mem_cons, List.not_mem_nil, or_false, forall_eq_or_imp, forall_eq]
  exact ⟨@Spelled.ref _ "A" (.model "A") (by decide) (by decide) (by simp [modelScope]) href,
    .cls trivial⟩

theorem keepsBuiltins_modelScopeA : KeepsBuiltins (modelScope ["A"]) :=
  keepsBuiltins_modelScope (by decide)

theorem optionalCircular_texts_read_back :
    (∃ s x, (TypeHint.union [.ref "A", none]).typeText = .ok s ∧
      hintOfText (modelScope ["A"]) s = .ok x ∧
      x.same ((TypeHint.union [.ref "A", none]).resolveWith (modelScope ["A"])) = true) ∧
    (¬ (TypeHint.union [.ref "A", none]).QuotesBesideNone ["A"] → ∃ x,
      hintOfText (modelScope ["A"]) ((TypeHint.union [.ref "A", none]).resolvedText ["A"]) =
        .ok x ∧
      x.same ((TypeHint.union [.ref "A", none]).resolveWith
        (unquoted (modelScope ["A"]) ["A"])) = true) ∧
    ((TypeHint.union [.ref "A", none]).QuotesBesideNone ["A"] →
      hintOfText (modelScope ["A"]) ((TypeHint.union [.ref "A", none]).resolvedText ["A"]) =
        .error .typeError) :=
  texts_read_back ["A"] keepsBuiltins_modelScopeA built_optionalA spelled_optionalA

/-- An optional reference to a circular model `A` is written `'A' | None`, and reading that
text is a type error. -/
theorem optionalCircular_resolvedText_type_error :
    (TypeHint.union [.ref "A", none]).resolvedText ["A"] = "'A' | None" ∧
    hintOfText (modelScope ["A"]) "'A' | None" = .error .typeError := by
  have htext : (TypeHint.union [.ref "A", none]).resolvedText ["A"] = "'A' | None" := by
    rw [resolvedText.eq_6, if_pos (show TypeHint.none.isNone = true from rfl), resolvedText.eq_1]
    decide +kernel
  refine ⟨htext, ?_⟩
  rw [← htext]
  exact (hintOfText_resolvedText keepsBuiltins_modelScopeA ["A"] built_optionalA
    spelled_optionalA).1 (.left (by simp) rfl)

end TypeHint

end Evaluation

end TransitKit.Typing
