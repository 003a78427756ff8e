import TransitKit.Model.Compare
import TransitKit.Proofs.Outcome
import Mathlib.Logic.Relation

/-!
# Breaking circular references

Resolving the dependencies of a registry makes every class of a circular model a forward
reference to its name. The rewrite changes how annotations are written and nothing else the
model files are made from: the registry keeps its names and its entries descend from those of
the same name, a rewritten model is an object or a root model, a rewritten annotation uses only
the enumeration classes it used before, and the dependency graph stays as it was.
-/

namespace TransitKit.Typing.TypeHint

theorem mem_enums_bar {ys : List TypeHint} {e : EnumClass} :
    e ∈ (TypeHint.bar ys).enums ↔ ∃ y ∈ ys, e ∈ y.enums := by
  simp only [enums, List.mem_flatMap, List.mem_filter]
  constructor
  · rintro ⟨y, ⟨hy, -⟩, he⟩
    exact ⟨y, hy, he⟩
  · rintro ⟨y, hy, he⟩
    refine ⟨y, ⟨hy, ?_⟩, he⟩
    cases y with
    | cls c => cases c <;> simp_all [isNone, enums]
    | _ => rfl

theorem mem_enums_union {ys : List TypeHint} {e : EnumClass} :
    e ∈ (TypeHint.union ys).enums ↔ ∃ y ∈ ys, e ∈ y.enums := by
  have h : (TypeHint.union ys).enums = (TypeHint.bar ys).enums := by simp [enums]
  rw [h, mem_enums_bar]

theorem mem_enums_barArgs {xs : List TypeHint} {e : EnumClass} :
    (∃ y ∈ barArgs xs, e ∈ y.enums) ↔ ∃ x ∈ xs, e ∈ x.enums := by
  induction xs using barArgs.induct with
  | case1 => simp [barArgs]
  | case2 ys rest ih =>
    simp only [barArgs, List.mem_append, List.mem_cons, or_and_right, exists_or, exists_eq_left,
      ih, mem_enums_bar]
  | case3 x rest hx ih =>
    rw [barArgs.eq_3 x rest hx]
    simp only [List.mem_cons, or_and_right, exists_or, exists_eq_left, ih]

theorem mem_enums_unionArgs {xs : List TypeHint} {e : EnumClass} :
    (∃ y ∈ unionArgs xs, e ∈ y.enums) ↔ ∃ x ∈ xs, e ∈ x.enums := by
  induction xs using unionArgs.induct with
  | case1 => simp [unionArgs]
  | case2 ys rest ih =>
    simp only [unionArgs, List.mem_append, List.mem_cons, or_and_right, exists_or, exists_eq_left,
      ih, mem_enums_bar]
  | case3 ys rest ih =>
    simp only [unionArgs, List.mem_append, List.mem_cons, or_and_right, exists_or, exists_eq_left,
      ih, mem_enums_union]
  | case4 x rest hbar hunion ih =>
    rw [unionArgs.eq_4 x rest hbar hunion]
    simp only [List.mem_cons, or_and_right, exists_or, exists_eq_left, ih]

/-- Keeping the first of equal annotations keeps only annotations of the list. -/
theorem mem_of_mem_dedup {xs : List TypeHint} {y : TypeHint} (h : y ∈ dedup xs) : y ∈ xs := by
  have fold : ∀ (xs : List TypeHint) (acc : List TypeHint × List String),
      y ∈ (xs.foldl (fun (acc : List TypeHint × List String) x =>
        if acc.2.contains x.key then acc else (x :: acc.1, x.key :: acc.2)) acc).1 →
      y ∈ acc.1 ∨ y ∈ xs := by
    intro xs
    induction xs with
    | nil => intro acc h; exact .inl h
    | cons x xs ih =>
      intro acc h
      rcases ih _ h with h | h
      · dsimp only at h
        split at h
        · exact .inl h
        · rcases List.mem_cons.mp h with rfl | h
          · exact .inr List.mem_cons_self
          · exact .inl h
      · exact .inr (List.mem_cons_of_mem x h)
  simpa using fold xs ([], []) (List.mem_reverse.mp h)

theorem mem_enums_barOf {xs : List TypeHint} {e : EnumClass} (h : e ∈ (barOf xs).enums) :
    ∃ x ∈ xs, e ∈ x.enums := by
  apply mem_enums_barArgs.mp
  unfold barOf at h
  split at h
  · next x hx => exact ⟨x, mem_of_mem_dedup (hx ▸ List.mem_singleton_self x), h⟩
  · obtain ⟨y, hy, he⟩ := mem_enums_bar.mp h
    exact ⟨y, mem_of_mem_dedup hy, he⟩

theorem mem_enums_unionOf {x : TypeHint} {xs : List TypeHint} {e : EnumClass}
    (h : e ∈ (unionOf x xs).enums) : ∃ y ∈ x :: xs, e ∈ y.enums := by
  apply mem_enums_unionArgs.mp
  unfold unionOf at h
  split at h
  · next y hy => exact ⟨y, mem_of_mem_dedup (hy ▸ List.mem_singleton_self y), h⟩
  · obtain ⟨y, hy, he⟩ := mem_enums_union.mp h
    exact ⟨y, mem_of_mem_dedup hy, he⟩

theorem mem_enums_or {a b : TypeHint} {e : EnumClass} (h : e ∈ (a.or b).enums) :
    e ∈ a.enums ∨ e ∈ b.enums := by
  unfold TypeHint.or at h
  split at h
  · obtain ⟨y, hy, he⟩ := mem_enums_barOf h
    simp only [List.mem_cons, List.not_mem_nil, or_false] at hy
    rcases hy with rfl | rfl
    · exact .inl he
    · exact .inr he
  · obtain ⟨y, hy, he⟩ := mem_enums_unionOf h
    simp only [List.mem_cons, List.not_mem_nil, or_false] at hy
    rcases hy with rfl | rfl
    · exact .inl he
    · exact .inr he

theorem mem_enums_orAll {x : TypeHint} {xs : List TypeHint} {e : EnumClass}
    (h : e ∈ (orAll x xs).enums) : ∃ y ∈ x :: xs, e ∈ y.enums := by
  induction xs generalizing x with
  | nil => exact ⟨x, List.mem_cons_self, h⟩
  | cons z zs ih =>
    obtain ⟨y, hy, he⟩ := ih (x := x.or z) h
    rcases List.mem_cons.mp hy with rfl | hy
    · rcases mem_enums_or he with he | he
      · exact ⟨_, List.mem_cons_self, he⟩
      · exact ⟨z, by simp, he⟩
    · exact ⟨y, by simp [hy], he⟩

/-- Replacing the classes of circular models uses no enumeration class the annotation did
not use. -/
theorem enums_replaceCircular {circular : List String} {h h' : TypeHint}
    (hr : h.replaceCircular circular = .ok h') {e : EnumClass} (he : e ∈ h'.enums) :
    e ∈ h.enums := by
  induction h using replaceCircular.induct circular generalizing h' with
  | case1 c hc =>
    rw [replaceCircular, if_pos hc] at hr
    unfold ref? at hr
    split at hr
    · cases hr
    · split at hr
      · cases hr
        simp [enums] at he
      · cases hr
  | case2 c hc =>
    rw [replaceCircular, if_neg hc] at hr
    cases hr
    exact he
  | case3 t =>
    rw [replaceCircular] at hr
    cases hr
    simp [enums] at he
  | case4 o args ih =>
    simp only [replaceCircular, bind_eq_ok, pure_eq_ok] at hr
    obtain ⟨new, hm, rfl⟩ := hr
    simp only [enums, List.mem_flatMap] at he ⊢
    obtain ⟨y, hy, hey⟩ := he
    obtain ⟨x, hx, hxy⟩ := mem_of_mapM_eq_ok hm y hy
    exact ⟨x, hx, ih x hx hxy hey⟩
  | case5 args ih =>
    simp only [replaceCircular, bind_eq_ok] at hr
    obtain ⟨new, hm, hr⟩ := hr
    have hnew : ∀ y ∈ new, e ∈ y.enums → e ∈ (bar args).enums := fun y hy hey => by
      obtain ⟨z, hz, hzy⟩ := mem_of_mapM_eq_ok hm y hy
      exact mem_enums_bar.mpr ⟨z, hz, ih z hz hzy hey⟩
    cases new with
    | nil =>
      cases hr
      simp [enums] at he
    | cons x xs =>
      cases hr
      obtain ⟨y, hy, hey⟩ := mem_enums_orAll he
      exact hnew y hy hey
  | case6 args ih =>
    simp only [replaceCircular, bind_eq_ok] at hr
    obtain ⟨new, hm, hr⟩ := hr
    have hnew : ∀ y ∈ new, e ∈ y.enums → e ∈ (union args).enums := fun y hy hey => by
      obtain ⟨z, hz, hzy⟩ := mem_of_mapM_eq_ok hm y hy
      exact mem_enums_union.mpr ⟨z, hz, ih z hz hzy hey⟩
    cases new with
    | nil =>
      cases hr
      simp [enums] at he
    | cons x xs =>
      cases hr
      obtain ⟨y, hy, hey⟩ := mem_enums_unionOf he
      exact hnew y hy hey

end TransitKit.Typing.TypeHint

namespace TransitKit.Model

open Typing

namespace ModelValue

/-- What rewriting a model can do: rewrite the annotation of each field of an object
model, or the annotation of a root model; a root model without one stays. -/
theorem breakCircular_cases {circular : List String} {v w : ModelValue}
    (h : v.breakCircular circular = .ok w) :
    (∃ fs gs, v = .object fs ∧ w = .object gs ∧
      ∀ g ∈ gs, ∃ f ∈ fs, ∃ b, f.hint.replaceCircular circular = .ok b ∧ g = { f with hint := b }) ∨
    (∃ a b, v = .root (some a) ∧ w = .root (some b) ∧ a.replaceCircular circular = .ok b) ∨
    (v = .root none ∧ w = .root none) := by
  cases v with
  | object fs =>
    simp only [breakCircular, bind_eq_ok, pure_eq_ok] at h
    obtain ⟨gs, hm, rfl⟩ := h
    refine .inl ⟨fs, gs, rfl, rfl, fun g hg => ?_⟩
    obtain ⟨f, hf, hfg⟩ := mem_of_mapM_eq_ok hm g hg
    simp only [bind_eq_ok, pure_eq_ok] at hfg
    obtain ⟨b, hb, rfl⟩ := hfg
    exact ⟨f, hf, b, hb, rfl⟩
  | root o =>
    cases o with
    | none =>
      cases h
      exact .inr (.inr ⟨rfl, rfl⟩)
    | some a =>
      simp only [breakCircular, bind_eq_ok, pure_eq_ok] at h
      obtain ⟨b, hb, rfl⟩ := h
      exact .inr (.inl ⟨a, b, rfl, rfl, hb⟩)
  | container _ => cases h
  | enumeration _ => cases h

/-- Only object and root models have annotations to rewrite. -/
theorem isSchema_of_breakCircular {circular : List String} {v w : ModelValue}
    (h : v.breakCircular circular = .ok w) : w.isSchema = true := by
  rcases breakCircular_cases h with ⟨-, -, -, rfl, -⟩ | ⟨-, -, -, rfl, -⟩ | ⟨-, rfl⟩ <;> rfl

/-- A rewritten model's fields use only enumeration classes the model's fields used. -/
theorem enums_breakCircular {circular : List String} {v w : ModelValue}
    (h : v.breakCircular circular = .ok w) {f : ModelField} (hf : f ∈ w.fields) {e : EnumClass}
    (he : e ∈ f.hint.enums) : ∃ g ∈ v.fields, e ∈ g.hint.enums := by
  rcases breakCircular_cases h with ⟨fs, gs, rfl, rfl, hgs⟩ | ⟨a, b, rfl, rfl, hb⟩ | ⟨-, rfl⟩
  · obtain ⟨g, hg, b, hb, rfl⟩ := hgs f hf
    exact ⟨g, hg, TypeHint.enums_replaceCircular hb he⟩
  · simp only [fields, List.mem_singleton] at hf
    subst hf
    exact ⟨_, List.mem_singleton_self _, TypeHint.enums_replaceCircular hb he⟩
  · simp [fields] at hf

end ModelValue

namespace Registry

/-- An entry descends from a registry: the registry has an entry of the same name whose
model some rewrites of circular references turn into the entry's model. -/
def Descends (r : Registry) (circular : List String) (p : String × ModelValue) : Prop :=
  ∃ v, (p.1, v) ∈ r.entries ∧
    Relation.ReflTransGen (fun v w => v.breakCircular circular = .ok w) v p.2

theorem mem_of_get?_eq_some {r : Registry} {n : String} {v : ModelValue}
    (h : r.get? n = some v) : (n, v) ∈ r.entries := by
  unfold get? at h
  obtain ⟨p, hp, rfl⟩ := Option.map_eq_some_iff.mp h
  have hn : p.1 = n := by simpa using List.find?_some hp
  exact hn ▸ List.mem_of_find?_eq_some hp

/-- Breaking circular references keeps the names of a registry, and every entry
descends from an entry of the registry. -/
theorem descends_of_breakCircular {r r' : Registry} {circular : List String}
    (h : r.breakCircular circular = .ok r') :
    r'.names = r.names ∧ ∀ p ∈ r'.entries, r.Descends circular p := by
  refine foldlM_invariant (fun acc : Registry => acc.names = r.names ∧
      ∀ p ∈ acc.entries, r.Descends circular p) ?_ circular r r'
    ⟨rfl, fun p hp => ⟨p.2, hp, .refl⟩⟩ h
  rintro acc n acc' ⟨hnames, hdesc⟩ hstep
  cases hget : acc.get? n with
  | none =>
    rw [hget] at hstep
    cases hstep
  | some v =>
    simp only [hget, bind_eq_ok, pure_eq_ok] at hstep
    obtain ⟨w, hv, rfl⟩ := hstep
    constructor
    · rw [← hnames]
      simp only [names, List.map_map]
      apply List.map_congr_left
      intro p _
      by_cases hp : p.1 = n <;> simp [hp]
    · intro p hp
      obtain ⟨q, hq, rfl⟩ := List.mem_map.mp hp
      by_cases hqn : q.1 = n
      · obtain ⟨v₀, hv₀, hrun⟩ := hdesc (n, v) (mem_of_get?_eq_some hget)
        exact ⟨v₀, by simpa [hqn] using hv₀, by simpa [hqn] using hrun.tail hv⟩
      · simpa [hqn] using hdesc q hq

end Registry

/-- A resolution keeps the dependency graph of the registry as it was before circular
references were broken, and its registry is the broken one. -/
theorem Registry.resolveDependencies_ok {r : Registry} {res : Resolution}
    (h : r.resolveDependencies = .ok res) :
    res.graph = r.dependencies ∧ res.circular = r.dependencies.circular ∧
      r.breakCircular res.circular = .ok res.registry := by
  simp only [resolveDependencies, bind_eq_ok, pure_eq_ok] at h
  obtain ⟨r', hb, rfl⟩ := h
  exact ⟨rfl, rfl, hb⟩

end TransitKit.Model
