import Mathlib
import TransitKit.Proofs.ModelImports
import TransitKit.Proofs.GenerationOrder

/-!
# What the dependency graph records

The dependency graph gives every model an edge. For models under distinct names that are their
own class names, an object or root model depends on exactly the names that occur in the
annotations of its fields at any depth, and a list of a class on that class when it is a model.
The target of a forward reference is the first part of its text between `|` signs that is
neither blank nor `None`. Where a part stands in an annotation is said without the flattening
the graph is built from.
-/

namespace TransitKit.Typing.TypeHint

/-- Where a part stands in an annotation: a forward reference and a class stand in
themselves, by their text and name; a container stands in itself under its class name, a
`|` union under `UnionType` and a typing union under `Union`; and whatever stands in an
argument of a container, or in an argument of a union other than `None`, stands in it. -/
inductive Occurs : TypeHint → Part → Prop
  | ref (t : String) : Occurs (.ref t) (.forward t)
  | cls (c : TypeClass) : Occurs (.cls c) (.named c.name)
  | generic (o : Container) (args : List TypeHint) : Occurs (.generic o args) (.named o.name)
  | bar (args : List TypeHint) : Occurs (.bar args) (.named "UnionType")
  | union (args : List TypeHint) : Occurs (.union args) (.named "Union")
  | genericArg {o : Container} {args : List TypeHint} {a : TypeHint} {p : Part} :
      a ∈ args → Occurs a p → Occurs (.generic o args) p
  | barArg {args : List TypeHint} {a : TypeHint} {p : Part} :
      a ∈ args → a.isNone = false → Occurs a p → Occurs (.bar args) p
  | unionArg {args : List TypeHint} {a : TypeHint} {p : Part} :
      a ∈ args → a.isNone = false → Occurs a p → Occurs (.union args) p

theorem mem_parts_of_occurs {h : TypeHint} {p : Part} (hp : h.Occurs p) : p ∈ h.parts := by
  induction hp with
  | ref t => simp [parts]
  | cls c => simp [parts]
  | generic o args => simp [parts]
  | bar args => simp [parts]
  | union args => simp [parts]
  | genericArg ha _ ih =>
    simp only [parts]
    exact List.mem_cons_of_mem _ (List.mem_flatMap.mpr ⟨_, ha, ih⟩)
  | barArg ha hn _ ih =>
    simp only [parts]
    exact List.mem_cons_of_mem _ (List.mem_flatMap.mpr ⟨_, List.mem_filter.mpr ⟨ha, by simp [hn]⟩, ih⟩)
  | unionArg ha hn _ ih =>
    simp only [parts]
    exact List.mem_cons_of_mem _ (List.mem_flatMap.mpr ⟨_, List.mem_filter.mpr ⟨ha, by simp [hn]⟩, ih⟩)

mutual

/-- Every part of the flattening stands in the annotation. -/
theorem occurs_of_mem_parts : ∀ {h : TypeHint} {p : Part}, p ∈ h.parts → h.Occurs p
  | .ref t, p, hp => by
    simp only [parts] at hp
    rw [List.mem_singleton.mp hp]
    exact .ref t
  | .cls c, p, hp => by
    simp only [parts] at hp
    rw [List.mem_singleton.mp hp]
    exact .cls c
  | .generic o args, p, hp => by
    simp only [parts] at hp
    rcases List.mem_cons.mp hp with rfl | hp
    · exact .generic o args
    · obtain ⟨a, ha, -, hpa⟩ := exists_occurs_of_mem_filter (q := fun _ => true) (by simpa using hp)
      exact .genericArg ha hpa
  | .bar args, p, hp => by
    simp only [parts] at hp
    rcases List.mem_cons.mp hp with rfl | hp
    · exact .bar args
    · obtain ⟨a, ha, hn, hpa⟩ := exists_occurs_of_mem_filter hp
      exact .barArg ha (by simpa using hn) hpa
  | .union args, p, hp => by
    simp only [parts] at hp
    rcases List.mem_cons.mp hp with rfl | hp
    · exact .union args
    · obtain ⟨a, ha, hn, hpa⟩ := exists_occurs_of_mem_filter hp
      exact .unionArg ha (by simpa using hn) hpa

/-- A part of the flattening of the arguments that pass a test stands in one of them. -/
theorem exists_occurs_of_mem_filter : ∀ {args : List TypeHint} {q : TypeHint → Bool} {p : Part},
    p ∈ (args.filter q).flatMap parts → ∃ a ∈ args, q a = true ∧ a.Occurs p
  | [], _, _, hp => by simp at hp
  | a :: as, q, p, hp => by
    by_cases hq : q a = true
    · rw [List.filter_cons_of_pos hq, List.flatMap_cons] at hp
      rcases List.mem_append.mp hp with hp | hp
      · exact ⟨a, List.mem_cons_self, hq, occurs_of_mem_parts hp⟩
      · obtain ⟨b, hb, hqb, hpb⟩ := exists_occurs_of_mem_filter hp
        exact ⟨b, List.mem_cons_of_mem _ hb, hqb, hpb⟩
    · rw [List.filter_cons_of_neg hq] at hp
      obtain ⟨b, hb, hqb, hpb⟩ := exists_occurs_of_mem_filter hp
      exact ⟨b, List.mem_cons_of_mem _ hb, hqb, hpb⟩

end

/-- The flattening of an annotation lists exactly the parts that stand in it. -/
theorem mem_parts_iff_occurs {h : TypeHint} {p : Part} : p ∈ h.parts ↔ h.Occurs p :=
  ⟨occurs_of_mem_parts, mem_parts_of_occurs⟩

end TransitKit.Typing.TypeHint

namespace TransitKit.Model

open Typing

/-- The models of the dependency graph are the models of the registry. -/
theorem mem_dependencies_keys {r : Registry} {n : String} :
    n ∈ r.dependencies.keys ↔ n ∈ r.names := by
  constructor
  · intro hn
    obtain ⟨e, he, rfl⟩ := List.mem_map.mp hn
    obtain ⟨v, hv, -⟩ := mem_dependencies_edges he
    exact List.mem_map_of_mem hv
  · intro hn
    obtain ⟨⟨n, v⟩, hv, rfl⟩ := List.mem_map.mp hn
    exact List.mem_map_of_mem (edge_mem_dependencies hv)

/-- The models an annotation depends on, among models that are their own class names: the
target of each forward reference standing in it, and each model name standing in it. -/
theorem mem_hintDeps_iff_occurs {names : List String}
    (hfix : ∀ n ∈ names, Naming.className n = n) {h : TypeHint} {b : String} :
    b ∈ hintDeps names h ↔
      (∃ t, h.Occurs (.forward t) ∧ forwardTarget t = b) ∨ (h.Occurs (.named b) ∧ b ∈ names) := by
  simp only [mem_hintDeps, TypeHint.mem_parts_iff_occurs]
  constructor
  · rintro (hf | ⟨n, hn, hnames, rfl⟩)
    · exact .inl hf
    · rw [hfix n hnames]
      exact .inr ⟨hn, hnames⟩
  · rintro (hf | ⟨hn, hnames⟩)
    · exact .inl hf
    · exact .inr ⟨b, hn, hnames, hfix b hnames⟩

/-- For models under distinct names that are their own class names, the dependency graph
lists exactly the models, gives an object or root model exactly the forward targets and model
names that stand anywhere in the annotations of its fields, and gives a list of a class that
class when it is a model. -/
theorem dependencies_exact (r : Registry) (hnd : r.names.Nodup)
    (hfix : ∀ n ∈ r.names, Naming.className n = n) :
    (∀ n, n ∈ r.dependencies.keys ↔ n ∈ r.names) ∧
    (∀ n v, (n, v) ∈ r.entries → v.isSchema = true → ∀ b, b ∈ r.dependencies.depsOf n ↔
      ∃ f ∈ v.fields, (∃ t, f.hint.Occurs (.forward t) ∧ forwardTarget t = b) ∨
        (f.hint.Occurs (.named b) ∧ b ∈ r.names)) ∧
    (∀ n c, (n, .container (.generic .list [.cls c])) ∈ r.entries →
      r.dependencies.depsOf n = if c.name ∈ r.names then [c.name] else []) := by
  refine ⟨fun n => mem_dependencies_keys, fun n v hv hs b => ?_, fun n c hv => ?_⟩
  · rw [depsOf_dependencies hnd hv, List.mem_eraseDups, mem_deps_of_isSchema hs]
    simp only [mem_hintDeps_iff_occurs hfix]
  · rw [depsOf_dependencies hnd hv]
    by_cases hc : c.name ∈ r.names
    · simp [ModelValue.deps, hintName?, hc, hfix _ hc, List.eraseDups_cons]
    · simp [ModelValue.deps, hintName?, hc]

/-- A required field that refers to `A | None` by a forward reference. -/
def forwardUnionField : ModelField := ⟨"a", .ref "A | None", some "a", true⟩

/-- A model `X` with that field, beside an empty model `A`. -/
def forwardUnion : Registry := ⟨[("A", .object []), ("X", .object [forwardUnionField])]⟩

theorem forwardUnion_dependencies_exact :
    forwardUnion.names.Nodup ∧ (∀ n ∈ forwardUnion.names, Naming.className n = n) ∧
    (∀ n, n ∈ forwardUnion.dependencies.keys ↔ n ∈ forwardUnion.names) ∧
    (∀ n v, (n, v) ∈ forwardUnion.entries → v.isSchema = true → ∀ b,
      b ∈ forwardUnion.dependencies.depsOf n ↔
        ∃ f ∈ v.fields, (∃ t, f.hint.Occurs (.forward t) ∧ forwardTarget t = b) ∨
          (f.hint.Occurs (.named b) ∧ b ∈ forwardUnion.names)) ∧
    (∀ n c, (n, .container (.generic .list [.cls c])) ∈ forwardUnion.entries →
      forwardUnion.dependencies.depsOf n = if c.name ∈ forwardUnion.names then [c.name] else []) :=
  have hnd : forwardUnion.names.Nodup := by decide +kernel
  have hfix : ∀ n ∈ forwardUnion.names, Naming.className n = n := by decide +kernel
  ⟨hnd, hfix, dependencies_exact forwardUnion hnd hfix⟩

/-- `X` depends on `A`, the target of its forward reference, and not on the text `A | None`
of the reference that stands in its field. -/
theorem forwardUnion_dependencies_not_texts :
    ¬ ∀ b, b ∈ forwardUnion.dependencies.depsOf "X" ↔
      ∃ f ∈ [forwardUnionField], f.hint.Occurs (.forward b) ∨
        (f.hint.Occurs (.named b) ∧ b ∈ forwardUnion.names) := by
  intro h
  have hdeps : forwardUnion.dependencies.depsOf "X" = ["A"] := by cbv
  have htext := (h "A | None").mpr ⟨forwardUnionField, List.mem_singleton_self _, .inl (.ref _)⟩
  rw [hdeps] at htext
  simp at htext

end TransitKit.Model
