import Mathlib
import TransitKit.Proofs.CircularBreak
import TransitKit.Codegen.ModelModule

/-!
# Imports between model files

The file of an object or root model imports every model its class depends on, other than itself
and a few typing names, and every enumeration class its fields use, whether or not a reference
closes a cycle. So the files import one another in a cycle exactly when the dependency graph has
a cycle through two different models, and they import only models the package writes exactly
when every forward reference names a model, the model itself or a typing name.
-/

namespace TransitKit.Model

open Typing

/-- The models an annotation depends on: the target of each forward reference, and the
class of each part named like a model. -/
theorem mem_hintDeps {names : List String} {h : TypeHint} {b : String} :
    b ∈ hintDeps names h ↔
      (∃ t, TypeHint.Part.forward t ∈ h.parts ∧ forwardTarget t = b) ∨
        ∃ n, TypeHint.Part.named n ∈ h.parts ∧ n ∈ names ∧ Naming.className n = b := by
  unfold hintDeps
  simp only [List.mem_filterMap]
  constructor
  · rintro ⟨p, hp, hb⟩
    cases p with
    | forward t => exact .inl ⟨t, hp, Option.some.inj hb⟩
    | named n =>
      simp only [List.contains_iff_mem] at hb
      split at hb
      · exact .inr ⟨n, hp, ‹_›, Option.some.inj hb⟩
      · cases hb
  · rintro (⟨t, hp, rfl⟩ | ⟨n, hp, hn, rfl⟩)
    · exact ⟨_, hp, rfl⟩
    · exact ⟨_, hp, by simp [hn]⟩

/-- An object or root model depends on what the annotations of its fields depend on. -/
theorem mem_deps_of_isSchema {names : List String} {v : ModelValue} (hv : v.isSchema = true)
    {b : String} : b ∈ v.deps names ↔ ∃ f ∈ v.fields, b ∈ hintDeps names f.hint := by
  cases v with
  | object fs => simp [ModelValue.deps, ModelValue.fields]
  | root h => cases h <;> simp [ModelValue.deps, ModelValue.fields]
  | container _ => cases hv
  | enumeration _ => cases hv

/-- Each edge of the dependency graph is a model with its dependencies. -/
theorem mem_dependencies_edges {r : Registry} {e : String × List String}
    (he : e ∈ r.dependencies.edges) :
    ∃ v, (e.1, v) ∈ r.entries ∧ e.2 = (v.deps r.names).eraseDups := by
  simp only [Registry.dependencies, List.mem_append, List.mem_filterMap] at he
  rcases he with ⟨⟨n, v⟩, hv, he⟩ | ⟨⟨n, v⟩, hv, he⟩
  · split at he
    · cases he
    · cases he
      exact ⟨v, hv, rfl⟩
  · split at he
    · rename_i hempty
      cases he
      exact ⟨v, hv, by simp [List.isEmpty_iff.mp hempty]⟩
    · cases he

/-- Each model has an edge in the dependency graph. -/
theorem edge_mem_dependencies {r : Registry} {n : String} {v : ModelValue}
    (hv : (n, v) ∈ r.entries) :
    (n, (v.deps r.names).eraseDups) ∈ r.dependencies.edges := by
  simp only [Registry.dependencies, List.mem_append, List.mem_filterMap]
  cases hdeps : (v.deps r.names).eraseDups with
  | nil =>
    refine .inr ⟨(n, v), hv, ?_⟩
    have hempty : (v.deps r.names).isEmpty = true := by
      rw [List.isEmpty_iff, List.eq_nil_iff_forall_not_mem]
      intro x hx
      have hx' := List.mem_eraseDups.mpr hx
      rw [hdeps] at hx'
      cases hx'
    simp [hempty]
  | cons d ds =>
    exact .inl ⟨(n, v), hv, by simp [hdeps]⟩

/-- In a registry of distinct names, the dependencies the graph gives a model are those of
its annotations. -/
theorem depsOf_dependencies {r : Registry} (hnd : r.names.Nodup) {a : String} {v : ModelValue}
    (hv : (a, v) ∈ r.entries) :
    r.dependencies.depsOf a = (v.deps r.names).eraseDups := by
  unfold DependencyGraph.depsOf
  have hedge := edge_mem_dependencies hv
  obtain ⟨e, hfind⟩ : ∃ e, r.dependencies.edges.find? (·.1 == a) = some e := by
    apply Option.isSome_iff_exists.mp
    rw [List.find?_isSome]
    exact ⟨_, hedge, by simp⟩
  have hkey : e.1 = a := by simpa using List.find?_some hfind
  obtain ⟨w, hw, he⟩ := mem_dependencies_edges (List.mem_of_find?_eq_some hfind)
  rw [hkey] at hw
  have hvw : (a, w) = (a, v) := List.inj_on_of_nodup_map hnd hw hv rfl
  simp only [hfind, Option.map_some, Option.getD_some, he]
  rw [(Prod.mk.inj hvw).2]

end TransitKit.Model

namespace TransitKit.Codegen

open Typing Model

theorem mem_sortedLines {xs : List String} {x : String} : x ∈ sortedLines xs ↔ x ∈ xs := by
  simp [sortedLines, List.mem_eraseDups, List.mem_mergeSort]

theorem moduleImport_injective : Function.Injective moduleImport := by
  intro a b h
  have hlen : a.length = b.length := by
    have := congrArg String.length h
    simp only [moduleImport, String.length_append] at this
    omega
  have hchars := congrArg String.toList h
  simp only [moduleImport, String.toList_append, List.append_assoc] at hchars
  have hrest := List.append_cancel_left hchars
  exact String.toList_inj.mp (List.append_inj hrest (by simp only [String.length_toList, hlen])).1

/-- The relative imports of a class file: the graph's dependencies of the class other than
itself and the typing names, and the enumeration classes of the fields. -/
theorem mem_classImports {g : DependencyGraph} {c b : String} {fs : List ModelField} :
    moduleImport b ∈ classImports g c fs ↔
      (b ∈ g.depsOf c ∧ b ≠ c ∧ b ∉ ["Optional", "list", "Union"]) ∨
        ∃ f ∈ fs, ∃ e ∈ f.hint.enums, e.name = b := by
  simp [classImports, mem_sortedLines, moduleImport_injective.eq_iff]

theorem fileImports_of_isSchema {r : Registry} {g : DependencyGraph} {n : String}
    {v : ModelValue} (hv : v.isSchema = true) :
    fileImports r g n v = classImports g (Naming.className n) v.fields := by
  cases v with
  | object fs => rfl
  | root h => rfl
  | container _ => cases hv
  | enumeration _ => cases hv

/-- The file written for the model class `a` imports another model `b`: a model named
for the class `a` has the import of `b` among the relative imports of its file. -/
def FileImports (r : Registry) (g : DependencyGraph) (a b : String) : Prop :=
  a ≠ b ∧ ∃ n v, (n, v) ∈ r.entries ∧ Naming.className n = a ∧ moduleImport b ∈ fileImports r g n v

/-- Model `a` of a registry depends on another model `b` in the registry's dependency
graph, and `b` is none of the names `Optional`, `list` and `Union`, which model files
never import. -/
def ModelDependency (r : Registry) (a b : String) : Prop :=
  a ≠ b ∧ b ∉ ["Optional", "list", "Union"] ∧ a ∈ r.names ∧ b ∈ r.dependencies.depsOf a

section Resolved

variable {r : Registry} {res : Resolution}

/-- The registries the theorems below are about: object and root models named by their
class names, whose fields use no enumeration class. -/
structure PlainClasses (r : Registry) : Prop where
  schema : ∀ p ∈ r.entries, p.2.isSchema = true
  classNames : ∀ p ∈ r.entries, Naming.className p.1 = p.1
  noEnums : ∀ p ∈ r.entries, ∀ f ∈ p.2.fields, f.hint.enums = []

/-- A model that descends from a registry of plain classes is an object or root model
whose fields use no enumeration class. -/
theorem PlainClasses.of_descends (hr : PlainClasses r) {circular : List String}
    {p : String × ModelValue} (hp : r.Descends circular p) :
    p.2.isSchema = true ∧ ∀ f ∈ p.2.fields, f.hint.enums = [] := by
  obtain ⟨n, w⟩ := p
  obtain ⟨v, hv, hrun⟩ := hp
  dsimp only at hv hrun ⊢
  induction hrun with
  | refl => exact ⟨hr.schema _ hv, hr.noEnums _ hv⟩
  | tail _ hstep ih =>
    refine ⟨ModelValue.isSchema_of_breakCircular hstep, fun f hf => ?_⟩
    apply List.eq_nil_iff_forall_not_mem.mpr
    intro e he
    obtain ⟨g, hg, heg⟩ := ModelValue.enums_breakCircular hstep hf he
    simp [ih.2 g hg] at heg

theorem PlainClasses.className_of_mem_names (hr : PlainClasses r) {n : String}
    (hn : n ∈ r.names) : Naming.className n = n := by
  obtain ⟨p, hp, rfl⟩ := List.mem_map.mp hn
  exact hr.classNames p hp

/-- Resolving dependencies keeps a registry of plain classes plain. -/
theorem PlainClasses.resolved (hres : r.resolveDependencies = .ok res) (hr : PlainClasses r) :
    PlainClasses res.registry := by
  obtain ⟨-, -, hbreak⟩ := Registry.resolveDependencies_ok hres
  obtain ⟨hnames, hdesc⟩ := Registry.descends_of_breakCircular hbreak
  refine ⟨fun p hp => (hr.of_descends (hdesc p hp)).1, fun p hp => ?_,
    fun p hp => (hr.of_descends (hdesc p hp)).2⟩
  exact hr.className_of_mem_names (hnames ▸ List.mem_map_of_mem hp)

/-- The file of a model of a registry of plain classes imports the graph's dependencies of
its class other than itself and the typing names, and nothing else. -/
theorem PlainClasses.mem_fileImports_iff (hr : PlainClasses r) {g : DependencyGraph}
    {p : String × ModelValue} (hp : p ∈ r.entries) {x : String} :
    moduleImport x ∈ fileImports r g p.1 p.2 ↔
      x ∈ g.depsOf (Naming.className p.1) ∧ x ≠ Naming.className p.1 ∧
        x ∉ ["Optional", "list", "Union"] := by
  rw [fileImports_of_isSchema (hr.schema p hp), mem_classImports]
  constructor
  · rintro (h | ⟨f, hf, e, he, -⟩)
    · exact h
    · simp [hr.noEnums p hp f hf] at he
  · exact .inl

/-- In the package written for a registry of plain classes, a model file imports another
model exactly when the registry's dependency graph has that dependency. -/
theorem fileImports_iff_modelDependency (hres : r.resolveDependencies = .ok res)
    (hr : PlainClasses r) (a b : String) :
    FileImports res.registry res.graph a b ↔ ModelDependency r a b := by
  obtain ⟨hgraph, -, hbreak⟩ := Registry.resolveDependencies_ok hres
  have hnames := (Registry.descends_of_breakCircular hbreak).1
  have hplain := hr.resolved hres
  constructor
  · rintro ⟨hab, n, v, hmem, rfl, himp⟩
    obtain ⟨hdep, -, htyping⟩ := (hplain.mem_fileImports_iff hmem).mp himp
    have hn : n ∈ r.names := hnames ▸ List.mem_map_of_mem hmem
    rw [hplain.classNames _ hmem] at hab hdep ⊢
    exact ⟨hab, htyping, hn, hgraph ▸ hdep⟩
  · rintro ⟨hab, htyping, ha, hdep⟩
    obtain ⟨p, hp, rfl⟩ := List.mem_map.mp (hnames ▸ ha : a ∈ res.registry.names)
    have hcls := hplain.classNames p hp
    refine ⟨hab, p.1, p.2, hp, hcls, ?_⟩
    rw [hplain.mem_fileImports_iff hp, hcls, hgraph]
    exact ⟨hdep, Ne.symm hab, htyping⟩

/-- The files of the package written for a registry of plain classes import one another
without a cycle exactly when its dependency graph has no cycle through two different
models: references that close a cycle are imported like any other. -/
theorem imports_acyclic_iff (hres : r.resolveDependencies = .ok res) (hr : PlainClasses r) :
    (∀ a, ¬ Relation.TransGen (FileImports res.registry res.graph) a a) ↔
      ∀ a, ¬ Relation.TransGen (ModelDependency r) a a := by
  have hrel : FileImports res.registry res.graph = ModelDependency r := by
    funext a b
    exact propext (fileImports_iff_modelDependency hres hr a b)
  rw [hrel]

end Resolved

/-! ### Imports of models that are written -/

/-- The path of the file of a class of the models package. -/
def modelPath (c : String) : String := "models/" ++ c ++ ".py"

theorem modelPath_injective : Function.Injective modelPath := by
  intro a b h
  have hchars := congrArg String.toList h
  simp only [modelPath, String.toList_append, List.append_assoc] at hchars
  exact String.toList_inj.mp (List.append_cancel_right (List.append_cancel_left hchars))

/-- The classes the models package of a registry has a file for: the class of each model,
and each enumeration class a field uses. -/
def writtenClasses (r : Registry) : List String :=
  r.entries.map (fun p => Naming.className p.1) ++
    r.entries.flatMap fun p => p.2.fields.flatMap fun f => f.hint.enums.map (·.name)

section Files

variable {r : Registry} {g : DependencyGraph} {circular order : List String}
  {md : List (String × String)} {fd : List (String × List (String × String))}

theorem modelFile_path {n : String} {v : ModelValue} {file : SourceFile}
    (h : modelFile r g circular md fd n v = .ok file) :
    file.path = modelPath (Naming.className n) := by
  unfold modelFile at h
  split at h <;> simp only [bind_eq_ok, pure_eq_ok, throw_eq_ok, false_and, exists_false] at h
  all_goals
    obtain ⟨_, -, rfl⟩ := h
    rfl

/-- The package holds its `__init__.py` and a file for each class it writes. -/
theorem modelFiles_paths {files : List SourceFile}
    (h : modelFiles r g circular order md fd = .ok files) :
    files.map (·.path) = "models/__init__.py" :: (writtenClasses r).map modelPath := by
  unfold modelFiles at h
  simp only [bind_eq_ok, pure_eq_ok] at h
  obtain ⟨models, hmodels, rfl⟩ := h
  have hpaths : models.map (·.path) = r.entries.map fun p => modelPath (Naming.className p.1) :=
    map_of_mapM_eq_ok (fun _ _ h => modelFile_path h) hmodels
  simp [writtenClasses, enumFiles, hpaths, modelPath, List.map_flatMap, Function.comp_def]

theorem modelFile_object_ok {n : String} {fs : List ModelField}
    (h : ∀ f ∈ fs, ∃ t, f.hint.typeText = .ok t) :
    ∃ file, modelFile r g circular md fd n (.object fs) = .ok file := by
  obtain ⟨names, hnames⟩ : ∃ names, fs.mapM (fun f => f.hint.typingImports circular) = .ok names := by
    refine exists_mapM_eq_ok fun f hf => ?_
    obtain ⟨t, ht⟩ := h f hf
    exact ⟨_, by rw [TypeHint.typingImports, ht]; rfl⟩
  unfold modelFile classText fieldTypingNames
  simp only [ModelValue.fields, hnames, ok_bind]
  exact ⟨_, rfl⟩

theorem modelFiles_ok (h : ∀ p ∈ r.entries, ∃ file, modelFile r g circular md fd p.1 p.2 = .ok file) :
    ∃ files, modelFiles r g circular order md fd = .ok files := by
  obtain ⟨models, hmodels⟩ := exists_mapM_eq_ok (f := fun p : String × ModelValue =>
    modelFile r g circular md fd p.1 p.2) h
  unfold modelFiles
  simp only [hmodels, ok_bind]
  exact ⟨_, rfl⟩

end Files

/-- Every relative import of a model file names a class the package has a file for, other
than its `__init__.py`. -/
def ImportsWritten (r : Registry) (g : DependencyGraph) (files : List SourceFile) : Prop :=
  ∀ p ∈ r.entries, ∀ x, moduleImport x ∈ fileImports r g p.1 p.2 →
    modelPath x ∈ files.map (·.path) ∧ x ≠ "__init__"

/-- Every forward reference in the fields of a model names a model of the registry, the
model itself, or one of the names `Optional`, `list` and `Union`. -/
def ReferencesResolve (r : Registry) : Prop :=
  ∀ p ∈ r.entries, ∀ f ∈ p.2.fields, ∀ t, TypeHint.Part.forward t ∈ f.hint.parts →
    forwardTarget t ∈ r.names ∨ forwardTarget t = p.1 ∨
      forwardTarget t ∈ ["Optional", "list", "Union"]

section Closed

variable {r : Registry} {res : Resolution}

/-- The package of a registry of plain classes has a file for exactly its models. -/
theorem PlainClasses.writtenClasses_eq (hr : PlainClasses r) : writtenClasses r = r.names := by
  have hmodels : r.entries.map (fun p => Naming.className p.1) = r.names :=
    List.map_congr_left fun p hp => hr.classNames p hp
  have henums : (r.entries.flatMap fun p =>
      p.2.fields.flatMap fun f => f.hint.enums.map (·.name)) = [] := by
    simp only [List.flatMap_eq_nil_iff, List.map_eq_nil_iff]
    exact fun p hp f hf => hr.noEnums p hp f hf
  rw [writtenClasses, hmodels, henums, List.append_nil]

/-- In the package of a registry of plain classes, the file `models/x.py` other than the
`__init__.py` is written exactly for the models `x`. -/
theorem PlainClasses.mem_paths_iff (hr : PlainClasses r) {g : DependencyGraph}
    {circular order : List String} {md : List (String × String)}
    {fd : List (String × List (String × String))} {files : List SourceFile}
    (hfiles : modelFiles r g circular order md fd = .ok files) (x : String) :
    (modelPath x ∈ files.map (·.path) ∧ x ≠ "__init__") ↔ x ∈ r.names := by
  rw [modelFiles_paths hfiles, hr.writtenClasses_eq]
  have hinit : "models/__init__.py" = modelPath "__init__" := rfl
  have hclass : Naming.className "__init__" ≠ "__init__" := by decide +kernel
  constructor
  · rintro ⟨hx, hne⟩
    rcases List.mem_cons.mp hx with hx | hx
    · exact absurd (modelPath_injective (hx.trans hinit)) hne
    · obtain ⟨y, hy, hxy⟩ := List.mem_map.mp hx
      exact modelPath_injective hxy ▸ hy
  · intro hx
    refine ⟨List.mem_cons_of_mem _ (List.mem_map_of_mem hx), ?_⟩
    rintro rfl
    exact hclass (hr.className_of_mem_names hx)

/-- The files of a package of plain classes import only written models exactly when every
file another file imports is the file of a model. -/
theorem PlainClasses.importsWritten_iff (hr : PlainClasses r) {g : DependencyGraph}
    {circular order : List String} {md : List (String × String)}
    {fd : List (String × List (String × String))} {files : List SourceFile}
    (hfiles : modelFiles r g circular order md fd = .ok files) :
    ImportsWritten r g files ↔ ∀ a b, FileImports r g a b → b ∈ r.names := by
  constructor
  · rintro h a b ⟨-, n, v, hnv, -, himp⟩
    exact (hr.mem_paths_iff hfiles b).mp (h _ hnv b himp)
  · intro h p hp x hx
    have hne := ((hr.mem_fileImports_iff hp).mp hx).2.1
    exact (hr.mem_paths_iff hfiles x).mpr (h _ x ⟨Ne.symm hne, p.1, p.2, hp, rfl, hx⟩)

/-- In a registry of plain classes with distinct names, every dependency between two models
ends at a model exactly when every forward reference does. -/
theorem PlainClasses.dependencies_closed_iff (hr : PlainClasses r) (hnd : r.names.Nodup) :
    (∀ a b, ModelDependency r a b → b ∈ r.names) ↔ ReferencesResolve r := by
  constructor
  · intro h p hp f hf t ht
    by_cases hself : forwardTarget t = p.1
    · exact .inr (.inl hself)
    by_cases htyping : forwardTarget t ∈ ["Optional", "list", "Union"]
    · exact .inr (.inr htyping)
    have hdep : forwardTarget t ∈ r.dependencies.depsOf p.1 := by
      rw [depsOf_dependencies hnd hp, List.mem_eraseDups, mem_deps_of_isSchema (hr.schema p hp)]
      exact ⟨f, hf, mem_hintDeps.mpr (.inl ⟨t, ht, rfl⟩)⟩
    exact .inl (h _ _ ⟨Ne.symm hself, htyping, List.mem_map_of_mem hp, hdep⟩)
  · rintro h a b ⟨hab, htyping, ha, hdep⟩
    obtain ⟨⟨a', v⟩, hp, rfl⟩ := List.mem_map.mp ha
    rw [depsOf_dependencies hnd hp, List.mem_eraseDups, mem_deps_of_isSchema (hr.schema _ hp)]
      at hdep
    obtain ⟨f, hf, hb⟩ := hdep
    rcases mem_hintDeps.mp hb with ⟨t, ht, rfl⟩ | ⟨n, -, hn, rfl⟩
    · rcases h _ hp f hf t ht with hmem | hself | htyp
      · exact hmem
      · exact absurd hself.symm hab
      · exact absurd htyp htyping
    · rw [hr.className_of_mem_names hn]
      exact hn

/-- For a registry of plain classes with distinct names, the files of its package import
only models the package writes exactly when every forward reference in the fields names a
model of the registry, the model itself, or a typing name: a reference to a model that is
not there is imported all the same. -/
theorem packageImports_written_iff (hres : r.resolveDependencies = .ok res) (hr : PlainClasses r)
    (hnd : r.names.Nodup) {md : List (String × String)}
    {fd : List (String × List (String × String))} {files : List SourceFile}
    (hfiles : modelFiles res.registry res.graph res.circular res.order md fd = .ok files) :
    ImportsWritten res.registry res.graph files ↔ ReferencesResolve r := by
  obtain ⟨-, -, hbreak⟩ := Registry.resolveDependencies_ok hres
  have hnames : res.registry.names = r.names := (Registry.descends_of_breakCircular hbreak).1
  rw [(hr.resolved hres).importsWritten_iff hfiles, hnames, ← hr.dependencies_closed_iff hnd]
  simp only [fileImports_iff_modelDependency hres hr]

end Closed


/-- Two object models whose optional fields refer to each other. -/
def mutualPair : Registry :=
  ⟨[("A", .object [⟨"b", (TypeHint.ref "B").or .none, some "b", false⟩]),
    ("B", .object [⟨"a", (TypeHint.ref "A").or .none, some "a", false⟩])]⟩

/-- The dependency graph of `mutualPair`: each model depends on the other. -/
def mutualGraph : DependencyGraph := ⟨[("A", ["B"]), ("B", ["A"])]⟩

theorem mutualPair_resolveDependencies :
    mutualPair.resolveDependencies = .ok ⟨mutualGraph, ["A"], mutualGraph.order, mutualPair⟩ := by
  have hdeps : mutualPair.dependencies = mutualGraph := by cbv
  have hcirc : mutualGraph.circular = ["A"] := by decide +kernel
  have hbreak : mutualPair.breakCircular ["A"] = .ok mutualPair := by cbv
  rw [Registry.resolveDependencies, hdeps, hcirc, hbreak]
  rfl

theorem mutualPair_plainClasses : PlainClasses mutualPair where
  schema := by decide +kernel
  classNames := by decide +kernel
  noEnums := by
    intro p hp f hf
    simp only [mutualPair, List.mem_cons, List.not_mem_nil, or_false] at hp
    rcases hp with rfl | rfl <;>
    · simp only [ModelValue.fields, List.mem_singleton] at hf
      subst hf
      cbv

theorem mutualPair_imports_acyclic_iff :
    (∀ a, ¬ Relation.TransGen (FileImports mutualPair mutualGraph) a a) ↔
      ∀ a, ¬ Relation.TransGen (ModelDependency mutualPair) a a :=
  imports_acyclic_iff mutualPair_resolveDependencies mutualPair_plainClasses

/-- The files written for `mutualPair` import each other: `A` is found circular, so `B`
refers to it in quotes, and imports it all the same. -/
theorem mutualPair_imports_cycle :
    ∃ res, mutualPair.resolveDependencies = .ok res ∧
      Relation.TransGen (FileImports res.registry res.graph) "A" "A" := by
  refine ⟨_, mutualPair_resolveDependencies, ?_⟩
  have hab : FileImports mutualPair mutualGraph "A" "B" :=
    ⟨by decide, "A", _, List.mem_cons_self, by decide +kernel,
      mem_classImports.mpr (.inl ⟨by decide, by decide, by decide⟩)⟩
  have hba : FileImports mutualPair mutualGraph "B" "A" :=
    ⟨by decide, "B", _, List.mem_cons_of_mem _ List.mem_cons_self, by decide +kernel,
      mem_classImports.mpr (.inl ⟨by decide, by decide, by decide⟩)⟩
  exact .tail (.single hab) hba

/-- An object model `A`, and an object model `C` whose optional field refers to a model
`B` that the registry does not have. -/
def strayRef : Registry :=
  ⟨[("A", .object [⟨"x", (TypeHint.cls (.builtin "str")).or .none, some "x", false⟩]),
    ("C", .object [⟨"b", (TypeHint.ref "B").or .none, some "b", false⟩])]⟩

/-- The dependency graph of `strayRef`: `C` depends on `B`. -/
def strayGraph : DependencyGraph := ⟨[("C", ["B"]), ("A", [])]⟩

theorem strayRef_resolveDependencies :
    strayRef.resolveDependencies = .ok ⟨strayGraph, [], strayGraph.order, strayRef⟩ := by
  have hdeps : strayRef.dependencies = strayGraph := by cbv
  have hcirc : strayGraph.circular = [] := by decide +kernel
  rw [Registry.resolveDependencies, hdeps, hcirc]
  rfl

theorem strayRef_plainClasses : PlainClasses strayRef where
  schema := by decide +kernel
  classNames := by decide +kernel
  noEnums := by
    intro p hp f hf
    simp only [strayRef, List.mem_cons, List.not_mem_nil, or_false] at hp
    rcases hp with rfl | rfl <;>
    · simp only [ModelValue.fields, List.mem_singleton] at hf
      subst hf
      cbv

theorem strayRef_modelFiles :
    ∃ files, modelFiles strayRef strayGraph [] strayGraph.order [] [] = .ok files := by
  refine modelFiles_ok fun p hp => ?_
  simp only [strayRef, List.mem_cons, List.not_mem_nil, or_false] at hp
  rcases hp with rfl | rfl <;>
  · refine modelFile_object_ok fun f hf => ?_
    simp only [List.mem_singleton] at hf
    subst hf
    exact ⟨_, by cbv⟩

theorem strayRef_imports_written_iff :
    ∃ files, modelFiles strayRef strayGraph [] strayGraph.order [] [] = .ok files ∧
      (ImportsWritten strayRef strayGraph files ↔ ReferencesResolve strayRef) := by
  obtain ⟨files, hfiles⟩ := strayRef_modelFiles
  exact ⟨files, hfiles, packageImports_written_iff strayRef_resolveDependencies
    strayRef_plainClasses (by decide) hfiles⟩

/-- The file of `C` imports `B`, and the package has no file for `B`. -/
theorem strayRef_import_unwritten :
    ∃ res files, strayRef.resolveDependencies = .ok res ∧
      modelFiles res.registry res.graph res.circular res.order [] [] = .ok files ∧
      (∃ v, ("C", v) ∈ res.registry.entries ∧
        moduleImport "B" ∈ fileImports res.registry res.graph "C" v) ∧
      modelPath "B" ∉ files.map (·.path) := by
  obtain ⟨files, hfiles⟩ := strayRef_modelFiles
  refine ⟨_, files, strayRef_resolveDependencies, hfiles,
    ⟨_, List.mem_cons_of_mem _ List.mem_cons_self, ?_⟩, ?_⟩
  · rw [fileImports_of_isSchema rfl, mem_classImports]
    exact .inl ⟨by decide +kernel, by decide +kernel, by decide⟩
  · rw [modelFiles_paths hfiles, strayRef_plainClasses.writtenClasses_eq]
    decide

end TransitKit.Codegen
