import Mathlib
import TransitKit.Proofs.Outcome
import TransitKit.Model.Pipeline
import TransitKit.Codegen.Operation

/-!
# Models named by responses

Generating models folds every model that duplicates an earlier one into the first of its kind;
the models written and the folded names split the models built, so a model built is written
exactly when it was not folded. The client names the model of an operation by its 200 response,
reading the folds for arrays only: a response that refers to a schema directly names a model
that is written exactly when its schema was not folded.
-/

namespace TransitKit.Model

open scoped List

/-! ### Built models have distinct names -/

section Build

variable {α : Type}

/-- The names of a list after a value is put under a key: the same names when the key is
there, else the key at the end. -/
theorem keys_putEntry (xs : List (String × α)) (k : String) (v : α) :
    (putEntry xs k v).map (·.1) =
      if xs.any (·.1 == k) then xs.map (·.1) else xs.map (·.1) ++ [k] := by
  unfold putEntry
  split
  · simp only [List.map_map]
    apply List.map_congr_left
    intro p _
    by_cases hp : p.1 = k <;> simp [hp]
  · simp

theorem nodup_putEntry {xs : List (String × α)} (h : (xs.map (·.1)).Nodup) (k : String)
    (v : α) : ((putEntry xs k v).map (·.1)).Nodup := by
  rw [keys_putEntry]
  split
  · exact h
  · rename_i hk
    have hk' : k ∉ xs.map (·.1) := by simpa using hk
    exact h.append (List.nodup_singleton k) (List.disjoint_singleton.mpr hk')

end Build

/-- The models of a build have distinct names. -/
def Build.Distinct (b : Build) : Prop := (b.models.map (·.1)).Nodup

/-- A step of building keeps the models, or puts one model under a name. -/
def Build.Puts (b b' : Build) : Prop :=
  b'.models = b.models ∨ ∃ k m, b'.models = putEntry b.models k m

theorem Build.Puts.distinct {b b' : Build} (h : b.Puts b') (hb : b.Distinct) : b'.Distinct := by
  rcases h with h | ⟨k, m, h⟩
  · unfold Build.Distinct; rw [h]; exact hb
  · unfold Build.Distinct; rw [h]; exact nodup_putEntry hb k m

theorem Build.describe_models {b b' : Build} {c : String} {spec : Json}
    (h : b.describe c spec = .ok b') : b'.models = b.models := by
  unfold Build.describe at h
  simp only [bind_eq_ok] at h
  obtain ⟨has, -, h⟩ := h
  split at h <;> simp only [pure_eq_ok, bind_eq_ok] at h
  · obtain ⟨_, -, rfl⟩ := h
    rfl
  · rw [← h]

theorem Build.objectModel_puts {b b' : Build} {i : Nat} {c : String} {spec : Json}
    (h : b.objectModel i c spec = .ok b') : b.Puts b' := by
  unfold Build.objectModel at h
  simp only [bind_eq_ok] at h
  obtain ⟨kind, -, h⟩ := h
  split at h
  · exact .inl (by simp only [pure_eq_ok] at h; rw [← h])
  simp only [bind_eq_ok] at h
  obtain ⟨hasProps, -, h⟩ := h
  split at h
  · simp only [pure_eq_ok] at h
    exact .inr ⟨c, _, by rw [← h]⟩
  simp only [bind_eq_ok, pure_eq_ok] at h
  obtain ⟨-, -, -, -, -, -, ⟨fields, descs⟩, -, rfl⟩ := h
  refine .inr ⟨c, .object fields, ?_⟩
  split <;> rfl

theorem Build.Puts.of_models_eq {b b₁ b' : Build} (h : b₁.models = b.models) (hp : b₁.Puts b') :
    b.Puts b' := by
  unfold Build.Puts at hp ⊢
  rw [← h]
  exact hp

theorem Build.settle_puts {b : Build} {o : Outcome Build} (h : ∀ b', o = .ok b' → b.Puts b') :
    b.Puts (b.settle o) := by
  cases o with
  | error f => exact .inl rfl
  | ok b' => exact h b' rfl

theorem Build.objectPass_puts (b : Build) (i : Nat) (name : String) (spec : Json) :
    b.Puts (b.objectPass i name spec) := by
  unfold Build.objectPass
  dsimp only
  split
  · exact .inl rfl
  · rename_i b₁ hb₁
    exact (Build.settle_puts fun _ h => Build.objectModel_puts h).of_models_eq
      (Build.describe_models hb₁)

theorem Build.arrayPass_puts {b b' : Build} {name : String} {spec : Json}
    (h : b.arrayPass name spec = .ok b') : b.Puts b' := by
  unfold Build.arrayPass at h
  simp only [bind_eq_ok] at h
  obtain ⟨kind, -, h⟩ := h
  split at h
  · exact .inl (by simp only [pure_eq_ok] at h; rw [← h])
  simp only [bind_eq_ok] at h
  obtain ⟨items, -, hasRef, -, h⟩ := h
  split at h
  · simp only [bind_eq_ok] at h
    obtain ⟨ref, -, h⟩ := h
    split at h
    · simp only [bind_eq_ok, pure_eq_ok] at h
      obtain ⟨_, rfl, h⟩ := h
      split at h <;> simp only [bind_eq_ok, pure_eq_ok, throw_eq_ok, false_and, exists_false] at h
      exact .inr ⟨_, _, by rw [← h]⟩
    · simp [throw_eq_ok] at h
  · simp only [pure_eq_ok] at h
    exact .inr ⟨_, _, by rw [← h]⟩


theorem Build.pass_distinct {b : Build} {components : List (String × Json)}
    {step : Build → Nat → String → Json → Build}
    (hstep : ∀ b i n s, b.Distinct → (step b i n s).Distinct) (hb : b.Distinct) :
    (b.pass components step).Distinct := by
  unfold Build.pass
  induction components.zipIdx generalizing b with
  | nil => exact hb
  | cons x xs ih =>
    obtain ⟨⟨n, s⟩, i⟩ := x
    rw [List.foldl_cons]
    apply ih
    dsimp only
    split
    · exact hb
    · exact hstep _ _ _ _ hb

/-- The models built from component schemas have distinct names. -/
theorem buildModels_distinct (components : Json) : (buildModels components).Distinct := by
  unfold buildModels
  split
  · refine Build.pass_distinct (fun b _ n s hb => ?_) ?_
    · exact (Build.settle_puts fun _ h => Build.arrayPass_puts h).distinct hb
    · exact Build.pass_distinct (fun b i n s hb => (b.objectPass_puts i n s).distinct hb)
        List.nodup_nil
  · exact List.nodup_nil

/-! ### Folding splits the names -/

/-- The models kept and the keys of the folds, one after the other. -/
def keptAndFolded (acc : Registry × List (String × String)) : List String :=
  acc.1.names ++ acc.2.map (·.1)

theorem keptAndFolded_keepOrFold (acc : Registry × List (String × String))
    (p : String × ModelValue) :
    (keptAndFolded (Registry.keepOrFold acc p)).Perm (keptAndFolded acc ++ [p.1]) := by
  unfold Registry.keepOrFold keptAndFolded
  split
  · simp [Registry.names]
  · simp only [Registry.names, List.map_append, List.map_cons, List.map_nil, List.append_assoc]
    exact List.Perm.append_left _ List.perm_append_comm

/-- Folding puts every name either among the models kept or among the keys of the folds. -/
theorem Registry.dedupe_names_perm (r : Registry) :
    (keptAndFolded r.dedupe).Perm r.names := by
  have hfold : ∀ (xs : List (String × ModelValue)) acc,
      (keptAndFolded (xs.foldl Registry.keepOrFold acc)).Perm
        (keptAndFolded acc ++ xs.map (·.1)) := by
    intro xs
    induction xs with
    | nil => intro acc; simp
    | cons p xs ih =>
      intro acc
      rw [List.foldl_cons]
      refine (ih _).trans ?_
      have hstep := (keptAndFolded_keepOrFold acc p).append_right (xs.map (·.1))
      simpa only [List.append_assoc, List.map_cons, List.singleton_append] using hstep
  unfold Registry.dedupe
  simpa [keptAndFolded, Registry.names] using hfold r.entries (⟨[]⟩, [])

/-- Updating references keeps the names of the models. -/
theorem Registry.updateReferences_names {r : Registry} {refs : List (String × String)}
    {us : List (String × Updated)} (h : r.updateReferences refs = .ok us) :
    us.map (·.1) = r.names := by
  unfold Registry.names
  refine map_of_mapM_eq_ok ?_ h
  intro ⟨n, v⟩ y hy
  dsimp only at hy
  split at hy
  · split at hy
    · simp only [pure_eq_ok] at hy
      rw [← hy]
    · simp at hy
  · split at hy <;> simp only [bind_eq_ok, pure_eq_ok] at hy
    · obtain ⟨_, -, rfl⟩ := hy
      rfl
    · rw [← hy]
    · obtain ⟨_, -, rfl⟩ := hy
      rfl
    · obtain ⟨t, -, hy⟩ := hy
      split at hy <;> simp only [pure_eq_ok] at hy <;> rw [← hy]

theorem Registry.ofBuild_names (b : Build) : (Registry.ofBuild b).names = b.models.map (·.1) := by
  simp [Registry.ofBuild, Registry.names]

/-- The models written and the keys of the folds of a generation split the models built
between them. -/
theorem generateModels_names_perm {components : Json} {g : Generated}
    (h : generateModels components = .ok g) :
    g.build = buildModels components ∧
      (g.registry.names ++ g.folds.map (·.1)).Perm (g.build.models.map (·.1)) := by
  unfold generateModels at h
  dsimp only at h
  split at h
  · simp at h
  generalize hd1 : (Registry.ofBuild (buildModels components)).dedupe = d1 at h
  obtain ⟨r1, folds1⟩ := d1
  simp only [bind_eq_ok] at h
  obtain ⟨us, hus, h⟩ := h
  generalize hd2 : (r1.applyUpdates us).dedupe = d2 at h
  obtain ⟨r3, folds2⟩ := d2
  simp only [pure_eq_ok] at h
  obtain ⟨res, -, rfl⟩ := h
  refine ⟨rfl, ?_⟩
  have h1 := Registry.dedupe_names_perm (Registry.ofBuild (buildModels components))
  have h2 := Registry.dedupe_names_perm (r1.applyUpdates us)
  rw [hd1] at h1
  rw [hd2, applyUpdates_names, Registry.updateReferences_names hus] at h2
  rw [Registry.ofBuild_names] at h1
  unfold keptAndFolded at h1 h2
  dsimp only at h1 h2 ⊢
  calc r3.names ++ (folds1 ++ folds2).map (·.1)
        ~ (r3.names ++ folds2.map (·.1)) ++ folds1.map (·.1) := by
        rw [List.map_append, List.append_assoc]
        exact List.Perm.append_left _ List.perm_append_comm
      _ ~ r1.names ++ folds1.map (·.1) := h2.append_right _
      _ ~ (buildModels components).models.map (·.1) := h1

/-- A model built is written exactly when no fold took it: the models built have distinct
names, so none is both written and folded. -/
theorem mem_names_iff_not_folded {components : Json} {g : Generated}
    (h : generateModels components = .ok g) {t : String}
    (ht : t ∈ g.build.models.map (·.1)) :
    t ∈ g.registry.names ↔ t ∉ g.folds.map (·.1) := by
  obtain ⟨hb, hperm⟩ := generateModels_names_perm h
  have hnd : (g.registry.names ++ g.folds.map (·.1)).Nodup :=
    hperm.nodup_iff.mpr (hb ▸ buildModels_distinct components)
  constructor
  · intro hw hf
    exact List.disjoint_of_nodup_append hnd hw hf
  · intro hf
    rcases List.mem_append.mp (hperm.mem_iff.mpr ht) with hw | hf'
    · exact hw
    · exact absurd hf' hf

end TransitKit.Model

namespace TransitKit.Json

variable {j v : Json} {k : String}

theorem index?_of_get? (h : j.get? k = some v) : j.index? k = .ok v := by
  cases j <;> simp_all [get?, index?]

theorem getOr?_of_get? (h : j.get? k = some v) (d : Json) : j.getOr? k d = .ok v := by
  cases j <;> simp_all [get?, getOr?]

theorem holds?_of_get? (h : j.get? k = some v) : j.holds? k = .ok true := by
  cases j <;> simp_all [get?, holds?, lookup]
  obtain ⟨a, ha⟩ := h
  have hak : a = k := by simpa using List.find?_some ha
  exact ⟨v, hak ▸ List.mem_of_find?_eq_some ha⟩

theorem truthy_of_get? (h : j.get? k = some v) : j.truthy = true := by
  cases j <;> simp_all [get?, truthy, lookup]
  obtain ⟨a, ha⟩ := h
  rintro rfl
  simp at ha

end TransitKit.Json

namespace TransitKit.Codegen

open Model

/-- The schema of the JSON content of a response, if it has one. -/
def responseSchema? (response : Json) : Option Json := do
  (← (← response.get? "content").get? "application/json").get? "schema"

/-- A response whose JSON content has a schema that refers to the schema at `ref`
directly, not as the items of an array. -/
structure RefersTo (response : Json) (ref : String) : Prop where
  schema : ∃ s, responseSchema? response = some s ∧ s.get? "$ref" = some (.str ref) ∧
    s.get? "type" ≠ some (.str "array")
  nonempty : ref ≠ ""

/-- A response that refers to a schema directly names the class of that schema, whatever
models were renamed: the map of renamed models is read for arrays only. -/
theorem modelNameOfResponse_of_refersTo {response : Json} {ref : String}
    (h : RefersTo response ref) (renamed : List (String × Json)) :
    modelNameOfResponse response false renamed = .ok (Naming.className (lastSegment ref)) := by
  obtain ⟨s, hs, href, htype⟩ := h.schema
  simp only [responseSchema?, Option.bind_eq_bind, Option.bind_eq_some_iff] at hs
  obtain ⟨content, hc, body, hb, hs⟩ := hs
  obtain ⟨fs, rfl⟩ : ∃ fs, s = .obj fs := by
    cases s <;> simp_all [Json.get?]
  have hgetType : (Json.obj fs).getOr? "type" (.str "") =
      .ok (((Json.obj fs).get? "type").getD (.str "")) := rfl
  have hkind : ((((Json.obj fs).get? "type").getD (.str "")).str? == some "array") = false := by
    cases hty : (Json.obj fs).get? "type" with
    | none => rfl
    | some t => cases t <;> simp_all [Json.str?]
  have hnonempty : (Json.str ref).truthy = true := by simpa [Json.truthy] using h.nonempty
  simp only [modelNameOfResponse, Json.truthy_of_get? hc, Json.holds?_of_get? hc,
    Json.index?_of_get? hc, Json.holds?_of_get? hb, Json.index?_of_get? hb, Json.holds?_of_get? hs,
    Json.index?_of_get? hs, hgetType, hkind, Json.getOr?_of_get? href, hnonempty, ok_bind,
    Bool.not_true, Bool.not_false, Bool.false_eq_true, if_false, if_true, pure_eq_ok]

/-- A response that refers directly to a schema built as a model names that model's class,
in the configuration and in the imports of the client class alike, whatever was folded;
the name is a model that is written exactly when neither fold took it. -/
theorem responseModel_written_iff {components : Json} {g : Generated}
    (hg : generateModels components = .ok g) {response : Json} {ref : String}
    (href : RefersTo response ref)
    (hbuilt : Naming.className (lastSegment ref) ∈ g.build.models.map (·.1)) :
    modelNameOfResponse response false (g.folds.map fun (k, v) => (k, Json.str v)) =
        .ok (Naming.className (lastSegment ref)) ∧
      (Naming.className (lastSegment ref) ∈ g.registry.names ↔
        Naming.className (lastSegment ref) ∉ g.folds.map (·.1)) :=
  ⟨modelNameOfResponse_of_refersTo href _, mem_names_iff_not_folded hg hbuilt⟩

/-! ### Two schemas of one kind -/

/-- An object schema with one optional text property. -/
def pairedSchema : Json :=
  .obj [("type", .str "object"), ("properties", .obj [("x", .obj [("type", .str "string")])])]

/-- Two component schemas `A` and `B` of the same kind. -/
def twinSchemas : Json := .obj [("A", pairedSchema), ("B", pairedSchema)]

/-- A response whose content is the schema `B`. -/
def twinResponse : Json :=
  .obj [("content", .obj [("application/json",
    .obj [("schema", .obj [("$ref", .str "#/components/schemas/B")])])])]

/-- The model built from `pairedSchema`. -/
def pairedModel : ModelValue :=
  .object [⟨"x", (Typing.TypeHint.cls (.builtin "str")).or .none, some "x", false⟩]

/-- The model written for `twinSchemas`: `B` is folded into `A`. -/
def twinKept : Registry := ⟨[("A", pairedModel)]⟩

/-- The dependency graph of `twinKept`. -/
def twinGraph : DependencyGraph := ⟨[("A", [])]⟩

/-- What generating the models of `twinSchemas` gives. -/
def twinGenerated : Generated :=
  let x : BuiltField := ⟨"x", "x", false, (Typing.TypeHint.cls (.builtin "str")).or .none⟩
  ⟨{ models := [("A", .object [x]), ("B", .object [x])] }, twinKept, [("B", "A")],
    ⟨twinGraph, [], twinGraph.order, twinKept⟩⟩

theorem twinSchemas_generateModels : generateModels twinSchemas = .ok twinGenerated := by
  have hbuild : buildModels twinSchemas = twinGenerated.build := rfl
  have hfold : (Registry.ofBuild twinGenerated.build).dedupe = (twinKept, [("B", "A")]) := by cbv
  have hupdate : twinKept.updateReferences [("B", "A")] = .ok [("A", .sameAs "A")] := by cbv
  have hrefold : (twinKept.applyUpdates [("A", .sameAs "A")]).dedupe = (twinKept, []) := by cbv
  have hdeps : twinKept.dependencies = twinGraph := by cbv
  have hcirc : twinGraph.circular = [] := by decide +kernel
  rw [generateModels, hbuild]
  simp only [hfold, hupdate, ok_bind, hrefold, Registry.resolveDependencies, hdeps, hcirc]
  rfl

theorem twinResponse_refersTo : RefersTo twinResponse "#/components/schemas/B" :=
  ⟨⟨_, rfl, rfl, by simp [Json.get?, Json.lookup]⟩, by decide⟩

theorem twinResponse_written_iff :
    modelNameOfResponse twinResponse false (twinGenerated.folds.map fun (k, v) => (k, Json.str v)) =
        .ok (Naming.className (lastSegment "#/components/schemas/B")) ∧
      (Naming.className (lastSegment "#/components/schemas/B") ∈ twinGenerated.registry.names ↔
        Naming.className (lastSegment "#/components/schemas/B") ∉ twinGenerated.folds.map (·.1)) :=
  responseModel_written_iff twinSchemas_generateModels twinResponse_refersTo (by decide +kernel)

/-- `B` is folded into `A`, yet a response whose content is `B` names the model `B`, which
is not written. -/
theorem twinResponse_names_folded :
    ∃ g, generateModels twinSchemas = .ok g ∧
      modelNameOfResponse twinResponse false (g.folds.map fun (k, v) => (k, Json.str v)) =
        .ok "B" ∧ "B" ∉ g.registry.names ∧ "B" ≠ genericModelName := by
  refine ⟨twinGenerated, twinSchemas_generateModels, ?_, by decide, by decide⟩
  rw [modelNameOfResponse_of_refersTo twinResponse_refersTo]
  exact congrArg Except.ok (by decide +kernel)

end TransitKit.Codegen
