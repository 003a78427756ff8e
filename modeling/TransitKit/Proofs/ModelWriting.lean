import Mathlib
import TransitKit.Proofs.AnnotationWriting
import TransitKit.Proofs.ModelBuilding
import TransitKit.Proofs.Deduplication
import TransitKit.Proofs.CycleSearch
import TransitKit.Proofs.ModelImports
import TransitKit.Proofs.DocumentShapes

/-!
# Generating and writing models

The models of a package are generated from its component schemas in five steps and written one
file each. Each step can fail, but none does on ready schemas: objects whose properties make
fields, array items referring to object models or earlier arrays, and valid class names, where
several schemas may share a class name and the later model then takes the earlier one's place.
The proof carries one invariant through the steps: the models have distinct valid names, none
of them `str`, and each is an object or root model with writable annotations or the dictionary
alias. Breaking circular references then only meets object and root models.
-/

namespace TransitKit.Naming

/-- No class name is `str`: a prefixed name holds an underscore, and any other class name is
capitalised where `str` is not. -/
theorem className_ne_str (s pfx : String) : className s pfx ≠ "str" := by
  rw [className_eq_guardName]
  unfold guardName
  split
  · intro h
    have hmem : '_' ∈ (pfx ++ "_" ++ classCore s).toList := by simp
    rw [h] at hmem
    exact absurd hmem (by decide)
  · intro h
    have hcap := capLower_classCore s
    rw [h] at hcap
    exact absurd hcap (by decide)

end TransitKit.Naming

namespace TransitKit

theorem exists_mem_of_lookup_eq_some {l : List (String × String)} {k t : String}
    (h : l.lookup k = some t) : ∃ k', (k', t) ∈ l := by
  induction l with
  | nil => cases h
  | cons e l ih =>
    obtain ⟨k', b⟩ := e
    simp only [List.lookup] at h
    split at h
    · cases h
      exact ⟨k', List.mem_cons_self⟩
    · obtain ⟨k'', hk''⟩ := ih h
      exact ⟨k'', List.mem_cons_of_mem _ hk''⟩

end TransitKit

namespace TransitKit.Model

open Typing

/-! ## Building -/

/-- A built model whose annotations can be written: every field of an object model has a
writable annotation. -/
def BuiltModel.Writable : BuiltModel → Prop
  | .object fs => ∀ f ∈ fs, f.hint.Writable
  | .anyDict | .array _ => True

/-- Component schemas whose models can be generated and written: objects, whose object schemas
have properties that make fields and a list of required names, whose array schemas have items
that refer to an object component or an earlier array component, and whose object and array
components have valid class names. Components may share a class name: the later model then
takes the earlier one's place. -/
structure SchemasReady (cs : List (String × Json)) : Prop where
  schemas : ∀ p ∈ cs, p.2.isObj = true
  properties : ∀ p ∈ cs, isObjectSchema p = true → ∀ v, p.2.get? "properties" = some v →
    PropertiesOk v
  required : ∀ p ∈ cs, isObjectSchema p = true → ∀ v, p.2.get? "required" = some v →
    ∃ xs, v = .arr xs
  items : ∀ pre p post, cs = pre ++ p :: post → isArraySchema p = true →
    ItemsOk (objectNames cs ++ arrayNames pre) p.2
  valid : ∀ n ∈ objectNames cs ++ arrayNames cs, Naming.ValidName n

theorem mem_putEntry {α : Type} {xs : List (String × α)} {k : String} {v : α} {e : String × α}
    (h : e ∈ putEntry xs k v) : e ∈ xs ∨ e = (k, v) := by
  unfold putEntry at h
  split at h
  · obtain ⟨p, hp, rfl⟩ := List.mem_map.mp h
    split
    · exact .inr rfl
    · exact .inl hp
  · simpa using h

section Writable

variable {b b' : Build}

theorem writable_putEntry {ms : List (String × BuiltModel)} (hms : ∀ e ∈ ms, e.2.Writable)
    {k : String} {m : BuiltModel} (hm : m.Writable) : ∀ e ∈ putEntry ms k m, e.2.Writable := by
  intro e he
  rcases mem_putEntry he with he | rfl
  exacts [hms e he, hm]

/-- The field of a property has a writable annotation. -/
theorem propertyField_writable {o : List Nat} {required : Json} {name : String} {spec : Json}
    {f : BuiltField} {d : Option Json} (h : propertyField o required name spec = .ok (f, d)) :
    f.hint.Writable := by
  unfold propertyField at h
  simp only [bind_eq_ok] at h
  obtain ⟨hint, hhint, hasDesc, -, h⟩ := h
  have hw : hint.Writable := fieldTypeWith_writable hhint
  have hopt : (hint.or .none).Writable := .or hw (.cls _)
  split at h <;>
  · simp only [bind_eq_ok] at h
    obtain ⟨desc, -, listed, -, h⟩ := h
    split at h <;> simp only [pure_eq_ok, Prod.mk.injEq] at h <;> rw [← h.1]
    exacts [hw, hopt]

theorem describe_models {c : String} {spec : Json} (h : b.describe c spec = .ok b') :
    b'.models = b.models := by
  unfold Build.describe at h
  simp only [bind_eq_ok] at h
  obtain ⟨hasDesc, -, h⟩ := h
  split at h
  · simp only [bind_eq_ok, pure_eq_ok] at h
    obtain ⟨_, -, rfl⟩ := h
    rfl
  · simp only [pure_eq_ok] at h
    rw [← h]

theorem objectModel_writable {i : Nat} {c : String} {spec : Json}
    (h : b.objectModel i c spec = .ok b') (hb : ∀ e ∈ b.models, e.2.Writable) :
    ∀ e ∈ b'.models, e.2.Writable := by
  unfold Build.objectModel at h
  simp only [bind_eq_ok] at h
  obtain ⟨ty, -, h⟩ := h
  split at h
  · simp only [pure_eq_ok] at h
    rw [← h]
    exact hb
  simp only [bind_eq_ok] at h
  obtain ⟨hasProps, -, h⟩ := h
  split at h
  · simp only [pure_eq_ok] at h
    rw [← h]
    exact writable_putEntry hb trivial
  simp only [bind_eq_ok, pure_eq_ok] at h
  obtain ⟨required, -, propsJ, -, props, -, ⟨fields, descs⟩, hfold, rfl⟩ := h
  refine writable_putEntry (by split <;> exact hb) ?_
  show ∀ f ∈ fields, f.hint.Writable
  refine foldlM_invariant (fun acc : List BuiltField × List (String × Json) =>
    ∀ f ∈ acc.1, f.hint.Writable) ?_ _ _ _ (by simp) hfold
  rintro acc ⟨⟨n, s⟩, k⟩ acc' hacc hstep
  simp only [bind_eq_ok, pure_eq_ok] at hstep
  obtain ⟨⟨f, d⟩, hf, rfl⟩ := hstep
  have hw := propertyField_writable hf
  intro g hg
  split at hg
  · obtain ⟨g', hg', rfl⟩ := List.mem_map.mp hg
    split
    exacts [hw, hacc g' hg']
  · rcases List.mem_append.mp hg with hg | hg
    · exact hacc g hg
    · rw [List.mem_singleton.mp hg]
      exact hw

theorem arrayPass_writable {n : String} {spec : Json} (h : b.arrayPass n spec = .ok b')
    (hb : ∀ e ∈ b.models, e.2.Writable) : ∀ e ∈ b'.models, e.2.Writable := by
  unfold Build.arrayPass at h
  simp only [bind_eq_ok] at h
  obtain ⟨ty, -, h⟩ := h
  split at h
  · simp only [pure_eq_ok] at h
    rw [← h]
    exact hb
  simp only [bind_eq_ok] at h
  obtain ⟨items, -, isRef, -, h⟩ := h
  split at h
  · simp only [bind_eq_ok] at h
    obtain ⟨refJ, -, h⟩ := h
    split at h
    · simp only [pure_bind] at h
      split at h
      · cases h
      · simp only [pure_eq_ok] at h
        rw [← h]
        exact writable_putEntry hb trivial
    · simp at h
  · simp only [pure_eq_ok] at h
    rw [← h]
    exact writable_putEntry hb trivial

theorem settle_writable {o : Outcome Build} (hb : ∀ e ∈ b.models, e.2.Writable)
    (ho : ∀ b', o = .ok b' → ∀ e ∈ b'.models, e.2.Writable) :
    ∀ e ∈ (b.settle o).models, e.2.Writable := by
  cases o with
  | ok b' => exact ho b' rfl
  | error f => exact hb

theorem objectPass_writable (hb : ∀ e ∈ b.models, e.2.Writable) (i : Nat) (n : String)
    (spec : Json) : ∀ e ∈ (b.objectPass i n spec).models, e.2.Writable := by
  unfold Build.objectPass
  dsimp only
  split
  · exact hb
  · next b₁ hd =>
    rw [← describe_models hd] at hb
    exact settle_writable hb fun _ ho => objectModel_writable ho hb

end Writable

/-- The models of a build stand under distinct names, exactly the names listed. -/
def ModelKeys (b : Build) (names : List String) : Prop :=
  (b.models.map (·.1)).Nodup ∧ ∀ n, n ∈ b.models.map (·.1) ↔ n ∈ names

/-- Putting a model under a name adds the name, once. -/
theorem ModelKeys.put {b b' : Build} {names : List String} (h : ModelKeys b names) {k : String}
    {m : BuiltModel} (hb' : b'.models = putEntry b.models k m) : ModelKeys b' (names ++ [k]) := by
  refine ⟨by rw [hb']; exact nodup_putEntry h.1 k m, fun n => ?_⟩
  rw [hb', keys_putEntry, List.mem_append, List.mem_singleton]
  split
  · rename_i hk
    have hk' : k ∈ names := (h.2 k).mp (any_key_iff.mp hk)
    rw [h.2 n]
    exact ⟨.inl, fun hn => hn.elim id fun hnk => hnk ▸ hk'⟩
  · rw [List.mem_append, List.mem_singleton, h.2 n]

section Keys

variable {cs pre post : List (String × Json)} {p : String × Json} {b : Build}

/-- One step of the first pass puts the object model of the component under its class name. -/
theorem SchemasReady.objectKeys_step (h : SchemasReady cs) (hcs : cs = pre ++ p :: post)
    (hb : b.failure = none) (hP : ModelKeys b (objectNames pre)) (i : Nat) :
    (b.objectPass i p.1 p.2).failure = none ∧
      ModelKeys (b.objectPass i p.1 p.2) (objectNames (pre ++ [p])) := by
  have hp : p ∈ cs := by rw [hcs]; simp
  obtain ⟨fs, hfs⟩ := Json.exists_eq_obj_of_isObj (h.schemas p hp)
  have hobjIff : isObjectSchema p = true ↔ declaredType (.obj fs) = some "object" := by
    simp [isObjectSchema, hfs]
  rw [hfs]
  obtain ⟨hf, hmodels⟩ := objectPass_spec hb i p.1
    (fun ho v hv => h.properties _ hp (hobjIff.mpr ho) v (by rw [hfs]; exact hv))
    (fun ho v hv => h.required _ hp (hobjIff.mpr ho) v (by rw [hfs]; exact hv))
  refine ⟨hf, ?_⟩
  split at hmodels
  · rename_i ho
    obtain ⟨m, hm, -⟩ := hmodels
    have hnames : objectNames (pre ++ [p]) = objectNames pre ++ [Naming.className p.1] := by
      simp [objectNames, List.filter_append, hobjIff.mpr ho]
    rw [hnames]
    exact hP.put hm
  · rename_i ho
    have hnot : isObjectSchema p = false := by
      rw [Bool.eq_false_iff, ne_eq, hobjIff]
      exact ho
    have hnames : objectNames (pre ++ [p]) = objectNames pre := by
      simp [objectNames, List.filter_append, hnot]
    rw [hnames, ModelKeys, hmodels]
    exact hP

/-- One step of the second pass puts the array model of the component under its class name. -/
theorem SchemasReady.arrayKeys_step (h : SchemasReady cs) (hcs : cs = pre ++ p :: post)
    (hb : b.failure = none) (hP : ModelKeys b (objectNames cs ++ arrayNames pre)) :
    (b.settle (b.arrayPass p.1 p.2)).failure = none ∧
      ModelKeys (b.settle (b.arrayPass p.1 p.2)) (objectNames cs ++ arrayNames (pre ++ [p])) := by
  have hp : p ∈ cs := by rw [hcs]; simp
  obtain ⟨fs, hfs⟩ := Json.exists_eq_obj_of_isObj (h.schemas p hp)
  by_cases harr : isArraySchema p = true
  · have ha : declaredType (.obj fs) = some "array" := by simpa [isArraySchema, hfs] using harr
    have hitems := h.items pre p post hcs harr
    rw [hfs] at hitems ⊢
    rw [arrayPass_of_array ha hitems fun t ht => (hP.2 t).mpr ht]
    have hnames : objectNames cs ++ arrayNames (pre ++ [p]) =
        objectNames cs ++ arrayNames pre ++ [Naming.className p.1] := by
      simp [arrayNames, List.filter_append, harr]
    rw [hnames]
    exact ⟨hb, hP.put rfl⟩
  · have ha : declaredType (.obj fs) ≠ some "array" := by simpa [isArraySchema, hfs] using harr
    have hnames : objectNames cs ++ arrayNames (pre ++ [p]) = objectNames cs ++ arrayNames pre := by
      simp [arrayNames, List.filter_append, harr]
    rw [hfs, arrayPass_of_not_array ha, hnames]
    exact ⟨hb, hP⟩

end Keys

/-- Building models from ready components never fails, puts a model under the class name of
each object and array component and under no other name, and gives every field a writable
annotation. -/
theorem buildModels_ready {cs : List (String × Json)} (h : SchemasReady cs) :
    (buildModels (.obj cs)).failure = none ∧
      ModelKeys (buildModels (.obj cs)) (objectNames cs ++ arrayNames cs) ∧
      ∀ e ∈ (buildModels (.obj cs)).models, e.2.Writable := by
  obtain ⟨hf₁, hP₁, hw₁⟩ := @Build.pass_invariant cs _
    (fun b pre => ModelKeys b (objectNames pre) ∧ ∀ e ∈ b.models, e.2.Writable)
    (fun b pre p post i hcs hb hP => (h.objectKeys_step hcs hb hP.1 i).imp_right
      fun hK => ⟨hK, objectPass_writable hP.2 i p.1 p.2⟩) {} rfl
    ⟨⟨List.nodup_nil, by simp [objectNames]⟩, by simp⟩
  obtain ⟨hf₂, hP₂, hw₂⟩ := @Build.pass_invariant cs (fun b _ n s => b.settle (b.arrayPass n s))
    (fun b pre => ModelKeys b (objectNames cs ++ arrayNames pre) ∧ ∀ e ∈ b.models, e.2.Writable)
    (fun b pre p post _ hcs hb hP => (h.arrayKeys_step hcs hb hP.1).imp_right
      fun hK => ⟨hK, settle_writable hP.2 fun _ ho => arrayPass_writable ho hP.2⟩)
    _ hf₁ ⟨by simpa [arrayNames] using hP₁, hw₁⟩
  exact ⟨hf₂, hP₂, hw₂⟩

theorem mem_objectNames_append {cs : List (String × Json)} {n : String}
    (h : n ∈ objectNames cs ++ arrayNames cs) : ∃ p ∈ cs, n = Naming.className p.1 := by
  simp only [objectNames, arrayNames, List.mem_append, List.mem_map, List.mem_filter] at h
  rcases h with ⟨p, ⟨hp, -⟩, rfl⟩ | ⟨p, ⟨hp, -⟩, rfl⟩ <;> exact ⟨p, hp, rfl⟩

/-! ## Ready registries -/

/-- A model whose file can be written and whose circular references can be broken: an object
or root model with writable annotations, or the dictionary alias `dict[str, Any]`. -/
def ModelValue.Ready : ModelValue → Prop
  | .object fs => ∀ f ∈ fs, f.hint.Writable
  | .root h => ∀ a ∈ h, a.Writable
  | .container h => h = anyDictHint
  | .enumeration _ => False

/-- Models under distinct valid names, none of them `str`, each ready to be written. -/
structure Registry.Ready (r : Registry) : Prop where
  nodup : r.names.Nodup
  valid : ∀ n ∈ r.names, Naming.ValidName n
  str_free : "str" ∉ r.names
  models : ∀ p ∈ r.entries, p.2.Ready

theorem anyDictHint_writable : anyDictHint.Writable :=
  .dict (by simp) (by simp [TypeHint.Writable.cls])

theorem itemHint_writable (models : List (String × BuiltModel)) (n : String) :
    (itemHint models n).Writable := by
  unfold itemHint
  split
  · exact anyDictHint_writable
  · exact .cls _

theorem BuiltModel.value_ready {m : BuiltModel} (hm : m.Writable)
    (models : List (String × BuiltModel)) : (m.value models).Ready := by
  cases m with
  | object fs =>
    intro f hf
    obtain ⟨g, hg, rfl⟩ := List.mem_map.mp hf
    exact hm g hg
  | anyDict => rfl
  | array item =>
    intro a ha
    rw [Option.mem_def, Option.some_inj] at ha
    subst ha
    refine .list (by simp) ?_
    cases item <;> simp [itemHint_writable, TypeHint.Writable.cls]

/-- The models built from ready schemas make a ready registry. -/
theorem SchemasReady.ofBuild {cs : List (String × Json)} (h : SchemasReady cs) :
    (Registry.ofBuild (buildModels (.obj cs))).Ready := by
  obtain ⟨-, hkeys, hw⟩ := buildModels_ready h
  have hnames : (Registry.ofBuild (buildModels (.obj cs))).names =
      (buildModels (.obj cs)).models.map (·.1) := by
    simp [Registry.ofBuild, Registry.names]
  obtain ⟨hnodup, hmem⟩ := hkeys
  rw [← hnames] at hnodup hmem
  refine ⟨hnodup, fun n hn => h.valid n ((hmem n).mp hn), fun hstr => ?_, fun p hp => ?_⟩
  · obtain ⟨q, -, hq⟩ := mem_objectNames_append ((hmem _).mp hstr)
    exact Naming.className_ne_str q.1 _ hq.symm
  · obtain ⟨⟨n, m⟩, hm, rfl⟩ := List.mem_map.mp hp
    exact BuiltModel.value_ready (hw _ hm) _

namespace Registry

variable {r : Registry}

theorem Ready.of_sublist {r' : Registry} (hr : r.Ready) (hs : r'.entries.Sublist r.entries) :
    r'.Ready where
  nodup := (hs.map _).nodup hr.nodup
  valid n hn := hr.valid n ((hs.map _).subset hn)
  str_free hn := hr.str_free ((hs.map _).subset hn)
  models p hp := hr.models p (hs.subset hp)

/-- Folding duplicates of a ready registry keeps it ready, and folds every name into a model
it keeps. -/
theorem Ready.dedupe (hr : r.Ready) :
    r.dedupe.1.Ready ∧ ∀ k t, r.dedupe.2.lookup k = some t → t ∈ r.dedupe.1.names := by
  have hf := r.dedupe_folded
  refine ⟨hr.of_sublist hf.sublist, fun k t hkt => ?_⟩
  obtain ⟨k', hmem⟩ := exists_mem_of_lookup_eq_some hkt
  obtain ⟨-, w, -, hw, -⟩ := hf.folds _ hmem
  exact List.mem_map_of_mem hw

theorem exists_get?_of_mem {n : String} (h : n ∈ r.names) : ∃ v, r.get? n = some v := by
  obtain ⟨p, hp, rfl⟩ := List.mem_map.mp h
  have hsome : (r.entries.find? (·.1 == p.1)).isSome := List.find?_isSome.mpr ⟨p, hp, by simp⟩
  obtain ⟨q, hq⟩ := Option.isSome_iff_exists.mp hsome
  exact ⟨q.2, by rw [get?, hq]; rfl⟩

/-! ## Updating references -/

section Resolve

variable {refs : List (String × String)}
  (hrefs : ∀ k t, refs.lookup k = some t → t ∈ r.names)
  (hcont : ∀ n h, r.get? n = some (.container h) → h.Writable)

theorem mem_of_target? {h : TypeHint} {t : String} (ht : r.target? refs h = .ok (some t)) :
    t ∈ r.names := by
  unfold target? at ht
  split at ht
  · split at ht
    · cases ht
      simpa using ‹r.names.contains _ = true›
    · cases ht
  · cases ht

include hrefs in
theorem target?_ok (h : TypeHint) : ∃ t, r.target? refs h = .ok t := by
  unfold target?
  split
  · next t ht => exact ⟨some t, by simp [hrefs _ _ ht]⟩
  · exact ⟨none, rfl⟩

include hcont in
theorem hintOf_writable (n : String) : (r.hintOf n).Writable := by
  unfold hintOf
  split
  · next h hget => exact hcont n h hget
  · exact .cls _
  · exact .cls _

include hrefs hcont in
theorem lookupHint_writable {h : TypeHint} (hw : h.Writable) :
    ∃ u, r.lookupHint refs h = .ok u ∧ u.Writable := by
  obtain ⟨t, ht⟩ := target?_ok hrefs h
  unfold lookupHint
  rw [ht]
  cases t with
  | none => exact ⟨h, rfl, hw⟩
  | some t => exact ⟨_, rfl, hintOf_writable hcont t⟩

/-- An annotation that is neither a list nor a typing union is looked up as a whole. -/
theorem resolve_of_ne {h : TypeHint} (hl : ∀ args, h ≠ .generic .list args)
    (hu : ∀ args, h ≠ .union args) : r.resolve refs h = r.lookupHint refs h := by
  rw [resolve]
  exacts [hl, hu]

include hrefs hcont in
/-- Updating the references of a writable annotation succeeds and keeps it writable, when
every name is folded into a model and every alias is writable. -/
theorem resolve_writable {h : TypeHint} (hw : h.Writable) :
    ∃ u, r.resolve refs h = .ok u ∧ u.Writable := by
  induction hw with
  | cls c =>
    rw [resolve_of_ne (by simp) (by simp)]
    exact lookupHint_writable hrefs hcont (.cls c)
  | ref t =>
    rw [resolve_of_ne (by simp) (by simp)]
    exact lookupHint_writable hrefs hcont (.ref t)
  | @list args hne hargs ih =>
    obtain ⟨ys, hys, -, hw⟩ := exists_mapM_eq_ok_forall TypeHint.Writable ih
    rw [resolve]
    simp only [List.isEmpty_iff, hne, if_false, hys]
    exact ⟨_, rfl, .list (mt (eq_nil_iff_of_mapM_eq_ok hys).mp hne) hw⟩
  | @dict args hlen hargs _ =>
    rw [resolve_of_ne (by simp) (by simp)]
    exact lookupHint_writable hrefs hcont (.dict hlen hargs)
  | @bar args hargs _ =>
    rw [resolve_of_ne (by simp) (by simp)]
    exact lookupHint_writable hrefs hcont (.bar hargs)
  | @union args _ ih =>
    obtain ⟨ys, hys, -, hw⟩ := exists_mapM_eq_ok_forall TypeHint.Writable ih
    rw [resolve, hys]
    cases ys with
    | nil => exact ⟨_, rfl, .union (by simp)⟩
    | cons y ys => exact ⟨_, rfl, .unionOf hw⟩

end Resolve

end Registry

/-- What a model becomes when references are updated, fit to stand in a registry: the model
of a name of the registry, or a root model around a writable annotation. -/
def Updated.Ready (r : Registry) : Updated → Prop
  | .sameAs t => t ∈ r.names
  | .recreatedRoot h => h.Writable
  | .rebuilt _ => False

namespace Registry

variable {r : Registry}

/-- Updating the references of a ready registry, with every name folded into one of its
models, succeeds, and gives each model, in order, something ready to stand in its place. -/
theorem updateReferences_ready {refs : List (String × String)} (hr : r.Ready)
    (hrefs : ∀ k t, refs.lookup k = some t → t ∈ r.names) :
    ∃ us, r.updateReferences refs = .ok us ∧ us.map (·.1) = r.names ∧ ∀ u ∈ us, u.2.Ready r := by
  have hcont : ∀ n h, r.get? n = some (.container h) → h.Writable := fun n h hget => by
    have hready := hr.models _ (mem_of_get?_eq_some hget)
    rw [show h = anyDictHint from hready]
    exact anyDictHint_writable
  unfold updateReferences
  refine exists_mapM_eq_ok_of_forall Prod.fst Prod.fst (fun u : String × Updated => u.2.Ready r)
    fun p hv => ?_
  obtain ⟨n, v⟩ := p
  have hn : n ∈ r.names := List.mem_map_of_mem hv
  dsimp only
  cases hl : refs.lookup n with
  | some t => exact ⟨(n, .sameAs t), by simp [hrefs _ _ hl], rfl, hrefs _ _ hl⟩
  | none =>
    have hready := hr.models _ hv
    dsimp only
    split
    · next h =>
      obtain ⟨u, hu, hw⟩ := resolve_writable hrefs hcont (hready h rfl)
      rw [hu, ok_bind]
      split_ifs
      · exact ⟨_, rfl, rfl, hn⟩
      · exact ⟨_, rfl, rfl, hw⟩
    · exact ⟨_, rfl, rfl, hn⟩
    · exact absurd hready (by simp [ModelValue.Ready, anyDictHint])
    · obtain ⟨t, ht⟩ := target?_ok hrefs (r.hintOf n)
      rw [ht, ok_bind]
      cases t with
      | none => exact ⟨_, rfl, rfl, hn⟩
      | some t => exact ⟨_, rfl, rfl, mem_of_target? ht⟩

/-- Putting back what updating gave keeps a ready registry ready. -/
theorem Ready.applyUpdates (hr : r.Ready) {us : List (String × Updated)}
    (hnames : us.map (·.1) = r.names) (hus : ∀ u ∈ us, u.2.Ready r) : (r.applyUpdates us).Ready := by
  have hn : (r.applyUpdates us).names = r.names := (applyUpdates_names r us).trans hnames
  refine ⟨hn ▸ hr.nodup, hn ▸ hr.valid, hn ▸ hr.str_free, fun p hp => ?_⟩
  obtain ⟨⟨n, u⟩, hu, rfl⟩ := List.mem_map.mp hp
  have hready := hus _ hu
  dsimp only
  cases u with
  | sameAs t =>
    obtain ⟨v, hv⟩ := exists_get?_of_mem hready
    show ((r.get? t).getD (.root none)).Ready
    rw [hv, Option.getD_some]
    exact hr.models _ (mem_of_get?_eq_some hv)
  | recreatedRoot h =>
    intro a ha
    rw [Option.mem_def, Option.some_inj] at ha
    exact ha ▸ hready
  | rebuilt h => exact hready.elim

end Registry

/-! ## Circular models -/

namespace DependencyGraph

variable {g : DependencyGraph} {next : String → List String}

/-- Every model found circular or on the path of the search has dependencies to walk. -/
def Search.Walks (next : String → List String) (s : Search) : Prop :=
  ∀ x ∈ s.found ++ s.path, next x ≠ []

/-- A model is put on the path of the search only to walk its dependencies, so only a model
with dependencies to walk is ever found again on the path. -/
theorem visit_walks (fuel : Nat) (d : String) {s : Search} (hs : s.Walks next) :
    (visit next fuel d s).Walks next := by
  induction fuel generalizing d s with
  | zero => exact hs
  | succ fuel ih =>
    by_cases hdone : d ∈ s.done
    · rwa [visit_of_done hdone]
    by_cases hpath : d ∈ s.path
    · rw [visit_of_mem_path hdone hpath]
      split_ifs
      · exact hs
      · intro x hx
        simp only [List.mem_append, List.mem_singleton] at hx
        rcases hx with (hx | rfl) | hx
        · exact hs x (List.mem_append_left _ hx)
        · exact hs x (List.mem_append_right _ hpath)
        · exact hs x (List.mem_append_right _ hx)
    · rw [visit_of_fresh hdone hpath]
      by_cases hnext : next d = []
      · intro x hx
        simp only [hnext, List.foldl_nil, List.erase_cons_head] at hx
        exact hs x hx
      · have hpush : ({ s with path := d :: s.path } : Search).Walks next := by
          intro x hx
          simp only [List.mem_append, List.mem_cons] at hx
          rcases hx with hx | rfl | hx
          · exact hs x (List.mem_append_left _ hx)
          · exact hnext
          · exact hs x (List.mem_append_right _ hx)
        have hfold := foldl_visit_invariant (Search.Walks next) (next d) _ hpush
          fun d' _ t ht => ih d' ht
        intro x hx
        rcases List.mem_append.mp hx with hx | hx
        · exact hfold x (List.mem_append_left _ hx)
        · exact hfold x (List.mem_append_right _ (List.mem_of_mem_erase hx))

theorem search_walks (g : DependencyGraph) (next : String → List String) :
    (g.search next).Walks next :=
  foldl_visit_invariant _ _ _ (by simp [Search.Walks]) fun d _ _ ht => visit_walks _ d ht

/-- A circular model has dependencies. -/
theorem depsOf_ne_nil_of_mem_circular {m : String} (hm : m ∈ g.circular) : g.depsOf m ≠ [] := by
  have hwalk : g.walkOrder m ≠ [] :=
    search_walks g g.walkOrder m (List.mem_append_left _ (mem_circularBy.mp hm))
  intro hnil
  apply hwalk
  rw [walkOrder, hnil, setOrder_nil]

end DependencyGraph

/-- A model with dependencies in the graph is a model of the registry whose annotations have
dependencies. -/
theorem exists_entry_of_depsOf_ne_nil {r : Registry} {m : String}
    (h : r.dependencies.depsOf m ≠ []) : ∃ v, (m, v) ∈ r.entries ∧ v.deps r.names ≠ [] := by
  unfold DependencyGraph.depsOf at h
  cases hf : r.dependencies.edges.find? (·.1 == m) with
  | none => simp [hf] at h
  | some e =>
    have hkey : e.1 = m := by simpa using List.find?_some hf
    obtain ⟨v, hv, he⟩ := mem_dependencies_edges (List.mem_of_find?_eq_some hf)
    refine ⟨v, hkey ▸ hv, fun hnil => h ?_⟩
    simp [hf, he, hnil]

/-- In a ready registry only object and root models have dependencies: the dictionary alias
could only depend on a model named `str`. -/
theorem ModelValue.isSchema_of_deps_ne_nil {v : ModelValue} {names : List String} (hv : v.Ready)
    (hstr : "str" ∉ names) (h : v.deps names ≠ []) : v.isSchema = true := by
  cases v with
  | object _ => rfl
  | root _ => rfl
  | container h' =>
    rw [show h' = anyDictHint from hv] at h
    simp [ModelValue.deps, anyDictHint, hintName?, TypeClass.name, hstr] at h
  | enumeration _ => exact hv.elim

/-- Every circular model of a ready registry is one of its object or root models. -/
theorem Registry.Ready.circular_isSchema {r : Registry} (hr : r.Ready) {m : String}
    (hm : m ∈ r.dependencies.circular) : m ∈ r.names ∧ ∀ v, (m, v) ∈ r.entries → v.isSchema = true := by
  obtain ⟨v, hv, hdeps⟩ :=
    exists_entry_of_depsOf_ne_nil (DependencyGraph.depsOf_ne_nil_of_mem_circular hm)
  refine ⟨List.mem_map_of_mem hv, fun w hw => ?_⟩
  have hvw : (m, w) = (m, v) := List.inj_on_of_nodup_map hr.nodup hw hv rfl
  rw [(Prod.mk.inj hvw).2]
  exact ModelValue.isSchema_of_deps_ne_nil (hr.models _ hv) hr.str_free hdeps

/-! ## Breaking circular references -/

/-- Breaking the circular references of a ready object or root model succeeds when the
circular models have valid names, and keeps it ready. -/
theorem ModelValue.breakCircular_ready {circular : List String}
    (hc : ∀ n ∈ circular, Naming.ValidName n) {v : ModelValue} (hv : v.Ready)
    (hs : v.isSchema = true) : ∃ w, v.breakCircular circular = .ok w ∧ w.Ready := by
  cases v with
  | object fs =>
    obtain ⟨gs, hgs, -, hw⟩ : ∃ gs, fs.mapM (fun f : ModelField => do
        return { f with hint := ← f.hint.replaceCircular circular }) = .ok gs ∧
        gs.length = fs.length ∧ ∀ g ∈ gs, g.hint.Writable :=
      exists_mapM_eq_ok_forall _ fun f hf => by
        obtain ⟨h', hh', hw'⟩ := (hv f hf).replaceCircular hc
        exact ⟨{ f with hint := h' }, by rw [hh']; rfl, hw'⟩
    exact ⟨.object gs, by rw [breakCircular, hgs]; rfl, hw⟩
  | root o =>
    cases o with
    | none => exact ⟨_, rfl, fun a ha => (Option.not_mem_none a ha).elim⟩
    | some h =>
      obtain ⟨h', hh', hw'⟩ := (hv h rfl).replaceCircular hc
      refine ⟨_, by rw [breakCircular, hh']; rfl, fun a ha => ?_⟩
      rw [Option.mem_def, Option.some_inj] at ha
      exact ha ▸ hw'
  | container _ => cases hs
  | enumeration _ => cases hs

/-- Breaking circular references in a ready registry, each of them at a model of it that is
an object or root model, succeeds and keeps the registry ready. -/
theorem Registry.Ready.breakCircular {r : Registry} (hr : r.Ready) {circular : List String}
    (hc : ∀ n ∈ circular, n ∈ r.names)
    (hs : ∀ p ∈ r.entries, p.1 ∈ circular → p.2.isSchema = true) :
    ∃ r', r.breakCircular circular = .ok r' ∧ r'.Ready := by
  have hvalid : ∀ n ∈ circular, Naming.ValidName n := fun n hn => hr.valid n (hc n hn)
  obtain ⟨r', hr', hnames, hready, -⟩ : ∃ r', r.breakCircular circular = .ok r' ∧
      r'.names = r.names ∧ (∀ p ∈ r'.entries, p.2.Ready) ∧
        ∀ p ∈ r'.entries, p.1 ∈ circular → p.2.isSchema = true := by
    unfold Registry.breakCircular
    refine exists_foldlM_ok _ ?_ ⟨rfl, hr.models, hs⟩
    rintro n hn acc ⟨hnames, hready, hschema⟩
    obtain ⟨v, hget⟩ := Registry.exists_get?_of_mem (hnames ▸ hc n hn)
    have hmem := Registry.mem_of_get?_eq_some hget
    obtain ⟨w, hw, hwr⟩ := ModelValue.breakCircular_ready hvalid (hready _ hmem) (hschema _ hmem hn)
    refine ⟨_, by simp only [hget, hw, ok_bind]; rfl, ?_, ?_, ?_⟩
    · rw [← hnames]
      simp only [Registry.names, List.map_map]
      apply List.map_congr_left
      intro p _
      by_cases hp : p.1 = n <;> simp [hp]
    · intro p hp
      obtain ⟨q, hq, rfl⟩ := List.mem_map.mp hp
      by_cases hqn : q.1 = n
      · simpa [hqn] using hwr
      · simpa [hqn] using hready q hq
    · intro p hp
      obtain ⟨q, hq, rfl⟩ := List.mem_map.mp hp
      by_cases hqn : q.1 = n
      · simpa [hqn] using fun _ : n ∈ circular => ModelValue.isSchema_of_breakCircular hw
      · simpa [hqn] using hschema q hq
  exact ⟨r', hr', hnames ▸ hr.nodup, hnames ▸ hr.valid, hnames ▸ hr.str_free, hready⟩

/-- Resolving the dependencies of a ready registry succeeds, with a ready registry. -/
theorem Registry.Ready.resolveDependencies {r : Registry} (hr : r.Ready) :
    ∃ res, r.resolveDependencies = .ok res ∧ res.registry.Ready := by
  obtain ⟨r', hr', hready⟩ := hr.breakCircular (fun n hn => (hr.circular_isSchema hn).1)
    fun p hp hc => (hr.circular_isSchema hc).2 p.2 hp
  exact ⟨_, by simp only [Registry.resolveDependencies, hr', ok_bind]; rfl, hready⟩

/-! ## Generation -/

/-- Generating the models of ready schemas succeeds, and the models it resolves are ready to
be written. -/
theorem generateModels_ready {cs : List (String × Json)} (h : SchemasReady cs) :
    ∃ gen, generateModels (.obj cs) = .ok gen ∧ gen.resolution.registry.Ready := by
  obtain ⟨hfail, -, -⟩ := buildModels_ready h
  rcases hd₁ : (Registry.ofBuild (buildModels (.obj cs))).dedupe with ⟨r₁, folds₁⟩
  obtain ⟨h₁, hfolds⟩ := h.ofBuild.dedupe
  rw [hd₁] at h₁ hfolds
  obtain ⟨us, hus, hnames, hready⟩ := Registry.updateReferences_ready h₁ hfolds
  rcases hd₂ : (r₁.applyUpdates us).dedupe with ⟨r₃, folds₂⟩
  have h₃ := (h₁.applyUpdates hnames hready).dedupe.1
  rw [hd₂] at h₃
  obtain ⟨res, hres, hreg⟩ := h₃.resolveDependencies
  refine ⟨⟨buildModels (.obj cs), r₃, folds₁ ++ folds₂, res⟩, ?_, hreg⟩
  simp only [generateModels, hfail, hd₁, hus, ok_bind, hd₂, hres]
  rfl

end TransitKit.Model

namespace TransitKit.Codegen

open Typing Model

section Files

variable {r : Registry} {g : DependencyGraph} {circular order : List String}
  {md : List (String × String)} {fd : List (String × List (String × String))}

/-- The file of a ready model is written. -/
theorem modelFile_ready {n : String} {v : ModelValue} (hv : v.Ready) :
    ∃ file, modelFile r g circular md fd n v = .ok file := by
  cases v with
  | object fs => exact modelFile_object_ok fun f hf => (hv f hf).typeText_ok
  | root o =>
    obtain ⟨names, hnames⟩ : ∃ names, (ModelValue.root o).fields.mapM
        (fun f => f.hint.typingImports circular) = .ok names := by
      refine exists_mapM_eq_ok fun f hf => ?_
      cases o with
      | none => simp [ModelValue.fields] at hf
      | some h =>
        simp only [ModelValue.fields, List.mem_singleton] at hf
        subst hf
        obtain ⟨t, ht⟩ := (hv h rfl).typeText_ok
        exact ⟨_, by rw [TypeHint.typingImports, ht]; rfl⟩
    unfold modelFile classText fieldTypingNames
    simp only [hnames, ok_bind]
    cases o with
    | none => exact ⟨_, rfl⟩
    | some h =>
      obtain ⟨t, ht⟩ := (hv h rfl).typeText_ok
      simp only [ht]
      exact ⟨_, rfl⟩
  | container h =>
    rw [show h = anyDictHint from hv]
    exact ⟨_, rfl⟩
  | enumeration _ => exact hv.elim

/-- Every file of a registry of ready models is written. -/
theorem modelFiles_ready (hr : ∀ p ∈ r.entries, p.2.Ready) :
    ∃ files, modelFiles r g circular order md fd = .ok files :=
  modelFiles_ok fun p hp => modelFile_ready (hr p hp)

end Files

end TransitKit.Codegen
