import TransitKit.Proofs.CombinedSchemas
import TransitKit.Proofs.ModelWriting

/-!
# Processed schemas that can be generated

Processing sets the array models of the operations' array answers over the combined schemas.
`Spec.DocumentsReady` states, on the accepted documents themselves, what generation needs of the
result: object schemas whose properties read as annotations, array items and array answers that
refer to schemas placed where only objects are, and valid class names. Schemas of several
documents may be placed under one name, as the type mappings do; the later one is kept. Under
these conditions the processed schemas are ready to be generated
(`Spec.processSpecs_schemasReady`).
-/

namespace TransitKit.Spec

open Model

/-- The schema of an operation's JSON answer to a successful call, if it has one. -/
def answerSchema (d : Json) : Option Json :=
  ((((d.get? "responses").bind (·.get? "200")).bind (·.get? "content")).bind
    (·.get? "application/json")).bind (·.get? "schema")

/-- The reference of the items of an operation's JSON array answer to a successful call, if its
answer is an array whose items hold a reference text. -/
def arrayAnswerRef (d : Json) : Option String := do
  let s ← answerSchema d
  if declaredType s = some "array" then ((s.get? "items").bind (·.get? "$ref")).bind Json.str?
  else none

section Access

variable {j : Json} {k : String} {d v : Json}

theorem get?_of_getOr? (h : j.getOr? k d = .ok v) (hv : v ≠ d) : j.get? k = some v := by
  cases j with
  | obj fs =>
    rw [Json.getOr?_obj, Except.ok.injEq] at h
    cases hk : (Json.obj fs).get? k with
    | none =>
      rw [hk, Option.getD_none] at h
      exact absurd h.symm hv
    | some w =>
      rw [hk, Option.getD_some] at h
      rw [h]
  | _ => cases h

end Access

/-- An array model found for an operation is that of the reference of the items of its array
answer, and the reference names a component. -/
theorem arrayTypeOf_eq_some {comps d : Json} {e : String × Json}
    (h : arrayTypeOf comps d = .ok (some e)) :
    ∃ r, arrayAnswerRef d = some r ∧ comps.holds? (refName r) = .ok true ∧
      e = (Naming.arrayModelName (refName r),
        .obj [("type", .str "array"), ("items", .obj [("$ref", .str r)])]) := by
  unfold arrayTypeOf at h
  simp only [bind_eq_ok] at h
  obtain ⟨_, -, h⟩ := h
  split at h
  · cases h
  simp only [bind_eq_ok] at h
  obtain ⟨resp, hresp, succ, hsucc, h⟩ := h
  split at h
  · cases h
  rename_i hsuccT
  obtain ⟨_, -, h⟩ := bind_eq_ok.mp h
  split at h
  · cases h
  split at h
  · rename_i content hcontent
    rw [pure_bind] at h
    split at h
    · split at h
      · rename_i body hbody
        simp only [pure_bind, bind_eq_ok] at h
        obtain ⟨schema, hschema, kind, hkind, h⟩ := h
        split at h
        · cases h
        rename_i hkindA
        simp only [bind_eq_ok] at h
        obtain ⟨items, hitems, ref, hrefv, h⟩ := h
        split at h
        · cases h
        rename_i hrefT
        split at h
        · rename_i r
          split at h
          · rename_i hholds
            refine ⟨r, ?_, hholds, (Option.some.inj (Except.ok.inj h)).symm⟩
            have h200 : resp.get? "200" = some succ :=
              get?_of_getOr? hsucc (by rintro rfl; simp [Json.truthy] at hsuccT)
            have hresp' : d.get? "responses" = some resp :=
              get?_of_getOr? hresp (by rintro rfl; simp [Json.get?, Json.lookup] at h200)
            have hkindA' : kind.str? = some "array" := by simpa using hkindA
            have hkind' : schema.get? "type" = some kind :=
              get?_of_getOr? hkind (by rintro rfl; simp [Json.str?] at hkindA')
            have hschema' : body.get? "schema" = some schema :=
              get?_of_getOr? hschema (by rintro rfl; simp [Json.get?, Json.lookup] at hkind')
            have href' : items.get? "$ref" = some (.str r) :=
              get?_of_getOr? hrefv (by rintro ⟨⟩; simp [Json.truthy] at hrefT)
            have hitems' : schema.get? "items" = some items :=
              get?_of_getOr? hitems (by rintro rfl; simp [Json.get?, Json.lookup] at href')
            simp only [arrayAnswerRef, answerSchema, hresp', h200, Json.get?_of_index? hcontent,
              Json.get?_of_index? hbody, hschema', Option.bind_some, Option.bind_eq_bind,
              declaredType, hkind', hitems', href']
            rw [if_pos hkindA']
            rfl
          · exact absurd h (by simp [pure, Except.pure])
        · exact absurd h (by simp [throw, throwThe, MonadExceptOf.throw, Except.bind, bind])
      · cases h
    · cases h
  · cases h

section Renamed

variable {g : String → String}

theorem get?_of_isStr {j : Json} (h : j.isStr = true) (k : String) : j.get? k = none := by
  cases j <;> simp_all [Json.isStr, Json.get?]

theorem get?_mapRefMember_of_ne (k : String) (d : Json) {k' : String} (hk : k' ≠ "$ref") :
    (mapRefMember g k d).get? k' = (d.get? k').map (mapRefs g) := by
  rcases mapRefMember_cases (f := g) k d with h | ⟨hs, hd⟩
  · rw [h, get?_mapRefs_of_ne d hk]
  · rw [get?_of_isStr hs, get?_of_isStr hd, Option.map_none]

theorem bind_get?_mapRefs (o : Option Json) {k : String} (hk : k ≠ "$ref") :
    (o.map (mapRefs g)).bind (·.get? k) = (o.bind (·.get? k)).map (mapRefs g) := by
  cases o with
  | none => rfl
  | some v => exact get?_mapRefs_of_ne v hk

@[simp] theorem str?_mapRefs (j : Json) : (mapRefs g j).str? = j.str? := by
  cases j <;> rfl

/-- A renamed reference text is the text renamed. -/
theorem str?_mapRefMember_ref (v : Json) : (mapRefMember g "$ref" v).str? = v.str?.map g := by
  cases v <;> rfl

theorem declaredType_mapRefs (s : Json) : declaredType (mapRefs g s) = declaredType s := by
  unfold declaredType
  rw [get?_mapRefs_of_ne s (by decide)]
  cases s.get? "type" <;> simp

/-- Renaming the references of an operation renames those of its answer's schema. -/
theorem answerSchema_mapRefMember (k : String) (d : Json) :
    answerSchema (mapRefMember g k d) = (answerSchema d).map (mapRefs g) := by
  unfold answerSchema
  rw [get?_mapRefMember_of_ne k d (by decide), bind_get?_mapRefs _ (by decide),
    bind_get?_mapRefs _ (by decide), bind_get?_mapRefs _ (by decide),
    bind_get?_mapRefs _ (by decide)]

/-- Renaming the references of an operation renames the reference of its array answer. -/
theorem arrayAnswerRef_mapRefMember (k : String) (d : Json) :
    arrayAnswerRef (mapRefMember g k d) = (arrayAnswerRef d).map g := by
  unfold arrayAnswerRef
  rw [answerSchema_mapRefMember]
  cases answerSchema d with
  | none => rfl
  | some s =>
    simp only [Option.map_some, Option.bind_eq_bind, Option.bind_some, declaredType_mapRefs]
    split
    · rw [get?_mapRefs_of_ne s (by decide)]
      cases s.get? "items" with
      | none => rfl
      | some items =>
        rw [Option.map_some, Option.bind_some, Option.bind_some, get?_mapRefs]
        cases items.get? "$ref" with
        | none => rfl
        | some v => exact str?_mapRefMember_ref v
    · rfl

end Renamed

/-! ## The array models processing adds -/

/-- The operations of a document: the members of its path items. -/
def operationsOf (spec : Json) : List Json :=
  (((spec.get? "paths").bind Json.obj?).getD []).flatMap fun p => ((p.2.obj?).getD []).map (·.2)

theorem mem_operationsOf {spec : Json} {ps : List (String × Json)}
    (hps : spec.get? "paths" = some (.obj ps)) {p : String × Json} (hp : p ∈ ps)
    {ms : List (String × Json)} (hms : p.2 = .obj ms) {d : String × Json} (hd : d ∈ ms) :
    d.2 ∈ operationsOf spec := by
  simp only [operationsOf, hps, Option.bind_some, Json.obj?, Option.getD_some, List.mem_flatMap]
  exact ⟨p, hp, by rw [hms]; exact List.mem_map_of_mem hd⟩

/-- An array model found in the paths is found for an operation of one of their path items. -/
theorem mem_arrayTypes {qs : List (String × Json)} {comps : Json} {arrays : List (String × Json)}
    (h : arrayTypes (.obj qs) comps = .ok arrays) :
    ∀ e ∈ arrays, ∃ q ∈ qs, ∃ ms, mappingMembers q.2 = .ok ms ∧
      ∃ d ∈ ms, arrayTypeOf comps d.2 = .ok (some e) := by
  simp only [arrayTypes, mappingMembers, ok_bind, bind_eq_ok, pure_eq_ok] at h
  obtain ⟨all, hall, rfl⟩ := h
  intro e he
  rcases Json.mem_setFields (show e ∈ Json.setFields [] all.flatten from he) with he | he
  · cases he
  obtain ⟨inner, hinner, he⟩ := List.mem_flatten.mp he
  obtain ⟨q, hq, hfold⟩ := mem_of_mapM_eq_ok hall inner hinner
  simp only [bind_eq_ok] at hfold
  obtain ⟨ms, hms, hfilter⟩ := hfold
  obtain ⟨d, hd, hde⟩ := mem_of_filterMapM_eq_ok hfilter e he
  exact ⟨q, hq, ms, hms, d, hd, hde⟩

theorem mapRefMember_eq_obj {g : String → String} {k : String} {v : Json}
    {fs : List (String × Json)} (h : mapRefMember g k v = .obj fs) :
    ∃ gs, v = .obj gs ∧ fs = mapRefMembers g gs := by
  rcases mapRefMember_cases (f := g) k v with hv | ⟨hs, -⟩
  · exact mapRefs_eq_obj (hv ▸ h)
  · rw [h] at hs
    cases hs

theorem eq_obj_of_mappingMembers {j : Json} {ms : List (String × Json)}
    (h : mappingMembers j = .ok ms) : j = .obj ms := by
  cases j with
  | obj fs => exact congrArg Json.obj (Except.ok.inj h)
  | _ => cases h

/-- Each array model of the combined documents is made for an operation of one of them whose
array answer has items with a reference: the reference renamed by the document's mapping names
a combined schema, and the model is an array of it. -/
theorem arrayModel_source {mappings : List (String × Json)} (hm : MappingsReady mappings)
    {specs : List Json} (hspecs : ∀ s ∈ specs, DocumentShape s) {c : Combined}
    (hc : combine mappings specs [] = .ok c) {arrays : List (String × Json)}
    (harr : arrayTypes (.obj c.paths) (.obj c.components) = .ok arrays) :
    ∀ e ∈ arrays, ∃ spec ∈ specs, ∃ d ∈ operationsOf spec, ∃ r, arrayAnswerRef d = some r ∧
      let r' := renameText (documentRenaming mappings spec) r
      (Json.obj c.components).holds? (refName r') = .ok true ∧
        e = (Naming.arrayModelName (refName r'),
          .obj [("type", .str "array"), ("items", .obj [("$ref", .str r')])]) := by
  intro e he
  obtain ⟨q, hq, ms, hms, d, hd, hde⟩ := mem_arrayTypes harr e he
  obtain ⟨spec, hspec, ps, hps, p, hp, hq2⟩ := (combine_gathers hm hspecs hc).2.2 q hq
  obtain ⟨r', hr', hholds, rfl⟩ := arrayTypeOf_eq_some hde
  rw [eq_obj_of_mappingMembers hms] at hq2
  obtain ⟨ms0, hms0, rfl⟩ := mapRefMember_eq_obj hq2.symm
  rw [mapRefMembers_eq_map] at hd
  obtain ⟨d0, hd0, rfl⟩ := List.mem_map.mp hd
  rw [arrayAnswerRef_mapRefMember] at hr'
  obtain ⟨r, hr, rfl⟩ := Option.map_eq_some_iff.mp hr'
  exact ⟨spec, hspec, d0.2, mem_operationsOf hps hp hms0 hd0, r, hr, hholds, rfl⟩

/-! ## Documents whose processed schemas are ready -/

/-- The types declared by the schemas of the documents that processing places under `X`. -/
def placedTypes (mappings : List (String × Json)) (docs : List Json) (X : String) :
    List (Option String) :=
  docs.flatMap fun spec =>
    ((documentSchemas spec).filter fun e => buildName mappings spec e.1 == X).map
      (declaredType ·.2)

theorem mem_placedTypes {mappings : List (String × Json)} {docs : List Json} {X : String}
    {t : Option String} :
    t ∈ placedTypes mappings docs X ↔ ∃ spec ∈ docs, ∃ e ∈ documentSchemas spec,
      buildName mappings spec e.1 = X ∧ declaredType e.2 = t := by
  simp [placedTypes, and_assoc]

/-- A schema name that a reference ends in as a whole: it has no slash and is no part of the
schemas path. -/
def PlainName (n : String) : Prop := '/' ∉ n.toList ∧ ¬n.toList <:+: schemasPath.toList

instance (n : String) : Decidable (PlainName n) := inferInstanceAs (Decidable (_ ∧ _))

/-- A reference to a schema of the document, placed by processing where only objects are. -/
def ObjectRef (mappings : List (String × Json)) (docs : List Json) (spec : Json) (r : String) :
    Prop :=
  ∃ N, r = schemaRef N ∧ PlainName N ∧ N ∈ (documentSchemas spec).map (·.1) ∧
    ∀ t ∈ placedTypes mappings docs (buildName mappings spec N), t = some "object"

/-- Documents whose schemas, renamed by the mappings and combined with the array models of their
operations, can be generated. Each document's renaming is settled and its schemas are objects.
An object schema's properties read as annotations once their references are renamed, under
distinct field names, and its required names are a list. An array schema's items are an object
whose reference, if any, names a schema of the document placed where only objects are; so does
the reference of every array answer of an operation, and no object is placed at the name of its
array model. The object and array schemas and the array models have valid class names. Two
schemas may be placed under one name: the later one is kept. -/
structure DocumentsReady (mappings : List (String × Json)) (docs : List Json) : Prop where
  settled : ∀ spec ∈ docs, SettledRenaming (documentRenaming mappings spec)
  objects : ∀ spec ∈ docs, ∀ e ∈ documentSchemas spec, e.2.isObj = true
  properties : ∀ spec ∈ docs, ∀ e ∈ documentSchemas spec, declaredType e.2 = some "object" →
    ∀ v, e.2.get? "properties" = some v → ∃ props, v = .obj props ∧
      (props.map (Naming.fieldName ·.1)).Nodup ∧
      ∀ q ∈ props, FieldSchema q.1 (mapRefs (renameText (documentRenaming mappings spec)) q.2)
  required : ∀ spec ∈ docs, ∀ e ∈ documentSchemas spec, declaredType e.2 = some "object" →
    ∀ v, e.2.get? "required" = some v → ∃ xs, v = .arr xs
  items : ∀ spec ∈ docs, ∀ e ∈ documentSchemas spec, declaredType e.2 = some "array" →
    ∃ ifs, e.2.get? "items" = some (.obj ifs) ∧
      ∀ v, Json.lookup ifs "$ref" = some v → ∃ r, v = .str r ∧ ObjectRef mappings docs spec r
  answers : ∀ spec ∈ docs, ∀ d ∈ operationsOf spec, ∀ r, arrayAnswerRef d = some r →
    ObjectRef mappings docs spec r ∧
      let X := Naming.arrayModelName (buildName mappings spec (refName r))
      some "object" ∉ placedTypes mappings docs X ∧ Naming.ValidName (Naming.className X)
  valid : ∀ spec ∈ docs, ∀ e ∈ documentSchemas spec,
    declaredType e.2 = some "object" ∨ declaredType e.2 = some "array" →
      Naming.ValidName (Naming.className (buildName mappings spec e.1))

theorem placedTypes_mono {mappings : List (String × Json)} {docs specs : List Json}
    (hsub : ∀ s ∈ specs, s ∈ docs) {X : String} {t : Option String}
    (ht : t ∈ placedTypes mappings specs X) : t ∈ placedTypes mappings docs X := by
  obtain ⟨spec, hspec, he⟩ := mem_placedTypes.mp ht
  exact mem_placedTypes.mpr ⟨spec, hsub spec hspec, he⟩

theorem ObjectRef.mono {mappings : List (String × Json)} {docs specs : List Json}
    (hsub : ∀ s ∈ specs, s ∈ docs) {spec : Json} {r : String}
    (h : ObjectRef mappings docs spec r) : ObjectRef mappings specs spec r := by
  obtain ⟨N, hr, hplain, hkey, hobj⟩ := h
  exact ⟨N, hr, hplain, hkey, fun t ht => hobj t (placedTypes_mono hsub ht)⟩

/-- What holds of documents holds of some of them. -/
theorem DocumentsReady.mono {mappings : List (String × Json)} {docs specs : List Json}
    (h : DocumentsReady mappings docs) (hsub : ∀ s ∈ specs, s ∈ docs) :
    DocumentsReady mappings specs where
  settled spec hs := h.settled spec (hsub spec hs)
  objects spec hs := h.objects spec (hsub spec hs)
  properties spec hs := h.properties spec (hsub spec hs)
  required spec hs := h.required spec (hsub spec hs)
  items spec hs e he ha := by
    obtain ⟨ifs, hifs, hrefs⟩ := h.items spec (hsub spec hs) e he ha
    refine ⟨ifs, hifs, fun v hv => ?_⟩
    obtain ⟨r, rfl, href⟩ := hrefs v hv
    exact ⟨r, rfl, href.mono hsub⟩
  answers spec hs d hd r hr := by
    obtain ⟨href, hfree, hvalid⟩ := h.answers spec (hsub spec hs) d hd r hr
    exact ⟨href.mono hsub, fun ht => hfree (placedTypes_mono hsub ht), hvalid⟩
  valid spec hs := h.valid spec (hsub spec hs)

theorem slash_not_mem_className (s : String) : '/' ∉ (Naming.className s).toList := by
  have hcore : '/' ∉ (Naming.classCore s).toList := by
    rcases Naming.classCore_cases s with ⟨hsp, hc⟩ | halnum
    · intro h
      rw [hc] at h
      exact absurd (hsp _ h) (by decide)
    · exact fun h => absurd (halnum _ h) (by decide)
  rw [Naming.className_eq_guardName s "Model", Naming.guardName]
  split
  · simpa using hcore
  · exact hcore

theorem slash_not_mem_buildName {mappings : List (String × Json)} {spec : Json} {N : String}
    (hN : '/' ∉ N.toList) : '/' ∉ (buildName mappings spec N).toList := by
  unfold buildName renamedName
  cases hl : (documentRenaming mappings spec).lookup N with
  | none => exact hN
  | some n =>
    obtain ⟨l₁, l₂, hps, -⟩ := List.lookup_eq_some_iff.mp hl
    have hp : (N, n) ∈ documentRenaming mappings spec := by rw [hps]; simp
    unfold documentRenaming at hp
    split at hp
    · split at hp
      · obtain ⟨q, -, hq⟩ := List.mem_filterMap.mp hp
        obtain ⟨s, -, hs⟩ := Option.map_eq_some_iff.mp hq
        rw [Option.getD_some, ← (Prod.mk.inj hs).2]
        exact slash_not_mem_className s
      · cases hp
    · cases hp

theorem referencedName_schemaRef {X : String} (hX : '/' ∉ X.toList) :
    Typing.referencedName (schemaRef X) = Naming.className X :=
  congrArg Naming.className (refName_schemaRef hX)

theorem mem_setFields_of_not_mem_keys {ms fs : List (String × Json)} {k : String} {v : Json}
    (h : (k, v) ∈ ms) (hk : k ∉ fs.map (·.1)) : (k, v) ∈ Json.setFields ms fs := by
  induction fs generalizing ms with
  | nil => exact h
  | cons p fs ih =>
    have hne : p.1 ≠ k := fun hp => hk (hp ▸ List.mem_cons_self)
    refine ih ?_ fun hk' => hk (List.mem_cons_of_mem _ hk')
    show (k, v) ∈ Json.setField ms p.1 p.2
    unfold Json.setField
    split
    · exact List.mem_map.mpr ⟨(k, v), h, by simp [Ne.symm hne]⟩
    · exact List.mem_append_left _ h

theorem ItemsOk.mono {names names' : List String} {s : Json} (h : ItemsOk names s)
    (hsub : ∀ n ∈ names, n ∈ names') : ItemsOk names' s := by
  obtain ⟨ifs, hifs, hrefs⟩ := h
  refine ⟨ifs, hifs, fun v hv => ?_⟩
  obtain ⟨r, rfl, hr⟩ := hrefs v hv
  exact ⟨r, rfl, hsub _ hr⟩

theorem fieldSchema_mapRefMember {g : String → String} {k : String} {v : Json}
    (h : FieldSchema k (mapRefs g v)) : FieldSchema k (mapRefMember g k v) := by
  rcases mapRefMember_cases (f := g) k v with hv | ⟨-, hs⟩
  · rwa [hv]
  · have hobj := h.isObj
    rw [isObj_mapRefs] at hobj
    cases v <;> simp_all [Json.isObj, Json.isStr]

/-- The array model of a schema name: an array whose items refer to that schema. -/
def arrayModel (X : String) : String × Json :=
  (Naming.arrayModelName X,
    .obj [("type", .str "array"), ("items", .obj [("$ref", .str (schemaRef X))])])

/-- A combined schema name that an array model may be made of: it has no slash, only objects
are placed there, no object is placed at the name of its array model, and that name gives a
valid class name. -/
structure ArrayTarget (mappings : List (String × Json)) (specs : List Json) (c : Combined)
    (X : String) : Prop where
  plain : '/' ∉ X.toList
  mem : X ∈ c.components.map (·.1)
  objects : ∀ t ∈ placedTypes mappings specs X, t = some "object"
  free : some "object" ∉ placedTypes mappings specs (Naming.arrayModelName X)
  valid : Naming.ValidName (Naming.className (Naming.arrayModelName X))

section Processed

variable {mappings : List (String × Json)} {specs : List Json} {c : Combined}
  {arrays : List (String × Json)}
  (hm : MappingsReady mappings) (hready : DocumentsReady mappings specs)
  (hspecs : ∀ s ∈ specs, DocumentShape s) (hc : combine mappings specs [] = .ok c)
  (harr : arrayTypes (.obj c.paths) (.obj c.components) = .ok arrays)
include hm hready hspecs hc

/-- A combined schema is a schema of a document, under the name processing gives it, with its
references renamed. -/
theorem combined_source {p : String × Json} (hp : p ∈ c.components) :
    ∃ spec ∈ specs, ∃ N w, (N, w) ∈ documentSchemas spec ∧ p.1 = buildName mappings spec N ∧
      p.2 = mapRefs (renameText (documentRenaming mappings spec)) w := by
  obtain ⟨spec, hspec, he⟩ := (combine_gathers hm hspecs hc).1 p hp
  obtain ⟨N, w, hNw, h1, h2⟩ := mem_renamedSchemas (hready.settled spec hspec) he
  refine ⟨spec, hspec, N, w, hNw, h1, ?_⟩
  rw [h2, mapRefMember_of_isObj (hready.objects spec hspec _ hNw)]

theorem declaredType_mem_placedTypes {p : String × Json} (hp : p ∈ c.components) :
    declaredType p.2 ∈ placedTypes mappings specs p.1 := by
  obtain ⟨spec, hspec, N, w, hNw, h1, h2⟩ := combined_source hm hready hspecs hc hp
  rw [h2, declaredType_mapRefs]
  exact mem_placedTypes.mpr ⟨spec, hspec, (N, w), hNw, h1.symm, rfl⟩

/-- A reference to an object schema, once renamed, names a combined schema where only objects
are placed. -/
theorem ObjectRef.renamed {spec : Json} (hspec : spec ∈ specs) {r : String}
    (h : ObjectRef mappings specs spec r) :
    ∃ X, renameText (documentRenaming mappings spec) r = schemaRef X ∧ '/' ∉ X.toList ∧
      X ∈ c.components.map (·.1) ∧ ∀ t ∈ placedTypes mappings specs X, t = some "object" := by
  obtain ⟨N, rfl, hplain, hkey, hobj⟩ := h
  refine ⟨buildName mappings spec N, renameText_schemaRef _ hplain.1 hplain.2,
    slash_not_mem_buildName hplain.1, ?_, hobj⟩
  exact (combine_gathers hm hspecs hc).2.1 spec hspec _
    (buildName_mem_keys (hready.settled spec hspec) hkey)

include harr

/-- An array model is an array of a combined schema where only objects are placed, under a
name where no object is placed. -/
theorem arrayModel_ready {e : String × Json} (he : e ∈ arrays) :
    ∃ X, e = arrayModel X ∧ ArrayTarget mappings specs c X := by
  obtain ⟨spec, hspec, d, hd, r, hr, hholds, rfl⟩ := arrayModel_source hm hspecs hc harr e he
  obtain ⟨⟨N, rfl, hplain, -, hobj⟩, hfree, hvalid⟩ := hready.answers spec hspec d hd r hr
  rw [refName_schemaRef hplain.1] at hfree hvalid
  have hren : renameText (documentRenaming mappings spec) (schemaRef N) =
      schemaRef (buildName mappings spec N) := renameText_schemaRef _ hplain.1 hplain.2
  have hX : refName (schemaRef (buildName mappings spec N)) = buildName mappings spec N :=
    refName_schemaRef (slash_not_mem_buildName hplain.1)
  rw [hren, hX, holds?_obj, Except.ok.injEq, any_key_iff] at hholds
  exact ⟨buildName mappings spec N, by rw [hren, hX]; rfl,
    ⟨slash_not_mem_buildName hplain.1, hholds, hobj, hfree, hvalid⟩⟩

/-- A name where an object is placed is no name of an array model. -/
theorem not_mem_keys_arrays {X : String} (hX : some "object" ∈ placedTypes mappings specs X) :
    X ∉ arrays.map (·.1) := by
  intro hk
  obtain ⟨e, he, rfl⟩ := List.mem_map.mp hk
  obtain ⟨Y, rfl, hY⟩ := arrayModel_ready hm hready hspecs hc harr he
  exact hY.free hX

/-- A combined schema where only objects are placed stays an object once the array models are
set, so its class name is the name of an object model. -/
theorem className_mem_objectNames {X : String} (hX : X ∈ c.components.map (·.1))
    (hobj : ∀ t ∈ placedTypes mappings specs X, t = some "object") :
    Naming.className X ∈ objectNames (Json.setFields c.components arrays) := by
  obtain ⟨⟨X, v⟩, hXv, rfl⟩ := List.mem_map.mp hX
  have ht : declaredType v ∈ placedTypes mappings specs X :=
    declaredType_mem_placedTypes hm hready hspecs hc hXv
  have hv : declaredType v = some "object" := hobj _ ht
  rw [hv] at ht
  have hmem : (X, v) ∈ Json.setFields c.components arrays :=
    mem_setFields_of_not_mem_keys hXv (not_mem_keys_arrays hm hready hspecs hc harr ht)
  have hisObj : isObjectSchema (X, v) = true := by simp [isObjectSchema, hv]
  unfold objectNames
  exact List.mem_map_of_mem (List.mem_filter.mpr ⟨hmem, hisObj⟩)

/-- A processed schema is a renamed schema of a document or an array model. -/
theorem mem_processed {p : String × Json} (hp : p ∈ Json.setFields c.components arrays) :
    (∃ spec ∈ specs, ∃ N w, (N, w) ∈ documentSchemas spec ∧ p.1 = buildName mappings spec N ∧
      p.2 = mapRefs (renameText (documentRenaming mappings spec)) w) ∨
    ∃ X, p = arrayModel X ∧ ArrayTarget mappings specs c X :=
  (Json.mem_setFields hp).imp (combined_source hm hready hspecs hc)
    (arrayModel_ready hm hready hspecs hc harr)

/-- The items of a processed array schema refer to an object model. -/
theorem itemsOk_processed {p : String × Json} (hp : p ∈ Json.setFields c.components arrays)
    (harray : isArraySchema p = true) :
    ItemsOk (objectNames (Json.setFields c.components arrays)) p.2 := by
  rcases mem_processed hm hready hspecs hc harr hp with
    ⟨spec, hspec, N, w, hNw, -, h2⟩ | ⟨X, rfl, hX⟩
  · have hw : declaredType w = some "array" := by
      simpa [isArraySchema, h2, declaredType_mapRefs] using harray
    obtain ⟨ifs, hifs, hrefs⟩ := hready.items spec hspec _ hNw hw
    refine ⟨mapRefMembers (renameText (documentRenaming mappings spec)) ifs,
      by rw [h2, get?_mapRefs_of_ne w (by decide), hifs]; rfl, fun v hv => ?_⟩
    rw [mapRefMembers_eq_map, Json.lookup_map_members] at hv
    obtain ⟨v0, hv0, rfl⟩ := Option.map_eq_some_iff.mp hv
    obtain ⟨r, rfl, href⟩ := hrefs v0 hv0
    obtain ⟨X, hren, hslash, hX, hobj⟩ := href.renamed hm hready hspecs hc hspec
    refine ⟨schemaRef X, by rw [← hren]; rfl, ?_⟩
    rw [referencedName_schemaRef hslash]
    exact className_mem_objectNames hm hready hspecs hc harr hX hobj
  · refine ⟨[("$ref", .str (schemaRef X))], rfl, fun v hv => ⟨schemaRef X, ?_, ?_⟩⟩
    · simpa [Json.lookup] using hv.symm
    · rw [referencedName_schemaRef hX.plain]
      exact className_mem_objectNames hm hready hspecs hc harr hX.mem hX.objects

/-- A member other than a reference of a processed object schema is that member of an object
schema of a document, renamed. -/
theorem get?_processed_object {p : String × Json} (hp : p ∈ Json.setFields c.components arrays)
    (hobj : isObjectSchema p = true) {k : String} (hk : k ≠ "$ref") {v : Json}
    (hv : p.2.get? k = some v) :
    ∃ spec ∈ specs, ∃ N w, (N, w) ∈ documentSchemas spec ∧ declaredType w = some "object" ∧
      ∃ v0, w.get? k = some v0 ∧ v = mapRefs (renameText (documentRenaming mappings spec)) v0 := by
  rcases mem_processed hm hready hspecs hc harr hp with
    ⟨spec, hspec, N, w, hNw, -, h2⟩ | ⟨X, rfl, -⟩
  · have hw : declaredType w = some "object" := by
      simpa [isObjectSchema, h2, declaredType_mapRefs] using hobj
    rw [h2, get?_mapRefs_of_ne w hk] at hv
    obtain ⟨v0, hv0, rfl⟩ := Option.map_eq_some_iff.mp hv
    exact ⟨spec, hspec, N, w, hNw, hw, v0, hv0, rfl⟩
  · simp [arrayModel, isObjectSchema, declaredType, Json.get?, Json.lookup, Json.str?] at hobj

/-- The combined schemas with the array models set are ready to be generated. -/
theorem schemasReady_processed : SchemasReady (Json.setFields c.components arrays) where
  schemas p hp := by
    rcases mem_processed hm hready hspecs hc harr hp with
      ⟨spec, hspec, N, w, hNw, -, h2⟩ | ⟨X, rfl, -⟩
    · rw [h2, isObj_mapRefs]
      exact hready.objects spec hspec _ hNw
    · rfl
  properties p hp hobj v hv := by
    obtain ⟨spec, hspec, N, w, hNw, hw, pv, hpv, rfl⟩ :=
      get?_processed_object hm hready hspecs hc harr hp hobj (by decide) hv
    obtain ⟨props, rfl, hnodup, hfields⟩ := hready.properties spec hspec _ hNw hw pv hpv
    refine (propertiesOk_iff _).mpr ⟨_, rfl, ?_, fun q hq => ?_⟩
    · rw [mapRefMembers_eq_map, List.map_map]
      exact hnodup
    · rw [mapRefMembers_eq_map] at hq
      obtain ⟨q0, hq0, rfl⟩ := List.mem_map.mp hq
      exact fieldSchema_mapRefMember (hfields q0 hq0)
  required p hp hobj v hv := by
    obtain ⟨spec, hspec, N, w, hNw, hw, rv, hrv, rfl⟩ :=
      get?_processed_object hm hready hspecs hc harr hp hobj (by decide) hv
    obtain ⟨xs, rfl⟩ := hready.required spec hspec _ hNw hw rv hrv
    exact ⟨_, rfl⟩
  items pre p post hcs harray := by
    have hp : p ∈ Json.setFields c.components arrays := by
      rw [hcs]
      exact List.mem_append_right pre List.mem_cons_self
    exact ItemsOk.mono (itemsOk_processed hm hready hspecs hc harr hp harray)
      fun n hn => List.mem_append_left _ hn
  valid n hn := by
    obtain ⟨p, hp, hkind, rfl⟩ : ∃ p ∈ Json.setFields c.components arrays,
        (isObjectSchema p = true ∨ isArraySchema p = true) ∧ Naming.className p.1 = n := by
      simp only [objectNames, arrayNames, List.mem_append, List.mem_map, List.mem_filter] at hn
      rcases hn with ⟨p, ⟨hp, hk⟩, rfl⟩ | ⟨p, ⟨hp, hk⟩, rfl⟩
      exacts [⟨p, hp, .inl hk, rfl⟩, ⟨p, hp, .inr hk, rfl⟩]
    rcases mem_processed hm hready hspecs hc harr hp with
      ⟨spec, hspec, N, w, hNw, h1, h2⟩ | ⟨X, rfl, hX⟩
    · rw [h1]
      refine hready.valid spec hspec (N, w) hNw ?_
      simpa [isObjectSchema, isArraySchema, h2, declaredType_mapRefs] using hkind
    · exact hX.valid

end Processed

/-- Processing documents that are ready gives schemas that are ready to be generated. -/
theorem processSpecs_schemasReady {mappings : List (String × Json)} (hm : MappingsReady mappings)
    {files : List (String × FolderEntry)}
    (hshape : ∀ f ∈ files, ∀ spec, loadSpec f.1 f.2 = some spec → DocumentShape spec)
    (hready : DocumentsReady mappings (files.filterMap fun f => loadSpec f.1 f.2))
    {p : Processed} (hp : processSpecs mappings files = .ok p) :
    SchemasReady p.combined.components := by
  simp only [processSpecs, bind_eq_ok, pure_eq_ok] at hp
  obtain ⟨-, -, c, hc, arrays, harr, rfl⟩ := hp
  have hsub : ∀ s ∈ (files.mergeSort fun a b => a.1 ≤ b.1).filterMap (fun f => loadSpec f.1 f.2),
      s ∈ files.filterMap fun f => loadSpec f.1 f.2 := by
    intro s hs
    obtain ⟨f, hf, hload⟩ := List.mem_filterMap.mp hs
    exact List.mem_filterMap.mpr ⟨f, List.mem_mergeSort.mp hf, hload⟩
  have hspecs : ∀ s ∈ files.filterMap (fun f => loadSpec f.1 f.2), DocumentShape s := by
    intro s hs
    obtain ⟨f, hf, hload⟩ := List.mem_filterMap.mp hs
    exact hshape f hf s hload
  exact schemasReady_processed hm (hready.mono hsub) (fun s hs => hspecs s (hsub s hs)) hc harr

end TransitKit.Spec
