import Mathlib
import TransitKit.Proofs.ClassNames
import TransitKit.Proofs.ResponseModels
import TransitKit.Proofs.UrlSplitting

/-!
# Signatures of client methods

Each operation becomes a method whose signature declares `self` and one parameter per parameter
of the operation under its code name, the required ones first, and whose body sends the path
parameters by position and the query parameters by name. On an operation of the shape OpenAPI
gives, the method is written without failure. Its names are distinct and differ from `self`
exactly when the operation's are and no name clashes with a reserved word's code name; a name
the path and the query share is declared twice.
-/

namespace TransitKit.Naming

theorem isReserved_append_field (k : String) : isReserved (k ++ "_field") = false :=
  @isReserved_eq_false _ '_' (by simp) (by decide)

/-- Two names have one code name exactly when they are equal, or one is a reserved word and
the other is that word followed by `_field`. -/
theorem fieldName_eq_iff {a b : String} :
    fieldName a = fieldName b ↔
      a = b ∨ (isReserved a = true ∧ b = a ++ "_field") ∨
        (isReserved b = true ∧ a = b ++ "_field") := by
  unfold fieldName
  cases ha : isReserved a <;> cases hb : isReserved b
  · simp
  · constructor
    · rintro rfl
      exact .inr (.inr ⟨rfl, rfl⟩)
    · rintro (rfl | ⟨h, -⟩ | ⟨-, rfl⟩)
      · simp [ha] at hb
      · cases h
      · rfl
  · constructor
    · rintro rfl
      exact .inr (.inl ⟨rfl, rfl⟩)
    · rintro (rfl | ⟨-, rfl⟩ | ⟨h, -⟩)
      · simp [ha] at hb
      · rfl
      · cases h
  · simp only [String.append_left_inj, if_true, true_and]
    constructor
    · exact .inl
    · rintro (h | rfl | rfl)
      · exact h
      · simp [isReserved_append_field] at hb
      · simp [isReserved_append_field] at ha

/-- Code names are distinct exactly when the names are, and no name is a reserved word
followed by `_field` beside that word. -/
theorem nodup_map_fieldName_iff {names : List String} :
    (names.map fieldName).Nodup ↔
      names.Nodup ∧ ∀ k ∈ names, isReserved k = true → k ++ "_field" ∉ names := by
  constructor
  · intro h
    refine ⟨h.of_map _, fun k hk hres hfield => ?_⟩
    have hsame : fieldName k = fieldName (k ++ "_field") :=
      fieldName_eq_iff.mpr (.inr (.inl ⟨hres, rfl⟩))
    have hk := List.inj_on_of_nodup_map h hk hfield hsame
    have hlen := congrArg String.length hk
    simp at hlen
  · rintro ⟨hnodup, hfree⟩
    refine hnodup.map_on fun x hx y hy hxy => ?_
    rcases fieldName_eq_iff.mp hxy with h | ⟨hres, rfl⟩ | ⟨hres, rfl⟩
    · exact h
    · exact absurd hy (hfree x hx hres)
    · exact absurd hx (hfree y hy hres)

/-- Only `self` has the code name `self`. -/
theorem fieldName_eq_self_iff {a : String} : fieldName a = "self" ↔ a = "self" := by
  have hself : isReserved "self" = false := by decide
  constructor
  · unfold fieldName
    split
    · intro h
      have hlen := congrArg String.length h
      have hfield : "_field".length = 6 := by decide
      have hfour : "self".length = 4 := by decide
      rw [String.length_append] at hlen
      omega
    · exact id
  · rintro rfl
    simp [fieldName, hself]

end TransitKit.Naming

namespace TransitKit.Json

variable {j : Json} {k : String}

theorem getOr?_obj (fs : List (String × Json)) (k : String) (d : Json) :
    (Json.obj fs).getOr? k d = .ok (((Json.obj fs).get? k).getD d) := rfl

theorem holds?_of_get?_none {fs : List (String × Json)} (h : (Json.obj fs).get? k = none) :
    (Json.obj fs).holds? k = .ok false := by
  simp only [get?, lookup, Option.map_eq_none_iff, List.find?_eq_none] at h
  simpa [holds?] using h

theorem index?_of_getD (h : ∃ v, j.get? k = some v) : ∃ v, j.index? k = .ok v := by
  obtain ⟨v, hv⟩ := h
  exact ⟨v, index?_of_get? hv⟩

end TransitKit.Json

namespace TransitKit.Codegen

open Naming Typing

/-! ### The model of a response -/

/-- A member that satisfies `P` when it is present. -/
def MemberIs (P : Json → Prop) (j : Json) (k : String) : Prop := ∀ v, j.get? k = some v → P v

/-- An object whose `$ref`, when it is true, is a text. -/
def RefShape (s : Json) : Prop :=
  s.isObj = true ∧ MemberIs (fun r => r.truthy = true → r.isStr = true) s "$ref"

/-- A schema as a response may hold it: its `$ref` and the `$ref` of its `items` are texts. -/
def SchemaShape (s : Json) : Prop := RefShape s ∧ MemberIs RefShape s "items"

/-- A response of the shape OpenAPI gives it: an object whose `content`, when present, is an
object whose JSON media type, when present, is an object whose `schema`, when present, is a
schema of that shape. -/
def ResponseShape (r : Json) : Prop :=
  r.isObj = true ∧
    MemberIs (fun c => c.isObj = true ∧
      MemberIs (fun m => m.isObj = true ∧ MemberIs SchemaShape m "schema") c "application/json")
      r "content"

theorem exists_obj {j : Json} (h : j.isObj = true) : ∃ fs, j = .obj fs := by
  cases j <;> simp_all [Json.isObj]

/-- A reference of the shape OpenAPI gives it: the generic model when it is false, and
otherwise a text. -/
theorem refShape_cases {s : Json} (h : RefShape s) :
    ∃ r, s.getOr? "$ref" (.str "") = .ok r ∧ (r.truthy = false ∨ ∃ t, r = .str t) := by
  obtain ⟨fs, rfl⟩ := exists_obj h.1
  refine ⟨_, Json.getOr?_obj fs "$ref" _, ?_⟩
  cases htr : (((Json.obj fs).get? "$ref").getD (.str "")).truthy
  · exact .inl rfl
  · right
    cases hr : (Json.obj fs).get? "$ref" with
    | none => simp [hr, Json.truthy] at htr
    | some r =>
      rw [hr] at htr
      have hs := h.2 r hr htr
      cases r <;> simp_all [Json.isStr]

/-- The model of a response of the shape OpenAPI gives it is read without failure. -/
theorem modelNameOfResponse_ok {r : Json} (hr : ResponseShape r) (onlyArrays : Bool)
    (renamed : List (String × Json)) : ∃ m, modelNameOfResponse r onlyArrays renamed = .ok m := by
  obtain ⟨fs, rfl⟩ := exists_obj hr.1
  unfold modelNameOfResponse
  cases hc : (Json.obj fs).get? "content" with
  | none => simp [Json.holds?_of_get?_none hc]
  | some c =>
    obtain ⟨hcobj, hjson⟩ := hr.2 c hc
    obtain ⟨cs, rfl⟩ := exists_obj hcobj
    cases hm : (Json.obj cs).get? "application/json" with
    | none =>
      simp [Json.truthy_of_get? hc, Json.holds?_of_get? hc, Json.index?_of_get? hc,
        Json.holds?_of_get?_none hm]
    | some m =>
      obtain ⟨hmobj, hschema⟩ := hjson m hm
      obtain ⟨ms, rfl⟩ := exists_obj hmobj
      cases hs : (Json.obj ms).get? "schema" with
      | none =>
        simp [Json.truthy_of_get? hc, Json.holds?_of_get? hc, Json.index?_of_get? hc,
          Json.holds?_of_get? hm, Json.index?_of_get? hm, Json.holds?_of_get?_none hs]
      | some s =>
        obtain ⟨hshape, hitems⟩ := hschema s hs
        obtain ⟨ss, rfl⟩ := exists_obj hshape.1
        simp only [Json.truthy_of_get? hc, Json.holds?_of_get? hc, Json.index?_of_get? hc,
          Json.holds?_of_get? hm, Json.index?_of_get? hm, Json.holds?_of_get? hs,
          Json.index?_of_get? hs, Json.getOr?_obj ss "type", ok_bind, Bool.not_true,
          Bool.false_eq_true, if_false]
        split
        · have hitemsShape : RefShape (((Json.obj ss).get? "items").getD (.obj [])) := by
            cases hi : (Json.obj ss).get? "items" with
            | none => exact ⟨rfl, fun v hv => by simp [Json.get?, Json.lookup] at hv⟩
            | some i => exact hitems i hi
          obtain ⟨ref, href, hcases⟩ := refShape_cases hitemsShape
          rw [Json.getOr?_obj ss "items", ok_bind, href, ok_bind]
          rcases hcases with hfalse | ⟨t, rfl⟩
          · simp [hfalse]
          · by_cases ht : (Json.str t).truthy = true <;> simp [ht]
        · split
          · obtain ⟨ref, href, hcases⟩ := refShape_cases hshape
            rw [href, ok_bind]
            rcases hcases with hfalse | ⟨t, rfl⟩
            · simp [hfalse]
            · by_cases ht : (Json.str t).truthy = true <;> simp [ht]
          · exact ⟨_, rfl⟩

/-! ### Parameters -/

/-- A parameter of an operation as the generator reads it: its name, where it is sent, whether
it is required, and the class of its schema type. -/
structure ParamView where
  name : String
  place : String
  required : Bool
  cls : TypeClass

/-- The parameter object `p` of a document describes `v`: it has a text name and place, a
schema with a text type of class `v.cls`, a text description when it has one, and a
`required` member whose truth is `v.required`. -/
structure ParamView.Reads (v : ParamView) (p : Json) : Prop where
  obj : p.isObj = true
  name : p.get? "name" = some (.str v.name)
  place : p.get? "in" = some (.str v.place)
  required : (p.getD "required" (.bool false)).truthy = v.required
  schema : ∃ s t, p.get? "schema" = some s ∧ s.isObj = true ∧ s.get? "type" = some (.str t) ∧
    openApiClass? (.str t) = .ok v.cls
  description : MemberIs (·.isStr = true) p "description"

/-- The declaration of a parameter in a signature: its code name and class, and the default
`None` when it is optional. -/
def ParamView.declaration (v : ParamView) : String :=
  if v.required then fieldName v.name ++ ": " ++ v.cls.name
  else fieldName v.name ++ ": " ++ v.cls.name ++ " | None = None"

/-- The parameters in the order a signature declares them: the required ones, then the others,
each in the order of the document. -/
def signatureOrder (vs : List ParamView) : List ParamView :=
  vs.filter (·.required) ++ vs.filter (!·.required)

/-- A signature declares every parameter once. -/
theorem signatureOrder_perm (vs : List ParamView) : (signatureOrder vs).Perm vs :=
  List.filter_append_perm _ vs

/-- A signature declares every required parameter before every optional one. -/
theorem signatureOrder_required_first (vs : List ParamView) :
    (signatureOrder vs).Pairwise fun x y => y.required = true → x.required = true := by
  unfold signatureOrder
  rw [List.pairwise_append]
  refine ⟨?_, ?_, ?_⟩
  · exact List.Pairwise.imp_of_mem (fun hx _ _ _ => (List.mem_filter.mp hx).2)
      (List.pairwise_of_forall fun _ _ => trivial)
  · exact List.Pairwise.imp_of_mem
      (fun _ hy _ hyr => absurd hyr (by simpa using (List.mem_filter.mp hy).2))
      (List.pairwise_of_forall fun _ _ => trivial)
  · intro x hx y hy hyr
    simp_all

section Reads

variable {v : ParamView} {p : Json}

theorem ParamView.Reads.isRequired (h : v.Reads p) : isRequired p = .ok v.required := by
  obtain ⟨fs, rfl⟩ := exists_obj h.obj
  rw [← h.required]
  rfl

theorem ParamView.Reads.parameterClass (h : v.Reads p) : parameterClass p = .ok v.cls := by
  obtain ⟨s, t, hs, -, ht, hcls⟩ := h.schema
  simp [Codegen.parameterClass, Json.index?_of_get? hs, Json.index?_of_get? ht, hcls]

/-- A member that is a text when present reads, with a text default, as a text. -/
theorem MemberIs.getD_str {j : Json} {k : String} (h : MemberIs (·.isStr = true) j k)
    (t : String) : ∃ s, (j.get? k).getD (.str t) = .str s := by
  cases hk : j.get? k with
  | none => exact ⟨t, rfl⟩
  | some d =>
    have hd : d.isStr = true := h d hk
    cases d <;> simp_all [Json.isStr]

theorem ParamView.Reads.codeName (h : v.Reads p) :
    (p.index? "name" >>= codeName?) = .ok (.str (fieldName v.name)) := by
  rw [Json.index?_of_get? h.name]
  rfl

theorem ParamView.Reads.parameterLine (h : v.Reads p) : ∃ line, parameterLine p = .ok line := by
  obtain ⟨fs, rfl⟩ := exists_obj h.obj
  obtain ⟨d, hd⟩ := h.description.getD_str ""
  unfold Codegen.parameterLine
  simp only [Json.index?_of_get? h.name, ok_bind, codeName?, h.parameterClass, Json.getOr?_obj,
    hd]
  exact ⟨_, rfl⟩

end Reads

/-- A map that reads each item of a document as the view it describes succeeds, with the
items paired with their views. -/
theorem mapM_of_forall₂ {α β γ : Type} {R : α → β → Prop} {f : β → Outcome γ} {g : α → β → γ}
    (hf : ∀ a b, R a b → f b = .ok (g a b)) :
    ∀ {as : List α} {bs : List β}, List.Forall₂ R as bs →
      bs.mapM f = .ok ((as.zip bs).map fun q => g q.1 q.2)
  | _, _, .nil => rfl
  | _, _, .cons hab hrest => by
    rw [List.mapM_cons, hf _ _ hab, mapM_of_forall₂ hf hrest]
    rfl

/-- The views of the items kept by a filter on the views. -/
theorem map_fst_filter_zip {α β : Type} {R : α → β → Prop} {as : List α} {bs : List β}
    (h : List.Forall₂ R as bs) (P : α → Bool) :
    ((as.zip bs).filter fun q => P q.1).map Prod.fst = as.filter P := by
  conv_rhs => rw [← @List.map_fst_zip _ _ as bs (le_of_eq h.length_eq)]
  rw [List.filter_map]
  rfl

variable {vs : List ParamView} {ps : List Json}

/-- The parameters of a signature are the declarations of the parameters, required ones
first. -/
theorem functionParameters_eq (h : List.Forall₂ ParamView.Reads vs ps) :
    functionParameters ps =
      .ok (", ".intercalate ((signatureOrder vs).map ParamView.declaration)) := by
  have hmem : ∀ q ∈ vs.zip ps, q.1.Reads q.2 := fun q hq =>
    (List.forall₂_iff_zip.mp h).2 hq
  unfold functionParameters
  rw [mapM_of_forall₂ (fun v p hr => by rw [hr.isRequired]; rfl) h, ok_bind,
    List.filter_map, List.filter_map, ← List.map_append]
  dsimp only
  rw [List.mapM_map, @mapM_eq_ok_map _ _ _ _ (fun q => q.1.declaration) _ ?_]
  · simp only [ok_bind, pure_eq_ok, List.map_append]
    rw [signatureOrder, List.map_append, ← map_fst_filter_zip h (·.required),
      ← map_fst_filter_zip h (!·.required), List.map_map, List.map_map]
    rfl
  · intro q hq
    have hq' : q ∈ vs.zip ps := by
      simp only [List.mem_append, List.mem_filter] at hq
      rcases hq with ⟨hq, -⟩ | ⟨hq, -⟩ <;> exact hq
    have hr := hmem q hq'
    simp only [Function.comp, Json.index?_of_get? hr.name, ok_bind, hr.parameterClass]
    simp only [codeName?, ok_bind, Json.text, ParamView.declaration]
    split <;> rfl

/-! ### The body of a method -/

/-- The arguments with which a method sends its request: the code names of the path parameters
as positional values, when there are any, and each query parameter under its own name. -/
def callArguments (vs : List ParamView) : String :=
  let path := (vs.filter (·.place == "path")).map fun v => fieldName v.name
  let query := (vs.filter (·.place == "query")).map fun v =>
    "'" ++ v.name ++ "': " ++ fieldName v.name
  (if path.isEmpty then "" else "params=[" ++ ", ".intercalate path ++ "], ") ++
    if query.isEmpty then "endpoint_args=None"
    else "endpoint_args=\x7b " ++ ", ".intercalate query ++ " \x7d"

/-- The body of the method of an operation: one call that sends the request. -/
def methodBody (opId : String) (vs : List ParamView) (awaited : Bool) : String :=
  "        return " ++ (if awaited then "await " else "") ++
    "self._send_request_and_deserialize(base_url, endpoints['" ++ opId ++ "'], " ++
    callArguments vs ++ ")\n\n"

/-- The names of the parameters sent in a place, in order. -/
theorem parametersIn_eq (h : List.Forall₂ ParamView.Reads vs ps) (place : String) :
    parametersIn ps place = .ok ((vs.filter (·.place == place)).map fun v => .str v.name) := by
  unfold parametersIn
  induction h with
  | nil => rfl
  | @cons v p vs ps hr _ ih =>
    rw [List.filterMapM_cons, ih]
    simp only [Json.index?_of_get? hr.place, Json.index?_of_get? hr.name, ok_bind, Json.str?]
    by_cases hp : v.place = place
    · simp [hp]
    · simp [hp]

/-- Texts joined by a separator make an empty text only when there are none, if none of them
is empty. -/
theorem intercalate_isEmpty {sep : String} {xs : List String} (h : ∀ x ∈ xs, x ≠ "") :
    (sep.intercalate xs).isEmpty = xs.isEmpty := by
  cases xs with
  | nil => rfl
  | cons x rest =>
    have hx : x.toList ≠ [] := by simpa using h x List.mem_cons_self
    have hne : (sep.intercalate (x :: rest)).toList ≠ [] := by
      rw [String.toList_intercalate, List.map_cons]
      cases rest with
      | nil => simpa using hx
      | cons y ys =>
        rw [List.map_cons, List.intercalate_cons_cons]
        simp [hx]
    simpa [String.isEmpty_iff, ← String.toList_inj] using hne

/-- Joining texts as names joins the texts. -/
theorem joinNames_map {α : Type} (f : α → String) (xs : List α) :
    joinNames (xs.map fun x => .str (f x)) = .ok (", ".intercalate (xs.map f)) := by
  unfold joinNames
  rw [List.mapM_map, mapM_eq_ok_map (g := f) ?_]
  · rfl
  · exact fun _ _ => rfl

/-- The body of a method calls the endpoint with the code names of its path parameters as
positional values and its query parameters under their names. -/
theorem methodImplementation_eq (h : List.Forall₂ ParamView.Reads vs ps) (opId : String)
    (awaited : Bool) : methodImplementation opId ps awaited = .ok (methodBody opId vs awaited) := by
  unfold methodImplementation classifyParameters
  simp only [parametersIn_eq h, ok_bind, pure_bind]
  rw [List.mapM_map, mapM_eq_ok_map (g := fun v => .str (fieldName v.name)) ?_, ok_bind,
    joinNames_map, ok_bind, List.mapM_map,
    mapM_eq_ok_map (g := fun v => "'" ++ v.name ++ "': " ++ fieldName v.name) ?_, ok_bind]
  · rw [intercalate_isEmpty fun _ hx => ?_]
    · unfold methodBody callArguments
      dsimp only
      simp only [List.isEmpty_map]
      split
      · simp only [pure, Except.pure, String.empty_append]
      · simp only [pure, Except.pure, String.append_assoc]
    · obtain ⟨v, -, rfl⟩ := List.mem_map.1 hx
      simp only [Ne, String.append_eq_empty_iff]
      exact fun h => absurd h.1.1.1 (by decide)
  all_goals exact fun _ _ => rfl

/-- Each item of the second list is related to some item of the first. -/
theorem exists_left_of_mem {α β : Type} {R : α → β → Prop} :
    ∀ {as : List α} {bs : List β}, List.Forall₂ R as bs → ∀ b ∈ bs, ∃ a, R a b
  | _, _, .nil => fun _ hb => absurd hb List.not_mem_nil
  | _, _, .cons hab hrest => fun b hb => by
    rcases List.mem_cons.1 hb with rfl | hb
    · exact ⟨_, hab⟩
    · exact exists_left_of_mem hrest b hb

/-! ### Docstring and path -/

/-- The docstring of a method is written whenever the description of the operation and the
lines of its parameters are. -/
theorem methodDocstring_ok {details : Json} (hobj : details.isObj = true)
    (hdesc : MemberIs (·.isStr = true) details "description")
    (hps : ∀ p ∈ ps, ∃ line, parameterLine p = .ok line) (fullPath model : String) :
    ∃ doc, methodDocstring details fullPath model ps = .ok doc := by
  obtain ⟨fs, rfl⟩ := exists_obj hobj
  obtain ⟨d, hd⟩ := hdesc.getD_str "No description in the OpenAPI spec."
  obtain ⟨lines, hlines⟩ := exists_mapM_eq_ok hps
  unfold methodDocstring
  simp only [Json.getOr?_obj, hd, ok_bind, hlines]
  split <;> exact ⟨_, rfl⟩

/-- Two path pieces without square brackets are always joined. -/
theorem joinApiPath_of_bracketFree {apiPath path : String}
    (hapi : Url.BracketFree apiPath.toList) (hpath : Url.BracketFree path.toList) :
    ∃ full, joinApiPath apiPath (.str path) = .ok full := by
  obtain ⟨full, hfull⟩ := Option.isSome_iff_exists.1 (Url.joinPaths?_isSome hapi hpath)
  exact ⟨full, by simp [joinApiPath, hfull]⟩

/-! ### The signature -/

/-- The signature of the method of an operation: `self`, then the declarations of its
parameters, the required ones first, and the response model. -/
def signatureText (opId : String) (vs : List ParamView) (model : String) (awaited : Bool) :
    String :=
  (if awaited then "    async def " else "    def ") ++ operationName opId "Query" ++ "(self, " ++
    ", ".intercalate ((signatureOrder vs).map ParamView.declaration) ++
    ") -> ResponseModel[" ++ model ++ "] | ApiError:\n"

/-- The names a signature declares after `self`, in order. -/
def declaredNames (vs : List ParamView) : List String :=
  (signatureOrder vs).map fun v => fieldName v.name

theorem methodSignature_eq (h : List.Forall₂ ParamView.Reads vs ps) (opId model : String)
    (awaited : Bool) :
    methodSignature opId ps model awaited = .ok (signatureText opId vs model awaited) := by
  unfold methodSignature
  rw [functionParameters_eq h]
  rfl

/-- Parameter names that a signature can declare beside `self`: distinct, none of them `self`,
and none a reserved word that also stands followed by `_field`. -/
def Declarable (names : List String) : Prop :=
  names.Nodup ∧ "self" ∉ names ∧ ∀ k ∈ names, isReserved k = true → k ++ "_field" ∉ names

instance (names : List String) : Decidable (Declarable names) :=
  inferInstanceAs (Decidable (_ ∧ _ ∧ _))

/-- The declared names are distinct and differ from `self` exactly when the parameter names
are declarable. -/
theorem declaredNames_distinct_iff (vs : List ParamView) :
    ((declaredNames vs).Nodup ∧ "self" ∉ declaredNames vs) ↔ Declarable (vs.map (·.name)) := by
  have hperm : (declaredNames vs).Perm ((vs.map (·.name)).map fieldName) := by
    rw [declaredNames, List.map_map]
    exact (signatureOrder_perm vs).map _
  have hself : "self" ∈ (vs.map (·.name)).map fieldName ↔ "self" ∈ vs.map (·.name) := by
    rw [List.mem_map]
    simp only [fieldName_eq_self_iff, exists_eq_right]
  rw [hperm.nodup_iff, hperm.mem_iff, nodup_map_fieldName_iff, hself, Declarable]
  tauto

/-! ### The method of an operation -/

/-- An operation as the generator reads it: its identifier and its parameters. -/
structure OperationView where
  id : String
  params : List ParamView

/-- The operation object `details` describes `op`: it has a non-empty text identifier, its
parameters (none when the member is absent) describe those of `op`, its description is a text
when present, and its responses are an object whose 200 response, when present, has the shape
OpenAPI gives it. -/
structure OperationView.Reads (op : OperationView) (details : Json) : Prop where
  obj : details.isObj = true
  operationId : details.get? "operationId" = some (.str op.id)
  named : op.id ≠ ""
  parameters : ∃ ps, details.getD "parameters" (.arr []) = .arr ps ∧
    List.Forall₂ ParamView.Reads op.params ps
  description : MemberIs (·.isStr = true) details "description"
  responses : ∃ rs, details.get? "responses" = some rs ∧ rs.isObj = true ∧
    ResponseShape (rs.getD "200" (.obj []))

/-- The method of an operation is its signature, a docstring and the body that sends the
request. -/
theorem renderOperation_eq {op : OperationView} {details : Json} (hop : op.Reads details)
    {path apiPath : String} (hpath : Url.BracketFree path.toList)
    (hapi : Url.BracketFree apiPath.toList) (awaited : Bool) (renamed : List (String × Json))
    (uses : Uses) :
    ∃ model doc uses', renderOperation (.str path) details apiPath awaited renamed uses =
      .ok (signatureText op.id op.params model awaited ++ doc ++ methodBody op.id op.params awaited,
        uses') := by
  obtain ⟨fs, rfl⟩ := exists_obj hop.obj
  obtain ⟨ps, hps, hreads⟩ := hop.parameters
  obtain ⟨rs, hrs, hrsObj, hshape⟩ := hop.responses
  obtain ⟨rsf, rfl⟩ := exists_obj hrsObj
  obtain ⟨model, hmodel⟩ := modelNameOfResponse_ok hshape false renamed
  obtain ⟨full, hfull⟩ := joinApiPath_of_bracketFree hapi hpath
  obtain ⟨doc, hdoc⟩ := methodDocstring_ok hop.obj hop.description
    (fun p hp => (exists_left_of_mem hreads p hp).elim fun _ hr => hr.parameterLine) full model
  have hnamed : (Json.str op.id).truthy = true := by
    simpa [Json.truthy, String.isEmpty_iff] using hop.named
  refine ⟨model, doc, ?_⟩
  unfold Json.getD at hps hmodel
  unfold renderOperation
  simp only [Json.getOr?_obj, hop.operationId, Option.getD_some, ok_bind, hnamed, Bool.not_true,
    Bool.false_eq_true, if_false, hps, Json.iterItems?,
    mapM_of_forall₂ (fun _ _ h => h.parameterClass) hreads, Json.index?_of_get? hrs, hmodel,
    hfull, methodSignature_eq hreads, hdoc, methodImplementation_eq hreads]
  exact ⟨_, rfl⟩

/-- The method of an operation read from a document declares `self` and then each parameter
once, under its code name and the required ones first, and sends the path parameters as
positional values and the query parameters under their names; the names it declares are
distinct and differ from `self` exactly when the parameter names are declarable. -/
theorem renderOperation_declares {op : OperationView} {details : Json} (hop : op.Reads details)
    {path apiPath : String} (hpath : Url.BracketFree path.toList)
    (hapi : Url.BracketFree apiPath.toList) (awaited : Bool) (renamed : List (String × Json))
    (uses : Uses) :
    (∃ model doc uses', renderOperation (.str path) details apiPath awaited renamed uses =
      .ok (signatureText op.id op.params model awaited ++ doc ++ methodBody op.id op.params awaited,
        uses')) ∧
    (signatureOrder op.params).Perm op.params ∧
    (signatureOrder op.params).Pairwise (fun x y => y.required = true → x.required = true) ∧
    (((declaredNames op.params).Nodup ∧ "self" ∉ declaredNames op.params) ↔
      Declarable (op.params.map (·.name))) :=
  ⟨renderOperation_eq hop hpath hapi awaited renamed uses, signatureOrder_perm _,
    signatureOrder_required_first _, declaredNames_distinct_iff _⟩

/-- A parameter object with a text schema type. -/
def textParameter (name place : String) (required : Bool) : Json :=
  .obj [("name", .str name), ("in", .str place), ("required", .bool required),
    ("schema", .obj [("type", .str "string")])]

theorem textParameter_reads (name place : String) (required : Bool) :
    ParamView.Reads ⟨name, place, required, .builtin "str"⟩ (textParameter name place required) :=
  ⟨rfl, rfl, rfl, by cases required <;> rfl, ⟨_, "string", rfl, rfl, rfl, rfl⟩,
    fun _ h => by simp [textParameter, Json.get?, Json.lookup] at h⟩

/-- An operation with a required path parameter `id` and an optional query parameter `mode`. -/
def lineGetDetails : Json :=
  .obj [("operationId", .str "Line_Get"),
    ("parameters", .arr [textParameter "id" "path" true, textParameter "mode" "query" false]),
    ("responses", .obj [("200", .obj [])])]

/-- The view of `lineGetDetails`. -/
def lineGetView : OperationView :=
  ⟨"Line_Get", [⟨"id", "path", true, .builtin "str"⟩, ⟨"mode", "query", false, .builtin "str"⟩]⟩

theorem lineGet_declares :
    (lineGetView.Reads lineGetDetails ∧ Url.BracketFree "/Line/{id}".toList ∧
      Url.BracketFree "/Line".toList) ∧
    (∃ model doc uses', renderOperation (.str "/Line/{id}") lineGetDetails "/Line" false [] {} =
      .ok (signatureText lineGetView.id lineGetView.params model false ++ doc ++
        methodBody lineGetView.id lineGetView.params false, uses')) ∧
    (signatureOrder lineGetView.params).Perm lineGetView.params ∧
    (signatureOrder lineGetView.params).Pairwise
      (fun x y => y.required = true → x.required = true) ∧
    (((declaredNames lineGetView.params).Nodup ∧ "self" ∉ declaredNames lineGetView.params) ↔
      Declarable (lineGetView.params.map (·.name))) := by
  have hreads : lineGetView.Reads lineGetDetails :=
    ⟨rfl, rfl, by decide,
      ⟨_, rfl, .cons (textParameter_reads _ _ _) (.cons (textParameter_reads _ _ _) .nil)⟩,
      fun _ h => by simp [lineGetDetails, Json.get?, Json.lookup] at h,
      ⟨_, rfl, rfl, rfl, fun _ h => by simp [Json.getD, Json.get?, Json.lookup] at h⟩⟩
  exact ⟨⟨hreads, by decide, by decide⟩,
    renderOperation_declares hreads (by decide) (by decide) false [] {}⟩

/-- A path parameter whose schema is a reference, with no type of its own. -/
def referenceParameter : Json :=
  .obj [("name", .str "id"), ("in", .str "path"), ("required", .bool true),
    ("schema", .obj [("$ref", .str "#/components/schemas/Id")])]

/-- A name that the path and the query share is declared twice, and a parameter whose schema
has no type stops the generator. -/
theorem sharedName_declared_twice :
    methodSignature "Line_Get" [textParameter "id" "path" true, textParameter "id" "query" false]
        "GenericResponseModel" false =
      .ok ("    def Get(self, id: str, id: str | None = None) -> " ++
        "ResponseModel[GenericResponseModel] | ApiError:\n") ∧
    methodSignature "Line_Get" [referenceParameter] "GenericResponseModel" false =
      .error (.plain .missingKey) := by
  constructor
  · rfl
  · rfl

end TransitKit.Codegen
