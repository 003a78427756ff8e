import Mathlib
import TransitKit.Proofs.PortalRuns
import TransitKit.Proofs.Outcome
import TransitKit.Proofs.EntityRenaming
import TransitKit.Proofs.PortalAddresses

/-!
# The order in which a crawl fetches schemas

A crawl merges the schemas each fetched document defines into the components, a name already
there keeping its place and taking the new value. When every document defines its schemas as a
mapping, a crawl succeeds exactly when its outline does, and its components are the members of
all fetched documents set in fetch order. Two fetch orders then agree in everything but the
order of the components, unless two documents give one name different values: the document
fetched last decides it.
-/

namespace TransitKit

/-! ### Setting members one after the other -/

namespace Json

/-- Sets the members `fs` in turn: a name already there keeps its place and takes the new
value, a new name goes to the end. -/
def setFields (ms fs : List (String × Json)) : List (String × Json) :=
  fs.foldl (fun acc p => setField acc p.1 p.2) ms

variable {ms fs gs : List (String × Json)} {k : String} {v : Json}

theorem keys_setField_of_mem (hk : k ∈ ms.map (·.1)) (v : Json) :
    (setField ms k v).map (·.1) = ms.map (·.1) := by
  rw [setField, if_pos (any_key_iff.mpr hk), List.map_map]
  refine List.map_congr_left fun p _ => ?_
  by_cases hp : p.1 = k <;> simp [hp]

theorem mem_keys_setField {k' : String} :
    k' ∈ (setField ms k v).map (·.1) ↔ k' ∈ ms.map (·.1) ∨ k' = k := by
  by_cases hk : k ∈ ms.map (·.1)
  · rw [keys_setField_of_mem hk]
    constructor
    · exact .inl
    · rintro (h | rfl)
      · exact h
      · exact hk
  · simp [setField_of_not_mem hk]

theorem nodup_keys_setField (hms : (ms.map (·.1)).Nodup) (k : String) (v : Json) :
    ((setField ms k v).map (·.1)).Nodup := by
  by_cases hk : k ∈ ms.map (·.1)
  · rwa [keys_setField_of_mem hk]
  · rw [setField_of_not_mem hk, List.map_append, List.nodup_append]
    simp only [List.map_cons, List.map_nil, List.nodup_cons, List.not_mem_nil, not_false_eq_true,
      List.nodup_nil, and_self, List.mem_cons, or_false, true_and]
    exact ⟨hms, fun a ha b hb => hb ▸ fun hab => hk (hab ▸ ha)⟩

/-- A member after setting a value is one that was there or the one set. -/
theorem mem_setField {q : String × Json} (h : q ∈ setField ms k v) : q ∈ ms ∨ q = (k, v) := by
  unfold setField at h
  split at h
  · obtain ⟨p, hp, rfl⟩ := List.mem_map.mp h
    by_cases hpk : p.1 = k
    · right
      simp [hpk]
    · left
      simpa [hpk] using hp
  · simpa using h

/-! Setting members one after the other keeps the names apart, gathers the names of all the
members, and holds none but the members set or there before. -/

theorem nodup_keys_setFields (hms : (ms.map (·.1)).Nodup) (fs : List (String × Json)) :
    ((setFields ms fs).map (·.1)).Nodup := by
  induction fs generalizing ms with
  | nil => exact hms
  | cons p fs ih => exact ih (nodup_keys_setField hms p.1 p.2)

theorem mem_keys_setFields {k : String} :
    k ∈ (setFields ms fs).map (·.1) ↔ k ∈ ms.map (·.1) ∨ k ∈ fs.map (·.1) := by
  induction fs generalizing ms with
  | nil => simp [setFields]
  | cons p fs ih =>
    simp only [setFields, List.foldl_cons] at ih ⊢
    rw [ih, mem_keys_setField]
    simp only [List.map_cons, List.mem_cons]
    tauto

theorem mem_setFields {q : String × Json} (h : q ∈ setFields ms fs) : q ∈ ms ∨ q ∈ fs := by
  induction fs generalizing ms with
  | nil => exact .inl h
  | cons p fs ih =>
    rcases ih h with h | h
    · rcases mem_setField h with h | rfl
      · exact .inl h
      · exact .inr List.mem_cons_self
    · exact .inr (List.mem_cons_of_mem p h)

/-- Where a list gives no name two values, the members it sets are exactly its own. -/
theorem mem_setFields_iff (hagree : ∀ k v w, (k, v) ∈ fs → (k, w) ∈ fs → v = w)
    {q : String × Json} : q ∈ setFields [] fs ↔ q ∈ fs := by
  constructor
  · intro h
    simpa using mem_setFields h
  · intro hq
    obtain ⟨r, hr, hrq⟩ := List.mem_map.mp
      (mem_keys_setFields.mpr (.inr (List.mem_map_of_mem (f := (·.1)) hq)) :
        q.1 ∈ (setFields [] fs).map (·.1))
    have hrfs : r ∈ fs := by simpa using mem_setFields hr
    have hval : r.2 = q.2 := hagree q.1 r.2 q.2 (hrq ▸ hrfs) hq
    rwa [← Prod.ext hrq hval]

/-- Two orders of the same members set the same names. -/
theorem keys_setFields_perm (h : fs.Perm gs) :
    ((setFields [] fs).map (·.1)).Perm ((setFields [] gs).map (·.1)) := by
  refine (List.perm_ext_iff_of_nodup (@nodup_keys_setFields [] List.nodup_nil fs)
    (@nodup_keys_setFields [] List.nodup_nil gs)).mpr fun k => ?_
  simp only [mem_keys_setFields, List.map_nil, List.not_mem_nil, false_or]
  exact (h.map _).mem_iff

/-- Two orders of the same members, none of whose names has two values, set the same members. -/
theorem setFields_perm (h : fs.Perm gs) (hagree : ∀ k v w, (k, v) ∈ fs → (k, w) ∈ fs → v = w) :
    (setFields [] fs).Perm (setFields [] gs) := by
  have hagree' : ∀ k v w, (k, v) ∈ gs → (k, w) ∈ gs → v = w := fun k v w hv hw =>
    hagree k v w (h.mem_iff.mpr hv) (h.mem_iff.mpr hw)
  refine (List.perm_ext_iff_of_nodup (@nodup_keys_setFields [] List.nodup_nil fs).of_map
    (@nodup_keys_setFields [] List.nodup_nil gs).of_map).mpr fun q => ?_
  rw [mem_setFields_iff hagree, mem_setFields_iff hagree']
  exact h.mem_iff

end Json

/-! ### Mappings with names as keys -/

namespace Dict

/-- Merges named values into a mapping, as an update from a JSON object does. -/
def setMembers (d : Dict) (fs : List (String × Json)) : Dict :=
  fs.foldl (fun acc p => acc.set (.str p.1) p.2) d

theorem update_obj (d : Dict) (fs : List (String × Json)) :
    d.update (.obj fs) = .ok (d.setMembers fs) := rfl

/-- The mapping whose keys are the names of `ms`. -/
def named (ms : List (String × Json)) : Dict := ⟨ms.map fun p => (.str p.1, p.2)⟩

theorem sameValue_str (a b : String) : Json.sameValue (.str a) (.str b) = (a == b) := by
  simp [Json.sameValue]

theorem set_named (ms : List (String × Json)) (k : String) (v : Json) :
    (named ms).set (.str k) v = named (Json.setField ms k v) := by
  unfold set named Json.setField
  simp only [List.any_map, Function.comp_def, sameValue_str]
  split
  · simp only [List.map_map, Dict.mk.injEq]
    refine List.map_congr_left fun p _ => ?_
    by_cases hp : p.1 = k <;> simp [hp, sameValue_str]
  · simp

theorem setMembers_named (ms fs : List (String × Json)) :
    (named ms).setMembers fs = named (Json.setFields ms fs) := by
  induction fs generalizing ms with
  | nil => rfl
  | cons p fs ih =>
    simp only [setMembers, Json.setFields, List.foldl_cons] at ih ⊢
    rw [set_named, ih]

@[simp] theorem toJson_named (ms : List (String × Json)) : (named ms).toJson = .obj ms := by
  simp [toJson, named, keyText, Function.comp_def]

@[simp] theorem size_named (ms : List (String × Json)) : (named ms).size = ms.length := by
  simp [size, named]

end Dict

/-! ### What the portal gives for one schema -/

namespace Portal

/-- A failed request counts as a schema that defines nothing; any other failure stays. -/
def skippingRequestFailure (r : Except Failure (Option Json)) : Except Failure (Option Json) :=
  match r with
  | .ok defined => .ok defined
  | .error e => if isRequestFailure e.kind then .ok none else .error e

/-- What the network gives for one schema of an API: the value its document defines under
`document.components.schemas`, none when the document defines none or the request fails, or a
failure that stops the crawl. -/
def definitionsOn (net : Client.Network) (apiId schemaId : Json) : Except Failure (Option Json) :=
  skippingRequestFailure ((outcomeOn net (schemaOf apiId.text schemaId.text)).bind definedSchemas)

/-- The named schemas of what a document defines, when it defines them as a mapping. -/
def definedMembers : Option Json → List (String × Json)
  | some (.obj fs) => fs
  | _ => []

/-- The named schemas that the network's document of a schema defines. -/
def membersOn (net : Client.Network) (apiId schemaId : Json) : List (String × Json) :=
  definedMembers (definitionsOn net apiId schemaId).toOption.join

/-- Every document of the API that defines schemas defines them as a mapping. -/
def DefinesMappings (net : Client.Network) (apiId : Json) : Prop :=
  ∀ schemaId defined, definitionsOn net apiId schemaId = .ok (some defined) → ∃ fs, defined = .obj fs

/-- No two documents of the API, and no document twice, give one name two values. -/
def NamesAgree (net : Client.Network) (apiId : Json) : Prop :=
  ∀ s t name v w, (name, v) ∈ membersOn net apiId s → (name, w) ∈ membersOn net apiId t → v = w

variable {net : Client.Network} {apiId : Json}

/-- Fetching one schema adds the members its document defines, or fails by the schema alone. -/
theorem outcomeOn_fetchSchema_members (hmaps : DefinesMappings net apiId) (schemas : Dict)
    (schemaId : Json) :
    outcomeOn net (fetchSchema apiId schemas schemaId) =
      (definitionsOn net apiId schemaId).map fun defined => schemas.setMembers (definedMembers defined) := by
  have hdef : definitionsOn net apiId schemaId = skippingRequestFailure
      ((outcomeOn net (schemaOf apiId.text schemaId.text)).bind definedSchemas) := rfl
  rw [outcomeOn_fetchSchema, outcomeOn_mergeSchema]
  cases h : (outcomeOn net (schemaOf apiId.text schemaId.text)).bind definedSchemas with
  | error e =>
    rw [h] at hdef
    rw [hdef]
    show (if isRequestFailure e.kind then Except.ok schemas else Except.error e) =
      (if isRequestFailure e.kind then Except.ok none else Except.error e).map _
    by_cases hr : isRequestFailure e.kind = true
    · rw [if_pos hr, if_pos hr]
      rfl
    · rw [if_neg hr, if_neg hr]
      rfl
  | ok defined =>
    rw [h] at hdef
    rw [hdef]
    cases defined with
    | none => rfl
    | some defined =>
      obtain ⟨fs, rfl⟩ := hmaps schemaId defined hdef
      rfl

/-- The definitions that a successful traversal gathers are those of its schemas. -/
theorem flatMap_definedMembers {xs : List Json} {ds : List (Option Json)}
    (h : xs.mapM (definitionsOn net apiId) = .ok ds) :
    ds.flatMap definedMembers = xs.flatMap (membersOn net apiId) := by
  have hview : ∀ x y, definitionsOn net apiId x = .ok y → definedMembers y = membersOn net apiId x :=
    fun x y hxy => by
      rw [membersOn, hxy]
      rfl
  rw [List.flatMap_def, List.flatMap_def, map_of_mapM_eq_ok hview h]

/-- Fetching schemas in turn merges the members of their documents in fetch order, or fails at
the first schema that fails otherwise than by its request. -/
theorem outcomeOn_fetchAll (hmaps : DefinesMappings net apiId) (xs : List Json) :
    outcomeOn net (xs.foldlM (fetchSchema apiId) {}) =
      (xs.mapM (definitionsOn net apiId)).map fun ds =>
        Dict.named (Json.setFields [] (ds.flatMap definedMembers)) := by
  rw [outcomeOn_foldlM net (ReadsNet.fetchSchema apiId),
    foldlM_eq_map_mapM (outcomeOn_fetchSchema_members hmaps)]
  congr 1
  funext ds
  rw [← Dict.setMembers_named, Dict.setMembers, List.foldl_flatMap]
  rfl

/-- **What a crawl gives.** When every document defines its schemas as a mapping, a crawl
succeeds exactly when the outline does and every schema named is fetched or fails by its
request, and then its components are the members of the fetched documents set one after the
other in the fetch order. -/
theorem buildDescription_eq_ok (hmaps : DefinesMappings net apiId)
    {visit : List Json → List Json} (hv : ∀ l, (visit l).Perm l) {d : Description} :
    outcomeOn net (buildDescription visit apiId) = .ok d ↔
      ∃ o, outcomeOn net (outline apiId) = .ok o ∧
        (∀ s ∈ o.wanted, ∃ defined, definitionsOn net apiId s = .ok defined) ∧
        d = o.finish (Dict.named (Json.setFields [] ((visit o.wanted).flatMap (membersOn net apiId)))) := by
  rw [outcomeOn_buildDescription]
  simp only [outcomeOn_fetchAll hmaps]
  cases ho : outcomeOn net (outline apiId) with
  | error e => simp [Except.bind]
  | ok o =>
    show (((visit o.wanted).mapM (definitionsOn net apiId)).map _).map o.finish = .ok d ↔ _
    have hmem : ∀ s, s ∈ visit o.wanted ↔ s ∈ o.wanted := fun s => (hv o.wanted).mem_iff
    constructor
    · intro h
      obtain ⟨schemas, hschemas, rfl⟩ := map_eq_ok.mp h
      obtain ⟨ds, hds, rfl⟩ := map_eq_ok.mp hschemas
      refine ⟨o, rfl, fun s hs => ok_of_mapM_eq_ok hds s ((hmem s).mpr hs), ?_⟩
      rw [flatMap_definedMembers hds]
    · rintro ⟨o', ho', hok, rfl⟩
      cases ho'
      obtain ⟨ds, hds⟩ := exists_mapM_eq_ok fun s hs => hok s ((hmem s).mp hs)
      rw [hds]
      show Except.ok (o.finish (Dict.named (Json.setFields [] (ds.flatMap definedMembers)))) = _
      rw [flatMap_definedMembers hds]

/-- **The fetch order decides at most the order of the schemas.** Crawl one API on one host
twice, fetching the schemas named in two orders. When every document defines its schemas as a
mapping, the two crawls succeed together, and two descriptions they give have the same paths,
the same number of schemas and the same members up to the components. The schemas there have
the same names, none twice; where no name is given two values by the API's documents, they are
the same schemas in another order. -/
theorem buildDescription_schema_order {visit₁ visit₂ : List Json → List Json}
    (hv₁ : ∀ l, (visit₁ l).Perm l) (hv₂ : ∀ l, (visit₂ l).Perm l) (h : Host) (apiId : Json)
    (hmaps : DefinesMappings h.net apiId) :
    ((∃ d₁, ((buildDescription visit₁ apiId).run.run h).1 = .ok d₁) ↔
      ∃ d₂, ((buildDescription visit₂ apiId).run.run h).1 = .ok d₂) ∧
    ∀ d₁ d₂, ((buildDescription visit₁ apiId).run.run h).1 = .ok d₁ →
      ((buildDescription visit₂ apiId).run.run h).1 = .ok d₂ →
      d₁.paths = d₂.paths ∧ d₁.schemas = d₂.schemas ∧
      ∃ head ms₁ ms₂, d₁.spec = .obj (head ++ [("components", .obj [("schemas", .obj ms₁)])]) ∧
        d₂.spec = .obj (head ++ [("components", .obj [("schemas", .obj ms₂)])]) ∧
        (ms₁.map (·.1)).Nodup ∧ (ms₁.map (·.1)).Perm (ms₂.map (·.1)) ∧
        (NamesAgree h.net apiId → ms₁.Perm ms₂) := by
  have hrun : ∀ visit, ((buildDescription visit apiId).run.run h).1 =
      outcomeOn h.net (buildDescription visit apiId) :=
    fun visit => (ReadsNet.buildDescription visit apiId h).1
  simp only [hrun]
  constructor
  · simp only [buildDescription_eq_ok hmaps hv₁, buildDescription_eq_ok hmaps hv₂]
    constructor
    · rintro ⟨-, o, ho, hok, -⟩
      exact ⟨_, o, ho, hok, rfl⟩
    · rintro ⟨-, o, ho, hok, -⟩
      exact ⟨_, o, ho, hok, rfl⟩
  · intro d₁ d₂ h₁ h₂
    obtain ⟨o, ho, -, rfl⟩ := (buildDescription_eq_ok hmaps hv₁).mp h₁
    obtain ⟨o', ho', -, rfl⟩ := (buildDescription_eq_ok hmaps hv₂).mp h₂
    obtain rfl : o = o' := Except.ok.inj (ho.symm.trans ho')
    have hperm : ((visit₁ o.wanted).flatMap (membersOn h.net apiId)).Perm
        ((visit₂ o.wanted).flatMap (membersOn h.net apiId)) :=
      ((hv₁ _).trans (hv₂ _).symm).flatMap_right _
    have hkeys := Json.keys_setFields_perm hperm
    refine ⟨rfl, ?_, o.head, _, _, by simp [Outline.finish], by simp [Outline.finish],
      @Json.nodup_keys_setFields [] List.nodup_nil _, hkeys, fun hagree => ?_⟩
    · simpa [Outline.finish] using hkeys.length_eq
    · refine Json.setFields_perm hperm fun k v w hv hw => ?_
      obtain ⟨s, -, hs⟩ := List.mem_flatMap.mp hv
      obtain ⟨t, -, ht⟩ := List.mem_flatMap.mp hw
      exact hagree s t k v w hs ht

/-! ### Two documents that define one name -/

open Url

/-- A schema with a description and nothing else. -/
def describedAs (text : String) : Json := .obj [("description", .str text)]

/-- A schema document that defines the one schema `T`, described by `text`. -/
def documentDefiningT (text : String) : Json :=
  .obj [("document", .obj [("components", .obj [("schemas", .obj [("T", describedAs text)])])])]

/-- An operations page that lists one operation `O`, a `GET` of `/x`. -/
def operationsPage : Json :=
  .obj [("value", .arr [.obj [("id", .str "O"), ("name", .str "O"), ("urlTemplate", .str "/x"),
    ("method", .str "GET")]])]

/-- The details of `O`: one response whose two representations name the schemas `S1` and `S2`. -/
def operationPage : Json :=
  .obj [("responses", .arr [.obj [("representations", .arr [
    .obj [("contentType", .str "a"), ("schemaId", .str "S1")],
    .obj [("contentType", .str "b"), ("schemaId", .str "S2")]])]])]

/-- The pages of an API whose two schema documents both define `T`, as `one` and as `two`. -/
def clashingPages : List (String × Json) :=
  [("", .obj []), ("/operations", operationsPage), ("/operations/O", operationPage),
    ("/schemas/S1", documentDefiningT "one"), ("/schemas/S2", documentDefiningT "two")]

/-- The portal that serves the clashing pages for the API `api`. -/
def clashingPortal (api : String) : Client.Network := servePages api clashingPages

theorem plain_clashingPages : ∀ p ∈ clashingPages, Json.Plain p.2 := by
  simp [clashingPages, operationsPage, operationPage, documentDefiningT, describedAs,
    Json.plain_str_iff, Json.plain_obj_iff, Json.plain_arr_iff]
  decide

section Clashing

variable {api : String} (hapi : ∀ c ∈ api.toList, plainPathChar c = true)
include hapi

/-- Every request for a clashing page is answered with the page. -/
theorem run_clashingPortal (suffix : String) {params : List (String × String)} {v : Json}
    (hsuffix : suffix.toList.all plainPathChar = true) (hQ : PlainQuery (formEncode params).toList)
    (hpage : (clashingPages.find? (·.1 == suffix)).map (·.2) = some v) (h : Host)
    (hnet : h.net = clashingPortal api) :
    (getJson (apiAddress api ++ suffix) params).run.run h =
      (.ok v, { h with requests := h.requests ++ [apiAddress api ++ suffix ++ "?" ++ formEncode params] }) :=
  run_getJson_servePages (fun p hp => plainPath_append hapi (by revert p; decide))
    plain_clashingPages (plainPath_append hapi hsuffix) hQ hpage h hnet

/-- The outline of the clashing API names `S1` and then `S2`. -/
theorem outline_clashingPortal :
    ∃ o, outcomeOn (clashingPortal api) (outline (.str api)) = .ok o ∧
      o.wanted = [.str "S1", .str "S2"] := by
  have hdetails := run_clashingPortal hapi "" (by decide) plainQuery_details rfl
  have hoperations := run_clashingPortal hapi "/operations" (by decide) plainQuery_operations rfl
  have hoperation := run_clashingPortal hapi "/operations/O" (by decide) plainQuery_version rfl
  simp only [String.append_empty] at hdetails
  have hdetailsJob : apiDetails api =
      getJson (apiAddress api) [("expandApiVersionSet", "true"), ("api-version", apiVersion)] := rfl
  have hoperationJob : operationDetails api "O" =
      getJson (apiAddress api ++ "/operations/O") [("api-version", apiVersion)] := by
    simp [operationDetails, String.append_assoc]
  obtain ⟨responses, hresponses⟩ : ∃ responses,
      operationResponses (.str api) operationPage [] = .ok (responses, [.str "S1", .str "S2"]) :=
    ⟨_, rfl⟩
  refine ⟨?o, ?run, ?wanted⟩
  case run =>
    rw [outcomeOn, outline]
    simp only [Json.text, run_bind, run_say, hdetailsJob, hdetails, apiOperations, hoperations,
      run_lift, List.foldlM_cons, List.foldlM_nil, addOperation, hoperationJob, hoperation,
      hresponses, Json.memberOr, Json.member, Json.lookup, operationsPage, List.find?, Json.items,
      Json.hashable, Json.lowered, String.reduceBEq, Option.map_some, Option.map_none,
      Option.getD_some, Option.getD_none, run_pure]
    rfl
  case wanted => rfl

/-- A schema of the clashing API is fetched as its page. -/
theorem outcomeOn_clashingPortal_schema (schemaId : String) {v : Json}
    (hsuffix : ("/schemas/" ++ schemaId).toList.all plainPathChar = true)
    (hpage : (clashingPages.find? (·.1 == "/schemas/" ++ schemaId)).map (·.2) = some v) :
    outcomeOn (clashingPortal api) (schemaOf api schemaId) = .ok v := by
  have hrun := run_clashingPortal hapi ("/schemas/" ++ schemaId) hsuffix plainQuery_version hpage
    { net := clashingPortal api } rfl
  rw [← String.append_assoc] at hrun
  exact congrArg Prod.fst hrun

/-- Fetching in turn two schemas whose documents both define `T`: the later one decides it. -/
theorem outcomeOn_fetch_clashing {s t first second : String}
    (hs : ("/schemas/" ++ s).toList.all plainPathChar = true)
    (hsPage : (clashingPages.find? (·.1 == "/schemas/" ++ s)).map (·.2) = some (documentDefiningT first))
    (ht : ("/schemas/" ++ t).toList.all plainPathChar = true)
    (htPage : (clashingPages.find? (·.1 == "/schemas/" ++ t)).map (·.2) = some (documentDefiningT second)) :
    outcomeOn (clashingPortal api) ([.str s, .str t].foldlM (fetchSchema (.str api)) {}) =
      .ok (Dict.named [("T", describedAs second)]) := by
  rw [outcomeOn_foldlM _ (ReadsNet.fetchSchema _)]
  simp only [List.foldlM_cons, List.foldlM_nil, outcomeOn_fetchSchema, outcomeOn_mergeSchema, Json.text,
    outcomeOn_clashingPortal_schema hapi s hs hsPage, outcomeOn_clashingPortal_schema hapi t ht htPage]
  rfl

end Clashing

/-- **The fetch order decides a name that two documents define.** On the clashing portal, a
crawl of the API `A` that fetches in the order of first mention and one that fetches in the
reverse order both succeed, with different descriptions: `T` is described `two` by the first
and `one` by the second. -/
theorem clashingPortal_fetch_order_decides :
    ∃ d₁ d₂, outcomeOn (clashingPortal "A") (buildDescription id (.str "A")) = .ok d₁ ∧
      outcomeOn (clashingPortal "A") (buildDescription List.reverse (.str "A")) = .ok d₂ ∧
      d₁.spec ≠ d₂.spec := by
  have hapi : ∀ c ∈ "A".toList, plainPathChar c = true := List.all_eq_true.mp (by decide)
  obtain ⟨o, ho, hwanted⟩ := outline_clashingPortal hapi
  refine ⟨o.finish (Dict.named [("T", describedAs "two")]),
    o.finish (Dict.named [("T", describedAs "one")]), ?_, ?_, ?_⟩
  · rw [outcomeOn_buildDescription, ho]
    show Except.map _ (outcomeOn _ ((id o.wanted).foldlM _ _)) = _
    rw [id, hwanted, outcomeOn_fetch_clashing hapi (by decide) rfl (by decide) rfl]
    rfl
  · rw [outcomeOn_buildDescription, ho]
    show Except.map _ (outcomeOn _ (o.wanted.reverse.foldlM _ _)) = _
    rw [hwanted, List.reverse_cons, List.reverse_singleton, List.singleton_append,
      outcomeOn_fetch_clashing hapi (by decide) rfl (by decide) rfl]
    rfl
  · intro h
    simp [Outline.finish, describedAs] at h

/-! ### A portal that serves schema documents -/

theorem skippingRequestFailure_eq_some {r : Except Failure (Option Json)} {d : Json}
    (h : skippingRequestFailure r = .ok (some d)) : r = .ok (some d) := by
  unfold skippingRequestFailure at h
  split at h
  · exact h ▸ rfl
  · split at h <;> cases h

/-- A portal that serves pages of plain values, each defining its schemas as a mapping when it
defines any, defines mappings for every API. -/
theorem servePages_definesMappings {apiId : String} {pages : List (String × Json)}
    (hplain : ∀ p ∈ pages, Json.Plain p.2)
    (hdefs : ∀ p ∈ pages, ∀ d, definedSchemas p.2 = .ok (some d) → ∃ fs, d = .obj fs)
    (api : Json) : DefinesMappings (servePages apiId pages) api := by
  intro schemaId defined hdef
  have hbind := skippingRequestFailure_eq_some hdef
  cases hpage : outcomeOn (servePages apiId pages) (schemaOf api.text schemaId.text) with
  | error e =>
    rw [hpage] at hbind
    cases hbind
  | ok page =>
    rw [hpage] at hbind
    rw [schemaOf, outcomeOn_getJson] at hpage
    cases haddr : addressFor (apiAddress api.text ++ "/schemas/" ++ schemaId.text)
        [("api-version", apiVersion)] with
    | error e =>
      rw [haddr] at hpage
      cases hpage
    | ok address =>
      rw [haddr] at hpage
      obtain ⟨p, hp, rfl⟩ := mem_of_readAnswer_servePages hplain hpage
      exact hdefs p hp defined hbind

theorem clashingPages_definedSchemas :
    ∀ p ∈ clashingPages, ∀ d, definedSchemas p.2 = .ok (some d) → ∃ fs, d = .obj fs := by
  intro p hp d hd
  simp only [clashingPages, List.mem_cons, List.mem_nil_iff, or_false] at hp
  rcases hp with rfl | rfl | rfl | rfl | rfl <;> cases hd <;> exact ⟨_, rfl⟩

/-- On the clashing portal, whose documents define their schemas as mappings, a crawl of `A`
succeeds, and the crawls in the two orders agree up to the order and values of the schemas. -/
theorem clashingPortal_schema_order :
    (∀ l : List Json, (id l).Perm l) ∧ (∀ l : List Json, l.reverse.Perm l) ∧
      DefinesMappings ({ net := clashingPortal "A" } : Host).net (.str "A") ∧
      (∃ d₁, ((buildDescription id (.str "A")).run.run { net := clashingPortal "A" }).1 = .ok d₁) ∧
      ((∃ d₁, ((buildDescription id (.str "A")).run.run { net := clashingPortal "A" }).1 = .ok d₁) ↔
        ∃ d₂, ((buildDescription List.reverse (.str "A")).run.run { net := clashingPortal "A" }).1 =
          .ok d₂) ∧
      ∀ d₁ d₂, ((buildDescription id (.str "A")).run.run { net := clashingPortal "A" }).1 = .ok d₁ →
        ((buildDescription List.reverse (.str "A")).run.run { net := clashingPortal "A" }).1 = .ok d₂ →
        d₁.paths = d₂.paths ∧ d₁.schemas = d₂.schemas ∧
        ∃ head ms₁ ms₂, d₁.spec = .obj (head ++ [("components", .obj [("schemas", .obj ms₁)])]) ∧
          d₂.spec = .obj (head ++ [("components", .obj [("schemas", .obj ms₂)])]) ∧
          (ms₁.map (·.1)).Nodup ∧ (ms₁.map (·.1)).Perm (ms₂.map (·.1)) ∧
          (NamesAgree ({ net := clashingPortal "A" } : Host).net (.str "A") → ms₁.Perm ms₂) := by
  have hmaps : DefinesMappings (clashingPortal "A") (.str "A") :=
    servePages_definesMappings plain_clashingPages clashingPages_definedSchemas _
  have hapi : ∀ c ∈ "A".toList, plainPathChar c = true := List.all_eq_true.mp (by decide)
  have hcrawl : ∃ d₁, ((buildDescription id (.str "A")).run.run { net := clashingPortal "A" }).1 =
      .ok d₁ := by
    obtain ⟨o, ho, hwanted⟩ := outline_clashingPortal hapi
    refine ⟨o.finish (Dict.named [("T", describedAs "two")]), ?_⟩
    rw [(ReadsNet.buildDescription id (.str "A") _).1, outcomeOn_buildDescription, ho]
    show Except.map _ (outcomeOn _ ((id o.wanted).foldlM _ _)) = _
    rw [id, hwanted, outcomeOn_fetch_clashing hapi (by decide) rfl (by decide) rfl]
    rfl
  exact ⟨fun _ => List.Perm.refl _, fun l => List.reverse_perm l, hmaps, hcrawl,
    buildDescription_schema_order (fun _ => List.Perm.refl _) (fun l => List.reverse_perm l)
      { net := clashingPortal "A" } (.str "A") hmaps⟩

end Portal

end TransitKit
