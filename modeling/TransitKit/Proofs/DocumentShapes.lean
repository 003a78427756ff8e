import Mathlib
import TransitKit.Proofs.MethodSignatures
import TransitKit.Proofs.SchemaOrder
import TransitKit.Proofs.RequestAddresses
import TransitKit.Proofs.ModelBuilding
import TransitKit.Codegen.ClientModule

/-!
# Documents the generator can walk

The generator reads an API document in several walks, and validation checks none of what they
need beyond four top-level members. This module states the shape the walks need and proves it
enough: renaming references keeps it, processing a folder of documents of the shape succeeds,
and the search for array models never fails on them. The shape asks for what OpenAPI asks, and
more: a non-empty list of servers when given, path items of operations only, and addresses
without square brackets.
-/

namespace TransitKit

/-! ## Members of objects -/

namespace Json

theorem lookup_map_members (g : String → Json → Json) (fs : List (String × Json)) (k : String) :
    lookup (fs.map fun p => (p.1, g p.1 p.2)) k = (lookup fs k).map (g k) := by
  induction fs with
  | nil => rfl
  | cons p fs ih =>
    by_cases hp : p.1 = k
    · simp [lookup, hp]
    · simpa [lookup, hp] using ih

theorem lookup_setField_of_ne {fs : List (String × Json)} {k k' : String} (hk : k ≠ k') (v : Json) :
    lookup (setField fs k' v) k = lookup fs k := by
  unfold setField
  split
  · have hmap : (fs.map fun p => if p.1 == k' then (k', v) else p) =
        fs.map fun p => (p.1, if p.1 == k' then v else p.2) := by
      refine List.map_congr_left fun p _ => ?_
      by_cases hp : p.1 = k' <;> simp [hp]
    rw [hmap, lookup_map_members (fun n w => if n == k' then v else w)]
    simp [hk]
  · simp [lookup, List.find?_append, Ne.symm hk]

theorem get?_set_of_ne {j : Json} {k k' : String} (hk : k ≠ k') (v : Json) :
    (j.set k' v).get? k = j.get? k := by
  cases j <;> simp [set, get?, lookup_setField_of_ne hk]

theorem isObj_set (j : Json) (k : String) (v : Json) : (j.set k v).isObj = j.isObj := by
  cases j <;> rfl

theorem get?_set_self {j : Json} (hj : j.isObj = true) (k : String) (v : Json) :
    (j.set k v).get? k = some v := by
  obtain ⟨fs, rfl⟩ := exists_eq_obj_of_isObj hj
  exact lookup_setField_self fs k v

theorem get?_of_index? {j : Json} {k : String} {v : Json} (h : j.index? k = .ok v) :
    j.get? k = some v := by
  unfold index? at h
  split at h
  · split at h
    · cases h
      assumption
    · cases h
  · cases h

theorem mem_of_lookup {fs : List (String × Json)} {k : String} {v : Json}
    (h : lookup fs k = some v) : (k, v) ∈ fs := by
  unfold lookup at h
  obtain ⟨⟨k', v'⟩, hp, hv⟩ := Option.map_eq_some_iff.mp h
  have hk : k' = k := by simpa using List.find?_some hp
  subst hk hv
  exact List.mem_of_find?_eq_some hp

end Json

/-! ## Texts without square brackets -/

namespace Url

theorem bracketFree_append {a b : String} :
    BracketFree (a ++ b).toList ↔ BracketFree a.toList ∧ BracketFree b.toList := by
  simp only [BracketFree, String.toList_append, List.mem_append]
  tauto

theorem BracketFree.intercalate {sep : String} (hsep : BracketFree sep.toList) {xs : List String}
    (hxs : ∀ x ∈ xs, BracketFree x.toList) : BracketFree (sep.intercalate xs).toList := by
  have hall := forall_mem_intercalate (P := fun c => c ≠ '[' ∧ c ≠ ']')
    (fun c hc => ⟨fun h => hsep.1 (h ▸ hc), fun h => hsep.2 (h ▸ hc)⟩)
    (fun x hx c hc => ⟨fun h => (hxs x hx).1 (h ▸ hc), fun h => (hxs x hx).2 (h ▸ hc)⟩)
  exact ⟨fun h => (hall _ h).1 rfl, fun h => (hall _ h).2 rfl⟩

theorem bracketFree_of_mem_splitAt {u x : String} (hu : BracketFree u.toList)
    (hx : x ∈ Text.splitAt '/' u) : BracketFree x.toList := by
  obtain ⟨seg, hseg, rfl⟩ := List.mem_map.mp hx
  rw [String.toList_ofList]
  exact hu.mono fun c hc => mem_of_mem_splitOn hseg hc

end Url

/-! ## Renaming references keeps every member but `$ref` texts -/

namespace Spec

variable {f : String → String}

/-- The value a member takes when the references of an object are renamed: a `$ref` text is
renamed, any other value is walked into. -/
def mapRefMember (f : String → String) (k : String) : Json → Json
  | .str s => .str (if k = "$ref" then f s else s)
  | v => mapRefs f v

theorem mapRefMembers_eq_map (f : String → String) (fs : List (String × Json)) :
    mapRefMembers f fs = fs.map fun p => (p.1, mapRefMember f p.1 p.2) := by
  induction fs with
  | nil => rfl
  | cons p rest ih =>
    obtain ⟨k, v⟩ := p
    cases v <;> simp [mapRefMembers, mapRefMember, ih]

theorem mapRefItems_eq_map (f : String → String) (xs : List Json) :
    mapRefItems f xs = xs.map (mapRefs f) := by
  induction xs with
  | nil => rfl
  | cons x xs ih => rw [mapRefItems, ih, List.map_cons]

theorem mapRefMember_of_ne {k : String} (hk : k ≠ "$ref") (v : Json) :
    mapRefMember f k v = mapRefs f v := by
  cases v <;> simp [mapRefMember, mapRefs, hk]

theorem mapRefMember_of_isObj {v : Json} (hv : v.isObj = true) (k : String) :
    mapRefMember f k v = mapRefs f v := by
  cases v <;> simp_all [mapRefMember, Json.isObj]

/-- A renamed member is walked into, unless both it and its value are texts. -/
theorem mapRefMember_cases (k : String) (v : Json) :
    mapRefMember f k v = mapRefs f v ∨ ((mapRefMember f k v).isStr = true ∧ v.isStr = true) := by
  cases v <;> simp [mapRefMember, Json.isStr]

@[simp] theorem mapRefs_str (s : String) : mapRefs f (.str s) = .str s := rfl

theorem get?_mapRefs (j : Json) (k : String) :
    (mapRefs f j).get? k = (j.get? k).map (mapRefMember f k) := by
  cases j with
  | obj fs => simp only [mapRefs, Json.get?, mapRefMembers_eq_map, Json.lookup_map_members]
  | _ => rfl

theorem get?_mapRefs_of_ne (j : Json) {k : String} (hk : k ≠ "$ref") :
    (mapRefs f j).get? k = (j.get? k).map (mapRefs f) := by
  rw [get?_mapRefs]
  exact Option.map_congr fun v _ => mapRefMember_of_ne hk v

@[simp] theorem isObj_mapRefs (j : Json) : (mapRefs f j).isObj = j.isObj := by
  cases j <;> rfl

@[simp] theorem isStr_mapRefs (j : Json) : (mapRefs f j).isStr = j.isStr := by
  cases j <;> rfl

@[simp] theorem truthy_mapRefs (j : Json) : (mapRefs f j).truthy = j.truthy := by
  cases j <;> simp [mapRefs, Json.truthy, mapRefItems_eq_map, mapRefMembers_eq_map]

theorem getD_mapRefs (j : Json) {k : String} (hk : k ≠ "$ref") {d : Json} (hd : mapRefs f d = d) :
    (mapRefs f j).getD k d = mapRefs f (j.getD k d) := by
  unfold Json.getD
  rw [get?_mapRefs_of_ne j hk]
  cases j.get? k <;> simp [hd]

end Spec

namespace Codegen

open Spec Url

variable {f : String → String}

/-! ## The shape the walks need -/

/-- An operation of a path item as the generator walks it: an object, which is an operation
read as `OperationView.Reads` describes when it has a true identifier. -/
def OperationShape (d : Json) : Prop :=
  d.isObj = true ∧ ∀ v, d.get? "operationId" = some v → v.truthy = true → ∃ op : OperationView, op.Reads d

/-- A path item that holds operations only. -/
def PathItemShape (item : Json) : Prop :=
  ∃ ops, item = .obj ops ∧ ∀ o ∈ ops, OperationShape o.2

/-- The servers of a document as the generator reads them: a list whose first server is an
object whose address, when present, is a text without square brackets. -/
def ServersShape (servers : Json) : Prop :=
  ∃ s rest, servers = .arr (s :: rest) ∧ s.isObj = true ∧
    MemberIs (fun u => ∃ t, u = .str t ∧ BracketFree t.toList) s "url"

/-- The information of a document as the client reads it: an object with a text title and,
when it is true, a text description. -/
def InfoShape (info : Json) : Prop :=
  info.isObj = true ∧ (∃ t, info.get? "title" = some (.str t)) ∧
    MemberIs (fun d => d.truthy = true → d.isStr = true) info "description"

/-- What the client generator reads of a document: an object whose information has the shape
above, whose servers, when present, have theirs, and whose paths are an object of path items
under paths without square brackets. -/
structure ClientShape (spec : Json) : Prop where
  obj : spec.isObj = true
  info : ∃ info, spec.get? "info" = some info ∧ InfoShape info
  servers : MemberIs ServersShape spec "servers"
  paths : ∃ ps, spec.get? "paths" = some (.obj ps) ∧
    ∀ p ∈ ps, BracketFree p.1.toList ∧ PathItemShape p.2

theorem MemberIs.getD {P : Json → Prop} {j : Json} {k : String} (h : MemberIs P j k) {d : Json}
    (hd : P d) : P ((j.get? k).getD d) := by
  cases hk : j.get? k with
  | none => exact hd
  | some v => exact h v hk

theorem refShape_empty : RefShape (.obj []) := ⟨rfl, fun v hv => by cases hv⟩

theorem schemaShape_empty : SchemaShape (.obj []) := ⟨refShape_empty, fun v hv => by cases hv⟩

/-! ## Renaming references keeps the shape -/

theorem MemberIs.mapRefs {P Q : Json → Prop} {j : Json} {k : String} (h : MemberIs P j k)
    (hPQ : ∀ v, P v → Q (mapRefMember f k v)) : MemberIs Q (Spec.mapRefs f j) k := by
  intro w hw
  rw [get?_mapRefs] at hw
  obtain ⟨v, hv, rfl⟩ := Option.map_eq_some_iff.mp hw
  exact hPQ v (h v hv)

theorem RefShape.mapRefs {s : Json} (h : RefShape s) : RefShape (Spec.mapRefs f s) := by
  refine ⟨by rw [isObj_mapRefs]; exact h.1, h.2.mapRefs fun v hv => ?_⟩
  rcases mapRefMember_cases (f := f) "$ref" v with heq | ⟨hstr, -⟩
  · rw [heq, truthy_mapRefs, isStr_mapRefs]
    exact hv
  · exact fun _ => hstr

theorem SchemaShape.mapRefs {s : Json} (h : SchemaShape s) : SchemaShape (Spec.mapRefs f s) :=
  ⟨h.1.mapRefs, h.2.mapRefs fun v hv => by
    rw [mapRefMember_of_ne (by decide)]
    exact hv.mapRefs⟩

theorem ResponseShape.mapRefs {r : Json} (h : ResponseShape r) :
    ResponseShape (Spec.mapRefs f r) := by
  refine ⟨by rw [isObj_mapRefs]; exact h.1, h.2.mapRefs fun c hc => ?_⟩
  rw [mapRefMember_of_ne (by decide)]
  refine ⟨by rw [isObj_mapRefs]; exact hc.1, hc.2.mapRefs fun m hm => ?_⟩
  rw [mapRefMember_of_ne (by decide)]
  refine ⟨by rw [isObj_mapRefs]; exact hm.1, hm.2.mapRefs fun s hs => ?_⟩
  rw [mapRefMember_of_ne (by decide)]
  exact hs.mapRefs

theorem ParamView.Reads.mapRefs {v : ParamView} {p : Json} (h : v.Reads p) :
    v.Reads (Spec.mapRefs f p) where
  obj := by rw [isObj_mapRefs]; exact h.obj
  name := by rw [get?_mapRefs_of_ne p (by decide), h.name]; rfl
  place := by rw [get?_mapRefs_of_ne p (by decide), h.place]; rfl
  required := by rw [getD_mapRefs p (by decide) rfl, truthy_mapRefs]; exact h.required
  schema := by
    obtain ⟨s, t, hs, hobj, ht, hcls⟩ := h.schema
    refine ⟨Spec.mapRefs f s, t, by rw [get?_mapRefs_of_ne p (by decide), hs]; rfl,
      by rw [isObj_mapRefs]; exact hobj, by rw [get?_mapRefs_of_ne s (by decide), ht]; rfl, hcls⟩
  description := h.description.mapRefs fun d hd => by
    rw [mapRefMember_of_ne (by decide), isStr_mapRefs]
    exact hd

theorem OperationView.Reads.mapRefs {op : OperationView} {d : Json} (h : op.Reads d) :
    op.Reads (Spec.mapRefs f d) where
  obj := by rw [isObj_mapRefs]; exact h.obj
  operationId := by rw [get?_mapRefs_of_ne d (by decide), h.operationId]; rfl
  named := h.named
  parameters := by
    obtain ⟨ps, hps, hreads⟩ := h.parameters
    refine ⟨ps.map (Spec.mapRefs f), ?_, ?_⟩
    · rw [getD_mapRefs d (by decide) rfl, hps, Spec.mapRefs, mapRefItems_eq_map]
    · exact List.forall₂_map_right_iff.mpr (hreads.imp fun _ _ hr => hr.mapRefs)
  description := h.description.mapRefs fun x hx => by
    rw [mapRefMember_of_ne (by decide), isStr_mapRefs]
    exact hx
  responses := by
    obtain ⟨rs, hrs, hobj, hshape⟩ := h.responses
    refine ⟨Spec.mapRefs f rs, by rw [get?_mapRefs_of_ne d (by decide), hrs]; rfl,
      by rw [isObj_mapRefs]; exact hobj, ?_⟩
    rw [getD_mapRefs rs (by decide) rfl]
    exact hshape.mapRefs

theorem OperationShape.mapRefs {d : Json} (h : OperationShape d) :
    OperationShape (Spec.mapRefs f d) := by
  refine ⟨by rw [isObj_mapRefs]; exact h.1, fun v hv htrue => ?_⟩
  rw [get?_mapRefs_of_ne d (by decide)] at hv
  obtain ⟨w, hw, rfl⟩ := Option.map_eq_some_iff.mp hv
  obtain ⟨op, hop⟩ := h.2 w hw (by rwa [truthy_mapRefs] at htrue)
  exact ⟨op, hop.mapRefs⟩

theorem PathItemShape.isObj {item : Json} (h : PathItemShape item) : item.isObj = true := by
  obtain ⟨ops, rfl, -⟩ := h
  rfl

theorem PathItemShape.mapRefs {item : Json} (h : PathItemShape item) :
    PathItemShape (Spec.mapRefs f item) := by
  obtain ⟨ops, rfl, hops⟩ := h
  refine ⟨_, by rw [Spec.mapRefs, mapRefMembers_eq_map], fun o ho => ?_⟩
  obtain ⟨p, hp, rfl⟩ := List.mem_map.mp ho
  show OperationShape (mapRefMember f p.1 p.2)
  rw [mapRefMember_of_isObj (hops p hp).1]
  exact (hops p hp).mapRefs

theorem ServersShape.mapRefs {servers : Json} (h : ServersShape servers) :
    ServersShape (Spec.mapRefs f servers) := by
  obtain ⟨s, rest, rfl, hobj, hurl⟩ := h
  refine ⟨Spec.mapRefs f s, rest.map (Spec.mapRefs f), ?_, by rw [isObj_mapRefs]; exact hobj,
    hurl.mapRefs fun u hu => ?_⟩
  · rw [Spec.mapRefs, mapRefItems_eq_map, List.map_cons]
  · obtain ⟨t, rfl, ht⟩ := hu
    exact ⟨t, by simp [Spec.mapRefMember], ht⟩

theorem InfoShape.mapRefs {info : Json} (h : InfoShape info) : InfoShape (Spec.mapRefs f info) := by
  obtain ⟨hobj, ⟨t, ht⟩, hdesc⟩ := h
  refine ⟨by rw [isObj_mapRefs]; exact hobj, ⟨t, by rw [get?_mapRefs_of_ne info (by decide), ht]; rfl⟩,
    hdesc.mapRefs fun d hd => ?_⟩
  rw [mapRefMember_of_ne (by decide), truthy_mapRefs, isStr_mapRefs]
  exact hd

/-- Renaming the references of a document keeps what the client generator reads of it. -/
theorem ClientShape.mapRefs {spec : Json} (h : ClientShape spec) :
    ClientShape (Spec.mapRefs f spec) where
  obj := by rw [isObj_mapRefs]; exact h.obj
  info := by
    obtain ⟨info, hinfo, hshape⟩ := h.info
    exact ⟨_, by rw [get?_mapRefs_of_ne spec (by decide), hinfo]; rfl, hshape.mapRefs⟩
  servers := h.servers.mapRefs fun v hv => by
    rw [mapRefMember_of_ne (by decide)]
    exact hv.mapRefs
  paths := by
    obtain ⟨ps, hps, hitems⟩ := h.paths
    refine ⟨mapRefMembers f ps, by rw [get?_mapRefs_of_ne spec (by decide), hps]; rfl,
      fun q hq => ?_⟩
    rw [mapRefMembers_eq_map] at hq
    obtain ⟨p, hp, rfl⟩ := List.mem_map.mp hq
    obtain ⟨hfree, hitem⟩ := hitems p hp
    refine ⟨hfree, ?_⟩
    rw [mapRefMember_of_isObj hitem.isObj]
    exact hitem.mapRefs

/-- Setting the components of a document keeps what the client generator reads of it. -/
theorem ClientShape.set_components {spec : Json} (h : ClientShape spec) (c : Json) :
    ClientShape (spec.set "components" c) where
  obj := by rw [Json.isObj_set]; exact h.obj
  info := by rw [Json.get?_set_of_ne (by decide)]; exact h.info
  servers := fun v hv => h.servers v (by rwa [Json.get?_set_of_ne (by decide)] at hv)
  paths := by rw [Json.get?_set_of_ne (by decide)]; exact h.paths

end Codegen

/-! ## Processing documents of that shape -/

namespace Spec

open Codegen Url

variable {f : String → String}

/-- Components as OpenAPI gives them: an object whose schemas, when present, are an object. -/
def ComponentsShape (c : Json) : Prop := c.isObj = true ∧ MemberIs (·.isObj = true) c "schemas"

/-- A document the generator can process: what the client generator reads of it, and
components as OpenAPI gives them. -/
structure DocumentShape (spec : Json) : Prop where
  client : ClientShape spec
  components : ∃ c, spec.get? "components" = some c ∧ ComponentsShape c

theorem ComponentsShape.mapRefs {c : Json} (h : ComponentsShape c) :
    ComponentsShape (mapRefs f c) :=
  ⟨by rw [isObj_mapRefs]; exact h.1, h.2.mapRefs fun v hv => by
    rw [mapRefMember_of_ne (by decide), isObj_mapRefs]
    exact hv⟩

theorem ComponentsShape.schemas_ok {c : Json} (h : ComponentsShape c) :
    ∃ sfs, c.getOr? "schemas" (.obj []) = .ok (.obj sfs) := by
  obtain ⟨cfs, rfl⟩ := exists_obj h.1
  cases hs : (Json.obj cfs).get? "schemas" with
  | none => exact ⟨[], by rw [Json.getOr?_obj, hs]; rfl⟩
  | some v =>
    obtain ⟨sfs, rfl⟩ := exists_obj (h.2 v hs)
    exact ⟨sfs, by rw [Json.getOr?_obj, hs]; rfl⟩

theorem DocumentShape.mapRefs {spec : Json} (h : DocumentShape spec) :
    DocumentShape (mapRefs f spec) where
  client := h.client.mapRefs
  components := by
    obtain ⟨c, hc, hshape⟩ := h.components
    exact ⟨_, by rw [get?_mapRefs_of_ne spec (by decide), hc]; rfl, hshape.mapRefs⟩

theorem DocumentShape.set_components {spec : Json} (h : DocumentShape spec) {c : Json}
    (hc : ComponentsShape c) : DocumentShape (spec.set "components" c) where
  client := h.client.set_components c
  components := ⟨c, Json.get?_set_self h.client.obj _ _, hc⟩

/-- The API path of a document whose servers have the shape is a path without square
brackets. -/
theorem apiPathOf_ok {spec : Json} (h : ClientShape spec) :
    ∃ a, apiPathOf spec = .ok a ∧ BracketFree a.toList := by
  obtain ⟨fs, rfl⟩ := exists_obj h.obj
  unfold apiPathOf
  rw [Json.getOr?_obj, ok_bind]
  cases hs : (Json.obj fs).get? "servers" with
  | none => exact ⟨"", rfl, by simp [BracketFree]⟩
  | some v =>
    obtain ⟨s, rest, rfl, hobj, hmember⟩ := h.servers v hs
    obtain ⟨sfs, rfl⟩ := exists_obj hobj
    simp only [Option.getD_some, Json.truthy, List.isEmpty_cons, Bool.not_false, if_true,
      Json.getOr?_obj, ok_bind]
    cases hu : (Json.obj sfs).get? "url" with
    | none => exact ⟨"", rfl, by simp [BracketFree]⟩
    | some w =>
      obtain ⟨t, rfl, ht⟩ := hmember w hu
      simp only [Option.getD_some]
      split
      · rename_i rest heq
        refine ⟨_, rfl, bracketFree_append.mpr ⟨by simp [BracketFree], ?_⟩⟩
        refine BracketFree.intercalate (by simp [BracketFree]) fun x hx => ?_
        exact bracketFree_of_mem_splitAt ht (by rw [heq]; simp [hx])
      · exact ⟨"", rfl, by simp [BracketFree]⟩

/-- Type mappings that renaming can read: the mappings of every API are an object of texts. -/
def MappingsReady (mappings : List (String × Json)) : Prop :=
  ∀ e ∈ mappings, ∃ raw : List (String × String), e.2 = .obj (raw.map fun p => (p.1, .str p.2))

/-- Renaming a document by mappings that can be read succeeds and keeps its shape. -/
theorem updateEntities_ok {mappings : List (String × Json)} (hm : MappingsReady mappings)
    {spec : Json} (h : DocumentShape spec) (t : String) (names : List (String × Json)) :
    ∃ spec' names', updateEntities mappings spec (.str t) names = .ok (spec', names') ∧
      DocumentShape spec' := by
  cases hl : Json.lookup mappings t with
  | none => exact ⟨spec, names, by simp [updateEntities, hl], h⟩
  | some e =>
    obtain ⟨raw, hraw⟩ := hm (t, e) (Json.mem_of_lookup hl)
    subst hraw
    obtain ⟨fs, rfl⟩ := exists_obj h.client.obj
    obtain ⟨c, hc, hcshape⟩ := h.components
    obtain ⟨cfs, rfl⟩ := exists_obj hcshape.1
    cases hs : Json.lookup cfs "schemas" with
    | some v =>
      obtain ⟨sfs, rfl⟩ := exists_obj (hcshape.2 v hs)
      obtain ⟨names', heq⟩ := updateEntities_eq names hl hc hs
      refine ⟨_, names', heq, (h.set_components ⟨rfl, fun w hw => ?_⟩).mapRefs⟩
      rw [Json.get?_set_self rfl] at hw
      cases hw
      rfl
    | none =>
      refine ⟨mapRefs (renameText (classRenaming raw)) (.obj fs),
        (renameSchemas (classRenaming raw) [] names).2, ?_, h.mapRefs⟩
      simp only [updateEntities, hl, mappingMembers, pure, Except.pure, bind, Except.bind]
      have hc' : Json.lookup fs "components" = some (.obj cfs) := hc
      rw [mapM_classRenaming]
      · simp only [Json.getOr?, hc', Option.getD_some, hs, Option.getD_none, Json.get?,
          Option.isSome_some, Option.isSome_none, Bool.and_false, Bool.false_eq_true, if_false]
        rw [updateRefs_map _ _ fun p => rfl]
      · exact fun p => rfl

/-- What combining keeps of the documents it has taken: each document it gives back has the
client shape, and every path it gathered is a path item. -/
def CombinedShape (c : Combined) : Prop :=
  (∀ s ∈ c.specs, ClientShape s) ∧ ∀ q ∈ c.paths, PathItemShape q.2

/-- Combining documents of the shape, renamed by mappings that can be read, succeeds: each
document's paths join its API path, and the documents given back keep the client shape. -/
theorem combine_ok {mappings : List (String × Json)} (hm : MappingsReady mappings)
    {specs : List Json} (hspecs : ∀ s ∈ specs, DocumentShape s) (names : List (String × Json)) :
    ∃ c, combine mappings specs names = .ok c ∧ CombinedShape c := by
  unfold combine
  refine exists_foldlM_ok CombinedShape (fun spec hspec c hc => ?_) ⟨by simp, by simp⟩
  have h := hspecs spec hspec
  obtain ⟨info, hinfo, hishape⟩ := h.client.info
  obtain ⟨t, ht⟩ := hishape.2.1
  obtain ⟨a, ha, hafree⟩ := apiPathOf_ok h.client
  obtain ⟨spec', names', hup, hshape'⟩ := updateEntities_ok hm h t c.names
  obtain ⟨comp, hcomp, hcshape⟩ := hshape'.components
  obtain ⟨sfs, hsfs⟩ := hcshape.schemas_ok
  obtain ⟨ps, hps, hitems⟩ := hshape'.client.paths
  simp only [Json.index?_of_get? hinfo, Json.index?_of_get? ht, ok_bind, ha, hup,
    Json.getOr?_of_get? hcomp, hsfs, mappingMembers, Json.getOr?_of_get? hps]
  rw [mapM_eq_ok_map (g := fun x => ((joinPaths? a x.1).getD "", x.2)) fun x hx => ?_, ok_bind]
  · refine ⟨_, rfl, fun s hs => ?_, fun q hq => ?_⟩
    · rcases List.mem_append.mp hs with hs | hs
      · exact hc.1 s hs
      · rw [List.mem_singleton.mp hs]
        exact hshape'.client
    · rcases Json.mem_setFields (show q ∈ Json.setFields c.paths _ from hq) with hq | hq
      · exact hc.2 q hq
      · obtain ⟨x, hx, rfl⟩ := List.mem_map.mp hq
        exact (hitems x hx).2
  · obtain ⟨q, hq⟩ := Option.isSome_iff_exists.mp (joinPaths?_isSome hafree (hitems x hx).1)
    simp only [hq, Option.getD_some]
    rfl

/-- The search for the array model of an operation of the shape never fails. -/
theorem arrayTypeOf_ok (components : Json) {d : Json} (h : OperationShape d) :
    ∃ y, arrayTypeOf components d = .ok y := by
  obtain ⟨fs, rfl⟩ := exists_obj h.1
  unfold arrayTypeOf
  rw [Json.getOr?_obj, ok_bind]
  cases hid : (Json.obj fs).get? "operationId" with
  | none => exact ⟨none, rfl⟩
  | some v =>
    by_cases hv : v.truthy = true
    swap
    · exact ⟨none, by simp [hv]⟩
    obtain ⟨op, hop⟩ := h.2 v hid hv
    obtain ⟨rs, hrs, hrsobj, hshape⟩ := hop.responses
    obtain ⟨rfs, rfl⟩ := exists_obj hrsobj
    simp only [Option.getD_some, hv, Bool.not_true, Bool.false_eq_true, if_false,
      Json.getOr?_of_get? hrs, ok_bind, Json.getOr?_obj]
    cases h200 : (Json.obj rfs).get? "200" with
    | none => exact ⟨none, by simp [Json.truthy]⟩
    | some r =>
      have hr : ResponseShape r := by simpa [Json.getD, h200] using hshape
      obtain ⟨qfs, rfl⟩ := exists_obj hr.1
      simp only [Option.getD_some, Model.holds?_obj, ok_bind]
      split_ifs
      · exact ⟨none, rfl⟩
      · exact ⟨none, rfl⟩
      split
      · rename_i c hc
        obtain ⟨hcobj, hjson⟩ := hr.2 c (Json.get?_of_index? hc)
        obtain ⟨cfs, rfl⟩ := exists_obj hcobj
        simp only [pure_bind, Model.holds?_obj]
        split
        · split
          · rename_i b hb
            obtain ⟨hbobj, hschema⟩ := hjson b (Json.get?_of_index? hb)
            obtain ⟨bfs, rfl⟩ := exists_obj hbobj
            have hS := hschema.getD schemaShape_empty
            obtain ⟨sfs, hsfs⟩ := exists_obj hS.1.1
            rw [hsfs] at hS
            obtain ⟨w, hw, hfalse | ⟨r, rfl⟩⟩ := refShape_cases (hS.2.getD refShape_empty)
            all_goals
              simp only [Json.getOr?_obj, ok_bind, hsfs]
              split_ifs
              · exact ⟨none, rfl⟩
              rw [hw, ok_bind]
            · exact ⟨none, by simp [hfalse]⟩
            · split_ifs
              · exact ⟨none, rfl⟩
              · dsimp only
                split <;> exact ⟨_, rfl⟩
          · exact ⟨none, rfl⟩
        · exact ⟨none, rfl⟩
      · exact ⟨none, rfl⟩

/-- The search for array models over path items of the shape never fails. -/
theorem arrayTypes_ok {ps : List (String × Json)} (hps : ∀ q ∈ ps, PathItemShape q.2)
    (components : Json) : ∃ arrays, arrayTypes (.obj ps) components = .ok arrays := by
  unfold arrayTypes
  simp only [mappingMembers, ok_bind]
  refine exists_ok_bind (exists_mapM_eq_ok fun q hq => ?_) fun all => ⟨_, rfl⟩
  obtain ⟨ops, hops, hshapes⟩ := hps q hq
  rw [hops]
  exact exists_filterMapM_ok fun o ho => arrayTypeOf_ok components (hshapes o ho)

/-- Processing a folder whose accepted documents have the shape, with mappings that can be
read, succeeds: the documents it gives back have the client shape, and it finds titles exactly
when some document is accepted. -/
theorem processSpecs_ok {mappings : List (String × Json)} (hm : MappingsReady mappings)
    {files : List (String × FolderEntry)}
    (hshape : ∀ f ∈ files, ∀ spec, loadSpec f.1 f.2 = some spec → DocumentShape spec) :
    ∃ p, processSpecs mappings files = .ok p ∧ (∀ s ∈ p.combined.specs, ClientShape s) ∧
      (p.titles = [] ↔ ∀ f ∈ files, loadSpec f.1 f.2 = none) := by
  set specs := (files.mergeSort fun a b => a.1 ≤ b.1).filterMap fun f => loadSpec f.1 f.2
    with hspecs_def
  have hspecs : ∀ s ∈ specs, DocumentShape s := by
    intro s hs
    obtain ⟨f, hf, hload⟩ := List.mem_filterMap.mp hs
    exact hshape f (List.mem_mergeSort.mp hf) s hload
  obtain ⟨titles, htitles⟩ : ∃ titles,
      specs.mapM (fun s => do (← s.index? "info").index? "title") = .ok titles :=
    exists_mapM_eq_ok fun s hs => by
      obtain ⟨info, hinfo, -, ⟨t, ht⟩, -⟩ := (hspecs s hs).client.info
      exact ⟨.str t, by simp only [Json.index?_of_get? hinfo, Json.index?_of_get? ht, ok_bind]⟩
  obtain ⟨c, hc, hcshape⟩ := combine_ok hm hspecs []
  obtain ⟨arrays, harrays⟩ := arrayTypes_ok hcshape.2 (.obj c.components)
  refine ⟨⟨titles, { c with components := Json.setFields c.components arrays }⟩, ?_, hcshape.1, ?_⟩
  · simp only [processSpecs, ← hspecs_def, htitles, ok_bind, hc, harrays]
    rfl
  · rw [eq_nil_iff_of_mapM_eq_ok htitles, List.filterMap_eq_nil_iff]
    exact ⟨fun h f hf => h f (List.mem_mergeSort.mpr hf),
      fun h f hf => h f (List.mem_mergeSort.mp hf)⟩

end Spec

end TransitKit
