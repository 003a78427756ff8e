import Mathlib
import TransitKit.Proofs.DocumentShapes

/-!
# Client files of documents of the shape

The client files of a package are written from the documents that combining gives back: for
each, a configuration file with the address template and model of every operation, and a
class file with a method per operation, once waiting and once awaiting. On documents whose
information, servers and paths have the shape of `Codegen.ClientShape`, every step of this
succeeds (`Codegen.packageFiles_ok`).

The API path of a client is the path of its first server's address as a parse of the address
gives it. Parsing fails only on a location with one square bracket and not the other, and the
path it gives is made of characters of the address, so an address without square brackets
gives a path without them, which every operation's path then joins.
-/

namespace TransitKit

/-! ## The path of an address -/

namespace Url

theorem cutAt_fst_subset (c : Char) (cs : List Char) : (cutAt c cs).1 ⊆ cs := by
  unfold cutAt splitAtFirst
  split
  · rename_i a b heq
    split at heq
    · cases heq
      exact List.take_subset _ _
    · cases heq
  · exact List.Subset.refl cs

theorem splitOffNetloc?_snd_subset {cs rest : List Char} {net : String}
    (h : splitOffNetloc? cs = some (net, rest)) : rest ⊆ cs := by
  unfold splitOffNetloc? at h
  split at h
  · dsimp only at h
    split at h
    · cases h
    · cases h
      exact fun c hc => List.mem_cons_of_mem _ (List.mem_cons_of_mem _ (List.dropWhile_subset _ hc))
  · cases h
    exact List.Subset.refl cs

/-- The path of a parsed address is made of characters of the address. -/
theorem split?_path_subset {url d : String} {p : Parts} (h : split? url d = some p) :
    p.path.toList ⊆ url.toList := by
  cases hs : splitOffScheme d (cleanChars url) with
  | mk scheme cs =>
    cases hn : splitOffNetloc? cs with
    | none => simp [split?, hs, hn] at h
    | some q =>
      obtain ⟨net, rest⟩ := q
      simp only [split?, hs, hn, Option.bind_eq_bind, Option.bind_some, Option.pure_def,
        Option.some.injEq] at h
      rw [← h, String.toList_ofList]
      intro c hc
      have hrest := splitOffNetloc?_snd_subset hn
        (cutAt_fst_subset '#' rest (cutAt_fst_subset '?' _ hc))
      exact cleanChars_subset url (splitOffScheme_subset d _ (by rw [hs]; exact hrest))

theorem splitParams_fst_subset (scheme path : String) :
    (splitParams scheme path).1.toList ⊆ path.toList := by
  unfold splitParams
  split
  · dsimp only
    split
    · rw [String.toList_ofList]
      exact List.take_subset _ _
    · exact List.Subset.refl _
  · exact List.Subset.refl _

end Url

namespace Codegen

open Spec Url

/-- An address without square brackets has a path without them. -/
theorem addressPath_ok {u : String} (hu : BracketFree u.toList) :
    ∃ a, addressPath u = .ok a ∧ BracketFree a.toList := by
  obtain ⟨p, hp⟩ := Option.isSome_iff_exists.mp (split?_isSome "" hu)
  refine ⟨(splitParams p.scheme p.path).1, by simp [addressPath, hp], hu.mono fun c hc => ?_⟩
  exact split?_path_subset hp (splitParams_fst_subset _ _ hc)

/-- The API path of a document whose servers have the shape has no square brackets. -/
theorem apiPathOf_ok {spec : Json} (h : ClientShape spec) :
    ∃ a, apiPathOf spec = .ok a ∧ BracketFree a.toList := by
  obtain ⟨fs, rfl⟩ := exists_obj h.obj
  unfold apiPathOf
  rw [Json.getOr?_obj, ok_bind]
  cases hs : (Json.obj fs).get? "servers" with
  | none => exact ⟨"", rfl, by simp [BracketFree]⟩
  | some v =>
    obtain ⟨s, rest, rfl, hobj, hmember⟩ := h.servers v hs
    obtain ⟨sfs, rfl⟩ := exists_obj hobj
    simp only [Option.getD_some, firstItem?, ok_bind, Json.getOr?_obj]
    cases hu : (Json.obj sfs).get? "url" with
    | none => exact ⟨"", rfl, by simp [BracketFree]⟩
    | some w =>
      obtain ⟨t, rfl, ht⟩ := hmember w hu
      by_cases htrue : (Json.str t).truthy = true
      · obtain ⟨a, ha, hfree⟩ := addressPath_ok ht
        exact ⟨a, by simp [htrue, ha], hfree⟩
      · exact ⟨"", by simp [htrue], by simp [BracketFree]⟩

theorem titleOf_ok {spec : Json} (h : ClientShape spec) : ∃ t, titleOf spec = .ok (.str t) := by
  obtain ⟨info, hinfo, -, ⟨t, ht⟩, -⟩ := h.info
  exact ⟨t, by simp only [titleOf, Json.index?_of_get? hinfo, Json.index?_of_get? ht, ok_bind]⟩

/-- The header of a document of the shape: its paths, and an API path without square
brackets. -/
theorem ApiHeader.of?_ok {spec : Json} (h : ClientShape spec) :
    ∃ header, ApiHeader.of? spec = .ok header ∧ spec.get? "paths" = some header.paths ∧
      BracketFree header.apiPath.toList := by
  obtain ⟨ps, hps, -⟩ := h.paths
  obtain ⟨t, ht⟩ := titleOf_ok h
  obtain ⟨a, ha, hfree⟩ := apiPathOf_ok h
  refine ⟨⟨Naming.className ((t.replace " API" "").replace " Api" "") ++ "Client", a, .obj ps⟩, ?_,
    hps, hfree⟩
  simp [ApiHeader.of?, Json.getOr?_of_get? hps, ht, cleanTitle, ha]

/-! ## The configuration file -/

/-- The configuration line of an operation of the shape is written without failure. -/
theorem configLine_ok {d : Json} (h : OperationShape d) {apiPath path : String}
    (hapi : BracketFree apiPath.toList) (hpath : BracketFree path.toList)
    (renamed : List (String × Json)) : ∃ y, configLine apiPath path d renamed = .ok y := by
  obtain ⟨fs, rfl⟩ := exists_obj h.1
  unfold configLine
  rw [Json.getOr?_obj, ok_bind]
  cases hid : (Json.obj fs).get? "operationId" with
  | none => exact ⟨none, rfl⟩
  | some v =>
    by_cases hv : v.truthy = true
    swap
    · exact ⟨none, by simp [hv]⟩
    obtain ⟨op, hop⟩ := h.2 v hid hv
    obtain ⟨ps, hps, hreads⟩ := hop.parameters
    obtain ⟨rs, hrs, hrsobj, hshape⟩ := hop.responses
    obtain ⟨rfs, rfl⟩ := exists_obj hrsobj
    obtain ⟨full, hfull⟩ := joinApiPath_of_bracketFree hapi hpath
    obtain ⟨model, hmodel⟩ := modelNameOfResponse_ok hshape false renamed
    unfold Json.getD at hps hmodel
    simp only [Option.getD_some, hv, Bool.not_true, Bool.false_eq_true, if_false, hfull, ok_bind,
      Json.getOr?_obj, hps, Json.iterItems?, parametersIn_eq hreads, Json.index?_of_get? hrs,
      hmodel]
    exact ⟨_, rfl⟩

/-- The configuration file of a document of the shape is written without failure. -/
theorem configFile_ok {spec : Json} (h : ClientShape spec) (baseUrl : String)
    (renamed : List (String × Json)) : ∃ file, configFile spec baseUrl renamed = .ok file := by
  obtain ⟨ps, hps, hitems⟩ := h.paths
  obtain ⟨t, ht⟩ := titleOf_ok h
  obtain ⟨a, ha, hfree⟩ := apiPathOf_ok h
  simp only [configFile, ht, ok_bind, cleanTitle, Json.getOr?_of_get? hps, ha, membersOf]
  refine exists_ok_bind (exists_mapM_eq_ok fun q hq => ?_) fun entries => ⟨_, rfl⟩
  obtain ⟨ops, hops, hshapes⟩ := (hitems q hq).2
  rw [hops]
  exact exists_filterMapM_ok fun o ho =>
    configLine_ok (hshapes o ho) hfree (hitems q hq).1 renamed

/-! ## The class file -/

theorem classDocLine_ok {spec : Json} (h : ClientShape spec) : ∃ l, classDocLine spec = .ok l := by
  obtain ⟨info, hinfo, hobj, -, hdesc⟩ := h.info
  obtain ⟨ifs, rfl⟩ := exists_obj hobj
  unfold classDocLine
  simp only [Json.getOr?_of_get? hinfo, ok_bind, Json.getOr?_obj]
  cases hd : (Json.obj ifs).get? "description" with
  | none => exact ⟨"", rfl⟩
  | some w =>
    by_cases hw : w.truthy = true
    · obtain ⟨d, rfl⟩ : ∃ d, w = .str d := by
        have hstr := hdesc w hd hw
        cases w <;> simp_all [Json.isStr]
      simp [hw]
    · exact ⟨"", by simp [hw]⟩

/-- The method of an operation of the shape is written without failure: nothing for an
operation without an identifier, else its signature, docstring and body. -/
theorem renderOperation_ok {d : Json} (h : OperationShape d) {path apiPath : String}
    (hpath : BracketFree path.toList) (hapi : BracketFree apiPath.toList) (awaited : Bool)
    (renamed : List (String × Json)) (uses : Uses) :
    ∃ r, renderOperation (.str path) d apiPath awaited renamed uses = .ok r := by
  obtain ⟨fs, rfl⟩ := exists_obj h.1
  cases hid : (Json.obj fs).get? "operationId" with
  | none => exact ⟨("", uses), by simp [renderOperation, Json.getOr?_obj, hid, Json.truthy]⟩
  | some v =>
    by_cases hv : v.truthy = true
    · obtain ⟨op, hop⟩ := h.2 v hid hv
      obtain ⟨model, doc, uses', heq⟩ := renderOperation_eq hop hpath hapi awaited renamed uses
      exact ⟨_, heq⟩
    · exact ⟨("", uses), by simp [renderOperation, Json.getOr?_obj, hid, hv]⟩

/-- The methods of a header whose paths are path items of the shape under paths without square
brackets, and whose API path has none, are written without failure. -/
theorem classMethods_ok {header : ApiHeader} {ps : List (String × Json)}
    (hpaths : header.paths = .obj ps) (hitems : ∀ p ∈ ps, BracketFree p.1.toList ∧ PathItemShape p.2)
    (hapi : BracketFree header.apiPath.toList) (awaited : Bool) (renamed : List (String × Json))
    (uses : Uses) : ∃ r, classMethods header awaited renamed uses = .ok r := by
  unfold classMethods
  rw [hpaths, membersOf, ok_bind]
  apply exists_foldlM_ok_of_forall
  rintro ⟨path, methods⟩ hq acc
  obtain ⟨hfree, ops, hops, hshapes⟩ := hitems _ hq
  dsimp only at hops ⊢
  rw [hops, membersOf, ok_bind]
  apply exists_foldlM_ok_of_forall
  rintro ⟨name, details⟩ ho acc'
  obtain ⟨⟨text, u⟩, hr⟩ := renderOperation_ok (hshapes _ ho) hfree hapi awaited renamed acc'.2
  exact ⟨_, by simp only [hr, ok_bind]; rfl⟩

/-- The class file of a document of the shape is written without failure. -/
theorem classFile_ok {spec : Json} (h : ClientShape spec) (renamed : List (String × Json)) :
    ∃ file, classFile spec renamed = .ok file := by
  obtain ⟨header, hheader, hpaths, hapi⟩ := ApiHeader.of?_ok h
  obtain ⟨ps, hps, hitems⟩ := h.paths
  have hpaths' : header.paths = .obj ps := Option.some.inj (hpaths.symm.trans hps)
  obtain ⟨doc, hdoc⟩ := classDocLine_ok h
  obtain ⟨⟨direct, uses⟩, hdirect⟩ := classMethods_ok hpaths' hitems hapi false renamed {}
  obtain ⟨⟨awaited, uses'⟩, hawaited⟩ := classMethods_ok hpaths' hitems hapi true renamed uses
  exact ⟨_, by simp only [classFile, hheader, hdoc, hdirect, hawaited, ok_bind]; rfl⟩

/-! ## The package -/

/-- Renaming the `Order` or `Test` client to `User` keeps the shape of its document. -/
theorem ClientShape.renamed {spec : Json} (h : ClientShape spec) (title clean : String) :
    ClientShape (renamedSpec spec title clean) := by
  unfold renamedSpec
  split
  · obtain ⟨info, hinfo, hobj, -, hdesc⟩ := h.info
    rw [hinfo]
    exact {
      obj := by rw [Json.isObj_set]; exact h.obj
      info := ⟨_, Json.get?_set_self h.obj _ _, by rw [Json.isObj_set]; exact hobj,
        ⟨"User API", Json.get?_set_self hobj _ _⟩,
        fun d hd => hdesc d (by rwa [Json.get?_set_of_ne (by decide)] at hd)⟩
      servers := fun v hv => h.servers v (by rwa [Json.get?_set_of_ne (by decide)] at hv)
      paths := by rw [Json.get?_set_of_ne (by decide)]; exact h.paths }
  · exact h

/-- The files of a package of documents of the shape are written without failure. -/
theorem packageFiles_ok {specs : List Json} (h : ∀ s ∈ specs, ClientShape s) (baseUrl : String)
    (renamed : List (String × Json)) : ∃ files, packageFiles specs baseUrl renamed = .ok files := by
  unfold packageFiles
  refine exists_ok_bind (exists_mapM_eq_ok fun x hx => ?_) fun names => ?_
  · obtain ⟨s, i⟩ := x
    obtain ⟨t, ht⟩ := titleOf_ok (h s (Model.fst_mem_of_mem_zipIdx hx))
    exact ⟨_, by simp only [ht, ok_bind]; rfl⟩
  · refine exists_ok_bind (exists_mapM_eq_ok fun x hx => ?_) fun clients => ⟨_, rfl⟩
    obtain ⟨s, title, clean⟩ := x
    have hs := (h s (List.of_mem_zip hx).1).renamed title clean
    obtain ⟨config, hconfig⟩ := configFile_ok hs baseUrl renamed
    obtain ⟨cls, hcls⟩ := classFile_ok hs renamed
    exact ⟨_, by simp only [hconfig, hcls, ok_bind]; rfl⟩

end Codegen

end TransitKit
