import TransitKit.Proofs.DocumentShapes
import TransitKit.Proofs.Outcome

/-!
# The schemas and paths that combining gathers

Combining the documents of a folder renames each document's schemas by the mappings of its
API, renames the references inside them and in its paths, and sets them one document after the
other. When the renaming is settled (a new name is never renamed again), every combined schema
is one of a document's schemas under the name its mapping gives it, every such name is set,
and every combined path is one of a document's path items with its references renamed
(`Spec.combine_gathers`).
-/

namespace TransitKit.Spec

open Model

/-- A renaming whose new names, where they are old names too, keep their own name: renaming a
renamed name changes nothing. -/
def SettledRenaming (m : List (String × String)) : Prop :=
  ∀ p ∈ m, ∀ q ∈ m, p.2 = q.1 → q.2 = q.1

instance (m : List (String × String)) : Decidable (SettledRenaming m) :=
  inferInstanceAs (Decidable (∀ p ∈ m, ∀ q ∈ m, p.2 = q.1 → q.2 = q.1))

section Settled

variable {o n : String} {ps : List (String × String)}

theorem SettledRenaming.tail (h : SettledRenaming ((o, n) :: ps)) : SettledRenaming ps :=
  fun p hp q hq => h p (List.mem_cons_of_mem _ hp) q (List.mem_cons_of_mem _ hq)

/-- Under a settled renaming the rest leaves the first new name alone. -/
theorem SettledRenaming.renamedName_new (h : SettledRenaming ((o, n) :: ps)) :
    renamedName ps n = n := by
  unfold renamedName
  cases hl : ps.lookup n with
  | none => rfl
  | some n' =>
    obtain ⟨l₁, l₂, hps, -⟩ := List.lookup_eq_some_iff.mp hl
    have hq : (n, n') ∈ ps := by rw [hps]; simp
    exact h (o, n) List.mem_cons_self (n, n') (List.mem_cons_of_mem _ hq) rfl

end Settled

section Move

variable {S : List (String × Json)} {o n : String}

/-- Moving one entry: a schema now stands under the new name with the old name's schema, or
where it stood, under another name than the old. -/
theorem mem_moveIfPresent_cases {X : String} {w : Json} (h : (X, w) ∈ moveIfPresent S (o, n)) :
    (X = n ∧ (o, w) ∈ S) ∨ ((X, w) ∈ S ∧ X ≠ o) := by
  unfold moveIfPresent moveSchema at h
  split at h
  · split at h
    · rename_i v hv
      rcases Json.mem_setField h with h | h
      · obtain ⟨hmem, hne⟩ := List.mem_filter.mp h
        exact .inr ⟨hmem, by simpa using hne⟩
      · obtain ⟨rfl, rfl⟩ := Prod.mk.inj h
        exact .inl ⟨rfl, Json.mem_of_lookup hv⟩
    · rename_i hany _ hnone
      obtain ⟨v, hv⟩ := lookup_of_any hany
      rw [hv] at hnone
      cases hnone
  · rename_i hany
    refine .inr ⟨h, fun hX => hany (List.any_eq_true.mpr ⟨(X, w), h, by simp [hX]⟩)⟩

theorem mem_keys_moveIfPresent_of_ne {N : String} (hN : N ∈ S.map (·.1)) (hNo : N ≠ o) :
    N ∈ (moveIfPresent S (o, n)).map (·.1) := by
  unfold moveIfPresent moveSchema
  split
  · split
    · refine Json.mem_keys_setField.mpr (.inl ?_)
      obtain ⟨p, hp, rfl⟩ := List.mem_map.mp hN
      exact List.mem_map_of_mem (List.mem_filter.mpr ⟨hp, by simpa using hNo⟩)
    · exact hN
  · exact hN

theorem mem_keys_moveIfPresent_new (ho : o ∈ S.map (·.1)) :
    n ∈ (moveIfPresent S (o, n)).map (·.1) := by
  have hany : S.any (·.1 == o) = true := any_key_iff.mpr ho
  obtain ⟨v, hv⟩ := lookup_of_any hany
  simp only [moveIfPresent, hany, if_true, moveSchema, hv]
  exact Json.mem_keys_setField.mpr (.inr rfl)

theorem moveAll_no_schemas : ∀ m : List (String × String), moveAll m [] = []
  | [] => rfl
  | _ :: m => moveAll_no_schemas m

end Move

/-- Moving the schemas by a settled renaming: every schema that stands afterwards came from a
name that the renaming takes to where it stands, and every name's renamed name is taken. -/
theorem moveAll_settled : ∀ {m : List (String × String)} {S : List (String × Json)},
    SettledRenaming m →
      (∀ X w, (X, w) ∈ moveAll m S → ∃ N, (N, w) ∈ S ∧ X = renamedName m N) ∧
        ∀ N ∈ S.map (·.1), renamedName m N ∈ (moveAll m S).map (·.1)
  | [], S, _ => ⟨fun X w h => ⟨X, h, rfl⟩, fun N hN => hN⟩
  | (o, n) :: ps, S, h => by
    obtain ⟨hsrc, hkeys⟩ := @moveAll_settled ps (moveIfPresent S (o, n)) h.tail
    have hn := h.renamedName_new
    refine ⟨fun X w hX => ?_, fun N hN => ?_⟩
    · obtain ⟨N', hN', rfl⟩ := hsrc X w hX
      rcases mem_moveIfPresent_cases hN' with ⟨rfl, how⟩ | ⟨hN'w, hN'o⟩
      · exact ⟨o, how, by rw [renamedName_cons, if_pos rfl, hn]⟩
      · exact ⟨N', hN'w, by rw [renamedName_cons, if_neg hN'o]⟩
    · show renamedName ((o, n) :: ps) N ∈ (moveAll ps (moveIfPresent S (o, n))).map (·.1)
      by_cases hNo : N = o
      · subst hNo
        have hnew := hkeys n (mem_keys_moveIfPresent_new hN)
        rw [hn] at hnew
        rwa [renamedName_cons, if_pos rfl]
      · rw [renamedName_cons, if_neg hNo]
        exact hkeys N (mem_keys_moveIfPresent_of_ne hN hNo)

section Identity

variable {f : String → String}

mutual
/-- A map that leaves every text alone leaves a value alone. -/
theorem mapRefs_self (hf : ∀ s, f s = s) : ∀ j : Json, mapRefs f j = j
  | .obj fs => by rw [mapRefs, mapRefMembers_self hf fs]
  | .arr xs => by rw [mapRefs, mapRefItems_self hf xs]
  | .null => rfl
  | .bool _ => rfl
  | .int _ => rfl
  | .float _ => rfl
  | .str _ => rfl

theorem mapRefItems_self (hf : ∀ s, f s = s) : ∀ xs : List Json, mapRefItems f xs = xs
  | [] => rfl
  | x :: xs => by rw [mapRefItems, mapRefs_self hf x, mapRefItems_self hf xs]

theorem mapRefMembers_self (hf : ∀ s, f s = s) :
    ∀ fs : List (String × Json), mapRefMembers f fs = fs
  | [] => rfl
  | (k, v) :: rest => by
    have hv : mapRefMember f k v = v := by
      rcases mapRefMember_cases (f := f) k v with h | ⟨-, hstr⟩
      · rw [h, mapRefs_self hf v]
      · obtain ⟨s, rfl⟩ : ∃ s, v = .str s := by
          cases v <;> simp_all [Json.isStr]
        simp [mapRefMember, hf]
    have hrest := mapRefMembers_self hf rest
    rw [mapRefMembers_eq_map] at hrest ⊢
    rw [List.map_cons, hrest, hv]
end

end Identity

/-! ## What processing reads of a document -/

/-- The schemas a document keeps under its components. -/
def documentSchemas (spec : Json) : List (String × Json) :=
  match (spec.get? "components").bind (·.get? "schemas") with
  | some (.obj sfs) => sfs
  | _ => []

/-- The renaming the type mappings give a document, by the title of its API: each old name
with the class name of its new name. -/
def documentRenaming (mappings : List (String × Json)) (spec : Json) : List (String × String) :=
  match (spec.get? "info").bind (·.get? "title") with
  | some (.str t) =>
    match Json.lookup mappings t with
    | some (.obj ms) => ms.filterMap fun p => p.2.str?.map fun n => (p.1, Naming.className n)
    | _ => []
  | _ => []

/-- The name under which processing puts a schema of a document. -/
def buildName (mappings : List (String × Json)) (spec : Json) (n : String) : String :=
  renamedName (documentRenaming mappings spec) n

/-- The schemas of a document once renamed: moved by its renaming, with their references
renamed. -/
def renamedSchemas (mappings : List (String × Json)) (spec : Json) : List (String × Json) :=
  mapRefMembers (renameText (documentRenaming mappings spec))
    (moveAll (documentRenaming mappings spec) (documentSchemas spec))

theorem documentRenaming_of_lookup {mappings : List (String × Json)} {spec : Json} {t : String}
    (ht : (spec.get? "info").bind (·.get? "title") = some (.str t))
    {raw : List (String × String)}
    (hl : Json.lookup mappings t = some (.obj (raw.map fun p => (p.1, .str p.2)))) :
    documentRenaming mappings spec = classRenaming raw := by
  simp [documentRenaming, ht, hl, classRenaming, List.filterMap_map, Json.str?]

theorem documentRenaming_of_lookup_none {mappings : List (String × Json)} {spec : Json}
    {t : String} (ht : (spec.get? "info").bind (·.get? "title") = some (.str t))
    (hl : Json.lookup mappings t = none) : documentRenaming mappings spec = [] := by
  simp [documentRenaming, ht, hl]

/-- Renaming a document gives it its renamed schemas, and renames the references of its
paths. -/
theorem updateEntities_renamed {mappings : List (String × Json)} (hm : MappingsReady mappings)
    {spec : Json} (h : DocumentShape spec) {t : String}
    (ht : (spec.get? "info").bind (·.get? "title") = some (.str t))
    {names names' : List (String × Json)} {spec' : Json}
    (hup : updateEntities mappings spec (.str t) names = .ok (spec', names')) :
    documentSchemas spec' = renamedSchemas mappings spec ∧
      spec'.get? "paths" =
        (spec.get? "paths").map (mapRefs (renameText (documentRenaming mappings spec))) := by
  have hid : ∀ s, renameText [] s = s := fun s => rfl
  cases hl : Json.lookup mappings t with
  | none =>
    have hspec : spec' = spec := by
      simp only [updateEntities, hl, pure, Except.pure, bind, Except.bind, Except.ok.injEq,
        Prod.mk.injEq] at hup
      exact hup.1.symm
    subst hspec
    rw [renamedSchemas, documentRenaming_of_lookup_none ht hl, moveAll, List.foldl_nil,
      mapRefMembers_self hid]
    refine ⟨rfl, ?_⟩
    cases spec'.get? "paths" <;> simp [mapRefs_self hid]
  | some e =>
    obtain ⟨raw, rfl⟩ := hm (t, e) (Json.mem_of_lookup hl)
    have hren := documentRenaming_of_lookup ht hl
    rw [hren]
    obtain ⟨fs, rfl⟩ := Codegen.exists_obj h.client.obj
    obtain ⟨c, hc, hcshape⟩ := h.components
    obtain ⟨cfs, rfl⟩ := Codegen.exists_obj hcshape.1
    have hc' : Json.lookup fs "components" = some (.obj cfs) := hc
    cases hs : Json.lookup cfs "schemas" with
    | some v =>
      obtain ⟨sfs, rfl⟩ := Codegen.exists_obj (hcshape.2 v hs)
      obtain ⟨names'', heq⟩ := updateEntities_eq names hl hc' hs
      rw [heq, Except.ok.injEq, Prod.mk.injEq] at hup
      obtain ⟨rfl, -⟩ := hup
      have hds : documentSchemas (.obj fs) = sfs := by simp [documentSchemas, Json.get?, hc', hs]
      refine ⟨?_, ?_⟩
      · rw [renamedSchemas, hren, hds]
        rw [documentSchemas, get?_mapRefs_of_ne _ (by decide), Json.get?_set_self rfl,
          Option.map_some, Option.bind_some, get?_mapRefs_of_ne _ (by decide),
          Json.get?_set_self rfl, Option.map_some, mapRefs]
      · rw [get?_mapRefs_of_ne _ (by decide), Json.get?_set_of_ne (by decide)]
    | none =>
      have heq : updateEntities mappings (.obj fs) (.str t) names =
          .ok (mapRefs (renameText (classRenaming raw)) (.obj fs),
            (renameSchemas (classRenaming raw) [] names).2) := by
        simp only [updateEntities, hl, mappingMembers, pure, Except.pure, bind, Except.bind]
        rw [mapM_classRenaming]
        · simp only [Json.getOr?, hc', Option.getD_some, hs, Option.getD_none, Json.get?,
            Option.isSome_some, Option.isSome_none, Bool.and_false, Bool.false_eq_true, if_false]
          rw [updateRefs_map _ _ fun p => rfl]
        · exact fun p => rfl
      rw [heq, Except.ok.injEq, Prod.mk.injEq] at hup
      obtain ⟨rfl, -⟩ := hup
      refine ⟨?_, by rw [get?_mapRefs_of_ne _ (by decide)]⟩
      have hds : documentSchemas (.obj fs) = [] := by simp [documentSchemas, Json.get?, hc', hs]
      have hs' : (Json.obj cfs).get? "schemas" = none := hs
      rw [renamedSchemas, hren, hds, moveAll_no_schemas, documentSchemas,
        get?_mapRefs_of_ne _ (by decide), hc, Option.map_some, Option.bind_some, get?_mapRefs_of_ne _ (by decide), hs']
      rfl

/-- A schema that renaming gives a document comes from one of its schemas, under the name
processing gives it, with its references renamed. -/
theorem mem_renamedSchemas {mappings : List (String × Json)} {spec : Json}
    (hs : SettledRenaming (documentRenaming mappings spec)) {e : String × Json}
    (he : e ∈ renamedSchemas mappings spec) :
    ∃ N v, (N, v) ∈ documentSchemas spec ∧ e.1 = buildName mappings spec N ∧
      e.2 = mapRefMember (renameText (documentRenaming mappings spec)) e.1 v := by
  rw [renamedSchemas, mapRefMembers_eq_map] at he
  obtain ⟨⟨X, w⟩, hXw, rfl⟩ := List.mem_map.mp he
  obtain ⟨N, hN, rfl⟩ := (moveAll_settled hs).1 X w hXw
  exact ⟨N, w, hN, rfl, rfl⟩

theorem buildName_mem_keys {mappings : List (String × Json)} {spec : Json}
    (hs : SettledRenaming (documentRenaming mappings spec)) {N : String}
    (hN : N ∈ (documentSchemas spec).map (·.1)) :
    buildName mappings spec N ∈ (renamedSchemas mappings spec).map (·.1) := by
  rw [renamedSchemas, keys_mapRefMembers]
  exact (moveAll_settled hs).2 N hN

/-- A path item that combining gathers from a document: one of its path items, with its
references renamed. -/
def RenamedPath (mappings : List (String × Json)) (spec : Json) (q : String × Json) : Prop :=
  ∃ ps, spec.get? "paths" = some (.obj ps) ∧ ∃ p ∈ ps,
    q.2 = mapRefMember (renameText (documentRenaming mappings spec)) p.1 p.2

/-- A fold over documents whose every step sets a document's renamed schemas after the
schemas gathered and adds only path items of that document gathers the schemas of every
document, and keeps only what some document gives. -/
theorem foldlM_gathers {mappings : List (String × Json)} {f : Combined → Json → Outcome Combined} :
    ∀ {xs : List Json} {c c' : Combined},
      (∀ spec ∈ xs, ∀ c c', f c spec = .ok c' →
        c'.components = Json.setFields c.components (renamedSchemas mappings spec) ∧
          ∀ q ∈ c'.paths, q ∈ c.paths ∨ RenamedPath mappings spec q) →
      xs.foldlM f c = .ok c' →
      (∀ e ∈ c'.components, e ∈ c.components ∨ ∃ spec ∈ xs, e ∈ renamedSchemas mappings spec) ∧
        (∀ X ∈ c.components.map (·.1), X ∈ c'.components.map (·.1)) ∧
        (∀ spec ∈ xs, ∀ X ∈ (renamedSchemas mappings spec).map (·.1),
          X ∈ c'.components.map (·.1)) ∧
        ∀ q ∈ c'.paths, q ∈ c.paths ∨ ∃ spec ∈ xs, RenamedPath mappings spec q
  | [], c, c', _, h => by
    have hc : c' = c := (Except.ok.inj h).symm
    subst hc
    refine ⟨fun e he => .inl he, fun X hX => hX, fun s hs => ?_, fun q hq => .inl hq⟩
    cases hs
  | spec :: xs, c, c', hf, h => by
    simp only [List.foldlM_cons, bind_eq_ok] at h
    obtain ⟨c₁, h₁, h⟩ := h
    obtain ⟨hcomp, hpaths⟩ := hf spec List.mem_cons_self c c₁ h₁
    obtain ⟨hmem, hkeys, hall, hpaths'⟩ :=
      foldlM_gathers (fun s hs => hf s (List.mem_cons_of_mem _ hs)) h
    refine ⟨fun e he => ?_, fun X hX => hkeys X ?_, fun s hs X hX => ?_, fun q hq => ?_⟩
    · rcases hmem e he with he | ⟨s, hs, he⟩
      · rw [hcomp] at he
        rcases Json.mem_setFields he with he | he
        · exact .inl he
        · exact .inr ⟨spec, List.mem_cons_self, he⟩
      · exact .inr ⟨s, List.mem_cons_of_mem _ hs, he⟩
    · rw [hcomp]
      exact Json.mem_keys_setFields.mpr (.inl hX)
    · rcases List.mem_cons.mp hs with rfl | hs
      · exact hkeys X (by rw [hcomp]; exact Json.mem_keys_setFields.mpr (.inr hX))
      · exact hall s hs X hX
    · rcases hpaths' q hq with hq | ⟨s, hs, hq⟩
      · rcases hpaths q hq with hq | hq
        · exact .inl hq
        · exact .inr ⟨spec, List.mem_cons_self, hq⟩
      · exact .inr ⟨s, List.mem_cons_of_mem _ hs, hq⟩

theorem mapRefs_eq_obj {f : String → String} {j : Json} {fs : List (String × Json)}
    (h : mapRefs f j = .obj fs) : ∃ gs, j = .obj gs ∧ fs = mapRefMembers f gs := by
  cases j with
  | obj gs => exact ⟨gs, rfl, (Json.obj.inj h).symm⟩
  | _ => simp [mapRefs] at h

/-- The schemas of a document are those that combining reads from its components. -/
theorem documentSchemas_of_getOr? {spec comp : Json} {sfs : List (String × Json)}
    (hcomp : spec.get? "components" = some comp) (hobj : comp.isObj = true)
    (hsfs : comp.getOr? "schemas" (.obj []) = .ok (.obj sfs)) : documentSchemas spec = sfs := by
  obtain ⟨cfs, rfl⟩ := Codegen.exists_obj hobj
  rw [Json.getOr?_obj, Except.ok.injEq] at hsfs
  unfold documentSchemas
  rw [hcomp, Option.bind_some]
  cases hv : (Json.obj cfs).get? "schemas" with
  | none =>
    rw [hv, Option.getD_none, Json.obj.injEq] at hsfs
    rw [← hsfs]
  | some v =>
    rw [hv, Option.getD_some] at hsfs
    rw [hsfs]

/-- A path item of a renamed document, under any path, is one the document gathers. -/
theorem renamedPath_of_mem {mappings : List (String × Json)} {spec spec' : Json}
    (hpaths : spec'.get? "paths" =
      (spec.get? "paths").map (mapRefs (renameText (documentRenaming mappings spec))))
    {ps : List (String × Json)} (hps : spec'.get? "paths" = some (.obj ps))
    {x q : String × Json} (hx : x ∈ ps) (hq : q.2 = x.2) : RenamedPath mappings spec q := by
  rw [hps] at hpaths
  obtain ⟨ps0, hps0, hpe⟩ := Option.map_eq_some_iff.mp hpaths.symm
  obtain ⟨ms, rfl, rfl⟩ := mapRefs_eq_obj hpe
  rw [mapRefMembers_eq_map] at hx
  obtain ⟨y, hy, rfl⟩ := List.mem_map.mp hx
  exact ⟨ms, hps0, y, hy, hq⟩

/-- Combining documents of the shape gathers the renamed schemas of every document, and only
those, and gathers path items of the documents with their references renamed. -/
theorem combine_gathers {mappings : List (String × Json)} (hm : MappingsReady mappings)
    {specs : List Json} (hspecs : ∀ s ∈ specs, DocumentShape s) {c : Combined}
    (hc : combine mappings specs [] = .ok c) :
    (∀ e ∈ c.components, ∃ spec ∈ specs, e ∈ renamedSchemas mappings spec) ∧
      (∀ spec ∈ specs, ∀ X ∈ (renamedSchemas mappings spec).map (·.1),
        X ∈ c.components.map (·.1)) ∧
      ∀ q ∈ c.paths, ∃ spec ∈ specs, RenamedPath mappings spec q := by
  unfold combine at hc
  obtain ⟨hmem, -, hall, hpaths⟩ :=
    @foldlM_gathers mappings _ _ _ _ (fun spec hspec c c' hstep => by
    have h := hspecs spec hspec
    obtain ⟨info, hinfo, hishape⟩ := h.client.info
    obtain ⟨t, ht⟩ := hishape.2.1
    obtain ⟨a, ha, -⟩ := apiPathOf_ok h.client
    simp only [Json.index?_of_get? hinfo, Json.index?_of_get? ht, ok_bind, ha, bind_eq_ok] at hstep
    obtain ⟨⟨spec', names'⟩, hup, hstep⟩ := hstep
    have ht' : (spec.get? "info").bind (·.get? "title") = some (.str t) := by
      rw [hinfo, Option.bind_some]
      exact ht
    obtain ⟨hds, hps⟩ := updateEntities_renamed hm h ht' hup
    obtain ⟨spec'', names'', hup', hshape'⟩ := updateEntities_ok hm h t c.names
    rw [hup, Except.ok.injEq, Prod.mk.injEq] at hup'
    obtain ⟨rfl, -⟩ := hup'
    obtain ⟨comp, hcomp, hcshape⟩ := hshape'.components
    obtain ⟨sfs, hsfs⟩ := hcshape.schemas_ok
    obtain ⟨ps, hps', hitems⟩ := hshape'.client.paths
    simp only [Json.getOr?_of_get? hcomp, mappingMembers, Json.getOr?_of_get? hps',
      pure_eq_ok] at hstep
    obtain ⟨_, h1, _, h2, fs, h3, _, h4, ms, h5, joined, hjoin, rfl⟩ := hstep
    cases Except.ok.inj h1
    rw [hsfs, Except.ok.injEq] at h2
    subst h2
    cases Except.ok.inj h3
    cases Except.ok.inj h4
    cases Except.ok.inj h5
    have hsch : documentSchemas spec' = sfs := documentSchemas_of_getOr? hcomp hcshape.1 hsfs
    refine ⟨by rw [← hds, hsch]; rfl, fun q hq => ?_⟩
    rcases Json.mem_setFields (show q ∈ Json.setFields c.paths joined from hq) with hq | hq
    · exact .inl hq
    · obtain ⟨x, hx, hxq⟩ := mem_of_mapM_eq_ok hjoin q hq
      refine .inr (renamedPath_of_mem hps hps' hx ?_)
      split at hxq
      · cases Except.ok.inj hxq
        rfl
      · cases hxq) hc
  refine ⟨fun e he => (hmem e he).resolve_left List.not_mem_nil, hall,
    fun q hq => (hpaths q hq).resolve_left List.not_mem_nil⟩

end TransitKit.Spec
