import Mathlib
import TransitKit.Spec.Processor
import TransitKit.Proofs.AddressTemplates
import TransitKit.Proofs.ClassNames

/-!
# Renaming schemas by type mappings

Renaming moves each schema listed under an old name of an API's type mappings to the class name
of its new name, and then renames every reference whose last segment is an old name. The walk
is a pure map of the reference texts and the moves a fold of single moves. When the renaming is
fresh, every schema stands under its renamed name and a plain reference reaches the schema it
reached before; when two old names share a class name, the later move overwrites the earlier.
-/

namespace TransitKit.Text

variable {pat rep : List Char}

/-- Characters at none of whose places the pattern starts are copied. -/
theorem replaceFrom_append_of_unmatched :
    ∀ (pre rest : List Char), (∀ i < pre.length, ¬ pat <+: (pre ++ rest).drop i) →
      replaceFrom pat rep 0 (pre ++ rest) = pre ++ replaceFrom pat rep 0 rest
  | [], _, _ => rfl
  | c :: pre, rest, h => by
    have hnot : pat.isPrefixOf (c :: (pre ++ rest)) = false := by
      rw [Bool.eq_false_iff, ne_eq, List.isPrefixOf_iff_prefix]
      exact h 0 (by simp)
    rw [List.cons_append, replaceFrom, if_neg (by simp [hnot]),
      replaceFrom_append_of_unmatched pre rest fun i hi => by simpa using h (i + 1) (by simp; omega)]
    rfl

/-- A pattern that occurs in a text only at its end is replaced there alone. -/
theorem replaceFrom_at_end (hpat : pat ≠ []) (pre : List Char)
    (h : ∀ i < pre.length, ¬ pat <+: (pre ++ pat).drop i) :
    replaceFrom pat rep 0 (pre ++ pat) = pre ++ rep := by
  have hend := @replaceFrom_match pat rep hpat []
  rw [List.append_nil] at hend
  rw [replaceFrom_append_of_unmatched pre pat h, hend]
  simp [replaceFrom]

/-- A pattern without a slash that is no part of a path starts nowhere in the path and the
slash after it. -/
theorem unmatched_before_segment {p : List Char} (hslash : '/' ∉ pat) (hin : ¬ pat <:+: p) :
    ∀ i < (p ++ ['/']).length, ¬ pat <+: (p ++ ['/'] ++ pat).drop i := by
  intro i hi hpre
  have hle : i ≤ p.length := by simp at hi; omega
  rw [List.append_assoc, List.drop_append_of_le_length hle, List.singleton_append] at hpre
  by_cases hlen : pat.length ≤ (p.drop i).length
  · exact hin ((List.prefix_of_prefix_length_le hpre (List.prefix_append _ _) hlen).isInfix.trans
      (List.drop_suffix i p).isInfix)
  · obtain ⟨rest, hrest⟩ :=
      List.prefix_of_prefix_length_le (List.prefix_append _ _) hpre (by omega)
    rw [← hrest, List.prefix_append_right_inj] at hpre
    cases rest with
    | nil =>
      rw [List.append_nil] at hrest
      exact hlen (hrest ▸ le_rfl)
    | cons d rest =>
      have hd : d = '/' := by simpa using hpre.head
      exact hslash (hrest ▸ List.mem_append_right _ (hd ▸ List.mem_cons_self))

/-- Replacing a segment that follows a slash and occurs nowhere before it changes that
segment alone. -/
theorem replaceAll_last_segment {p n new : String} (hslash : '/' ∉ n.toList)
    (hin : ¬ n.toList <:+: p.toList) :
    replaceAll (p ++ "/" ++ n) n new = p ++ "/" ++ new := by
  have hne : n.toList ≠ [] := fun h => hin (h ▸ List.nil_infix)
  have hn : n.isEmpty = false := by
    rw [Bool.eq_false_iff, ne_eq, String.isEmpty_iff, ← String.toList_inj, String.toList_empty]
    exact hne
  have hsplit : (p ++ "/" ++ n).toList = p.toList ++ ['/'] ++ n.toList := by
    simp only [String.toList_append]
    rfl
  rw [replaceAll, if_neg (by simp [hn]), hsplit,
    replaceFrom_at_end hne _ (unmatched_before_segment hslash hin)]
  apply String.toList_injective
  simp only [String.toList_ofList, String.toList_append]
  rfl

end TransitKit.Text

namespace TransitKit

/-- A key is among the keys exactly when some member is under it. -/
theorem any_key_iff {α : Type} {xs : List (String × α)} {k : String} :
    xs.any (·.1 == k) = true ↔ k ∈ xs.map (·.1) := by
  simp

/-- In a list with distinct keys, a member is what its key looks up. -/
theorem lookup_of_mem {α : Type} {xs : List (String × α)} (hkeys : (xs.map (·.1)).Nodup)
    {k : String} {v : α} (h : (k, v) ∈ xs) : xs.lookup k = some v := by
  obtain ⟨l₁, l₂, rfl⟩ := List.append_of_mem h
  rw [List.lookup_eq_some_iff]
  refine ⟨l₁, l₂, rfl, fun p hp => ?_⟩
  simp only [List.map_append, List.map_cons, List.nodup_append, List.nodup_cons] at hkeys
  have hkp : k ≠ p.1 := fun hk => hkeys.2.2 _ (List.mem_map_of_mem hp) _ List.mem_cons_self hk.symm
  simpa using hkp

end TransitKit

namespace TransitKit.Json

theorem lookup_eq_listLookup (fields : List (String × Json)) (k : String) :
    lookup fields k = fields.lookup k := by
  induction fields with
  | nil => rfl
  | cons p fields ih =>
    obtain ⟨a, v⟩ := p
    by_cases hk : a = k
    · subst hk
      simp [lookup]
    · simp only [lookup, List.find?_cons, List.lookup_cons, beq_eq_false_iff_ne.mpr hk,
        beq_eq_false_iff_ne.mpr (Ne.symm hk)]
      exact ih

/-- In members with distinct keys, looking a key up finds exactly its member. -/
theorem lookup_eq_some_iff {fields : List (String × Json)} (hkeys : (fields.map (·.1)).Nodup)
    {k : String} {v : Json} : lookup fields k = some v ↔ (k, v) ∈ fields := by
  rw [lookup_eq_listLookup]
  refine ⟨fun h => ?_, lookup_of_mem hkeys⟩
  obtain ⟨l₁, l₂, rfl, -⟩ := List.lookup_eq_some_iff.mp h
  simp

theorem exists_eq_obj_of_isObj {j : Json} (h : j.isObj = true) : ∃ fs, j = .obj fs := by
  cases j <;> simp_all [isObj]

theorem setField_of_not_mem {fields : List (String × Json)} {k : String}
    (hk : k ∉ fields.map (·.1)) (v : Json) : setField fields k v = fields ++ [(k, v)] := by
  have hany : fields.any (·.1 == k) = false := Bool.eq_false_iff.mpr (mt any_key_iff.mp hk)
  simp [setField, hany]

/-- A member just set is found under its key. -/
theorem lookup_setField_self (fields : List (String × Json)) (k : String) (v : Json) :
    lookup (setField fields k v) k = some v := by
  unfold setField
  split
  · rename_i hany
    obtain ⟨q, hq⟩ : ∃ q, fields.find? (·.1 == k) = some q := by
      obtain ⟨p, hp, hpk⟩ := List.any_eq_true.mp hany
      exact List.find?_isSome.mpr ⟨p, hp, hpk⟩ |> Option.isSome_iff_exists.mp
    have hqk : q.1 = k := by simpa using List.find?_some hq
    have hsame : ∀ p : String × Json, ((if p.1 == k then (k, v) else p).1 == k) = (p.1 == k) := by
      intro p
      by_cases hp : p.1 = k <;> simp [hp]
    simp only [lookup, List.find?_map, Function.comp_def, hsame, hq, Option.map_some]
    simp [hqk]
  · rename_i hany
    have hnone : fields.find? (·.1 == k) = none := by
      rw [List.find?_eq_none]
      exact fun p hp hpk => hany (List.any_eq_true.mpr ⟨p, hp, hpk⟩)
    simp [lookup, List.find?_append, hnone]

theorem lookup_eq_none_iff {fields : List (String × Json)} {k : String} :
    lookup fields k = none ↔ k ∉ fields.map (·.1) := by
  rw [lookup_eq_listLookup, List.lookup_eq_none_iff]
  simp only [bne_iff_ne, ne_eq, List.mem_map, not_exists, not_and]
  exact ⟨fun h p hp hk => h p hp hk.symm, fun h p hp hk => h p hp hk.symm⟩

theorem isSome_lookup_iff {fields : List (String × Json)} {k : String} :
    (lookup fields k).isSome ↔ k ∈ fields.map (·.1) := by
  rw [Option.isSome_iff_ne_none, ne_eq, lookup_eq_none_iff, not_not]

end TransitKit.Json

namespace TransitKit.Spec

open Text

/-! ## The reference text of a schema -/

/-- The path under which a description keeps its schemas. -/
def schemasPath : String := "#/components/schemas"

/-- The reference text of the schema named `n`. -/
def schemaRef (n : String) : String := schemasPath ++ "/" ++ n

theorem refName_schemaRef {n : String} (hslash : '/' ∉ n.toList) : refName (schemaRef n) = n :=
  Naming.lastPiece_append_sep hslash

/-! ## Renaming references -/

/-- The name a renaming gives a schema name: its new name when it is an old one, else the
name itself. -/
def renamedName (m : List (String × String)) (n : String) : String := (m.lookup n).getD n

/-- A reference text after renaming: the last segment is replaced wherever it occurs when the
renaming names it. -/
def renameText (m : List (String × String)) (ref : String) : String :=
  match m.lookup (refName ref) with
  | some n => replaceAll ref (refName ref) n
  | none => ref

/-- A renaming as the table of texts the reference walk reads. -/
def refTable (m : List (String × String)) : List (String × Json) :=
  m.map fun p => (p.1, .str p.2)

mutual
/-- A value with the text of every `$ref` member mapped. -/
def mapRefs (f : String → String) : Json → Json
  | .obj fs => .obj (mapRefMembers f fs)
  | .arr xs => .arr (mapRefItems f xs)
  | j => j

/-- Items with the text of every `$ref` member mapped. -/
def mapRefItems (f : String → String) : List Json → List Json
  | [] => []
  | x :: xs => mapRefs f x :: mapRefItems f xs

/-- Members with the text of every `$ref` member mapped. -/
def mapRefMembers (f : String → String) : List (String × Json) → List (String × Json)
  | [] => []
  | (k, .str s) :: rest => (k, .str (if k = "$ref" then f s else s)) :: mapRefMembers f rest
  | (k, v) :: rest => (k, mapRefs f v) :: mapRefMembers f rest
end

/-- A member keeps its key, and its value is mapped as a whole unless it is a `$ref` text. -/
theorem mapRefMembers_cons (f : String → String) (k : String) (v : Json)
    (rest : List (String × Json)) :
    ∃ w, mapRefMembers f ((k, v) :: rest) = (k, w) :: mapRefMembers f rest ∧
      (k ≠ "$ref" ∨ v.isStr = false → w = mapRefs f v) := by
  cases v with
  | str s =>
    refine ⟨_, rfl, fun h => ?_⟩
    have hk : k ≠ "$ref" := h.resolve_right (by simp [Json.isStr])
    simp [hk, mapRefs]
  | null => exact ⟨_, rfl, fun _ => rfl⟩
  | bool _ => exact ⟨_, rfl, fun _ => rfl⟩
  | int _ => exact ⟨_, rfl, fun _ => rfl⟩
  | float _ => exact ⟨_, rfl, fun _ => rfl⟩
  | arr _ => exact ⟨_, rfl, fun _ => rfl⟩
  | obj _ => exact ⟨_, rfl, fun _ => rfl⟩

@[simp] theorem keys_mapRefMembers (f : String → String) :
    ∀ fs : List (String × Json), (mapRefMembers f fs).map (·.1) = fs.map (·.1)
  | [] => rfl
  | (k, v) :: rest => by
    obtain ⟨w, hw, -⟩ := mapRefMembers_cons f k v rest
    rw [hw, List.map_cons, List.map_cons, keys_mapRefMembers f rest]

/-- Looking up a member that is no `$ref` text finds its value mapped. -/
theorem lookup_mapRefMembers (f : String → String) {k : String} :
    ∀ {fs : List (String × Json)}, (∀ p ∈ fs, p.1 = k → k ≠ "$ref" ∨ p.2.isStr = false) →
      Json.lookup (mapRefMembers f fs) k = (Json.lookup fs k).map (mapRefs f)
  | [], _ => rfl
  | (k', v) :: rest, h => by
    obtain ⟨w, hw, hwv⟩ := mapRefMembers_cons f k' v rest
    rw [hw]
    by_cases hk : k' = k
    · subst hk
      simp [Json.lookup, hwv (h _ List.mem_cons_self rfl)]
    · have hrest := lookup_mapRefMembers f fun p hp => h p (List.mem_cons_of_mem _ hp)
      simpa [Json.lookup, hk] using hrest

theorem lookup_refTable (m : List (String × String)) (k : String) :
    Json.lookup (refTable m) k = (m.lookup k).map .str := by
  induction m with
  | nil => rfl
  | cons p m ih =>
    obtain ⟨a, b⟩ := p
    by_cases hk : a = k
    · subst hk
      simp [refTable, Json.lookup]
    · simp only [refTable, Json.lookup, List.map_cons, List.find?_cons, List.lookup_cons,
        beq_eq_false_iff_ne.mpr hk, beq_eq_false_iff_ne.mpr (Ne.symm hk)]
      exact ih

theorem renameRef_refTable (m : List (String × String)) (s : String) :
    renameRef (refTable m) s = .ok (.str (renameText m s)) := by
  simp only [renameRef, renameText, lookup_refTable]
  cases m.lookup (refName s) <;> rfl

mutual
/-- The reference walk of a renaming never fails: it maps every `$ref` text by
`renameText`. -/
theorem updateRefs_refTable (m : List (String × String)) :
    ∀ j, updateRefs (refTable m) j = .ok (mapRefs (renameText m) j)
  | .obj fs => by
    rw [updateRefs, mapRefs, updateMembers_refTable m fs]
    rfl
  | .arr xs => by
    rw [updateRefs, mapRefs, updateItems_refTable m xs]
    rfl
  | .null => rfl
  | .bool _ => rfl
  | .int _ => rfl
  | .float _ => rfl
  | .str _ => rfl

theorem updateItems_refTable (m : List (String × String)) :
    ∀ xs, updateItems (refTable m) xs = .ok (mapRefItems (renameText m) xs)
  | [] => rfl
  | x :: xs => by
    rw [updateItems, mapRefItems, updateRefs_refTable m x, updateItems_refTable m xs]
    rfl

theorem updateMembers_refTable (m : List (String × String)) :
    ∀ fs, updateMembers (refTable m) fs = .ok (mapRefMembers (renameText m) fs)
  | [] => rfl
  | (k, v) :: rest => by
    obtain ⟨w, hw, hwv⟩ := mapRefMembers_cons (renameText m) k v rest
    unfold updateMembers
    rw [updateMembers_refTable m rest]
    split
    · rw [renameRef_refTable]
      simp [mapRefMembers]
    · rename_i hother
      have hkv : k ≠ "$ref" ∨ v.isStr = false := by
        by_cases hk : k = "$ref"
        · cases v <;> simp_all [Json.isStr]
        · exact .inl hk
      rw [updateRefs_refTable m v, hw, hwv hkv]
      rfl
end

/-! ## Moving schemas -/

/-- One entry of a renaming applied to the schemas: the schema under the old name, if there
is one, moves to the new name. -/
def moveIfPresent (S : List (String × Json)) (p : String × String) : List (String × Json) :=
  if S.any (·.1 == p.1) then moveSchema S p.1 p.2 else S

/-- The schemas after every entry of a renaming, in order. -/
def moveAll (m : List (String × String)) (S : List (String × Json)) : List (String × Json) :=
  m.foldl moveIfPresent S

theorem renameSchemas_fst :
    ∀ (m : List (String × String)) (S names : List (String × Json)),
      (renameSchemas m S names).1 = moveAll m S
  | [], _, _ => rfl
  | (o, n) :: ps, S, names => by
    unfold renameSchemas moveAll
    rw [List.foldl_cons, List.foldl_cons]
    by_cases ho : S.any (·.1 == o) = true
    · simp only [ho, if_true, moveIfPresent]
      exact renameSchemas_fst ps _ _
    · simp only [ho, Bool.false_eq_true, if_false, moveIfPresent]
      exact renameSchemas_fst ps _ _

/-- A renaming that moves schemas without loss: old names distinct, new names distinct, no
new name another entry's old name, and no new name another schema's name. -/
structure FreshRenaming (m : List (String × String)) (names : List String) : Prop where
  olds_nodup : (m.map (·.1)).Nodup
  news_nodup : (m.map (·.2)).Nodup
  new_not_old : ∀ p ∈ m, ∀ q ∈ m, p.2 = q.1 → p = q
  new_not_schema : ∀ p ∈ m, p.2 ∈ names → p.2 = p.1

theorem renamedName_cons (o n : String) (ps : List (String × String)) (N : String) :
    renamedName ((o, n) :: ps) N = if N = o then n else renamedName ps N := by
  by_cases h : N = o
  · simp [renamedName, h]
  · simp [renamedName, List.lookup_cons, beq_eq_false_iff_ne.mpr h, h]

theorem renamedName_of_not_mem {m : List (String × String)} {N : String}
    (h : N ∉ m.map (·.1)) : renamedName m N = N := by
  have hnone : m.lookup N = none := by
    rw [List.lookup_eq_none_iff]
    intro p hp
    simpa using fun hNp => h (List.mem_map.mpr ⟨p, hp, hNp.symm⟩)
  simp [renamedName, hnone]

theorem mem_of_renamedName {m : List (String × String)} {N : String} (h : N ∈ m.map (·.1)) :
    (N, renamedName m N) ∈ m := by
  obtain ⟨a, ha⟩ : ∃ a, m.lookup N = some a := by
    cases hl : m.lookup N with
    | some a => exact ⟨a, rfl⟩
    | none =>
      obtain ⟨p, hp, rfl⟩ := List.mem_map.mp h
      simpa using List.lookup_eq_none_iff.mp hl p hp
  obtain ⟨l₁, l₂, hm, -⟩ := List.lookup_eq_some_iff.mp ha
  rw [renamedName, ha, Option.getD_some, hm]
  simp

namespace FreshRenaming

variable {m : List (String × String)} {names : List String}

/-- A fresh renaming gives distinct names to distinct schemas and old names. -/
theorem renamedName_inj (h : FreshRenaming m names) {N M : String}
    (hN : N ∈ names ∨ N ∈ m.map (·.1)) (hM : M ∈ names ∨ M ∈ m.map (·.1))
    (heq : renamedName m N = renamedName m M) : N = M := by
  have mixed : ∀ {A B}, A ∈ m.map (·.1) → B ∈ names → B ∉ m.map (·.1) →
      renamedName m A = renamedName m B → A = B := by
    intro A B hA hB hB' hAB
    rw [renamedName_of_not_mem hB'] at hAB
    have hmem := mem_of_renamedName hA
    have := h.new_not_schema _ hmem (hAB ▸ hB)
    exact this.symm.trans hAB
  by_cases hNo : N ∈ m.map (·.1) <;> by_cases hMo : M ∈ m.map (·.1)
  · have hp := List.inj_on_of_nodup_map h.news_nodup (mem_of_renamedName hNo)
      (mem_of_renamedName hMo) heq
    exact (Prod.mk.inj hp).1
  · exact mixed hNo (hM.resolve_right hMo) hMo heq
  · exact (mixed hMo (hN.resolve_right hNo) hNo heq.symm).symm
  · rwa [renamedName_of_not_mem hNo, renamedName_of_not_mem hMo] at heq

/-- After moving the first entry, the rest of a fresh renaming is fresh for the new names. -/
theorem tail {o n : String} {ps : List (String × String)} {names' : List String}
    (h : FreshRenaming ((o, n) :: ps) names) (hsub : ∀ x ∈ names', x ∈ names ∨ x = n) :
    FreshRenaming ps names' where
  olds_nodup := (List.nodup_cons.mp h.olds_nodup).2
  news_nodup := (List.nodup_cons.mp h.news_nodup).2
  new_not_old p hp q hq := h.new_not_old p (List.mem_cons_of_mem _ hp) q (List.mem_cons_of_mem _ hq)
  new_not_schema p hp hx := by
    rcases hsub _ hx with hx | hx
    · exact h.new_not_schema p (List.mem_cons_of_mem _ hp) hx
    · have := (List.nodup_cons.mp h.news_nodup).1
      exact absurd (List.mem_map.mpr ⟨p, hp, hx⟩) this

end FreshRenaming

section Move

variable {S : List (String × Json)} {o n : String}

theorem not_mem_keys_filter (hn : n ∈ S.map (·.1) → n = o) :
    n ∉ (S.filter (·.1 != o)).map (·.1) := by
  simp only [List.mem_map, List.mem_filter, bne_iff_ne, ne_eq, not_exists, not_and]
  rintro p ⟨hp, hpo⟩ hpn
  exact hpo (hpn.trans (hn (hpn ▸ List.mem_map_of_mem hp)))

/-- A present schema is taken out and put back at the end under the new name, which no
other schema has. -/
theorem moveIfPresent_of_mem (hS : (S.map (·.1)).Nodup) (hn : n ∈ S.map (·.1) → n = o)
    {v₀ : Json} (hv₀ : (o, v₀) ∈ S) :
    moveIfPresent S (o, n) = S.filter (·.1 != o) ++ [(n, v₀)] := by
  have hany : S.any (·.1 == o) = true := List.any_eq_true.mpr ⟨_, hv₀, beq_self_eq_true o⟩
  simp only [moveIfPresent, hany, if_true, moveSchema, (Json.lookup_eq_some_iff hS).mpr hv₀,
    Json.setField_of_not_mem (not_mem_keys_filter hn)]

theorem moveIfPresent_of_not_mem (ho : o ∉ S.map (·.1)) : moveIfPresent S (o, n) = S := by
  have hany : S.any (·.1 == o) = false := Bool.eq_false_iff.mpr (mt any_key_iff.mp ho)
  simp [moveIfPresent, hany]

/-- Moving one entry: the schema of the old name, if any, now stands under the new name, and
the others stay. -/
theorem mem_moveIfPresent (hS : (S.map (·.1)).Nodup) (hn : n ∈ S.map (·.1) → n = o)
    {X : String} {w : Json} :
    (X, w) ∈ moveIfPresent S (o, n) ↔ (X = n ∧ (o, w) ∈ S) ∨ ((X, w) ∈ S ∧ X ≠ o) := by
  by_cases ho : o ∈ S.map (·.1)
  · obtain ⟨v₀, hv₀⟩ : ∃ v₀, (o, v₀) ∈ S := by simpa using ho
    have hw : (o, w) ∈ S ↔ w = v₀ :=
      ⟨fun h => Option.some.inj (((Json.lookup_eq_some_iff hS).mpr h).symm.trans
        ((Json.lookup_eq_some_iff hS).mpr hv₀)), fun h => h ▸ hv₀⟩
    rw [moveIfPresent_of_mem hS hn hv₀, hw]
    simp only [List.mem_append, List.mem_filter, List.mem_singleton, Prod.mk.injEq, bne_iff_ne,
      ne_eq]
    tauto
  · have hnot : (o, w) ∉ S := fun h => ho (List.mem_map.mpr ⟨_, h, rfl⟩)
    have hne : (X, w) ∈ S → X ≠ o := fun h hX => hnot (hX ▸ h)
    rw [moveIfPresent_of_not_mem ho]
    tauto

theorem keys_moveIfPresent (hS : (S.map (·.1)).Nodup) (hn : n ∈ S.map (·.1) → n = o)
    {x : String} (hx : x ∈ (moveIfPresent S (o, n)).map (·.1)) : x ∈ S.map (·.1) ∨ x = n := by
  obtain ⟨⟨X, w⟩, hmem, rfl⟩ := List.mem_map.mp hx
  rcases (mem_moveIfPresent hS hn).mp hmem with ⟨rfl, -⟩ | ⟨hXw, -⟩
  · exact .inr rfl
  · exact .inl (List.mem_map_of_mem hXw)

theorem nodup_moveIfPresent (hS : (S.map (·.1)).Nodup) (hn : n ∈ S.map (·.1) → n = o) :
    ((moveIfPresent S (o, n)).map (·.1)).Nodup := by
  by_cases ho : o ∈ S.map (·.1)
  · obtain ⟨v₀, hv₀⟩ : ∃ v₀, (o, v₀) ∈ S := by simpa using ho
    rw [moveIfPresent_of_mem hS hn hv₀, List.map_append, List.nodup_append]
    refine ⟨(List.filter_sublist.map _).nodup hS, List.nodup_singleton n, ?_⟩
    intro a ha b hb hab
    have hb' : b = n := by simpa using hb
    exact not_mem_keys_filter hn (hb' ▸ hab ▸ ha)
  · rwa [moveIfPresent_of_not_mem ho]

end Move

/-- Moving a whole fresh renaming: every schema stands under its renamed name, nothing else
is there, and the names stay distinct. -/
theorem moveAll_spec : ∀ {m : List (String × String)} {S : List (String × Json)},
    (S.map (·.1)).Nodup → FreshRenaming m (S.map (·.1)) →
      ((moveAll m S).map (·.1)).Nodup ∧
        ∀ X w, (X, w) ∈ moveAll m S ↔ ∃ N, (N, w) ∈ S ∧ X = renamedName m N
  | [], S, hS, _ => ⟨hS, fun X w => ⟨fun h => ⟨X, h, rfl⟩, by rintro ⟨N, hN, rfl⟩; exact hN⟩⟩
  | (o, n) :: ps, S, hS, h => by
    have hn : n ∈ S.map (·.1) → n = o := h.new_not_schema (o, n) List.mem_cons_self
    have hnps : renamedName ps n = n := by
      refine renamedName_of_not_mem fun hmem => ?_
      obtain ⟨q, hq, hqn⟩ := List.mem_map.mp hmem
      have hoq := h.new_not_old (o, n) List.mem_cons_self q (List.mem_cons_of_mem _ hq) hqn.symm
      exact (List.nodup_cons.mp h.olds_nodup).1 (List.mem_map.mpr ⟨q, hq, by rw [← hoq]⟩)
    obtain ⟨hnodup, hmem⟩ := moveAll_spec (nodup_moveIfPresent hS hn)
      (h.tail fun x hx => keys_moveIfPresent hS hn hx)
    refine ⟨hnodup, fun X w => (hmem X w).trans ⟨?_, ?_⟩⟩
    · rintro ⟨N', hN', rfl⟩
      rcases (mem_moveIfPresent hS hn).mp hN' with ⟨rfl, how⟩ | ⟨hN'w, hN'o⟩
      · exact ⟨o, how, by rw [renamedName_cons, if_pos rfl, hnps]⟩
      · exact ⟨N', hN'w, by rw [renamedName_cons, if_neg hN'o]⟩
    · rintro ⟨N, hN, rfl⟩
      by_cases hNo : N = o
      · subst hNo
        exact ⟨n, (mem_moveIfPresent hS hn).mpr (.inl ⟨rfl, hN⟩), by
          rw [renamedName_cons, if_pos rfl, hnps]⟩
      · exact ⟨N, (mem_moveIfPresent hS hn).mpr (.inr ⟨hN, hNo⟩), by
          rw [renamedName_cons, if_neg hNo]⟩

/-- Under a fresh renaming, the renamed name of a schema or an old name finds what the name
found before. -/
theorem lookup_moveAll {m : List (String × String)} {S : List (String × Json)}
    (hS : (S.map (·.1)).Nodup) (h : FreshRenaming m (S.map (·.1))) {N : String}
    (hN : N ∈ S.map (·.1) ∨ N ∈ m.map (·.1)) :
    Json.lookup (moveAll m S) (renamedName m N) = Json.lookup S N := by
  obtain ⟨hnodup, hmem⟩ := moveAll_spec hS h
  cases hl : Json.lookup S N with
  | some v =>
    have hNv := (Json.lookup_eq_some_iff hS).mp hl
    exact (Json.lookup_eq_some_iff hnodup).mpr ((hmem _ v).mpr ⟨N, hNv, rfl⟩)
  | none =>
    rw [Json.lookup_eq_none_iff] at hl ⊢
    rintro hX
    obtain ⟨⟨X, w⟩, hXw, hXN⟩ := List.mem_map.mp hX
    obtain ⟨M, hMw, hNM⟩ := (hmem X w).mp hXw
    have hMS : M ∈ S.map (·.1) := List.mem_map_of_mem hMw
    have hNM' : N = M := h.renamedName_inj hN (.inl hMS) (hXN.symm.trans hNM)
    exact hl (hNM' ▸ hMS)

/-- A reference to a schema by a name without a slash that does not occur in the schemas'
path changes in its last segment alone: to the renamed name. -/
theorem renameText_schemaRef (m : List (String × String)) {N : String} (hslash : '/' ∉ N.toList)
    (hin : ¬ N.toList <:+: schemasPath.toList) :
    renameText m (schemaRef N) = schemaRef (renamedName m N) := by
  unfold renameText renamedName
  rw [refName_schemaRef hslash]
  cases m.lookup N with
  | some n => exact replaceAll_last_segment hslash hin
  | none => rfl

/-! ## Renaming a description -/

/-- The renaming an API's type mappings give: each old name with the class name of its new
name. -/
def classRenaming (raw : List (String × String)) : List (String × String) :=
  raw.map fun p => (p.1, Naming.className p.2)

/-- The schema a description keeps under a name, if any. -/
def schemaAt (spec : Json) (n : String) : Option Json :=
  ((spec.get? "components").bind (·.get? "schemas")).bind (·.get? n)

theorem mapM_classRenaming (raw : List (String × String))
    (F : String × Json → Outcome (String × String))
    (hF : ∀ p : String × String, F (p.1, .str p.2) = .ok (p.1, Naming.className p.2)) :
    (raw.map fun p => (p.1, Json.str p.2)).mapM F = .ok (classRenaming raw) := by
  induction raw with
  | nil => rfl
  | cons p raw ih => rw [List.map_cons, List.mapM_cons, hF p, ih]; rfl

theorem updateRefs_map (m : List (String × String)) (g : String × String → String × Json)
    (hg : ∀ p, g p = (p.1, .str p.2)) (j : Json) :
    updateRefs (m.map g) j = .ok (mapRefs (renameText m) j) := by
  rw [List.map_congr_left fun p _ => hg p]
  exact updateRefs_refTable m j

/-- Renaming a description whose schemas are an object: the schemas move, then every `$ref`
text is renamed. -/
theorem updateEntities_eq {mappings : List (String × Json)} {api : String}
    {raw : List (String × String)} {fs cfs sfs : List (String × Json)} (names : List (String × Json))
    (hapi : Json.lookup mappings api = some (.obj (raw.map fun p => (p.1, .str p.2))))
    (hcomp : Json.lookup fs "components" = some (.obj cfs))
    (hschemas : Json.lookup cfs "schemas" = some (.obj sfs)) :
    ∃ names', updateEntities mappings (.obj fs) (.str api) names =
      .ok (mapRefs (renameText (classRenaming raw)) ((Json.obj fs).set "components"
        ((Json.obj cfs).set "schemas" (.obj (moveAll (classRenaming raw) sfs)))), names') := by
  rcases hr : renameSchemas (classRenaming raw) sfs names with ⟨S₁, names₁⟩
  have hS₁ : S₁ = moveAll (classRenaming raw) sfs := by
    rw [← renameSchemas_fst _ sfs names, hr]
  subst hS₁
  refine ⟨names₁, ?_⟩
  simp only [updateEntities, hapi, mappingMembers, pure, Except.pure, bind, Except.bind]
  rw [mapM_classRenaming]
  · simp only [Json.getOr?, hcomp, Option.getD_some, hschemas, Json.get?, Option.isSome_some,
      Bool.and_self, if_true, Json.set, hr]
    rw [updateRefs_map]
    exact fun p => rfl
  · exact fun p => rfl

/-- After renaming, the schema under a name is the one the moved schemas hold there, with its
references renamed. -/
theorem schemaAt_mapRefs (f : String → String) (fs cfs S : List (String × Json))
    (hS : ∀ p ∈ S, p.2.isStr = false) (X : String) :
    schemaAt (mapRefs f ((Json.obj fs).set "components" ((Json.obj cfs).set "schemas" (.obj S)))) X =
      (Json.lookup S X).map (mapRefs f) := by
  have hkey : ∀ k, k ≠ "$ref" → ∀ (L : List (String × Json)), ∀ p ∈ L, p.1 = k →
      k ≠ "$ref" ∨ p.2.isStr = false := fun _ hk _ _ _ _ => .inl hk
  simp only [schemaAt, Json.set, mapRefs, Json.get?,
    lookup_mapRefMembers f (hkey "components" (by decide) _), Json.lookup_setField_self,
    lookup_mapRefMembers f (hkey "schemas" (by decide) _), Option.map_some, Option.bind_some,
    lookup_mapRefMembers f fun p hp _ => .inr (hS p hp)]

theorem schemaAt_obj {fs cfs sfs : List (String × Json)}
    (hcomp : Json.lookup fs "components" = some (.obj cfs))
    (hschemas : Json.lookup cfs "schemas" = some (.obj sfs)) (N : String) :
    schemaAt (.obj fs) N = Json.lookup sfs N := by
  simp [schemaAt, Json.get?, hcomp, hschemas]

/-- Renaming a description by a fresh renaming keeps every reference's target: the schemas
are exactly the old ones under their renamed names, and a reference to a schema or an old name
changes in its last segment alone and reaches the schema it reached before, with its own
references renamed. -/
theorem updateEntities_fresh {mappings : List (String × Json)} {api : String}
    {raw : List (String × String)} {fs cfs sfs : List (String × Json)} (names : List (String × Json))
    (hapi : Json.lookup mappings api = some (.obj (raw.map fun p => (p.1, .str p.2))))
    (hcomp : Json.lookup fs "components" = some (.obj cfs))
    (hschemas : Json.lookup cfs "schemas" = some (.obj sfs))
    (hobj : ∀ p ∈ sfs, p.2.isObj = true) (hkeys : (sfs.map (·.1)).Nodup)
    (hfresh : FreshRenaming (classRenaming raw) (sfs.map (·.1))) :
    ∃ spec' names', updateEntities mappings (.obj fs) (.str api) names = .ok (spec', names') ∧
      spec' = mapRefs (renameText (classRenaming raw)) ((Json.obj fs).set "components"
        ((Json.obj cfs).set "schemas" (.obj (moveAll (classRenaming raw) sfs)))) ∧
      (∀ X, (schemaAt spec' X).isSome ↔
        ∃ N ∈ sfs.map (·.1), X = renamedName (classRenaming raw) N) ∧
      ∀ N ∈ sfs.map (·.1) ++ raw.map (·.1),
        ('/' ∉ N.toList → ¬ N.toList <:+: schemasPath.toList →
          renameText (classRenaming raw) (schemaRef N) =
            schemaRef (renamedName (classRenaming raw) N)) ∧
        schemaAt spec' (renamedName (classRenaming raw) N) =
          (schemaAt (.obj fs) N).map (mapRefs (renameText (classRenaming raw))) := by
  obtain ⟨names', heq⟩ := updateEntities_eq names hapi hcomp hschemas
  refine ⟨_, names', heq, rfl, ?_⟩
  obtain ⟨-, hmem⟩ := moveAll_spec hkeys hfresh
  have hstr : ∀ p ∈ moveAll (classRenaming raw) sfs, p.2.isStr = false := by
    intro p hp
    obtain ⟨N, hN, -⟩ := (hmem p.1 p.2).mp hp
    obtain ⟨o, ho⟩ := Json.exists_eq_obj_of_isObj (hobj _ hN)
    rw [ho]
    rfl
  have hat := schemaAt_mapRefs (renameText (classRenaming raw)) fs cfs _ hstr
  have holds : (classRenaming raw).map (·.1) = raw.map (·.1) := by simp [classRenaming]
  refine ⟨fun X => ?_, fun N hN => ⟨renameText_schemaRef _, ?_⟩⟩
  · rw [hat, Option.isSome_map, Json.isSome_lookup_iff]
    simp only [List.mem_map, hmem]
    constructor
    · rintro ⟨⟨_, w⟩, ⟨N, hN, rfl⟩, rfl⟩
      exact ⟨N, ⟨(N, w), hN, rfl⟩, rfl⟩
    · rintro ⟨N, ⟨⟨_, w⟩, hN, rfl⟩, rfl⟩
      exact ⟨(_, w), ⟨_, hN, rfl⟩, rfl⟩
  · rw [hat, schemaAt_obj hcomp hschemas,
      lookup_moveAll hkeys hfresh (by rw [holds]; exact List.mem_append.mp hN)]

/-- Two schemas of the bike point API renamed by its mappings, the array referring to the
place, which refers to itself; a third schema keeps its name. -/
def placeRaw : List (String × String) :=
  [("Tfl-Api-Presentation-Entities-Place", "Place"),
    ("Tfl-Api-Presentation-Entities-PlaceArray", "PlaceArray")]

def placeMappings : List (String × Json) :=
  [("BikePoint", .obj (placeRaw.map fun p => (p.1, .str p.2)))]

def placeSchemas : List (String × Json) :=
  [("Tfl-Api-Presentation-Entities-Place", .obj [("type", .str "object"),
      ("properties", .obj [("children", .obj [("type", .str "array"),
        ("items", .obj [("$ref", .str "#/components/schemas/Tfl-Api-Presentation-Entities-Place")])])])]),
    ("Tfl-Api-Presentation-Entities-PlaceArray", .obj [("type", .str "array"),
      ("items", .obj [("$ref", .str "#/components/schemas/Tfl-Api-Presentation-Entities-Place")])]),
    ("Tfl-Api-Presentation-Entities-AdditionalProperties", .obj [("type", .str "object")])]

def placeComponents : List (String × Json) := [("schemas", .obj placeSchemas)]

/-- A document whose one operation answers with the array of places. -/
def placeDoc : List (String × Json) :=
  [("paths", .obj [("/BikePoint", .obj [("get", .obj [("responses", .obj [("200", .obj
      [("content", .obj [("application/json", .obj [("schema", .obj
        [("$ref", .str "#/components/schemas/Tfl-Api-Presentation-Entities-PlaceArray")])])])])])])])]),
    ("components", .obj placeComponents)]

theorem place_updateEntities_fresh :
    ∃ spec' names', updateEntities placeMappings (.obj placeDoc) (.str "BikePoint") [] =
        .ok (spec', names') ∧
      spec' = mapRefs (renameText (classRenaming placeRaw)) ((Json.obj placeDoc).set
        "components" ((Json.obj placeComponents).set "schemas"
          (.obj (moveAll (classRenaming placeRaw) placeSchemas)))) ∧
      (∀ X, (schemaAt spec' X).isSome ↔
        ∃ N ∈ placeSchemas.map (·.1), X = renamedName (classRenaming placeRaw) N) ∧
      ∀ N ∈ placeSchemas.map (·.1) ++ placeRaw.map (·.1),
        ('/' ∉ N.toList → ¬ N.toList <:+: schemasPath.toList →
          renameText (classRenaming placeRaw) (schemaRef N) =
            schemaRef (renamedName (classRenaming placeRaw) N)) ∧
        schemaAt spec' (renamedName (classRenaming placeRaw) N) =
          (schemaAt (.obj placeDoc) N).map (mapRefs (renameText (classRenaming placeRaw))) :=
  updateEntities_fresh [] rfl rfl rfl (by decide) (by decide)
    ⟨by decide, by decide +kernel, by decide +kernel, by decide +kernel⟩

/-- Two old names of the bike point API that share the class name `PlaceArray`, as its type
mappings list them. -/
def placeArraysRaw : List (String × String) :=
  [("Tfl-Api-Presentation-Entities-PlaceArray", "PlaceArray"),
    ("Tfl-Api-Presentation-Entities-PlaceArray-1", "PlaceArray")]

def placeArraysDoc : List (String × Json) :=
  [("components", .obj [("schemas", .obj
    [("Tfl-Api-Presentation-Entities-PlaceArray",
        .obj [("type", .str "array"), ("description", .str "first")]),
      ("Tfl-Api-Presentation-Entities-PlaceArray-1",
        .obj [("type", .str "array"), ("description", .str "second")])])])]

def placeArraysMappings : List (String × Json) :=
  [("BikePoint", .obj (placeArraysRaw.map fun p => (p.1, .str p.2)))]

theorem placeArrays_updateEntities :
    ∃ names', updateEntities placeArraysMappings (.obj placeArraysDoc) (.str "BikePoint") [] =
      .ok (.obj [("components", .obj [("schemas", .obj
        [("PlaceArray", .obj [("type", .str "array"), ("description", .str "second")])])])],
        names') := by
  obtain ⟨names', h⟩ := @updateEntities_eq placeArraysMappings "BikePoint" placeArraysRaw
    placeArraysDoc _ _ [] rfl rfl rfl
  refine ⟨names', h.trans ?_⟩
  have hc : Naming.className "PlaceArray" = "PlaceArray" := by decide
  simp only [classRenaming, placeArraysRaw, List.map_cons, List.map_nil, hc]
  rfl

end TransitKit.Spec
