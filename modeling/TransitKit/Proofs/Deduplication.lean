import Mathlib
import TransitKit.Proofs.ResponseModels

/-!
# Deduplication splits the models

Deduplication walks the models in order, keeps each that duplicates no model kept before it and
folds any other into the first kept model it duplicates. For models under distinct names the
models kept and the folded names split the models: the kept ones are a sublist, every folded
name goes in one step to a kept name whose model it duplicates, and no kept model duplicates an
earlier one. The proof is one invariant of the fold, kept by each step.
-/

namespace TransitKit.Model

/-- What folding the models `xs` leaves in `acc`: the models kept are a sublist of `xs`; each
folded name is the name of a model of `xs` that duplicates the kept model it is folded into;
and no kept model duplicates a model kept before it. -/
structure Folded (xs : List (String × ModelValue)) (acc : Registry × List (String × String)) :
    Prop where
  sublist : acc.1.entries.Sublist xs
  folds : ∀ p ∈ acc.2, ∃ v w, (p.1, v) ∈ xs ∧ (p.2, w) ∈ acc.1.entries ∧ duplicates v w = true
  distinct : acc.1.entries.Pairwise fun a b => duplicates b.2 a.2 = false

theorem Folded.nil : Folded [] (⟨[]⟩, []) where
  sublist := List.Sublist.slnil
  folds := by simp
  distinct := List.Pairwise.nil

/-- One model met while folding: folded into the first kept model it duplicates, or kept
after the others, which it duplicates none of. -/
theorem Folded.keepOrFold {xs : List (String × ModelValue)} {acc : Registry × List (String × String)}
    (h : Folded xs acc) (p : String × ModelValue) :
    Folded (xs ++ [p]) (Registry.keepOrFold acc p) := by
  unfold Registry.keepOrFold
  split
  · rename_i k w hfind
    have hdup : duplicates p.2 w = true := by simpa using List.find?_some hfind
    refine ⟨h.sublist.trans (List.sublist_append_left _ _), ?_, h.distinct⟩
    intro q hq
    rcases List.mem_append.mp hq with hq | hq
    · obtain ⟨v, w', hv, hw, hd⟩ := h.folds q hq
      exact ⟨v, w', List.mem_append_left _ hv, hw, hd⟩
    · rw [List.mem_singleton.mp hq]
      exact ⟨p.2, w, by simp, List.mem_of_find?_eq_some hfind, hdup⟩
  · rename_i hnone
    have hnew : ∀ a ∈ acc.1.entries, duplicates p.2 a.2 = false := by
      intro a ha
      simpa using List.find?_eq_none.mp hnone a ha
    refine ⟨h.sublist.append (List.Sublist.refl _), ?_, ?_⟩
    · intro q hq
      obtain ⟨v, w, hv, hw, hd⟩ := h.folds q hq
      exact ⟨v, w, List.mem_append_left _ hv, List.mem_append_left _ hw, hd⟩
    · refine List.pairwise_append.mpr ⟨h.distinct, List.pairwise_singleton _ _, ?_⟩
      intro a ha b hb
      rw [List.mem_singleton.mp hb]
      exact hnew a ha

theorem Registry.dedupe_folded (r : Registry) : Folded r.entries r.dedupe := by
  unfold Registry.dedupe
  have hfold : ∀ (ys : List (String × ModelValue)) xs acc, Folded xs acc →
      Folded (xs ++ ys) (ys.foldl Registry.keepOrFold acc) := by
    intro ys
    induction ys with
    | nil => intro xs acc h; simpa using h
    | cons p ys ih =>
      intro xs acc h
      simpa using ih (xs ++ [p]) _ (h.keepOrFold p)
  simpa using hfold r.entries [] _ Folded.nil

/-- A model of a registry under distinct names is the one its name looks up. -/
theorem Registry.get?_eq_some_of_mem {r : Registry} (hnd : r.names.Nodup) {n : String}
    {v : ModelValue} (h : (n, v) ∈ r.entries) : r.get? n = some v := by
  obtain ⟨es⟩ := r
  unfold Registry.get?
  induction es with
  | nil => simp at h
  | cons e es ih =>
    simp only [Registry.names, List.map_cons, List.nodup_cons] at hnd
    rcases List.mem_cons.mp h with rfl | h
    · simp
    · have hne : e.1 ≠ n := fun he => hnd.1 (he ▸ List.mem_map_of_mem h)
      simp [hne, ih hnd.2 h]

/-- Deduplicating models under distinct names splits them into the models kept, in their
order and with their values, and a map that folds every other name, in one step, into a kept
model that it duplicates; no kept model duplicates a model kept before it. -/
theorem dedupe_partition (r : Registry) (hnd : r.names.Nodup) :
    (r.dedupe.1.names ++ r.dedupe.2.map (·.1)).Perm r.names ∧
    r.dedupe.1.entries.Sublist r.entries ∧
    (∀ p ∈ r.dedupe.2, p.2 ∈ r.dedupe.1.names ∧ p.2 ∉ r.dedupe.2.map (·.1)) ∧
    (∀ p ∈ r.dedupe.2, ∃ v w, r.get? p.1 = some v ∧ r.dedupe.1.get? p.2 = some w ∧
      duplicates v w = true) ∧
    r.dedupe.1.entries.Pairwise (fun a b => duplicates b.2 a.2 = false) := by
  have hf := r.dedupe_folded
  have hperm : (r.dedupe.1.names ++ r.dedupe.2.map (·.1)).Perm r.names := by
    simpa [keptAndFolded] using r.dedupe_names_perm
  have hsplit : (r.dedupe.1.names ++ r.dedupe.2.map (·.1)).Nodup := hperm.nodup_iff.mpr hnd
  have hkept : r.dedupe.1.names.Nodup := (List.nodup_append.mp hsplit).1
  refine ⟨hperm, hf.sublist, fun p hp => ?_, fun p hp => ?_, hf.distinct⟩
  · obtain ⟨_, w, -, hw, -⟩ := hf.folds p hp
    have hk : p.2 ∈ r.dedupe.1.names := List.mem_map_of_mem hw
    exact ⟨hk, List.disjoint_of_nodup_append hsplit hk⟩
  · obtain ⟨v, w, hv, hw, hd⟩ := hf.folds p hp
    exact ⟨v, w, Registry.get?_eq_some_of_mem hnd hv, Registry.get?_eq_some_of_mem hkept hw, hd⟩

/-- Two categories with the same fields, and two root models wrapping lists of one model. -/
def twinCategories : Registry :=
  let field (n : String) : ModelField := ⟨n, .cls (.builtin "str"), some n, true⟩
  let items : Typing.TypeHint := .generic .list [.cls (.model "TestModel")]
  ⟨[("PlaceCategory", .object [field "id", field "name"]),
    ("StopPointCategory", .object [field "id", field "name"]),
    ("Array1", .root (some items)), ("Array2", .root (some items))]⟩

theorem twinCategories_dedupe_partition :
    twinCategories.names.Nodup ∧
    (twinCategories.dedupe.1.names ++ twinCategories.dedupe.2.map (·.1)).Perm
      twinCategories.names ∧
    twinCategories.dedupe.1.entries.Sublist twinCategories.entries ∧
    (∀ p ∈ twinCategories.dedupe.2,
      p.2 ∈ twinCategories.dedupe.1.names ∧ p.2 ∉ twinCategories.dedupe.2.map (·.1)) ∧
    (∀ p ∈ twinCategories.dedupe.2, ∃ v w, twinCategories.get? p.1 = some v ∧
      twinCategories.dedupe.1.get? p.2 = some w ∧ duplicates v w = true) ∧
    twinCategories.dedupe.1.entries.Pairwise (fun a b => duplicates b.2 a.2 = false) :=
  have hnd : twinCategories.names.Nodup := by decide +kernel
  ⟨hnd, dedupe_partition twinCategories hnd⟩

example : twinCategories.dedupe.2 = [("StopPointCategory", "PlaceCategory"), ("Array2", "Array1")] := by
  cbv

end TransitKit.Model
