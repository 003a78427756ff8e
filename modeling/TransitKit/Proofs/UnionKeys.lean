import Mathlib
import TransitKit.Proofs.CircularBreak

/-!
# The keys of unions

Annotations are equal when their keys (`TypeHint.key`) are, and a union of either kind is
keyed by the set of its arguments' keys. The unions that `barOf` and `unionOf` build open
nested unions and keep the first of equal arguments, and stand for their only argument when
one is left; their keys say the same (`key_barOf`, `key_unionOf`): they are `unionKey` of the
key set of the opened arguments. So the key of a built union depends only on which keys its
arguments have, not on their order, their repetitions or the kind of union
(`keySet_eq_of_mem_keys`), and joining annotations with `|` from the left gives the key of the
union of all of them (`key_orAll`).
-/

namespace TransitKit.Typing.TypeHint

/-- The keys of annotations, sorted, each once. -/
def keySet (xs : List TypeHint) : List String := ((xs.map key).mergeSort (· ≤ ·)).eraseDups

/-- The key of the union of annotations with these keys, or the one key when one is left. -/
def unionKey : List String → String
  | [k] => k
  | ks => "U(" ++ String.join ks ++ ")"

/-- Whether an annotation is a union of either kind. -/
def isUnion : TypeHint → Bool
  | .bar _ | .union _ => true
  | _ => false

theorem key_bar (xs : List TypeHint) : (bar xs).key = "U(" ++ String.join (keySet xs) ++ ")" := by
  simp [key, keySet]

theorem key_union (xs : List TypeHint) : (union xs).key = (bar xs).key := by
  simp [key]

theorem unionKey_of_ne_singleton {ks : List String} (h : ∀ k, ks ≠ [k]) :
    unionKey ks = "U(" ++ String.join ks ++ ")" := by
  unfold unionKey
  split
  · rename_i k
    exact absurd rfl (h k)
  · rfl

/-! ## Key sets -/

/-- Keeping the first of each run of equal keys in a sorted list leaves it sorted strictly. -/
theorem pairwise_lt_eraseDups : ∀ (l : List String), l.Pairwise (· ≤ ·) → l.eraseDups.Pairwise (· < ·)
  | [], _ => by simp
  | a :: as, h => by
    rw [List.eraseDups_cons]
    have has := List.pairwise_cons.mp h
    have hsub : (as.filter fun b => !b == a).Pairwise (· ≤ ·) := has.2.sublist List.filter_sublist
    refine List.pairwise_cons.mpr ⟨fun b hb => ?_, pairwise_lt_eraseDups _ hsub⟩
    obtain ⟨hmem, hne⟩ := List.mem_filter.mp (List.mem_eraseDups.mp hb)
    exact lt_of_le_of_ne (has.1 b hmem) (fun hab => by simp [hab] at hne)
termination_by l => l.length
decreasing_by
  exact Nat.lt_succ_of_le (List.length_filter_le _ _)

theorem mem_keySet {xs : List TypeHint} {k : String} : k ∈ keySet xs ↔ k ∈ xs.map key := by
  rw [keySet, List.mem_eraseDups, (List.mergeSort_perm _ _).mem_iff]

theorem pairwise_lt_keySet (xs : List TypeHint) : (keySet xs).Pairwise (· < ·) := by
  apply pairwise_lt_eraseDups
  have h := List.pairwise_mergeSort (fun a b c (hab : decide (a ≤ b) = true)
    (hbc : decide (b ≤ c) = true) => decide_eq_true (le_trans (of_decide_eq_true hab)
      (of_decide_eq_true hbc))) (fun a b => by simpa using le_total a b) (xs.map key)
  simpa using h

theorem nodup_keySet (xs : List TypeHint) : (keySet xs).Nodup :=
  (pairwise_lt_keySet xs).imp ne_of_lt

/-- Key sets are equal exactly when the same keys occur. -/
theorem keySet_eq_of_mem_keys {xs ys : List TypeHint} (h : ∀ k, k ∈ xs.map key ↔ k ∈ ys.map key) :
    keySet xs = keySet ys := by
  have hperm : (keySet xs).Perm (keySet ys) := by
    rw [List.perm_ext_iff_of_nodup (nodup_keySet xs) (nodup_keySet ys)]
    intro k
    rw [mem_keySet, mem_keySet, h]
  exact hperm.eq_of_pairwise' ((pairwise_lt_keySet xs).imp le_of_lt)
    ((pairwise_lt_keySet ys).imp le_of_lt)

theorem length_keySet {xs : List TypeHint} (h : (xs.map key).Nodup) : (keySet xs).length = xs.length := by
  have hperm : (keySet xs).Perm (xs.map key) := by
    rw [List.perm_ext_iff_of_nodup (nodup_keySet xs) h]
    intro k
    exact mem_keySet
  rw [hperm.length_eq, List.length_map]

theorem keySet_singleton (x : TypeHint) : keySet [x] = [x.key] := by
  simp [keySet, List.eraseDups_cons]

/-! ## Keeping the first of equal annotations -/

/-- The fold of `dedup` keeps the keys of the annotations it kept, each once, and has seen
the keys of all it read. -/
theorem dedup_fold : ∀ (xs : List TypeHint) (acc : List TypeHint × List String),
    acc.2 = acc.1.map key → acc.2.Nodup →
    let r := xs.foldl (fun (acc : List TypeHint × List String) x =>
      if acc.2.contains x.key then acc else (x :: acc.1, x.key :: acc.2)) acc
    r.2 = r.1.map key ∧ r.2.Nodup ∧ ∀ k, k ∈ r.2 ↔ k ∈ acc.2 ∨ k ∈ xs.map key
  | [], acc, hk, hnd => by simp [hk] at hnd ⊢; exact hnd
  | x :: xs, acc, hk, hnd => by
    by_cases hx : acc.2.contains x.key = true
    · have := dedup_fold xs acc hk hnd
      simp only [List.foldl_cons, hx, if_true]
      refine ⟨this.1, this.2.1, fun k => ?_⟩
      rw [this.2.2 k, List.map_cons, List.mem_cons]
      constructor
      · rintro (h | h)
        · exact .inl h
        · exact .inr (.inr h)
      · rintro (h | rfl | h)
        · exact .inl h
        · exact .inl (List.contains_iff_mem.mp hx)
        · exact .inr h
    · have hnew : x.key ∉ acc.2 := fun h => hx (List.contains_iff_mem.mpr h)
      have := dedup_fold xs (x :: acc.1, x.key :: acc.2) (by simp [hk]) (List.nodup_cons.mpr ⟨hnew, hnd⟩)
      simp only [List.foldl_cons, hx, if_false, Bool.false_eq_true]
      refine ⟨this.1, this.2.1, fun k => ?_⟩
      rw [this.2.2 k, List.map_cons, List.mem_cons, List.mem_cons]
      tauto

theorem nodup_keys_dedup (xs : List TypeHint) : ((dedup xs).map key).Nodup := by
  have h := dedup_fold xs ([], []) rfl List.nodup_nil
  simp only [dedup, List.map_reverse, List.nodup_reverse, ← h.1]
  exact h.2.1

theorem mem_keys_dedup {xs : List TypeHint} {k : String} : k ∈ (dedup xs).map key ↔ k ∈ xs.map key := by
  have h := dedup_fold xs ([], []) rfl List.nodup_nil
  simp only [dedup, List.map_reverse, List.mem_reverse, ← h.1, h.2.2 k]
  simp

theorem keySet_dedup (xs : List TypeHint) : keySet (dedup xs) = keySet xs :=
  keySet_eq_of_mem_keys fun _ => mem_keys_dedup

/-! ## Built unions -/

/-- The key of a union built from a list: one key left stands for itself. -/
theorem key_of_dedup {xs : List TypeHint} (mk : List TypeHint → TypeHint)
    (hmk : ∀ ys, (mk ys).key = (bar ys).key) :
    (match dedup xs with
      | [x] => x
      | ys => mk ys).key = unionKey (keySet xs) := by
  split
  · rename_i x hx
    rw [← keySet_dedup, hx, keySet_singleton]
    rfl
  · rename_i ys hys
    have hlen : (keySet (dedup xs)).length = (dedup xs).length := length_keySet (nodup_keys_dedup xs)
    have hne : ∀ k, keySet xs ≠ [k] := by
      intro k hk
      rw [keySet_dedup, hk] at hlen
      match hd : dedup xs, hlen with
      | [x], _ => exact hys x hd
    rw [hmk, key_bar, keySet_dedup, unionKey_of_ne_singleton hne]

theorem key_barOf (xs : List TypeHint) : (barOf xs).key = unionKey (keySet (barArgs xs)) :=
  key_of_dedup bar fun _ => rfl

theorem key_unionOf (x : TypeHint) (xs : List TypeHint) :
    (unionOf x xs).key = unionKey (keySet (unionArgs (x :: xs))) :=
  key_of_dedup union key_union

theorem barArgs_eq_self : ∀ {xs : List TypeHint}, (∀ x ∈ xs, x.isUnion = false) → barArgs xs = xs
  | [], _ => rfl
  | x :: xs, h => by
    have hx := h x List.mem_cons_self
    rw [barArgs.eq_3 x xs (by rintro ys rfl; simp [isUnion] at hx),
      barArgs_eq_self fun y hy => h y (List.mem_cons_of_mem x hy)]

theorem unionArgs_eq_self : ∀ {xs : List TypeHint}, (∀ x ∈ xs, x.isUnion = false) → unionArgs xs = xs
  | [], _ => rfl
  | x :: xs, h => by
    have hx := h x List.mem_cons_self
    rw [unionArgs.eq_4 x xs (by rintro ys rfl; simp [isUnion] at hx)
      (by rintro ys rfl; simp [isUnion] at hx),
      unionArgs_eq_self fun y hy => h y (List.mem_cons_of_mem x hy)]

/-- Arguments that are no unions, with the same keys in turn, build unions of the same key. -/
theorem key_barOf_congr {xs ys : List TypeHint} (hx : ∀ x ∈ xs, x.isUnion = false)
    (hy : ∀ y ∈ ys, y.isUnion = false) (h : ∀ k, k ∈ xs.map key ↔ k ∈ ys.map key) :
    (barOf xs).key = (barOf ys).key := by
  rw [key_barOf, key_barOf, barArgs_eq_self hx, barArgs_eq_self hy, keySet_eq_of_mem_keys h]

theorem key_unionOf_eq_barOf {x : TypeHint} {xs : List TypeHint}
    (h : ∀ y ∈ x :: xs, y.isUnion = false) : (unionOf x xs).key = (barOf (x :: xs)).key := by
  rw [key_unionOf, key_barOf, unionArgs_eq_self h, barArgs_eq_self h]

/-! ## Joining with `|` -/

theorem joinsBar_barOf {xs : List TypeHint} (h : ∀ x ∈ barArgs xs, x.joinsBar = true) :
    (barOf xs).joinsBar = true := by
  unfold barOf
  split
  · rename_i x hx
    exact h x (mem_of_mem_dedup (hx ▸ List.mem_singleton_self x))
  · rfl

/-- `|` after a built `|` union opens it: the arguments are those it kept and the new one. -/
theorem barArgs_barOf_pair {xs : List TypeHint} (hx : ∀ x ∈ barArgs xs, x.isUnion = false)
    {z : TypeHint} (hz : z.isUnion = false) :
    barArgs [barOf xs, z] = dedup (barArgs xs) ++ [z] := by
  have hzs : barArgs [z] = [z] := barArgs_eq_self (by simpa using hz)
  unfold barOf
  split
  · rename_i y hy
    have hy' : y.isUnion = false := hx y (mem_of_mem_dedup (hy ▸ List.mem_singleton_self y))
    rw [barArgs_eq_self (by simp [hy', hz]), hy]
    rfl
  · simp [barArgs, hzs]

/-- Joining with `|`, from a built `|` union, annotations that are classes and containers
gives the union of them all. -/
theorem key_foldl_or_barOf : ∀ (zs xs : List TypeHint),
    (∀ x ∈ barArgs xs, x.joinsBar = true ∧ x.isUnion = false) →
    (∀ z ∈ zs, z.joinsBar = true ∧ z.isUnion = false) →
    (zs.foldl or (barOf xs)).key = unionKey (keySet (barArgs xs ++ zs))
  | [], xs, _, _ => by rw [List.foldl_nil, List.append_nil, key_barOf]
  | z :: zs, xs, hx, hz => by
    have hz1 := hz z List.mem_cons_self
    have hjoin : (barOf xs).joinsBar = true := joinsBar_barOf fun x h => (hx x h).1
    have hor : (barOf xs).or z = barOf [barOf xs, z] := by
      simp [TypeHint.or, hjoin, hz1.1]
    have hargs := barArgs_barOf_pair (fun x h => (hx x h).2) hz1.2
    have hnext : ∀ x ∈ barArgs [barOf xs, z], x.joinsBar = true ∧ x.isUnion = false := by
      rw [hargs]
      intro x h
      rcases List.mem_append.mp h with h | h
      · exact hx x (mem_of_mem_dedup h)
      · rw [List.mem_singleton.mp h]
        exact hz1
    rw [List.foldl_cons, hor, key_foldl_or_barOf zs _ hnext (fun y h => hz y (List.mem_cons_of_mem z h)),
      hargs]
    congr 1
    apply keySet_eq_of_mem_keys
    intro k
    simp only [List.map_append, List.mem_append, mem_keys_dedup, List.map_cons, List.map_nil,
      List.mem_cons, List.not_mem_nil, or_false]
    tauto

/-- Joining classes and containers with `|` from the left gives the union of them all. -/
theorem key_orAll {x : TypeHint} {xs : List TypeHint}
    (h : ∀ y ∈ x :: xs, y.joinsBar = true ∧ y.isUnion = false) :
    (orAll x xs).key = unionKey (keySet (x :: xs)) := by
  have hx := h x List.mem_cons_self
  have hself : barArgs [x] = [x] := barArgs_eq_self (by simpa using hx.2)
  have hbar : barOf [x] = x := by
    simp only [barOf, hself]
    rfl
  calc (orAll x xs).key = (xs.foldl or (barOf [x])).key := by rw [hbar]; rfl
    _ = unionKey (keySet (x :: xs)) := by
      rw [key_foldl_or_barOf xs [x] (by simpa [hself] using hx)
        (fun y hy => h y (List.mem_cons_of_mem x hy)), hself]
      rfl

/-- Equal annotations are unions alike: a union's key, and only a union's, starts with `U`. -/
theorem isUnion_of_key_eq {x y : TypeHint} (h : x.key = y.key) : x.isUnion = y.isUnion := by
  have head : ∀ z : TypeHint, z.isUnion = (z.key.toList.head? == some 'U') := by
    intro z
    cases z with
    | cls c => cases c <;> simp [isUnion, key, classKey, String.toList_append]
    | ref t => simp [isUnion, key, String.toList_append]
    | generic o args =>
      have hl : (Container.list == Container.list) = true := rfl
      have hd : (Container.dict == Container.list) = false := rfl
      cases o <;> simp [isUnion, key, String.toList_append, hl, hd]
    | bar args => simp [isUnion, key, String.toList_append]
    | union args => simp [isUnion, key, String.toList_append]
  rw [head x, head y, h]

end TransitKit.Typing.TypeHint
