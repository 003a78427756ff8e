import Mathlib
import TransitKit.Release.Bump

/-!
# Version bumps

The bump between two versions names the first of their two leading release numbers that
grew (`bumpBetween_eq`). In a lawful version library those numbers never shrink along a
chain of growing versions of one epoch, so bumps compose: over the whole chain the bump is
the larger of the bumps of its steps (`versionBumps_compose`). PEP 440 versions are lawful
(`pep440_lawful`). A new epoch makes a version later without its release numbers growing,
and there the composition fails (`epochChange_breaks_composition`).
-/

namespace TransitKit.Release

/-! ### Orders read through a key -/

section Key

variable {α β : Type} {c : β → β → Ordering} {f : α → β}

/-- A comparison of values by a comparison of their keys. -/
def byKey (c : β → β → Ordering) (f : α → β) : α → α → Ordering := fun a b => c (f a) (f b)

instance [Std.OrientedCmp c] : Std.OrientedCmp (byKey c f) where
  eq_swap {a b} := show c (f a) (f b) = (c (f b) (f a)).swap from Std.OrientedCmp.eq_swap

instance [Std.TransCmp c] : Std.TransCmp (byKey c f) where
  isLE_trans {a b d} hab hbd :=
    show (c (f a) (f d)).isLE from Std.TransCmp.isLE_trans (show (c (f a) (f b)).isLE from hab) hbd

end Key

/-! ### The parts of the order -/

theorem listCompare_eq_compareLex {α : Type} (c : α → α → Ordering) :
    listCompare c = List.compareLex c := by
  funext xs ys
  induction xs generalizing ys with
  | nil => cases ys <;> rfl
  | cons x xs ih =>
    cases ys with
    | nil => rfl
    | cons y ys => rw [listCompare, List.compareLex_cons_cons, ih]

section Bounded

variable {α : Type} {c : α → α → Ordering}

instance [Std.OrientedCmp c] : Std.OrientedCmp (Bounded.cmp c) where
  eq_swap {a b} := by
    cases a <;> cases b <;> simp only [Bounded.cmp, Ordering.swap]
    exact Std.OrientedCmp.eq_swap

instance [Std.TransCmp c] : Std.TransCmp (Bounded.cmp c) where
  isLE_trans {a b d} hab hbd := by
    cases a <;> cases b <;> cases d <;> simp_all [Bounded.cmp]
    exact Std.TransCmp.isLE_trans hab hbd

end Bounded

theorem labelCompare_eq_compareLex :
    labelCompare = compareLex (byKey compare Prod.fst) (byKey compare Prod.snd) := rfl

instance : Std.TransCmp labelCompare :=
  labelCompare_eq_compareLex ▸ inferInstance

instance : Std.OrientedCmp LocalPart.compare where
  eq_swap {a b} := by
    cases a <;> cases b <;> simp only [LocalPart.compare, Ordering.swap] <;>
      exact Std.OrientedCmp.eq_swap

instance : Std.TransCmp LocalPart.compare where
  isLE_trans {a b d} hab hbd := by
    cases a <;> cases b <;> cases d <;> simp_all [LocalPart.compare] <;>
      exact Std.TransOrd.isLE_trans hab hbd

/-- The order of versions as the lexicographic combination of its six keys. -/
theorem Version.compare_eq_compareLex :
    Version.compare =
      compareLex (byKey Ord.compare Version.epoch)
        (compareLex (byKey (List.compareLex Ord.compare) Version.trimmedRelease)
          (compareLex (byKey (Bounded.cmp labelCompare) Version.preKey)
            (compareLex (byKey (Bounded.cmp labelCompare) Version.postKey)
              (compareLex (byKey (Bounded.cmp labelCompare) Version.devKey)
                (byKey (Bounded.cmp (List.compareLex LocalPart.compare)) Version.localKey))))) := by
  funext a b
  simp only [Version.compare, compareLex, byKey, listCompare_eq_compareLex]

instance Version.compare_transCmp : Std.TransCmp Version.compare :=
  Version.compare_eq_compareLex ▸ inferInstance

/-- The epoch and the release come first in the order of PEP 440 versions. -/
theorem pep440_lawful : pep440.Lawful where
  transCmp := Version.compare_transCmp
  leading_isLE a b h := by
    have hlt : Version.compare a b = .lt := h
    unfold Version.compare at hlt
    rw [listCompare_eq_compareLex, ← Ordering.then_assoc, Ordering.then_eq_lt] at hlt
    show ((Ord.compare a.epoch b.epoch).then
      (List.compareLex Ord.compare a.trimmedRelease b.trimmedRelease)).isLE
    rcases hlt with hfirst | ⟨hfirst, -⟩ <;> rw [hfirst] <;> rfl

/-! ### Earlier and later versions of a lawful library -/

namespace VersionScheme.Lawful

variable {V : VersionScheme} (hV : V.Lawful) {a b c : V.Ver}
include hV

theorem lt_trans (hab : V.compare a b = .lt) (hbc : V.compare b c = .lt) :
    V.compare a c = .lt :=
  haveI := hV.transCmp
  Std.TransCmp.lt_trans hab hbc

/-- A version is not earlier than another exactly when it is at least as late. -/
theorem not_lt_iff_isLE : V.compare a b ≠ .lt ↔ (V.compare b a).isLE := by
  have hswap : V.compare a b = (V.compare b a).swap := hV.transCmp.eq_swap
  rw [hswap]
  cases V.compare b a <;> decide

/-- A later version has no smaller epoch. -/
theorem epoch_le_of_lt (h : V.compare a b = .lt) : V.epoch a ≤ V.epoch b := by
  rcases Ordering.isLE_then_iff_or.1 (hV.leading_isLE a b h) with h | ⟨h, -⟩
  · exact Nat.le_of_lt (Nat.compare_eq_lt.1 h)
  · exact Nat.le_of_eq (Nat.compare_eq_eq.1 h)

/-- In one epoch, a later version has a release, trailing zeros removed, that is not
lexicographically smaller. -/
theorem trimZeros_isLE_of_lt (h : V.compare a b = .lt) (he : V.epoch a = V.epoch b) :
    (List.compareLex Ord.compare (trimZeros (V.release a)) (trimZeros (V.release b))).isLE := by
  have hle := hV.leading_isLE a b h
  rwa [he, Nat.compare_eq_eq.2 rfl, Ordering.eq_then] at hle

end VersionScheme.Lawful

/-! ### Release numbers padded with zeros -/

/-- Zeros after a list leave its numbers, read with zero for the missing ones, unchanged. -/
theorem getD_append_zeros {xs zs : List Nat} (hz : ∀ z ∈ zs, z = 0) (i : Nat) :
    (xs ++ zs).getD i 0 = xs.getD i 0 := by
  simp only [List.getD_eq_getElem?_getD, List.getElem?_append]
  split
  · rfl
  · cases hzs : zs[i - xs.length]? with
    | none => simp [List.getElem?_eq_none (by omega : xs.length ≤ i)]
    | some z => simp [hz z (List.mem_of_getElem? hzs), List.getElem?_eq_none (by omega : xs.length ≤ i)]

theorem getD_trimZeros (xs : List Nat) (i : Nat) : (trimZeros xs).getD i 0 = xs.getD i 0 := by
  have hsplit : xs = trimZeros xs ++ (xs.reverse.takeWhile (· == 0)).reverse := by
    rw [trimZeros, ← List.reverse_append, List.takeWhile_append_dropWhile, List.reverse_reverse]
  conv => rhs; rw [hsplit]
  refine (getD_append_zeros (fun z hz => ?_) i).symm
  simpa using List.mem_takeWhile_imp (List.mem_reverse.1 hz)

/-- A list of numbers not lexicographically above another has no larger first number
(zero for none), and while the first numbers agree no larger second one. -/
theorem leading_mono_of_isLE {xs ys : List Nat} (h : (List.compareLex Ord.compare xs ys).isLE) :
    xs.getD 0 0 ≤ ys.getD 0 0 ∧ (xs.getD 0 0 = ys.getD 0 0 → xs.getD 1 0 ≤ ys.getD 1 0) := by
  match xs, ys, h with
  | [], _, _ => simp
  | _ :: _, [], h => simp [List.compareLex_cons_nil] at h
  | x :: xs, y :: ys, h =>
    rw [List.compareLex_cons_cons, Ordering.isLE_then_iff_or] at h
    rcases h with h | ⟨h, hrest⟩
    · have hxy := Nat.compare_eq_lt.1 h
      simp only [List.getD_cons_zero]
      omega
    · have hxy := Nat.compare_eq_eq.1 h
      refine ⟨by simp [hxy], fun _ => ?_⟩
      simpa using (leading_mono_of_isLE hrest).1

/-- Within one epoch of a lawful library, a later version has no smaller first release
number, and while that stays, no smaller second one. -/
theorem VersionScheme.Lawful.leading_mono {V : VersionScheme} (hV : V.Lawful) {a b : V.Ver}
    (h : V.compare a b = .lt) (he : V.epoch a = V.epoch b) :
    (V.release a).getD 0 0 ≤ (V.release b).getD 0 0 ∧
      ((V.release a).getD 0 0 = (V.release b).getD 0 0 →
        (V.release a).getD 1 0 ≤ (V.release b).getD 1 0) := by
  have hmono := leading_mono_of_isLE (hV.trimZeros_isLE_of_lt h he)
  simpa only [getD_trimZeros] using hmono

/-! ### Bumps -/

/-- The bump two release numbers lists name: `major` when the first number grew, `minor`
when it stayed and the second grew, `patch` otherwise. -/
def leadingBump (old new : List Nat) : Bump :=
  if old.getD 0 0 < new.getD 0 0 then .major
  else if old.getD 0 0 = new.getD 0 0 ∧ old.getD 1 0 < new.getD 1 0 then .minor
  else .patch

theorem leadingBump_of_lt {old new : List Nat} (h : old.getD 0 0 < new.getD 0 0) :
    leadingBump old new = .major :=
  if_pos h

theorem leadingBump_of_eq {old new : List Nat} (h : old.getD 0 0 = new.getD 0 0) :
    leadingBump old new = if old.getD 1 0 < new.getD 1 0 then .minor else .patch := by
  simp only [leadingBump, h, Nat.lt_irrefl, if_false, true_and]

/-- The bump between two versions: none unless the new one is later, else the bump its
first two release numbers name. -/
theorem VersionScheme.bumpBetween_eq (V : VersionScheme) (old new : V.Ver) :
    V.bumpBetween old new =
      if V.compare old new = .lt then some (leadingBump (V.release old) (V.release new)) else none := by
  unfold VersionScheme.bumpBetween
  by_cases h : V.compare old new = .lt
  · simp only [h, bne_self_eq_false, Bool.false_eq_true, if_false, if_true, VersionScheme.triple,
      ite_self, gt_iff_lt, Bool.and_eq_true, beq_iff_eq, decide_eq_true_eq, leadingBump,
      eq_comm (a := (V.release new).getD 0 0)]
    split_ifs <;> rfl
  · simp [h]

theorem Bump.max_major_right (b : Bump) : b.max .major = .major := by
  cases b <;> rfl

/-- Bumps compose along release numbers whose first number never shrinks and whose second
never shrinks while the first stays. -/
theorem leadingBump_compose {xs ys zs : List Nat}
    (hxy : xs.getD 0 0 ≤ ys.getD 0 0 ∧ (xs.getD 0 0 = ys.getD 0 0 → xs.getD 1 0 ≤ ys.getD 1 0))
    (hyz : ys.getD 0 0 ≤ zs.getD 0 0 ∧ (ys.getD 0 0 = zs.getD 0 0 → ys.getD 1 0 ≤ zs.getD 1 0)) :
    leadingBump xs zs = (leadingBump xs ys).max (leadingBump ys zs) := by
  obtain ⟨hxy0, hxy1⟩ := hxy
  obtain ⟨hyz0, hyz1⟩ := hyz
  rcases Nat.lt_or_eq_of_le hxy0 with h0 | h0
  · rw [leadingBump_of_lt h0, leadingBump_of_lt (Nat.lt_of_lt_of_le h0 hyz0), Bump.max_major]
  rcases Nat.lt_or_eq_of_le hyz0 with h1 | h1
  · rw [leadingBump_of_lt h1, leadingBump_of_lt (h0 ▸ h1), Bump.max_major_right]
  · have hy1 := hxy1 h0
    have hz1 := hyz1 h1
    rw [leadingBump_of_eq h0, leadingBump_of_eq h1, leadingBump_of_eq (h0.trans h1)]
    by_cases hxy2 : xs.getD 1 0 < ys.getD 1 0 <;>
      by_cases hyz2 : ys.getD 1 0 < zs.getD 1 0 <;>
      simp only [hxy2, hyz2, if_true, if_false, Bump.max] <;> split_ifs <;> first | rfl | omega

/-- Reading both texts as versions, `compareVersions` gives the bump between them. -/
theorem compareVersions_of_parse {V : VersionScheme} {old new : String} {vo vn : V.Ver}
    (ho : V.parse? old = some vo) (hn : V.parse? new = some vn) :
    compareVersions V old new = .ok (V.bumpBetween vo vn) := by
  simp [compareVersions, versionBump, readVersion, ho, hn, Except.mapError, bind, Except.bind,
    pure, Except.pure]

/-- In a lawful version library, bumps between versions of one epoch compose: for versions
`a < b < c` with `a` and `c` in the same epoch, the bump from `a` to `c` is the larger of the
bumps from `a` to `b` and from `b` to `c`. Between any two versions there is no bump exactly
when the new one is not later; otherwise it is `major` when the first release number grew,
`minor` when that stayed and the second grew, and `patch` otherwise. -/
theorem versionBumps_compose (V : VersionScheme) (hV : V.Lawful) :
    (∀ (a b c : String) (va vb vc : V.Ver), V.parse? a = some va →
      V.parse? b = some vb → V.parse? c = some vc →
      V.compare va vb = .lt → V.compare vb vc = .lt → V.epoch va = V.epoch vc →
      ∃ x y, compareVersions V a b = .ok (some x) ∧ compareVersions V b c = .ok (some y) ∧
        compareVersions V a c = .ok (some (x.max y))) ∧
    (∀ (old new : String) (vo vn : V.Ver), V.parse? old = some vo →
      V.parse? new = some vn →
      (compareVersions V old new = .ok none ↔ (V.compare vn vo).isLE) ∧
      (compareVersions V old new = .ok (some .major) ↔
        V.compare vo vn = .lt ∧ (V.release vo).getD 0 0 < (V.release vn).getD 0 0) ∧
      (compareVersions V old new = .ok (some .minor) ↔
        V.compare vo vn = .lt ∧ (V.release vo).getD 0 0 = (V.release vn).getD 0 0 ∧
          (V.release vo).getD 1 0 < (V.release vn).getD 1 0) ∧
      (compareVersions V old new = .ok (some .patch) ↔
        V.compare vo vn = .lt ∧ ¬ (V.release vo).getD 0 0 < (V.release vn).getD 0 0 ∧
          ¬ ((V.release vo).getD 0 0 = (V.release vn).getD 0 0 ∧
            (V.release vo).getD 1 0 < (V.release vn).getD 1 0))) := by
  refine ⟨fun a b c va vb vc ha hb hc hab hbc he => ?_, fun old new vo vn ho hn => ?_⟩
  · have heab : V.epoch va = V.epoch vb :=
      Nat.le_antisymm (hV.epoch_le_of_lt hab) (he ▸ hV.epoch_le_of_lt hbc)
    have hebc : V.epoch vb = V.epoch vc := heab ▸ he
    refine ⟨leadingBump (V.release va) (V.release vb), leadingBump (V.release vb) (V.release vc),
      ?_, ?_, ?_⟩
    · rw [compareVersions_of_parse ha hb, V.bumpBetween_eq, if_pos hab]
    · rw [compareVersions_of_parse hb hc, V.bumpBetween_eq, if_pos hbc]
    · rw [compareVersions_of_parse ha hc, V.bumpBetween_eq, if_pos (hV.lt_trans hab hbc),
        leadingBump_compose (hV.leading_mono hab heab) (hV.leading_mono hbc hebc)]
  · rw [compareVersions_of_parse ho hn, V.bumpBetween_eq, ← hV.not_lt_iff_isLE]
    by_cases h : V.compare vo vn = .lt
    · simp only [h, if_true, not_true_eq_false, true_and, ne_eq]
      simp only [leadingBump, List.getD_eq_getElem?_getD]
      split_ifs <;> simp <;> omega
    · simp [h]

/-- Bumps along `1.2.3 < 1.3.0rc1 < 2.0` compose, and from `2.0` back to `1.2.3` there is
none. -/
theorem releaseChain_bumps_compose :
    (∃ x y, compareVersions pep440 "1.2.3" "1.3.0rc1" = .ok (some x) ∧
      compareVersions pep440 "1.3.0rc1" "2.0" = .ok (some y) ∧
      compareVersions pep440 "1.2.3" "2.0" = .ok (some (x.max y))) ∧
    (compareVersions pep440 "2.0" "1.2.3" = .ok none ↔
      (Version.compare { release := [1, 2, 3] } { release := [2, 0] }).isLE) :=
  ⟨(versionBumps_compose pep440 pep440_lawful).1 "1.2.3" "1.3.0rc1" "2.0" { release := [1, 2, 3] }
      { release := [1, 3, 0], pre := some ("rc", 1) } { release := [2, 0] } rfl rfl rfl
      (by decide) (by decide) rfl,
    ((versionBumps_compose pep440 pep440_lawful).2 "2.0" "1.2.3" { release := [2, 0] }
      { release := [1, 2, 3] } rfl rfl).1⟩

/-- A new epoch breaks the composition: `5.0 < 1!1.0 < 1!3.0`, the steps are a patch and a
major bump, but the whole change is only a patch, since `3` is below `5`. -/
theorem epochChange_breaks_composition :
    compareVersions pep440 "5.0" "1!1.0" = .ok (some .patch) ∧
      compareVersions pep440 "1!1.0" "1!3.0" = .ok (some .major) ∧
      compareVersions pep440 "5.0" "1!3.0" = .ok (some .patch) ∧ Bump.max .patch .major ≠ .patch :=
  ⟨rfl, rfl, rfl, by decide⟩

end TransitKit.Release
