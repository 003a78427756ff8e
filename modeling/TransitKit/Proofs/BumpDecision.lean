import Mathlib
import TransitKit.Release.Bump
import TransitKit.Proofs.Outcome

/-!
# Deciding the bump between two revisions

`determineBump` folds the bump each dependency's change asks for into the larger of the
two, so it ends at the greatest bump asked for, a patch when none is, whatever order the
dependencies come in and whatever libraries read the versions and requirements
(`determineBump_greatest_change`). The version a requirement gives rests on the order its
specifier set yields them in: when the candidates of every requirement carry one version
text (`Requirement.settled`) every order gives that version, and otherwise the decision can
change with the order (`specifierOrder_changes_bump`).
-/

namespace TransitKit.Release

open Text

/-! ### The order of bumps -/

/-- The place of a bump in the order patch, minor, major. -/
def Bump.rank : Bump → Nat
  | .patch => 0
  | .minor => 1
  | .major => 2

theorem Bump.rank_injective : Function.Injective Bump.rank := by
  intro a b h
  cases a <;> cases b <;> simp_all [Bump.rank]

instance : LinearOrder Bump := LinearOrder.lift' Bump.rank Bump.rank_injective

/-- `Bump.max` is the larger of two bumps in the order patch, minor, major. -/
theorem Bump.max_eq (a b : Bump) : a.max b = Max.max a b := by
  cases a <;> cases b <;> rfl

theorem applyBump_some (b c : Bump) : applyBump b (some c) = max b c :=
  Bump.max_eq b c

/-! ### Keeping the larger bump -/

/-- Folding changes into a bump never lowers it. -/
theorem le_foldl_applyBump (cs : List (Option Bump)) (b : Bump) : b ≤ cs.foldl applyBump b := by
  induction cs generalizing b with
  | nil => exact le_rfl
  | cons c cs ih =>
    rw [List.foldl_cons]
    cases c with
    | none => exact ih b
    | some c =>
      calc b ≤ applyBump b (some c) := by rw [applyBump_some]; exact le_max_left b c
        _ ≤ _ := ih _

/-- Every bump asked for is reached by the fold. -/
theorem le_foldl_applyBump_of_mem {cs : List (Option Bump)} {c : Bump} (hc : some c ∈ cs)
    (b : Bump) : c ≤ cs.foldl applyBump b := by
  induction cs generalizing b with
  | nil => cases hc
  | cons d cs ih =>
    rw [List.foldl_cons]
    rcases List.mem_cons.1 hc with rfl | hc
    · calc c ≤ applyBump b (some c) := by rw [applyBump_some]; exact le_max_right b c
        _ ≤ _ := le_foldl_applyBump cs _
    · exact ih hc _

/-- The fold ends at the bump it started from or at a bump asked for. -/
theorem foldl_applyBump_mem (cs : List (Option Bump)) (b : Bump) :
    cs.foldl applyBump b = b ∨ some (cs.foldl applyBump b) ∈ cs := by
  induction cs generalizing b with
  | nil => exact .inl rfl
  | cons d cs ih =>
    rw [List.foldl_cons]
    rcases ih (applyBump b d) with h | h
    · rw [h]
      cases d with
      | none => exact .inl rfl
      | some c =>
        rw [applyBump_some]
        rcases max_choice b c with hb | hc
        · exact .inl hb
        · rw [hc]
          exact .inr List.mem_cons_self
    · exact .inr (List.mem_cons_of_mem d h)

/-- Folding changes into a bump ends at the greatest of that bump and the bumps asked for. -/
theorem foldl_applyBump_isGreatest (cs : List (Option Bump)) (b : Bump) :
    IsGreatest (insert b {c | some c ∈ cs}) (cs.foldl applyBump b) := by
  constructor
  · rcases foldl_applyBump_mem cs b with h | h
    · exact .inl h
    · exact .inr h
  · rintro c (rfl | hc)
    · exact le_foldl_applyBump cs c
    · exact le_foldl_applyBump_of_mem hc b

/-! ### The versions a requirement can give -/

/-- An order of specifiers that visits every written specifier, and only those. -/
def VisitsAll (visit : List Specifier → List Specifier) : Prop :=
  ∀ specs s, s ∈ visit specs ↔ s ∈ specs

/-- The specifiers a requirement's version may be taken from: those with `>=`, `==` or
`~=`, or all of them when it has none of those. -/
def Requirement.candidates (r : Requirement) : List Specifier :=
  if r.specifiers.any Specifier.pinsVersion then r.specifiers.filter Specifier.pinsVersion
  else r.specifiers

/-- Whether all candidate specifiers of a requirement carry one version text. -/
def Requirement.settled (r : Requirement) : Bool :=
  match r.candidates with
  | [] => true
  | s :: rest => rest.all fun t => t.version == s.version

theorem Requirement.version_eq_of_settled {r : Requirement} (hr : r.settled = true)
    {s t : Specifier} (hs : s ∈ r.candidates) (ht : t ∈ r.candidates) : s.version = t.version := by
  unfold Requirement.settled at hr
  split at hr
  · rename_i hnil
    simp [hnil] at hs
  · rename_i c rest hc
    have hfirst : ∀ u ∈ r.candidates, u.version = c.version := by
      intro u hu
      rw [hc] at hu
      rcases List.mem_cons.1 hu with rfl | hu
      · rfl
      · simpa using List.all_eq_true.1 hr u hu
    rw [hfirst s hs, hfirst t ht]

section Visit

variable {visit : List Specifier → List Specifier}

/-- A version given by an order that visits all specifiers is that of a candidate. -/
theorem Requirement.version?_mem_candidates (hv : VisitsAll visit) {r : Requirement} {v : String}
    (h : r.version? visit = some v) : ∃ s ∈ r.candidates, s.version = v := by
  unfold Requirement.version? at h
  dsimp only at h
  split at h
  · rename_i s hs
    have hmem : s ∈ r.specifiers := (hv _ _).1 (List.mem_of_find?_eq_some hs)
    have hpin : s.pinsVersion = true := List.find?_some hs
    have hany : r.specifiers.any Specifier.pinsVersion = true := List.any_eq_true.2 ⟨s, hmem, hpin⟩
    exact ⟨s, by simp [Requirement.candidates, hany, hmem, hpin], Option.some.inj h⟩
  · rename_i hnone
    obtain ⟨s, hs, rfl⟩ := Option.map_eq_some_iff.1 h
    have hmem : s ∈ r.specifiers := (hv _ _).1 (List.mem_of_head? hs)
    have hany : r.specifiers.any Specifier.pinsVersion = false := by
      rw [List.any_eq_false]
      intro t ht hpin
      exact List.find?_eq_none.1 hnone t ((hv _ _).2 ht) hpin
    exact ⟨s, by simp [Requirement.candidates, hany, hmem], rfl⟩

/-- An order that visits all specifiers gives a version exactly when there are specifiers. -/
theorem Requirement.version?_isSome (hv : VisitsAll visit) (r : Requirement) :
    (r.version? visit).isSome ↔ r.specifiers ≠ [] := by
  unfold Requirement.version?
  dsimp only
  constructor
  · intro h hnil
    have hvisit : visit r.specifiers = [] := List.eq_nil_iff_forall_not_mem.2 fun s hs =>
      by simpa [hnil] using (hv _ _).1 hs
    simp [hvisit] at h
  · intro hne
    obtain ⟨s, hs⟩ := List.exists_mem_of_ne_nil _ hne
    have hvisit : visit r.specifiers ≠ [] := List.ne_nil_of_mem ((hv _ _).2 hs)
    split
    · rfl
    · obtain ⟨t, rest, heq⟩ := List.exists_cons_of_ne_nil hvisit
      simp [heq]

/-- A settled requirement gives the same version in every order that visits all its
specifiers. -/
theorem Requirement.version?_settled {visit₁ visit₂ : List Specifier → List Specifier}
    (h₁ : VisitsAll visit₁) (h₂ : VisitsAll visit₂) {r : Requirement} (hr : r.settled = true) :
    r.version? visit₁ = r.version? visit₂ := by
  rcases hv₁ : r.version? visit₁ with _ | v <;> rcases hv₂ : r.version? visit₂ with _ | w
  · rfl
  · have hsome := (Requirement.version?_isSome h₂ r).1 (by simp [hv₂])
    simp [← (Requirement.version?_isSome h₁ r).not_left, hv₁] at hsome
  · have hsome := (Requirement.version?_isSome h₁ r).1 (by simp [hv₁])
    simp [← (Requirement.version?_isSome h₂ r).not_left, hv₂] at hsome
  · obtain ⟨s, hs, rfl⟩ := Requirement.version?_mem_candidates h₁ hv₁
    obtain ⟨t, ht, rfl⟩ := Requirement.version?_mem_candidates h₂ hv₂
    rw [Requirement.version_eq_of_settled hr hs ht]

end Visit

/-- Whether every requirement among listed items is settled. -/
def settledItems (lib : ReleaseLibrary) (items : List Toml.Value) : Bool :=
  items.all fun item =>
    match item with
    | .string s => ((lib.requirement? (stripBlanks s)).map Requirement.settled).getD true
    | _ => true

theorem findSome?_congr {α β : Type} {f g : α → Option β} :
    ∀ {xs : List α}, (∀ x ∈ xs, f x = g x) → xs.findSome? f = xs.findSome? g
  | [], _ => rfl
  | x :: xs, h => by
    rw [List.findSome?_cons, List.findSome?_cons, h x List.mem_cons_self,
      findSome?_congr fun y hy => h y (List.mem_cons_of_mem x hy)]

/-- Settled requirements give a dependency the same version in every order that visits all
specifiers. -/
theorem requiredVersion_settled {lib : ReleaseLibrary} {visit₁ visit₂ : List Specifier → List Specifier}
    (h₁ : VisitsAll visit₁) (h₂ : VisitsAll visit₂) {items : List Toml.Value}
    (hs : settledItems lib items = true) (dep : String) :
    requiredVersion lib visit₁ items dep = requiredVersion lib visit₂ items dep := by
  unfold requiredVersion
  apply findSome?_congr
  intro item hitem
  have hsettled := List.all_eq_true.1 hs item hitem
  cases item with
  | string s =>
    dsimp only at hsettled ⊢
    cases hr : lib.requirement? (stripBlanks s) with
    | none => rfl
    | some r =>
      rw [hr, Option.map_some, Option.getD_some] at hsettled
      simp only [Requirement.version?_settled h₁ h₂ hsettled]
  | _ => rfl

/-! ### Reading the two descriptions -/

/-- The requirements a project description lists, when it is TOML whose `project`, if
present, is a table whose `dependencies`, if present, is an array; none otherwise. -/
def arrayListing (content : String) : Option (List Toml.Value) := do
  let data ← Toml.parse? content
  match (Toml.Members.get? data "project").getD (.table []) with
  | .table ms =>
    match (Toml.Members.get? ms "dependencies").getD (.array []) with
    | .array items => some items
    | _ => none
  | _ => none

/-- A description that lists an array of requirements lists them to the bump. -/
theorem listedDependencies_of_arrayListing {content : String} {items : List Toml.Value}
    (h : arrayListing content = some items) : listedDependencies content = .ok items := by
  unfold arrayListing at h
  unfold listedDependencies
  cases hp : Toml.parse? content with
  | none => simp [hp] at h
  | some data =>
    simp only [hp, Option.bind_eq_bind, Option.bind_some] at h
    split at h
    · rename_i ms hproject
      split at h
      · rename_i xs hdeps
        cases h
        simp [hproject, hdeps, dependencyItems, bind, Except.bind, pure, Except.pure]
      · cases h
    · cases h

/-- The bump a dependency asks for between two project descriptions: the one its change
calls for, from the version each description gives it. -/
def askedBump (lib : ReleaseLibrary) (visit : List Specifier → List Specifier)
    (oldText newText oldRef newRef dep : String) : Outcome (Option Bump) := do
  let o ← dependencyVersion lib visit oldText dep
  let n ← dependencyVersion lib visit newText dep
  return (dependencyChange lib.versions dep o n oldRef newRef).1

section Turns

variable {lib : ReleaseLibrary} {visit : List Specifier → List Specifier}
  {oldText newText oldRef newRef : String}

/-- A dependency whose change is read takes its turn: the bump it asks for is folded in and
its lines are logged. -/
theorem bumpStep_of_asked {dep : String} {c : Option Bump}
    (h : askedBump lib visit oldText newText oldRef newRef dep = .ok c) (acc : Bump × List String) :
    ∃ lines, bumpStep lib visit oldText newText oldRef newRef acc dep =
      .ok (applyBump acc.1 c, acc.2 ++ lines) := by
  simp only [askedBump, bind_eq_ok, pure_eq_ok] at h
  obtain ⟨o, ho, n, hn, rfl⟩ := h
  refine ⟨(dependencyChange lib.versions dep o n oldRef newRef).2, ?_⟩
  delta bumpStep
  simp only [ho, hn]
  rfl

/-- When every dependency's change is read, going through them folds the bumps they ask
for. -/
theorem foldlM_bumpStep_of_asked (deps : List String) (f : String → Option Bump)
    (hasked : ∀ dep ∈ deps, askedBump lib visit oldText newText oldRef newRef dep = .ok (f dep))
    (acc : Bump × List String) :
    ∃ lines, deps.foldlM (bumpStep lib visit oldText newText oldRef newRef) acc =
      .ok ((deps.map f).foldl applyBump acc.1, acc.2 ++ lines) := by
  induction deps generalizing acc with
  | nil => exact ⟨[], by simp [pure, Except.pure]⟩
  | cons dep deps ih =>
    obtain ⟨lines, hstep⟩ := bumpStep_of_asked (hasked dep List.mem_cons_self) acc
    obtain ⟨rest, hrest⟩ := ih (fun d hd => hasked d (List.mem_cons_of_mem dep hd))
      (applyBump acc.1 (f dep), acc.2 ++ lines)
    refine ⟨lines ++ rest, ?_⟩
    rw [List.foldlM_cons, hstep, ok_bind, hrest, List.map_cons, List.foldl_cons,
      List.append_assoc]

/-- Between two revisions that have descriptions, and whose every dependency's change is
read, the bump is the fold of the bumps asked for from a patch. -/
theorem determineBump_of_asked {describe : String → Option String}
    (hold : describe oldRef = some oldText) (hnew : describe newRef = some newText)
    (deps : List String) (f : String → Option Bump)
    (hasked : ∀ dep ∈ deps, askedBump lib visit oldText newText oldRef newRef dep = .ok (f dep)) :
    ∃ lines, determineBump lib visit describe oldRef newRef deps =
      .ok ((deps.map f).foldl applyBump .patch, lines) := by
  obtain ⟨lines, hrun⟩ := foldlM_bumpStep_of_asked deps f hasked (.patch, [])
  refine ⟨[] ++ lines ++ ["[INFO] Determined bump type: " ++ ((deps.map f).foldl applyBump .patch).name], ?_⟩
  simp only [determineBump, hold, hnew, hrun]

variable {oldItems newItems : List Toml.Value}

/-- A dependency's change between two descriptions that list `oldItems` and `newItems`. -/
def listedChange (lib : ReleaseLibrary) (visit : List Specifier → List Specifier)
    (oldItems newItems : List Toml.Value) (oldRef newRef dep : String) : Option Bump × List String :=
  dependencyChange lib.versions dep (requiredVersion lib visit oldItems dep)
    (requiredVersion lib visit newItems dep) oldRef newRef

theorem askedBump_listed (ho : listedDependencies oldText = .ok oldItems)
    (hn : listedDependencies newText = .ok newItems) (dep : String) :
    askedBump lib visit oldText newText oldRef newRef dep =
      .ok (listedChange lib visit oldItems newItems oldRef newRef dep).1 := by
  simp only [askedBump, dependencyVersion, ho, hn]
  rfl

theorem bumpStep_listed (ho : listedDependencies oldText = .ok oldItems)
    (hn : listedDependencies newText = .ok newItems) (acc : Bump × List String) (dep : String) :
    bumpStep lib visit oldText newText oldRef newRef acc dep =
      .ok (applyBump acc.1 (listedChange lib visit oldItems newItems oldRef newRef dep).1,
        acc.2 ++ (listedChange lib visit oldItems newItems oldRef newRef dep).2) := by
  delta bumpStep
  simp only [dependencyVersion, ho, hn]
  rfl

end Turns

/-! ### The decision -/

/-- Between two revisions whose descriptions list their requirements in arrays, every
dependency's change is read and the bump is the greatest one they ask for, a patch when none
asks for one; so the order of the dependencies does not change it. When every requirement
of both descriptions is settled, the whole decision, log included, is the same for every
order that visits the written specifiers. -/
theorem determineBump_greatest_change (lib : ReleaseLibrary) {describe : String → Option String}
    {oldRef newRef oldText newText : String}
    (hold : describe oldRef = some oldText) (hnew : describe newRef = some newText)
    (holist : (arrayListing oldText).isSome) (hnlist : (arrayListing newText).isSome) :
    (∀ visit deps, ∃ b lines, determineBump lib visit describe oldRef newRef deps = .ok (b, lines) ∧
      (∀ dep ∈ deps, ∃ c, askedBump lib visit oldText newText oldRef newRef dep = .ok c) ∧
      IsGreatest
        (insert .patch {c | ∃ dep ∈ deps, askedBump lib visit oldText newText oldRef newRef dep = .ok (some c)})
        b) ∧
    (∀ visit deps deps', deps.Perm deps' →
      (determineBump lib visit describe oldRef newRef deps).map Prod.fst =
        (determineBump lib visit describe oldRef newRef deps').map Prod.fst) ∧
    (∀ visit₁ visit₂, VisitsAll visit₁ → VisitsAll visit₂ →
      (arrayListing oldText).all (settledItems lib) → (arrayListing newText).all (settledItems lib) →
      ∀ deps, determineBump lib visit₁ describe oldRef newRef deps =
        determineBump lib visit₂ describe oldRef newRef deps) := by
  obtain ⟨oldItems, ho⟩ := Option.isSome_iff_exists.1 holist
  obtain ⟨newItems, hn⟩ := Option.isSome_iff_exists.1 hnlist
  have hol := listedDependencies_of_arrayListing ho
  have hnl := listedDependencies_of_arrayListing hn
  have hgreatest : ∀ (visit : List Specifier → List Specifier) (deps : List String), ∃ b lines,
      determineBump lib visit describe oldRef newRef deps = .ok (b, lines) ∧
      (∀ dep ∈ deps, ∃ c, askedBump lib visit oldText newText oldRef newRef dep = .ok c) ∧
      IsGreatest
        (insert .patch {c | ∃ dep ∈ deps, askedBump lib visit oldText newText oldRef newRef dep = .ok (some c)})
        b := by
    intro visit deps
    let change := fun dep => (listedChange lib visit oldItems newItems oldRef newRef dep).1
    obtain ⟨lines, hrun⟩ := determineBump_of_asked hold hnew deps change
      fun dep _ => askedBump_listed hol hnl dep
    refine ⟨_, lines, hrun, fun dep _ => ⟨_, askedBump_listed hol hnl dep⟩, ?_⟩
    have hasked : {c | some c ∈ deps.map change} =
        {c | ∃ dep ∈ deps, askedBump lib visit oldText newText oldRef newRef dep = .ok (some c)} := by
      ext c
      simp [change, askedBump_listed hol hnl]
    rw [← hasked]
    exact foldl_applyBump_isGreatest _ _
  refine ⟨hgreatest, fun visit deps deps' hperm => ?_, fun visit₁ visit₂ h₁ h₂ hos hns deps => ?_⟩
  · obtain ⟨b, lines, hb, -, hbg⟩ := hgreatest visit deps
    obtain ⟨b', lines', hb', -, hbg'⟩ := hgreatest visit deps'
    have hsets : {c | ∃ dep ∈ deps, askedBump lib visit oldText newText oldRef newRef dep = .ok (some c)} =
        {c | ∃ dep ∈ deps', askedBump lib visit oldText newText oldRef newRef dep = .ok (some c)} := by
      ext c
      exact exists_congr fun dep => and_congr_left fun _ => hperm.mem_iff
    rw [hsets] at hbg
    rw [hb, hb', hbg.unique hbg']
    rfl
  · rw [ho, Option.all_some] at hos
    rw [hn, Option.all_some] at hns
    have hstep : bumpStep lib visit₁ oldText newText oldRef newRef =
        bumpStep lib visit₂ oldText newText oldRef newRef := by
      funext acc dep
      simp only [bumpStep_listed hol hnl, listedChange, requiredVersion_settled h₁ h₂ hos,
        requiredVersion_settled h₁ h₂ hns]
    simp only [determineBump, hold, hnew, hstep]

/-- Two revisions of a project description: the old one requires `pydantic>=2,>=1`, the new
one `pydantic>=2`. -/
def pinnedRevisions (ref : String) : Option String :=
  if ref = "old" then some "[project]\ndependencies = [\"pydantic>=2,>=1\"]\n"
  else if ref = "new" then some "[project]\ndependencies = [\"pydantic>=2\"]\n"
  else none

/-- Between the two revisions, the decision for `pydantic` and `httpx` is the greatest bump
they ask for. -/
theorem pinnedRevisions_greatest_change :
    ∃ b lines, determineBump standardLibrary id pinnedRevisions "old" "new" ["pydantic", "httpx"] = .ok (b, lines) ∧
      (∀ dep ∈ ["pydantic", "httpx"], ∃ c,
        askedBump standardLibrary id "[project]\ndependencies = [\"pydantic>=2,>=1\"]\n"
          "[project]\ndependencies = [\"pydantic>=2\"]\n" "old" "new" dep = .ok c) ∧
      IsGreatest (insert .patch {c | ∃ dep ∈ ["pydantic", "httpx"],
        askedBump standardLibrary id "[project]\ndependencies = [\"pydantic>=2,>=1\"]\n"
          "[project]\ndependencies = [\"pydantic>=2\"]\n" "old" "new" dep = .ok (some c)}) b := by
  have hold : pinnedRevisions "old" = some "[project]\ndependencies = [\"pydantic>=2,>=1\"]\n" := by
    simp [pinnedRevisions]
  have hnew : pinnedRevisions "new" = some "[project]\ndependencies = [\"pydantic>=2\"]\n" := by
    simp [pinnedRevisions]
  have holist : (arrayListing "[project]\ndependencies = [\"pydantic>=2,>=1\"]\n").isSome := by
    decide +kernel
  have hnlist : (arrayListing "[project]\ndependencies = [\"pydantic>=2\"]\n").isSome := by
    decide +kernel
  exact (determineBump_greatest_change standardLibrary hold hnew holist hnlist).1 id ["pydantic", "httpx"]

/-- The bump depends on the order in which the old requirement's specifier set yields its
specifiers: visited as written (`>=2` first) the change asks for nothing and the bump is a
patch; visited in reverse (`>=1` first) it is a major bump. -/
theorem specifierOrder_changes_bump :
    VisitsAll id ∧ VisitsAll List.reverse ∧
      (determineBump standardLibrary id pinnedRevisions "old" "new" ["pydantic"]).map Prod.fst = .ok .patch ∧
      (determineBump standardLibrary List.reverse pinnedRevisions "old" "new" ["pydantic"]).map Prod.fst =
        .ok .major := by
  have hold : pinnedRevisions "old" = some "[project]\ndependencies = [\"pydantic>=2,>=1\"]\n" := by
    simp [pinnedRevisions]
  have hnew : pinnedRevisions "new" = some "[project]\ndependencies = [\"pydantic>=2\"]\n" := by
    simp [pinnedRevisions]
  have hold₁ : dependencyVersion standardLibrary id "[project]\ndependencies = [\"pydantic>=2,>=1\"]\n" "pydantic" =
      .ok (some "2") := eq_ok_of_toOption (by decide +kernel)
  have hold₂ : dependencyVersion standardLibrary List.reverse "[project]\ndependencies = [\"pydantic>=2,>=1\"]\n"
      "pydantic" = .ok (some "1") := eq_ok_of_toOption (by decide +kernel)
  have hnew₁ : dependencyVersion standardLibrary id "[project]\ndependencies = [\"pydantic>=2\"]\n" "pydantic" =
      .ok (some "2") := eq_ok_of_toOption (by decide +kernel)
  have hnew₂ : dependencyVersion standardLibrary List.reverse "[project]\ndependencies = [\"pydantic>=2\"]\n"
      "pydantic" = .ok (some "2") := eq_ok_of_toOption (by decide +kernel)
  have hwritten : askedBump standardLibrary id "[project]\ndependencies = [\"pydantic>=2,>=1\"]\n"
      "[project]\ndependencies = [\"pydantic>=2\"]\n" "old" "new" "pydantic" = .ok none := by
    simp only [askedBump, hold₁, hnew₁]
    rfl
  have hreversed : askedBump standardLibrary List.reverse "[project]\ndependencies = [\"pydantic>=2,>=1\"]\n"
      "[project]\ndependencies = [\"pydantic>=2\"]\n" "old" "new" "pydantic" = .ok (some .major) := by
    simp only [askedBump, hold₂, hnew₂]
    rfl
  obtain ⟨l₁, h₁⟩ := determineBump_of_asked hold hnew ["pydantic"] (fun _ => none)
    fun dep hdep => (List.mem_singleton.1 hdep) ▸ hwritten
  obtain ⟨l₂, h₂⟩ := determineBump_of_asked hold hnew ["pydantic"] (fun _ => some .major)
    fun dep hdep => (List.mem_singleton.1 hdep) ▸ hreversed
  exact ⟨fun _ _ => Iff.rfl, fun _ _ => List.mem_reverse, by rw [h₁]; rfl, by rw [h₂]; rfl⟩

end TransitKit.Release
