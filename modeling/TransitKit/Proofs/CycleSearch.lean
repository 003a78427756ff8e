import Mathlib
import TransitKit.Proofs.GenerationOrder

/-!
# The search for circular models

The search walks the dependency graph depth first from each listed model in turn, in any order
of dependencies, and reports a model met again while it is on the current path. Every reported
model lies on a cycle, and every cycle holds a reported model, so nothing is reported exactly
when the graph has no cycle. The proof carries one invariant between visits, and the second
point is the white-path argument, read off the order in which models are done.
-/

namespace TransitKit.Model.DependencyGraph

open Relation

/-- A model depends on a name when the name is among its dependencies. -/
def Depends (g : DependencyGraph) (m d : String) : Prop := d ∈ g.depsOf m

/-- An order of walking the dependencies: for each model, its dependencies in some order. -/
def WalksDeps (g : DependencyGraph) (next : String → List String) : Prop :=
  ∀ m d, d ∈ next m ↔ d ∈ g.depsOf m

/-- A model is entered from a path when the model at its top, if any, depends on it. -/
def Enters (g : DependencyGraph) (path : List String) (d : String) : Prop :=
  ∀ m ∈ path.head?, g.Depends m d

/-- What holds of the search between two visits. The path holds distinct names of the graph,
each depending on the one below it, and no model done is on it. Every model found lies on a
cycle. Each dependency of a model done is found, or was done before it. -/
structure Search.Inv (g : DependencyGraph) (s : Search) : Prop where
  path_nodup : s.path.Nodup
  path_names : ∀ x ∈ s.path, x ∈ g.names
  path_chain : s.path.IsChain fun a b => g.Depends b a
  done_off_path : ∀ x ∈ s.done, x ∉ s.path
  found_cyclic : ∀ x ∈ s.found, TransGen g.Depends x x
  finished : ∀ x ∈ s.done, ∀ y, g.Depends x y →
    y ∈ s.found ∨ (y ∈ s.done ∧ s.done.idxOf x < s.done.idxOf y)

variable {g : DependencyGraph} {next : String → List String}

/-! ## Models and names -/

theorem mem_keys_of_depends {m d : String} (h : g.Depends m d) : m ∈ g.keys := by
  unfold Depends depsOf at h
  cases hf : g.edges.find? (·.1 == m) with
  | none => simp [hf] at h
  | some e =>
    have hm : e.1 = m := by simpa using List.find?_some hf
    exact List.mem_map.mpr ⟨e, List.mem_of_find?_eq_some hf, hm⟩

theorem mem_names_of_mem_keys {m : String} (h : m ∈ g.keys) : m ∈ g.names := by
  obtain ⟨⟨k, ds⟩, he, rfl⟩ := List.mem_map.mp h
  exact List.mem_eraseDups.mpr (List.mem_flatMap.mpr ⟨(k, ds), he, by simp⟩)

theorem mem_names_of_depends {m d : String} (h : g.Depends m d) : d ∈ g.names := by
  unfold Depends depsOf at h
  cases hf : g.edges.find? (·.1 == m) with
  | none => simp [hf] at h
  | some e =>
    simp only [hf, Option.map_some, Option.getD_some] at h
    obtain ⟨k, ds⟩ := e
    exact List.mem_eraseDups.mpr
      (List.mem_flatMap.mpr ⟨(k, ds), List.mem_of_find?_eq_some hf, List.mem_cons_of_mem _ h⟩)

/-- A model that reaches itself lies on a cycle that starts from it. -/
theorem exists_cycle_of_transGen {m : String} (h : TransGen g.Depends m m) :
    ∃ rest, (m :: rest ++ [m]).IsChain g.Depends := by
  obtain ⟨y, hmy, hym⟩ := TransGen.head'_iff.mp h
  obtain ⟨l, hl, hlast⟩ := List.exists_isChain_cons_of_relationReflTransGen hym
  refine ⟨(y :: l).dropLast, ?_⟩
  have hsplit : (y :: l).dropLast ++ [m] = y :: l := by
    rw [← hlast]
    exact List.dropLast_append_getLast _
  rw [List.cons_append, hsplit]
  exact List.isChain_cons_cons.mpr ⟨hmy, hl⟩

/-! ## The invariant, step by step -/

theorem Search.Inv.empty : ({} : Search).Inv g where
  path_nodup := List.nodup_nil
  path_names := by simp
  path_chain := List.IsChain.nil
  done_off_path := by simp
  found_cyclic := by simp
  finished := by simp

theorem Search.Inv.length_path_le {s : Search} (h : s.Inv g) : s.path.length ≤ g.names.length :=
  h.path_nodup.length_le_of_subset h.path_names

/-- Every model on the path reaches the model at its top. -/
theorem Search.Inv.reaches_top {s : Search} (h : s.Inv g) {m : String}
    (hm : s.path.head? = some m) : ∀ x ∈ s.path, ReflTransGen g.Depends x m := by
  refine h.path_chain.induction (fun x => ReflTransGen g.Depends x m) _ ?_ ?_
  · intro a b hba ham
    exact ReflTransGen.head hba ham
  · intro hne
    rw [List.head?_eq_some_head hne] at hm
    cases hm
    exact ReflTransGen.refl

/-- Meeting a model on the path again: it lies on a cycle, through the path and back. -/
theorem Search.Inv.meet {s : Search} (h : s.Inv g) {d : String} (hd : d ∈ s.path)
    (he : g.Enters s.path d) : ({ s with found := s.found ++ [d] } : Search).Inv g := by
  obtain ⟨m, hm⟩ : ∃ m, s.path.head? = some m := by
    cases hp : s.path with
    | nil => simp [hp] at hd
    | cons m _ => exact ⟨m, rfl⟩
  have hcyc : TransGen g.Depends d d := TransGen.tail' (h.reaches_top hm d hd) (he m hm)
  refine { h with found_cyclic := ?_, finished := ?_ }
  · intro x hx
    rcases List.mem_append.mp hx with hx | hx
    · exact h.found_cyclic x hx
    · rw [List.mem_singleton.mp hx]
      exact hcyc
  · intro x hx y hxy
    rcases h.finished x hx y hxy with hy | hy
    · exact .inl (List.mem_append_left _ hy)
    · exact .inr hy

/-- Entering a model: it goes on top of the path. -/
theorem Search.Inv.push {s : Search} (h : s.Inv g) {d : String} (hdone : d ∉ s.done)
    (hpath : d ∉ s.path) (hname : d ∈ g.names) (he : g.Enters s.path d) :
    ({ s with path := d :: s.path } : Search).Inv g where
  path_nodup := List.nodup_cons.mpr ⟨hpath, h.path_nodup⟩
  path_names := by
    intro x hx
    rcases List.mem_cons.mp hx with rfl | hx
    · exact hname
    · exact h.path_names x hx
  path_chain := List.isChain_cons.mpr ⟨he, h.path_chain⟩
  done_off_path := by
    intro x hx hmem
    rcases List.mem_cons.mp hmem with rfl | hmem
    · exact hdone hx
    · exact h.done_off_path x hx hmem
  found_cyclic := h.found_cyclic
  finished := h.finished

/-- Leaving a model each of whose dependencies is done or found: it is done, after every
model done so far. -/
theorem Search.Inv.pop {t : Search} (h : t.Inv g) {d : String} {p : List String}
    (hp : t.path = d :: p) (hdeps : ∀ y, g.Depends d y → y ∈ t.done ∨ y ∈ t.found) :
    ({ t with path := p, done := d :: t.done } : Search).Inv g := by
  have hnd : (d :: p).Nodup := hp ▸ h.path_nodup
  have hd : d ∉ t.done := fun hd => h.done_off_path d hd (by simp [hp])
  refine { path_nodup := hnd.of_cons, path_names := ?_, path_chain := ?_,
           done_off_path := ?_, found_cyclic := h.found_cyclic, finished := ?_ }
  · intro x hx
    exact h.path_names x (by simp [hp, hx])
  · exact (hp ▸ h.path_chain).tail
  · intro x hx hxp
    rcases List.mem_cons.mp hx with rfl | hx
    · exact (List.nodup_cons.mp hnd).1 hxp
    · exact h.done_off_path x hx (by simp [hp, hxp])
  · intro x hx y hxy
    rcases List.mem_cons.mp hx with rfl | hx
    · rcases hdeps y hxy with hy | hy
      · have hyd : x ≠ y := fun e => hd (e ▸ hy)
        refine .inr ⟨List.mem_cons_of_mem _ hy, ?_⟩
        rw [List.idxOf_cons_self, List.idxOf_cons_ne _ hyd]
        exact Nat.succ_pos _
      · exact .inl hy
    · have hxd : d ≠ x := fun e => hd (e ▸ hx)
      rcases h.finished x hx y hxy with hy | ⟨hy, hlt⟩
      · exact .inl hy
      · have hyd : d ≠ y := fun e => hd (e ▸ hy)
        refine .inr ⟨List.mem_cons_of_mem _ hy, ?_⟩
        rw [List.idxOf_cons_ne _ hxd, List.idxOf_cons_ne _ hyd]
        exact Nat.succ_lt_succ hlt

/-! ## One visit -/

section Visit

variable {fuel : Nat} {d : String} {s : Search}

theorem visit_of_done (h : d ∈ s.done) : visit next (fuel + 1) d s = s := by
  simp [visit, h]

theorem visit_of_mem_path (hdone : d ∉ s.done) (hpath : d ∈ s.path) :
    visit next (fuel + 1) d s = if d ∈ s.found then s else { s with found := s.found ++ [d] } := by
  simp [visit, hdone, hpath]

theorem visit_of_fresh (hdone : d ∉ s.done) (hpath : d ∉ s.path) :
    visit next (fuel + 1) d s =
      let t := (next d).foldl (fun t d' => visit next fuel d' t) { s with path := d :: s.path }
      { t with path := t.path.erase d, done := d :: t.done } := by
  simp [visit, hdone, hpath]

end Visit

/-- What the visits of a list of models keep, from what each visit keeps. -/
theorem foldl_visit_invariant (P : Search → Prop) {fuel : Nat} :
    ∀ (l : List String) (s : Search), P s → (∀ d ∈ l, ∀ t, P t → P (visit next fuel d t)) →
      P (l.foldl (fun t d => visit next fuel d t) s)
  | [], _, hs, _ => hs
  | d :: l, s, hs, step =>
    foldl_visit_invariant P l _ (step d List.mem_cons_self s hs)
      fun d' hd' => step d' (List.mem_cons_of_mem _ hd')

/-- A visit leaves the path as it found it. -/
theorem visit_path (fuel : Nat) (d : String) (s : Search) :
    (visit next fuel d s).path = s.path := by
  induction fuel generalizing d s with
  | zero => rfl
  | succ fuel ih =>
    by_cases hdone : d ∈ s.done
    · rw [visit_of_done hdone]
    by_cases hpath : d ∈ s.path
    · rw [visit_of_mem_path hdone hpath]
      split_ifs <;> rfl
    · rw [visit_of_fresh hdone hpath]
      have hfold := foldl_visit_invariant (fun t => t.path = d :: s.path) (next d)
        { s with path := d :: s.path } rfl fun d' _ t ht => (ih d' t).trans ht
      simp only at hfold ⊢
      rw [hfold, List.erase_cons_head]

theorem foldl_visit_path {fuel : Nat} (l : List String) (s : Search) :
    (l.foldl (fun t d => visit next fuel d t) s).path = s.path :=
  foldl_visit_invariant (fun t => t.path = s.path) l s rfl
    fun d _ t ht => (visit_path fuel d t).trans ht

/-- A visit only adds to the models done and found. -/
theorem visit_mono (fuel : Nat) (d : String) (s : Search) :
    s.done ⊆ (visit next fuel d s).done ∧ s.found ⊆ (visit next fuel d s).found := by
  induction fuel generalizing d s with
  | zero => exact ⟨fun _ h => h, fun _ h => h⟩
  | succ fuel ih =>
    by_cases hdone : d ∈ s.done
    · rw [visit_of_done hdone]
      exact ⟨fun _ h => h, fun _ h => h⟩
    by_cases hpath : d ∈ s.path
    · rw [visit_of_mem_path hdone hpath]
      split_ifs
      · exact ⟨fun _ h => h, fun _ h => h⟩
      · exact ⟨fun _ h => h, fun _ h => List.mem_append_left _ h⟩
    · rw [visit_of_fresh hdone hpath]
      have hfold := foldl_visit_invariant (fun t => s.done ⊆ t.done ∧ s.found ⊆ t.found)
        (next d) { s with path := d :: s.path } ⟨fun _ h => h, fun _ h => h⟩
        fun d' _ t ht => ⟨List.Subset.trans ht.1 (ih d' t).1, List.Subset.trans ht.2 (ih d' t).2⟩
      exact ⟨List.Subset.trans hfold.1 (List.subset_cons_self _ _), hfold.2⟩

theorem foldl_visit_mono {fuel : Nat} (l : List String) (s : Search) :
    s.done ⊆ (l.foldl (fun t d => visit next fuel d t) s).done ∧
      s.found ⊆ (l.foldl (fun t d => visit next fuel d t) s).found :=
  foldl_visit_invariant (fun t => s.done ⊆ t.done ∧ s.found ⊆ t.found) l s
    ⟨fun _ h => h, fun _ h => h⟩
    fun d _ t ht =>
      ⟨List.Subset.trans ht.1 (visit_mono fuel d t).1, List.Subset.trans ht.2 (visit_mono fuel d t).2⟩

/-- A visit of `d` from `s` may start: the state keeps the invariant, `d` is a name of the
graph entered from the path, and the fuel exceeds the room left on the path. -/
structure Visitable (g : DependencyGraph) (fuel : Nat) (d : String) (s : Search) : Prop where
  inv : s.Inv g
  name : d ∈ g.names
  enters : g.Enters s.path d
  fuel : g.names.length < fuel + s.path.length

/-- After visiting `d` from `s`: `d` is found if it was on the path, and done if not. -/
def Settled (d : String) (s s' : Search) : Prop :=
  (d ∈ s.path → d ∈ s'.found) ∧ (d ∉ s.path → d ∈ s'.done)

theorem Settled.mono {d : String} {s s' s'' : Search} (h : Settled d s s')
    (hdone : s'.done ⊆ s''.done) (hfound : s'.found ⊆ s''.found) : Settled d s s'' :=
  ⟨fun hp => hfound (h.1 hp), fun hp => hdone (h.2 hp)⟩

/-- The visits of a list of models, each of which may start, from what one visit does. -/
theorem foldl_visit_spec {fuel : Nat}
    (hvisit : ∀ d s, Visitable g fuel d s → (visit next fuel d s).Inv g ∧
      Settled d s (visit next fuel d s)) :
    ∀ (l : List String) (s : Search), s.Inv g → g.names.length < fuel + s.path.length →
      (∀ d ∈ l, d ∈ g.names ∧ g.Enters s.path d) →
      (l.foldl (fun t d => visit next fuel d t) s).Inv g ∧
        ∀ d ∈ l, Settled d s (l.foldl (fun t d => visit next fuel d t) s)
  | [], _, hs, _, _ => ⟨hs, by simp⟩
  | d :: l, s, hs, hfuel, hl => by
    obtain ⟨hname, henters⟩ := hl d List.mem_cons_self
    obtain ⟨hinv, hset⟩ := hvisit d s ⟨hs, hname, henters, hfuel⟩
    have hpath : (visit next fuel d s).path = s.path := visit_path fuel d s
    obtain ⟨hinv', hset'⟩ := foldl_visit_spec hvisit l (visit next fuel d s) hinv
      (by rw [hpath]; exact hfuel)
      (fun d' hd' => by rw [hpath]; exact hl d' (List.mem_cons_of_mem _ hd'))
    refine ⟨hinv', fun d' hd' => ?_⟩
    have hmono := @foldl_visit_mono next fuel l (visit next fuel d s)
    rcases List.mem_cons.mp hd' with rfl | hd'
    · exact hset.mono hmono.1 hmono.2
    · simpa only [Settled, hpath, List.foldl_cons] using hset' d' hd'

/-- One visit keeps the invariant and settles the model visited, whatever the order of
walking, as long as the fuel exceeds the room left on the path. -/
theorem visit_spec (hnext : g.WalksDeps next) :
    ∀ (fuel : Nat) (d : String) (s : Search), Visitable g fuel d s →
      (visit next fuel d s).Inv g ∧ Settled d s (visit next fuel d s) := by
  intro fuel
  induction fuel with
  | zero =>
    intro d s h
    have hle := h.inv.length_path_le
    have hlt := h.fuel
    omega
  | succ fuel ih =>
    intro d s h
    by_cases hdone : d ∈ s.done
    · rw [visit_of_done hdone]
      exact ⟨h.inv, fun hp => absurd hp (h.inv.done_off_path d hdone), fun _ => hdone⟩
    by_cases hpath : d ∈ s.path
    · rw [visit_of_mem_path hdone hpath]
      split_ifs with hfound
      · exact ⟨h.inv, fun _ => hfound, fun hp => absurd hpath hp⟩
      · exact ⟨h.inv.meet hpath h.enters, fun _ => List.mem_append_right _ List.mem_cons_self,
          fun hp => absurd hpath hp⟩
    · rw [visit_of_fresh hdone hpath]
      set s₁ : Search := { s with path := d :: s.path } with hs₁
      have hinv₁ : s₁.Inv g := h.inv.push hdone hpath h.name h.enters
      obtain ⟨hinv, hset⟩ := foldl_visit_spec (ih) (next d) s₁ hinv₁
        (by have := h.fuel; simp only [hs₁, List.length_cons]; omega)
        (fun y hy => ⟨mem_names_of_depends ((hnext d y).mp hy),
          fun m hm => by simp only [hs₁, List.head?_cons, Option.mem_def, Option.some.injEq] at hm
                         exact hm ▸ (hnext d y).mp hy⟩)
      set t := (next d).foldl (fun t d' => visit next fuel d' t) s₁ with ht
      have htpath : t.path = d :: s.path := foldl_visit_path (next d) s₁
      have hdeps : ∀ y, g.Depends d y → y ∈ t.done ∨ y ∈ t.found := by
        intro y hy
        by_cases hyp : y ∈ s₁.path
        · exact .inr ((hset y ((hnext d y).mpr hy)).1 hyp)
        · exact .inl ((hset y ((hnext d y).mpr hy)).2 hyp)
      simp only [htpath, List.erase_cons_head]
      exact ⟨hinv.pop htpath hdeps, fun hp => absurd hp hpath, fun _ => List.mem_cons_self⟩

/-! ## The whole search -/

/-- The search ends with the invariant, and with every listed model done. -/
theorem search_spec (hnext : g.WalksDeps next) :
    (g.search next).Inv g ∧ ∀ m ∈ g.keys, m ∈ (g.search next).done := by
  obtain ⟨hinv, hset⟩ := foldl_visit_spec (visit_spec hnext (g.names.length + 1)) g.keys {}
    Search.Inv.empty (by simp) (fun m hm => ⟨mem_names_of_mem_keys hm, by simp [Enters]⟩)
  exact ⟨hinv, fun m hm => (hset m hm).2 (by simp)⟩

theorem mem_circularBy {m : String} : m ∈ g.circularBy next ↔ m ∈ (g.search next).found :=
  List.mem_mergeSort

/-- Along a chain of dependencies none of whose later models is found, every model is done
before the one that depends on it. -/
theorem Search.Inv.idxOf_lt_of_isChain {s : Search} (h : s.Inv g)
    (hkeys : ∀ m ∈ g.keys, m ∈ s.done) :
    ∀ (l : List String) (a : String), (a :: l).IsChain g.Depends → (∀ b ∈ l, b ∉ s.found) →
      ∀ b ∈ l, s.done.idxOf a < s.done.idxOf b
  | [], _, _, _, b, hb => absurd hb List.not_mem_nil
  | c :: l, a, hc, hnf, b, hb => by
    obtain ⟨hac, hcl⟩ := List.isChain_cons_cons.mp hc
    have hlt : s.done.idxOf a < s.done.idxOf c := by
      rcases h.finished a (hkeys a (mem_keys_of_depends hac)) c hac with hf | ⟨_, hlt⟩
      · exact absurd hf (hnf c List.mem_cons_self)
      · exact hlt
    rcases List.mem_cons.mp hb with rfl | hb
    · exact hlt
    · exact hlt.trans (h.idxOf_lt_of_isChain hkeys l c hcl
        (fun b hb => hnf b (List.mem_cons_of_mem _ hb)) b hb)

/-- Every reported model lies on a cycle. -/
theorem circularBy_sound (hnext : g.WalksDeps next) {m : String} (hm : m ∈ g.circularBy next) :
    TransGen g.Depends m m :=
  (search_spec hnext).1.found_cyclic m (mem_circularBy.mp hm)

/-- Every cycle holds a reported model. -/
theorem circularBy_meets_cycle (hnext : g.WalksDeps next) {x : String} {rest : List String}
    (hc : (x :: rest ++ [x]).IsChain g.Depends) : ∃ m ∈ x :: rest, m ∈ g.circularBy next := by
  obtain ⟨hinv, hkeys⟩ := search_spec hnext
  by_contra hnone
  simp only [not_exists, not_and] at hnone
  have hnf : ∀ b ∈ rest ++ [x], b ∉ (g.search next).found := by
    intro b hb hf
    have hb' : b ∈ x :: rest := by
      rcases List.mem_append.mp hb with hb | hb
      · exact List.mem_cons_of_mem _ hb
      · exact List.mem_singleton.mp hb ▸ List.mem_cons_self
    exact hnone b hb' (mem_circularBy.mpr hf)
  have hlt := hinv.idxOf_lt_of_isChain hkeys (rest ++ [x]) x (by simpa using hc) hnf x
    (List.mem_append_right _ List.mem_cons_self)
  exact lt_irrefl _ hlt

/-- The search reports models on cycles only, and one model of every cycle, whatever the order
the dependencies of each model are walked in. So it reports nothing exactly when the graph
has no cycle, and it reports every model that depends on itself. -/
theorem circularBy_cycles (hnext : g.WalksDeps next) :
    (∀ m ∈ g.circularBy next, TransGen g.Depends m m) ∧
    (∀ x rest, (x :: rest ++ [x]).IsChain g.Depends → ∃ m ∈ x :: rest, m ∈ g.circularBy next) ∧
    (g.circularBy next = [] ↔ ∀ m, ¬ TransGen g.Depends m m) ∧
    (∀ m, g.Depends m m → m ∈ g.circularBy next) := by
  refine ⟨fun m hm => circularBy_sound hnext hm, fun x rest hc => circularBy_meets_cycle hnext hc,
    ⟨fun hnil m hm => ?_, fun hno => ?_⟩, fun m hm => ?_⟩
  · obtain ⟨rest, hc⟩ := exists_cycle_of_transGen hm
    obtain ⟨x, -, hx⟩ := circularBy_meets_cycle hnext hc
    simp [hnil] at hx
  · exact List.eq_nil_iff_forall_not_mem.mpr fun m hm => hno m (circularBy_sound hnext hm)
  · have hc : (m :: ([] : List String) ++ [m]).IsChain g.Depends := by
      simpa using List.isChain_pair.mpr hm
    obtain ⟨x, hx, hxc⟩ := circularBy_meets_cycle hnext hc
    rw [List.mem_singleton.mp hx] at hxc
    exact hxc

/-! ## Walking in the order of a hash set -/

theorem depsOf_eq_nil_or (m : String) : g.depsOf m = [] ∨ ∃ e ∈ g.edges, g.depsOf m = e.2 := by
  unfold depsOf
  cases hf : g.edges.find? (·.1 == m) with
  | none => exact .inl rfl
  | some e => exact .inr ⟨e, List.mem_of_find?_eq_some hf, rfl⟩

/-- The order of a hash set walks the dependencies of every model once the set of each
listed model yields its members. -/
theorem walksDeps_walkOrder (h : ∀ e ∈ g.edges, ∀ d, d ∈ setOrder e.2 ↔ d ∈ e.2) :
    g.WalksDeps g.walkOrder := by
  intro m d
  unfold walkOrder
  rcases depsOf_eq_nil_or (g := g) m with hnil | ⟨e, he, heq⟩
  · rw [hnil, setOrder_nil]
  · rw [heq]
    exact h e he d

/-- Two models that depend on each other, one that depends on itself and one that depends on
nothing. -/
def treeGraph : DependencyGraph :=
  ⟨[("TreeA", ["TreeB"]), ("TreeB", ["TreeA"]), ("Node", ["Node"]), ("Independent", [])]⟩

theorem treeGraph_circular_cycles :
    treeGraph.WalksDeps treeGraph.walkOrder ∧
    (∀ m ∈ treeGraph.circular, TransGen treeGraph.Depends m m) ∧
    (∀ x rest, (x :: rest ++ [x]).IsChain treeGraph.Depends →
      ∃ m ∈ x :: rest, m ∈ treeGraph.circular) ∧
    (treeGraph.circular = [] ↔ ∀ m, ¬ TransGen treeGraph.Depends m m) ∧
    (∀ m, treeGraph.Depends m m → m ∈ treeGraph.circular) :=
  have hsets : ∀ e ∈ treeGraph.edges, setOrder e.2 = e.2 := by decide +kernel
  have hw : treeGraph.WalksDeps treeGraph.walkOrder :=
    walksDeps_walkOrder fun e he d => by rw [hsets e he]
  ⟨hw, circularBy_cycles hw⟩

end TransitKit.Model.DependencyGraph
