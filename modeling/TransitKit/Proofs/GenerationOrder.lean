import Mathlib
import TransitKit.Model.Graph

/-!
# The order of generation

The order of generation runs Kahn's order over the listed models and appends the models it
never took. Without the queue: a model is resolvable when it is listed and all it depends on
is, and the order is the resolvable models, each the least whose dependencies are all listed
before it, followed by the other listed models in increasing order. So every model comes once,
after what it depends on. The proof carries an invariant of the queue and the counts of
dependencies still awaited over each step of the run.
-/

namespace TransitKit.Model.DependencyGraph

/-! ## The order, declaratively -/

/-- The listed models, in order. -/
def keys (g : DependencyGraph) : List String := g.edges.map (·.1)

/-- A graph as a mapping from models to sets of names gives it: every model is listed once,
and the dependencies of each are named once. -/
structure WellFormed (g : DependencyGraph) : Prop where
  keys_nodup : g.keys.Nodup
  deps_nodup : ∀ e ∈ g.edges, e.2.Nodup

/-- The models that can be generated: a listed model can, once every model it depends on
can. As an inductive predicate this is the least such set. -/
inductive Resolvable (g : DependencyGraph) : String → Prop
  | intro {m : String} : m ∈ g.keys → (∀ d ∈ g.depsOf m, Resolvable g d) → Resolvable g m

/-- A model is ready after the models listed so far: it can be generated, it is not listed
yet, and every model it depends on is. -/
def Ready (g : DependencyGraph) (listed : List String) (m : String) : Prop :=
  Resolvable g m ∧ m ∉ listed ∧ ∀ d ∈ g.depsOf m, d ∈ listed

/-- A list is least first: it lists exactly the models that can be generated, each, when its
turn comes, the least model ready after those before it. -/
structure LeastFirst (g : DependencyGraph) (L : List String) : Prop where
  mem_iff : ∀ m, m ∈ L ↔ Resolvable g m
  least : ∀ i (h : i < L.length),
    Ready g (L.take i) L[i] ∧ ∀ m, Ready g (L.take i) m → L[i] ≤ m

/-- The listed models that can never be generated, in increasing order. -/
structure Unresolved (g : DependencyGraph) (rest : List String) : Prop where
  increasing : rest.Pairwise (· < ·)
  mem_iff : ∀ m, m ∈ rest ↔ m ∈ g.keys ∧ ¬ Resolvable g m

variable {g : DependencyGraph}

theorem Resolvable.mem_keys {m : String} (h : Resolvable g m) : m ∈ g.keys := by
  cases h with
  | intro hm _ => exact hm

theorem depsOf_nodup (hg : g.WellFormed) (m : String) : (g.depsOf m).Nodup := by
  unfold depsOf
  cases h : g.edges.find? (·.1 == m) with
  | none => simp
  | some e => exact hg.deps_nodup e (List.mem_of_find?_eq_some h)

theorem LeastFirst.nodup {L : List String} (h : g.LeastFirst L) : L.Nodup := by
  refine List.pairwise_iff_getElem.mpr fun i j hi hj hij heq => ?_
  have hnot : L[j] ∉ L.take j := (h.least j hj).1.2.1
  apply hnot
  rw [← heq]
  exact List.mem_iff_getElem.mpr ⟨i, by simp [hij, hi], by simp⟩

/-- The least-first list of a graph is unique: at each position both lists hold the least
model ready after the same models. -/
theorem LeastFirst.unique {L₁ L₂ : List String} (h₁ : g.LeastFirst L₁) (h₂ : g.LeastFirst L₂) :
    L₁ = L₂ := by
  have hlen : L₁.length = L₂.length :=
    ((List.perm_ext_iff_of_nodup h₁.nodup h₂.nodup).mpr
      fun m => (h₁.mem_iff m).trans (h₂.mem_iff m).symm).length_eq
  have htake : ∀ n, n ≤ L₁.length → L₁.take n = L₂.take n := by
    intro n
    induction n with
    | zero => simp
    | succ n ih =>
      intro hn
      have hn₁ : n < L₁.length := by omega
      have hn₂ : n < L₂.length := by omega
      have hpre := ih (by omega)
      obtain ⟨hready₁, hleast₁⟩ := h₁.least n hn₁
      obtain ⟨hready₂, hleast₂⟩ := h₂.least n hn₂
      rw [hpre] at hready₁ hleast₁
      have heq : L₁[n] = L₂[n] := le_antisymm (hleast₁ _ hready₂) (hleast₂ _ hready₁)
      rw [List.take_succ_eq_append_getElem hn₁, List.take_succ_eq_append_getElem hn₂, hpre, heq]
  calc L₁ = L₁.take L₁.length := by simp
    _ = L₂.take L₁.length := htake _ le_rfl
    _ = L₂ := by rw [hlen, List.take_length]

/-! ## Kahn's order, step by step -/

/-- How many of its dependencies a model still awaits once `taken` are generated. -/
def waiting (g : DependencyGraph) (taken : List String) (o : String) : Nat :=
  ((g.depsOf o).filter fun d => !taken.contains d).length

/-- Whether a model is free once `taken` are generated: it is not taken, and all its
dependencies are. -/
def free (g : DependencyGraph) (taken : List String) (o : String) : Bool :=
  !taken.contains o && (g.depsOf o).all taken.contains

@[simp] theorem free_iff {taken : List String} {o : String} :
    g.free taken o = true ↔ o ∉ taken ∧ ∀ d ∈ g.depsOf o, d ∈ taken := by
  simp [free]

theorem waiting_eq_zero_iff {taken : List String} {o : String} :
    g.waiting taken o = 0 ↔ ∀ d ∈ g.depsOf o, d ∈ taken := by
  simp [waiting, List.filter_eq_nil_iff]

theorem length_filter_snoc {taken : List String} {m : String} (ht : m ∉ taken) :
    ∀ {l : List String}, l.Nodup → m ∈ l →
      (l.filter fun d => !(taken ++ [m]).contains d).length + 1 =
        (l.filter fun d => !taken.contains d).length
  | [], _, hm => absurd hm List.not_mem_nil
  | d :: ds, hnd, hm => by
    obtain ⟨hd, hds⟩ := List.nodup_cons.mp hnd
    by_cases hdm : d = m
    · subst hdm
      have hrest : ds.filter (fun d' => !(taken ++ [d]).contains d') =
          ds.filter fun d' => !taken.contains d' := by
        apply List.filter_congr
        intro x hx
        have hxd : x ≠ d := fun h => hd (h ▸ hx)
        simp [hxd]
      rw [List.filter_cons_of_neg (by simp), List.filter_cons_of_pos (by simpa using ht), hrest,
        List.length_cons]
    · have hm' : m ∈ ds := (List.mem_cons.mp hm).resolve_left (Ne.symm hdm)
      have hsame : (!(taken ++ [m]).contains d) = !taken.contains d := by simp [hdm]
      have ih := length_filter_snoc ht hds hm'
      cases hpd : (!taken.contains d)
      · have hpd' : (!(taken ++ [m]).contains d) = false := by rw [hsame, hpd]
        simpa only [List.filter_cons, hpd, hpd', Bool.false_eq_true, if_false] using ih
      · have hpd' : (!(taken ++ [m]).contains d) = true := by rw [hsame, hpd]
        simp only [List.filter_cons, hpd, hpd', if_true, List.length_cons]
        omega

/-- Taking a model that `o` depends on leaves `o` awaiting one dependency fewer. -/
theorem waiting_snoc_of_mem {taken : List String} {m o : String} (hnd : (g.depsOf o).Nodup)
    (hm : m ∈ g.depsOf o) (ht : m ∉ taken) :
    g.waiting (taken ++ [m]) o + 1 = g.waiting taken o :=
  length_filter_snoc ht hnd hm

theorem waiting_snoc_of_not_mem {taken : List String} {m o : String} (hm : m ∉ g.depsOf o) :
    g.waiting (taken ++ [m]) o = g.waiting taken o := by
  unfold waiting
  congr 1
  apply List.filter_congr
  intro x hx
  have hxm : x ≠ m := fun h => hm (h ▸ hx)
  simp [hxm]

/-- What one model of the sorted list goes through in a step of Kahn's order that takes `m`:
a model that depends on `m` awaits one dependency fewer, and is released when it awaits
none. -/
def release (g : DependencyGraph) (m : String) (acc : List (String × Nat) × List String)
    (o : String) : List (String × Nat) × List String :=
  if (g.depsOf o).contains m then
    let n := ((acc.1.lookup o).getD 0) - 1
    (acc.1.map fun p => if p.1 == o then (o, n) else p, if n == 0 then acc.2 ++ [o] else acc.2)
  else acc

theorem Kahn.step_cons (sorted : List String) (m : String) (rest : List String)
    (pending : List (String × Nat)) (taken : List String) :
    Kahn.step g sorted ⟨m :: rest, pending, taken⟩ =
      ⟨(rest ++ (sorted.foldl (release g m) (pending, [])).2).mergeSort (· ≤ ·),
        (sorted.foldl (release g m) (pending, [])).1, taken ++ [m]⟩ := rfl

theorem lookup_map_pair {c : String → Nat} {x : String} :
    ∀ {l : List String}, x ∈ l → (l.map fun o => (o, c o)).lookup x = some (c x)
  | y :: l, hx => by
    by_cases hxy : x = y
    · subst hxy
      simp
    · have hx' : x ∈ l := by simpa [hxy] using hx
      have hb : (x == y) = false := by simpa using hxy
      simp only [List.map_cons, List.lookup, hb]
      exact lookup_map_pair hx'

/-- Releasing along a list of distinct sorted models lowers the count of each that depends on
`m` by one, and releases, in order, those whose count falls to nothing. -/
theorem foldl_release {m : String} {sorted : List String} :
    ∀ (os : List String) (c : String → Nat) (rel : List String), os.Nodup →
      (∀ o ∈ os, o ∈ sorted) →
      os.foldl (release g m) (sorted.map (fun o => (o, c o)), rel) =
        (sorted.map fun o => (o, if o ∈ os ∧ m ∈ g.depsOf o then c o - 1 else c o),
          rel ++ os.filter fun o => (g.depsOf o).contains m && c o - 1 == 0)
  | [], c, rel, _, _ => by simp
  | o :: os, c, rel, hnd, hsub => by
    obtain ⟨ho, hos⟩ := List.nodup_cons.mp hnd
    have hsub' : ∀ x ∈ os, x ∈ sorted := fun x hx => hsub x (List.mem_cons_of_mem o hx)
    by_cases hm : m ∈ g.depsOf o
    · let c' : String → Nat := fun x => if x = o then c o - 1 else c x
      have hmap : (sorted.map fun x => (x, c x)).map
          (fun p => if p.1 == o then (o, c o - 1) else p) = sorted.map fun x => (x, c' x) := by
        simp only [List.map_map]
        apply List.map_congr_left
        intro x _
        by_cases hxo : x = o <;> simp [c', hxo]
      have hc : (g.depsOf o).contains m = true := List.contains_iff_mem.mpr hm
      have hstep : release g m (sorted.map (fun x => (x, c x)), rel) o =
          (sorted.map fun x => (x, c' x), if c o - 1 == 0 then rel ++ [o] else rel) := by
        simp only [release, hc, if_true, lookup_map_pair (hsub o List.mem_cons_self),
          Option.getD_some, hmap]
      rw [List.foldl_cons, hstep, foldl_release os c' _ hos hsub']
      have hfilter : os.filter (fun x => (g.depsOf x).contains m && c' x - 1 == 0) =
          os.filter fun x => (g.depsOf x).contains m && c x - 1 == 0 := by
        apply List.filter_congr
        intro x hx
        have hxo : x ≠ o := fun h => ho (h ▸ hx)
        simp [c', hxo]
      refine Prod.ext ?_ ?_
      · apply List.map_congr_left
        intro x _
        by_cases hxo : x = o
        · subst hxo
          simp [c', ho, hm]
        · simp [c', hxo]
      · rw [hfilter, List.filter_cons]
        by_cases h0 : c o - 1 = 0 <;> simp [hm, h0]
    · have hc : (g.depsOf o).contains m = false := by simpa using hm
      have hstep : release g m (sorted.map (fun x => (x, c x)), rel) o =
          (sorted.map fun x => (x, c x), rel) := by
        simp only [release, hc, Bool.false_eq_true, if_false]
      rw [List.foldl_cons, hstep, foldl_release os c rel hos hsub']
      refine Prod.ext ?_ ?_
      · apply List.map_congr_left
        intro x _
        by_cases hxo : x = o
        · subst hxo
          simp [hm]
        · simp [hxo]
      · simp [hm]

/-- The fold of a step that takes `m`, over distinct models counted against `taken`: the
counts become those against `taken ++ [m]`, and the models released are those that depend
on `m` and await nothing more. -/
theorem foldl_release_waiting {sorted taken : List String} {m : String} (hs : sorted.Nodup)
    (hd : ∀ o, (g.depsOf o).Nodup) (hmT : m ∉ taken) :
    sorted.foldl (release g m) (sorted.map fun o => (o, g.waiting taken o), []) =
      (sorted.map fun o => (o, g.waiting (taken ++ [m]) o),
        sorted.filter fun o => (g.depsOf o).contains m && g.waiting (taken ++ [m]) o == 0) := by
  have hcount : ∀ o ∈ sorted, (if o ∈ sorted ∧ m ∈ g.depsOf o then g.waiting taken o - 1
      else g.waiting taken o) = g.waiting (taken ++ [m]) o := by
    intro o ho
    by_cases hmo : m ∈ g.depsOf o
    · have := waiting_snoc_of_mem (hd o) hmo hmT
      simp only [ho, hmo, and_self, if_true]
      omega
    · simp [hmo, waiting_snoc_of_not_mem hmo]
  rw [foldl_release sorted (g.waiting taken) [] hs fun _ h => h, List.nil_append]
  refine Prod.ext (List.map_congr_left fun o ho => by rw [hcount o ho]) ?_
  apply List.filter_congr
  intro o ho
  by_cases hmo : m ∈ g.depsOf o
  · have := hcount o ho
    simp only [ho, hmo, and_self, if_true] at this
    simp [hmo, this]
  · simp [hmo]

/-- What holds after each step of Kahn's order over the sorted models: the queue holds the
free models in order, each model's count is the number of its dependencies not yet taken,
and the models taken are distinct, each free and the least free model when it was taken. -/
structure Kahn.Inv (g : DependencyGraph) (sorted : List String) (k : Kahn) : Prop where
  queue_eq : k.queue = sorted.filter (g.free k.taken)
  pending_eq : k.pending = sorted.map fun o => (o, g.waiting k.taken o)
  nodup : k.taken.Nodup
  least : ∀ i (h : i < k.taken.length), k.taken[i] ∈ sorted ∧
    g.free (k.taken.take i) k.taken[i] ∧ ∀ o ∈ sorted, g.free (k.taken.take i) o → k.taken[i] ≤ o

section Inv

variable {sorted : List String} {k : Kahn}

theorem Kahn.Inv.mem_sorted (h : Kahn.Inv g sorted k) {x : String} (hx : x ∈ k.taken) :
    x ∈ sorted := by
  obtain ⟨i, hi, rfl⟩ := List.getElem_of_mem hx
  exact (h.least i hi).1

/-- Every dependency of a model taken was taken before it. -/
theorem Kahn.Inv.deps_taken (h : Kahn.Inv g sorted k) {x : String} (hx : x ∈ k.taken) :
    ∀ d ∈ g.depsOf x, d ∈ k.taken := by
  obtain ⟨i, hi, rfl⟩ := List.getElem_of_mem hx
  intro d hd
  exact List.mem_of_mem_take ((free_iff.mp (h.least i hi).2.1).2 d hd)

theorem Kahn.Inv.init (g : DependencyGraph) (sorted : List String) :
    Kahn.Inv g sorted ⟨sorted.filter fun m => (g.depsOf m).isEmpty,
      sorted.map fun m => (m, (g.depsOf m).length), []⟩ where
  queue_eq := by
    apply List.filter_congr
    intro o _
    unfold free
    cases g.depsOf o <;> simp
  pending_eq := by simp [waiting]
  nodup := List.nodup_nil
  least := fun i h => absurd h (Nat.not_lt_zero i)

theorem pairwise_lt_of_nodup {l : List String} (hle : l.Pairwise (· ≤ ·)) (hn : l.Nodup) :
    l.Pairwise (· < ·) :=
  (hle.and hn).imp fun h => lt_of_le_of_ne h.1 h.2

/-- The queue after taking `m`: the rest of the queue and the models released, sorted, are
the models free once `m` is taken. -/
theorem queue_after_take (hs : sorted.Pairwise (· < ·)) {m : String} {rest taken : List String}
    (hq : m :: rest = sorted.filter (g.free taken))
    (hdt : ∀ x ∈ taken, ∀ d ∈ g.depsOf x, d ∈ taken) :
    List.mergeSort (rest ++ sorted.filter fun o =>
        (g.depsOf o).contains m && g.waiting (taken ++ [m]) o == 0) (· ≤ ·) =
      sorted.filter (g.free (taken ++ [m])) := by
  have hmem : ∀ x, x ∈ m :: rest ↔ x ∈ sorted ∧ g.free taken x = true := by
    intro x
    rw [hq, List.mem_filter]
  have hnd : (m :: rest).Nodup := hq ▸ (hs.filter _).nodup
  obtain ⟨hmRest, hrestNd⟩ := List.nodup_cons.mp hnd
  obtain ⟨-, hmT, hmDeps⟩ := by simpa using (hmem m).mp List.mem_cons_self
  have hrest : ∀ x, x ∈ rest ↔ x ∈ sorted ∧ x ∉ taken ∧ (∀ d ∈ g.depsOf x, d ∈ taken) ∧ x ≠ m := by
    intro x
    constructor
    · intro hx
      have hx' := (hmem x).mp (List.mem_cons_of_mem m hx)
      exact ⟨hx'.1, (free_iff.mp hx'.2).1, (free_iff.mp hx'.2).2, fun h => hmRest (h ▸ hx)⟩
    · rintro ⟨hxs, hxt, hxd, hxm⟩
      have := (hmem x).mpr ⟨hxs, free_iff.mpr ⟨hxt, hxd⟩⟩
      simpa [hxm] using this
  have hiff : ∀ x, x ∈ rest ++ sorted.filter (fun o => (g.depsOf o).contains m &&
      g.waiting (taken ++ [m]) o == 0) ↔ x ∈ sorted.filter (g.free (taken ++ [m])) := by
    intro x
    simp only [List.mem_append, List.mem_filter, hrest, Bool.and_eq_true, List.contains_iff_mem,
      beq_iff_eq, waiting_eq_zero_iff, free_iff, List.mem_append, List.mem_singleton]
    constructor
    · rintro (⟨hxs, hxt, hxd, hxm⟩ | ⟨hxs, hmx, hxd⟩)
      · exact ⟨hxs, fun h => h.elim hxt hxm, fun d hd => .inl (hxd d hd)⟩
      · refine ⟨hxs, ?_, hxd⟩
        rintro (hxt | rfl)
        · exact hmT (hdt x hxt m hmx)
        · exact hmT (hmDeps x hmx)
    · rintro ⟨hxs, hxt, hxd⟩
      by_cases hmx : m ∈ g.depsOf x
      · exact .inr ⟨hxs, hmx, hxd⟩
      · refine .inl ⟨hxs, fun h => hxt (.inl h), fun d hd => ?_, fun h => hxt (.inr h)⟩
        rcases hxd d hd with h | rfl
        · exact h
        · exact absurd hd hmx
  have hnodup : (rest ++ sorted.filter fun o => (g.depsOf o).contains m &&
      g.waiting (taken ++ [m]) o == 0).Nodup := by
    refine List.nodup_append.mpr ⟨hrestNd, (hs.filter _).nodup, ?_⟩
    intro x hx y hy hxy
    subst hxy
    obtain ⟨-, -, hxd, -⟩ := (hrest x).mp hx
    obtain ⟨hmx, -⟩ : m ∈ g.depsOf x ∧ g.waiting (taken ++ [m]) x = 0 := by
      simpa using (List.mem_filter.mp hy).2
    exact hmT (hxd m hmx)
  apply List.Pairwise.eq_of_mem_iff (r := (· < ·))
  · exact pairwise_lt_of_nodup (List.pairwise_mergeSort' _ _)
      ((List.mergeSort_perm _ _).nodup_iff.mpr hnodup)
  · exact hs.filter _
  · intro x
    rw [(List.mergeSort_perm _ _).mem_iff]
    exact hiff x

/-- The head of the queue is the least free model, so the models taken stay least first
when it is taken. -/
theorem Kahn.Inv.least_step (hs : sorted.Pairwise (· < ·)) {m : String}
    {rest taken : List String} {pending : List (String × Nat)}
    (h : Kahn.Inv g sorted ⟨m :: rest, pending, taken⟩) :
    ∀ i (hi : i < (taken ++ [m]).length), (taken ++ [m])[i] ∈ sorted ∧
      g.free ((taken ++ [m]).take i) (taken ++ [m])[i] ∧
      ∀ o ∈ sorted, g.free ((taken ++ [m]).take i) o → (taken ++ [m])[i] ≤ o := by
  obtain ⟨hq, -, -, hl⟩ := h
  dsimp only at hq hl
  intro i hi
  simp only [List.length_append, List.length_singleton] at hi
  rcases Nat.lt_succ_iff_lt_or_eq.mp hi with hi | rfl
  · rw [List.getElem_append_left hi, List.take_append_of_le_length hi.le]
    exact hl i hi
  · simp only [List.getElem_append_right (Nat.le_refl _), Nat.sub_self,
      List.getElem_singleton, List.take_left']
    have hm : m ∈ sorted ∧ g.free taken m = true := by
      rw [← List.mem_filter, ← hq]
      exact List.mem_cons_self
    refine ⟨hm.1, hm.2, fun o ho hfree => ?_⟩
    have hoq : o ∈ m :: rest := by rw [hq, List.mem_filter]; exact ⟨ho, hfree⟩
    have hinc : (m :: rest).Pairwise (· < ·) := hq ▸ hs.filter _
    rcases List.mem_cons.mp hoq with rfl | horest
    · exact le_rfl
    · exact (List.rel_of_pairwise_cons hinc horest).le

/-- One step of Kahn's order keeps the invariant, and takes the head of the queue. -/
theorem Kahn.Inv.step (hs : sorted.Pairwise (· < ·)) (hd : ∀ o, (g.depsOf o).Nodup)
    {m : String} {rest taken : List String} {pending : List (String × Nat)}
    (h : Kahn.Inv g sorted ⟨m :: rest, pending, taken⟩) :
    Kahn.Inv g sorted (Kahn.step g sorted ⟨m :: rest, pending, taken⟩) := by
  have hdt : ∀ x ∈ taken, ∀ d ∈ g.depsOf x, d ∈ taken := fun x hx => h.deps_taken hx
  have hleast := h.least_step hs
  obtain ⟨hq, hp, hnd, -⟩ := h
  dsimp only at hq hp hnd
  have hmT : m ∉ taken := by
    have hm : m ∈ sorted.filter (g.free taken) := hq ▸ List.mem_cons_self
    exact (free_iff.mp (List.mem_filter.mp hm).2).1
  rw [Kahn.step_cons, hp, foldl_release_waiting hs.nodup hd hmT]
  refine ⟨queue_after_take hs hq hdt, rfl, ?_, hleast⟩
  exact List.nodup_append.mpr ⟨hnd, List.nodup_singleton m,
    fun a ha b hb hab => hmT (by rw [List.mem_singleton.mp hb] at hab; exact hab ▸ ha)⟩

/-- A whole run keeps the invariant, and ends with an empty queue when it has more steps than
there are models left to take. -/
theorem Kahn.Inv.run (hs : sorted.Pairwise (· < ·)) (hd : ∀ o, (g.depsOf o).Nodup) :
    ∀ (fuel : Nat) (k : Kahn), Kahn.Inv g sorted k → sorted.length < k.taken.length + fuel →
      Kahn.Inv g sorted (Kahn.run g sorted fuel k) ∧ (Kahn.run g sorted fuel k).queue = []
  | 0, k, h, hlen => by
    have : k.taken.length ≤ sorted.length :=
      h.nodup.length_le_of_subset fun x hx => h.mem_sorted hx
    omega
  | fuel + 1, ⟨[], pending, taken⟩, h, _ => ⟨h, rfl⟩
  | fuel + 1, ⟨m :: rest, pending, taken⟩, h, hlen => by
    have hstep := h.step hs hd
    have hrun := Kahn.Inv.run hs hd fuel _ hstep (by
      rw [Kahn.step_cons]
      simp only [List.length_append, List.length_singleton] at hlen ⊢
      omega)
    exact hrun

/-- When the queue is empty, every model not taken awaits a model not taken. -/
theorem Kahn.Inv.stuck (h : Kahn.Inv g sorted k) (hq : k.queue = []) {o : String}
    (ho : o ∈ sorted) (hot : o ∉ k.taken) : ∃ d ∈ g.depsOf o, d ∉ k.taken := by
  rw [h.queue_eq, List.filter_eq_nil_iff] at hq
  by_contra hall
  refine hq o ho (free_iff.mpr ⟨hot, fun d hd => ?_⟩)
  by_contra hdt
  exact hall ⟨d, hd, hdt⟩

/-- The models taken can be generated. -/
theorem Kahn.Inv.resolvable (h : Kahn.Inv g sorted k) (hkeys : ∀ o, o ∈ sorted ↔ o ∈ g.keys)
    {x : String} (hx : x ∈ k.taken) : Resolvable g x := by
  have hpre : ∀ n, n ≤ k.taken.length → ∀ y ∈ k.taken.take n, Resolvable g y := by
    intro n
    induction n with
    | zero => simp
    | succ n ih =>
      intro hn y hy
      rw [List.take_succ_eq_append_getElem (by omega)] at hy
      rcases List.mem_append.mp hy with hy | hy
      · exact ih (by omega) y hy
      · rw [List.mem_singleton] at hy
        subst hy
        obtain ⟨hs, hfree, -⟩ := h.least n (by omega)
        exact .intro ((hkeys _).mp hs)
          fun d hd => ih (by omega) d ((free_iff.mp hfree).2 d hd)
  exact hpre k.taken.length le_rfl x (by simpa using hx)

/-- After a run that empties the queue, the models taken are exactly those that can be
generated. -/
theorem Kahn.Inv.mem_taken_iff (h : Kahn.Inv g sorted k) (hq : k.queue = [])
    (hkeys : ∀ o, o ∈ sorted ↔ o ∈ g.keys) (x : String) : x ∈ k.taken ↔ Resolvable g x := by
  refine ⟨h.resolvable hkeys, fun hx => ?_⟩
  induction hx with
  | intro hm _ ih =>
    by_contra hnot
    obtain ⟨d, hd, hdt⟩ := h.stuck hq ((hkeys _).mpr hm) hnot
    exact hdt (ih d hd)

end Inv

/-! ## The order -/

theorem sortedKeys_increasing (hg : g.WellFormed) :
    (g.keys.mergeSort (· ≤ ·)).Pairwise (· < ·) :=
  pairwise_lt_of_nodup (List.pairwise_mergeSort' _ _)
    ((List.mergeSort_perm _ _).nodup_iff.mpr hg.keys_nodup)

/-- The order of generation lists first, least first, the models that can be generated, and
then the others in increasing order; it lists every model exactly once. -/
theorem order_eq_leastFirst_append (g : DependencyGraph) (hg : g.WellFormed) :
    ∃ L rest, g.order = L ++ rest ∧ g.LeastFirst L ∧ g.Unresolved rest ∧ g.order.Perm g.keys := by
  set sorted := g.keys.mergeSort (· ≤ ·) with hsorted
  have hs : sorted.Pairwise (· < ·) := sortedKeys_increasing hg
  have hkeys : ∀ o, o ∈ sorted ↔ o ∈ g.keys := fun o => (List.mergeSort_perm _ _).mem_iff
  obtain ⟨hinv, hq⟩ := Kahn.Inv.run hs (depsOf_nodup hg) (sorted.length + 1) _
    (Kahn.Inv.init g sorted) (by simp)
  set k := Kahn.run g sorted (sorted.length + 1) ⟨sorted.filter fun m => (g.depsOf m).isEmpty,
    sorted.map fun m => (m, (g.depsOf m).length), []⟩ with hk
  have horder : g.order = k.taken ++ sorted.filter fun m => !k.taken.contains m := rfl
  have htaken := hinv.mem_taken_iff hq hkeys
  have hrest : ∀ m, m ∈ sorted.filter (fun m => !k.taken.contains m) ↔
      m ∈ g.keys ∧ ¬ Resolvable g m := by
    intro m
    simp [hkeys, htaken]
  refine ⟨k.taken, _, horder, ⟨htaken, fun i hi => ?_⟩, ⟨hs.filter _, hrest⟩, ?_⟩
  · obtain ⟨hmem, hfree, hleast⟩ := hinv.least i hi
    obtain ⟨hpre, hdeps⟩ := free_iff.mp hfree
    refine ⟨⟨(htaken _).mp (List.getElem_mem hi), hpre, hdeps⟩, fun m hm => ?_⟩
    obtain ⟨hres, hmpre, hmdeps⟩ := hm
    exact hleast m ((hkeys m).mpr hres.mem_keys) (free_iff.mpr ⟨hmpre, hmdeps⟩)
  · rw [horder]
    refine (List.perm_ext_iff_of_nodup ?_ hg.keys_nodup).mpr fun x => ?_
    · refine List.nodup_append.mpr ⟨hinv.nodup, (hs.filter _).nodup, ?_⟩
      intro x hx y hy hxy
      subst hxy
      simp [hx] at hy
    · by_cases hx : x ∈ k.taken
      · simp [hx, ← hkeys, hinv.mem_sorted hx]
      · simp [hx, hkeys]

/-- Models of a line: `Line` needs `Mode` and `Route`, `Route` needs `Stop`; `Loop` depends on
itself and `Walk` on a model that is not listed. -/
def lineGraph : DependencyGraph :=
  ⟨[("Line", ["Mode", "Route"]), ("Route", ["Stop"]), ("Walk", ["Path"]), ("Stop", []),
    ("Loop", ["Loop"]), ("Mode", [])]⟩

theorem lineGraph_order_leastFirst :
    lineGraph.WellFormed ∧ ∃ L rest, lineGraph.order = L ++ rest ∧ lineGraph.LeastFirst L ∧
      lineGraph.Unresolved rest ∧ lineGraph.order.Perm lineGraph.keys :=
  have hg : lineGraph.WellFormed := ⟨by decide, by decide⟩
  ⟨hg, order_eq_leastFirst_append lineGraph hg⟩



end TransitKit.Model.DependencyGraph
