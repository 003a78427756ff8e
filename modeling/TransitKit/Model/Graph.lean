import TransitKit.Model.SetOrder

/-!
# Dependency graphs of models

A dependency graph lists models in order, each with the names of the models it depends on. The
circular models are found by a depth-first search that walks each model's dependencies in the
order their hash set yields them. The order of generation is Kahn's order over a queue kept
sorted by name; models never taken, on or behind a cycle, come last, sorted by name.
-/

namespace TransitKit.Model

/-- Models in order, each with the names it depends on (without repetition). -/
structure DependencyGraph where
  edges : List (String × List String)
deriving Repr, Inhabited

namespace DependencyGraph

/-- The names a model depends on; none for a model that is not listed. -/
def depsOf (g : DependencyGraph) (m : String) : List String :=
  ((g.edges.find? (·.1 == m)).map (·.2)).getD []

/-- Every name the graph mentions. -/
def names (g : DependencyGraph) : List String :=
  (g.edges.flatMap fun (m, ds) => m :: ds).eraseDups

/-- The state of the search for cycles: models done, models on the current path, and
the circular models found, in order of discovery. -/
structure Search where
  done : List String := []
  path : List String := []
  found : List String := []

/-- Visits a model, walking the dependencies of each model in the order `next` gives:
nothing when it is done, a cycle when it is on the path, else its dependencies. The fuel
bounds the length of the path. -/
def visit (next : String → List String) : Nat → String → Search → Search
  | 0, _, s => s
  | fuel + 1, m, s =>
    if s.done.contains m then s
    else if s.path.contains m then
      if s.found.contains m then s else { s with found := s.found ++ [m] }
    else
      let s := { s with path := m :: s.path }
      let s := (next m).foldl (fun s d => visit next fuel d s) s
      { s with path := s.path.erase m, done := m :: s.done }

/-- The state the search ends in: each listed model visited in order, from an empty state,
with fuel for a path through every name of the graph. -/
def search (g : DependencyGraph) (next : String → List String) : Search :=
  (g.edges.map (·.1)).foldl (fun s m => visit next (g.names.length + 1) m s) {}

/-- The circular models found when the dependencies of each model are walked in the order
`next` gives, sorted by name. -/
def circularBy (g : DependencyGraph) (next : String → List String) : List String :=
  (g.search next).found.mergeSort (· ≤ ·)

/-- The order in which the dependencies of a model are walked: the order of their set. -/
def walkOrder (g : DependencyGraph) (m : String) : List String := setOrder (g.depsOf m)

/-- The circular models, sorted by name. -/
def circular (g : DependencyGraph) : List String := g.circularBy g.walkOrder

/-- One step of Kahn's order: the queue, the remaining numbers of dependencies, and the
models taken so far. -/
structure Kahn where
  queue : List String
  pending : List (String × Nat)
  taken : List String

/-- Takes the first model of the queue and releases the models that depend on it. -/
def Kahn.step (g : DependencyGraph) (sorted : List String) (k : Kahn) : Kahn :=
  match k.queue with
  | [] => k
  | m :: rest =>
    let (pending, released) := sorted.foldl (fun (acc : List (String × Nat) × List String) o =>
      if (g.depsOf o).contains m then
        let n := ((acc.1.lookup o).getD 0) - 1
        let pending := acc.1.map fun p => if p.1 == o then (o, n) else p
        (pending, if n == 0 then acc.2 ++ [o] else acc.2)
      else acc) (k.pending, [])
    { queue := (rest ++ released).mergeSort (· ≤ ·), pending := pending, taken := k.taken ++ [m] }

/-- Runs Kahn's order for at most `fuel` steps. -/
def Kahn.run (g : DependencyGraph) (sorted : List String) : Nat → Kahn → Kahn
  | 0, k => k
  | fuel + 1, k => if k.queue.isEmpty then k else Kahn.run g sorted fuel (k.step g sorted)

/-- The order of generation: Kahn's order, then the models it never takes, sorted. -/
def order (g : DependencyGraph) : List String :=
  let sorted := (g.edges.map (·.1)).mergeSort (· ≤ ·)
  let pending := sorted.map fun m => (m, (g.depsOf m).length)
  let queue := sorted.filter fun m => (g.depsOf m).isEmpty
  let k := Kahn.run g sorted (sorted.length + 1) ⟨queue, pending, []⟩
  k.taken ++ (sorted.filter fun m => !k.taken.contains m)

end DependencyGraph

end TransitKit.Model
