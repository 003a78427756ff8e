import Mathlib
import TransitKit.Typing.Views

/-!
# Flattening an annotation into its parts

The flattening of an annotation gives the origin of each container and union and then the parts
of its arguments, with the `None` arguments of a union left out. It is complete, and, read with
each entry marked by where it comes from, it lists the origins of the nodes in preorder and the
leaves from left to right; up to order it is the origins followed by the leaves. A leaf can
carry the name of an origin, so entries are told apart by where they come from.
-/

namespace TransitKit.Typing.TypeHint

/-- Induction over annotations, with the hypothesis for every argument of a container or a
union. -/
theorem argsInduction {motive : TypeHint → Prop} (cls : ∀ c, motive (.cls c))
    (ref : ∀ t, motive (.ref t))
    (generic : ∀ o args, (∀ a ∈ args, motive a) → motive (.generic o args))
    (bar : ∀ args, (∀ a ∈ args, motive a) → motive (.bar args))
    (union : ∀ args, (∀ a ∈ args, motive a) → motive (.union args)) (h : TypeHint) :
    motive h :=
  @TypeHint.rec motive (fun args => ∀ a ∈ args, motive a) cls ref generic bar union
    (fun _ h => absurd h List.not_mem_nil)
    (fun _ _ ha has b hb => (List.mem_cons.mp hb).elim (fun e => e ▸ ha) (has b))
    h

/-! ### Origins, nodes and leaves -/

/-- The origin of a container or a union: the container's class, or the kind of the union. -/
inductive Origin where
  | container (o : Container)
  | unionType
  | typingUnion
deriving DecidableEq, Repr

/-- The part under which the flattening lists an origin. -/
def Origin.part : Origin → Part
  | .container o => .named o.name
  | .unionType => .named "UnionType"
  | .typingUnion => .named "Union"

/-- The origin of an annotation; a class and a forward reference have none. -/
def origin? : TypeHint → Option Origin
  | .cls _ | .ref _ => Option.none
  | .generic o _ => some (.container o)
  | .bar _ => some .unionType
  | .union _ => some .typingUnion

/-- The part an annotation is listed under in its own place: a class by its name, a forward
reference by its text, a container or a union by its origin. -/
def ownPart : TypeHint → Part
  | .cls c => .named c.name
  | .ref t => .forward t
  | .generic o _ => (Origin.container o).part
  | .bar _ => Origin.unionType.part
  | .union _ => Origin.typingUnion.part

/-- The origins of the containers and unions of an annotation, from the outside in, one for
each. -/
def nodes : TypeHint → List Origin
  | .cls _ | .ref _ => []
  | .generic o args => .container o :: args.flatMap nodes
  | .bar args => .unionType :: args.flatMap nodes
  | .union args => .typingUnion :: args.flatMap nodes

/-- The leaves of an annotation from left to right: its classes and forward references, with
`None` left out where it is an argument of a union. -/
def leaves : TypeHint → List TypeHint
  | .cls c => [.cls c]
  | .ref t => [.ref t]
  | .generic _ args => args.flatMap leaves
  | .bar args => (args.filter (!·.isNone)).flatMap leaves
  | .union args => (args.filter (!·.isNone)).flatMap leaves

/-- The flattening with each entry marked by where it comes from: the origin of a container or
a union (left), or a leaf (right). -/
def entries : TypeHint → List (Origin ⊕ TypeHint)
  | .cls c => [.inr (.cls c)]
  | .ref t => [.inr (.ref t)]
  | .generic o args => .inl (.container o) :: args.flatMap entries
  | .bar args => .inl .unionType :: (args.filter (!·.isNone)).flatMap entries
  | .union args => .inl .typingUnion :: (args.filter (!·.isNone)).flatMap entries

/-- The part an entry of the flattening stands for. -/
def entryPart : Origin ⊕ TypeHint → Part := Sum.elim Origin.part ownPart

theorem nodes_eq_nil_of_isNone {a : TypeHint} (h : a.isNone = true) : a.nodes = [] := by
  cases a with
  | cls c => simp [nodes]
  | _ => simp [isNone] at h

/-- Leaving out the `None` arguments of a union leaves out no node. -/
theorem flatMap_nodes_filter (args : List TypeHint) :
    (args.filter (!·.isNone)).flatMap nodes = args.flatMap nodes := by
  induction args with
  | nil => rfl
  | cons a as ih =>
    by_cases ha : a.isNone = true
    · simp [ha, ih, nodes_eq_nil_of_isNone ha]
    · simp [ha, ih]

/-! ### The entries of the flattening -/

/-- The flattening lists the parts its entries stand for. -/
theorem parts_eq_map_entries (a : TypeHint) : a.parts = a.entries.map entryPart := by
  induction a using argsInduction with
  | cls c => simp [parts, entries, entryPart, ownPart]
  | ref t => simp [parts, entries, entryPart, ownPart]
  | generic o args ih =>
    simp only [parts, entries, List.map_cons, List.map_flatMap]
    exact congrArg _ (List.flatMap_congr fun x hx => ih x hx)
  | bar args ih =>
    simp only [parts, entries, List.map_cons, List.map_flatMap]
    exact congrArg _ (List.flatMap_congr fun x hx => ih x (List.mem_of_mem_filter hx))
  | union args ih =>
    simp only [parts, entries, List.map_cons, List.map_flatMap]
    exact congrArg _ (List.flatMap_congr fun x hx => ih x (List.mem_of_mem_filter hx))

/-- The leaf entries of the flattening are the leaves. -/
theorem filterMap_getRight_entries (a : TypeHint) :
    a.entries.filterMap Sum.getRight? = a.leaves := by
  induction a using argsInduction with
  | cls c => simp [entries, leaves]
  | ref t => simp [entries, leaves]
  | generic o args ih =>
    simp only [entries, leaves, List.filterMap_cons, Sum.getRight?_inl, List.filterMap_flatMap]
    exact List.flatMap_congr fun x hx => ih x hx
  | bar args ih =>
    simp only [entries, leaves, List.filterMap_cons, Sum.getRight?_inl, List.filterMap_flatMap]
    exact List.flatMap_congr fun x hx => ih x (List.mem_of_mem_filter hx)
  | union args ih =>
    simp only [entries, leaves, List.filterMap_cons, Sum.getRight?_inl, List.filterMap_flatMap]
    exact List.flatMap_congr fun x hx => ih x (List.mem_of_mem_filter hx)

/-- The origin entries of the flattening are the origins of the nodes, in preorder. -/
theorem filterMap_getLeft_entries (a : TypeHint) :
    a.entries.filterMap Sum.getLeft? = a.nodes := by
  induction a using argsInduction with
  | cls c => simp [entries, nodes]
  | ref t => simp [entries, nodes]
  | generic o args ih =>
    simp only [entries, nodes, List.filterMap_cons, Sum.getLeft?_inl, List.filterMap_flatMap]
    exact congrArg _ (List.flatMap_congr fun x hx => ih x hx)
  | bar args ih =>
    simp only [entries, nodes, List.filterMap_cons, Sum.getLeft?_inl, List.filterMap_flatMap,
      ← flatMap_nodes_filter args]
    exact congrArg _ (List.flatMap_congr fun x hx => ih x (List.mem_of_mem_filter hx))
  | union args ih =>
    simp only [entries, nodes, List.filterMap_cons, Sum.getLeft?_inl, List.filterMap_flatMap,
      ← flatMap_nodes_filter args]
    exact congrArg _ (List.flatMap_congr fun x hx => ih x (List.mem_of_mem_filter hx))

/-- A leaf has no origin: the flattening goes down to classes and forward references. -/
theorem origin?_eq_none_of_mem_leaves {a l : TypeHint} (h : l ∈ a.leaves) :
    l.origin? = Option.none := by
  induction a using argsInduction with
  | cls c =>
    rw [leaves, List.mem_singleton] at h
    rw [h, origin?]
  | ref t =>
    rw [leaves, List.mem_singleton] at h
    rw [h, origin?]
  | generic o args ih =>
    rw [leaves] at h
    obtain ⟨x, hx, hl⟩ := List.mem_flatMap.mp h
    exact ih x hx hl
  | bar args ih =>
    rw [leaves] at h
    obtain ⟨x, hx, hl⟩ := List.mem_flatMap.mp h
    exact ih x (List.mem_of_mem_filter hx) hl
  | union args ih =>
    rw [leaves] at h
    obtain ⟨x, hx, hl⟩ := List.mem_flatMap.mp h
    exact ih x (List.mem_of_mem_filter hx) hl

/-- **The flattening is complete.** Every annotation flattens to a list whose entries, marked
by where they come from, are one origin for each container and union of the annotation, in
preorder, and the leaves of the annotation from left to right, `None` left out where it is an
argument of a union; no leaf has an origin. -/
theorem parts_flatten_complete (a : TypeHint) :
    ∃ xs : List (Origin ⊕ TypeHint), a.parts = xs.map entryPart ∧
      xs.filterMap Sum.getLeft? = a.nodes ∧ xs.filterMap Sum.getRight? = a.leaves ∧
      ∀ l ∈ a.leaves, l.origin? = Option.none :=
  ⟨a.entries, parts_eq_map_entries a, filterMap_getLeft_entries a, filterMap_getRight_entries a,
    fun _ hl => origin?_eq_none_of_mem_leaves hl⟩

/-- In `list[dict]` the class `dict` is a leaf, listed under the name of an origin. -/
example : (generic .list [.cls (.builtin "dict")]).entries =
    [.inl (.container .list), .inr (.cls (.builtin "dict"))] := by
  simp [entries]

/-! ### Up to order -/

/-- Marked entries, up to order, are their left entries followed by their right ones. -/
theorem perm_map_sumElim {α β γ : Type} (f : α → γ) (g : β → γ) (xs : List (α ⊕ β)) :
    (xs.map (Sum.elim f g)).Perm
      ((xs.filterMap Sum.getLeft?).map f ++ (xs.filterMap Sum.getRight?).map g) := by
  induction xs with
  | nil => rfl
  | cons x xs ih =>
    cases x with
    | inl a =>
      simp only [List.map_cons, Sum.elim_inl, List.filterMap_cons, Sum.getLeft?_inl,
        Sum.getRight?_inl, List.cons_append]
      exact ih.cons (f a)
    | inr b =>
      simp only [List.map_cons, Sum.elim_inr, List.filterMap_cons, Sum.getLeft?_inr,
        Sum.getRight?_inr]
      exact (ih.cons (g b)).trans List.perm_middle.symm

/-- Up to order, the flattening is the origin of every container and union followed by every
leaf; so a name is listed once for each node of its kind and once for each leaf that carries
it. -/
theorem parts_perm_nodes_append_leaves (a : TypeHint) :
    a.parts.Perm (a.nodes.map Origin.part ++ a.leaves.map ownPart) := by
  rw [parts_eq_map_entries, ← filterMap_getLeft_entries, ← filterMap_getRight_entries]
  exact perm_map_sumElim Origin.part ownPart a.entries

end TransitKit.Typing.TypeHint
