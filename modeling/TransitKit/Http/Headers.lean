import TransitKit.Text.CaseMap

/-!
# Header fields

The header fields of an HTTP message, in the order they were given. Field names are
compared without regard to case; when a name is given twice, the later value counts.
-/

namespace TransitKit.Http

open Text

/-- Header fields in the order given. -/
structure Headers where
  fields : List (String × String)
deriving Repr, BEq, Inhabited

namespace Headers

/-- No header fields. -/
def empty : Headers := ⟨[]⟩

/-- Two field names are the same name when their lower-case forms agree. -/
def sameName (a b : String) : Bool := lowerText a == lowerText b

/-- The value of the last field with the given name. -/
def get? (h : Headers) (name : String) : Option String :=
  h.fields.foldl (fun acc (k, v) => if sameName k name then some v else acc) none

/-- The values of every field with the given name, joined by a comma and a space: the
one value of a field given once, and none for a field not given. -/
def joined? (h : Headers) (name : String) : Option String :=
  match h.fields.filter (fun (k, _) => sameName k name) with
  | [] => none
  | fs => some (", ".intercalate (fs.map (·.2)))

/-- Whether a field with the given name is present. -/
def has (h : Headers) (name : String) : Bool := h.fields.any fun (k, _) => sameName k name

theorem has_of_get?_eq_some (h : Headers) (name v : String) (hv : h.get? name = some v) :
    h.has name = true := by
  unfold get? at hv
  unfold has
  suffices ∀ (acc : Option String) (fs : List (String × String)),
      fs.foldl (fun acc (kv : String × String) =>
        if sameName kv.1 name then some kv.2 else acc) acc = some v →
      acc = some v ∨ fs.any (fun (kv : String × String) => sameName kv.1 name) = true by
    rcases this none h.fields hv with h1 | h1
    · cases h1
    · exact h1
  intro acc fs
  induction fs generalizing acc with
  | nil => intro e; exact Or.inl e
  | cons kv rest ih =>
    intro e
    simp only [List.foldl_cons] at e
    rcases ih _ e with h1 | h1
    · by_cases hs : sameName kv.1 name = true
      · exact Or.inr (by simp [hs])
      · simp only [hs] at h1
        exact Or.inl h1
    · exact Or.inr (by simp [h1])

end Headers

end TransitKit.Http
