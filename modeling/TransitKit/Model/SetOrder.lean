import TransitKit.Digest.SipHash

/-!
# The order a hash set of texts yields its members

The search for circular models walks a model's dependencies in the order their hash set yields
them: the order of the slots of its table, not the order they were added in. This module
computes that order, probing an open-addressing table of a power-of-two size as the runtime
does, and growing it and placing the members again once it is three fifths full.
-/

namespace TransitKit.Model

/-- A hash set of texts: its slots, each empty or holding a text and its hash, and the
number of members. -/
structure TextSet where
  slots : Array (Option (String × UInt64)) := Array.replicate 8 none
  used : Nat := 0

namespace TextSet

/-- The first slot of a run that is empty or holds the text, with whether it holds it. -/
def scan (slots : Array (Option (String × UInt64))) (key : String) (h : UInt64) :
    List Nat → Option (Nat × Bool)
  | [] => none
  | j :: js =>
    match slots.getD j none with
    | none => some (j, false)
    | some (k, hk) => if hk == h && k == key then some (j, true) else scan slots key h js

/-- Follows the probe sequence of a hash from slot `i`: the slot that is empty or holds
the text. The fuel bounds the number of runs looked at. -/
def seek (slots : Array (Option (String × UInt64))) (key : String) (h : UInt64) :
    Nat → Nat → UInt64 → Option (Nat × Bool)
  | 0, _, _ => none
  | fuel + 1, i, perturb =>
    let mask := slots.size - 1
    let run := if i + 9 ≤ mask then List.range' i 10 else [i]
    match scan slots key h run with
    | some r => some r
    | none =>
      let perturb := perturb >>> 5
      seek slots key h fuel ((i * 5 + 1 + perturb.toNat) % slots.size) perturb

/-- Places a text with its hash in the first free slot of its probe sequence; a text
that is there already stays where it is. -/
def place (slots : Array (Option (String × UInt64))) (key : String) (h : UInt64) :
    Array (Option (String × UInt64)) × Bool :=
  -- the hash is used up after thirteen shifts; from then on the starts run through
  -- every slot, so the fuel reaches an empty one
  match seek slots key h (slots.size + 14) (h.toNat % slots.size) h with
  | some (j, false) => (slots.set! j (some (key, h)), true)
  | _ => (slots, false)

/-- The smallest power of two from `n` on, by doubling, that is above `least`. -/
def grownSize (least : Nat) : Nat → Nat → Nat
  | 0, n => n
  | fuel + 1, n => if n ≤ least then grownSize least fuel (2 * n) else n

/-- The set in a table with room for more than `least` members: its members placed
again in slot order. -/
def resize (t : TextSet) (least : Nat) : TextSet :=
  let size := grownSize least (least + 1) 8
  let slots := t.slots.toList.foldl (fun acc e => match e with
    | some (k, h) => (place acc k h).1
    | none => acc) (Array.replicate size none)
  { slots := slots, used := t.used }

/-- Adds a text, growing the table when it has become too full. -/
def add (t : TextSet) (key : String) : TextSet :=
  let (slots, added) := place t.slots key (Digest.textHash key)
  if !added then t
  else
    let t := { slots := slots, used := t.used + 1 }
    if t.used * 5 < (t.slots.size - 1) * 3 then t
    else t.resize (if t.used > 50000 then t.used * 2 else t.used * 4)

/-- The members in the order the set yields them. -/
def members (t : TextSet) : List String := t.slots.toList.filterMap fun e => e.map (·.1)

end TextSet

/-- The order of the set made by adding texts one after another. -/
def setOrder (xs : List String) : List String := (xs.foldl TextSet.add {}).members

theorem setOrder_nil : setOrder [] = [] := by decide

end TransitKit.Model
