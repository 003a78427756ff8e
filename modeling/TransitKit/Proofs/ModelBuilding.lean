import Mathlib
import TransitKit.Proofs.ResponseModels
import TransitKit.Proofs.EntityRenaming

/-!
# Building models from component schemas

`buildModels` goes over the components twice: the first pass puts the model of each object
component, the second the root model of each array component, each under its class name. From
a buildable set of components (`Buildable`) building never fails and each model is the one its
component asks for (`buildModels_buildable`); each pass is a fold that carries an invariant over
the components done. A property makes a field exactly when its schema is a `FieldSchema`: a text
reference, an enumeration, an array of such items, or a type that is no list or object
(`fieldType_ok_iff`). Array models are built in order, so an array over a later array fails
(`chainedArrays_build`).
-/

namespace TransitKit.Model

open Typing

/-! ## What components declare -/

/-- The type a component schema declares, when it is a text. -/
def declaredType (s : Json) : Option String := (s.get? "type").bind Json.str?

/-- Whether a component declares an object schema. -/
def isObjectSchema (p : String × Json) : Bool := declaredType p.2 == some "object"

/-- Whether a component declares an array schema. -/
def isArraySchema (p : String × Json) : Bool := declaredType p.2 == some "array"

/-- The class names of the object components, in order. -/
def objectNames (cs : List (String × Json)) : List String :=
  (cs.filter isObjectSchema).map (Naming.className ·.1)

/-- The class names of the array components, in order. -/
def arrayNames (cs : List (String × Json)) : List String :=
  (cs.filter isArraySchema).map (Naming.className ·.1)

/-- The names an object schema lists as required. -/
def requiredOf (s : Json) : List Json :=
  match s.get? "required" with
  | some (.arr xs) => xs
  | _ => []

/-- Whether a property is among the names listed. -/
def listedIn (required : List Json) (p : String) : Bool := required.any fun x => x.str? == some p

/-- The model the items of an array component refer to, if they refer to one. -/
def itemsTarget (s : Json) : Option String :=
  match (s.get? "items").bind (·.get? "$ref") with
  | some (.str r) => some (referencedName r)
  | _ => none

/-- The view of a field the schema fixes: its code name, its data name, and whether it is
required. -/
def BuiltField.view (f : BuiltField) : String × String × Bool := (f.name, f.dataName, f.required)

/-- The model an object schema should give: one field per property, under the property's code
name with the property's name as alias, required exactly when listed; or the dictionary alias
when the schema has no properties. -/
def ObjectModelFor (s : Json) : BuiltModel → Prop
  | .object fields => ∃ props, s.get? "properties" = some (.obj props) ∧
      fields.map BuiltField.view =
        props.map fun q => (Naming.fieldName q.1, q.1, listedIn (requiredOf s) q.1)
  | .anyDict => s.get? "properties" = none
  | .array _ => False

/-- Properties fields can be made of: an object of object schemas whose annotations can be
built, with distinct code names. -/
def PropertiesOk (v : Json) : Prop :=
  ∃ props, v = .obj props ∧ (props.map (Naming.fieldName ·.1)).Nodup ∧
    ∀ q ∈ props, q.2.isObj = true ∧ ∀ o, ∃ h, fieldType o q.2 q.1 = .ok h

/-- Items an array model can be made over: an object, whose `$ref`, if any, is a text naming
one of the models given. -/
def ItemsOk (names : List String) (s : Json) : Prop :=
  ∃ ifs, s.get? "items" = some (.obj ifs) ∧
    ∀ v, Json.lookup ifs "$ref" = some v → ∃ r, v = .str r ∧ referencedName r ∈ names

/-- Component schemas every model can be built from: objects with distinct class names; an
object schema's properties make fields and its required names are a list; an array schema's
items refer to an object component or an earlier array component. -/
structure Buildable (cs : List (String × Json)) : Prop where
  schemas : ∀ p ∈ cs, p.2.isObj = true
  distinct : (cs.map (Naming.className ·.1)).Nodup
  properties : ∀ p ∈ cs, isObjectSchema p = true → ∀ v, p.2.get? "properties" = some v →
    PropertiesOk v
  required : ∀ p ∈ cs, isObjectSchema p = true → ∀ v, p.2.get? "required" = some v →
    ∃ xs, v = .arr xs
  items : ∀ pre p post, cs = pre ++ p :: post → isArraySchema p = true →
    ItemsOk (objectNames cs ++ arrayNames pre) p.2

/-! ## One property -/

theorem exists_bind_ok {ε α β : Type} {x : Except ε α} {g : α → Except ε β} {R : β → Prop}
    (h : ∃ a, x = .ok a ∧ ∃ b, g a = .ok b ∧ R b) : ∃ b, (x >>= g) = .ok b ∧ R b := by
  obtain ⟨a, rfl, b, hb, hR⟩ := h
  exact ⟨b, hb, hR⟩

theorem lookup_of_any {fs : List (String × Json)} {k : String} (h : fs.any (·.1 == k) = true) :
    ∃ v, Json.lookup fs k = some v :=
  Option.isSome_iff_exists.mp (Json.isSome_lookup_iff.mpr (any_key_iff.mp h))

theorem lookup_eq_none_of_any {fs : List (String × Json)} {k : String}
    (h : fs.any (·.1 == k) = false) : Json.lookup fs k = none :=
  Json.lookup_eq_none_iff.mpr fun hk => by simp [any_key_iff.mpr hk] at h

theorem holds?_arr (req : List Json) (name : String) :
    (Json.arr req).holds? name = .ok (listedIn req name) := by
  simp only [Json.holds?, listedIn]
  congr 2
  funext x
  cases x <;> simp [Json.str?]

theorem holds?_obj (fs : List (String × Json)) (k : String) :
    (Json.obj fs).holds? k = .ok (fs.any (·.1 == k)) := rfl

/-- A property whose annotation can be built gives its field: under its code name, with its
name as alias, required exactly when listed. -/
theorem propertyField_ok {o : List Nat} {req : List Json} {name : String}
    {qfs : List (String × Json)} {h : TypeHint} (hint : fieldType o (.obj qfs) name = .ok h) :
    ∃ f d, propertyField o (.arr req) name (.obj qfs) = .ok (f, d) ∧
      f.view = (Naming.fieldName name, name, listedIn req name) := by
  unfold propertyField
  simp only [hint, ok_bind, holds?_arr, holds?_obj]
  split
  · obtain ⟨dv, hdv⟩ := lookup_of_any ‹_›
    cases listedIn req name
    · exact ⟨⟨Naming.fieldName name, name, false, h.or .none⟩, some dv,
        by simp [Json.index?, hdv, Functor.map, Except.map], rfl⟩
    · exact ⟨⟨Naming.fieldName name, name, true, h⟩, some dv, by simp [Json.index?, hdv, Functor.map, Except.map], rfl⟩
  · cases listedIn req name
    · exact ⟨⟨Naming.fieldName name, name, false, h.or .none⟩, none, rfl, rfl⟩
    · exact ⟨⟨Naming.fieldName name, name, true, h⟩, none, rfl, rfl⟩

/-! ## Property schemas that read as annotations -/

/-- Values that an enumeration class of a field can be made of: the field has a first
character, the values can be iterated, and no name they give that is not private to the class
is empty or `mro`. -/
def EnumReady (field : String) (vs : Json) : Prop :=
  field ≠ "" ∧ ∃ xs, Json.iterItems? vs = .ok xs ∧ ∀ name, enumClassName field = .ok name →
    ∀ k ∈ (namedEntries xs).map (·.1), isPrivateName name k = false → k ≠ "" ∧ k ≠ "mro"

/-- The type a property schema declares, `Any` when it declares none. -/
def kindOf (fs : List (String × Json)) : Json := (Json.lookup fs "type").getD (.str "Any")

/-- A property schema whose annotation can be read: an object with a text `$ref` naming a
class that can be referred to; or, without `$ref`, with an `enum` that makes an enumeration
class; or, without either, an `array` whose items, when true, are such a schema; or of a type
that is neither a list nor an object. -/
inductive FieldSchema (field : String) : Json → Prop
  | ref {fs : List (String × Json)} {r : String} (href : Json.lookup fs "$ref" = some (.str r))
      (hname : referencedName r ≠ "") (hexpr : isExpression (referencedName r) = true) :
      FieldSchema field (.obj fs)
  | enum {fs : List (String × Json)} {vs : Json} (hnoref : Json.lookup fs "$ref" = none)
      (henum : Json.lookup fs "enum" = some vs) (hvalues : EnumReady field vs) :
      FieldSchema field (.obj fs)
  | array {fs : List (String × Json)} {items : Json} (hnoref : Json.lookup fs "$ref" = none)
      (hnoenum : Json.lookup fs "enum" = none) (hkind : (kindOf fs).str? = some "array")
      (hitems : Json.lookup fs "items" = some items) (htrue : items.truthy = true)
      (hfield : FieldSchema field items) : FieldSchema field (.obj fs)
  | anyList {fs : List (String × Json)} (hnoref : Json.lookup fs "$ref" = none)
      (hnoenum : Json.lookup fs "enum" = none) (hkind : (kindOf fs).str? = some "array")
      (hitems : ((Json.lookup fs "items").getD (.obj [])).truthy = false) :
      FieldSchema field (.obj fs)
  | scalar {fs : List (String × Json)} (hnoref : Json.lookup fs "$ref" = none)
      (hnoenum : Json.lookup fs "enum" = none) (hkind : (kindOf fs).str? ≠ some "array")
      (hobj : (kindOf fs).isObj = false) (harr : ∀ xs, kindOf fs ≠ .arr xs) :
      FieldSchema field (.obj fs)

theorem depth_lt_of_lookup {fs : List (String × Json)} {k : String} {v : Json}
    (h : Json.lookup fs k = some v) : v.depth < (Json.obj fs).depth := by
  obtain ⟨p, hp, rfl⟩ := Option.map_eq_some_iff.mp h
  have hmem := List.mem_of_find?_eq_some hp
  suffices hle : ∀ gs : List (String × Json), p ∈ gs → p.2.depth ≤ Json.membersDepth gs by
    exact Nat.lt_succ_of_le (hle fs hmem)
  intro gs hgs
  induction gs with
  | nil => cases hgs
  | cons q gs ih =>
    obtain ⟨k', v'⟩ := q
    rw [Json.membersDepth]
    rcases List.mem_cons.mp hgs with rfl | hgs
    · exact le_max_left _ _
    · exact le_max_of_le_right (ih hgs)

theorem ref?_ok_iff (t : String) :
    (∃ h, TypeHint.ref? t = .ok h) ↔ t ≠ "" ∧ isExpression t = true := by
  unfold TypeHint.ref?
  by_cases he : t = ""
  · simp [he]
  · by_cases hx : isExpression t = true
    · simp [he, hx]
    · simp [he, hx]

theorem make?_ok_iff (name : String) (o : List Nat) (xs : List Json) :
    (∃ e, EnumClass.make? name o xs = .ok e) ↔
      ∀ k ∈ (namedEntries xs).map (·.1), isPrivateName name k = false → k ≠ "" ∧ k ≠ "mro" := by
  unfold EnumClass.make?
  dsimp only
  split
  · rename_i hbad
    obtain ⟨⟨k, v⟩, hk, hkbad⟩ := List.any_eq_true.mp hbad
    obtain ⟨hmem, hpriv⟩ := List.mem_filter.mp hk
    simp only [Bool.not_eq_eq_eq_not, Bool.not_true] at hpriv
    simp only [Bool.or_eq_true, String.isEmpty_iff, beq_iff_eq] at hkbad
    simp only [reduceCtorEq, exists_false, false_iff, not_forall]
    refine ⟨k, List.mem_map_of_mem hmem, hpriv, ?_⟩
    tauto
  · rename_i hgood
    simp only [Except.ok.injEq, exists_eq', true_iff]
    intro k hk hpriv
    obtain ⟨⟨k', v⟩, hmem, rfl⟩ := List.mem_map.mp hk
    have hnot := List.any_eq_false.mp (Bool.eq_false_iff.mpr hgood) (k', v)
      (List.mem_filter.mpr ⟨hmem, by simpa using hpriv⟩)
    simp only [Bool.or_eq_true, String.isEmpty_iff, beq_iff_eq, not_or] at hnot
    exact hnot

theorem openApiClass?_ok_iff (t : Json) :
    (∃ c, openApiClass? t = .ok c) ↔ t.isObj = false ∧ ∀ xs, t ≠ .arr xs := by
  cases t with
  | arr xs => simp [openApiClass?]
  | obj fs => simp [openApiClass?, Json.isObj]
  | str s =>
    unfold openApiClass?
    split <;> simp_all [Json.isObj]
  | _ => simp [openApiClass?, Json.isObj]

/-- A schema whose annotation is read is a field schema. -/
theorem fieldSchema_of_fieldTypeWith {field : String} :
    ∀ {fuel : Nat} {o : List Nat} {spec : Json} {h : TypeHint},
      fieldTypeWith fuel o spec field = .ok h → FieldSchema field spec
  | 0, _, _, _, hft => by cases hft
  | fuel + 1, o, spec, h, hft => by
    unfold fieldTypeWith at hft
    simp only [bind_eq_ok] at hft
    obtain ⟨isRef, hholds, hft⟩ := hft
    cases spec with
    | obj fs =>
      have hisRef : fs.any (·.1 == "$ref") = isRef := Except.ok.inj hholds
      split at hft
      · rename_i hr
        dsimp only at hft
        split at hft
        · rename_i r hlook
          obtain ⟨hne, hexpr⟩ := (ref?_ok_iff _).mp ⟨h, hft⟩
          exact .ref hlook hne hexpr
        · simp at hft
      · rename_i hr
        have hnoref : Json.lookup fs "$ref" = none :=
          lookup_eq_none_of_any (by rw [hisRef]; simpa using hr)
        dsimp only at hft
        rw [pure_bind] at hft
        split at hft
        · rename_i vs henum
          simp only [bind_eq_ok, pure_eq_ok] at hft
          obtain ⟨name, hname, xs, hxs, e, he, -⟩ := hft
          have hfield : field ≠ "" := by
            rintro rfl
            simp [enumClassName] at hname
          refine .enum hnoref henum ⟨hfield, xs, hxs, fun name' hname' => ?_⟩
          rw [hname] at hname'
          cases hname'
          exact (make?_ok_iff name o xs).mp ⟨e, he⟩
        · rename_i hnoenum'
          have hnoenum : Json.lookup fs "enum" = none := by
            cases hl : Json.lookup fs "enum" with
            | none => rfl
            | some vs => exact absurd hl (hnoenum' vs)
          split at hft
          · rename_i hkind
            have hkind' : (kindOf fs).str? = some "array" := by simpa [kindOf] using hkind
            split at hft
            · rename_i htrue
              simp only [bind_eq_ok, pure_eq_ok] at hft
              obtain ⟨x, hx, -⟩ := hft
              cases hitems : Json.lookup fs "items" with
              | none => simp [hitems, Json.truthy] at htrue
              | some items =>
                rw [hitems, Option.getD_some] at htrue hx
                exact .array hnoref hnoenum hkind' hitems htrue (fieldSchema_of_fieldTypeWith hx)
            · rename_i hfalse
              exact .anyList hnoref hnoenum hkind' (by simpa using hfalse)
          · rename_i hkind
            simp only [bind_eq_ok, pure_eq_ok] at hft
            obtain ⟨c, hc, -⟩ := hft
            obtain ⟨hobj, harr⟩ := (openApiClass?_ok_iff _).mp ⟨c, hc⟩
            exact .scalar hnoref hnoenum (by simpa [kindOf] using hkind) hobj harr
    | _ =>
      split at hft
      · simp at hft
      · simp at hft

theorem any_key_of_lookup {fs : List (String × Json)} {k : String} {v : Json}
    (h : Json.lookup fs k = some v) : fs.any (·.1 == k) = true :=
  any_key_iff.mpr (Json.isSome_lookup_iff.mp (by rw [h]; rfl))

theorem any_key_of_lookup_none {fs : List (String × Json)} {k : String}
    (h : Json.lookup fs k = none) : fs.any (·.1 == k) = false :=
  Bool.eq_false_iff.mpr fun hany => by
    obtain ⟨v, hv⟩ := lookup_of_any hany
    rw [h] at hv
    cases hv

theorem enumClassName_ok {field : String} (h : field ≠ "") : ∃ name, enumClassName field = .ok name := by
  cases hf : field.toList with
  | nil => exact absurd (String.toList_eq_nil_iff.mp hf) h
  | cons c rest =>
    exact ⟨Text.upperText (String.singleton c) ++ String.ofList rest ++ "Enum", by
      simp [enumClassName, hf]⟩

/-- The annotation of a field schema is read, given fuel beyond its depth. -/
theorem fieldTypeWith_of_fieldSchema {field : String} {spec : Json} (hs : FieldSchema field spec) :
    ∀ {fuel : Nat}, spec.depth < fuel → ∀ o, ∃ h, fieldTypeWith fuel o spec field = .ok h := by
  induction hs with
  | ref href hname hexpr =>
    intro fuel hfuel o
    obtain ⟨n, rfl⟩ : ∃ n, fuel = n + 1 := ⟨fuel - 1, by omega⟩
    obtain ⟨h, hh⟩ := (ref?_ok_iff _).mpr ⟨hname, hexpr⟩
    refine ⟨h, ?_⟩
    rw [fieldTypeWith]
    simp only [holds?_obj, any_key_of_lookup href, ok_bind, if_true, href, hh]
  | enum hnoref henum hvalues =>
    intro fuel hfuel o
    obtain ⟨n, rfl⟩ : ∃ n, fuel = n + 1 := ⟨fuel - 1, by omega⟩
    obtain ⟨hfield, xs, hxs, hnames⟩ := hvalues
    obtain ⟨name, hname⟩ := enumClassName_ok hfield
    obtain ⟨e, he⟩ := (make?_ok_iff name o xs).mpr (hnames name hname)
    refine ⟨.cls (.enumeration e), ?_⟩
    rw [fieldTypeWith]
    simp only [holds?_obj, any_key_of_lookup_none hnoref, ok_bind, Bool.false_eq_true, if_false,
      pure_bind, henum, hname, hxs, he]
    rfl
  | array hnoref hnoenum hkind hitems htrue hfield ih =>
    intro fuel hfuel o
    obtain ⟨n, rfl⟩ : ∃ n, fuel = n + 1 := ⟨fuel - 1, by omega⟩
    have hdepth := depth_lt_of_lookup hitems
    obtain ⟨x, hx⟩ := @ih n (by omega) (o ++ [0])
    refine ⟨.generic .list [x], ?_⟩
    rw [fieldTypeWith]
    simp only [kindOf] at hkind
    simp only [holds?_obj, any_key_of_lookup_none hnoref, ok_bind, Bool.false_eq_true, if_false,
      pure_bind, hnoenum, hkind, hitems, Option.getD_some, htrue, hx, beq_self_eq_true, if_true]
    rfl
  | anyList hnoref hnoenum hkind hitems =>
    intro fuel hfuel o
    obtain ⟨n, rfl⟩ : ∃ n, fuel = n + 1 := ⟨fuel - 1, by omega⟩
    refine ⟨.generic .list [.cls .anything], ?_⟩
    rw [fieldTypeWith]
    simp only [kindOf] at hkind
    simp only [holds?_obj, any_key_of_lookup_none hnoref, ok_bind, Bool.false_eq_true, if_false,
      pure_bind, hnoenum, hkind, hitems, beq_self_eq_true, if_true]
    rfl
  | scalar hnoref hnoenum hkind hobj harr =>
    intro fuel hfuel o
    obtain ⟨n, rfl⟩ : ∃ n, fuel = n + 1 := ⟨fuel - 1, by omega⟩
    obtain ⟨c, hc⟩ := (openApiClass?_ok_iff _).mpr ⟨hobj, harr⟩
    simp only [kindOf] at hkind hc
    refine ⟨.cls c, ?_⟩
    rw [fieldTypeWith]
    simp only [holds?_obj, any_key_of_lookup_none hnoref, ok_bind, Bool.false_eq_true, if_false,
      pure_bind, hnoenum, hkind, hc, beq_iff_eq]
    rfl

theorem FieldSchema.isObj {field : String} {spec : Json} (h : FieldSchema field spec) :
    spec.isObj = true := by
  cases h <;> rfl

/-- A property schema's annotation is read exactly when it is a field schema. -/
theorem fieldType_ok_iff (o : List Nat) (spec : Json) (field : String) :
    (∃ h, fieldType o spec field = .ok h) ↔ FieldSchema field spec :=
  ⟨fun ⟨_, hh⟩ => fieldSchema_of_fieldTypeWith hh,
    fun hs => fieldTypeWith_of_fieldSchema hs (Nat.lt_succ_self _) o⟩

/-- Properties make fields exactly when they are an object of field schemas under distinct
code names. -/
theorem propertiesOk_iff (v : Json) :
    PropertiesOk v ↔ ∃ props, v = .obj props ∧ (props.map (Naming.fieldName ·.1)).Nodup ∧
      ∀ q ∈ props, FieldSchema q.1 q.2 := by
  constructor
  · rintro ⟨props, rfl, hnodup, hq⟩
    exact ⟨props, rfl, hnodup, fun q hq' => (fieldType_ok_iff [] q.2 q.1).mp ((hq q hq').2 [])⟩
  · rintro ⟨props, rfl, hnodup, hq⟩
    exact ⟨props, rfl, hnodup, fun q hq' =>
      ⟨(hq q hq').isObj, fun o => (fieldType_ok_iff o q.2 q.1).mpr (hq q hq')⟩⟩

example : FieldSchema "near" (.obj [("$ref", .str "#/components/schemas/Place")]) :=
  .ref rfl (by decide +kernel) (by decide +kernel)

/-! ## One object component -/

/-- A fold that appends one field per property, each under a fresh code name, gives the
fields of the properties in order. -/
theorem foldlM_fields {α : Type} {P : String × Json → Prop}
    {F : List BuiltField × α → (String × Json) × Nat → Outcome (List BuiltField × α)}
    {view : String × Json → String × String × Bool}
    (hF : ∀ acc q k, P q → (view q).1 ∉ acc.1.map (·.name) →
      ∃ f a, F acc (q, k) = .ok (acc.1 ++ [f], a) ∧ f.view = view q) :
    ∀ (L : List ((String × Json) × Nat)) (acc : List BuiltField × α), (∀ e ∈ L, P e.1) →
      (L.map fun e => (view e.1).1).Nodup → (∀ e ∈ L, (view e.1).1 ∉ acc.1.map (·.name)) →
      ∃ r, L.foldlM F acc = .ok r ∧
        r.1.map BuiltField.view = acc.1.map BuiltField.view ++ L.map fun e => view e.1
  | [], acc, _, _, _ => ⟨acc, rfl, by simp⟩
  | (q, k) :: L, acc, hP, hnodup, hfresh => by
    obtain ⟨f, a, hFe, hview⟩ := hF acc q k (hP _ List.mem_cons_self) (hfresh _ List.mem_cons_self)
    rw [List.map_cons, List.nodup_cons] at hnodup
    have hfresh' : ∀ e ∈ L, (view e.1).1 ∉ (acc.1 ++ [f]).map (·.name) := by
      intro e he hmem
      rw [List.map_append, List.mem_append, List.map_singleton, List.mem_singleton] at hmem
      rcases hmem with hmem | hmem
      · exact hfresh e (List.mem_cons_of_mem _ he) hmem
      · have hname : f.name = (view q).1 := congrArg Prod.fst hview
        exact hnodup.1 (List.mem_map.mpr ⟨e, he, hmem.trans hname⟩)
    obtain ⟨r, hr, hrv⟩ := foldlM_fields hF L (acc.1 ++ [f], a)
      (fun e he => hP e (List.mem_cons_of_mem _ he)) hnodup.2 hfresh'
    refine ⟨r, by rw [List.foldlM_cons, hFe, ok_bind, hr], ?_⟩
    rw [hrv, List.map_append, List.map_singleton, hview, List.map_cons, List.append_assoc,
      List.singleton_append]

/-- The fold of the fields, read through what follows it. -/
theorem exists_foldlM_fields {α : Type} {P : String × Json → Prop}
    {F : List BuiltField × α → (String × Json) × Nat → Outcome (List BuiltField × α)}
    {view : String × Json → String × String × Bool} {Q : List BuiltField × α → Prop}
    (hF : ∀ acc q k, P q → (view q).1 ∉ acc.1.map (·.name) →
      ∃ f a, F acc (q, k) = .ok (acc.1 ++ [f], a) ∧ f.view = view q)
    {L : List ((String × Json) × Nat)} {acc : List BuiltField × α} (hP : ∀ e ∈ L, P e.1)
    (hnodup : (L.map fun e => (view e.1).1).Nodup)
    (hfresh : ∀ e ∈ L, (view e.1).1 ∉ acc.1.map (·.name))
    (hQ : ∀ r : List BuiltField × α,
      r.1.map BuiltField.view = acc.1.map BuiltField.view ++ L.map (fun e => view e.1) → Q r) :
    ∃ r, L.foldlM F acc = .ok r ∧ Q r :=
  let ⟨r, hr, hv⟩ := foldlM_fields hF L acc hP hnodup hfresh
  ⟨r, hr, hQ r hv⟩

theorem map_zipIdx_fst {α β : Type} (g : α → β) (l : List α) :
    l.zipIdx.map (fun e => g e.1) = l.map g := by
  show List.map (g ∘ Prod.fst) _ = _
  rw [← List.map_map, List.zipIdx_map_fst]

theorem fst_mem_of_mem_zipIdx {α : Type} {l : List α} {e : α × Nat} (he : e ∈ l.zipIdx) :
    e.1 ∈ l := by
  rw [← List.zipIdx_map_fst 0 l]
  exact List.mem_map_of_mem he

theorem str?_getD_null (o : Option Json) : (o.getD .null).str? = o.bind Json.str? := by
  cases o <;> rfl

theorem objectModel_of_not_object {b : Build} {i : Nat} {c : String} {fs : List (String × Json)}
    (h : declaredType (.obj fs) ≠ some "object") : b.objectModel i c (.obj fs) = .ok b := by
  have h' : ((Json.lookup fs "type").getD .null).str? ≠ some "object" := by
    rwa [str?_getD_null]
  simp [Build.objectModel, Json.getOr?, h']

theorem objectModel_of_object {b : Build} {i : Nat} {c : String} {fs : List (String × Json)}
    (h : declaredType (.obj fs) = some "object")
    (hprops : ∀ v, Json.lookup fs "properties" = some v → PropertiesOk v)
    (hreq : ∀ v, Json.lookup fs "required" = some v → ∃ xs, v = .arr xs) :
    ∃ b', b.objectModel i c (.obj fs) = .ok b' ∧ b'.failure = b.failure ∧
      ∃ m, b'.models = putEntry b.models c m ∧ ObjectModelFor (.obj fs) m := by
  have h' : ((Json.lookup fs "type").getD .null).str? = some "object" := by
    rwa [str?_getD_null]
  unfold Build.objectModel
  simp only [Json.getOr?, ok_bind, h', bne_self_eq_false, Bool.false_eq_true, if_false, holds?_obj]
  split
  · rename_i hnone
    have hl : Json.lookup fs "properties" = none := lookup_eq_none_of_any (by simpa using hnone)
    exact ⟨_, rfl, rfl, .anyDict, rfl, hl⟩
  · rename_i hsome
    obtain ⟨v, hv⟩ := lookup_of_any (by simpa using hsome)
    obtain ⟨props, rfl, hnodup, hq⟩ := hprops v hv
    have hrequired : (Json.lookup fs "required").getD (.arr []) = .arr (requiredOf (.obj fs)) := by
      cases hr : Json.lookup fs "required" with
      | none => simp [requiredOf, Json.get?, hr]
      | some r =>
        obtain ⟨xs, rfl⟩ := hreq _ hr
        simp [requiredOf, Json.get?, hr]
    simp only [Json.index?, hv, mappingItems, ok_bind, hrequired]
    apply exists_bind_ok
    refine @exists_foldlM_fields _ (· ∈ props) _
      (fun q => (Naming.fieldName q.1, q.1, listedIn (requiredOf (.obj fs)) q.1)) _ ?_ _ _ ?_ ?_ ?_ ?_
    · intro acc q k hq' hfresh
      obtain ⟨n, sq⟩ := q
      obtain ⟨hobj, hty⟩ := hq _ hq'
      obtain ⟨qfs, rfl⟩ := Json.exists_eq_obj_of_isObj hobj
      obtain ⟨h, hh⟩ := hty [i, k]
      obtain ⟨f, d, hpf, hview⟩ := propertyField_ok hh
      have hname : f.name = Naming.fieldName n := congrArg Prod.fst hview
      have hany : (acc.1.any fun g => g.name == f.name) = false := by
        rw [List.any_eq_false]
        intro g hg hgf
        exact hfresh (List.mem_map.mpr ⟨g, hg, by simpa [hname] using hgf⟩)
      exact ⟨f, _, by simp only [hpf, ok_bind, hany]; rfl, hview⟩
    · exact fun e he => fst_mem_of_mem_zipIdx he
    · simpa only [map_zipIdx_fst (fun q : String × Json => Naming.fieldName q.1)] using hnodup
    · intro e _ hmem
      simp at hmem
    · intro r hr
      refine ⟨_, rfl, by split <;> rfl, .object r.1, by split <;> rfl, props, by simp [Json.get?, hv], ?_⟩
      rw [hr, List.map_nil, List.nil_append, map_zipIdx_fst
        (fun q : String × Json => (Naming.fieldName q.1, q.1, listedIn (requiredOf (.obj fs)) q.1))]

theorem describe_ok (b : Build) (c : String) (fs : List (String × Json)) :
    ∃ b₁, b.describe c (.obj fs) = .ok b₁ ∧ b₁.models = b.models ∧ b₁.failure = b.failure := by
  unfold Build.describe
  simp only [holds?_obj, ok_bind]
  split
  · obtain ⟨dv, hdv⟩ := lookup_of_any ‹_›
    exact ⟨{ b with modelDescriptions := putEntry b.modelDescriptions c dv },
      by simp [Json.index?, hdv], rfl, rfl⟩
  · exact ⟨b, rfl, rfl, rfl⟩

/-- The first pass over an object component: the failure stays clear, and the component's
model is put under its class name when it declares an object. -/
theorem objectPass_spec {b : Build} (hb : b.failure = none) (i : Nat) (n : String)
    {fs : List (String × Json)}
    (hprops : declaredType (.obj fs) = some "object" →
      ∀ v, Json.lookup fs "properties" = some v → PropertiesOk v)
    (hreq : declaredType (.obj fs) = some "object" →
      ∀ v, Json.lookup fs "required" = some v → ∃ xs, v = .arr xs) :
    (b.objectPass i n (.obj fs)).failure = none ∧
      if declaredType (.obj fs) = some "object" then
        ∃ m, (b.objectPass i n (.obj fs)).models = putEntry b.models (Naming.className n) m ∧
          ObjectModelFor (.obj fs) m
      else (b.objectPass i n (.obj fs)).models = b.models := by
  obtain ⟨b₁, hd, hm, hf⟩ := describe_ok b (Naming.className n) fs
  unfold Build.objectPass
  simp only [hd]
  split
  · rename_i hobj
    obtain ⟨b', hb', hf', m, hm', hfor⟩ := @objectModel_of_object b₁ i (Naming.className n) fs
      hobj (hprops hobj) (hreq hobj)
    rw [hb']
    exact ⟨hf'.trans (hf.trans hb), m, hm'.trans (by rw [hm]), hfor⟩
  · rename_i hobj
    rw [objectModel_of_not_object hobj]
    exact ⟨hf.trans hb, hm⟩

/-! ## One array component -/

theorem arrayPass_of_not_array {b : Build} {n : String} {fs : List (String × Json)}
    (h : declaredType (.obj fs) ≠ some "array") : b.arrayPass n (.obj fs) = .ok b := by
  have h' : ((Json.lookup fs "type").getD .null).str? ≠ some "array" := by
    rwa [str?_getD_null]
  simp [Build.arrayPass, Json.getOr?, h']

/-- The second pass over an array component whose items are fine: its root model over the
items' model, or over anything, is put under its class name. -/
theorem arrayPass_of_array {b : Build} {n : String} {fs : List (String × Json)}
    {names : List String} (h : declaredType (.obj fs) = some "array") (hitems : ItemsOk names (.obj fs))
    (hnames : ∀ t ∈ names, t ∈ b.models.map (·.1)) :
    b.arrayPass n (.obj fs) =
      .ok { b with models := putEntry b.models (Naming.className n) (.array (itemsTarget (.obj fs))) } := by
  have h' : ((Json.lookup fs "type").getD .null).str? = some "array" := by
    rwa [str?_getD_null]
  obtain ⟨ifs, hifs, href⟩ := hitems
  have hget : Json.lookup fs "items" = some (.obj ifs) := hifs
  unfold Build.arrayPass
  simp only [Json.getOr?, ok_bind, h', bne_self_eq_false, Bool.false_eq_true, if_false, hget,
    Option.getD_some, holds?_obj]
  split
  · rename_i hany
    obtain ⟨v, hv⟩ := lookup_of_any hany
    obtain ⟨r, rfl, hr⟩ := href v hv
    have hthere : b.models.any (·.1 == referencedName r) = true :=
      any_key_iff.mpr (hnames _ hr)
    have ht : itemsTarget (.obj fs) = some (referencedName r) := by
      simp [itemsTarget, Json.get?, hget, hv]
    simp [Json.index?, hv, hthere, ht]
  · rename_i hany
    have hnone : Json.lookup ifs "$ref" = none := lookup_eq_none_of_any (Bool.eq_false_iff.mpr hany)
    have ht : itemsTarget (.obj fs) = none := by
      simp [itemsTarget, Json.get?, hget, hnone]
    rw [ht]
    rfl

/-! ## The two passes -/

/-- A fold that takes each step while no failure is recorded keeps what each step keeps. -/
theorem foldl_pass {full : List (String × Json)} {step : Build → Nat → String → Json → Build}
    {g : Build → (String × Json) × Nat → Build} (P : Build → List (String × Json) → Prop)
    (hg : ∀ b e, b.failure = none → g b e = step b e.2 e.1.1 e.1.2)
    (hstep : ∀ b pre p post i, full = pre ++ p :: post → b.failure = none → P b pre →
      (step b i p.1 p.2).failure = none ∧ P (step b i p.1 p.2) (pre ++ [p])) :
    ∀ (L : List ((String × Json) × Nat)) (pre : List (String × Json)) (b : Build),
      full = pre ++ L.map (·.1) → b.failure = none → P b pre →
      (L.foldl g b).failure = none ∧ P (L.foldl g b) full
  | [], pre, b, hfull, hb, hP => by
    rw [List.map_nil, List.append_nil] at hfull
    subst hfull
    exact ⟨hb, hP⟩
  | e :: L, pre, b, hfull, hb, hP => by
    rw [List.foldl_cons, hg b e hb]
    obtain ⟨hb', hP'⟩ := hstep b pre e.1 (L.map (·.1)) e.2 (by simpa using hfull) hb hP
    exact foldl_pass P hg hstep L (pre ++ [e.1]) _ (by simpa using hfull) hb' hP'

/-- A pass whose every step, from a build without failure, keeps the failure clear and
carries an invariant over the components done ends with the invariant over all of them. -/
theorem Build.pass_invariant {cs : List (String × Json)}
    {step : Build → Nat → String → Json → Build} (P : Build → List (String × Json) → Prop)
    (hstep : ∀ b pre p post i, cs = pre ++ p :: post → b.failure = none → P b pre →
      (step b i p.1 p.2).failure = none ∧ P (step b i p.1 p.2) (pre ++ [p]))
    {b : Build} (hb : b.failure = none) (h0 : P b []) :
    (b.pass cs step).failure = none ∧ P (b.pass cs step) cs := by
  unfold Build.pass
  refine foldl_pass P ?_ hstep cs.zipIdx [] b (by simp) hb h0
  intro b e hb
  simp [hb]

theorem putEntry_of_not_mem {α : Type} {xs : List (String × α)} {k : String}
    (hk : k ∉ xs.map (·.1)) (v : α) : putEntry xs k v = xs ++ [(k, v)] := by
  have hany : xs.any (·.1 == k) = false := Bool.eq_false_iff.mpr (mt any_key_iff.mp hk)
  simp [putEntry, hany]

/-- After the first pass over the components done: the models of their object components,
in order. -/
def ObjectsBuilt (b : Build) (done : List (String × Json)) : Prop :=
  b.models.map (·.1) = objectNames done ∧
    ∀ e ∈ b.models, ∃ p ∈ done, isObjectSchema p = true ∧ e.1 = Naming.className p.1 ∧
      ObjectModelFor p.2 e.2

/-- After the second pass over the components done: the object models of all components, then
the array models of those done, in order. -/
def ArraysBuilt (cs : List (String × Json)) (b : Build) (done : List (String × Json)) : Prop :=
  b.models.map (·.1) = objectNames cs ++ arrayNames done ∧
    ∀ e ∈ b.models,
      (∃ p ∈ cs, isObjectSchema p = true ∧ e.1 = Naming.className p.1 ∧ ObjectModelFor p.2 e.2) ∨
      (∃ p ∈ done, isArraySchema p = true ∧ e.1 = Naming.className p.1 ∧
        e.2 = .array (itemsTarget p.2))

namespace Buildable

variable {cs : List (String × Json)}

theorem eq_of_className_eq (h : Buildable cs) {p q : String × Json} (hp : p ∈ cs) (hq : q ∈ cs)
    (hpq : Naming.className p.1 = Naming.className q.1) : p = q :=
  List.inj_on_of_nodup_map h.distinct hp hq hpq

/-- A component's class name is no class name of the components before it. -/
theorem className_not_mem_before (h : Buildable cs) {pre post : List (String × Json)}
    {p : String × Json} (hcs : cs = pre ++ p :: post) :
    Naming.className p.1 ∉ pre.map (Naming.className ·.1) := by
  have hd := h.distinct
  rw [hcs, List.map_append, List.map_cons, List.nodup_append] at hd
  exact fun hmem => hd.2.2 _ hmem _ List.mem_cons_self rfl

theorem obj_of_mem (h : Buildable cs) {p : String × Json} (hp : p ∈ cs) :
    ∃ fs, p.2 = .obj fs :=
  Json.exists_eq_obj_of_isObj (h.schemas p hp)

/-- A component's class name is no class name of the components before it of any kind. -/
theorem className_not_mem_filter_before (h : Buildable cs) {pre post : List (String × Json)}
    {p : String × Json} (hcs : cs = pre ++ p :: post) (f : String × Json → Bool) :
    Naming.className p.1 ∉ (pre.filter f).map (Naming.className ·.1) := fun hmem => by
  obtain ⟨q, hq, hqn⟩ := List.mem_map.mp hmem
  exact h.className_not_mem_before hcs (List.mem_map.mpr ⟨q, (List.mem_filter.mp hq).1, hqn⟩)

/-- One step of the first pass keeps the object models of the components done. -/
theorem objectsBuilt_step (h : Buildable cs) {b : Build} {pre post : List (String × Json)}
    {p : String × Json} (hcs : cs = pre ++ p :: post) (hb : b.failure = none)
    (hP : ObjectsBuilt b pre) (i : Nat) :
    (b.objectPass i p.1 p.2).failure = none ∧ ObjectsBuilt (b.objectPass i p.1 p.2) (pre ++ [p]) := by
  have hp : p ∈ cs := by rw [hcs]; simp
  obtain ⟨fs, hfs⟩ := h.obj_of_mem hp
  have hobjIff : isObjectSchema p = true ↔ declaredType (.obj fs) = some "object" := by
    simp [isObjectSchema, hfs]
  rw [hfs]
  obtain ⟨hf, hmodels⟩ := objectPass_spec hb i p.1
    (fun ho v hv => h.properties _ hp (hobjIff.mpr ho) v (by rw [hfs]; exact hv))
    (fun ho v hv => h.required _ hp (hobjIff.mpr ho) v (by rw [hfs]; exact hv))
  refine ⟨hf, ?_⟩
  unfold ObjectsBuilt
  split at hmodels
  · rename_i ho
    obtain ⟨m, hm, hfor⟩ := hmodels
    have hnew : Naming.className p.1 ∉ b.models.map (·.1) := by
      rw [hP.1]
      exact h.className_not_mem_filter_before hcs isObjectSchema
    rw [hm, putEntry_of_not_mem hnew]
    refine ⟨?_, ?_⟩
    · simp [hP.1, objectNames, List.filter_append, hobjIff.mpr ho]
    · intro e he
      rcases List.mem_append.mp he with he | he
      · obtain ⟨q, hq, hqo, hqe, hqm⟩ := hP.2 e he
        exact ⟨q, List.mem_append_left _ hq, hqo, hqe, hqm⟩
      · rw [List.mem_singleton] at he
        subst he
        exact ⟨p, List.mem_append_right _ List.mem_cons_self, hobjIff.mpr ho, by dsimp only,
          hfs ▸ hfor⟩
  · rename_i ho
    rw [hmodels]
    have hnot : isObjectSchema p = false := by
      rw [Bool.eq_false_iff, ne_eq, hobjIff]
      exact ho
    refine ⟨by simp [hP.1, objectNames, List.filter_append, hnot], fun e he => ?_⟩
    obtain ⟨q, hq, hqo, hqe, hqm⟩ := hP.2 e he
    exact ⟨q, List.mem_append_left _ hq, hqo, hqe, hqm⟩

/-- A class name of an array component is no object component's. -/
theorem className_not_mem_objectNames (h : Buildable cs) {p : String × Json} (hp : p ∈ cs)
    (harr : isArraySchema p = true) : Naming.className p.1 ∉ objectNames cs := by
  intro hmem
  obtain ⟨q, hq, hqp⟩ := List.mem_map.mp hmem
  obtain ⟨hqcs, hqo⟩ := List.mem_filter.mp hq
  have hpq := h.eq_of_className_eq hp hqcs hqp.symm
  subst hpq
  simp_all [isObjectSchema, isArraySchema]

/-- One step of the second pass keeps the object models and the array models of the
components done. -/
theorem arraysBuilt_step (h : Buildable cs) {b : Build} {pre post : List (String × Json)}
    {p : String × Json} (hcs : cs = pre ++ p :: post) (hb : b.failure = none)
    (hP : ArraysBuilt cs b pre) :
    (b.settle (b.arrayPass p.1 p.2)).failure = none ∧
      ArraysBuilt cs (b.settle (b.arrayPass p.1 p.2)) (pre ++ [p]) := by
  have hp : p ∈ cs := by rw [hcs]; simp
  obtain ⟨fs, hfs⟩ := h.obj_of_mem hp
  by_cases harr : isArraySchema p = true
  · have ha : declaredType (.obj fs) = some "array" := by simpa [isArraySchema, hfs] using harr
    have hnames : ∀ t ∈ objectNames cs ++ arrayNames pre, t ∈ b.models.map (·.1) := by
      rw [hP.1]
      exact fun t ht => ht
    have hitems := h.items pre p post hcs harr
    rw [hfs] at hitems ⊢
    rw [arrayPass_of_array ha hitems hnames]
    have hnew : Naming.className p.1 ∉ b.models.map (·.1) := by
      rw [hP.1, List.mem_append, not_or]
      exact ⟨h.className_not_mem_objectNames hp harr,
        h.className_not_mem_filter_before hcs isArraySchema⟩
    refine ⟨hb, ?_, fun e he => ?_⟩
    · simp [Build.settle, putEntry_of_not_mem hnew, hP.1, arrayNames, List.filter_append, harr]
    · simp only [Build.settle, putEntry_of_not_mem hnew, List.mem_append, List.mem_singleton] at he
      rcases he with he | rfl
      · rcases hP.2 e he with hobj | ⟨q, hq, hqa, hqe, hqm⟩
        · exact .inl hobj
        · exact .inr ⟨q, List.mem_append_left _ hq, hqa, hqe, hqm⟩
      · exact .inr ⟨p, List.mem_append_right _ List.mem_cons_self, harr, by dsimp only,
          by rw [hfs]⟩
  · have ha : declaredType (.obj fs) ≠ some "array" := by simpa [isArraySchema, hfs] using harr
    rw [hfs, arrayPass_of_not_array ha]
    refine ⟨hb, ?_, fun e he => ?_⟩
    · simp [Build.settle, hP.1, arrayNames, List.filter_append, harr]
    · rcases hP.2 e he with hobj | ⟨q, hq, hqa, hqe, hqm⟩
      · exact .inl hobj
      · exact .inr ⟨q, List.mem_append_left _ hq, hqa, hqe, hqm⟩

theorem not_object_and_array (p : String × Json) :
    ¬ (isObjectSchema p = true ∧ isArraySchema p = true) := by
  rintro ⟨ho, ha⟩
  simp only [isObjectSchema, isArraySchema, beq_iff_eq] at ho ha
  rw [ho] at ha
  exact absurd (Option.some.inj ha) (by decide)

/-- The class names of the object components and then of the array components are
distinct. -/
theorem nodup_names (h : Buildable cs) : (objectNames cs ++ arrayNames cs).Nodup := by
  refine List.nodup_append.mpr ⟨(List.filter_sublist.map _).nodup h.distinct,
    (List.filter_sublist.map _).nodup h.distinct, ?_⟩
  intro a ha b hb hab
  obtain ⟨p, hp, rfl⟩ := List.mem_map.mp ha
  obtain ⟨q, hq, hqb⟩ := List.mem_map.mp hb
  obtain ⟨hpcs, hpo⟩ := List.mem_filter.mp hp
  obtain ⟨hqcs, hqa⟩ := List.mem_filter.mp hq
  have hpq := h.eq_of_className_eq hpcs hqcs (hab.trans hqb.symm)
  subst hpq
  exact not_object_and_array p ⟨hpo, hqa⟩

/-- After both passes, the model under a component's class name is the one built for it. -/
theorem lookup_arraysBuilt (h : Buildable cs) {b : Build} (hP : ArraysBuilt cs b cs)
    {p : String × Json} (hp : p ∈ cs) (hkey : Naming.className p.1 ∈ b.models.map (·.1)) :
    ∃ m, b.models.lookup (Naming.className p.1) = some m ∧
      ((isObjectSchema p = true ∧ ObjectModelFor p.2 m) ∨
        (isArraySchema p = true ∧ m = .array (itemsTarget p.2))) := by
  obtain ⟨e, he, hek⟩ := List.mem_map.mp hkey
  have hnodup : (b.models.map (·.1)).Nodup := hP.1 ▸ h.nodup_names
  refine ⟨e.2, lookup_of_mem hnodup (by rw [← hek]; exact he), ?_⟩
  rcases hP.2 e he with ⟨q, hq, hqo, hqe, hqm⟩ | ⟨q, hq, hqa, hqe, hqm⟩
  · obtain rfl := h.eq_of_className_eq hq hp (hqe.symm.trans hek)
    exact .inl ⟨hqo, hqm⟩
  · obtain rfl := h.eq_of_className_eq hq hp (hqe.symm.trans hek)
    exact .inr ⟨hqa, hqm⟩

end Buildable

/-- Building models from buildable components never fails and loses nothing: the models are
the object components' under their class names, then the array components', and each is the
model its component asks for. -/
theorem buildModels_buildable {cs : List (String × Json)} (h : Buildable cs) :
    (buildModels (.obj cs)).failure = none ∧
      (buildModels (.obj cs)).models.map (·.1) = objectNames cs ++ arrayNames cs ∧
      (∀ p ∈ cs, isObjectSchema p = true → ∃ m,
        (buildModels (.obj cs)).models.lookup (Naming.className p.1) = some m ∧
          ObjectModelFor p.2 m) ∧
      ∀ p ∈ cs, isArraySchema p = true →
        (buildModels (.obj cs)).models.lookup (Naming.className p.1) =
          some (.array (itemsTarget p.2)) := by
  obtain ⟨hf₁, hP₁⟩ := @Build.pass_invariant cs _ ObjectsBuilt
    (fun b pre p post i hcs hb hP => h.objectsBuilt_step hcs hb hP i) {} rfl ⟨rfl, by simp⟩
  obtain ⟨hf₂, hP₂⟩ := @Build.pass_invariant cs (fun b _ n s => b.settle (b.arrayPass n s))
    (ArraysBuilt cs) (fun b pre p post _ hcs hb hP => h.arraysBuilt_step hcs hb hP) _ hf₁
    ⟨by rw [hP₁.1]; simp [arrayNames], fun e he => .inl (by
      obtain ⟨q, hq, hqo, hqe, hqm⟩ := hP₁.2 e he
      exact ⟨q, by simpa using hq, hqo, hqe, hqm⟩)⟩
  have hkeys := hP₂.1
  refine ⟨hf₂, hkeys, fun p hp ho => ?_, fun p hp ha => ?_⟩
  · have hkey : Naming.className p.1 ∈ (buildModels (.obj cs)).models.map (·.1) := by
      show _ ∈ (Build.pass _ cs _).models.map (·.1)
      rw [hkeys]
      exact List.mem_append_left _ (List.mem_map.mpr ⟨p, List.mem_filter.mpr ⟨hp, ho⟩, rfl⟩)
    obtain ⟨m, hm, hfor | hfor⟩ := h.lookup_arraysBuilt hP₂ hp hkey
    · exact ⟨m, hm, hfor.2⟩
    · exact absurd ⟨ho, hfor.1⟩ (Buildable.not_object_and_array p)
  · have hkey : Naming.className p.1 ∈ (buildModels (.obj cs)).models.map (·.1) := by
      show _ ∈ (Build.pass _ cs _).models.map (·.1)
      rw [hkeys]
      exact List.mem_append_right _ (List.mem_map.mpr ⟨p, List.mem_filter.mpr ⟨hp, ha⟩, rfl⟩)
    obtain ⟨m, hm, hfor | hfor⟩ := h.lookup_arraysBuilt hP₂ hp hkey
    · exact absurd ⟨hfor.1, ha⟩ (Buildable.not_object_and_array p)
    · rw [← hfor.2]
      exact hm

/-- A place object with a required text identifier, and an array of places. -/
def placeComponents : List (String × Json) :=
  [("Place", .obj [("type", .str "object"),
      ("properties", .obj [("id", .obj [("type", .str "string")])]),
      ("required", .arr [.str "id"])]),
    ("PlaceArray", .obj [("type", .str "array"),
      ("items", .obj [("$ref", .str "#/components/schemas/Place")])])]

theorem placeComponents_buildable : Buildable placeComponents where
  schemas := by decide
  distinct := by decide
  properties := by
    intro p hp ho v hv
    simp only [placeComponents, List.mem_cons, List.not_mem_nil, or_false] at hp
    rcases hp with rfl | rfl
    · cases hv
      exact ⟨_, rfl, by decide, fun q hq => by
        simp only [List.mem_singleton] at hq
        subst hq
        exact ⟨rfl, fun o => ⟨_, rfl⟩⟩⟩
    · cases ho
  required := by
    intro p hp ho v hv
    simp only [placeComponents, List.mem_cons, List.not_mem_nil, or_false] at hp
    rcases hp with rfl | rfl
    · cases hv
      exact ⟨_, rfl⟩
    · cases ho
  items := by
    intro pre p post hcs ha
    rcases pre with _ | ⟨a, _ | ⟨b, pre⟩⟩
    · simp only [placeComponents, List.nil_append, List.cons.injEq] at hcs
      rw [← hcs.1] at ha
      cases ha
    · simp only [placeComponents, List.cons_append, List.nil_append, List.cons.injEq] at hcs
      obtain ⟨rfl, rfl, -⟩ := hcs
      refine ⟨_, rfl, fun v hv => ?_⟩
      cases hv
      exact ⟨_, rfl, by decide⟩
    · simp [placeComponents] at hcs

theorem placeComponents_build :
    (buildModels (.obj placeComponents)).failure = none ∧
      (buildModels (.obj placeComponents)).models.map (·.1) =
        objectNames placeComponents ++ arrayNames placeComponents ∧
      (∀ p ∈ placeComponents, isObjectSchema p = true → ∃ m,
        (buildModels (.obj placeComponents)).models.lookup (Naming.className p.1) = some m ∧
          ObjectModelFor p.2 m) ∧
      ∀ p ∈ placeComponents, isArraySchema p = true →
        (buildModels (.obj placeComponents)).models.lookup (Naming.className p.1) =
          some (.array (itemsTarget p.2)) :=
  buildModels_buildable placeComponents_buildable

/-- Two arrays, the first over the second, and an object: the first array's items name a
model the second pass has not built yet. -/
def chainedArrays : List (String × Json) :=
  [("A", .obj [("type", .str "array"), ("items", .obj [("$ref", .str "#/components/schemas/B")])]),
    ("B", .obj [("type", .str "array"), ("items", .obj [("$ref", .str "#/components/schemas/C")])]),
    ("C", .obj [("type", .str "object"), ("properties", .obj [])])]

theorem chainedArrays_build :
    ((buildModels (.obj chainedArrays)).failure.map Fault.message =
      some (some "Referenced model 'B' not found while creating array 'A'")) ∧
      (buildModels (.obj chainedArrays)).models.map (·.1) = ["C"] := by
  decide

end TransitKit.Model
