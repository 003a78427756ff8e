import Mathlib
import TransitKit.Proofs.Outcome
import TransitKit.Codegen.ClientModule
import TransitKit.Text.Template

/-!
# Address templates

The configuration of a client writes the address of each operation as a template in which each
path parameter's placeholder is replaced by its place among the path parameters, and a call
fills the template with their values in that order. Read as a list of texts and placeholders,
numbering and filling put each value in its own parameter's place when the names are distinct
and brace-free and none is the numeral of an earlier place; a name like `0` after `a` gets its
placeholder numbered twice.
-/

namespace TransitKit.Text

variable {pat rep : List Char}

theorem replaceFrom_skip (ys rest : List Char) :
    replaceFrom pat rep ys.length (ys ++ rest) = replaceFrom pat rep 0 rest := by
  induction ys with
  | nil => rfl
  | cons y ys ih => simpa [replaceFrom] using ih

/-- Characters none of which starts the pattern are copied. -/
theorem replaceFrom_copy {c : Char} {pat' : List Char} (hpat : pat = c :: pat')
    {cs : List Char} (hc : c ∉ cs) (rest : List Char) :
    replaceFrom pat rep 0 (cs ++ rest) = cs ++ replaceFrom pat rep 0 rest := by
  induction cs with
  | nil => rfl
  | cons d cs ih =>
    have hd : d ≠ c := fun h => hc (h ▸ List.mem_cons_self)
    have hnot : pat.isPrefixOf (d :: (cs ++ rest)) = false := by
      subst hpat
      simp [List.isPrefixOf_cons_cons, Ne.symm hd]
    simp only [List.cons_append, replaceFrom, hnot, Bool.false_eq_true, if_false]
    rw [ih (fun h => hc (List.mem_cons_of_mem d h))]

/-- The pattern at the front is replaced, and replacing goes on after it. -/
theorem replaceFrom_match (hpat : pat ≠ []) (rest : List Char) :
    replaceFrom pat rep 0 (pat ++ rest) = rep ++ replaceFrom pat rep 0 rest := by
  obtain ⟨c, pat', rfl⟩ := List.exists_cons_of_ne_nil hpat
  rw [List.cons_append, replaceFrom, if_pos (by simp)]
  simp [@replaceFrom_skip (c :: pat') rep pat' rest]

/-- Two texts without a closing brace that each run up to a closing brace are equal. -/
theorem eq_of_append_close {p x t₁ t₂ : List Char} (hp : '}' ∉ p) (hx : '}' ∉ x)
    (h : p ++ '}' :: t₁ = x ++ '}' :: t₂) : p = x := by
  induction p generalizing x with
  | nil =>
    cases x with
    | nil => rfl
    | cons b x => simp at h; exact absurd (h.1 ▸ List.mem_cons_self) hx
  | cons a p ih =>
    cases x with
    | nil => simp at h; exact absurd (h.1 ▸ List.mem_cons_self) hp
    | cons b x =>
      simp only [List.cons_append, List.cons.injEq] at h
      rw [h.1, ih (fun hm => hp (List.mem_cons_of_mem a hm))
        (fun hm => hx (List.mem_cons_of_mem b hm)) h.2]

/-- A field of another name is copied whole. -/
theorem replaceFrom_other_field {p x : List Char} (hp : '}' ∉ p) (hx : '{' ∉ x ∧ '}' ∉ x)
    (hne : x ≠ p) (rest : List Char) :
    replaceFrom ('{' :: p ++ ['}']) rep 0 ('{' :: x ++ '}' :: rest) =
      '{' :: x ++ '}' :: replaceFrom ('{' :: p ++ ['}']) rep 0 rest := by
  have hnot : ('{' :: p ++ ['}']).isPrefixOf ('{' :: x ++ '}' :: rest) = false := by
    apply Bool.eq_false_iff.mpr
    intro hpre
    obtain ⟨t, ht⟩ := List.isPrefixOf_iff_prefix.mp hpre
    simp only [List.cons_append, List.append_assoc, List.cons.injEq, true_and] at ht
    exact hne (eq_of_append_close hp hx.2 ht).symm
  simp only [List.cons_append] at hnot ⊢
  simp only [replaceFrom, hnot, Bool.false_eq_true, if_false]
  have hcopy := @replaceFrom_copy ('{' :: p ++ ['}']) rep '{' (p ++ ['}']) rfl
    (x ++ ['}']) (by simp [hx.1]) rest
  simpa using hcopy

theorem decimalValue?_of_isDigit {c : Char} (h : c.isDigit = true) :
    decimalValue? c = some (c.toNat - '0'.toNat) := by
  rw [decimalValue?, if_pos h]

end TransitKit.Text

namespace TransitKit.Template

open Text

/-- Reading ASCII digits by their values is reading them as `Nat.ofDigitChars` does. -/
theorem foldl_decimalValue {cs : List Char} (h : ∀ c ∈ cs, c.isDigit = true) (acc : Nat) :
    cs.foldl (fun acc c => acc * 10 + (decimalValue? c).getD 0) acc = Nat.ofDigitChars 10 cs acc := by
  induction cs generalizing acc with
  | nil => simp
  | cons c cs ih =>
    rw [List.foldl_cons, Nat.ofDigitChars_cons, decimalValue?_of_isDigit (h c List.mem_cons_self),
      Option.getD_some, Nat.mul_comm, ih (fun d hd => h d (List.mem_cons_of_mem c hd))]

/-- The numeral of a number is made of decimal digits. -/
theorem mem_toString_digit {i : Nat} {c : Char} (hc : c ∈ (toString i).toList) : c.isDigit = true :=
  Nat.isDigit_of_mem_toDigits (b := 10) (n := i) (by decide) (by decide)
    (by simpa [Nat.toString_eq_ofList_toDigits] using hc)

/-- The numeral of a number names its position. -/
theorem position?_toString (i : Nat) : position? (toString i).toList = some i := by
  have hdigits : ∀ c ∈ (toString i).toList, c.isDigit = true := fun _ hc => mem_toString_digit hc
  have hsome : ∀ c ∈ (toString i).toList, (decimalValue? c).isSome = true := fun c hc => by
    simp [decimalValue?_of_isDigit (hdigits c hc)]
  have hne : (toString i).toList.isEmpty = false := by
    simp [Nat.toDigits_ne_nil]
  have htake : (toString i).toList.takeWhile (fun c => (decimalValue? c).isSome) =
      (toString i).toList := List.takeWhile_eq_self_iff.mpr hsome
  have hread : (readNumber (toString i).toList).1 = some i := by
    rw [readNumber]
    rw [htake, hne, if_neg Bool.false_ne_true, foldl_decimalValue hdigits,
      Nat.toString_eq_ofList_toDigits, String.toList_ofList, Nat.ofDigitChars_ten_toDigits]
  rw [position?, if_neg (by simp), if_pos (List.all_eq_true.mpr hsome), hread]

/-- Characters other than braces are copied, one step each. -/
theorem fillWith_copy {args : List Json} {depth : Nat} {cs : List Char}
    (h : '{' ∉ cs ∧ '}' ∉ cs) (fuel : Nat) (rest : List Char) (num : Numbering)
    (out : List Char) :
    fillWith args depth (cs.length + fuel) (cs ++ rest) num out =
      fillWith args depth fuel rest num (cs.reverse ++ out) := by
  induction cs generalizing out with
  | nil => simp
  | cons c cs ih =>
    have hc1 : c ≠ '{' := fun he => h.1 (he ▸ List.mem_cons_self)
    have hc2 : c ≠ '}' := fun he => h.2 (he ▸ List.mem_cons_self)
    have hcs : '{' ∉ cs ∧ '}' ∉ cs :=
      ⟨fun hm => h.1 (List.mem_cons_of_mem c hm), fun hm => h.2 (List.mem_cons_of_mem c hm)⟩
    rw [List.length_cons, Nat.add_right_comm, List.cons_append, fillWith]
    · rw [ih hcs, List.reverse_cons, List.append_assoc, List.singleton_append]
    all_goals
      intros
      simp_all

/-- A name of characters that end no name is read up to the closing brace. -/
theorem scanName_plain {cs : List Char}
    (h : ∀ c ∈ cs, c ≠ '{' ∧ c ≠ '[' ∧ c ≠ '}' ∧ c ≠ ':' ∧ c ≠ '!') (acc rest : List Char) :
    scanName (cs ++ '}' :: rest) acc false = .ok (acc.reverse ++ cs, some '}', rest) := by
  induction cs generalizing acc with
  | nil => simp [scanName]
  | cons c cs ih =>
    obtain ⟨h1, h2, h3, h4, h5⟩ := h c List.mem_cons_self
    rw [List.cons_append, scanName]
    simp [h1, h2, h3, h4, h5, ih (fun d hd => h d (List.mem_cons_of_mem c hd))]

/-- The field of a position. -/
theorem readField_position (i : Nat) (rest : List Char) :
    readField ((toString i).toList ++ '}' :: rest) =
      .ok (⟨(toString i).toList, none, [], false⟩, rest) := by
  have hplain : ∀ c ∈ (toString i).toList, c ≠ '{' ∧ c ≠ '[' ∧ c ≠ '}' ∧ c ≠ ':' ∧ c ≠ '!' := by
    intro c hc
    have hd := mem_toString_digit hc
    refine ⟨?_, ?_, ?_, ?_, ?_⟩ <;> rintro rfl <;> simp at hd
  rw [readField, scanName_plain hplain]
  rfl

/-- The field of a position selects the value at that position, and numbers the fields
by hand. -/
theorem select_position {args : List Json} {i : Nat} (hi : i < args.length) {num : Numbering}
    (hnum : num = .unset ∨ num = .manual) :
    select args (toString i).toList num = .ok (args[i], .manual) := by
  have hfirst : (toString i).toList.takeWhile (fun c => c != '.' && c != '[') = (toString i).toList := by
    apply List.takeWhile_eq_self_iff.mpr
    intro c hc
    have hd := mem_toString_digit hc
    have h1 : c ≠ '.' := by rintro rfl; simp at hd
    have h2 : c ≠ '[' := by rintro rfl; simp at hd
    simp [h1, h2]
  unfold select
  simp only [hfirst, position?_toString, List.drop_length]
  rcases hnum with rfl | rfl <;> simp [List.getElem?_eq_getElem hi, access, accessFrom]

/-- The field of a position is replaced by the plain text of the value there, in one
step. -/
theorem fillWith_position {args : List Json} {depth : Nat} {i : Nat} (hi : i < args.length)
    {num : Numbering} (hnum : num = .unset ∨ num = .manual) (fuel : Nat) (rest out : List Char) :
    fillWith args depth (fuel + 1) ('{' :: ((toString i).toList ++ '}' :: rest)) num out =
      fillWith args depth fuel rest .manual (args[i].text.toList.reverse ++ out) := by
  have hhead : ∀ r, (toString i).toList ++ '}' :: rest ≠ '{' :: r := by
    intro r h
    cases hts : (toString i).toList with
    | nil => simp [Nat.toDigits_ne_nil] at hts
    | cons d ds =>
      rw [hts, List.cons_append, List.cons.injEq] at h
      have hd := mem_toString_digit (hts ▸ List.mem_cons_self : d ∈ (toString i).toList)
      rw [h.1] at hd
      simp at hd
  rw [fillWith]
  · rw [readField_position]
    simp only [bind, Except.bind]
    rw [select_position hi hnum]
    simp [convert, formatValue, pure, Except.pure]
  all_goals
    intros
    simp_all

end TransitKit.Template

namespace TransitKit.Codegen

open Text

/-- A text without braces. -/
def BraceFree (s : String) : Prop := '{' ∉ s.toList ∧ '}' ∉ s.toList

/-- A piece of an address template: text, or the placeholder of the path parameter at a
place. -/
inductive Piece where
  | text (s : String)
  | param (i : Nat)

/-- A piece written with the placeholder of each place labelled by `label`. -/
def Piece.render (label : Nat → String) : Piece → String
  | .text s => s
  | .param i => "\x7b" ++ label i ++ "\x7d"

@[simp] theorem Piece.render_text (label : Nat → String) (s : String) :
    (Piece.text s).render label = s := rfl

theorem toList_render_param (label : Nat → String) (i : Nat) :
    ((Piece.param i).render label).toList = '{' :: (label i).toList ++ ['}'] := by
  simp [Piece.render]

/-- The template of pieces whose texts and labels hold no braces. -/
structure Plain (label : Nat → String) (pieces : List Piece) : Prop where
  texts : ∀ s, Piece.text s ∈ pieces → BraceFree s
  labels : ∀ i, Piece.param i ∈ pieces → BraceFree (label i)

theorem Plain.tail {label : Nat → String} {x : Piece} {xs : List Piece}
    (h : Plain label (x :: xs)) : Plain label xs :=
  ⟨fun s hs => h.texts s (List.mem_cons_of_mem x hs),
    fun i hi => h.labels i (List.mem_cons_of_mem x hi)⟩

/-- Replacing the placeholder `{p}` in the characters of a plain template relabels exactly
the places labelled `p`. -/
theorem replaceFrom_render {label : Nat → String} {pieces : List Piece} (h : Plain label pieces)
    {p : String} (hp : BraceFree p) (q : String) :
    replaceFrom ('{' :: p.toList ++ ['}']) ('{' :: q.toList ++ ['}']) 0
        (pieces.flatMap fun x => (x.render label).toList) =
      pieces.flatMap fun x => (x.render fun i => if label i = p then q else label i).toList := by
  induction pieces with
  | nil => simp [replaceFrom]
  | cons x xs ih =>
    simp only [List.flatMap_cons]
    cases x with
    | text s =>
      rw [Piece.render_text, Piece.render_text,
        replaceFrom_copy (@List.cons_append _ '{' p.toList ['}'])
          (h.texts s List.mem_cons_self).1, ih h.tail]
    | param i =>
      rw [toList_render_param, toList_render_param]
      by_cases hi : label i = p
      · rw [hi, if_pos rfl, replaceFrom_match (by simp), ih h.tail]
      · have hlab := h.labels i List.mem_cons_self
        have hne : (label i).toList ≠ p.toList := fun he => hi (String.toList_inj.mp he)
        rw [if_neg hi, List.append_assoc, List.singleton_append,
          replaceFrom_other_field hp.2 hlab hne, ih h.tail]
        simp

/-- Replacing the placeholder `{p}` in a plain template relabels exactly the places
labelled `p`. -/
theorem replaceAll_render {label : Nat → String} {pieces : List Piece} (h : Plain label pieces)
    {p : String} (hp : BraceFree p) (q : String) :
    replaceAll (String.join (pieces.map (·.render label))) ("\x7b" ++ p ++ "\x7d")
        ("\x7b" ++ q ++ "\x7d") =
      String.join (pieces.map (·.render fun i => if label i = p then q else label i)) := by
  have hpat : ("\x7b" ++ p ++ "\x7d").toList = '{' :: p.toList ++ ['}'] := by simp
  have hrep : ("\x7b" ++ q ++ "\x7d").toList = '{' :: q.toList ++ ['}'] := by simp
  have hne : ("\x7b" ++ p ++ "\x7d").isEmpty = false := by
    simp [← String.toList_eq_nil_iff, hpat]
  rw [replaceAll, if_neg (by simp [hne]), hpat, hrep, String.toList_join]
  simp only [List.flatMap_map]
  rw [replaceFrom_render h hp q, ← List.flatMap_map, ← String.toList_join, String.ofList_toList]

/-- Labels that agree on the places of a template write it alike. -/
theorem render_congr {l₁ l₂ : Nat → String} {pieces : List Piece}
    (h : ∀ i, Piece.param i ∈ pieces → l₁ i = l₂ i) :
    pieces.map (·.render l₁) = pieces.map (·.render l₂) := by
  apply List.map_congr_left
  intro x hx
  cases x with
  | text s => rfl
  | param i => simp [Piece.render, h i hx]

theorem braceFree_toString (i : Nat) : BraceFree (toString i) :=
  ⟨fun h => absurd (Template.mem_toString_digit h) (by decide),
    fun h => absurd (Template.mem_toString_digit h) (by decide)⟩

section Numbering

variable {names : List String} {pieces : List Piece}

/-- The path parameters of an address template whose placeholders can be numbered:
distinct names without braces, none of which is the numeral of an earlier place. -/
structure Numberable (names : List String) : Prop where
  distinct : names.Nodup
  braceFree : ∀ n ∈ names, BraceFree n
  notNumeral : ∀ i j : Nat, i < j → names[j]? ≠ some (toString i)

/-- A template of texts without braces and placeholders of the parameters. -/
structure PlainTemplate (names : List String) (pieces : List Piece) : Prop where
  texts : ∀ s, Piece.text s ∈ pieces → BraceFree s
  places : ∀ i, Piece.param i ∈ pieces → i < names.length

/-- Numbering the placeholders from the parameter at place `k` on, when those before it
are numbered already. -/
theorem numberPlaceholders_from (hn : Numberable names) (ht : PlainTemplate names pieces) :
    ∀ (rest : List String) (k : Nat), names.drop k = rest →
      (rest.zipIdx k).foldl (fun u (p, i) =>
          replaceAll u ("\x7b" ++ p ++ "\x7d") ("\x7b" ++ toString i ++ "\x7d"))
        (String.join (pieces.map (·.render fun i => if i < k then toString i else names.getD i ""))) =
      String.join (pieces.map (·.render toString)) := by
  intro rest
  induction rest with
  | nil =>
    intro k hk
    have hlen : names.length ≤ k := by simpa using hk
    simp only [List.zipIdx_nil, List.foldl_nil]
    rw [render_congr fun i hi => if_pos (lt_of_lt_of_le (ht.places i hi) hlen)]
  | cons a rest ih =>
    intro k hk
    have hka : names[k]? = some a := by
      rw [← List.head?_drop, hk]
      rfl
    have hk' : names.drop (k + 1) = rest := by
      rw [← List.drop_drop, hk]
      rfl
    have hkl : k < names.length := by
      by_contra hge
      simp [List.getElem?_eq_none (Nat.le_of_not_lt hge)] at hka
    have ha : a ∈ names := List.mem_of_getElem? hka
    simp only [List.zipIdx_cons, List.foldl_cons]
    have hplain : Plain (fun i => if i < k then toString i else names.getD i "") pieces := by
      refine ⟨ht.texts, fun i hi => ?_⟩
      split
      · exact braceFree_toString i
      · have hi' : i < names.length := ht.places i hi
        rw [List.getD_eq_getElem _ _ hi']
        exact hn.braceFree _ (List.getElem_mem hi')
    rw [replaceAll_render hplain (hn.braceFree a ha) (toString k), ← ih (k + 1) hk']
    congr 2
    apply render_congr
    intro i hi
    have hil : i < names.length := ht.places i hi
    rcases Nat.lt_trichotomy i k with hlt | rfl | hgt
    · have hne : toString i ≠ a := fun he => hn.notNumeral i k hlt (he ▸ hka)
      rw [if_pos hlt, if_neg hne, if_pos (Nat.lt_succ_of_lt hlt)]
    · have hget : names.getD i "" = a := by simp [List.getD_eq_getElem?_getD, hka]
      rw [if_neg (Nat.lt_irrefl i), if_pos hget, if_pos (Nat.lt_succ_self i)]
    · have hne : names.getD i "" ≠ a := by
        rw [List.getD_eq_getElem _ _ hil]
        intro he
        have heq : names[i] = names[k] := by
          rw [he]; exact ((List.getElem_eq_iff hkl).mpr hka).symm
        have hik := hn.distinct.getElem_inj_iff.mp heq
        omega
      rw [if_neg (Nat.not_lt.mpr hgt.le), if_neg hne, if_neg (Nat.not_lt.mpr (Nat.succ_le_of_lt hgt))]

/-- Numbering the placeholders of a plain template of distinct names none of which is the
numeral of an earlier place writes each placeholder with its place. -/
theorem numberPlaceholders_render (hn : Numberable names) (ht : PlainTemplate names pieces) :
    numberPlaceholders (String.join (pieces.map (·.render fun i => names.getD i ""))) names =
      String.join (pieces.map (·.render toString)) := by
  have hstart : (fun i => if i < 0 then toString i else names.getD i "") =
      fun i => names.getD i "" := by
    funext i
    rw [if_neg (Nat.not_lt_zero i)]
  rw [numberPlaceholders, ← numberPlaceholders_from hn ht names 0 List.drop_zero, hstart]

end Numbering

open Template

/-- A piece of an address template with the placeholder of each place filled by the
plain text of the value at that place. -/
def Piece.filled (values : List Json) : Piece → String
  | .text s => s
  | .param i => (values.getD i .null).text

/-- Filling a template of texts without braces and numbered placeholders copies the
texts and writes the value of each placeholder. -/
theorem fillWith_render {args : List Json} :
    ∀ (pieces : List Piece), (∀ s, Piece.text s ∈ pieces → BraceFree s) →
      (∀ i, Piece.param i ∈ pieces → i < args.length) →
      ∀ (fuel : Nat) (num : Numbering) (out : List Char), (num = .unset ∨ num = .manual) →
        (pieces.flatMap fun x => (x.render toString).toList).length < fuel →
        ∃ num', fillWith args 1 fuel (pieces.flatMap fun x => (x.render toString).toList) num out =
          .ok (String.ofList (out.reverse ++ pieces.flatMap fun x => (x.filled args).toList), num')
  | [], _, _, fuel, num, out, _, hfuel => by
    obtain ⟨f, rfl⟩ : ∃ f, fuel = f + 1 := ⟨fuel - 1, by simp at hfuel; omega⟩
    exact ⟨num, by simp [fillWith]⟩
  | .text s :: xs, htexts, hplaces, fuel, num, out, hnum, hfuel => by
    have hs := htexts s List.mem_cons_self
    simp only [List.flatMap_cons, Piece.render_text, List.length_append] at hfuel ⊢
    obtain ⟨f, rfl⟩ : ∃ f, fuel = s.toList.length + f := ⟨fuel - s.toList.length, by omega⟩
    rw [fillWith_copy hs]
    obtain ⟨num', h⟩ := fillWith_render xs (fun t ht => htexts t (List.mem_cons_of_mem _ ht))
      (fun i hi => hplaces i (List.mem_cons_of_mem _ hi)) f num (s.toList.reverse ++ out) hnum
      (by omega)
    exact ⟨num', by rw [h]; simp [Piece.filled]⟩
  | .param i :: xs, htexts, hplaces, fuel, num, out, hnum, hfuel => by
    have hi := hplaces i List.mem_cons_self
    simp only [List.flatMap_cons, toList_render_param, List.length_append] at hfuel ⊢
    obtain ⟨f, rfl⟩ : ∃ f, fuel = f + 1 := ⟨fuel - 1, by simp at hfuel; omega⟩
    rw [List.append_assoc, List.cons_append, List.singleton_append, fillWith_position hi hnum]
    obtain ⟨num', h⟩ := fillWith_render xs (fun t ht => htexts t (List.mem_cons_of_mem _ ht))
      (fun i hi => hplaces i (List.mem_cons_of_mem _ hi)) f .manual
      (args[i].text.toList.reverse ++ out) (.inr rfl) (by simp at hfuel ⊢; omega)
    exact ⟨num', by rw [h]; simp [Piece.filled, List.getElem?_eq_getElem hi]⟩

/-- Filling a template of texts without braces and numbered placeholders. -/
theorem fill_render {args : List Json} {pieces : List Piece}
    (htexts : ∀ s, Piece.text s ∈ pieces → BraceFree s)
    (hplaces : ∀ i, Piece.param i ∈ pieces → i < args.length) :
    fill (String.join (pieces.map (·.render toString))) args =
      .ok (String.join (pieces.map (·.filled args))) := by
  obtain ⟨num, h⟩ := fillWith_render pieces htexts hplaces
    ((String.join (pieces.map (·.render toString))).length + 1) .unset [] (.inl rfl)
    (by simp [← String.length_toList, String.toList_join, List.flatMap_map])
  rw [fill, String.toList_join, List.flatMap_map]
  rw [h]
  simp only [Except.map, List.reverse_nil, List.nil_append, Except.ok.injEq]
  rw [← List.flatMap_map, ← String.toList_join, String.ofList_toList]


/-- The address template a configuration line writes: the operation's path joined to the
API path, with the placeholders of its path parameters numbered in the order they are
listed. -/
theorem configLine_uri {apiPath path : String} {details : Json} {renamed : List (String × Json)}
    {line : String} (h : configLine apiPath path details renamed = .ok (some line)) :
    ∃ joined listed params names opId model, joinApiPath apiPath (.str path) = .ok joined ∧
      details.getOr? "parameters" (.arr []) = .ok listed ∧ listed.iterItems? = .ok params ∧
      parametersIn params "path" = .ok names ∧
      line = "    '" ++ opId ++ "': \x7b'uri': '" ++ numberPlaceholders joined (names.map (·.text)) ++
        "', 'model': '" ++ model ++ "'\x7d,\n" := by
  simp only [configLine, bind_eq_ok] at h
  obtain ⟨a, -, h⟩ := h
  split at h
  · simp [pure, Except.pure] at h
  · simp only [bind_eq_ok, pure_eq_ok, Option.some.injEq] at h
    obtain ⟨joined, hj, listed, hl, params, hp, names, hn, -, -, -, -, model, -, rfl⟩ := h
    exact ⟨joined, listed, params, names, a.text, model, hj, hl, hp, hn, rfl⟩

section Filling

variable {names : List String} {pieces : List Piece}

/-- An address template whose path parameters have distinct names without braces, none of
them the numeral of an earlier place, and whose other text has no braces: numbering its
placeholders and filling them with values in the parameters' order puts each value in
its parameter's place. -/
theorem fill_numberPlaceholders (hn : Numberable names) (ht : PlainTemplate names pieces)
    (values : List Json) (hlen : values.length = names.length) :
    Template.fill (numberPlaceholders (String.join (pieces.map (·.render fun i => names.getD i "")))
        names) values =
      .ok (String.join (pieces.map (·.filled values))) := by
  rw [numberPlaceholders_render hn ht]
  exact fill_render ht.texts fun i hi => hlen ▸ ht.places i hi

end Filling

/-- Three parameters, two of them numerals at their own places, placed out of order in the
path: each value lands in the placeholder of its parameter. -/
theorem fill_numberPlaceholders_arrivals :
    Template.fill (numberPlaceholders (String.join
        ([Piece.text "/Line/", .param 1, .text "/Arrivals/", .param 2, .text "/", .param 0].map
          (·.render fun i => ["0", "line", "2"].getD i ""))) ["0", "line", "2"])
        [.str "a", .str "b", .str "c"] = .ok "/Line/b/Arrivals/c/a" :=
  (fill_numberPlaceholders
    ⟨by decide, by simp [BraceFree], fun i j hij => by
      rcases j with _ | _ | _ | j
      · omega
      · obtain rfl : i = 0 := by omega
        decide
      · interval_cases i <;> decide
      · simp⟩
    ⟨fun s hs => by simp at hs; rcases hs with rfl | rfl | rfl <;> simp [BraceFree],
      fun i hi => by simp at hi; simp only [List.length_cons, List.length_nil]; omega⟩
    _ rfl).trans (congrArg Except.ok (by decide))

/-- A parameter named `0` after a parameter `a`: the placeholder of `a` is numbered `0`, then
renumbered `1` with the placeholder of `0`, so both places get the second value. -/
theorem fill_numberPlaceholders_numeral :
    Template.fill (numberPlaceholders "/Demo/x/\x7ba\x7d/\x7b0\x7d" ["a", "0"]) [.str "va", .str "v0"] =
      .ok "/Demo/x/v0/v0" := by
  have hnum : numberPlaceholders "/Demo/x/\x7ba\x7d/\x7b0\x7d" ["a", "0"] =
      String.join ([Piece.text "/Demo/x/", .param 1, .text "/", .param 1].map (·.render toString)) := by
    decide +kernel
  rw [hnum, fill_render (fun s hs => by simp at hs; rcases hs with rfl | rfl <;> simp [BraceFree])
    (fun i hi => by simp at hi; simp [hi])]
  rfl

end TransitKit.Codegen
