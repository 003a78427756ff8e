import Mathlib
import TransitKit.Proofs.EntityRenaming

/-!
# Reading back written JSON

The reader gives back the value whose compact text it reads (`Json.parse?_compact`), for
values made of texts, arrays and objects whose texts are printable ASCII other than `"` and
`\` and whose member names are distinct (`Json.Plain`). Every character of such a text is
written as itself, so the reading follows the writing piece by piece: a text up to its
closing quote (`readTextBody_plain`), the items of an array and the members of an object up
to their closing bracket. The reader's fuel falls by one at each value, array, object, item
and member it enters; twice the length of the text is always enough.
-/

namespace TransitKit

namespace Json

/-- A character that JSON writes as itself: printable ASCII other than `"` and `\`. -/
def plainChar (c : Char) : Bool :=
  decide (0x20 ≤ c.toNat) && decide (c.toNat ≤ 0x7E) && c != '"' && c != '\\'

/-- A text that JSON writes as it is. -/
def plainText (s : String) : Bool := s.toList.all plainChar

/-- Values made of plain texts, arrays, and objects with plain and distinct member names. -/
inductive Plain : Json → Prop
  | str {s : String} : plainText s = true → Plain (.str s)
  | arr {xs : List Json} : (∀ x ∈ xs, Plain x) → Plain (.arr xs)
  | obj {fs : List (String × Json)} : (∀ p ∈ fs, plainText p.1 = true) → (∀ p ∈ fs, Plain p.2) →
      (fs.map (·.1)).Nodup → Plain (.obj fs)

theorem plain_str_iff {s : String} : Plain (.str s) ↔ plainText s = true :=
  ⟨fun | .str h => h, .str⟩

theorem plain_arr_iff {xs : List Json} : Plain (.arr xs) ↔ ∀ x ∈ xs, Plain x :=
  ⟨fun | .arr h => h, .arr⟩

theorem plain_obj_iff {fs : List (String × Json)} :
    Plain (.obj fs) ↔ (∀ p ∈ fs, plainText p.1 = true) ∧ (∀ p ∈ fs, Plain p.2) ∧ (fs.map (·.1)).Nodup :=
  ⟨fun | .obj h₁ h₂ h₃ => ⟨h₁, h₂, h₃⟩, fun ⟨h₁, h₂, h₃⟩ => .obj h₁ h₂ h₃⟩

theorem plainChar_facts {c : Char} (h : plainChar c = true) :
    0x20 ≤ c.toNat ∧ c.toNat ≤ 0x7E ∧ c ≠ '"' ∧ c ≠ '\\' := by
  simp only [plainChar, Bool.and_eq_true, decide_eq_true_eq, bne_iff_ne, ne_eq] at h
  exact ⟨h.1.1.1, h.1.1.2, h.1.2, h.2⟩

/-- A plain character is written as itself. -/
theorem jsonEscapeChar_plain {c : Char} (h : plainChar c = true) :
    jsonEscapeChar true c = String.ofList [c] := by
  obtain ⟨hlo, hhi, hq, hb⟩ := plainChar_facts h
  have hctl : ∀ d : Char, d.toNat < 0x20 → c ≠ d := fun d hd e => by
    subst e
    omega
  simp [jsonEscapeChar, hq, hb, hctl '\n' (by decide), hctl '\r' (by decide),
    hctl '\t' (by decide), hctl '\x08' (by decide), hctl '\x0c' (by decide),
    Nat.not_lt.mpr hlo, Nat.not_lt.mpr hhi]

/-- A plain text is written between quotes as it is. -/
theorem jsonQuote_plain {s : String} (h : plainText s = true) :
    (jsonQuote true s).toList = '"' :: s.toList ++ ['"'] := by
  have hs : ∀ c ∈ s.toList, plainChar c = true := by simpa [plainText] using h
  have hjoin : (String.join (s.toList.map (jsonEscapeChar true))).toList = s.toList := by
    rw [List.map_congr_left fun c hc => jsonEscapeChar_plain (hs c hc)]
    simp [String.toList_join, List.flatMap_map]
  simp [jsonQuote, hjoin]

/-! ### The compact text piece by piece -/

section Compact

variable (d : Nat)

theorem toList_render_str (s : String) :
    (render .compact d (.str s)).toList = (jsonQuote true s).toList := rfl

theorem toList_render_arr_nil : (render .compact d (.arr [])).toList = ['[', ']'] := by
  simp [render]

theorem toList_render_arr {xs : List Json} (h : xs ≠ []) :
    (render .compact d (.arr xs)).toList =
      '[' :: (renderItems .compact (d + 1) xs).toList ++ [']'] := by
  cases xs with
  | nil => contradiction
  | cons x xs => simp [render, lineBreak, JsonLayout.compact]

theorem toList_render_obj_nil : (render .compact d (.obj [])).toList = ['{', '}'] := by
  simp [render]

theorem toList_render_obj {fs : List (String × Json)} (h : fs ≠ []) :
    (render .compact d (.obj fs)).toList =
      '{' :: (renderMembers .compact (d + 1) fs).toList ++ ['}'] := by
  cases fs with
  | nil => contradiction
  | cons p fs => simp [render, lineBreak, JsonLayout.compact]

theorem toList_renderItems_single (x : Json) :
    (renderItems .compact d [x]).toList = (render .compact d x).toList := by
  simp [renderItems, lineBreak, JsonLayout.compact]

theorem toList_renderItems_cons (x : Json) {ys : List Json} (h : ys ≠ []) :
    (renderItems .compact d (x :: ys)).toList =
      (render .compact d x).toList ++ ',' :: ' ' :: (renderItems .compact d ys).toList := by
  cases ys with
  | nil => contradiction
  | cons y ys => simp [renderItems, lineBreak, JsonLayout.compact]

theorem toList_renderMembers_single (k : String) (v : Json) :
    (renderMembers .compact d [(k, v)]).toList =
      (jsonQuote true k).toList ++ ':' :: ' ' :: (render .compact d v).toList := by
  simp [renderMembers, lineBreak, JsonLayout.compact]

theorem toList_renderMembers_cons (k : String) (v : Json) {fs : List (String × Json)}
    (h : fs ≠ []) :
    (renderMembers .compact d ((k, v) :: fs)).toList =
      (jsonQuote true k).toList ++ ':' :: ' ' :: (render .compact d v).toList ++
        ',' :: ' ' :: (renderMembers .compact d fs).toList := by
  cases fs with
  | nil => contradiction
  | cons q fs => simp [renderMembers, lineBreak, JsonLayout.compact]

end Compact

end Json

namespace JsonReader

open Json

/-- The body of a plain text is read up to its closing quote. -/
theorem readTextBody_plain : ∀ {cs : List Char}, (∀ c ∈ cs, plainChar c = true) →
    ∀ (acc rest : List Char),
      readTextBody (cs ++ '"' :: rest) acc = some (String.ofList (acc.reverse ++ cs), rest)
  | [], _, acc, rest => by simp [readTextBody]
  | c :: cs, h, acc, rest => by
    obtain ⟨hlo, -, hq, hb⟩ := plainChar_facts (h c List.mem_cons_self)
    have ih := readTextBody_plain (fun d hd => h d (List.mem_cons_of_mem c hd)) (c :: acc) rest
    rw [List.cons_append, readTextBody.eq_14 _ _ _ hq (fun _ _ e _ => hb e) (fun e _ => hb e),
      if_neg (by omega), ih]
    simp

/-- Blanks are skipped before a value, an item and a member. -/
theorem skipBlanks_blank (cs : List Char) : skipBlanks (' ' :: cs) = skipBlanks cs := by
  simp [skipBlanks, isJsonBlank]

theorem readValue_blank (n : Nat) (cs : List Char) : readValue n (' ' :: cs) = readValue n cs := by
  cases n with
  | zero => rfl
  | succ n => rw [readValue.eq_2, readValue.eq_2, skipBlanks_blank]

theorem readItems_blank (n : Nat) (cs : List Char) (acc : List Json) :
    readItems n (' ' :: cs) acc = readItems n cs acc := by
  cases n with
  | zero => rfl
  | succ n => rw [readItems.eq_2, readItems.eq_2, readValue_blank]

theorem readMembers_blank (n : Nat) (cs : List Char) (acc : List (String × Json)) :
    readMembers n (' ' :: cs) acc = readMembers n cs acc := by
  cases n with
  | zero => rfl
  | succ n => rw [readMembers.eq_2, readMembers.eq_2, skipBlanks_blank]

/-- A text that starts with no blank is not shortened. -/
theorem skipBlanks_of_head {c : Char} (hc : isJsonBlank c = false) (cs : List Char) :
    skipBlanks (c :: cs) = c :: cs := by
  simp [skipBlanks, hc]

/-- The compact text of a plain value opens with a quote or a bracket. -/
theorem head_render {v : Json} (hv : Plain v) (d : Nat) :
    ∃ c cs, (render .compact d v).toList = c :: cs ∧ (c = '"' ∨ c = '[' ∨ c = '{') := by
  cases hv with
  | str hs => exact ⟨_, _, (toList_render_str d _).trans (jsonQuote_plain hs), .inl rfl⟩
  | @arr xs _ =>
    by_cases hne : xs = []
    · subst hne
      exact ⟨_, _, toList_render_arr_nil d, .inr (.inl rfl)⟩
    · exact ⟨_, _, toList_render_arr d hne, .inr (.inl rfl)⟩
  | @obj fs _ _ _ =>
    by_cases hne : fs = []
    · subst hne
      exact ⟨_, _, toList_render_obj_nil d, .inr (.inr rfl)⟩
    · exact ⟨_, _, toList_render_obj d hne, .inr (.inr rfl)⟩

theorem head_renderItems {xs : List Json} (hne : xs ≠ []) (hx : ∀ x ∈ xs, Plain x) (d : Nat) :
    ∃ c cs, (renderItems .compact d xs).toList = c :: cs ∧ (c = '"' ∨ c = '[' ∨ c = '{') := by
  obtain ⟨x, ys, rfl⟩ := List.exists_cons_of_ne_nil hne
  obtain ⟨c, cs, hcs, hc⟩ := head_render (hx x List.mem_cons_self) d
  by_cases hys : ys = []
  · subst hys
    exact ⟨c, cs, (toList_renderItems_single d x).trans hcs, hc⟩
  · exact ⟨c, _, by rw [toList_renderItems_cons d x hys, hcs, List.cons_append], hc⟩

theorem head_renderMembers {fs : List (String × Json)} (hne : fs ≠ [])
    (hkeys : ∀ p ∈ fs, plainText p.1 = true) (d : Nat) :
    ∃ cs, (renderMembers .compact d fs).toList = '"' :: cs := by
  obtain ⟨⟨k, v⟩, gs, rfl⟩ := List.exists_cons_of_ne_nil hne
  have hk : plainText k = true := hkeys (k, v) List.mem_cons_self
  by_cases hgs : gs = []
  · subst hgs
    rw [toList_renderMembers_single, jsonQuote_plain hk]
    simp only [List.cons_append]
    exact ⟨_, rfl⟩
  · rw [toList_renderMembers_cons d k v hgs, jsonQuote_plain hk]
    simp only [List.cons_append]
    exact ⟨_, rfl⟩

/-- What the reader does at a fuel: it reads back every plain value whose compact text is at
most half the fuel long. -/
def ReadsBack (m : Nat) : Prop :=
  ∀ {v : Json}, Plain v → ∀ (d : Nat) (rest : List Char),
    2 * (render .compact d v).toList.length ≤ m →
      readValue m ((render .compact d v).toList ++ rest) = some (v, rest)

/-- The items of an array are read up to its closing bracket, each with one unit of fuel
less than the one before. -/
theorem readItems_render {xs : List Json} (hne : xs ≠ []) (hx : ∀ x ∈ xs, Plain x) (d : Nat) :
    ∀ {k : Nat}, (∀ m < k, ReadsBack m) → ∀ (acc : List Json) (rest : List Char),
      2 * (renderItems .compact d xs).toList.length + 1 ≤ k →
      readItems k ((renderItems .compact d xs).toList ++ ']' :: rest) acc =
        some (acc.reverse ++ xs, rest) := by
  induction xs with
  | nil => exact absurd rfl hne
  | cons x ys ihys =>
    intro k ih acc rest hk
    obtain ⟨k, rfl⟩ : ∃ j, k = j + 1 := ⟨k - 1, by omega⟩
    have hxp := hx x List.mem_cons_self
    by_cases hys : ys = []
    · subst hys
      rw [toList_renderItems_single] at hk ⊢
      rw [readItems.eq_2, ih k (Nat.lt_succ_self k) hxp d (']' :: rest) (by omega)]
      simp [skipBlanks_of_head (c := ']') rfl]
    · rw [toList_renderItems_cons d x hys] at hk ⊢
      simp only [List.length_append, List.length_cons] at hk
      rw [List.append_assoc, List.cons_append, List.cons_append, readItems.eq_2,
        ih k (Nat.lt_succ_self k) hxp d _ (by omega)]
      simp only [Option.bind_eq_bind, Option.bind_some, skipBlanks_of_head (c := ',') rfl,
        readItems_blank]
      rw [ihys hys (fun y hy => hx y (List.mem_cons_of_mem x hy)) (fun m hm => ih m (by omega))
        (x :: acc) rest (by omega)]
      simp

/-- The members of an object are read up to its closing brace; each name is new, so each
member goes to the end. -/
theorem readMembers_render {fs : List (String × Json)} (hne : fs ≠ [])
    (hkeys : ∀ p ∈ fs, plainText p.1 = true) (hvals : ∀ p ∈ fs, Plain p.2) (d : Nat) :
    ∀ {k : Nat}, (∀ m < k, ReadsBack m) → ∀ (acc : List (String × Json)) (rest : List Char),
      ((acc ++ fs).map (·.1)).Nodup →
      2 * (renderMembers .compact d fs).toList.length + 1 ≤ k →
      readMembers k ((renderMembers .compact d fs).toList ++ '}' :: rest) acc =
        some (acc ++ fs, rest) := by
  induction fs with
  | nil => exact absurd rfl hne
  | cons p gs ihgs =>
    intro k ih acc rest hnodup hk
    obtain ⟨key, v⟩ := p
    obtain ⟨k, rfl⟩ : ∃ j, k = j + 1 := ⟨k - 1, by omega⟩
    have hkey : plainText key = true := hkeys (key, v) List.mem_cons_self
    have hvp : Plain v := hvals (key, v) List.mem_cons_self
    have hfresh : key ∉ acc.map (·.1) := by
      simp only [List.map_append, List.map_cons, List.nodup_append, List.nodup_cons] at hnodup
      exact fun h => hnodup.2.2 _ h _ List.mem_cons_self rfl
    have hname : ∀ tail : List Char, readTextBody (key.toList ++ '"' :: ':' :: ' ' :: tail) [] =
        some (key, ':' :: ' ' :: tail) := fun tail => by
      rw [readTextBody_plain (by simpa [plainText] using hkey)]
      simp
    by_cases hgs : gs = []
    · subst hgs
      rw [toList_renderMembers_single, jsonQuote_plain hkey] at hk ⊢
      simp only [List.length_append, List.length_cons, List.length_nil] at hk
      simp only [List.cons_append, List.nil_append, List.append_assoc, readMembers.eq_2,
        skipBlanks_of_head (c := '"') rfl, hname, Option.bind_eq_bind, Option.bind_some,
        skipBlanks_of_head (c := ':') rfl, readValue_blank,
        ih k (Nat.lt_succ_self k) hvp d ('}' :: rest) (by omega),
        setField_of_not_mem hfresh, skipBlanks_of_head (c := '}') rfl]
    · rw [toList_renderMembers_cons d key v hgs, jsonQuote_plain hkey] at hk ⊢
      simp only [List.length_append, List.length_cons, List.length_nil] at hk
      simp only [List.cons_append, List.nil_append, List.append_assoc, readMembers.eq_2,
        skipBlanks_of_head (c := '"') rfl, hname, Option.bind_eq_bind, Option.bind_some,
        skipBlanks_of_head (c := ':') rfl, readValue_blank,
        ih k (Nat.lt_succ_self k) hvp d _ (by omega),
        setField_of_not_mem hfresh, skipBlanks_of_head (c := ',') rfl, readMembers_blank]
      rw [ihgs hgs (fun q hq => hkeys q (List.mem_cons_of_mem _ hq))
        (fun q hq => hvals q (List.mem_cons_of_mem _ hq)) (fun m hm => ih m (by omega))
        (acc ++ [(key, v)]) rest (by simpa using hnodup) (by omega)]
      simp

/-- Twice the length of its compact text is enough fuel to read a plain value back. -/
theorem readsBack (n : Nat) : ReadsBack n := by
  induction n using Nat.strong_induction_on with
  | _ n ih =>
    intro v hv d rest hn
    cases hv with
    | @str s hs =>
      rw [toList_render_str, jsonQuote_plain hs] at hn ⊢
      simp only [List.length_cons, List.length_append] at hn
      obtain ⟨n, rfl⟩ : ∃ m, n = m + 1 := ⟨n - 1, by omega⟩
      simp only [List.cons_append, List.append_assoc, readValue.eq_2,
        skipBlanks_of_head (c := '"') rfl, readTextBody_plain (by simpa [plainText] using hs)]
      simp
    | @arr xs hxs =>
      by_cases hne : xs = []
      · subst hne
        rw [toList_render_arr_nil] at hn ⊢
        obtain ⟨n, rfl⟩ : ∃ m, n = m + 2 := ⟨n - 2, by simp at hn; omega⟩
        simp [readValue.eq_2, skipBlanks_of_head (c := '[') rfl,
          skipBlanks_of_head (c := ']') rfl, readArray.eq_2]
      · rw [toList_render_arr d hne] at hn ⊢
        simp only [List.length_cons, List.length_append] at hn
        obtain ⟨n, rfl⟩ : ∃ m, n = m + 2 := ⟨n - 2, by omega⟩
        obtain ⟨c, cs, hcs, hc⟩ := head_renderItems hne hxs (d + 1)
        have hopen : ∀ r, c :: (cs ++ ']' :: rest) = ']' :: r → False := fun r h => by
          rcases hc with rfl | rfl | rfl <;> cases h
        have hread := readItems_render hne hxs (d + 1) (k := n) (fun m hm => ih m (by omega)) []
          rest (by omega)
        rw [hcs, List.cons_append] at hread
        simp only [List.cons_append, List.append_assoc, List.nil_append,
          readValue.eq_2, skipBlanks_of_head (c := '[') rfl, hcs]
        rw [skipBlanks_of_head (by rcases hc with rfl | rfl | rfl <;> rfl),
          readArray.eq_3 _ _ hopen, hread]
        simp
    | @obj fs hkeys hvals hnodup =>
      by_cases hne : fs = []
      · subst hne
        rw [toList_render_obj_nil] at hn ⊢
        obtain ⟨n, rfl⟩ : ∃ m, n = m + 2 := ⟨n - 2, by simp at hn; omega⟩
        simp [readValue.eq_2, skipBlanks_of_head (c := '{') rfl,
          skipBlanks_of_head (c := '}') rfl, readObject.eq_2]
      · rw [toList_render_obj d hne] at hn ⊢
        simp only [List.length_cons, List.length_append] at hn
        obtain ⟨n, rfl⟩ : ∃ m, n = m + 2 := ⟨n - 2, by omega⟩
        obtain ⟨cs, hcs⟩ := head_renderMembers hne hkeys (d + 1)
        have hread := readMembers_render hne hkeys hvals (d + 1) (k := n)
          (fun m hm => ih m (by omega)) [] rest (by simpa using hnodup) (by omega)
        rw [hcs, List.cons_append] at hread
        simp only [List.cons_append, List.append_assoc, List.nil_append,
          readValue.eq_2, skipBlanks_of_head (c := '{') rfl, hcs]
        rw [skipBlanks_of_head (c := '"') rfl, readObject.eq_3 _ _ (fun r h => by cases h), hread]
        simp

end JsonReader

namespace Json

/-- **Reading back the compact text.** The compact text of a plain value reads back as the
value. -/
theorem parse?_compact {v : Json} (hv : Plain v) : parse? (compact v) = some v := by
  obtain ⟨c, cs, hcs, hc⟩ := JsonReader.head_render hv 0
  have hbom : ((c :: cs).head? == some (Char.ofNat 0xFEFF)) = false := by
    rcases hc with rfl | rfl | rfl <;> rfl
  have hread := JsonReader.readsBack (4 * ((render .compact 0 v).toList.length + 1)) hv 0 []
    (by omega)
  rw [List.append_nil, hcs] at hread
  simp only [parse?, compact, write, hcs, hbom, hread]
  simp [JsonReader.skipBlanks]

end Json

end TransitKit
