import Mathlib
import TransitKit.Naming.Names
import TransitKit.Proofs.EnumModules

/-!
# Class names and method names

Schema names become class names and operation identifiers client method names. A class name is
read in steps: characters outside names become underscores, words are joined, the part after
the last underscore is kept, a lower-case result is capitalised and a result that starts with a
digit or is reserved gets a prefix. Its core is letters and digits, so a class name is settled,
and it is a valid identifier exactly when the last character that is not a space is an ASCII
letter or digit. A client method name may be `True`, `False` or `None`, since its reserved-word
check is made on the lower-case form.
-/

namespace TransitKit.Naming

open Text

/-! ## Characters -/

/-- The upper-case form of a character is a letter or digit exactly when it is. -/
theorem isAlphanum_toUpper (c : Char) : c.toUpper.isAlphanum = c.isAlphanum := by
  by_cases h : c.isLower
  · rw [Char.isAlphanum, Char.isAlphanum, Char.isAlpha_toUpper_eq_isAlpha]
    simp [Char.isAlpha, h]
  · rw [Char.toUpper_eq_of_not_isLower h]

theorem isAlphanum_toLower (c : Char) : c.toLower.isAlphanum = c.isAlphanum := by
  by_cases h : c.isUpper
  · rw [Char.isAlphanum, Char.isAlphanum, Char.isAlpha_toLower_eq_isAlpha]
    simp [Char.isAlpha, h]
  · rw [Char.toLower_eq_of_not_isUpper h]

/-- A property of every ASCII character, checked value by value. -/
theorem ascii_forall {P : Char → Prop} (h : ∀ n, n < 128 → P (Char.ofNat n)) (c : Char)
    (hc : c.toNat < 128) : P c := by
  simpa [Char.ofNat_toNat] using h c.toNat hc

theorem toNat_lt_of_isAlphanum {c : Char} (h : c.isAlphanum = true) : c.toNat < 128 := by
  simp only [Char.isAlphanum, Char.isAlpha, Char.isUpper, Char.isLower, Char.isDigit,
    Bool.or_eq_true, Bool.and_eq_true, decide_eq_true_eq, UInt32.le_iff_toNat_le, ge_iff_le] at h
  change ((65 ≤ c.toNat ∧ c.toNat ≤ 90) ∨ (97 ≤ c.toNat ∧ c.toNat ≤ 122)) ∨
    (48 ≤ c.toNat ∧ c.toNat ≤ 57) at h
  omega

/-- Letters and digits are not blank. -/
theorem isBlank_of_isAlphanum {c : Char} (h : c.isAlphanum = true) : isBlank c = false :=
  ascii_forall (P := fun c => c.isAlphanum = true → isBlank c = false) (by decide +kernel) c
    (toNat_lt_of_isAlphanum h) h

/-! ## Words -/

/-- The words' characters, run together, are the non-blank characters that follow. -/
theorem flatten_wordsAux (cs cur : List Char) (acc : List (List Char)) :
    (wordsAux cs cur acc).flatten =
      acc.reverse.flatten ++ cur.reverse ++ cs.filter (!isBlank ·) := by
  induction cs generalizing cur acc with
  | nil => by_cases h : cur = [] <;> simp [wordsAux, h]
  | cons c cs ih =>
    by_cases hc : isBlank c
    · by_cases h : cur = [] <;> simp [wordsAux, hc, ih, h]
    · simp [wordsAux, hc, ih]

theorem ne_nil_of_mem_wordsAux (cs cur : List Char) (acc : List (List Char))
    (hacc : ∀ w ∈ acc, w ≠ []) : ∀ w ∈ wordsAux cs cur acc, w ≠ [] := by
  induction cs generalizing cur acc with
  | nil =>
    by_cases h : cur = []
    · simpa [wordsAux, h] using hacc
    · intro w hw
      simp only [wordsAux, List.isEmpty_iff, h, if_false, List.reverse_cons, List.mem_append,
        List.mem_reverse, List.mem_singleton] at hw
      rcases hw with hw | rfl
      · exact hacc w hw
      · simpa using h
  | cons c cs ih =>
    simp only [wordsAux]
    split
    · apply ih
      split
      · exact hacc
      · rename_i h
        intro w hw
        rcases List.mem_cons.1 hw with rfl | hw
        · simpa using h
        · exact hacc w hw
    · exact ih _ _ hacc

/-- A run without blanks is one word, after the words already found. -/
theorem wordsAux_of_not_blank (cs cur : List Char) (acc : List (List Char))
    (h : ∀ c ∈ cs, isBlank c = false) :
    wordsAux cs cur acc =
      (if cur.reverse ++ cs = [] then acc else (cur.reverse ++ cs) :: acc).reverse := by
  induction cs generalizing cur with
  | nil => simp [wordsAux]
  | cons c cs ih =>
    have hc : isBlank c = false := h c List.mem_cons_self
    rw [wordsAux, if_neg (by simp [hc]), ih _ (fun d hd => h d (List.mem_cons_of_mem c hd))]
    simp

/-- The characters of a text's words, run together, are its non-blank characters. -/
theorem flatten_words (s : String) :
    ((words s).map String.toList).flatten = s.toList.filter (!isBlank ·) := by
  simp [words, List.map_map, Function.comp_def, flatten_wordsAux]

theorem ne_of_mem_words {s w : String} (hw : w ∈ words s) : w ≠ "" := by
  simp only [words, List.mem_map] at hw
  obtain ⟨cs, hcs, rfl⟩ := hw
  simpa using ne_nil_of_mem_wordsAux s.toList [] [] (by simp) cs hcs

theorem mem_of_mem_words {s w : String} {c : Char} (hw : w ∈ words s) (hc : c ∈ w.toList) :
    c ∈ s.toList ∧ isBlank c = false := by
  have hmem : c ∈ ((words s).map String.toList).flatten :=
    List.mem_flatten.2 ⟨w.toList, List.mem_map_of_mem hw, hc⟩
  rw [flatten_words] at hmem
  simpa using hmem

/-- A text has no words exactly when all its characters are blank. -/
theorem words_eq_nil_iff (s : String) : words s = [] ↔ ∀ c ∈ s.toList, isBlank c = true := by
  constructor
  · intro h c hc
    have hflat := flatten_words s
    rw [h] at hflat
    by_contra hb
    have : c ∈ s.toList.filter (!isBlank ·) := by simpa [hc] using hb
    simp [← hflat] at this
  · intro h
    apply List.eq_nil_iff_forall_not_mem.2
    intro w hw
    obtain ⟨c, hc⟩ := List.exists_mem_of_ne_nil w.toList (by simpa using ne_of_mem_words hw)
    have := (mem_of_mem_words hw hc)
    simp [h c this.1] at this

/-- A non-empty text without blanks is one word. -/
theorem words_of_not_blank {s : String} (hs : s ≠ "") (h : ∀ c ∈ s.toList, isBlank c = false) :
    words s = [s] := by
  rw [words, wordsAux_of_not_blank _ _ _ h]
  simp [hs]

/-! ## The steps of a class name -/

/-- The words of a text joined: the text itself when it has none, its word when it has
one, and the words capitalised and run together when it has several. -/
def joinWords (s : String) : String :=
  let ws := words s
  match ws with
  | [] => s
  | [w] => w
  | _ => String.join (ws.map asciiCapitalize)

/-- The part of a text after its last underscore, when it has one. -/
def dropHead (s : String) : String := if hasChar s '_' then afterLastUnderscore s else s

/-- A text in lower case, capitalised. -/
def capLower (s : String) : String :=
  if !s.isEmpty && asciiIsLower s then asciiCapitalize s else s

/-- A text that starts with a digit or is reserved, behind a prefix and an underscore. -/
def guardName (pfx s : String) : String :=
  if !s.isEmpty && (startsWithDigit s || isReserved s) then pfx ++ "_" ++ s else s

theorem className_eq (name pfx : String) :
    className name pfx =
      guardName pfx (capLower (dropHead (joinWords (replaceOutside isNameChar name)))) := by
  unfold className guardName capLower dropHead joinWords
  rcases h : words (replaceOutside isNameChar name) with _ | ⟨w, _ | ⟨w', rest⟩⟩ <;>
    simp only [h]

/-- Every character is an ASCII letter or digit. -/
def AlnumText (s : String) : Prop := ∀ c ∈ s.toList, c.isAlphanum = true

/-- Every character is a space. -/
def SpaceText (s : String) : Prop := ∀ c ∈ s.toList, c = ' '

@[simp] theorem toList_replaceOutside (keep : Char → Bool) (s : String) :
    (replaceOutside keep s).toList = s.toList.map fun c => if keep c then c else '_' := by
  simp [replaceOutside]

theorem replaceOutside_of_forall {keep : Char → Bool} {s : String}
    (h : ∀ c ∈ s.toList, keep c = true) : replaceOutside keep s = s := by
  apply String.toList_injective
  rw [toList_replaceOutside]
  conv => rhs; rw [← List.map_id s.toList]
  exact List.map_congr_left fun c hc => by simp [h c hc]

/-- The characters of a capitalised word: the first in upper case, the rest in lower case. -/
def capChars : List Char → List Char
  | [] => []
  | c :: cs => c.toUpper :: cs.map Char.toLower

@[simp] theorem toList_asciiCapitalize (w : String) :
    (asciiCapitalize w).toList = capChars w.toList := by
  unfold asciiCapitalize
  split <;> simp_all [capChars]

theorem capChars_capChars (cs : List Char) : capChars (capChars cs) = capChars cs := by
  cases cs <;> simp [capChars, Function.comp_def]

theorem asciiCapitalize_asciiCapitalize (w : String) :
    asciiCapitalize (asciiCapitalize w) = asciiCapitalize w := by
  apply String.toList_injective
  simp [capChars_capChars]

theorem mem_capChars {cs : List Char} {x : Char} (hx : x ∈ capChars cs) :
    ∃ c ∈ cs, x = c.toUpper ∨ x = c.toLower := by
  cases cs with
  | nil => simp [capChars] at hx
  | cons c cs =>
    rcases List.mem_cons.1 hx with rfl | hx
    · exact ⟨c, List.mem_cons_self, .inl rfl⟩
    · obtain ⟨d, hd, rfl⟩ := List.mem_map.1 hx
      exact ⟨d, List.mem_cons_of_mem c hd, .inr rfl⟩

theorem capChars_eq_nil {cs : List Char} : capChars cs = [] ↔ cs = [] := by
  cases cs <;> simp [capChars]

theorem capLower_capLower (s : String) : capLower (capLower s) = capLower s := by
  unfold capLower
  by_cases h : (!s.isEmpty && asciiIsLower s) = true
  · rw [if_pos h]
    split <;> simp [asciiCapitalize_asciiCapitalize]
  · rw [if_neg h, if_neg h]

/-! ## What the steps keep -/

/-- An ASCII letter, digit or underscore: what a joined name is made of. -/
def isCoreChar (c : Char) : Bool := c.isAlphanum || c == '_'

theorem isCoreChar_of_case {c d : Char} (hd : isCoreChar d = true)
    (hc : c = d ∨ c = d.toUpper ∨ c = d.toLower) : isCoreChar c = true := by
  unfold isCoreChar at hd ⊢
  rcases Bool.or_eq_true _ _ ▸ hd with hd | hd
  · rcases hc with rfl | rfl | rfl
    · simp [hd]
    · simp [isAlphanum_toUpper, hd]
    · simp [isAlphanum_toLower, hd]
  · rw [beq_iff_eq] at hd
    subst hd
    rcases hc with rfl | rfl | rfl <;> decide

/-- A name character that is not blank is a core character: the space is the only blank
one. -/
theorem isCoreChar_of_isNameChar {c : Char} (hn : isNameChar c = true) (hb : isBlank c = false) :
    isCoreChar c = true := by
  unfold isNameChar at hn
  unfold isCoreChar
  rcases Bool.or_eq_true _ _ ▸ hn with hn | hn
  · exact hn
  · rw [beq_iff_eq] at hn
    subst hn
    exact absurd hb (by decide)

theorem eq_space_of_isNameChar {c : Char} (hn : isNameChar c = true) (hb : isBlank c = true) :
    c = ' ' := by
  unfold isNameChar at hn
  simp only [Bool.or_eq_true, beq_iff_eq] at hn
  rcases hn with (hn | rfl) | rfl
  · simp [isBlank_of_isAlphanum hn] at hb
  · exact absurd hb (by decide)
  · rfl

theorem isNameChar_of_mem_replaceOutside {s : String} {c : Char}
    (hc : c ∈ (replaceOutside isNameChar s).toList) : isNameChar c = true := by
  simp only [toList_replaceOutside, List.mem_map] at hc
  obtain ⟨d, -, rfl⟩ := hc
  split
  · assumption
  · decide

theorem joinWords_of_words_eq_nil {t : String} (h : words t = []) : joinWords t = t := by
  simp [joinWords, h]

/-- A text without blanks joins to itself. -/
theorem joinWords_of_not_blank {t : String} (h : ∀ c ∈ t.toList, isBlank c = false) :
    joinWords t = t := by
  by_cases ht : t = ""
  · subst ht
    exact joinWords_of_words_eq_nil ((words_eq_nil_iff "").2 (by simp))
  · simp [joinWords, words_of_not_blank ht h]

/-- Each character of a joined text is a non-blank character of the text, in either case. -/
theorem mem_joinWords {t : String} {c : Char} (h : words t ≠ []) (hc : c ∈ (joinWords t).toList) :
    ∃ d ∈ t.toList, isBlank d = false ∧ (c = d ∨ c = d.toUpper ∨ c = d.toLower) := by
  simp only [joinWords] at hc
  split at hc
  · contradiction
  · rename_i w hw
    obtain ⟨hmem, hb⟩ := mem_of_mem_words (hw ▸ List.mem_singleton_self w) hc
    exact ⟨c, hmem, hb, .inl rfl⟩
  · simp only [String.toList_join, List.flatMap_map, List.mem_flatMap,
      toList_asciiCapitalize] at hc
    obtain ⟨w, hw, hcw⟩ := hc
    obtain ⟨d, hd, hcase⟩ := mem_capChars hcw
    obtain ⟨hmem, hb⟩ := mem_of_mem_words hw hd
    exact ⟨d, hmem, hb, .inr hcase⟩

theorem dropHead_of_not_mem {t : String} (h : '_' ∉ t.toList) : dropHead t = t := by
  simp [dropHead, hasChar, h]

/-- The part after the last underscore has none. -/
theorem alnum_dropHead {t : String} (h : ∀ c ∈ t.toList, isCoreChar c = true) :
    AlnumText (dropHead t) := by
  intro c hc
  have hcore : ∀ c ∈ t.toList, c ≠ '_' → c.isAlphanum = true := fun c hc hne => by
    simpa [isCoreChar, hne] using h c hc
  unfold dropHead at hc
  split at hc
  · simp only [afterLastUnderscore, toList_lastPiece, List.mem_reverse] at hc
    have hne : c ≠ '_' := by simpa using List.mem_takeWhile_imp hc
    exact hcore c (List.mem_reverse.1 ((List.takeWhile_sublist _).subset hc)) hne
  · rename_i hno
    have hne : c ≠ '_' := by
      rintro rfl
      exact hno (by simpa [hasChar] using hc)
    exact hcore c hc hne

theorem alnum_capLower {v : String} (h : AlnumText v) : AlnumText (capLower v) := by
  intro c hc
  unfold capLower at hc
  split at hc
  · rw [toList_asciiCapitalize] at hc
    obtain ⟨d, hd, rfl | rfl⟩ := mem_capChars hc
    · rw [isAlphanum_toUpper]; exact h d hd
    · rw [isAlphanum_toLower]; exact h d hd
  · exact h c hc

/-! ## Reserved words -/

/-- Reserved words are made of ASCII letters. -/
theorem isAlpha_of_mem_reservedWords :
    ∀ w ∈ reservedWords, ∀ c ∈ w.toList, c.isAlpha = true := by
  have h : reservedWords.all (·.toList.all Char.isAlpha) = true := by decide +kernel
  simpa using h

/-- A text with a character other than an ASCII letter is not reserved. -/
theorem isReserved_eq_false {s : String} {c : Char} (hc : c ∈ s.toList) (ha : c.isAlpha = false) :
    isReserved s = false := by
  by_contra h
  have hmem : s ∈ reservedWords := by simpa [isReserved] using h
  simp [isAlpha_of_mem_reservedWords s hmem c hc] at ha

/-! ## The core of a class name -/

/-- A class name before its prefix: the joined words of the name, from the last underscore
on, with a lower-case result capitalised. -/
def classCore (name : String) : String :=
  capLower (dropHead (joinWords (replaceOutside isNameChar name)))

theorem className_eq_guardName (name pfx : String) :
    className name pfx = guardName pfx (classCore name) := className_eq name pfx

theorem capLower_classCore (name : String) : capLower (classCore name) = classCore name :=
  capLower_capLower _

/-- A name whose characters leave no words is made of spaces. -/
theorem spaceText_of_words_eq_nil {s : String} (hw : words (replaceOutside isNameChar s) = []) :
    SpaceText s := by
  have hblank := (words_eq_nil_iff _).1 hw
  intro c hc
  have hmem : (if isNameChar c then c else '_') ∈ (replaceOutside isNameChar s).toList := by
    simp only [toList_replaceOutside]
    exact List.mem_map_of_mem hc
  have := eq_space_of_isNameChar (isNameChar_of_mem_replaceOutside hmem) (hblank _ hmem)
  split at this
  · exact this
  · exact absurd this (by decide)

theorem asciiIsLower_eq_false_of_space {s : String} (h : SpaceText s) : asciiIsLower s = false := by
  have : s.toList.any Char.isLower = false :=
    List.any_eq_false.2 fun c hc => by rw [h c hc]; decide
  simp [asciiIsLower, this]

theorem classCore_of_space {s : String} (h : SpaceText s) : classCore s = s := by
  have hrep : replaceOutside isNameChar s = s :=
    replaceOutside_of_forall fun c hc => by rw [h c hc]; decide
  have hw : words s = [] := (words_eq_nil_iff s).2 fun c hc => by rw [h c hc]; decide
  rw [classCore, hrep, joinWords_of_words_eq_nil hw,
    dropHead_of_not_mem fun hm => absurd (h _ hm) (by decide)]
  simp [capLower, asciiIsLower_eq_false_of_space h]

/-- Once the name has a word, its core is made of letters and digits. -/
theorem alnum_classCore {s : String} (hw : words (replaceOutside isNameChar s) ≠ []) :
    AlnumText (classCore s) := by
  apply alnum_capLower
  apply alnum_dropHead
  intro c hc
  obtain ⟨d, hd, hb, hcase⟩ := mem_joinWords hw hc
  exact isCoreChar_of_case (isCoreChar_of_isNameChar (isNameChar_of_mem_replaceOutside hd) hb)
    hcase

/-- The core of a name is made of letters and digits, unless the name is all spaces, in which
case it is the name itself. -/
theorem classCore_cases (s : String) :
    (SpaceText s ∧ classCore s = s) ∨ AlnumText (classCore s) := by
  by_cases hw : words (replaceOutside isNameChar s) = []
  · have hsp := spaceText_of_words_eq_nil hw
    exact .inl ⟨hsp, classCore_of_space hsp⟩
  · exact .inr (alnum_classCore hw)

/-! ## Class names of settled texts -/

theorem isNameChar_of_isAlphanum {c : Char} (h : c.isAlphanum = true) : isNameChar c = true := by
  simp [isNameChar, h]

theorem underscore_not_mem_of_alnum {v : String} (h : AlnumText v) : '_' ∉ v.toList :=
  fun hm => absurd (h _ hm) (by decide)

/-- The class name of letters and digits is their core behind a prefix when needed. -/
theorem className_of_alnum {v : String} (pfx : String) (h : AlnumText v) :
    className v pfx = guardName pfx (capLower v) := by
  rw [className_eq, replaceOutside_of_forall fun c hc => isNameChar_of_isAlphanum (h c hc),
    joinWords_of_not_blank fun c hc => isBlank_of_isAlphanum (h c hc),
    dropHead_of_not_mem (underscore_not_mem_of_alnum h)]

theorem lastPiece_append_sep {c : Char} {p v : String} (hv : c ∉ v.toList) :
    lastPiece c (p ++ String.singleton c ++ v) = v := by
  apply String.toList_injective
  have hall : ∀ x ∈ v.toList.reverse, (x != c) = true := fun x hx => by
    have : x ≠ c := fun h => hv (h ▸ List.mem_reverse.1 hx)
    simpa using this
  simp [List.takeWhile_append_of_pos hall]

/-- A prefixed name gives back the class name of what follows its last underscore, whatever
the prefix, as long as the prefix has no space. -/
theorem className_of_prefixed {p v : String} (pfx : String) (hp : ' ' ∉ p.toList)
    (hv : AlnumText v) : className (p ++ "_" ++ v) pfx = guardName pfx (capLower v) := by
  have hrep : replaceOutside isNameChar (p ++ "_" ++ v) =
      replaceOutside isNameChar p ++ "_" ++ v := by
    apply String.toList_injective
    simp only [toList_replaceOutside, String.toList_append, List.map_append]
    congr 1
    conv => rhs; rw [← List.map_id v.toList]
    exact List.map_congr_left fun c hc => by simp [isNameChar_of_isAlphanum (hv c hc)]
  have hnb : ∀ c ∈ (replaceOutside isNameChar p ++ "_" ++ v).toList, isBlank c = false := by
    intro c hc
    simp only [String.toList_append, List.mem_append] at hc
    rcases hc with (hc | hc) | hc
    · simp only [toList_replaceOutside, List.mem_map] at hc
      obtain ⟨d, hd, rfl⟩ := hc
      split
      · rename_i hn
        unfold isNameChar at hn
        simp only [Bool.or_eq_true, beq_iff_eq] at hn
        rcases hn with (hn | rfl) | rfl
        · exact isBlank_of_isAlphanum hn
        · decide
        · exact absurd hd hp
      · decide
    · simp at hc; subst hc; decide
    · exact isBlank_of_isAlphanum (hv c hc)
  have hhas : hasChar (replaceOutside isNameChar p ++ "_" ++ v) '_' = true := by
    simp [hasChar]
  rw [className_eq, hrep, joinWords_of_not_blank hnb, dropHead, if_pos hhas, afterLastUnderscore,
    show ("_" : String) = String.singleton '_' from rfl,
    lastPiece_append_sep (underscore_not_mem_of_alnum hv)]

theorem startsWithDigit_eq_false_of_space {v : String} (h : SpaceText v) :
    startsWithDigit v = false := by
  unfold startsWithDigit
  split
  · rename_i c cs hcs
    rw [h c (by simp [hcs])]
    decide
  · rfl

theorem guardName_of_space {v : String} (pfx : String) (h : SpaceText v) : guardName pfx v = v := by
  have hr : isReserved v = false := by
    cases hv : v.toList with
    | nil => simp [isReserved, reservedWords, ← String.toList_inj, hv]
    | cons c cs =>
      have hc : c ∈ v.toList := by simp [hv]
      exact isReserved_eq_false hc (by rw [h c hc]; decide)
  simp [guardName, startsWithDigit_eq_false_of_space h, hr]

/-- The class name of spaces is the spaces. -/
theorem className_of_space {v : String} (pfx : String) (h : SpaceText v) : className v pfx = v := by
  rw [className_eq_guardName, classCore_of_space h, guardName_of_space pfx h]

/-- Class names are settled: naming a class name again gives it back. -/
theorem className_className_of (pfx : String) (hp : ' ' ∉ pfx.toList) (s : String) :
    className (className s pfx) pfx = className s pfx := by
  rw [className_eq_guardName s pfx]
  rcases classCore_cases s with ⟨hsp, hcore⟩ | halnum
  · rw [hcore, guardName_of_space pfx hsp]
    exact className_of_space pfx hsp
  · have hcap := capLower_classCore s
    by_cases hg : (!(classCore s).isEmpty && (startsWithDigit (classCore s) ||
        isReserved (classCore s))) = true
    · have hpre : guardName pfx (classCore s) = pfx ++ "_" ++ classCore s := if_pos hg
      rw [hpre, className_of_prefixed pfx hp halnum, hcap, hpre]
    · have hplain : guardName pfx (classCore s) = classCore s := if_neg hg
      rw [hplain, className_of_alnum pfx halnum, hcap, hplain]

/-! ## The `Array` suffix -/

/-- The reserved words that capitalising leaves alone are the capitalised ones. -/
theorem eq_of_isReserved_of_capLower {v : String} (h : isReserved v = true)
    (hc : capLower v = v) : v = "True" ∨ v = "False" ∨ v = "None" := by
  have hall : reservedWords.all (fun w =>
      capLower w != w || w == "True" || w == "False" || w == "None") = true := by
    decide +kernel
  have hmem : v ∈ reservedWords := by simpa [isReserved] using h
  simpa [hc, or_assoc] using List.all_eq_true.1 hall v hmem

/-- No reserved word ends with `Array`. -/
theorem isReserved_append_array (v : String) : isReserved (v ++ "Array") = false := by
  have hall : reservedWords.all (fun w => !"Array".toList.isSuffixOf w.toList) = true := by
    decide +kernel
  by_contra h
  have hmem : v ++ "Array" ∈ reservedWords := by simpa [isReserved] using h
  have hsuf : "Array".toList.isSuffixOf (v ++ "Array").toList = true := by
    rw [List.isSuffixOf_iff_suffix, String.toList_append]
    exact List.suffix_append _ _
  have hv := List.all_eq_true.1 hall _ hmem
  rw [hsuf] at hv
  exact absurd hv (by decide)

theorem alnum_append {v w : String} (hv : AlnumText v) (hw : AlnumText w) :
    AlnumText (v ++ w) := by
  intro c hc
  rw [String.toList_append, List.mem_append] at hc
  exact hc.elim (hv c) (hw c)

theorem alnum_array : AlnumText "Array" := by
  simp [AlnumText]

theorem capLower_append_array (v : String) : capLower (v ++ "Array") = v ++ "Array" := by
  simp [capLower, asciiIsLower]

theorem startsWithDigit_append {v : String} (w : String) (hv : v ≠ "") :
    startsWithDigit (v ++ w) = startsWithDigit v := by
  obtain ⟨c, cs, hcs⟩ := List.exists_cons_of_ne_nil (by simpa using hv : v.toList ≠ [])
  simp [startsWithDigit, String.toList_append, hcs]

/-- The class name of a settled core with `Array` after it. -/
theorem className_append_array {v : String} (pfx : String) (hv : AlnumText v) (hne : v ≠ "") :
    className (v ++ "Array") pfx =
      if startsWithDigit v then pfx ++ "_" ++ (v ++ "Array") else v ++ "Array" := by
  rw [className_of_alnum pfx (alnum_append hv alnum_array), capLower_append_array, guardName,
    startsWithDigit_append _ hne, isReserved_append_array]
  simp

theorem className_prefixed_append_array {v : String} (pfx : String) (hp : ' ' ∉ pfx.toList)
    (hv : AlnumText v) (hne : v ≠ "") :
    className (pfx ++ "_" ++ v ++ "Array") pfx =
      if startsWithDigit v then pfx ++ "_" ++ (v ++ "Array") else v ++ "Array" := by
  rw [String.append_assoc, className_of_prefixed pfx hp (alnum_append hv alnum_array),
    capLower_append_array, guardName, startsWithDigit_append _ hne, isReserved_append_array]
  simp

/-- The prefixed names in the list are those of the three capitalised keywords. -/
theorem eq_of_model_append_mem {v : String}
    (h : "Model" ++ "_" ++ v ∈ ["Model_True", "Model_False", "Model_None"]) :
    v = "True" ∨ v = "False" ∨ v = "None" := by
  simp only [List.mem_cons, List.not_mem_nil, or_false] at h
  rcases h with h | h | h <;>
  · have hl := congrArg String.toList h
    simp only [String.toList_append] at hl
    simp at hl
    simp [← String.toList_inj, hl]

/-- Appending `Array` to a class name and naming it again keeps the class name, except for
the three prefixed reserved names, which drop their prefix (`Model_True` gives `TrueArray`).
A name made of spaces only is left aside. -/
theorem className_append_array_iff (s : String) (hs : s ≠ "" → ∃ c ∈ s.toList, c ≠ ' ') :
    className (className s ++ "Array") = className s ++ "Array" ↔
      className s ∉ ["Model_True", "Model_False", "Model_None"] := by
  rw [className_eq_guardName s "Model"]
  have hcap := capLower_classCore s
  rcases classCore_cases s with ⟨hsp, hcore⟩ | halnum
  · have hempty : s = "" := by
      by_contra hne
      obtain ⟨c, hc, hne'⟩ := hs hne
      exact hne' (hsp c hc)
    subst hempty
    rw [hcore, guardName_of_space "Model" hsp]
    decide
  · by_cases hne : classCore s = ""
    · rw [hne]
      decide
    by_cases hg : (!(classCore s).isEmpty && (startsWithDigit (classCore s) ||
        isReserved (classCore s))) = true
    · have hpre : guardName "Model" (classCore s) = "Model" ++ "_" ++ classCore s := if_pos hg
      rw [hpre, className_prefixed_append_array "Model" (by decide) halnum hne]
      by_cases hd : startsWithDigit (classCore s) = true
      · have hnot : "Model" ++ "_" ++ classCore s ∉ ["Model_True", "Model_False", "Model_None"] :=
          fun h => by
            rcases eq_of_model_append_mem h with h | h | h <;> rw [h] at hd <;>
              exact absurd hd (by decide)
        rw [if_pos hd, iff_true_intro hnot, iff_true]
        simp [String.append_assoc]
      · have hr : isReserved (classCore s) = true := by simpa [hne, hd] using hg
        rw [if_neg hd]
        rcases eq_of_isReserved_of_capLower hr hcap with h | h | h <;> rw [h] <;> decide
    · have hplain : guardName "Model" (classCore s) = classCore s := if_neg hg
      have hd : startsWithDigit (classCore s) = false ∧ isReserved (classCore s) = false := by
        simpa [hne] using hg
      rw [hplain, className_append_array "Model" halnum hne, if_neg (by simp [hd.1])]
      simp only [true_iff, List.mem_cons, List.not_mem_nil, or_false]
      have hu := underscore_not_mem_of_alnum halnum
      rintro (h | h | h) <;> rw [h] at hu <;> exact hu (by decide)

/-! ## Valid names -/

/-- A name that reads as one identifier and is no reserved word. -/
def ValidName (s : String) : Prop := Codegen.isIdentifier s = true ∧ isReserved s = false

theorem isIdentifier_of_alnum {v : String} (hv : AlnumText v) (hne : v ≠ "")
    (hd : startsWithDigit v = false) : Codegen.isIdentifier v = true := by
  obtain ⟨c, cs, hcs⟩ := List.exists_cons_of_ne_nil (by simpa using hne : v.toList ≠ [])
  have hc : c.isAlphanum = true := hv c (by simp [hcs])
  have hcd : c.isDigit = false := by simpa [startsWithDigit, hcs] using hd
  refine Codegen.isIdentifier_iff.2 ⟨c, cs, hcs, ?_, fun d hd => ?_⟩
  · simp only [Char.isAlphanum, hcd, Bool.or_false] at hc
    simp [Typing.isNameStart, hc]
  · simp [Typing.isNameChar, hv d (by simp [hcs, hd])]

theorem isIdentifier_prefixed {p v : String} (hp : Codegen.isIdentifier p = true)
    (hv : AlnumText v) : Codegen.isIdentifier (p ++ "_" ++ v) = true := by
  obtain ⟨c, cs, hcs, hstart, hrest⟩ := Codegen.isIdentifier_iff.1 hp
  refine Codegen.isIdentifier_iff.2 ⟨c, cs ++ '_' :: v.toList, by simp [hcs], hstart, ?_⟩
  intro d hd
  rcases List.mem_append.1 hd with hd | hd
  · exact hrest d hd
  · rcases List.mem_cons.1 hd with rfl | hd
    · decide
    · simp [Typing.isNameChar, hv d hd]

theorem isReserved_prefixed (p v : String) : isReserved (p ++ "_" ++ v) = false :=
  isReserved_eq_false (c := '_') (by simp) (by decide)

theorem validName_guardName {v : String} (pfx : String) (hp : Codegen.isIdentifier pfx = true)
    (hv : AlnumText v) (hne : v ≠ "") : ValidName (guardName pfx v) := by
  unfold guardName
  split
  · exact ⟨isIdentifier_prefixed hp hv, isReserved_prefixed pfx v⟩
  · rename_i hg
    have hg' : startsWithDigit v = false ∧ isReserved v = false := by simpa [hne] using hg
    exact ⟨isIdentifier_of_alnum hv hne hg'.1, hg'.2⟩

theorem not_validName_of_space {v : String} (h : SpaceText v) : ¬ValidName v := by
  rintro ⟨hid, -⟩
  obtain ⟨c, cs, hcs, hstart, -⟩ := Codegen.isIdentifier_iff.1 hid
  rw [h c (by simp [hcs])] at hstart
  exact absurd hstart (by decide)

/-! ## The last character decides -/

theorem map_isAlphanum_capChars (l : List Char) :
    (capChars l).map Char.isAlphanum = l.map Char.isAlphanum := by
  cases l <;> simp [capChars, isAlphanum_toUpper, isAlphanum_toLower, Function.comp_def]

/-- Joining words changes the case of characters, never whether they are letters or digits. -/
theorem map_isAlphanum_joinWords {t : String} (hw : words t ≠ []) :
    (joinWords t).toList.map Char.isAlphanum =
      (t.toList.filter (!isBlank ·)).map Char.isAlphanum := by
  rw [← flatten_words]
  simp only [joinWords]
  split
  · contradiction
  · rename_i w hw'
    simp [hw']
  · simp only [String.toList_join, List.flatMap_def, List.map_flatten, List.map_map]
    congr 1
    exact List.map_congr_left fun w _ => by simp [map_isAlphanum_capChars]

/-- Replacing characters outside names keeps the letters and digits, and blanks only the
spaces. -/
theorem map_isAlphanum_replaceOutside (s : String) :
    ((replaceOutside isNameChar s).toList.filter (!isBlank ·)).map Char.isAlphanum =
      (s.toList.filter (· != ' ')).map Char.isAlphanum := by
  rw [toList_replaceOutside, List.filter_map, List.map_map]
  have hb : ∀ c, (!isBlank (if isNameChar c then c else '_')) = (c != ' ') := fun c => by
    split
    · rename_i hn
      by_cases hsp : c = ' '
      · subst hsp; decide
      · have hblank : isBlank c = false := by
          by_contra hbl
          exact hsp (eq_space_of_isNameChar hn (by simpa using hbl))
        simp [hblank, hsp]
    · rename_i hn
      have hsp : c ≠ ' ' := fun h => hn (by rw [h]; decide)
      have h_ : isBlank '_' = false := by decide
      simp [h_, hsp]
  have ha : ∀ c, (if isNameChar c then c else '_').isAlphanum = c.isAlphanum := fun c => by
    split
    · rfl
    · rename_i hn
      have : c.isAlphanum = false := by
        by_contra h
        exact hn (isNameChar_of_isAlphanum (by simpa using h))
      rw [this]
      decide
  simp only [Function.comp_def, hb, ha]

theorem exists_getLast?_iff (l : List Char) :
    (∃ x, l.getLast? = some x ∧ x.isAlphanum = true) ↔
      (l.map Char.isAlphanum).getLast? = some true := by
  rw [List.getLast?_map]
  cases l.getLast? <;> simp

theorem asciiCapitalize_eq_empty {w : String} : asciiCapitalize w = "" ↔ w = "" := by
  rw [← String.toList_inj, toList_asciiCapitalize, String.toList_empty, capChars_eq_nil,
    ← String.toList_empty, String.toList_inj]

theorem capLower_eq_empty {v : String} : capLower v = "" ↔ v = "" := by
  unfold capLower
  split
  · exact asciiCapitalize_eq_empty
  · rfl

/-- After the last underscore something is left exactly when the text ends with a letter or
digit. -/
theorem dropHead_ne_empty_iff {t : String} (h : ∀ c ∈ t.toList, isCoreChar c = true) :
    dropHead t ≠ "" ↔ ∃ x, t.toList.getLast? = some x ∧ x.isAlphanum = true := by
  have hcore : ∀ x, t.toList.getLast? = some x → (x.isAlphanum = true ↔ x ≠ '_') := by
    intro x hx
    have hmem := List.mem_of_getLast? hx
    constructor
    · rintro ha rfl; exact absurd ha (by decide)
    · intro hne; simpa [isCoreChar, hne] using h x hmem
  unfold dropHead
  split
  · simp only [afterLastUnderscore, ne_eq, ← String.toList_inj, toList_lastPiece,
      String.toList_empty, List.reverse_eq_nil_iff]
    rw [← List.head?_reverse] at hcore ⊢
    cases hr : t.toList.reverse with
    | nil => simp
    | cons y ys =>
      have := hcore y (by simp [hr])
      simp only [List.takeWhile_cons, List.head?_cons, Option.some.injEq, exists_eq_left']
      split <;> simp_all
  · rename_i hno
    constructor
    · intro hne
      obtain ⟨x, hx⟩ := List.getLast?_isSome.2 (by simpa using hne : t.toList ≠ [])
      |> Option.isSome_iff_exists.1
      refine ⟨x, hx, (hcore x hx).2 ?_⟩
      rintro rfl
      exact hno (by simpa [hasChar] using List.mem_of_getLast? hx)
    · rintro ⟨x, hx, -⟩ hnil
      simp [hnil] at hx

/-- The class name of a text is a valid name exactly when the last character of the text
that is not a space is an ASCII letter or digit. -/
theorem validName_className_iff (s : String) :
    ValidName (className s) ↔
      ∃ c, (s.toList.filter (· != ' ')).getLast? = some c ∧ c.isAlphanum = true := by
  rw [className_eq_guardName]
  by_cases hw : words (replaceOutside isNameChar s) = []
  · have hsp := spaceText_of_words_eq_nil hw
    rw [classCore_of_space hsp, guardName_of_space _ hsp]
    have hnil : s.toList.filter (· != ' ') = [] :=
      List.filter_eq_nil_iff.2 fun c hc => by simp [hsp c hc]
    simp [hnil, not_validName_of_space hsp]
  · have halnum := alnum_classCore hw
    have key : ValidName (guardName "Model" (classCore s)) ↔ classCore s ≠ "" := by
      constructor
      · intro hv hne
        rw [hne] at hv
        exact not_validName_of_space (v := "") (by simp [SpaceText]) hv
      · exact validName_guardName "Model" (by decide) halnum
    have hjoin : ∀ c ∈ (joinWords (replaceOutside isNameChar s)).toList, isCoreChar c = true := by
      intro c hc
      obtain ⟨d, hd, hb, hcase⟩ := mem_joinWords hw hc
      exact isCoreChar_of_case
        (isCoreChar_of_isNameChar (isNameChar_of_mem_replaceOutside hd) hb) hcase
    rw [key, classCore, ne_eq, capLower_eq_empty, ← ne_eq, dropHead_ne_empty_iff hjoin,
      exists_getLast?_iff, exists_getLast?_iff, map_isAlphanum_joinWords hw,
      map_isAlphanum_replaceOutside]

/-! ## Client method names -/

/-- The words of a client method name joined: the first with its first letter in upper case,
the others capitalised. -/
def clientWords (s : String) : String :=
  match words s with
  | [] => s
  | w :: rest =>
    let first := match w.toList with
      | c :: cs => if c.isLower then String.ofList (c.toUpper :: cs) else w
      | [] => w
    first ++ String.join (rest.map asciiCapitalize)

/-- A method name that starts with a digit, or whose lower-case form is reserved, behind a
prefix and an underscore. -/
def guardOperation (pfx s : String) : String :=
  if !s.isEmpty && (startsWithDigit s || isReserved (String.ofList (s.toList.map Char.toLower)))
  then pfx ++ "_" ++ s else s

theorem operationName_eq (name pfx : String) :
    operationName name pfx =
      guardOperation pfx (clientWords (afterLastUnderscore (replaceOutside isNameChar name))) := by
  unfold operationName guardOperation clientWords
  rcases h : words (afterLastUnderscore (replaceOutside isNameChar name)) with _ | ⟨w, rest⟩
  · simp only [h]
  · rcases hw : w.toList with _ | ⟨c, cs⟩
    · simp only [h, hw]
    · simp only [h, hw]

/-- After the last underscore, a name keeps letters, digits and spaces. -/
theorem mem_afterLastUnderscore {s : String} {c : Char}
    (hc : c ∈ (afterLastUnderscore (replaceOutside isNameChar s)).toList) :
    c.isAlphanum = true ∨ c = ' ' := by
  simp only [afterLastUnderscore, toList_lastPiece, List.mem_reverse] at hc
  have hne : c ≠ '_' := by simpa using List.mem_takeWhile_imp hc
  have hn := isNameChar_of_mem_replaceOutside
    (List.mem_reverse.1 ((List.takeWhile_sublist _).subset hc))
  simp only [isNameChar, Bool.or_eq_true, beq_iff_eq, hne, or_false] at hn
  exact hn

theorem spaceText_of_words_nil {u : String} (hu : ∀ c ∈ u.toList, c.isAlphanum = true ∨ c = ' ')
    (hw : words u = []) : SpaceText u := by
  intro c hc
  rcases hu c hc with ha | hsp
  · have := (words_eq_nil_iff u).1 hw c hc
    rw [isBlank_of_isAlphanum ha] at this
    exact absurd this (by decide)
  · exact hsp

theorem eq_empty_of_append_eq_empty {a b : String} (h : a ++ b = "") : a = "" := by
  have hlen := congrArg String.length h
  simp only [String.length_append, String.length_empty] at hlen
  exact String.length_eq_zero_iff.1 (by omega)

/-- Once there is a word, the joined method name is letters and digits, and not empty. -/
theorem alnum_clientWords {u : String} (hu : ∀ c ∈ u.toList, c.isAlphanum = true ∨ c = ' ')
    (hw : words u ≠ []) : AlnumText (clientWords u) ∧ clientWords u ≠ "" := by
  have hword : ∀ w ∈ words u, AlnumText w := fun w hwm c hc => by
    obtain ⟨hmem, hb⟩ := mem_of_mem_words hwm hc
    rcases hu c hmem with ha | rfl
    · exact ha
    · exact absurd hb (by decide)
  obtain ⟨w, rest, hwr⟩ := List.exists_cons_of_ne_nil hw
  have hwa := hword w (by simp [hwr])
  have hfirst : ∀ (first : String), (first = w ∨ ∃ c cs, w.toList = c :: cs ∧
      first = String.ofList (c.toUpper :: cs)) → AlnumText first ∧ first ≠ "" := by
    rintro first (rfl | ⟨c, cs, hcs, rfl⟩)
    · exact ⟨hwa, ne_of_mem_words (show first ∈ words u by simp [hwr])⟩
    · refine ⟨fun d hd => ?_, by simp [← String.toList_inj]⟩
      simp only [String.toList_ofList, List.mem_cons] at hd
      rcases hd with rfl | hd
      · rw [isAlphanum_toUpper]; exact hwa c (by simp [hcs])
      · exact hwa d (by simp [hcs, hd])
  have hjoin : AlnumText (String.join (rest.map asciiCapitalize)) := by
    intro d hd
    simp only [String.toList_join, List.flatMap_map, List.mem_flatMap, toList_asciiCapitalize] at hd
    obtain ⟨v, hv, hdv⟩ := hd
    obtain ⟨e, he, rfl | rfl⟩ := mem_capChars hdv
    · rw [isAlphanum_toUpper]; exact hword v (by simp [hwr, hv]) e he
    · rw [isAlphanum_toLower]; exact hword v (by simp [hwr, hv]) e he
  simp only [clientWords, hwr]
  split
  · rename_i c cs hcs
    split
    · obtain ⟨ha, hne⟩ := hfirst _ (.inr ⟨c, cs, hcs, rfl⟩)
      exact ⟨alnum_append ha hjoin, by simp [← String.toList_inj]⟩
    · obtain ⟨ha, hne⟩ := hfirst w (.inl rfl)
      exact ⟨alnum_append ha hjoin, fun h => hne (eq_empty_of_append_eq_empty h)⟩
  · obtain ⟨ha, hne⟩ := hfirst w (.inl rfl)
    exact ⟨alnum_append ha hjoin, fun h => hne (eq_empty_of_append_eq_empty h)⟩

/-- The reserved words whose lower-case form is not reserved are the capitalised ones. -/
theorem eq_of_isReserved_of_lower {v : String} (h : isReserved v = true)
    (hl : isReserved (String.ofList (v.toList.map Char.toLower)) = false) :
    v = "True" ∨ v = "False" ∨ v = "None" := by
  have hall : reservedWords.all (fun w =>
      isReserved (String.ofList (w.toList.map Char.toLower)) ||
        w == "True" || w == "False" || w == "None") = true := by
    decide +kernel
  have hmem : v ∈ reservedWords := by simpa [isReserved] using h
  simpa [hl, or_assoc] using List.all_eq_true.1 hall v hmem

/-- A client method name is a valid name, or made of spaces only, or one of the capitalised
keywords, which the check in lower case lets through. -/
theorem operationName_cases (s : String) :
    ValidName (operationName s) ∨ SpaceText (operationName s) ∨
      operationName s ∈ ["True", "False", "None"] := by
  rw [operationName_eq]
  have hu := fun c => @mem_afterLastUnderscore s c
  by_cases hw : words (afterLastUnderscore (replaceOutside isNameChar s)) = []
  · have hsp := spaceText_of_words_nil hu hw
    right; left
    have hlower : isReserved (String.ofList ((afterLastUnderscore
        (replaceOutside isNameChar s)).toList.map Char.toLower)) = false := by
      cases ht : (afterLastUnderscore (replaceOutside isNameChar s)).toList with
      | nil => simp [isReserved, reservedWords, ← String.toList_inj]
      | cons c cs =>
        apply isReserved_eq_false (c := ' ') (by simp [hsp c (by simp [ht])])
        decide
    simp only [clientWords, hw, guardOperation, startsWithDigit_eq_false_of_space hsp, hlower,
      Bool.or_false, Bool.and_false, Bool.false_eq_true, if_false]
    exact hsp
  · obtain ⟨halnum, hne⟩ := alnum_clientWords hu hw
    unfold guardOperation
    split
    · exact .inl ⟨isIdentifier_prefixed (by decide) halnum, isReserved_prefixed _ _⟩
    · rename_i hg
      have hg' : startsWithDigit (clientWords (afterLastUnderscore (replaceOutside isNameChar s)))
          = false ∧ isReserved (String.ofList ((clientWords (afterLastUnderscore
            (replaceOutside isNameChar s))).toList.map Char.toLower)) = false := by
        simpa [hne] using hg
      have hid := isIdentifier_of_alnum halnum hne hg'.1
      cases hr : isReserved (clientWords (afterLastUnderscore (replaceOutside isNameChar s)))
      · exact .inl ⟨hid, hr⟩
      · right; right
        rcases eq_of_isReserved_of_lower hr hg'.2 with h | h | h <;> simp [h]

/-! ## Main statements -/

/-- Class names are settled: naming a class name again gives it back, and so does naming it
with `Array` after it, except for the prefixed capitalised keywords. A name of spaces only is
left aside. -/
theorem className_settled (s : String) :
    className (className s) = className s ∧
      ((s ≠ "" → ∃ c ∈ s.toList, c ≠ ' ') →
        (className (className s ++ "Array") = className s ++ "Array" ↔
          className s ∉ ["Model_True", "Model_False", "Model_None"])) :=
  ⟨className_className_of "Model" (by decide) s, className_append_array_iff s⟩

theorem className_settled_true :
    className (className "True") = className "True" ∧
      ("True" ≠ "" → ∃ c ∈ "True".toList, c ≠ ' ') ∧
      (className (className "True" ++ "Array") = className "True" ++ "Array" ↔
        className "True" ∉ ["Model_True", "Model_False", "Model_None"]) :=
  have hs : "True" ≠ "" → ∃ c ∈ "True".toList, c ≠ ' ' := fun _ => ⟨'T', by simp, by decide⟩
  ⟨(className_settled "True").1, hs, (className_settled "True").2 hs⟩

/-- `True` is named `Model_True`, which loses its prefix once `Array` follows it. -/
theorem className_true_array :
    className "True" = "Model_True" ∧ className "Model_TrueArray" = "TrueArray" ∧
      className (className "True" ++ "Array") ≠ className "True" ++ "Array" := by
  decide

/-- A class name is a valid name exactly when the last character of the text that is not a
space is an ASCII letter or digit; a client method name is a valid name, or made of spaces
only, or one of the capitalised keywords. -/
theorem generatedNames_valid (s : String) :
    (ValidName (className s) ↔
      ∃ c, (s.toList.filter (· != ' ')).getLast? = some c ∧ c.isAlphanum = true) ∧
    (ValidName (operationName s) ∨ SpaceText (operationName s) ∨
      operationName s ∈ ["True", "False", "None"]) :=
  ⟨validName_className_iff s, operationName_cases s⟩

/-- The operation `Line_True` gets the method name `True`, a keyword; a schema named `a_`
gets the empty class name. -/
theorem lineTrue_name_reserved :
    operationName "Line_True" = "True" ∧ isReserved (operationName "Line_True") = true ∧
      className "a_" = "" ∧ Codegen.isIdentifier (className "a_") = false := by
  decide

end TransitKit.Naming
