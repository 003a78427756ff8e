import Mathlib
import TransitKit.Diagram.ConfigSource
import TransitKit.Codegen.Description

/-!
# Reading text literals back

The source reader finds where a text literal ends and replaces its escapes. A literal reads back
as the text it was written from when it is one quote around a body without quote, backslash or
line break, three quotes around a body without backslash or three quotes in a row, or a JSON
text of characters in the basic plane, whose escapes are escapes of the language with the same
meaning.
-/

namespace TransitKit.Diagram

open Typing

variable {q : Char} {t : Bool}

/-- `lit` is one text literal whose value is `v`: reading a token from its first character
gives that text and leaves exactly what follows it. -/
def ReadsAs (lit v : String) : Prop :=
  ∀ rest, readText "" (lit.toList ++ rest) = some (.text .plain v, rest)

/-! ## Where a literal ends -/

/-- A character a literal body carries as itself: no quote of the literal, no backslash,
and no line break in a literal of one quote. -/
def LiteralChar (q : Char) (t : Bool) (c : Char) : Prop :=
  c ≠ q ∧ c ≠ '\\' ∧ (t = false → c ≠ '\n' ∧ c ≠ '\r')

theorem literalRest_cons {c : Char} (rest : List Char) (hc : LiteralChar q t c) :
    literalRest q t (c :: rest) = literalRest q t rest := by
  obtain ⟨hq, hb, hline⟩ := hc
  rw [literalRest.eq_def]
  split
  · simp_all
  · simp_all
  · simp_all
  · cases t <;> simp_all

@[simp] theorem literalRest_backslash (c : Char) (rest : List Char) :
    literalRest q t ('\\' :: c :: rest) = literalRest q t rest := by
  simp [literalRest]

theorem literalRest_append_of_literalChar {s : List Char} (rest : List Char)
    (hs : ∀ c ∈ s, LiteralChar q t c) :
    literalRest q t (s ++ rest) = literalRest q t rest := by
  induction s with
  | nil => rfl
  | cons c s ih =>
    rw [List.cons_append, literalRest_cons _ (hs c (by simp))]
    exact ih fun d hd => hs d (by simp [hd])

theorem literalRest_close (rest : List Char) (hq : q ≠ '\\') :
    literalRest q false (q :: rest) = some rest := by
  rw [literalRest.eq_def]
  split <;> simp_all

/-- In a literal of three quotes, a quote followed by two characters that are not both
quotes does not close it. -/
theorem literalRest_quote_triple {a b : Char} (more : List Char) (hq : q ≠ '\\')
    (hab : ¬ (a = q ∧ b = q)) :
    literalRest q true (q :: a :: b :: more) = literalRest q true (a :: b :: more) := by
  rw [literalRest.eq_4 _ _ _ _ _ _ (by simp [hq]) (by simp)]
  simp_all

theorem literalRest_close_triple (rest : List Char) (hq : q ≠ '\\') :
    literalRest q true (q :: q :: q :: rest) = some rest := by
  rw [literalRest.eq_4 _ _ _ _ _ _ (by simp [hq]) (by simp)]
  simp

/-- The body of a literal of three quotes `q`: no backslash, and no three quotes in a row,
also with the closing quotes after it. -/
def TripleBody (q : Char) (s : List Char) : Prop :=
  '\\' ∉ s ∧ ¬ [q, q, q] <:+: s ++ [q, q]

instance (q : Char) (s : List Char) : Decidable (TripleBody q s) :=
  inferInstanceAs (Decidable (_ ∧ _))

theorem literalRest_tripleBody {s : List Char} (rest : List Char) (hq : q ≠ '\\')
    (hs : TripleBody q s) :
    literalRest q true (s ++ q :: q :: q :: rest) = some rest := by
  induction s with
  | nil => exact literalRest_close_triple rest hq
  | cons c s ih =>
    obtain ⟨hb, hqqq⟩ := hs
    have hs' : TripleBody q s := ⟨fun h => hb (by simp [h]),
      fun h => hqqq (h.trans (List.infix_cons (List.infix_refl _)))⟩
    by_cases hcq : c = q
    · subst hcq
      rw [← ih hs', List.cons_append]
      rcases s with _ | ⟨a, _ | ⟨b, s⟩⟩
      · simp at hqqq
      · refine literalRest_quote_triple _ hq fun ⟨ha, _⟩ => hqqq ?_
        subst ha
        exact (List.prefix_append _ _).isInfix
      · refine literalRest_quote_triple _ hq fun ⟨ha, hb'⟩ => hqqq ?_
        subst ha hb'
        exact (List.prefix_append _ _).isInfix
    · have hc : LiteralChar q true c := ⟨hcq, fun h => hb (by simp [h]), by simp⟩
      rw [List.cons_append, literalRest_cons _ hc]
      exact ih hs'

/-- Text that can stand inside a literal of three quotes `q` between characters that are
not quotes: no backslash and no three quotes in a row. -/
def TripleSafe (q : Char) (s : String) : Prop :=
  '\\' ∉ s.toList ∧ ¬ [q, q, q] <:+: s.toList

instance (q : Char) (s : String) : Decidable (TripleSafe q s) :=
  inferInstanceAs (Decidable (_ ∧ _))

theorem not_triple_infix_append_cons {A B : List Char} {x : Char} (hA : ¬ [q, q, q] <:+: A)
    (hB : ¬ [q, q, q] <:+: B) (hx : x ≠ q) : ¬ [q, q, q] <:+: A ++ x :: B := by
  induction A with
  | nil =>
    rw [List.nil_append, List.infix_cons_iff]
    rintro (h | h)
    · exact hx (List.cons_prefix_cons.1 h).1.symm
    · exact hB h
  | cons a A ih =>
    rw [List.cons_append, List.infix_cons_iff]
    rintro (h | h)
    · rcases A with _ | ⟨b, _ | ⟨c, A⟩⟩
      · simp only [List.nil_append, List.cons_prefix_cons] at h
        exact hx h.2.1.symm
      · simp only [List.cons_append, List.nil_append, List.cons_prefix_cons] at h
        exact hx h.2.2.1.symm
      · simp only [List.cons_append, List.cons_prefix_cons] at h
        obtain ⟨rfl, rfl, rfl, -⟩ := h
        exact hA (List.prefix_append [q, q, q] A).isInfix
    · exact ih (fun h' => hA (h'.trans (List.infix_cons (List.infix_refl _)))) h

theorem not_triple_infix_append_append {A F B : List Char} (hA : ¬ [q, q, q] <:+: A)
    (hF : ∀ c ∈ F, c ≠ q) (hne : F ≠ []) (hB : ¬ [q, q, q] <:+: B) :
    ¬ [q, q, q] <:+: A ++ F ++ B := by
  induction F generalizing A with
  | nil => exact absurd rfl hne
  | cons x F ih =>
    rw [List.append_assoc, List.cons_append]
    refine not_triple_infix_append_cons hA ?_ (hF x (by simp))
    rcases F with _ | ⟨y, F⟩
    · exact hB
    · simpa using ih (A := []) (by simp) (fun c hc => hF c (by simp [hc])) (by simp)

/-- A non-empty text with no quote `q` and no backslash: it keeps two safe texts apart. -/
def Separator (q : Char) (f : String) : Prop := f ≠ "" ∧ ∀ c ∈ f.toList, c ≠ q ∧ c ≠ '\\'

theorem Separator.tripleSafe {f : String} (hf : Separator q f) : TripleSafe q f :=
  ⟨fun h => (hf.2 _ h).2 rfl, fun h => (hf.2 q (h.subset (by simp))).1 rfl⟩

/-- Two safe texts with a separator between them make a safe text. -/
theorem TripleSafe.append_separator_append {a f b : String} (ha : TripleSafe q a)
    (hf : Separator q f) (hb : TripleSafe q b) : TripleSafe q (a ++ f ++ b) := by
  refine ⟨?_, ?_⟩
  · simp only [String.toList_append, List.mem_append, not_or]
    exact ⟨⟨ha.1, fun h => (hf.2 _ h).2 rfl⟩, hb.1⟩
  · simp only [String.toList_append]
    exact not_triple_infix_append_append ha.2 (fun c hc => (hf.2 c hc).1)
      (by simpa using hf.1) hb.2

theorem TripleSafe.append_separator {a f : String} (ha : TripleSafe q a) (hf : Separator q f) :
    TripleSafe q (a ++ f) := by
  simpa using ha.append_separator_append hf (b := "") (by simp [TripleSafe])

theorem TripleSafe.separator_append {f b : String} (hf : Separator q f) (hb : TripleSafe q b) :
    TripleSafe q (f ++ b) := by
  simpa using (show TripleSafe q "" by simp [TripleSafe]).append_separator_append hf hb

/-- Safe texts joined by a separator make a safe text. -/
theorem tripleSafe_intercalate {sep : String} (hsep : Separator q sep) :
    ∀ {ls : List String}, (∀ l ∈ ls, TripleSafe q l) → TripleSafe q (sep.intercalate ls)
  | [], _ => by simp [TripleSafe]
  | [l], hls => by simpa using hls l (by simp)
  | l :: m :: ls, hls => by
    rw [String.intercalate_cons_cons]
    exact (hls l (by simp)).append_separator_append hsep
      (tripleSafe_intercalate hsep fun l' hl' => hls l' (by simp_all))

/-- A safe text followed by a separator is the body of a literal of three quotes. -/
theorem TripleSafe.tripleBody_append {a f : String} (ha : TripleSafe q a) (hf : Separator q f) :
    TripleBody q (a ++ f).toList := by
  refine ⟨?_, ?_⟩
  · simp only [String.toList_append, List.mem_append, not_or]
    exact ⟨ha.1, fun h => (hf.2 _ h).2 rfl⟩
  · simp only [String.toList_append]
    exact not_triple_infix_append_append ha.2 (fun c hc => (hf.2 c hc).1) (by simpa using hf.1)
      fun h => by simpa using h.length_le

/-- After a quote, a literal of one quote starts unless two more quotes follow. -/
theorem quotedRest_single {s : List Char} (hs : ∀ t, s ≠ q :: q :: t) :
    quotedRest (q :: s) = literalRest q false s := by
  match s with
  | [] => rfl
  | [a] => rfl
  | a :: b :: more =>
    have hab : ¬ (a = q ∧ b = q) := fun ⟨ha, hb⟩ => hs more (by rw [ha, hb])
    simp only [quotedRest, beq_iff_eq, Bool.and_eq_true]
    rw [if_neg hab]

theorem quotedRest_triple (s : List Char) :
    quotedRest (q :: q :: q :: s) = literalRest q true s := by
  simp [quotedRest]

/-! ## The value of a literal -/

theorem unescape_cons {c : Char} (fuel : Nat) (rest : List Char) (hb : c ≠ '\\') :
    unescape (fuel + 1) (c :: rest) = (c :: ·) <$> unescape fuel rest :=
  unescape.eq_4 _ _ _ (by simp [hb])

/-- A body without backslashes is its own value. -/
theorem unescape_of_not_mem {s : List Char} (hs : '\\' ∉ s) {fuel : Nat}
    (hfuel : s.length < fuel) : unescape fuel s = some s := by
  obtain ⟨f, rfl⟩ : ∃ f, fuel = f + 1 := ⟨fuel - 1, by omega⟩
  induction s generalizing f with
  | nil => simp [unescape]
  | cons c s ih =>
    have hc : c ≠ '\\' := fun h => hs (by simp [h])
    obtain ⟨g, rfl⟩ : ∃ g, f = g + 1 := ⟨f - 1, by simp at hfuel; omega⟩
    rw [unescape_cons _ _ hc, ih (fun h => hs (by simp [h])) _ (by simp at hfuel; omega)]
    rfl

/-- A literal of one quote `q` reads as the value of its body, unless its opening quote is
followed by two more quotes (then it opens a literal of three). -/
theorem readText_single {s rest v : List Char} (hpair : ∀ t, s ++ q :: rest ≠ q :: q :: t)
    (hlit : literalRest q false (s ++ q :: rest) = some rest)
    (hv : unescape (s.length + 1) s = some v) :
    readText "" (q :: s ++ q :: rest) = some (.text .plain (String.ofList v), rest) := by
  have hq : quotedRest (q :: (s ++ q :: rest)) = some rest := by
    rw [quotedRest_single hpair, hlit]
  have hwhole : (q :: (s ++ q :: rest)).take
      ((q :: (s ++ q :: rest)).length - rest.length) = q :: (s ++ [q]) := by
    rw [show q :: (s ++ q :: rest) = (q :: (s ++ [q])) ++ rest by simp]
    exact List.take_left' (by simp; omega)
  have hkind : (TextKind.plain == TextKind.bytes) = false := rfl
  simp only [List.cons_append, readText, hq, hwhole, Option.bind_eq_bind, Option.bind_some]
  obtain ⟨a, t, hat⟩ := List.exists_cons_of_ne_nil (show s ++ q :: rest ≠ [] by simp)
  rw [← List.cons_append, hat]
  rcases t with _ | ⟨b, u⟩
  · simp [hkind, hv]
  · have hab : ¬ (a = q ∧ b = q) := fun ⟨ha, hb⟩ => hpair u (by rw [hat, ha, hb])
    have hcount : (q == a && a == b) = false := by
      simp only [Bool.and_eq_false_iff, beq_eq_false_iff_ne]
      by_cases ha : a = q
      · exact Or.inr (by rw [ha]; exact fun h => hab ⟨ha, h.symm⟩)
      · exact Or.inl (Ne.symm ha)
    simp [hcount, hkind, hv]

/-- The pair condition of `readText_single` for a body that does not start with a quote. -/
theorem append_ne_quote_quote {s rest : List Char} (hs : ∀ c ∈ s.head?, c ≠ q)
    (hempty : s = [] → ∀ c ∈ rest.head?, c ≠ q) : ∀ t, s ++ q :: rest ≠ q :: q :: t := by
  intro t h
  rcases s with _ | ⟨a, s⟩
  · simp only [List.nil_append, List.cons.injEq, true_and] at h
    exact hempty rfl q (by simp [h]) rfl
  · simp only [List.cons_append, List.cons.injEq] at h
    exact hs a rfl h.1

/-- A literal of three quotes `q` reads as the value of its body. -/
theorem readText_triple {s rest v : List Char}
    (hlit : literalRest q true (s ++ q :: q :: q :: rest) = some rest)
    (hv : unescape (s.length + 1) s = some v) :
    readText "" (q :: q :: q :: s ++ q :: q :: q :: rest) =
      some (.text .plain (String.ofList v), rest) := by
  have hq : quotedRest (q :: q :: q :: (s ++ q :: q :: q :: rest)) = some rest := by
    rw [quotedRest_triple, hlit]
  have hwhole : (q :: q :: q :: (s ++ q :: q :: q :: rest)).take
      ((q :: q :: q :: (s ++ q :: q :: q :: rest)).length - rest.length) =
        q :: q :: q :: (s ++ [q, q, q]) := by
    rw [show q :: q :: q :: (s ++ q :: q :: q :: rest) =
      (q :: q :: q :: (s ++ [q, q, q])) ++ rest by simp]
    exact List.take_left' (by simp; omega)
  have hkind : (TextKind.plain == TextKind.bytes) = false := rfl
  simp only [List.cons_append, readText, hq, hwhole, Option.bind_eq_bind, Option.bind_some]
  simp [hkind, hv]

/-! ## Plain literals -/

/-- A literal of one quote whose body has no quote, backslash or line break reads as its
body; an empty one needs a character other than the quote after it. -/
theorem readText_literalChars {s rest : List Char} (hq : q ≠ '\\')
    (hs : ∀ c ∈ s, LiteralChar q false c) (hempty : s = [] → ∀ c ∈ rest.head?, c ≠ q) :
    readText "" (q :: s ++ q :: rest) = some (.text .plain (String.ofList s), rest) := by
  have hlit : literalRest q false (s ++ q :: rest) = some rest := by
    rw [literalRest_append_of_literalChar _ hs, literalRest_close _ hq]
  have hhead : ∀ c ∈ s.head?, c ≠ q := fun c hc => (hs c (List.mem_of_mem_head? hc)).1
  exact readText_single (append_ne_quote_quote hhead hempty) hlit
    (unescape_of_not_mem (fun h => (hs '\\' h).2.1 rfl) (Nat.lt_succ_self s.length))

theorem readsAs_single {s : String} (hq : q ≠ '\\') (hne : s ≠ "")
    (hs : ∀ c ∈ s.toList, LiteralChar q false c) :
    ReadsAs (String.singleton q ++ s ++ String.singleton q) s := by
  intro rest
  have hread : readText "" (q :: s.toList ++ q :: rest) =
      some (.text .plain (String.ofList s.toList), rest) :=
    readText_literalChars hq hs fun h => absurd h (by simpa using hne)
  simpa using hread

theorem readsAs_triple {s : String} (hq : q ≠ '\\') (hs : TripleBody q s.toList) :
    ReadsAs (String.ofList [q, q, q] ++ s ++ String.ofList [q, q, q]) s := by
  intro rest
  have hv := unescape_of_not_mem hs.1 (Nat.lt_succ_self s.toList.length)
  simpa using readText_triple (literalRest_tripleBody rest hq hs) hv

/-! ## Hexadecimal digits -/

theorem digitsValue_append_singleton (b : Nat) (ds : List Char) (c : Char) :
    digitsValue b (ds ++ [c]) = digitsValue b ds * b + (Text.hexDigitValue? c).getD 0 := by
  simp [digitsValue, List.foldl_append]

theorem digitsValue_zeros_append (b k : Nat) (ds : List Char) :
    digitsValue b (List.replicate k '0' ++ ds) = digitsValue b ds := by
  have hzero : (List.replicate k '0').foldl
      (fun n d => n * b + (Text.hexDigitValue? d).getD 0) 0 = 0 := by
    induction k with
    | zero => rfl
    | succ k ih =>
      have h0 : Text.hexDigitValue? '0' = some 0 := by decide
      simp [List.replicate_succ', List.foldl_append, ih, h0]
  simp only [digitsValue, List.foldl_append, hzero]

theorem hexDigitValue?_digitChar {d : Nat} (hd : d < 16) :
    Text.hexDigitValue? (Nat.digitChar d) = some d := by
  have hall : ∀ d : Fin 16, Text.hexDigitValue? (Nat.digitChar d) = some d := by decide
  exact hall ⟨d, hd⟩

theorem digitsValue_toDigits (n : Nat) : digitsValue 16 (Nat.toDigits 16 n) = n := by
  induction n using Nat.base_induction 16 (by decide) with
  | single m hm =>
    simp [Nat.toDigits_of_lt_base hm, digitsValue, hexDigitValue?_digitChar hm]
  | digit m k hk hm ih =>
    rw [← Nat.toDigits_append_toDigits (by decide) hm hk, Nat.toDigits_of_lt_base hk,
      digitsValue_append_singleton, ih, hexDigitValue?_digitChar hk]
    simp [Nat.mul_comm]

theorem hexDigit_of_mem_toDigits {n : Nat} {c : Char} (hc : c ∈ Nat.toDigits 16 n) :
    ∃ d < 16, c = Nat.digitChar d := by
  induction n using Nat.base_induction 16 (by decide) with
  | single m hm => exact ⟨m, hm, by simpa [Nat.toDigits_of_lt_base hm] using hc⟩
  | digit m k hk hm ih =>
    rw [← Nat.toDigits_append_toDigits (by decide) hm hk, Nat.toDigits_of_lt_base hk] at hc
    rcases List.mem_append.1 hc with h | h
    · exact ih h
    · exact ⟨k, hk, by simpa using h⟩

theorem hexPadded_toList (n w : Nat) :
    (hexPadded n w).toList =
      List.replicate (w - (Nat.toDigits 16 n).length) '0' ++ Nat.toDigits 16 n := by
  simp [hexPadded, Number.padLeft]

theorem length_hexPadded {n : Nat} (hn : n < 0x10000) : (hexPadded n 4).toList.length = 4 := by
  have hlen : (Nat.toDigits 16 n).length ≤ 4 :=
    (Nat.length_toDigits_le_iff (by decide) (by decide)).2 hn
  simp [hexPadded_toList]
  omega

theorem digitsValue_hexPadded (n w : Nat) : digitsValue 16 (hexPadded n w).toList = n := by
  rw [hexPadded_toList, digitsValue_zeros_append, digitsValue_toDigits]

theorem hexDigit_of_mem_hexPadded {n w : Nat} {c : Char} (hc : c ∈ (hexPadded n w).toList) :
    ∃ d < 16, c = Nat.digitChar d := by
  rw [hexPadded_toList] at hc
  rcases List.mem_append.1 hc with h | h
  · exact ⟨0, by decide, List.eq_of_mem_replicate h⟩
  · exact hexDigit_of_mem_toDigits h

/-- A hexadecimal digit stands as itself inside a double-quoted literal. -/
theorem literalChar_of_mem_hexPadded {n w : Nat} {c : Char} (hc : c ∈ (hexPadded n w).toList) :
    LiteralChar '"' false c := by
  obtain ⟨d, hd, rfl⟩ := hexDigit_of_mem_hexPadded hc
  have hall : ∀ d : Fin 16, Nat.digitChar d ≠ '"' ∧ Nat.digitChar d ≠ '\\' ∧
      Nat.digitChar d ≠ '\n' ∧ Nat.digitChar d ≠ '\r' := by decide
  obtain ⟨h1, h2, h3, h4⟩ := hall ⟨d, hd⟩
  exact ⟨h1, h2, fun _ => ⟨h3, h4⟩⟩

/-- A four-digit escape `\uhhhh` reads as the character of its code point. -/
theorem unescape_hexEscape {n : Nat} (hn : n < 0x10000) (fuel : Nat) (rest : List Char) :
    unescape (fuel + 1) ('\\' :: 'u' :: ((hexPadded n 4).toList ++ rest)) =
      (Char.ofNat n :: ·) <$> unescape fuel rest := by
  have hlen := length_hexPadded hn
  have htake : ((hexPadded n 4).toList ++ rest).take 4 = (hexPadded n 4).toList :=
    List.take_left' hlen
  have hdrop : ((hexPadded n 4).toList ++ rest).drop 4 = rest := List.drop_left' hlen
  have hall : (hexPadded n 4).toList.all (fun d => (Text.hexDigitValue? d).isSome) := by
    simp only [List.all_eq_true]
    intro c hc
    obtain ⟨d, hd, rfl⟩ := hexDigit_of_mem_hexPadded hc
    simp [hexDigitValue?_digitChar hd]
  rw [unescape.eq_3]
  simp [htake, hdrop, hall, hlen, digitsValue_hexPadded]
  omega

/-! ## JSON texts -/

theorem codePoint_of_lt {c : Char} (hc : c.toNat < 0x10000) : Text.codePoint c = c.toNat := by
  simp [Text.codePoint, Text.surrogateBase]
  omega

/-- The JSON escape of a character of the basic plane reads back as that character. -/
theorem unescape_jsonEscapeChar {c : Char} (hc : c.toNat < 0x10000) (fuel : Nat)
    (rest : List Char) :
    unescape (fuel + 1) ((jsonEscapeChar true c).toList ++ rest) =
      (c :: ·) <$> unescape fuel rest := by
  unfold jsonEscapeChar
  split_ifs with hq hb hn hr ht hbs hff hctl hhigh hbmp
  · simp_all [unescape.eq_3]
  · simp_all [unescape.eq_3]
  · simp_all [unescape.eq_3]
  · simp_all [unescape.eq_3]
  · simp_all [unescape.eq_3]
  · simp_all [unescape.eq_3]
  · simp_all [unescape.eq_3]
  · simpa [Char.ofNat_toNat] using unescape_hexEscape hc fuel rest
  · simpa [codePoint_of_lt hc, Char.ofNat_toNat] using unescape_hexEscape hc fuel rest
  · exact absurd hbmp (by rw [codePoint_of_lt hc]; omega)
  · simpa using unescape_cons fuel rest (by simpa using hb)

theorem literalRest_hexEscape (n : Nat) (more : List Char) :
    literalRest '"' false (("\\u" ++ hexPadded n 4).toList ++ more) = literalRest '"' false more := by
  simp only [String.toList_append, List.append_assoc]
  rw [show "\\u".toList = ['\\', 'u'] by simp, List.cons_append, List.cons_append, List.nil_append,
    literalRest_backslash, literalRest_append_of_literalChar _
      fun _ h => literalChar_of_mem_hexPadded h]

/-- A JSON escape holds no quote or line break of its own: the literal goes on after it. -/
theorem literalRest_jsonEscapeChar (c : Char) (rest : List Char) :
    literalRest '"' false ((jsonEscapeChar true c).toList ++ rest) = literalRest '"' false rest := by
  unfold jsonEscapeChar
  split_ifs with hq hb hn hr ht hbs hff hctl hhigh hbmp
  · simp
  · simp
  · simp
  · simp
  · simp
  · simp
  · simp
  · rw [literalRest_hexEscape]
  · rw [literalRest_hexEscape]
  · rw [String.append_assoc, String.toList_append, List.append_assoc, literalRest_hexEscape,
      literalRest_hexEscape]
  · have hc : LiteralChar '"' false c := ⟨by simpa using hq, by simpa using hb, fun _ =>
      ⟨fun h => by simp [h] at hctl, fun h => by simp [h] at hctl⟩⟩
    simpa using literalRest_cons rest hc

/-- The escape of a character is not empty and does not start with a quote. -/
theorem head?_jsonEscapeChar (c : Char) :
    ∃ d, (jsonEscapeChar true c).toList.head? = some d ∧ d ≠ '"' := by
  have hhex : ∀ n more, (("\\u" ++ hexPadded n 4).toList ++ more).head? = some '\\' := by simp
  unfold jsonEscapeChar
  split_ifs with hq
  · exact ⟨'\\', by simp, by decide⟩
  · exact ⟨'\\', by simp, by decide⟩
  · exact ⟨'\\', by simp, by decide⟩
  · exact ⟨'\\', by simp, by decide⟩
  · exact ⟨'\\', by simp, by decide⟩
  · exact ⟨'\\', by simp, by decide⟩
  · exact ⟨'\\', by simp, by decide⟩
  · exact ⟨'\\', by simp, by decide⟩
  · exact ⟨'\\', by simp, by decide⟩
  · refine ⟨'\\', ?_, by decide⟩
    rw [String.append_assoc, String.toList_append, hhex]
  · exact ⟨c, by simp, by simpa using hq⟩

/-- The body of a JSON text: the escapes of its characters. -/
def jsonBody (s : List Char) : List Char := s.flatMap fun c => (jsonEscapeChar true c).toList

theorem jsonQuote_toList (s : String) :
    (jsonQuote true s).toList = '"' :: jsonBody s.toList ++ ['"'] := by
  simp [jsonQuote, jsonBody, String.toList_join, List.flatMap, Function.comp_def]

theorem literalRest_jsonBody (s rest : List Char) :
    literalRest '"' false (jsonBody s ++ rest) = literalRest '"' false rest := by
  induction s with
  | nil => rfl
  | cons c s ih => simp [jsonBody, List.append_assoc, literalRest_jsonEscapeChar, ← ih]

theorem length_le_jsonBody (s : List Char) : s.length ≤ (jsonBody s).length := by
  induction s with
  | nil => simp [jsonBody]
  | cons c s ih =>
    obtain ⟨d, hd, -⟩ := head?_jsonEscapeChar c
    have hpos : 0 < (jsonEscapeChar true c).toList.length :=
      List.length_pos_of_ne_nil fun h => by simp [h] at hd
    simp only [jsonBody, List.flatMap_cons, List.length_append, List.length_cons] at ih ⊢
    omega

theorem unescape_jsonBody {s : List Char} (hs : ∀ c ∈ s, c.toNat < 0x10000) {fuel : Nat}
    (hfuel : s.length < fuel) : unescape fuel (jsonBody s) = some s := by
  obtain ⟨f, rfl⟩ : ∃ f, fuel = f + 1 := ⟨fuel - 1, by omega⟩
  induction s generalizing f with
  | nil => simp [jsonBody, unescape]
  | cons c s ih =>
    obtain ⟨g, rfl⟩ : ∃ g, f = g + 1 := ⟨f - 1, by simp at hfuel; omega⟩
    rw [jsonBody, List.flatMap_cons, unescape_jsonEscapeChar (hs c (by simp)), ← jsonBody,
      ih (fun d hd => hs d (by simp [hd])) _ (by simp at hfuel; omega)]
    rfl

/-- A double-quoted JSON text of characters in the basic plane is a literal of that text. -/
theorem readsAs_jsonQuote {s : String} (hne : s ≠ "") (hs : ∀ c ∈ s.toList, c.toNat < 0x10000) :
    ReadsAs (jsonQuote true s) s := by
  intro rest
  obtain ⟨c, cs, hcs⟩ := List.exists_cons_of_ne_nil (by simpa using hne : s.toList ≠ [])
  have hbody : jsonBody s.toList = (jsonEscapeChar true c).toList ++ jsonBody cs := by
    simp [hcs, jsonBody]
  have hne' : jsonBody s.toList ≠ [] := by
    have hlen := length_le_jsonBody s.toList
    have hpos : 0 < s.toList.length := by simp [hcs]
    exact List.ne_nil_of_length_pos (by omega)
  have hhead : ∀ d ∈ (jsonBody s.toList).head?, d ≠ '"' := by
    obtain ⟨e, he, hne⟩ := head?_jsonEscapeChar c
    intro d hd
    rw [hbody, List.head?_append, he] at hd
    simp_all
  have hlit : literalRest '"' false (jsonBody s.toList ++ '"' :: rest) = some rest := by
    rw [literalRest_jsonBody, literalRest_close _ (by decide)]
  have hv := unescape_jsonBody hs (Nat.lt_succ_of_le (length_le_jsonBody s.toList))
  rw [jsonQuote_toList]
  simpa using readText_single (append_ne_quote_quote hhead (fun h => absurd h hne')) hlit hv

end TransitKit.Diagram
