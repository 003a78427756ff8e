import Mathlib
import TransitKit.Typing.Reading
import TransitKit.Proofs.EnumModules

/-!
# Rendered annotation expressions read back

An annotation expression rendered with blanks around `|` and after each comma reads back as
itself when its names are identifiers, its texts plain, its subscriptions non-empty and the
right side of each `|` an operand. The proof goes through the expression's tokens: the lexer
turns the text into them a character at a time, and the parser, whose fuel the tokens bound,
turns them back into the expression.
-/

namespace TransitKit.Typing

open Codegen (isIdentifier isIdentifier_iff isPlainChar isPlainText)

namespace AnnExpr

mutual

/-- The tokens of an expression. -/
def toks : AnnExpr → List AnnToken
  | .name n => [.name n]
  | .text s => [.text s]
  | .subscript n args => .name n :: .openBracket :: argToks args ++ [.closeBracket]
  | .bar a b => toks a ++ .bar :: toks b

/-- The tokens of expressions, between commas. -/
def argToks : List AnnExpr → List AnnToken
  | [] => []
  | [e] => toks e
  | e :: es => toks e ++ .comma :: argToks es

end

/-- The number of `|` signs that join the operands of an expression at its top. -/
def bars : AnnExpr → Nat
  | .bar a _ => a.bars + 1
  | _ => 0

/-- Whether an expression is an operand: anything but two expressions joined by `|`. -/
def isOperand : AnnExpr → Bool
  | .bar _ _ => false
  | _ => true

/-- An expression whose text reads back as it: names are identifiers, texts hold no quote,
backslash or line break, subscriptions have arguments, and the right side of `|` is an
operand. -/
inductive Readable : AnnExpr → Prop
  | name {n : String} : isIdentifier n = true → Readable (.name n)
  | text {s : String} : isPlainText s = true → Readable (.text s)
  | subscript {n : String} {args : List AnnExpr} : isIdentifier n = true → args ≠ [] →
      (∀ e ∈ args, Readable e) → Readable (.subscript n args)
  | bar {a b : AnnExpr} : Readable a → Readable b → b.isOperand = true → Readable (.bar a b)

theorem length_toks_pos : ∀ e : AnnExpr, 0 < e.toks.length
  | .name _ | .text _ => by simp [toks]
  | .subscript _ _ => by simp [toks]
  | .bar a _ => by
    have := length_toks_pos a
    simp only [toks, List.length_append, List.length_cons]
    omega

/-- Each `|` at the top sits between two operands, each of a token at least. -/
theorem two_mul_bars_lt_length_toks : ∀ e : AnnExpr, 2 * e.bars < e.toks.length
  | .name _ | .text _ => by simp [toks, bars]
  | .subscript _ _ => by simp [toks, bars]
  | .bar a b => by
    have ha := two_mul_bars_lt_length_toks a
    have hb := length_toks_pos b
    simp only [toks, bars, List.length_append, List.length_cons]
    omega

end AnnExpr

/-! ## The lexer -/

theorem lexFrom_between_cons {c : Char} {ts : List AnnToken} {st : LexState}
    (h : startAt c = some (ts, st)) (rest : List Char) :
    lexFrom .between (c :: rest) = (lexFrom st rest).map (ts ++ ·) := by
  rw [lexFrom, h]

theorem lexFrom_space (rest : List Char) :
    lexFrom .between (' ' :: rest) = lexFrom .between rest := by
  rw [lexFrom_between_cons (by rfl)]
  simp

theorem lexFrom_punct {c : Char} {t : AnnToken} (h : startAt c = some ([t], .between))
    (rest : List Char) : lexFrom .between (c :: rest) = (lexFrom .between rest).map (t :: ·) := by
  rw [lexFrom_between_cons h]
  rfl

theorem startAt_of_isNameStart {c : Char} (h : isNameStart c = true) :
    startAt c = some ([], .inName [c]) := by
  have hne : ∀ d ∈ [' ', '[', ']', ',', '|', quoteMark], c ≠ d := by
    intro d hd hcd
    subst hcd
    revert h
    simp only [List.mem_cons, List.not_mem_nil, or_false] at hd
    rcases hd with rfl | rfl | rfl | rfl | rfl | rfl <;> decide
  simp only [List.mem_cons, List.not_mem_nil, or_false, forall_eq_or_imp, forall_eq] at hne
  obtain ⟨h1, h2, h3, h4, h5, h6⟩ := hne
  simp [startAt, h1, h2, h3, h4, h5, h6, h]

theorem lexFrom_inName_append {chars cs : List Char} (rest : List Char)
    (h : ∀ c ∈ cs, isNameChar c = true) :
    lexFrom (.inName chars) (cs ++ rest) = lexFrom (.inName (chars ++ cs)) rest := by
  induction cs generalizing chars with
  | nil => simp
  | cons c cs ih =>
    rw [List.cons_append, lexFrom.eq_5, if_pos (h c List.mem_cons_self),
      ih fun d hd => h d (List.mem_cons_of_mem c hd)]
    simp

/-- A name ends where a character that cannot continue it, or the text, ends. -/
theorem lexFrom_inName_end {chars rest : List Char} (h : ∀ d ∈ rest.head?, isNameChar d = false) :
    lexFrom (.inName chars) rest =
      (lexFrom .between rest).map (.name (String.ofList chars) :: ·) := by
  cases rest with
  | nil => simp [lexFrom]
  | cons d ds =>
    rw [lexFrom.eq_5, if_neg (by simp [h d rfl]), lexFrom.eq_4]
    split <;> simp [Function.comp_def]

theorem lexFrom_inText_append {chars cs : List Char} (rest : List Char)
    (h : ∀ c ∈ cs, isPlainChar c = true) :
    lexFrom (.inText chars) (cs ++ quoteMark :: rest) =
      (lexFrom .between rest).map (.text (String.ofList (chars ++ cs)) :: ·) := by
  induction cs generalizing chars with
  | nil => simp [lexFrom]
  | cons c cs ih =>
    have hc := h c List.mem_cons_self
    have hq : c ≠ quoteMark := by
      rintro rfl
      exact absurd hc (by decide)
    simp only [isPlainChar, Bool.and_eq_true, bne_iff_ne, ne_eq] at hc
    rw [List.cons_append, lexFrom.eq_6, if_neg hq, if_neg (by simp [hc.1.1.2, hc.1.2]),
      ih fun d hd => h d (List.mem_cons_of_mem c hd)]
    simp

theorem lexFrom_name {n : String} (hn : isIdentifier n = true) {rest : List Char}
    (h : ∀ d ∈ rest.head?, isNameChar d = false) :
    lexFrom .between (n.toList ++ rest) = (lexFrom .between rest).map (.name n :: ·) := by
  obtain ⟨c, cs, hcs, hstart, hrest⟩ := isIdentifier_iff.1 hn
  rw [hcs, List.cons_append, lexFrom_between_cons (startAt_of_isNameStart hstart),
    lexFrom_inName_append rest hrest, lexFrom_inName_end h]
  simp [← hcs, Function.comp_def]

theorem lexFrom_text {s : String} (hs : isPlainText s = true) (rest : List Char) :
    lexFrom .between (("'" ++ s ++ "'").toList ++ rest) =
      (lexFrom .between rest).map (.text s :: ·) := by
  have hq : startAt quoteMark = some ([], .inText []) := by rfl
  have hplain : ∀ c ∈ s.toList, isPlainChar c = true := List.all_eq_true.mp hs
  have hsplit : ("'" ++ s ++ "'").toList ++ rest = quoteMark :: (s.toList ++ quoteMark :: rest) := by
    simp [String.toList_append]
    rfl
  rw [hsplit, lexFrom_between_cons hq, lexFrom_inText_append rest hplain]
  simp [Function.comp_def]

namespace AnnExpr

/-- A character that no name may continue. -/
abbrev Ends (rest : List Char) : Prop := ∀ d ∈ rest.head?, isNameChar d = false

theorem ends_cons {c : Char} (h : isNameChar c = false) (cs : List Char) : Ends (c :: cs) := by
  intro d hd
  rw [List.head?_cons, Option.mem_some_iff] at hd
  rw [← hd]
  exact h

theorem argToks_singleton (e : AnnExpr) : argToks [e] = e.toks := rfl

theorem argToks_cons_cons (e e' : AnnExpr) (es : List AnnExpr) :
    argToks (e :: e' :: es) = e.toks ++ .comma :: argToks (e' :: es) := rfl

/-- The lexer reads the text of expressions between commas as their tokens, given that it
reads the text of each. -/
theorem lexFrom_renderArgs {args : List AnnExpr} (hne : args ≠ [])
    (h : ∀ e ∈ args, ∀ rest, Ends rest →
      lexFrom .between (e.render.toList ++ rest) = (lexFrom .between rest).map (e.toks ++ ·)) :
    ∀ rest, Ends rest → lexFrom .between ((renderArgs args).toList ++ rest) =
      (lexFrom .between rest).map (argToks args ++ ·) := by
  induction args with
  | nil => exact absurd rfl hne
  | cons e es ih =>
    intro rest hr
    cases es with
    | nil => simpa [renderArgs, argToks] using h e List.mem_cons_self rest hr
    | cons e' es =>
      have hsplit : (renderArgs (e :: e' :: es)).toList ++ rest =
          e.render.toList ++ (',' :: ' ' :: ((renderArgs (e' :: es)).toList ++ rest)) := by
        simp [renderArgs, String.toList_append]
      rw [hsplit, h e List.mem_cons_self _ (ends_cons (by decide) _), lexFrom_punct (by rfl),
        lexFrom_space,
        ih (List.cons_ne_nil _ _) (fun x hx => h x (List.mem_cons_of_mem e hx)) rest hr]
      simp [argToks, Function.comp_def]

/-- The lexer reads the text of a readable expression as its tokens, up to a character that
cannot continue a name. -/
theorem lexFrom_render {e : AnnExpr} (he : e.Readable) :
    ∀ rest, Ends rest →
      lexFrom .between (e.render.toList ++ rest) = (lexFrom .between rest).map (e.toks ++ ·) := by
  induction he with
  | name hn =>
    intro rest hr
    simpa [render, toks] using lexFrom_name hn hr
  | text hs =>
    intro rest _
    simpa [render, toks] using lexFrom_text hs rest
  | @subscript n args hn hne _ ih =>
    intro rest hr
    have hsplit : (render (.subscript n args)).toList ++ rest =
        n.toList ++ ('[' :: ((renderArgs args).toList ++ (']' :: rest))) := by
      simp [render, String.toList_append]
    rw [hsplit, lexFrom_name hn (ends_cons (by decide) _), lexFrom_punct (by rfl),
      lexFrom_renderArgs hne ih _ (ends_cons (by decide) _), lexFrom_punct (by rfl)]
    simp [toks, Function.comp_def]
  | @bar a b _ _ _ iha ihb =>
    intro rest hr
    have hsplit : (render (.bar a b)).toList ++ rest =
        a.render.toList ++ (' ' :: '|' :: ' ' :: (b.render.toList ++ rest)) := by
      simp [render, String.toList_append]
    rw [hsplit, iha _ (ends_cons (by decide) _), lexFrom_space, lexFrom_punct (by rfl), lexFrom_space,
      ihb rest hr]
    simp [toks, Function.comp_def]

/-! ## The parser -/

/-- The parser stops reading operands before anything but `|`. -/
theorem readBars_stop (fuel : Nat) (a : AnnExpr) {rest : List AnnToken}
    (h : rest.head? ≠ some .bar) : readBars (fuel + 1) a rest = some (a, rest) := by
  rw [readBars.eq_3]
  rintro ts rfl
  exact h rfl

theorem readBars_bar {fuel : Nat} {a b : AnnExpr} {ts rest : List AnnToken}
    (h : readOperand fuel ts = some (b, rest)) :
    readBars (fuel + 1) a (.bar :: ts) = readBars fuel (.bar a b) rest := by
  rw [readBars, h]

theorem readOperand_name (fuel : Nat) (n : String) {rest : List AnnToken}
    (h : rest.head? ≠ some .openBracket) :
    readOperand (fuel + 1) (.name n :: rest) = some (.name n, rest) := by
  rw [readOperand.eq_3]
  rintro ts rfl
  exact h rfl

/-- What `readExpr` needs of the tokens after an expression: neither `[` nor `|`. -/
abbrev Closes (rest : List AnnToken) : Prop :=
  rest.head? ≠ some .openBracket ∧ rest.head? ≠ some .bar

/-- The parser reads the tokens of expressions between commas, given that it reads the
tokens of each. -/
theorem readArgs_argToks {args : List AnnExpr} (hne : args ≠ [])
    (h : ∀ e ∈ args, ∀ fuel rest, e.toks.length + 1 ≤ fuel → Closes rest →
      readExpr fuel (e.toks ++ rest) = some (e, rest)) :
    ∀ fuel rest, (argToks args).length + 2 ≤ fuel →
      readArgs fuel (argToks args ++ .closeBracket :: rest) = some (args, .closeBracket :: rest) := by
  induction args with
  | nil => exact absurd rfl hne
  | cons e es ih =>
    intro fuel rest hf
    obtain ⟨fuel, rfl⟩ : ∃ g, fuel = g + 1 := ⟨fuel - 1, by omega⟩
    cases es with
    | nil =>
      rw [argToks_singleton] at hf ⊢
      rw [readArgs, h e List.mem_cons_self fuel (.closeBracket :: rest) (by omega) (by simp [Closes])]
    | cons e' es =>
      have hlen : (argToks (e :: e' :: es)).length =
          e.toks.length + 1 + (argToks (e' :: es)).length := by
        simp [argToks_cons_cons]
        omega
      have he := h e List.mem_cons_self fuel (.comma :: (argToks (e' :: es) ++ .closeBracket :: rest))
        (by omega) (by simp [Closes])
      have hes := ih (List.cons_ne_nil _ _) (fun x hx => h x (List.mem_cons_of_mem e hx)) fuel rest
        (by omega)
      rw [argToks_cons_cons, List.append_assoc, List.cons_append, readArgs, he]
      simp only [hes]

/-- Before anything but `[`, an operand that `readOperand` reads is read by `readExpr` as
an operand, and `readBars` goes on after it. -/
theorem readExpr_of_readOperand {e : AnnExpr} (hop : e.isOperand = true)
    (hread : ∀ fuel rest, e.toks.length ≤ fuel → rest.head? ≠ some .openBracket →
      readOperand fuel (e.toks ++ rest) = some (e, rest))
    (fuel : Nat) (rest : List AnnToken) (hf : e.toks.length + 1 ≤ fuel)
    (hr : rest.head? ≠ some .openBracket) :
    readExpr fuel (e.toks ++ rest) = readBars (fuel - 1 - e.bars) e rest := by
  obtain ⟨fuel, rfl⟩ : ∃ g, fuel = g + 1 := ⟨fuel - 1, by omega⟩
  have hbars : e.bars = 0 := by cases e <;> simp_all [isOperand, bars]
  rw [readExpr, hread fuel rest (by omega) hr, hbars]
  rfl

/-- The parser reads an operand and the operands after it joined by `|`: after the tokens
of a readable expression it stands in `readBars` with the expression read, one unit of fuel
spent on each `|`. An operand is read by `readOperand` on its own. -/
theorem readExpr_toks_bars {e : AnnExpr} (he : e.Readable) :
    (e.isOperand = true → ∀ fuel rest, e.toks.length ≤ fuel → rest.head? ≠ some .openBracket →
      readOperand fuel (e.toks ++ rest) = some (e, rest)) ∧
    (∀ fuel rest, e.toks.length + 1 ≤ fuel → rest.head? ≠ some .openBracket →
      readExpr fuel (e.toks ++ rest) = readBars (fuel - 1 - e.bars) e rest) := by
  induction he with
  | @name n _ =>
    have hop : ∀ fuel rest, (AnnExpr.name n).toks.length ≤ fuel →
        rest.head? ≠ some .openBracket →
        readOperand fuel ((AnnExpr.name n).toks ++ rest) = some (.name n, rest) := by
      intro fuel rest hf hr
      obtain ⟨fuel, rfl⟩ : ∃ g, fuel = g + 1 := ⟨fuel - 1, by simp [toks] at hf; omega⟩
      exact readOperand_name fuel n hr
    exact ⟨fun _ => hop, readExpr_of_readOperand rfl hop⟩
  | @text s _ =>
    have hop : ∀ fuel rest, (AnnExpr.text s).toks.length ≤ fuel →
        rest.head? ≠ some .openBracket →
        readOperand fuel ((AnnExpr.text s).toks ++ rest) = some (.text s, rest) := by
      intro fuel rest hf _
      obtain ⟨fuel, rfl⟩ : ∃ g, fuel = g + 1 := ⟨fuel - 1, by simp [toks] at hf; omega⟩
      rfl
    exact ⟨fun _ => hop, readExpr_of_readOperand rfl hop⟩
  | @subscript n args _ hne _ ih =>
    have hargs : ∀ e ∈ args, ∀ fuel rest, e.toks.length + 1 ≤ fuel → Closes rest →
        readExpr fuel (e.toks ++ rest) = some (e, rest) := by
      intro e he fuel rest hf hr
      have hb := two_mul_bars_lt_length_toks e
      obtain ⟨g, hg⟩ : ∃ g, fuel - 1 - e.bars = g + 1 := ⟨fuel - 2 - e.bars, by omega⟩
      rw [(ih e he).2 fuel rest hf hr.1, hg, readBars_stop g e hr.2]
    have hop : ∀ fuel rest, (AnnExpr.subscript n args).toks.length ≤ fuel →
        rest.head? ≠ some .openBracket →
        readOperand fuel ((AnnExpr.subscript n args).toks ++ rest) = some (.subscript n args, rest) := by
      intro fuel rest hf _
      simp only [toks, List.length_cons, List.length_append] at hf
      obtain ⟨fuel, rfl⟩ : ∃ g, fuel = g + 1 := ⟨fuel - 1, by omega⟩
      simp only [toks, List.cons_append, List.append_assoc, List.nil_append]
      rw [readOperand, readArgs_argToks hne hargs fuel rest (by omega)]
    exact ⟨fun _ => hop, readExpr_of_readOperand rfl hop⟩
  | @bar a b _ _ hb iha ihb =>
    refine ⟨fun h => absurd h (by simp [isOperand]), ?_⟩
    intro fuel rest hf hr
    have hlen : (AnnExpr.bar a b).toks.length = a.toks.length + 1 + b.toks.length := by
      simp [toks]
      omega
    have hba := two_mul_bars_lt_length_toks a
    obtain ⟨g, hg⟩ : ∃ g, fuel - 1 - a.bars = g + 1 := ⟨fuel - 2 - a.bars, by omega⟩
    have hleft := iha.2 fuel (.bar :: (b.toks ++ rest)) (by omega) (by simp)
    simp only [toks, List.append_assoc, List.cons_append]
    rw [hleft, hg, readBars_bar (ihb.1 hb g rest (by omega) hr)]
    congr 1
    simp only [bars]
    omega

/-- The parser reads the tokens of a readable expression back, before anything but `[`
and `|`, with fuel for each token and one more. -/
theorem readExpr_toks {e : AnnExpr} (he : e.Readable) (fuel : Nat) (rest : List AnnToken)
    (hf : e.toks.length + 1 ≤ fuel) (hr : Closes rest) :
    readExpr fuel (e.toks ++ rest) = some (e, rest) := by
  have hb := two_mul_bars_lt_length_toks e
  obtain ⟨g, hg⟩ : ∃ g, fuel - 1 - e.bars = g + 1 := ⟨fuel - 2 - e.bars, by omega⟩
  rw [(readExpr_toks_bars he).2 fuel rest hf hr.1, hg, readBars_stop g e hr.2]

/-- The text of a readable expression reads back as the expression. -/
theorem readAnnotationText_render {e : AnnExpr} (he : e.Readable) : readAnnotationText e.render = some e := by
  have hlex : lexAnnotationText e.render = some e.toks := by
    simpa [lexAnnotationText, lexFrom] using lexFrom_render he [] (by simp [Ends])
  have hread := readExpr_toks he (e.toks.length + 1) [] le_rfl (by simp [Closes])
  rw [List.append_nil] at hread
  simp only [readAnnotationText, hlex, hread]

end AnnExpr

end TransitKit.Typing
