import Mathlib
import TransitKit.Proofs.TextLiterals

/-!
# Tokens of a client configuration

A client's configuration module is two assignments: the base address, and `endpoints` as a
dictionary display with one line per operation. Followed one character at a time, the tokenizer
cuts the module into exactly the tokens of the two statements when no written text holds its
own quote, a backslash or a line break. Each step lemma says what the tokenizer does at one
kind of character; a line is a chain of them, and a display its lines one after another.
-/

namespace TransitKit.Diagram

open Typing

section Steps

variable (n d : Nat) (ind : List Nat) (ts : List SourceToken) (rest : List Char)

theorem lex_blank :
    lexSourceWith (n + 1) (' ' :: rest) ⟨d, false, ind, ts⟩ =
      lexSourceWith n rest ⟨d, false, ind, ts⟩ := by
  simp [lexSourceWith]

/-- A line end outside brackets ends the statement. -/
theorem lex_newline_top :
    lexSourceWith (n + 1) ('\n' :: rest) ⟨0, false, ind, ts⟩ =
      lexSourceWith n rest ⟨0, true, ind, .newline :: ts⟩ := by
  simp [lexSourceWith, afterLineEnd]

/-- A line end inside brackets is a blank. -/
theorem lex_newline_inner :
    lexSourceWith (n + 1) ('\n' :: rest) ⟨d + 1, false, ind, ts⟩ =
      lexSourceWith n rest ⟨d + 1, false, ind, ts⟩ := by
  simp [lexSourceWith, afterLineEnd]

/-- A line that starts at the first column, outside any block, opens no indentation. -/
theorem lex_lineStart {c : Char}
    (hc : c ≠ ' ' ∧ c ≠ '\t' ∧ c ≠ '\x0c' ∧ c ≠ '#' ∧ c ≠ '\n' ∧ c ≠ '\r') :
    lexSourceWith (n + 1) (c :: rest) ⟨0, true, [0], ts⟩ =
      lexSourceWith n (c :: rest) ⟨0, false, [0], ts⟩ := by
  obtain ⟨h1, h2, h3, h4, h5, h6⟩ := hc
  simp [lexSourceWith, indentColumn, h1, h2, h3, h4, h5, h6]

theorem lex_end :
    lexSourceWith (n + 1) [] ⟨0, true, [0], .newline :: ts⟩ =
      some (.newline :: ts).reverse := by
  simp [lexSourceWith, indentColumn, LexState.close]

theorem lex_op_eq :
    lexSourceWith (n + 1) ('=' :: ' ' :: rest) ⟨d, false, ind, ts⟩ =
      lexSourceWith n (' ' :: rest) ⟨d, false, ind, .op "=" :: ts⟩ := by
  simp [lexSourceWith, operators, isNameStart, show "=".length = 1 from rfl]

theorem lex_op_colon :
    lexSourceWith (n + 1) (':' :: ' ' :: rest) ⟨d, false, ind, ts⟩ =
      lexSourceWith n (' ' :: rest) ⟨d, false, ind, .op ":" :: ts⟩ := by
  simp [lexSourceWith, operators, isNameStart, show ":".length = 1 from rfl]

theorem lex_op_comma :
    lexSourceWith (n + 1) (',' :: rest) ⟨d, false, ind, ts⟩ =
      lexSourceWith n rest ⟨d, false, ind, .op "," :: ts⟩ := by
  simp [lexSourceWith, operators, isNameStart, show ",".length = 1 from rfl]

theorem lex_open_brace :
    lexSourceWith (n + 1) ('\x7b' :: rest) ⟨d, false, ind, ts⟩ =
      lexSourceWith n rest ⟨d + 1, false, ind, .op "\x7b" :: ts⟩ := by
  simp [lexSourceWith, operators, isNameStart, show "\x7b".length = 1 from rfl]

theorem lex_close_brace :
    lexSourceWith (n + 1) ('\x7d' :: rest) ⟨d + 1, false, ind, ts⟩ =
      lexSourceWith n rest ⟨d, false, ind, .op "\x7d" :: ts⟩ := by
  simp [lexSourceWith, operators, isNameStart, show "\x7d".length = 1 from rfl]

/-- A text literal of one quote whose body carries its characters as themselves. -/
theorem lex_text {q : Char} (hq : q = '\'' ∨ q = '"') {s : List Char}
    (hs : ∀ c ∈ s, LiteralChar q false c) (hempty : s = [] → ∀ c ∈ rest.head?, c ≠ q) :
    lexSourceWith (n + 1) (q :: (s ++ q :: rest)) ⟨d, false, ind, ts⟩ =
      lexSourceWith n rest ⟨d, false, ind, .text .plain (String.ofList s) :: ts⟩ := by
  have hread : readText "" (q :: (s ++ q :: rest)) =
      some (.text .plain (String.ofList s), rest) := by
    simpa using readText_literalChars (by rcases hq with rfl | rfl <;> decide) hs hempty
  rcases hq with rfl | rfl <;> simp [lexSourceWith, hread]

/-- A name followed by a blank. -/
theorem lex_name {c : Char} {w : List Char} (hc : isNameStart c = true)
    (hw : ∀ d ∈ w, isNameChar d = true) :
    lexSourceWith (n + 1) (c :: (w ++ ' ' :: rest)) ⟨d, false, ind, ts⟩ =
      lexSourceWith n (' ' :: rest) ⟨d, false, ind, .name (String.ofList (c :: w)) :: ts⟩ := by
  have hblank : isNameChar ' ' = false := by decide
  have htake : (w ++ ' ' :: rest).takeWhile isNameChar = w := by
    rw [List.takeWhile_append_of_pos hw]
    simp [hblank]
  have hdrop : (w ++ ' ' :: rest).dropWhile isNameChar = ' ' :: rest := by
    rw [List.dropWhile_append_of_pos hw]
    simp [hblank]
  have hne : ∀ x, isNameStart x = false → (c == x) = false := by
    intro x hx
    rw [beq_eq_false_iff_ne]
    rintro rfl
    simp [hx] at hc
  simp [lexSourceWith, hne ' ' (by decide), hne '\t' (by decide), hne '\x0c' (by decide),
    hne '\n' (by decide), hne '\r' (by decide), hne '#' (by decide), hne '\\' (by decide),
    hne '\'' (by decide), hne '"' (by decide), hc, htake, hdrop]

/-- A text literal of one quote broken by a line end does not tokenize. -/
theorem lex_text_lineBreak {q : Char} (hq : q = '\'' ∨ q = '"') {s : List Char}
    (hs : ∀ c ∈ s, LiteralChar q false c) :
    lexSourceWith (n + 1) (q :: (s ++ '\n' :: rest)) ⟨d, false, ind, ts⟩ = none := by
  have hnq : q ≠ '\\' ∧ q ≠ '\n' := by rcases hq with rfl | rfl <;> decide
  have hpair : ∀ t, s ++ '\n' :: rest ≠ q :: q :: t := by
    intro t h
    rcases s with _ | ⟨a, s⟩
    · exact hnq.2 (List.cons.inj h).1.symm
    · exact (hs a List.mem_cons_self).1 (List.cons.inj h).1
  have hlit : literalRest q false (s ++ '\n' :: rest) = none := by
    rw [literalRest_append_of_literalChar _ hs, literalRest.eq_def]
    simp [hnq.2.symm]
  have hread : readText "" (q :: (s ++ '\n' :: rest)) = none := by
    simp [readText, quotedRest_single hpair, hlit]
  rcases hq with rfl | rfl <;> simp [lexSourceWith, hread]

end Steps

/-! ## The written configuration -/

/-- One operation's entry in the endpoints of a client: its identifier, the template of
its address and the model of its answer. -/
structure Endpoint where
  id : String
  uri : String
  model : String
deriving DecidableEq, Repr

namespace Endpoint

/-- The line of the endpoints display that describes an operation. -/
def line (e : Endpoint) : String :=
  "    '" ++ e.id ++ "': \x7b'uri': '" ++ e.uri ++ "', 'model': '" ++ e.model ++ "'\x7d,\n"

/-- The tokens of an entry's value: a display of the address and the model. -/
def valueTokens (e : Endpoint) : List SourceToken :=
  [.op "\x7b", .text .plain "uri", .op ":", .text .plain e.uri, .op ",", .text .plain "model",
    .op ":", .text .plain e.model, .op "\x7d"]

/-- The tokens of an entry's line. -/
def tokens (e : Endpoint) : List SourceToken :=
  .text .plain e.id :: .op ":" :: e.valueTokens ++ [.op ","]

/-- An entry whose texts are written as they are: no quote, backslash or line break. -/
def Plain (e : Endpoint) : Prop :=
  ∀ c ∈ e.id.toList ++ e.uri.toList ++ e.model.toList, LiteralChar '\'' false c

instance : DecidablePred Plain := fun _ =>
  inferInstanceAs (Decidable (∀ c ∈ _, _ ∧ _ ∧ _))

theorem line_toList (e : Endpoint) : e.line.toList =
    ' ' :: ' ' :: ' ' :: ' ' :: '\'' :: (e.id.toList ++ '\'' :: ':' :: ' ' :: '\x7b' ::
      '\'' :: ("uri".toList ++ '\'' :: ':' :: ' ' ::
      '\'' :: (e.uri.toList ++ '\'' :: ',' :: ' ' ::
      '\'' :: ("model".toList ++ '\'' :: ':' :: ' ' ::
      '\'' :: (e.model.toList ++ '\'' :: '\x7d' :: ',' :: '\n' :: []))))) := by
  unfold line
  simp only [String.toList_append, List.append_assoc]
  rfl

theorem length_line (e : Endpoint) : 34 ≤ e.line.length := by
  rw [← String.length_toList, line_toList]
  simp
  omega

end Endpoint

/-- The text of a client's configuration module with a base address and endpoints. -/
def configText (baseUrl : String) (es : List Endpoint) : String :=
  "base_url = \"" ++ baseUrl ++ "\"\n" ++ "endpoints = \x7b\n" ++
    String.join (es.map Endpoint.line) ++ "\x7d\n"

/-- The tokens of the endpoints display. -/
def displayTokens (es : List Endpoint) : List SourceToken :=
  .op "\x7b" :: es.flatMap Endpoint.tokens ++ [.op "\x7d"]

/-- The tokens of a client's configuration module. -/
def configTokens (baseUrl : String) (es : List Endpoint) : List SourceToken :=
  [.name "base_url", .op "=", .text .plain baseUrl, .newline, .name "endpoints", .op "="] ++
    displayTokens es ++ [.newline]

theorem configText_toList (baseUrl : String) (es : List Endpoint) :
    (configText baseUrl es).toList =
      'b' :: ("ase_url".toList ++ ' ' :: '=' :: ' ' :: '"' :: (baseUrl.toList ++ '"' :: '\n' ::
      'e' :: ("ndpoints".toList ++ ' ' :: '=' :: ' ' :: '\x7b' :: '\n' ::
      ((String.join (es.map Endpoint.line)).toList ++ ['\x7d', '\n'])))) := by
  unfold configText
  simp only [String.toList_append, List.append_assoc]
  rfl

theorem length_join_lines (es : List Endpoint) :
    34 * es.length ≤ (String.join (es.map Endpoint.line)).length := by
  induction es with
  | nil => simp
  | cons e es ih =>
    have := e.length_line
    simp only [List.map_cons, String.join_cons, String.length_append, List.length_cons]
    omega

theorem length_configText (baseUrl : String) (es : List Endpoint) :
    30 + 34 * es.length ≤ (configText baseUrl es).length := by
  have := length_join_lines es
  rw [← String.length_toList, configText_toList]
  simp only [List.length_cons, List.length_append, String.length_toList,
    show "ase_url".length = 7 from rfl, show "ndpoints".length = 8 from rfl]
  omega

/-! ## Tokenizing the configuration -/

theorem lex_endpointLine {e : Endpoint} (he : e.Plain) (n : Nat) (ts : List SourceToken)
    (rest : List Char) :
    lexSourceWith (n + 21) (e.line.toList ++ rest) ⟨1, false, [0], ts⟩ =
      lexSourceWith n rest ⟨1, false, [0], e.tokens.reverse ++ ts⟩ := by
  have hid : ∀ c ∈ e.id.toList, LiteralChar '\'' false c := fun c hc => he c (by simp [hc])
  have huri : ∀ c ∈ e.uri.toList, LiteralChar '\'' false c := fun c hc => he c (by simp [hc])
  have hmodel : ∀ c ∈ e.model.toList, LiteralChar '\'' false c :=
    fun c hc => he c (by simp [hc])
  have hkey : ∀ w : String, w = "uri" ∨ w = "model" →
      ∀ c ∈ w.toList, LiteralChar '\'' false c := by
    rintro w (rfl | rfl) <;> simp [LiteralChar]
  rw [Endpoint.line_toList]
  simp only [List.cons_append, List.append_assoc, List.nil_append]
  rw [lex_blank, lex_blank, lex_blank, lex_blank, lex_text _ _ _ _ _ (.inl rfl) hid (by simp),
    lex_op_colon, lex_blank, lex_open_brace,
    lex_text _ _ _ _ _ (.inl rfl) (hkey _ (.inl rfl)) (by simp), lex_op_colon, lex_blank,
    lex_text _ _ _ _ _ (.inl rfl) huri (by simp), lex_op_comma, lex_blank,
    lex_text _ _ _ _ _ (.inl rfl) (hkey _ (.inr rfl)) (by simp), lex_op_colon, lex_blank,
    lex_text _ _ _ _ _ (.inl rfl) hmodel (by simp), lex_close_brace, lex_op_comma,
    lex_newline_inner]
  simp [Endpoint.tokens, Endpoint.valueTokens]

theorem lex_endpointLines {es : List Endpoint} (hes : ∀ e ∈ es, e.Plain) (n : Nat)
    (ts : List SourceToken) (rest : List Char) :
    lexSourceWith (n + 21 * es.length) ((String.join (es.map Endpoint.line)).toList ++ rest)
        ⟨1, false, [0], ts⟩ =
      lexSourceWith n rest ⟨1, false, [0], (es.flatMap Endpoint.tokens).reverse ++ ts⟩ := by
  induction es generalizing ts with
  | nil => simp
  | cons e es ih =>
    rw [List.map_cons, String.join_cons, String.toList_append, List.append_assoc,
      List.length_cons, show n + 21 * (es.length + 1) = (n + 21 * es.length) + 21 by ring,
      lex_endpointLine (hes e (by simp)), ih (fun e' he' => hes e' (by simp [he']))]
    simp

theorem lex_configText {baseUrl : String} {es : List Endpoint}
    (hbase : ∀ c ∈ baseUrl.toList, LiteralChar '"' false c) (hes : ∀ e ∈ es, e.Plain)
    (n : Nat) :
    lexSourceWith (n + 18 + 21 * es.length) (configText baseUrl es).toList {} =
      some (configTokens baseUrl es) := by
  have hbaseName : ∀ d ∈ "ase_url".toList, isNameChar d = true := by simp [isNameChar]
  have hendName : ∀ d ∈ "ndpoints".toList, isNameChar d = true := by simp [isNameChar]
  rw [configText_toList, show n + 18 + 21 * es.length = (n + 4) + 21 * es.length + 14 by ring]
  rw [lex_lineStart _ _ _ (by decide), lex_name _ _ _ _ _ (by decide) hbaseName, lex_blank,
    lex_op_eq, lex_blank, lex_text _ _ _ _ _ (.inr rfl) hbase (by simp), lex_newline_top,
    lex_lineStart _ _ _ (by decide), lex_name _ _ _ _ _ (by decide) hendName, lex_blank,
    lex_op_eq, lex_blank, lex_open_brace, lex_newline_inner, lex_endpointLines hes]
  rw [lex_close_brace, lex_newline_top, lex_end]
  simp [configTokens, displayTokens]

/-- A configuration whose first endpoint's identifier holds a line break, after characters
that its literal carries as themselves, does not tokenize. -/
theorem lex_configText_lineBreak {baseUrl : String} {e : Endpoint} {es : List Endpoint}
    {s t : List Char} (hbase : ∀ c ∈ baseUrl.toList, LiteralChar '"' false c)
    (hs : ∀ c ∈ s, LiteralChar '\'' false c) (hid : e.id.toList = s ++ '\n' :: t) (n : Nat) :
    lexSourceWith (n + 19) (configText baseUrl (e :: es)).toList {} = none := by
  have hbaseName : ∀ d ∈ "ase_url".toList, isNameChar d = true := by simp [isNameChar]
  have hendName : ∀ d ∈ "ndpoints".toList, isNameChar d = true := by simp [isNameChar]
  rw [configText_toList, List.map_cons, String.join_cons, String.toList_append,
    Endpoint.line_toList, hid]
  simp only [List.cons_append, List.append_assoc]
  rw [lex_lineStart _ _ _ (by decide), lex_name _ _ _ _ _ (by decide) hbaseName, lex_blank,
    lex_op_eq, lex_blank, lex_text _ _ _ _ _ (.inr rfl) hbase (by simp), lex_newline_top,
    lex_lineStart _ _ _ (by decide), lex_name _ _ _ _ _ (by decide) hendName, lex_blank,
    lex_op_eq, lex_blank, lex_open_brace, lex_newline_inner, lex_blank, lex_blank, lex_blank,
    lex_blank, lex_text_lineBreak _ _ _ _ _ (.inl rfl) hs]

/-- A configuration whose base address has no double quote, backslash or line break, and
whose endpoints are plain, is cut into the tokens of its two statements. -/
theorem lexSource_configText {baseUrl : String} {es : List Endpoint}
    (hbase : ∀ c ∈ baseUrl.toList, LiteralChar '"' false c) (hes : ∀ e ∈ es, e.Plain) :
    lexSource (configText baseUrl es) = some (configTokens baseUrl es) := by
  have hlen := length_configText baseUrl es
  obtain ⟨n, hn⟩ : ∃ n, 2 * (configText baseUrl es).length + 2 = n + 18 + 21 * es.length :=
    ⟨2 * (configText baseUrl es).length + 2 - (18 + 21 * es.length), by omega⟩
  rw [lexSource, hn, lex_configText hbase hes]

theorem lexSource_configText_lineBreak {baseUrl : String} {e : Endpoint} {es : List Endpoint}
    {s t : List Char} (hbase : ∀ c ∈ baseUrl.toList, LiteralChar '"' false c)
    (hs : ∀ c ∈ s, LiteralChar '\'' false c) (hid : e.id.toList = s ++ '\n' :: t) :
    lexSource (configText baseUrl (e :: es)) = none := by
  have hlen := length_configText baseUrl (e :: es)
  obtain ⟨n, hn⟩ : ∃ n, 2 * (configText baseUrl (e :: es)).length + 2 = n + 19 :=
    ⟨2 * (configText baseUrl (e :: es)).length + 2 - 19, by omega⟩
  rw [lexSource, hn, lex_configText_lineBreak hbase hs hid]

end TransitKit.Diagram
