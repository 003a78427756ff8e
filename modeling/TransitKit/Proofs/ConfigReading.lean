import Mathlib
import TransitKit.Proofs.ConfigTokens
import TransitKit.Proofs.MappingDisplays
import TransitKit.Diagram.Mermaid

/-!
# Reading a client configuration

The source reader cuts a configuration module into tokens, reads the statements line by line
and takes the models from the `endpoints` display. Through the tokens of a written
configuration, the display has one entry per endpoint naming its address and model, both sides
of each assignment are expressions, and the module reads as its two assignments naming exactly
the endpoints' models; a client whose module is the only one read returns them sorted.
-/

namespace TransitKit.Diagram

open Typing

namespace SourceToken

variable (k : TextKind) (v n o p : String)

@[simp] theorem op_beq_op : (op o == op p) = (o == p) := rfl
@[simp] theorem name_beq_name : (name n == name p) = (n == p) := rfl
@[simp] theorem text_beq_op : (text k v == op o) = false := rfl
@[simp] theorem name_beq_op : (name n == op o) = false := rfl
@[simp] theorem text_beq_newline : (text k v == newline) = false := rfl
@[simp] theorem op_beq_newline : (op o == newline) = false := rfl
@[simp] theorem name_beq_newline : (name n == newline) = false := rfl
@[simp] theorem text_beq_indent : (text k v == indent) = false := rfl
@[simp] theorem op_beq_indent : (op o == indent) = false := rfl
@[simp] theorem name_beq_indent : (name n == indent) = false := rfl
@[simp] theorem text_beq_dedent : (text k v == dedent) = false := rfl
@[simp] theorem op_beq_dedent : (op o == dedent) = false := rfl
@[simp] theorem name_beq_dedent : (name n == dedent) = false := rfl
@[simp] theorem newline_beq_newline : (newline == newline) = true := rfl
@[simp] theorem opens_text : (text k v).opens = 0 := rfl
@[simp] theorem opens_name : (name n).opens = 0 := rfl

end SourceToken

/-- One step of `splitTop`: a separator outside brackets closes the current part. -/
def splitStep (isSep : SourceToken → Bool)
    (acc : List (List SourceToken) × List SourceToken × Int) (t : SourceToken) : List (List SourceToken) × List SourceToken × Int :=
  if acc.2.2 == 0 && isSep t then (acc.2.1.reverse :: acc.1, [], acc.2.2)
  else (acc.1, t :: acc.2.1, acc.2.2 + t.opens)

theorem splitTop_eq (isSep : SourceToken → Bool) (ts : List SourceToken) :
    splitTop isSep ts =
      let r := ts.foldl (splitStep isSep) ([], [], 0)
      (r.2.1.reverse :: r.1).reverse := rfl

theorem foldl_splitStep_of_noSep {isSep : SourceToken → Bool} {ts : List SourceToken}
    (h : ∀ t ∈ ts, isSep t = false) (parts : List (List SourceToken)) (cur : List SourceToken)
    (d : Int) :
    ts.foldl (splitStep isSep) (parts, cur, d) =
      (parts, ts.reverse ++ cur, d + (ts.map SourceToken.opens).sum) := by
  induction ts generalizing cur d with
  | nil => simp
  | cons t ts ih =>
    rw [List.foldl_cons, splitStep]
    simp only [h t List.mem_cons_self, Bool.and_false, Bool.false_eq_true, if_false]
    rw [ih (fun t' ht' => h t' (List.mem_cons_of_mem t ht'))]
    simp [add_assoc]

theorem splitTop_of_noSep {isSep : SourceToken → Bool} {ts : List SourceToken}
    (h : ∀ t ∈ ts, isSep t = false) : splitTop isSep ts = [ts] := by
  simp [splitTop_eq, foldl_splitStep_of_noSep h]

theorem Endpoint.foldl_splitStep_tokens (e : Endpoint) (parts : List (List SourceToken)) :
    e.tokens.foldl (splitStep (· == .op ",")) (parts, [], 0) =
      ((.text .plain e.id :: .op ":" :: e.valueTokens) :: parts, [], 0) := by
  simp [Endpoint.tokens, Endpoint.valueTokens, splitStep, SourceToken.opens]


/-- The tokens of one entry of the endpoints display, without the comma after it. -/
def Endpoint.entryTokens (e : Endpoint) : List SourceToken :=
  .text .plain e.id :: .op ":" :: e.valueTokens

theorem foldl_splitStep_entries (es : List Endpoint) (parts : List (List SourceToken)) :
    (es.flatMap Endpoint.tokens).foldl (splitStep (· == .op ",")) (parts, [], 0) =
      ((es.map Endpoint.entryTokens).reverse ++ parts, [], 0) := by
  induction es generalizing parts with
  | nil => simp
  | cons e es ih =>
    rw [List.flatMap_cons, List.foldl_append, Endpoint.foldl_splitStep_tokens, ih]
    simp [Endpoint.entryTokens]

theorem splitTop_entries (es : List Endpoint) :
    splitTop (· == .op ",") (es.flatMap Endpoint.tokens) =
      es.map Endpoint.entryTokens ++ [[]] := by
  simp [splitTop_eq, foldl_splitStep_entries]

/-- One step of the depths `closesAtEnd` records. -/
def depthStep (acc : List Int) (t : SourceToken) : List Int := (acc.headD 0 + t.opens) :: acc

theorem closesAtEnd_eq (ts : List SourceToken) :
    closesAtEnd ts =
      match (ts.foldl depthStep []).reverse with
      | [] => false
      | ds => (ds.dropLast).all (· > 0) && ds.getLast? == some 0 := rfl

/-- Inside the endpoints display every depth is positive, and each entry ends at depth
one. -/
theorem foldl_depthStep_entries (es : List Endpoint) (rest : List Int) :
    ∃ ds : List Int,
      (es.flatMap Endpoint.tokens).foldl depthStep (1 :: rest) = 1 :: (ds ++ rest) ∧
        ∀ d ∈ ds, 0 < d := by
  induction es generalizing rest with
  | nil => exact ⟨[], by simp, by simp⟩
  | cons e es ih =>
    obtain ⟨ds, hds, hpos⟩ :=
      ih (1 :: 2 :: 2 :: 2 :: 2 :: 2 :: 2 :: 2 :: 2 :: 1 :: 1 :: 1 :: rest)
    refine ⟨ds ++ [1, 2, 2, 2, 2, 2, 2, 2, 2, 1, 1, 1], ?_, ?_⟩
    · rw [List.flatMap_cons, List.foldl_append]
      simpa [Endpoint.tokens, Endpoint.valueTokens, depthStep, SourceToken.opens] using hds
    · simp only [List.mem_append]
      rintro d (hd | hd)
      · exact hpos d hd
      · simp at hd
        omega

theorem closesAtEnd_displayTokens (es : List Endpoint) : closesAtEnd (displayTokens es) = true := by
  obtain ⟨ds, hds, hpos⟩ := foldl_depthStep_entries es []
  rw [closesAtEnd_eq, displayTokens]
  simp only [List.foldl_cons, List.foldl_append]
  simp only [List.append_nil] at hds
  simpa [depthStep, SourceToken.opens, hds] using hpos

theorem Endpoint.closesAtEnd_valueTokens (e : Endpoint) : closesAtEnd e.valueTokens = true := by
  simp [closesAtEnd_eq, Endpoint.valueTokens, depthStep, SourceToken.opens]

/-- The value of an entry is a display of the address and the model under their keys. -/
theorem Endpoint.dictEntries?_valueTokens (e : Endpoint) :
    dictEntries? e.valueTokens = some [(some [.text .plain "uri"], [.text .plain e.uri]),
      (some [.text .plain "model"], [.text .plain e.model])] := by
  simp [dictEntries?, Endpoint.valueTokens, splitTop_eq, splitStep, SourceToken.opens]

theorem Endpoint.splitTop_entryTokens (e : Endpoint) :
    splitTop (· == .op ":") e.entryTokens = [[.text .plain e.id], e.valueTokens] := by
  simp [splitTop_eq, Endpoint.entryTokens, Endpoint.valueTokens, splitStep, SourceToken.opens]

theorem mapM_eq_some_map {α β : Type} {f : α → Option β} {g : α → β} :
    ∀ {xs : List α}, (∀ x ∈ xs, f x = some (g x)) → xs.mapM f = some (xs.map g)
  | [], _ => rfl
  | x :: xs, h => by
    rw [List.mapM_cons, h x List.mem_cons_self,
      mapM_eq_some_map fun y hy => h y (List.mem_cons_of_mem x hy)]
    rfl

/-- The endpoints display has one entry per endpoint: its identifier under its value. -/
theorem dictEntries?_displayTokens (es : List Endpoint) :
    dictEntries? (displayTokens es) =
      some (es.map fun e => (some [.text .plain e.id], e.valueTokens)) := by
  have hone : splitTop (fun _ => false) (es.flatMap Endpoint.tokens) =
      [es.flatMap Endpoint.tokens] :=
    splitTop_of_noSep fun _ _ => rfl
  have hparts : (splitTop (· == .op ",") (es.flatMap Endpoint.tokens)).filter (!·.isEmpty) =
      es.map Endpoint.entryTokens := by
    rw [splitTop_entries, List.filter_append]
    simp [Endpoint.entryTokens]
  rw [displayTokens, List.cons_append, dictEntries?.eq_1]
  simp only [List.getLast?_append, List.getLast?_singleton, List.dropLast_concat, hone, hparts,
    Option.some_or]
  rcases es with _ | ⟨e, es⟩
  · rfl
  · have hne : (List.map Endpoint.entryTokens (e :: es)).isEmpty = false := rfl
    simp only [List.length_singleton, bne_self_eq_false, Bool.false_eq_true, if_false, hne,
      List.mapM_map]
    apply mapM_eq_some_map
    rintro e' -
    simp only [Function.comp_apply]
    split
    · simp [Endpoint.entryTokens] at *
    · rw [Endpoint.splitTop_entryTokens]
      rfl

@[simp] theorem textConstant?_text (v : String) : textConstant? [.text .plain v] = some v := by
  simp [textConstant?]

/-- The models an endpoints display names: the model of each endpoint, in order. -/
theorem displayModels_displayTokens (es : List Endpoint) :
    displayModels (displayTokens es) = es.map Endpoint.model := by
  rw [displayModels, closesAtEnd_displayTokens, dictEntries?_displayTokens]
  simp only [Bool.not_true, Bool.false_eq_true, if_false]
  induction es with
  | nil => rfl
  | cons e es ih =>
    simpa [Endpoint.closesAtEnd_valueTokens, Endpoint.dictEntries?_valueTokens] using ih

/-! ## Reading the statements -/

theorem mem_displayTokens {es : List Endpoint} {t : SourceToken} (ht : t ∈ displayTokens es) :
    (∃ v, t = .text .plain v) ∨ t = .op "\x7b" ∨ t = .op "\x7d" ∨ t = .op ":" ∨
      t = .op "," := by
  simp only [displayTokens, List.cons_append, List.mem_cons, List.mem_append, List.mem_flatMap,
    List.not_mem_nil, or_false] at ht
  rcases ht with rfl | ⟨e, -, he⟩ | rfl
  · tauto
  · simp only [Endpoint.tokens, Endpoint.valueTokens, List.cons_append, List.mem_cons,
      List.nil_append, List.not_mem_nil, or_false] at he
    rcases he with rfl | rfl | rfl | rfl | rfl | rfl | rfl | rfl | rfl | rfl | rfl | rfl <;> simp
  · tauto

/-- The expression tokens of an endpoint's value display. -/
def valuePlain : List Token :=
  [.op "\x7b", .literal, .op ":", .literal, .op ",", .literal, .op ":", .literal, .op "\x7d"]

theorem operand_valuePlain : Grammar.Operand 33 valuePlain :=
  Grammar.operand_mapping Grammar.operand_literal Grammar.operand_literal
    (by simp [Grammar.operand_literal] : ∀ p ∈ [([Token.literal], [Token.literal])],
      Grammar.Operand 15 p.1 ∧ Grammar.Operand 15 p.2) (.inl rfl)

/-- The expression tokens of an endpoints display of `n` entries. -/
def displayPlain (n : Nat) : List Token :=
  .op "\x7b" :: (List.replicate n (.literal :: .op ":" :: valuePlain ++ [.op ","])).flatten ++
    [.op "\x7d"]

theorem mapM_plain_displayTokens (es : List Endpoint) :
    (displayTokens es).mapM SourceToken.plain = some (displayPlain es.length) := by
  have hentries : ∀ es : List Endpoint, (es.flatMap Endpoint.tokens).mapM SourceToken.plain =
      some (List.replicate es.length (.literal :: .op ":" :: valuePlain ++ [.op ","])).flatten := by
    intro es
    induction es with
    | nil => rfl
    | cons e es ih =>
      rw [List.flatMap_cons, List.mapM_append, ih]
      simp [Endpoint.tokens, Endpoint.valueTokens, SourceToken.plain, valuePlain,
        List.replicate_succ]
  simp [displayTokens, displayPlain, List.mapM_append, hentries, SourceToken.plain]

/-- Entries after the first written with a comma after each, read as entries with a comma
before each and one at the end. -/
theorem flatten_replicate_entries (t : Token) (b : List Token) (n : Nat) :
    (List.replicate (n + 1) (t :: .op ":" :: b ++ [.op ","])).flatten =
      t :: .op ":" :: (b ++ Grammar.pairsTokens (List.replicate n ([t], b)) ++ [.op ","]) := by
  induction n with
  | zero => simp
  | succ n ih =>
    rw [List.replicate_succ, List.flatten_cons, ih, List.replicate_succ]
    simp

theorem isExpressionList_displayTokens (es : List Endpoint) :
    isExpressionList (displayTokens es) = true := by
  rw [isExpressionList, mapM_plain_displayTokens]
  have hread : ∃ k, Grammar.Operand k (displayPlain es.length) ∧ k ≤ 50 + es.length := by
    rcases es with _ | ⟨e, es⟩
    · exact ⟨15, Grammar.operand_emptyMapping, by simp⟩
    · refine ⟨33 + es.length + 17, ?_, by simp; omega⟩
      have hpairs : ∀ p ∈ List.replicate es.length ([Token.literal], valuePlain),
          Grammar.Operand 33 p.1 ∧ Grammar.Operand 33 p.2 := by
        intro p hp
        rw [List.eq_of_mem_replicate hp]
        exact ⟨Grammar.operand_literal.mono (by omega), operand_valuePlain⟩
      have h := Grammar.operand_mapping (Grammar.operand_literal.mono (by omega)) operand_valuePlain
        hpairs (.inr rfl)
      rw [List.length_replicate] at h
      rw [displayPlain, List.length_cons, flatten_replicate_entries .literal valuePlain]
      simpa using h
  obtain ⟨k, hk, hle⟩ := hread
  have hlen : (displayPlain es.length).length = 12 * es.length + 2 := by
    simp [displayPlain, valuePlain]
    ring
  have hfuel : k ≤ 20 * ((displayPlain es.length).length + 2) := by omega
  simp only [Grammar.expressions_of_operand hk hfuel]
  simp [displayPlain]

theorem isExpressionList_text (v : String) : isExpressionList [.text .plain v] = true := by
  have := Grammar.expressions_of_operand Grammar.operand_literal (show 15 ≤ 60 by norm_num)
  simp [isExpressionList, SourceToken.plain, this]

theorem splitTop_sep_middle {isSep : SourceToken → Bool} (a : List SourceToken)
    {b : List SourceToken} {s : SourceToken} (ha : ∀ t ∈ a, isSep t = false)
    (hbal : (a.map SourceToken.opens).sum = 0) (hs : isSep s = true)
    (hb : ∀ t ∈ b, isSep t = false) : splitTop isSep (a ++ s :: b) = [a, b] := by
  rw [splitTop_eq, List.foldl_append, foldl_splitStep_of_noSep ha, List.foldl_cons, hbal]
  simp only [List.append_nil, zero_add]
  rw [splitStep]
  simp only [hs, beq_self_eq_true, Bool.and_self, if_true, List.reverse_reverse]
  rw [foldl_splitStep_of_noSep hb]
  simp

/-- An assignment to one target whose sides are expressions: it names models when the
target is `endpoints` and the value a dictionary display. -/
theorem assignment_single {level : Nat} {ts target value : List SourceToken}
    (hparts : splitTop (· == .op "=") ts = [target, value])
    (hcolon : splitTop (· == .op ":") target = [target])
    (hvalue : isExpressionList value = true) (htarget : isExpressionList target = true) :
    simpleStatement.assignment level ts =
      if (target == [.name "endpoints"]) && closesAtEnd value &&
          (value.head? == some (.op "\x7b")) && (dictEntries? value).isSome then
        some [(level, displayModels value)]
      else some [] := by
  simp [simpleStatement.assignment, hparts, hcolon, hvalue, htarget]

/-- A line holding one simple statement, with no indentation tokens or semicolons, reads
as that statement. -/
theorem lineStatements_single {level : Nat} {line : List SourceToken} (hne : line ≠ [])
    (hplain : ∀ t ∈ line, (t == .indent || t == .dedent || t == .op ";") = false) :
    lineStatements level line = simpleStatement level line := by
  have hany : line.any (fun t => t == .indent || t == .dedent) = false := by
    simp only [List.any_eq_false]
    intro t ht
    have := hplain t ht
    simp_all
  have hsplit : splitTop (· == .op ";") line = [line] :=
    splitTop_of_noSep fun t ht => by have := hplain t ht; simp_all
  simp only [lineStatements, hany, hsplit]
  cases h : simpleStatement level line <;> simp [h, hne]

/-- The assignment of the base address names no model. -/
theorem lineStatements_baseUrl (level : Nat) (v : String) :
    lineStatements level [.name "base_url", .op "=", .text .plain v] = some [] := by
  have hparts : splitTop (· == .op "=") [.name "base_url", .op "=", .text .plain v] =
      [[.name "base_url"], [.text .plain v]] :=
    splitTop_sep_middle [.name "base_url"] (by simp) (by simp) (by simp) (by simp)
  have hname : isExpressionList [.name "base_url"] = true := by decide
  rw [lineStatements_single (by simp) (by simp)]
  simp only [simpleStatement, show statementWords.contains "base_url" = false by decide,
    Bool.false_eq_true, if_false]
  rw [assignment_single hparts (splitTop_of_noSep (by simp)) (isExpressionList_text v) hname]
  simp

theorem mem_displayTokens_beq {es : List Endpoint} {t : SourceToken} (ht : t ∈ displayTokens es)
    (o : String) (ho : o ≠ "\x7b" ∧ o ≠ "\x7d" ∧ o ≠ ":" ∧ o ≠ ",") :
    (t == .op o) = false ∧ (t == .indent) = false ∧ (t == .dedent) = false ∧
      (t == .newline) = false := by
  obtain ⟨h1, h2, h3, h4⟩ := ho
  rcases mem_displayTokens ht with ⟨v, rfl⟩ | rfl | rfl | rfl | rfl <;>
    simp [Ne.symm h1, Ne.symm h2, Ne.symm h3, Ne.symm h4]

/-- The assignment of the endpoints display names the model of every endpoint. -/
theorem lineStatements_endpoints (level : Nat) (es : List Endpoint) :
    lineStatements level (.name "endpoints" :: .op "=" :: displayTokens es) =
      some [(level, es.map Endpoint.model)] := by
  have hparts : splitTop (· == .op "=") (.name "endpoints" :: .op "=" :: displayTokens es) =
      [[.name "endpoints"], displayTokens es] :=
    splitTop_sep_middle [.name "endpoints"] (by simp) (by simp) (by simp)
      fun t ht => (mem_displayTokens_beq ht "=" (by simp)).1
  have hname : isExpressionList [.name "endpoints"] = true := by decide
  have hplain : ∀ t ∈ SourceToken.name "endpoints" :: .op "=" :: displayTokens es,
      (t == .indent || t == .dedent || t == .op ";") = false := by
    intro t ht
    simp only [List.mem_cons] at ht
    rcases ht with rfl | rfl | ht
    · rfl
    · simp
    · obtain ⟨h1, h2, h3, -⟩ := mem_displayTokens_beq ht ";" (by simp)
      simp [h1, h2, h3]
  rw [lineStatements_single (by simp) hplain]
  simp only [simpleStatement, show statementWords.contains "endpoints" = false by decide,
    Bool.false_eq_true, if_false]
  rw [assignment_single hparts (splitTop_of_noSep (by simp)) (isExpressionList_displayTokens es)
    hname]
  have hhead : (displayTokens es).head? = some (.op "\x7b") := rfl
  simp [closesAtEnd_displayTokens, hhead, dictEntries?_displayTokens, displayModels_displayTokens]

/-- A line that opens with a name other than a compound statement's word is read as simple
statements, and the block goes on after its line end. -/
theorem block_simpleLine {fuel level : Nat} {w : String} {rest : List SourceToken}
    (hw : compoundWords.contains w = false) :
    block (fuel + 1) level (.name w :: rest) =
      (lineStatements level ((SourceToken.name w :: rest).takeWhile (· != .newline))).bind
        fun found =>
          (block fuel level (((SourceToken.name w :: rest).dropWhile (· != .newline)).drop 1)).bind
            fun r => some (found ++ r.1, r.2) := by
  rw [block, if_neg (by rw [hw]; decide)]
  rfl

theorem block_configTokens (baseUrl : String) (es : List Endpoint) (n : Nat) :
    block (n + 3) 1 (configTokens baseUrl es) = some ([(1, es.map Endpoint.model)], []) := by
  have hnl : ∀ t ∈ displayTokens es, (t != .newline) = true := fun t ht => by
    simp [bne, (mem_displayTokens_beq ht "=" (by simp)).2.2.2]
  have htake : (displayTokens es ++ [SourceToken.newline]).takeWhile (· != .newline) =
      displayTokens es := by
    rw [List.takeWhile_append_of_pos hnl]
    simp [bne]
  have hdrop : (displayTokens es ++ [SourceToken.newline]).dropWhile (· != .newline) =
      [.newline] := by
    rw [List.dropWhile_append_of_pos hnl]
    simp [bne]
  simp only [bne] at htake hdrop
  simp only [configTokens, List.cons_append, List.nil_append]
  rw [block_simpleLine (by decide)]
  simp [bne, lineStatements_baseUrl]
  rw [block_simpleLine (by decide)]
  simp [bne, htake, hdrop, lineStatements_endpoints, block]

/-! ## The models of a configuration -/

/-- A written configuration whose texts carry their characters as themselves reads back as
the models of its endpoints, in order. -/
theorem endpointModels_configText {baseUrl : String} {es : List Endpoint}
    (hbase : ∀ c ∈ baseUrl.toList, LiteralChar '"' false c) (hes : ∀ e ∈ es, e.Plain) :
    endpointModels (configText baseUrl es) = es.map Endpoint.model := by
  obtain ⟨n, hn⟩ : ∃ n, (configTokens baseUrl es).length + 1 = n + 3 :=
    ⟨(configTokens baseUrl es).length - 2, by simp [configTokens]⟩
  rw [endpointModels, lexSource_configText hbase hes]
  simp only [hn, block_configTokens]
  rcases es with _ | ⟨e, es⟩ <;> simp

theorem sortedUnique_eq_nil {xs : List String} : sortedUnique xs = [] ↔ xs = [] := by
  constructor
  · intro h
    have hsorted : xs.mergeSort (· ≤ ·) = [] := by
      rw [sortedUnique] at h
      cases hs : xs.mergeSort (· ≤ ·) with
      | nil => rfl
      | cons y ys => rw [hs, List.eraseDups_cons] at h; cases h
    simpa using congrArg List.length hsorted
  · rintro rfl
    simp [sortedUnique]

/-- A client whose module is the only one read, and whose name the module's file name
gives back, returns the models of its module, sorted without repetition; it is left out
when its module names none. -/
theorem clientModels_single {client src : String}
    (hdot : (client ++ "_config.py").startsWith "." = false)
    (hname : (client ++ "_config.py").replace "_config.py" "" = client) :
    clientModels [(client, src)] =
      if endpointModels src = [] then [] else [(client, sortedUnique (endpointModels src))] := by
  simp only [clientModels, List.foldl_cons, List.foldl_nil, hdot, Bool.false_eq_true, if_false,
    hname]
  split
  · next h => simp [sortedUnique_eq_nil.mp h]
  · next ms h =>
    have hne : endpointModels src ≠ [] := fun h' => h (by rw [h']; simp [sortedUnique])
    simp [hne]

/-- A module that names no model leaves its client out, whatever the client's name. -/
theorem clientModels_single_of_nil {client src : String} (h : endpointModels src = []) :
    clientModels [(client, src)] = [] := by
  have hsorted : sortedUnique (endpointModels src) = [] := sortedUnique_eq_nil.mpr h
  simp only [clientModels, List.foldl_cons, List.foldl_nil, hsorted]
  split <;> rfl

end TransitKit.Diagram
