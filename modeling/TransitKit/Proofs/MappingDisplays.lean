import Mathlib
import TransitKit.Typing.Expression

/-!
# Mapping displays as expressions

The expression reader descends through the levels of precedence one step of fuel each. An
operand that opens with a literal or a brace and is followed by a delimiter goes down every
level to its atom and comes back unchanged; literals are such operands, and so are mapping
displays of them, their entries read one after another; and an operand alone reads as the
expressions of a whole statement.
-/

namespace TransitKit.Typing.Grammar

/-- Whether what follows an operand ends it: nothing, a colon, a comma or a closing brace. -/
def closesOperand : List Token → Bool
  | [] => true
  | .op o :: _ => o == ":" || o == "," || o == "\x7d"
  | _ => false

/-- Whether a token opens one of the operands read here: a literal or a brace. -/
def opensOperand : Token → Bool
  | .literal => true
  | .op o => o == "\x7b"
  | _ => false

section Levels

variable {f : Nat} {t : Token} {ts s : List Token}

@[simp] theorem isOp_literal (o : String) : isOp o (.literal :: ts) = false := rfl

@[simp] theorem isOp_op (o p : String) : isOp o (.op p :: ts) = (p == o) := rfl

@[simp] theorem isWord_literal (w : String) : isWord w (.literal :: ts) = false := rfl

@[simp] theorem isWord_op (w p : String) : isWord w (.op p :: ts) = false := rfl

@[simp] theorem isWord_nil (w : String) : isWord w [] = false := rfl

@[simp] theorem isOp_nil (o : String) : isOp o [] = false := rfl

theorem closesOperand_cases (hs : closesOperand s = true) :
    s = [] ∨ ∃ o r, s = .op o :: r ∧ (o = ":" ∨ o = "," ∨ o = "\x7d") := by
  match s, hs with
  | [], _ => exact .inl rfl
  | .op o :: r, hs =>
    simp only [closesOperand, Bool.or_eq_true, beq_iff_eq] at hs
    exact .inr ⟨o, r, rfl, by tauto⟩

theorem opensOperand_cases (ht : opensOperand t = true) : t = .literal ∨ t = .op "\x7b" := by
  cases t <;> simp_all [opensOperand]

theorem trailers_closes (hs : closesOperand s = true) : trailers (f + 1) s = some s := by
  rcases closesOperand_cases hs with rfl | ⟨o, r, rfl, rfl | rfl | rfl⟩ <;> simp [trailers]

theorem primary_of_atom (hs : closesOperand s = true) (h : atom (f + 1) ts = some s) :
    primary (f + 2) ts = some s := by
  simp [primary, h, trailers_closes hs]

theorem factor_of_primary (ht : opensOperand t = true) (hs : closesOperand s = true)
    (h : primary f (t :: ts) = some s) : factor (f + 1) (t :: ts) = some s := by
  have hpow : isOp "**" s = false := by
    rcases closesOperand_cases hs with rfl | ⟨o, r, rfl, rfl | rfl | rfl⟩ <;> rfl
  rcases opensOperand_cases ht with rfl | rfl <;> simp [factor, h, hpow]

theorem binary_last : binary (f + 1) 6 ts = factor f ts := by
  simp [binary, binaryLevels]

/-- No binary operator is a colon, comma or closing brace, so a level above the last
passes an operand through. -/
theorem binary_step {level : Nat} (hl : level < 6) (hs : closesOperand s = true)
    (h : binary f (level + 1) ts = some s) : binary (f + 1) level ts = some s := by
  obtain ⟨ops, hops⟩ : ∃ ops, binaryLevels[level]? = some ops :=
    ⟨_, List.getElem?_eq_getElem (by simp [binaryLevels]; omega)⟩
  have hmem : ops ∈ binaryLevels := List.mem_of_getElem? hops
  rw [binary, hops]
  simp only [h, Option.bind_some]
  rcases closesOperand_cases hs with rfl | ⟨o, r, rfl, ho⟩
  · rfl
  · have : o ∉ ops := by
      simp only [binaryLevels, List.mem_cons, List.not_mem_nil, or_false] at hmem
      rcases hmem with rfl | rfl | rfl | rfl | rfl | rfl <;> rcases ho with rfl | rfl | rfl <;>
        simp
    simp [this]

theorem binary_of_factor (hs : closesOperand s = true) (h : factor f ts = some s) :
    ∀ k ≤ 6, binary (f + 1 + k) (6 - k) ts = some s
  | 0, _ => by rw [binary_last]; exact h
  | k + 1, hk => by
    rw [show f + 1 + (k + 1) = f + 1 + k + 1 by omega]
    apply binary_step (by omega) hs
    rw [show 6 - (k + 1) + 1 = 6 - k by omega]
    exact binary_of_factor hs h k (by omega)

theorem comparison_of_binary (hs : closesOperand s = true) (h : binary f 0 ts = some s) :
    comparison (f + 1) ts = some s := by
  have hcmp : comparisonRest s = none := by
    rcases closesOperand_cases hs with rfl | ⟨o, r, rfl, rfl | rfl | rfl⟩ <;>
      simp [comparisonRest, comparisonOps]
  simp [comparison, h, hcmp]

theorem inversion_of_comparison (ht : opensOperand t = true)
    (h : comparison f (t :: ts) = some s) : inversion (f + 1) (t :: ts) = some s := by
  rcases opensOperand_cases ht with rfl | rfl <;> simp [inversion, h]

theorem conjunction_of_inversion (hs : closesOperand s = true) (h : inversion f ts = some s) :
    conjunction (f + 1) ts = some s := by
  have hand : isWord "and" s = false := by
    rcases closesOperand_cases hs with rfl | ⟨o, r, rfl, -⟩ <;> rfl
  simp [conjunction, h, hand]

theorem disjunction_of_conjunction (hs : closesOperand s = true)
    (h : conjunction f ts = some s) : disjunction (f + 1) ts = some s := by
  have hor : isWord "or" s = false := by
    rcases closesOperand_cases hs with rfl | ⟨o, r, rfl, -⟩ <;> rfl
  simp [disjunction, h, hor]

theorem expression_of_disjunction (ht : opensOperand t = true) (hs : closesOperand s = true)
    (h : disjunction f (t :: ts) = some s) : expression (f + 1) (t :: ts) = some s := by
  have hif : isWord "if" s = false := by
    rcases closesOperand_cases hs with rfl | ⟨o, r, rfl, -⟩ <;> rfl
  rcases opensOperand_cases ht with rfl | rfl <;> simp [expression, h, hif]

/-- An operand read as an atom is read the same from the top level, fourteen levels up. -/
theorem expression_of_atom (ht : opensOperand t = true) (hs : closesOperand s = true)
    (h : atom (f + 1) (t :: ts) = some s) : expression (f + 15) (t :: ts) = some s := by
  have hfactor := factor_of_primary ht hs (primary_of_atom hs h)
  have hbinary := binary_of_factor hs hfactor 6 le_rfl
  apply expression_of_disjunction ht hs
  apply disjunction_of_conjunction hs
  apply conjunction_of_inversion hs
  apply inversion_of_comparison ht
  exact comparison_of_binary hs hbinary

end Levels

/-! ## Operands -/

/-- Tokens that read as one operand opening with a literal or a brace, whatever ends
them, with any fuel of at least `k`. -/
def Operand (k : Nat) (a : List Token) : Prop :=
  (∃ t rest, a = t :: rest ∧ opensOperand t = true) ∧
    ∀ f s, closesOperand s = true → expression (f + k) (a ++ s) = some s

theorem Operand.mono {k k' : Nat} {a : List Token} (h : Operand k a) (hk : k ≤ k') :
    Operand k' a := by
  refine ⟨h.1, fun f s hs => ?_⟩
  obtain ⟨j, rfl⟩ := Nat.exists_eq_add_of_le hk
  rw [← Nat.add_assoc, Nat.add_right_comm]
  exact h.2 (f + j) s hs

/-- What an operand opens with is no operator but a brace. -/
theorem Operand.isOp {k : Nat} {a : List Token} (h : Operand k a) (o : String)
    (ho : o ≠ "\x7b") (s : List Token) : isOp o (a ++ s) = false := by
  obtain ⟨t, rest, rfl, ht⟩ := h.1
  rcases opensOperand_cases ht with rfl | rfl
  · rfl
  · simp [Ne.symm ho]

theorem Operand.isWord {k : Nat} {a : List Token} (h : Operand k a) (w : String)
    (s : List Token) : isWord w (a ++ s) = false := by
  obtain ⟨t, rest, rfl, ht⟩ := h.1
  rcases opensOperand_cases ht with rfl | rfl <;> rfl

theorem operand_literal : Operand 15 [.literal] := by
  refine ⟨⟨_, [], rfl, rfl⟩, fun f s hs => expression_of_atom rfl hs ?_⟩
  have hdrop : s.dropWhile (· == .literal) = s := by
    rcases closesOperand_cases hs with rfl | ⟨o, r, rfl, -⟩ <;> rfl
  simp [atom, hdrop]

theorem operand_emptyMapping : Operand 15 [.op "\x7b", .op "\x7d"] :=
  ⟨⟨_, _, rfl, rfl⟩, fun _ _ hs => expression_of_atom rfl hs (by simp [atom, isOp])⟩

/-- The entries of a mapping display after the first: each a comma, key, colon and value. -/
def pairsTokens (ps : List (List Token × List Token)) : List Token :=
  ps.flatMap fun p => .op "," :: p.1 ++ .op ":" :: p.2

/-- The end of a mapping display: its closing brace, after a comma or not. -/
def ClosesMapping (tail : List Token) : Prop :=
  tail = [.op "\x7d"] ∨ tail = [.op ",", .op "\x7d"]

section Mapping

variable {k : Nat} {ps : List (List Token × List Token)} {tail : List Token}

@[simp] theorem pairsTokens_nil : pairsTokens [] = [] := rfl

@[simp] theorem pairsTokens_cons (p : List Token × List Token) :
    pairsTokens (p :: ps) = .op "," :: p.1 ++ .op ":" :: p.2 ++ pairsTokens ps := by
  simp [pairsTokens]

theorem closesOperand_pairsTokens (ps : List (List Token × List Token))
    (htail : ClosesMapping tail) (s : List Token) :
    closesOperand (pairsTokens ps ++ (tail ++ s)) = true := by
  cases ps with
  | nil => rcases htail with rfl | rfl <;> rfl
  | cons p ps => rfl

theorem closesOperand_isWord {s : List Token} (hs : closesOperand s = true) (w : String) :
    isWord w s = false := by
  rcases closesOperand_cases hs with rfl | ⟨o, r, rfl, -⟩ <;> rfl

/-- One more entry: a comma, a key, a colon and a value. -/
theorem moreEntries_pair {a b r : List Token} (ha : Operand k a) (hb : Operand k b)
    (hr : closesOperand r = true) (f : Nat) :
    moreEntries (f + k + 1) (.op "," :: (a ++ .op ":" :: (b ++ r))) = moreEntries (f + k) r := by
  have hkey := ha.2 f (.op ":" :: (b ++ r)) rfl
  have hvalue := hb.2 f r hr
  simp [moreEntries, ha.isOp "\x7d" (by simp), ha.isOp "**" (by simp), hkey, expectOp, hvalue]

/-- The first entry of a mapping display, and the entries after it. -/
theorem entries_pair {a b r : List Token} (ha : Operand k a) (hb : Operand k b)
    (hr : closesOperand r = true) (f : Nat) :
    entries (f + k + 1) (a ++ .op ":" :: (b ++ r)) = moreEntries (f + k) r := by
  have hkey := ha.2 f (.op ":" :: (b ++ r)) rfl
  have hvalue := hb.2 f r hr
  simp [entries, ha.isOp "**" (by simp), ha.isOp "*" (by simp), hkey, hvalue,
    closesOperand_isWord hr]

/-- The entries after the first are read pair by pair, one step of fuel each. -/
theorem moreEntries_pairs (hps : ∀ p ∈ ps, Operand k p.1 ∧ Operand k p.2)
    (htail : ClosesMapping tail) (f : Nat) (s : List Token) :
    moreEntries (f + ps.length + k + 1) (pairsTokens ps ++ (tail ++ s)) =
      some (.op "\x7d" :: s) := by
  induction ps with
  | nil => rcases htail with rfl | rfl <;> simp [moreEntries]
  | cons p ps ih =>
    obtain ⟨hkey, hvalue⟩ := hps p List.mem_cons_self
    have hrest := ih fun p' hp' => hps p' (List.mem_cons_of_mem p hp')
    rw [show f + (p :: ps).length + k + 1 = (f + ps.length + 1) + k + 1 by simp; omega]
    simp only [pairsTokens_cons, List.append_assoc, List.cons_append]
    rw [moreEntries_pair hkey hvalue (closesOperand_pairsTokens ps htail s)]
    simpa [Nat.add_right_comm] using hrest

/-- A mapping display of at least one entry, whose keys and values are operands. -/
theorem operand_mapping {a b : List Token} (ha : Operand k a) (hb : Operand k b)
    (hps : ∀ p ∈ ps, Operand k p.1 ∧ Operand k p.2) (htail : ClosesMapping tail) :
    Operand (k + ps.length + 17)
      (.op "\x7b" :: (a ++ .op ":" :: (b ++ pairsTokens ps ++ tail))) := by
  refine ⟨⟨_, _, rfl, rfl⟩, fun f s hs => ?_⟩
  have hentries := entries_pair ha hb (closesOperand_pairsTokens ps htail s) (f + ps.length + 1)
  rw [show f + ps.length + 1 + k = f + ps.length + k + 1 by omega,
    moreEntries_pairs hps htail] at hentries
  rw [show f + (k + ps.length + 17) = (f + ps.length + k + 1 + 1) + 1 + 14 by omega]
  apply expression_of_atom rfl hs
  simp only [List.append_assoc] at hentries ⊢
  simp [atom, ha.isOp "\x7d" (by simp), hentries, expectOp]

/-- Tokens that read as one operand read as the expressions of a whole statement. -/
theorem expressions_of_operand {a : List Token} (h : Operand k a) {fuel : Nat} (hk : k ≤ fuel) :
    expressions fuel a = some [] := by
  obtain ⟨f, rfl⟩ : ∃ f, fuel = f + k := ⟨fuel - k, by omega⟩
  have := h.2 f [] rfl
  rw [List.append_nil] at this
  simp [expressions, this, isOp]

end Mapping

end TransitKit.Typing.Grammar
