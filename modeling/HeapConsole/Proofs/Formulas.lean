import HeapConsole.Proofs.InternalFaults
import HeapConsole.Proofs.Reentry
import Mathlib.Data.Rat.Floor

/-! Integer formulas, from their text to what the console shows of their value. A formula may be
written with any blanks between its tokens and with more parentheses than it needs; the console
answers with its exact value, or with a division by zero if some divisor in it is zero. -/
namespace HeapConsole

open Grammar Text

/-- A formula over the integers. Parentheses belong to its written forms only. -/
inductive Formula where
  | number (n : Int)
  | operation (operator : Operator) (left right : Formula)
deriving DecidableEq, Repr

/-- The operators on integers, where a quotient is the floor of the rational one. -/
def Operator.compute? (operator : Operator) (a b : Int) : Option Int :=
  match operator with
  | .add => some (a + b)
  | .sub => some (a - b)
  | .mul => some (a * b)
  | .div => if b = 0 then none else some ⌊(a : ℚ) / (b : ℚ)⌋

namespace Formula

def value? : Formula → Option Int
  | .number n => some n
  | .operation operator left right => do operator.compute? (← left.value?) (← right.value?)

def divisors : Formula → List Formula
  | .number _ => []
  | .operation operator left right =>
    left.divisors ++ (right.divisors ++ if operator = .div then [right] else [])

/-- The texts that write a formula where operators have to bind at least as tightly as `level`.
Operators associate to the left, and parentheses may stand around any formula. -/
inductive WrittenAs : Nat → Formula → List Char → Prop where
  | number (level : Nat) (n : Int) (text : List Char) (spelled : (Literal.int n).SpelledAs text) :
      WrittenAs level (.number n) text
  | operation (level : Nat) (op : Operator) (left right : Formula)
      (leftText before after rightText : List Char) (tight : level ≤ op.tightness)
      (onLeft : WrittenAs op.tightness left leftText) (blankBefore : Blanks before)
      (blankAfter : Blanks after) (onRight : WrittenAs (op.tightness + 1) right rightText) :
      WrittenAs level (.operation op left right)
        (leftText ++ (before ++ (op.symbol.toList ++ (after ++ rightText))))
  | group (level : Nat) (formula : Formula) (before text after : List Char)
      (blankBefore : Blanks before) (below : WrittenAs 0 formula text) (blankAfter : Blanks after) :
      WrittenAs level formula ('(' :: (before ++ (text ++ (after ++ [')']))))

inductive ReadAs : Formula → Node → Prop where
  | number (n : Int) : ReadAs (.number n) (.literal (.int n))
  | operation (op : Operator) (left right : Formula) (leftNode rightNode : Node)
      (onLeft : ReadAs left leftNode) (onRight : ReadAs right rightNode) :
      ReadAs (.operation op left right) (.operator op leftNode rightNode)
  | group (formula : Formula) (inner : Node) (below : ReadAs formula inner) :
      ReadAs formula (.parenthesis inner)

end Formula

section values

theorem fdiv_eq_floor (a b : Int) : a.fdiv b = ⌊(a : ℚ) / (b : ℚ)⌋ := by
  have upwards (c : Int) (n : Nat) : c.fdiv n = ⌊(c : ℚ) / (n : ℚ)⌋ := by
    rw [Int.fdiv_eq_ediv_of_nonneg c (Int.natCast_nonneg n), Rat.floor_intCast_div_natCast]
  obtain ⟨n, rfl | rfl⟩ := b.eq_nat_or_neg
  · exact upwards a n
  · -- Both signs turn, and the quotient stays.
    have turned := upwards (-a) n
    rw [← Int.neg_fdiv_neg, neg_neg] at turned
    rw [turned, Int.cast_neg, Int.cast_neg, neg_div, div_neg, Int.cast_natCast]

theorem Operator.onInts_eq (operator : Operator) (a b : Int) :
    operator.onInts a b =
      match operator.compute? a b with
      | some n => .ok n
      | none => .error .divisionByZero := by
  cases operator with
  | div =>
    simp only [onInts, compute?, fdiv_eq_floor]
    split <;> rfl
  | _ => rfl

theorem Operator.compute?_eq_none_iff (operator : Operator) (a b : Int) :
    operator.compute? a b = none ↔ operator = .div ∧ b = 0 := by
  cases operator <;> simp [compute?]

theorem Formula.exists_divisor_iff (zero : Formula → Prop) (op : Operator) (left right : Formula) :
    (∃ divisor ∈ (operation op left right).divisors, zero divisor) ↔
      (∃ divisor ∈ left.divisors, zero divisor) ∨ (∃ divisor ∈ right.divisors, zero divisor) ∨
        op = .div ∧ zero right := by
  by_cases divides : op = .div <;> simp [divisors, divides, or_and_right, exists_or]

theorem Formula.value?_eq_none_iff (formula : Formula) :
    formula.value? = none ↔ ∃ divisor ∈ formula.divisors, divisor.value? = some 0 := by
  induction formula with
  | number n => simp [value?, divisors]
  | operation op left right onLeft onRight =>
    rw [exists_divisor_iff, ← onLeft, ← onRight, value?]
    cases left.value? with
    | none => simp
    | some a =>
      cases right.value? with
      | none => simp
      | some b => simpa using op.compute?_eq_none_iff a b

end values

section runs

def Formula.outcome : Option Int → Except Failure Result
  | some n => .ok (.value (.int n))
  | none => .error (.fault .divisionByZero)

theorem Formula.outcome_ends (value : Option Int) : outcome value ≠ .error .digitLimit := by
  cases value <;> simp [outcome]

theorem Operator.apply_ints (operator : Operator) (a b : Int) :
    operator.apply (.int a) (.int b) = (operator.onInts a b).map .int := by
  cases operator <;> rfl

theorem Evaluation.operate_ints (op : Operator) (a b : Int) (machine : Machine) :
    (operate op (.value (.int a)) (.value (.int b))).runOn machine =
      (Formula.outcome (op.compute? a b), machine) := by
  show (Evaluation.lift (Operator.applySymbol op.symbol (.int a) (.int b)) >>= fun literal =>
    pure (Result.value (.ofLiteral literal)) : Evaluation Result).runOn machine = _
  rw [applySymbol_symbol, op.apply_ints, op.onInts_eq, runOn_bind, runOn_lift]
  cases op.compute? a b <;> rfl

theorem Formula.evaluate_eq (formula : Formula) (node : Node) (read : formula.ReadAs node)
    (machine : Machine) :
    node.evaluate.runOn machine = (outcome formula.value?, machine) := by
  -- By induction on the reading, as the node may have parentheses that the formula lacks.
  induction read with
  | number n => rfl
  | group formula inner _ ih => exact ih
  | operation op left right leftNode rightNode _ _ onLeft onRight =>
    rw [Statement.evaluate, Evaluation.runOn_bind, onLeft, value?]
    cases left.value? with
    | none => rfl
    | some a =>
      simp only [outcome, Evaluation.runOn_bind, onRight]
      cases right.value? with
      | none => rfl
      | some b => exact Evaluation.operate_ints op a b machine

end runs

section texts

theorem Formula.WrittenAs.exists_node (level : Nat) (formula : Formula) (text : List Char)
    (written : formula.WrittenAs level text) (bounded : level ≤ 2) :
    ∃ node : Node, formula.ReadAs node ∧ node.IsExpression DataType.IsNamed (fun _ => True) ∧
      level ≤ node.tightness ∧ node.WrittenAs text := by
  induction written with
  | number level n text spelled =>
    exact ⟨_, .number n, .literal _ trivial, bounded, .literal _ _ spelled⟩
  | operation level op left right leftText before after rightText tight _ blankBefore blankAfter _
      onLeft onRight =>
    have loosest := op.tightness_le
    obtain ⟨leftNode, leftRead, leftIs, loose, leftWritten⟩ := onLeft (by omega)
    obtain ⟨rightNode, rightRead, rightIs, tighter, rightWritten⟩ := onRight (by omega)
    exact ⟨_, .operation op left right leftNode rightNode leftRead rightRead,
      .operator op leftNode rightNode loose tighter leftIs rightIs, tight,
      .operator op leftNode rightNode _ _ _ _ leftWritten blankBefore blankAfter rightWritten⟩
  | group level formula before text after blankBefore _ blankAfter below =>
    obtain ⟨inner, read, valued, _, written⟩ := below (by omega)
    exact ⟨_, .group formula inner read, .parenthesis inner valued, bounded,
      .parenthesis inner _ _ _ blankBefore written blankAfter⟩

theorem Formula.WrittenAs.framed (level : Nat) (formula : Formula) (text : List Char)
    (written : formula.WrittenAs level text) : Framed text := by
  induction written with
  | number level n text spelled => exact framed_spelled _ text spelled
  | operation level op left right leftText before after rightText _ _ _ _ _ onLeft onRight =>
    have joined := framed_append leftText (before ++ (op.symbol.toList ++ after)) rightText
      onLeft onRight
    simpa only [List.append_assoc] using joined
  | group level formula before text after _ _ _ _ =>
    have enclosed := framed_append ['('] (before ++ (text ++ after)) [')']
      (framed_singleton '(' rfl (by decide)) (framed_singleton ')' rfl (by decide))
    simpa only [List.append_assoc, List.singleton_append] using enclosed

theorem Formula.exists_writing (formula : Formula) (level : Nat) :
    ∃ text, formula.WrittenAs level text := by
  induction formula generalizing level with
  | number n => exact ⟨_, .number level n _ (Literal.spelledAs_hexadecimal n)⟩
  | operation op left right onLeft onRight =>
    obtain ⟨leftText, leftWritten⟩ := onLeft op.tightness
    obtain ⟨rightText, rightWritten⟩ := onRight (op.tightness + 1)
    have bare := WrittenAs.operation 0 op left right leftText [] [] rightText (Nat.zero_le _)
      leftWritten blanks_nil blanks_nil rightWritten
    exact ⟨_, .group level _ [] _ [] blanks_nil bare blanks_nil⟩

theorem isMargin_of_isBlank (c : Char) (blank : isBlank c = true) : isMargin c = true := by
  rw [isMargin, blank, Bool.true_or]

theorem strip_padded (before body after : List Char) (blankBefore : Blanks before)
    (blankAfter : Blanks after) (framed : Framed body) :
    strip (String.ofList (before ++ (body ++ after))) = String.ofList body := by
  have bare := Console.strip_of_framed (String.ofList body) (by rwa [String.toList_ofList])
  obtain ⟨⟨c, others, rfl, solid, _⟩, _⟩ := framed
  have front : (before ++ (c :: others ++ after)).dropWhile isMargin = c :: others ++ after := by
    rw [List.dropWhile_append_of_pos fun d member => isMargin_of_isBlank d (blankBefore d member)]
    exact List.dropWhile_cons_of_neg (by simp [solid])
  have back : dropMarginRight (c :: others ++ after) = dropMarginRight (c :: others) := by
    unfold dropMarginRight
    rw [List.reverse_append, List.dropWhile_append_of_pos fun d member =>
      isMargin_of_isBlank d (blankAfter d (List.mem_reverse.mp member))]
  rw [strip, String.toList_ofList, List.dropWhile_cons_of_neg (by simp [solid])] at bare
  rw [strip, String.toList_ofList, front, back, bare]

end texts

namespace Formula

def EnteredAs (formula : Formula) (line : String) : Prop :=
  ∃ before text after, Blanks before ∧ formula.WrittenAs 0 text ∧ Blanks after ∧
    line = String.ofList (before ++ (text ++ after))

theorem EnteredAs.strip_eq (formula : Formula) (line : String) (entered : formula.EnteredAs line) :
    formula.WrittenAs 0 (strip line).toList := by
  obtain ⟨before, text, after, blankBefore, written, blankAfter, rfl⟩ := entered
  rw [strip_padded before text after blankBefore blankAfter written.framed, String.toList_ofList]
  exact written

def answer (formula : Formula) (base : Base) : Item :=
  match formula.value? with
  | some n => ⟨.info, "-> " ++ base.showInt n⟩
  | none => ⟨.error, Fault.divisionByZero.line⟩

theorem run_eq (formula : Formula) (text : String) (written : formula.WrittenAs 0 text.toList)
    (machine : Machine) :
    machine.run text = (outcome formula.value?, machine) := by
  obtain ⟨node, read, valued, _, writtenNode⟩ := written.exists_node _ _ _ (Nat.zero_le 2)
  have whole : node.FullyWrittenAs text.toList :=
    ⟨[], _, [], [], blanks_nil, writtenNode, blanks_nil, .inl rfl, by simp⟩
  have parsed := parse_of_reads text node (reads_statement node _ (.expression node valued) whole)
  rw [machine.run_of_parse text node parsed, evaluate_eq formula node read machine]

end Formula

/-- Every formula can be entered, and on any console, however it is written, it is answered by its
exact value or, where it divides by zero, by that fault; nothing else changes. -/
theorem Console.execute_formula (formula : Formula) :
    (∃ line, formula.EnteredAs line) ∧
    (formula.value? = none ↔ ∃ divisor ∈ formula.divisors, divisor.value? = some 0) ∧
    ∀ (console : Console) (line : String), formula.EnteredAs line →
      let items := [⟨.command, strip line⟩, formula.answer console.machine.base]
      console.execute line = (some items, { console with history := console.history ++ items }) := by
  refine ⟨?_, formula.value?_eq_none_iff, ?_⟩
  · obtain ⟨text, written⟩ := formula.exists_writing 0
    exact ⟨_, [], text, [], blanks_nil, written, blanks_nil, rfl⟩
  · intro console line entered
    have written := entered.strip_eq
    have framed := written.framed
    have plain := isHelp_of_framed (strip line) framed
    have ran := formula.run_eq (strip line) written console.machine
    have visible := visible_of_framed (strip line) framed
    have answered : console.answer (strip line) = [formula.answer console.machine.base] := by
      rw [Console.answer, if_neg (by simp [plain]), ran, Formula.answer]
      cases formula.value? <;> rfl
    rw [← answered]
    exact console.execute_of_steady line visible plain _ (Formula.outcome_ends _) ran

/-- A minus sign stands for a sign and for a difference, and the quotient is rounded down. -/
theorem Console.execute_formula_of_quotient :
    ((Console.ofConfig ⟨4, 10⟩).execute " 7--8 /(1+0x2)\t").1 =
      some [⟨.command, "7--8 /(1+0x2)"⟩, ⟨.info, "-> 10"⟩] := by
  have blank (gap : List Char) (all : gap.all isBlank = true) : Blanks gap := List.all_eq_true.mp all
  have sum := Formula.WrittenAs.operation 0 .add _ _ _ [] [] _ (Nat.zero_le _)
    (.number _ 1 _ (.decimal false ['1'] (by decide) (by decide))) blanks_nil blanks_nil
    (.number _ 2 _ (.hexadecimal false 'x' ['2'] rfl (by decide)))
  have quotient := Formula.WrittenAs.operation 1 .div _ _ _ [' '] [] _ (Nat.le_refl _)
    (.number _ (-8) _ (.decimal true ['8'] (by decide) (by decide))) (blank _ rfl) blanks_nil
    (.group _ _ [] _ [] blanks_nil sum blanks_nil)
  have difference := Formula.WrittenAs.operation 0 .sub _ _ _ [] [] _ (Nat.zero_le _)
    (.number _ 7 _ (.decimal false ['7'] (by decide) (by decide))) blanks_nil blanks_nil quotient
  have entered := (execute_formula _).2.2 (Console.ofConfig ⟨4, 10⟩) " 7--8 /(1+0x2)\t"
    ⟨[' '], _, ['\t'], blank _ rfl, difference, blank _ rfl, rfl⟩
  rw [entered]
  decide +kernel

end HeapConsole
