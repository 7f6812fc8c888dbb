import HeapConsole.Proofs.Coercion
import Mathlib.Data.Int.ModEq

/-! Integers modulo 256. Chars are added, subtracted and multiplied as bytes, a char that meets an
int is an int, and a cast to char drops all but a byte. Wherever in a tree this happens, the low byte
of the result is the low byte of the exact integer that the tree stands for. -/
namespace HeapConsole

open Evaluation

/-- The operators of a ring on integers. -/
def Operator.combine? (operator : Operator) (a b : Int) : Option Int :=
  match operator with
  | .add => some (a + b)
  | .sub => some (a - b)
  | .mul => some (a * b)
  | .div => none

/-- The exact integer that a tree of ints and chars stands for: a cast from one type of integers to
another does not count. Other trees stand for none. -/
def Statement.amount? : Node → Option Int
  | .literal (.int n) => some n
  | .literal (.char byte) => some byte.toNat
  | .operator op left right => do op.combine? (← left.amount?) (← right.amount?)
  | .cast type operand => if type.isIntegral then operand.amount? else none
  | .parenthesis inner => inner.amount?
  | _ => none

section bytes

theorem toNat_add_modEq (a b : UInt8) : ((a + b).toNat : Int) ≡ a.toNat + b.toNat [ZMOD 256] := by
  have exactly := UInt8.toNat_add a b
  unfold Int.ModEq
  omega

theorem toNat_sub_modEq (a b : UInt8) : ((a - b).toNat : Int) ≡ a.toNat - b.toNat [ZMOD 256] := by
  have exactly := UInt8.toNat_sub a b
  have bound := b.toNat_lt
  unfold Int.ModEq
  omega

theorem toNat_mul_modEq (a b : UInt8) : ((a * b).toNat : Int) ≡ a.toNat * b.toNat [ZMOD 256] := by
  have exactly := UInt8.toNat_mul a b
  rw [exactly, Int.natCast_emod, Int.natCast_mul]
  exact Int.mod_modEq _ _

theorem lowByte_modEq (n : Int) : ((lowByte n).toNat : Int) ≡ n [ZMOD 256] := by
  rw [toNat_lowByte]
  exact Int.mod_modEq n 256

end bytes

namespace Operator

theorem combine_modEq (operator : Operator) (a b c d n : Int) (left : a ≡ c [ZMOD 256])
    (right : b ≡ d [ZMOD 256]) (exactly : operator.combine? c d = some n) :
    ∃ m, operator.combine? a b = some m ∧ m ≡ n [ZMOD 256] := by
  cases operator with
  | add =>
    cases exactly
    exact ⟨_, rfl, left.add right⟩
  | sub =>
    cases exactly
    exact ⟨_, rfl, left.sub right⟩
  | mul =>
    cases exactly
    exact ⟨_, rfl, left.mul right⟩
  | div => cases exactly

theorem onInts_combine (operator : Operator) (a b n : Int)
    (exactly : operator.combine? a b = some n) : operator.onInts a b = .ok n := by
  cases operator <;> cases exactly <;> rfl

theorem onChars_combine (operator : Operator) (a b : UInt8) (n : Int)
    (exactly : operator.combine? a.toNat b.toNat = some n) :
    ∃ byte, operator.onChars a b = .ok byte ∧ (byte.toNat : Int) ≡ n [ZMOD 256] := by
  cases operator with
  | add =>
    cases exactly
    exact ⟨_, rfl, toNat_add_modEq a b⟩
  | sub =>
    cases exactly
    exact ⟨_, rfl, toNat_sub_modEq a b⟩
  | mul =>
    cases exactly
    exact ⟨_, rfl, toNat_mul_modEq a b⟩
  | div => cases exactly

/-- Ints and chars meet as ints unless both are chars, and the low byte is the same either way. -/
theorem apply_combine (operator : Operator) (left right : Literal) (a b n : Int)
    (onLeft : left.kind.isIntegral = true) (onRight : right.kind.isIntegral = true)
    (leftInt : left.toInt = .ok a) (rightInt : right.toInt = .ok b)
    (exactly : operator.combine? a b = some n) :
    ∃ literal m, operator.apply left right = .ok literal ∧ literal.kind.isIntegral = true ∧
      literal.toInt = .ok m ∧ m ≡ n [ZMOD 256] := by
  have asInts : operator.apply left right = (operator.onInts a b).map .int →
      ∃ literal m, operator.apply left right = .ok literal ∧ literal.kind.isIntegral = true ∧
        literal.toInt = .ok m ∧ m ≡ n [ZMOD 256] := by
    intro met
    rw [onInts_combine operator a b n exactly] at met
    exact ⟨.int n, n, met, rfl, rfl, rfl⟩
  cases left with
  | int x =>
    cases leftInt
    cases right with
    | int y | char y =>
      cases rightInt
      apply asInts
      cases operator <;> rfl
    | _ => cases onRight
  | char x =>
    cases leftInt
    cases right with
    | int y =>
      cases rightInt
      apply asInts
      cases operator <;> rfl
    | char y =>
      cases rightInt
      obtain ⟨byte, done, same⟩ := onChars_combine operator x y n exactly
      have met : operator.apply (.char x) (.char y) = (operator.onChars x y).map .char := by
        cases operator <;> rfl
      rw [done] at met
      exact ⟨.char byte, byte.toNat, met, rfl, rfl, same⟩
    | _ => cases onRight
  | _ => cases onLeft

end Operator

/-- An int, a char or a pointer whose low byte is that of the integer. -/
structure Value.Represents (value : Value) (n : Int) : Prop where
  integral : value.type.isIntegral = true
  residue : ∃ m, value.toInt = .ok m ∧ m ≡ n [ZMOD 256]

namespace Value

theorem represents_ofLiteral (literal : Literal) (m n : Int) (integral : literal.kind.isIntegral = true)
    (whole : literal.toInt = .ok m) (same : m ≡ n [ZMOD 256]) :
    (ofLiteral literal).Represents n := by
  cases literal with
  | int x => exact ⟨rfl, m, whole, same⟩
  | char x => exact ⟨rfl, m, whole, same⟩
  | _ => cases integral

theorem Represents.literal (value : Value) (n : Int) (represents : value.Represents n) :
    ∃ literal m, value.literal? = some literal ∧ literal.kind.isIntegral = true ∧
      literal.toInt = .ok m ∧ m ≡ n [ZMOD 256] := by
  obtain ⟨integral, m, whole, same⟩ := represents
  cases value with
  | int x => exact ⟨.int x, m, rfl, rfl, whole, same⟩
  | char x => exact ⟨.char x, m, rfl, rfl, whole, same⟩
  | pointer pointee x => exact ⟨.int x, m, rfl, rfl, whole, same⟩
  | _ => cases integral

theorem represents_hold (type : DataType) (n : Int) (held : Value) (holds : type.hold? n = some held) :
    held.Represents n := by
  cases type with
  | int | pointer _ =>
    cases holds
    exact ⟨rfl, n, rfl, rfl⟩
  | char =>
    cases holds
    exact ⟨rfl, _, rfl, lowByte_modEq n⟩
  | _ => cases holds

end Value

namespace Evaluation

variable (machine : Machine)

theorem operate_represents (op : Operator) (left right : Value) (a b n : Int)
    (onLeft : left.Represents a) (onRight : right.Represents b)
    (exactly : op.combine? a b = some n) :
    ∃ value, (operate op (.value left) (.value right)).runOn machine = (.ok (.value value), machine) ∧
      value.Represents n := by
  obtain ⟨x, c, leftCarries, leftKind, leftInt, leftSame⟩ := onLeft.literal
  obtain ⟨y, d, rightCarries, rightKind, rightInt, rightSame⟩ := onRight.literal
  obtain ⟨k, combined, near⟩ := op.combine_modEq c d a b n leftSame rightSame exactly
  obtain ⟨literal, m, done, kind, whole, same⟩ :=
    op.apply_combine x y c d k leftKind rightKind leftInt rightInt combined
  refine ⟨.ofLiteral literal, ?_, Value.represents_ofLiteral literal m n kind whole (same.trans near)⟩
  simp only [operate, require, operand, pure_bind, leftCarries, rightCarries, applySymbol_symbol, done]
  rfl

theorem cast_represents (type : DataType) (value : Value) (n : Int)
    (integral : type.isIntegral = true) (represents : value.Represents n) :
    ∃ stored, (Evaluation.cast type (.value value)).runOn machine = (.ok (.value stored), machine) ∧
      stored.Represents n := by
  obtain ⟨kinds, m, whole, same⟩ := represents
  have number := value.type.ne_string_of_integral kinds
  obtain ⟨held, holds⟩ := type.exists_hold integral m
  have coerced := (value.coerce_integral_iff held type number integral).mpr ⟨m, whole, holds⟩
  obtain ⟨heldKind, k, heldInt, near⟩ := Value.represents_hold type m held holds
  refine ⟨held, ?_, heldKind, k, heldInt, near.trans same⟩
  simp only [Evaluation.cast, require, pure_bind, coerced]
  rfl

end Evaluation

namespace Statement

theorem evaluate_represents (node : Node) (n : Int) (amounts : node.amount? = some n)
    (machine : Machine) :
    ∃ value, node.evaluate.runOn machine = (.ok (.value value), machine) ∧ value.Represents n := by
  induction node using evaluationInduction generalizing n with
  | literal literal =>
    cases literal with
    | int x | char x =>
      cases amounts
      exact ⟨_, rfl, rfl, _, rfl, rfl⟩
    | _ => cases amounts
  | operator op left right onLeft onRight =>
    obtain ⟨a, leftAmounts, amounts⟩ := Option.bind_eq_some_iff.mp amounts
    obtain ⟨b, rightAmounts, combined⟩ := Option.bind_eq_some_iff.mp amounts
    obtain ⟨leftValue, ranLeft, leftIs⟩ := onLeft a leftAmounts
    obtain ⟨rightValue, ranRight, rightIs⟩ := onRight b rightAmounts
    obtain ⟨value, ran, represents⟩ :=
      operate_represents machine op leftValue rightValue a b n leftIs rightIs combined
    refine ⟨value, ?_, represents⟩
    simp only [evaluate, runOn_bind, ranLeft, ranRight, ran]
  | cast type operand onOperand =>
    rw [amount?, Option.ite_none_right_eq_some] at amounts
    obtain ⟨given, ranOperand, givenIs⟩ := onOperand n amounts.2
    obtain ⟨stored, ran, represents⟩ := cast_represents machine type given n amounts.1 givenIs
    refine ⟨stored, ?_, represents⟩
    simp only [evaluate, runOn_bind, ranOperand, ran]
  | parenthesis inner onInner => exact onInner n amounts
  | _ => cases amounts

/-- A tree of ints and chars under sums, differences, products and casts to int, char or a pointer
succeeds on every machine and leaves it as it was, and its result is congruent modulo 256 to the
exact integer that the tree stands for. So is the char that the result would be cast to. -/
theorem low_byte_of_amount (node : Node) (n : Int) (amounts : node.amount? = some n)
    (machine : Machine) :
    ∃ value m, node.evaluate.runOn machine = (.ok (.value value), machine) ∧
      value.type.isIntegral = true ∧ value.toInt = .ok m ∧ m % 256 = n % 256 ∧
      value.coerce .char = .ok (.char (lowByte n)) := by
  obtain ⟨value, ran, integral, m, whole, same⟩ := evaluate_represents node n amounts machine
  have number := value.type.ne_string_of_integral integral
  have bytes : lowByte m = lowByte n := by rw [lowByte, same, lowByte]
  refine ⟨value, m, ran, integral, whole, same, ?_⟩
  apply (value.coerce_integral_iff _ .char number rfl).mpr
  exact ⟨m, whole, by rw [DataType.hold?, bytes]⟩

/-- The product is cut to a byte by a cast and the difference of two chars by being a char, and 1777
is still congruent to `300 * 120 - (-7) * (97 - 122)`. -/
theorem low_byte_of_masked_product :
    let node : Node := .operator .sub
      (.cast .char (.parenthesis (.operator .mul (.literal (.int 300)) (.literal (.char 120)))))
      (.operator .mul (.cast (.pointer .int) (.literal (.int (-7))))
        (.parenthesis (.operator .sub (.literal (.char 97)) (.literal (.char 122)))))
    let outcome := (node.evaluate.runOn (Machine.ofConfig ⟨4, 10⟩ true)).1
    node.amount? = some 35825 ∧ outcome = .ok (.value (.int 1777)) ∧
      (1777 : Int) % 256 = 35825 % 256 := by
  intro node outcome
  have amounts : node.amount? = some 35825 := by decide +kernel
  have ended : outcome = .ok (.value (.int 1777)) := by decide +kernel
  obtain ⟨value, m, ran, _, whole, same, _⟩ :=
    low_byte_of_amount node 35825 amounts (Machine.ofConfig ⟨4, 10⟩ true)
  have given : outcome = .ok (.value value) := congrArg Prod.fst ran
  rw [ended] at given
  cases given
  cases whole
  exact ⟨amounts, ended, same⟩

end Statement

end HeapConsole
