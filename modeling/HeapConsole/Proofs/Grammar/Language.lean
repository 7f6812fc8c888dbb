import HeapConsole.Proofs.Grammar.Lexeme
import Mathlib.Data.List.Forall2

/-! The language that statements are written in: which trees belong to it, whatever their types and
literals are, and which texts write a tree. Neither mentions the rules that read a text. -/
namespace HeapConsole

open Grammar Text

namespace Operator

/-- Addition and subtraction bind least tightly. -/
def tightness (op : Operator) : Nat := if op.isAdditive then 0 else 1

theorem tightness_le (op : Operator) : op.tightness ≤ 1 := by
  cases op <;> decide

def mark : Operator → Char
  | .add => '+'
  | .sub => '-'
  | .mul => '*'
  | .div => '/'

theorem symbol_toList (op : Operator) : op.symbol.toList = [op.mark] := by
  cases op <;> rfl

end Operator

def IsName (name : String) : Prop := IsWord name.toList

instance (name : String) : Decidable (IsName name) := inferInstanceAs (Decidable (IsWord _))

namespace Statement

section trees

variable {τ ℓ : Type}

/-- How tightly the parts of a statement hold together; only operators let them go. -/
def tightness : Statement τ ℓ → Nat
  | .operator op _ _ => op.tightness
  | _ => 2

theorem tightness_le (statement : Statement τ ℓ) : statement.tightness ≤ 2 := by
  cases statement with
  | operator op left right => exact Nat.le_succ_of_le op.tightness_le
  | _ => exact Nat.le_refl 2

/-- Induction along the left operands, down to the first statement that is no operator. -/
theorem leftInduction {motive : Statement τ ℓ → Prop}
    (operator : ∀ op left right, motive left → motive (.operator op left right))
    (whole : ∀ statement, statement.tightness = 2 → motive statement) (statement : Statement τ ℓ) :
    motive statement := by
  match statement with
  | .operator op left right => exact operator op left right (leftInduction operator whole left)
  | .missing | .typeName _ | .literal _ | .identifier _ | .declaration _ _ | .cast _ _
  | .parenthesis _ | .dereference _ | .assignment _ _ | .call _ _ => exact whole _ rfl

variable (types : τ → Prop) (literals : ℓ → Prop)

/-- Expressions over the given types and literals. Operators associate to the left, and no operator
stands under a cast or a dereference without parentheses. -/
inductive IsExpression : Statement τ ℓ → Prop where
  | literal (literal : ℓ) (known : literals literal) : IsExpression (.literal literal)
  | identifier (name : String) (named : IsName name) : IsExpression (.identifier name)
  | operator (op : Operator) (left right : Statement τ ℓ)
      (loose : op.tightness ≤ left.tightness) (tight : op.tightness < right.tightness)
      (onLeft : IsExpression left) (onRight : IsExpression right) :
      IsExpression (.operator op left right)
  | cast (type : τ) (operand : Statement τ ℓ) (known : types type) (whole : operand.tightness = 2)
      (below : IsExpression operand) : IsExpression (.cast type operand)
  | parenthesis (inner : Statement τ ℓ) (below : IsExpression inner) :
      IsExpression (.parenthesis inner)
  | dereference (pointer : Statement τ ℓ) (whole : pointer.tightness = 2)
      (below : IsExpression pointer) : IsExpression (.dereference pointer)
  | call (function : String) (arguments : List (Statement τ ℓ)) (named : IsName function)
      (known : ∀ type, .typeName type ∈ arguments → types type)
      (below : ∀ argument ∈ arguments, argument.isType = false → IsExpression argument) :
      IsExpression (.call function arguments)

structure IsArgument (argument : Statement τ ℓ) : Prop where
  known : ∀ type, argument = .typeName type → types type
  below : argument.isType = false → IsExpression types literals argument

theorem isExpression_call (function : String) (arguments : List (Statement τ ℓ))
    (named : IsName function)
    (below : ∀ argument ∈ arguments, IsArgument types literals argument) :
    IsExpression types literals (.call function arguments) :=
  .call function arguments named (fun type member => (below _ member).known type rfl)
    fun argument member => (below argument member).below

inductive IsPlace : Statement τ ℓ → Prop where
  | declaration (name : String) (type : τ) (named : IsName name) (known : types type) :
      IsPlace (.declaration name type)
  | identifier (name : String) (named : IsName name) : IsPlace (.identifier name)
  | dereference (pointer : Statement τ ℓ) (whole : pointer.tightness = 2)
      (below : IsExpression types literals pointer) : IsPlace (.dereference pointer)

/-- Whole statements. Declarations and assignments have no place below the root. -/
inductive IsSentence : Statement τ ℓ → Prop where
  | declaration (name : String) (type : τ) (named : IsName name) (known : types type) :
      IsSentence (.declaration name type)
  | assignment (target value : Statement τ ℓ) (place : IsPlace types literals target)
      (valued : IsExpression types literals value) : IsSentence (.assignment target value)
  | expression (statement : Statement τ ℓ) (valued : IsExpression types literals statement) :
      IsSentence statement

end trees

end Statement

/-- The types that can be named: native functions have a type without a written form. -/
def DataType.IsNamed (type : DataType) : Prop := type ≠ .nativeFunction

def DataType.keyword : DataType → List Char
  | .pointer .int => DataType.int.name.toList
  | .pointer .char => DataType.char.name.toList
  | type => type.name.toList

/-- A pointer type is written with a star, and blanks may stand before it. -/
def DataType.WrittenAs (type : DataType) (text : List Char) : Prop :=
  if type.isPointer then ∃ gap, Blanks gap ∧ text = type.keyword ++ (gap ++ ['*'])
  else text = type.keyword

/-- A piece of a quoted text stands for a character, as itself or by an escape. -/
def Denotes (mark : Char) (piece : List Char) (c : Char) : Prop :=
  (piece = [c] ∧ c ≠ mark ∧ c ≠ '\\') ∨ ∃ escape, piece = ['\\', escape] ∧ escaped? escape = some c

namespace Literal

/-- The spellings of a literal: an integer in either base with any number of leading zeros, up to
the longest decimal numeral; a char or a string with each character as itself or by an escape. -/
inductive SpelledAs : Literal → List Char → Prop where
  | decimal (negative : Bool) (digits : List Char) (several : Several Numeral.isDigit digits)
      (short : digits.length ≤ Numeral.maxDigits) :
      SpelledAs (.int (Numeral.signed negative (Numeral.value 10 digits)))
        (withSign negative digits)
  | hexadecimal (negative : Bool) (mark : Char) (digits : List Char)
      (marked : Scan.isHexMark mark = true) (several : Several Numeral.isHexDigit digits) :
      SpelledAs (.int (Numeral.signed negative (Numeral.value 16 digits)))
        (withSign negative ('0' :: mark :: digits))
  | character (byte : UInt8) (piece : List Char) (c : Char)
      (denotes : Denotes apostrophe piece c) (fits : c.toNat = byte.toNat) :
      SpelledAs (.char byte) (enclosed apostrophe piece)
  | string (text : String) (pieces : List (List Char))
      (denotes : List.Forall₂ (Denotes quotationMark) pieces text.toList) :
      SpelledAs (.string text) (enclosed quotationMark pieces.flatten)

/-- The literals that the language writes, apart from doubles. -/
def IsPlain : Literal → Prop
  | .int value => Numeral.Writable value
  | .double _ => False
  | .char _ => True
  | .string _ => True

instance : DecidablePred IsPlain
  | .int value => inferInstanceAs (Decidable (Numeral.Writable value))
  | .double _ => isFalse id
  | .char _ => isTrue trivial
  | .string _ => isTrue trivial

end Literal

namespace Statement

mutual

/-- The texts that write a node: its tokens in order, with any blanks where blanks may stand. Only
a declaration needs some, between a name and a word before it. -/
inductive WrittenAs : Node → List Char → Prop where
  | typeName (type : DataType) (text : List Char) (typed : type.WrittenAs text) :
      WrittenAs (.typeName type) text
  | literal (literal : Literal) (text : List Char) (spelled : literal.SpelledAs text) :
      WrittenAs (.literal literal) text
  | identifier (name : String) : WrittenAs (.identifier name) name.toList
  | declaration (name : String) (type : DataType) (word gap : List Char)
      (typed : type.WrittenAs word) (blank : Blanks gap)
      (apart : type.isPointer = false → gap ≠ []) :
      WrittenAs (.declaration name type) (word ++ (gap ++ name.toList))
  | operator (op : Operator) (left right : Node) (leftText before after rightText : List Char)
      (onLeft : WrittenAs left leftText) (blankBefore : Blanks before) (blankAfter : Blanks after)
      (onRight : WrittenAs right rightText) :
      WrittenAs (.operator op left right)
        (leftText ++ (before ++ (op.symbol.toList ++ (after ++ rightText))))
  | cast (type : DataType) (operand : Node) (first word second third text : List Char)
      (blankFirst : Blanks first) (typed : type.WrittenAs word) (blankSecond : Blanks second)
      (blankThird : Blanks third) (below : WrittenAs operand text) :
      WrittenAs (.cast type operand)
        ('(' :: (first ++ (word ++ (second ++ (')' :: (third ++ text))))))
  | parenthesis (inner : Node) (before text after : List Char) (blankBefore : Blanks before)
      (below : WrittenAs inner text) (blankAfter : Blanks after) :
      WrittenAs (.parenthesis inner) ('(' :: (before ++ (text ++ (after ++ [')']))))
  | dereference (pointer : Node) (gap text : List Char) (blank : Blanks gap)
      (below : WrittenAs pointer text) : WrittenAs (.dereference pointer) ('*' :: (gap ++ text))
  | assignment (target value : Node) (targetText before after valueText : List Char)
      (onLeft : WrittenAs target targetText) (blankBefore : Blanks before)
      (blankAfter : Blanks after) (onRight : WrittenAs value valueText) :
      WrittenAs (.assignment target value)
        (targetText ++ (before ++ ('=' :: (after ++ valueText))))
  | call (function : String) (arguments : List Node) (first second text third : List Char)
      (blankFirst : Blanks first) (blankSecond : Blanks second)
      (below : ListedAs arguments text) (blankThird : Blanks third) :
      WrittenAs (.call function arguments)
        (function.toList ++ (first ++ ('(' :: (second ++ (text ++ (third ++ [')']))))))

inductive ListedAs : List Node → List Char → Prop where
  | nil : ListedAs [] []
  | single (argument : Node) (text : List Char) (written : WrittenAs argument text) :
      ListedAs [argument] text
  | cons (argument next : Node) (others : List Node) (text before after othersText : List Char)
      (written : WrittenAs argument text) (blankBefore : Blanks before)
      (blankAfter : Blanks after) (listed : ListedAs (next :: others) othersText) :
      ListedAs (argument :: next :: others) (text ++ (before ++ (',' :: (after ++ othersText))))

end

/-- The texts that write a whole statement: blanks on either side, and possibly a semicolon and
more blanks. -/
def FullyWrittenAs (node : Node) (text : List Char) : Prop :=
  ∃ before body after closing, Blanks before ∧ node.WrittenAs body ∧ Blanks after ∧
    (closing = [] ∨ ∃ last, Blanks last ∧ closing = ';' :: last) ∧
    text = before ++ (body ++ (after ++ closing))

end Statement

end HeapConsole
