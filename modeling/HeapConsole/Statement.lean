import HeapConsole.Literal
import HeapConsole.Operator

/-! Statement trees. One shape serves trees whose types and literals are still text and trees whose
types and literals are known; the second are the nodes that are evaluated. -/
namespace HeapConsole

/-- A statement over types `τ` and literals `ℓ`. A missing statement, or a type outside the
arguments of a call, makes a tree malformed. -/
inductive Statement (τ ℓ : Type) where
  | missing
  | typeName (type : τ)
  | literal (literal : ℓ)
  | identifier (name : String)
  | declaration (name : String) (type : τ)
  | operator (operator : Operator) (left right : Statement τ ℓ)
  | cast (type : τ) (operand : Statement τ ℓ)
  | parenthesis (inner : Statement τ ℓ)
  | dereference (pointer : Statement τ ℓ)
  | assignment (target value : Statement τ ℓ)
  | call (function : String) (arguments : List (Statement τ ℓ))
deriving Repr

abbrev Node := Statement DataType Literal

namespace Statement

def isType {τ ℓ : Type} : Statement τ ℓ → Bool
  | .typeName _ => true
  | _ => false

/-- The name under which a message mentions the statement. -/
def nodeName {τ ℓ : Type} : Statement τ ℓ → String
  | .missing => "NoneType"
  | .typeName _ => "TypeNode"
  | .literal _ => "LiteralNode"
  | .identifier _ => "IdentifierNode"
  | .declaration _ _ => "DeclarationNode"
  | .operator _ _ _ => "OperatorNode"
  | .cast _ _ => "CastNode"
  | .parenthesis _ => "ParenthesisNode"
  | .dereference _ => "DereferenceNode"
  | .assignment _ _ => "AssignmentNode"
  | .call _ _ => "FunctionCallNode"

end Statement

end HeapConsole
