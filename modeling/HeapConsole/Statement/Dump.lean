import HeapConsole.Json
import HeapConsole.Statement

/-! Nodes written out: as JSON objects marked with their node type, and in constructor form. -/
namespace HeapConsole

def Literal.toJson : Literal → Json
  | .int value => .object [("nodeType", .string "int"), ("int", .int value)]
  | .double value => .object [("nodeType", .string "double"), ("double", .double value)]
  | .char value => .object [("nodeType", .string "char"), ("char", .int value.toNat)]
  | .string value => .object [("nodeType", .string "string"), ("string", .string value)]

def DataType.toJson (type : DataType) : Json :=
  .object [("nodeType", .string "type"), ("type", .string type.name)]

def DataType.describe (type : DataType) : String :=
  "TypeNode(type=<TypeTag." ++ type.constant ++ ": " ++ Text.quote type.name ++ ">)"

def Operator.describe (operator : Operator) : String :=
  "<BinOp." ++ operator.constant ++ ": " ++ Text.quote operator.symbol ++ ">"

namespace Statement

def nameJson (name : String) : Json :=
  .object [("nodeType", .string "identifier"), ("identifier", .string name)]

mutual

def toJson : Node → Json
  | .missing => .null
  | .typeName type => type.toJson
  | .literal value => .object [("nodeType", .string "literal"), ("literal", value.toJson)]
  | .identifier name => nameJson name
  | .declaration name type =>
    .object [("nodeType", .string "declaration"), ("identifier", nameJson name),
      ("type", type.toJson)]
  | .operator op left right =>
    .object [("nodeType", .string "operator"), ("operator", .string op.symbol),
      ("left", left.toJson), ("right", right.toJson)]
  | .cast type operand =>
    .object [("nodeType", .string "cast"), ("type", type.toJson), ("statement", operand.toJson)]
  | .parenthesis inner =>
    .object [("nodeType", .string "parenthesis"), ("statement", inner.toJson)]
  | .dereference pointer =>
    .object [("nodeType", .string "dereference"), ("statement", pointer.toJson)]
  | .assignment target value =>
    .object [("nodeType", .string "assignment"), ("left", target.toJson), ("right", value.toJson)]
  | .call function arguments =>
    .object [("nodeType", .string "functionCall"), ("function_name", nameJson function),
      ("arguments", .array (argumentsJson arguments))]

def argumentsJson : List Node → List Json
  | [] => []
  | argument :: arguments => argument.toJson :: argumentsJson arguments

end

def describeName (name : String) : String := "IdentifierNode(identifier=" ++ Text.quote name ++ ")"

mutual

def describe : Node → String
  | .missing => "None"
  | .typeName type => type.describe
  | .literal value => "LiteralNode(literal=" ++ value.describe ++ ")"
  | .identifier name => describeName name
  | .declaration name type =>
    "DeclarationNode(identifier=" ++ describeName name ++ ", type=" ++ type.describe ++ ")"
  | .operator op left right =>
    "OperatorNode(operator=" ++ op.describe ++ ", left=" ++ left.describe ++ ", right=" ++
      right.describe ++ ")"
  | .cast type operand =>
    "CastNode(type=" ++ type.describe ++ ", statement=" ++ operand.describe ++ ")"
  | .parenthesis inner => "ParenthesisNode(statement=" ++ inner.describe ++ ")"
  | .dereference pointer => "DereferenceNode(statement=" ++ pointer.describe ++ ")"
  | .assignment target value =>
    "AssignmentNode(left=" ++ target.describe ++ ", right=" ++ value.describe ++ ")"
  | .call function arguments =>
    "FunctionCallNode(function_name=" ++ describeName function ++ ", arguments=[" ++
      ", ".intercalate (describeArguments arguments) ++ "])"

def describeArguments : List Node → List String
  | [] => []
  | argument :: arguments => argument.describe :: describeArguments arguments

end

end Statement

end HeapConsole
