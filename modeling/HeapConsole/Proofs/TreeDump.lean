import HeapConsole.Statement.Dump
import Mathlib.Data.List.Forall2

/-! Trees read back from their JSON form. The reader finds the members of an object by name, so the
order in which they stand does not matter, and two trees with the same JSON value are the same. -/
namespace HeapConsole

namespace Json

/-- Equality of values, where the members of an object have no order. -/
inductive Same : Json → Json → Prop where
  | null : Same .null .null
  | int (value : Int) : Same (.int value) (.int value)
  | double (value : Double) : Same (.double value) (.double value)
  | string (value : String) : Same (.string value) (.string value)
  | array (items others : List Json) (each : List.Forall₂ Same items others) :
      Same (.array items) (.array others)
  | object (members others : List (String × Json))
      (bound : ∀ name, (members.lookup name).isSome = (others.lookup name).isSome)
      (each : ∀ name value other, members.lookup name = some value →
        others.lookup name = some other → Same value other) :
      Same (.object members) (.object others)

def isNull : Json → Bool
  | .null => true
  | _ => false

def member? (name : String) : Json → Option Json
  | .object members => members.lookup name
  | _ => none

theorem sizeOf_lookup (members : List (String × Json)) (name : String) (value : Json)
    (found : members.lookup name = some value) : sizeOf value < sizeOf members := by
  induction members with
  | nil => cases found
  | cons member rest ih =>
    obtain ⟨key, head⟩ := member
    rw [List.lookup_cons] at found
    rw [List.cons.sizeOf_spec, Prod.mk.sizeOf_spec]
    split at found
    · cases found
      omega
    · have smaller := ih found
      omega

theorem sizeOf_member? (name : String) (json part : Json)
    (found : json.member? name = some part) : sizeOf part < sizeOf json := by
  cases json with
  | object members =>
    have smaller := sizeOf_lookup members name part found
    rw [object.sizeOf_spec]
    omega
  | _ => cases found

/-- The value of a member, which is a smaller one. -/
def part? (name : String) (json : Json) : Option { part : Json // sizeOf part < sizeOf json } :=
  match found : json.member? name with
  | some part => some ⟨part, sizeOf_member? name json part found⟩
  | none => none

def items? (name : String) (json : Json) :
    Option (List { item : Json // sizeOf item < sizeOf json }) :=
  match json.part? name with
  | some ⟨.array items, smaller⟩ => some <| items.attach.map fun ⟨item, member⟩ =>
      ⟨item, by
        have inside := List.sizeOf_lt_of_mem member
        simp only [array.sizeOf_spec] at smaller
        omega⟩
  | _ => none

def text? (name : String) (json : Json) : Option String :=
  match json.member? name with
  | some (.string text) => some text
  | _ => none

def payload? : Json → Option Payload
  | .int value => some (.int value)
  | .double value => some (.double value)
  | .string value => some (.string value)
  | _ => none

theorem Same.refl (json : Json) : Same json json := by
  cases json with
  | array items =>
    exact .array items items (List.forall₂_same.mpr fun item member => Same.refl item)
  | object members =>
    refine .object members members (fun _ => rfl) fun name value other found again => ?_
    rw [found] at again
    cases again
    exact Same.refl value
  | null => exact .null
  | int value => exact .int value
  | double value => exact .double value
  | string value => exact .string value
termination_by sizeOf json
decreasing_by
  · have inside := List.sizeOf_lt_of_mem member
    rw [array.sizeOf_spec]
    omega
  · have inside := sizeOf_lookup members name value found
    rw [object.sizeOf_spec]
    omega

theorem Same.of_lookup (members others : List (String × Json))
    (alike : ∀ name, members.lookup name = others.lookup name) :
    Same (.object members) (.object others) := by
  refine .object members others (fun name => by rw [alike]) fun name value other found again => ?_
  rw [alike, again] at found
  cases found
  exact .refl value

/-- Members with two names can change places. -/
theorem Same.swap (first second : String) (value other : Json) (rest : List (String × Json))
    (distinct : first ≠ second) :
    Same (.object ((first, value) :: (second, other) :: rest))
      (.object ((second, other) :: (first, value) :: rest)) := by
  refine .of_lookup _ _ fun name => ?_
  simp only [List.lookup_cons]
  by_cases here : name = first
  · have apart : (name == second) = false := beq_false_of_ne (here ▸ distinct)
    rw [apart]
  · rw [beq_false_of_ne here]

section members

variable {json twin : Json} (same : Same json twin) (name : String)

include same

theorem Same.member? (part : Json) (found : json.member? name = some part) :
    ∃ other, twin.member? name = some other ∧ Same part other := by
  cases same with
  | object members others bound each =>
    have there : (others.lookup name).isSome = true := by
      rw [← bound, show members.lookup name = some part from found]
      rfl
    obtain ⟨other, again⟩ := Option.isSome_iff_exists.mp there
    exact ⟨other, again, each name part other found again⟩
  | _ => cases found

theorem Same.text? (text : String) (found : json.member? name = some (.string text)) :
    twin.text? name = some text := by
  obtain ⟨other, again, alike⟩ := same.member? name _ found
  cases alike
  rw [Json.text?, again]

theorem Same.part? (part : Json) (found : json.member? name = some part) :
    ∃ other, twin.part? name = some other ∧ Same part other.val := by
  obtain ⟨other, again, alike⟩ := same.member? name part found
  refine ⟨⟨other, sizeOf_member? name twin other again⟩, ?_, alike⟩
  unfold Json.part?
  split
  · next there third =>
    rw [again] at third
    cases third
    rfl
  · next missing =>
    rw [again] at missing
    cases missing

theorem Same.items? (items : List Json) (found : json.member? name = some (.array items)) :
    ∃ others, twin.items? name = some others ∧
      List.Forall₂ Same items (others.map Subtype.val) := by
  obtain ⟨⟨other, smaller⟩, again, alike⟩ := same.part? name _ found
  cases alike with
  | array _ others each =>
    refine ⟨_, by rw [Json.items?, again], ?_⟩
    simpa using each

theorem Same.payload? (payload : Payload) (found : json.payload? = some payload) :
    twin.payload? = some payload := by
  cases same with
  | array items others each => cases found
  | object members others bound each => cases found
  | _ => exact found

end members

end Json

theorem Operator.ofSymbol?_symbol (operator : Operator) :
    ofSymbol? operator.symbol = some operator := by
  cases operator <;> decide

theorem DataType.ofName?_name (type : DataType) : ofName? type.name = some type := by
  rcases type with _ | _ | _ | _ | _ | (_ | _) | _ <;> decide

theorem Kind.ofName?_name (kind : Kind) : ofName? kind.name = some kind := by
  cases kind <;> decide

def Literal.ofJson? (json : Json) : Option Literal := do
  let kind ← Kind.ofName? (← json.text? "nodeType")
  let payload ← (← json.member? kind.name).payload?
  payload.literal? kind

def DataType.ofJson? (json : Json) : Option DataType := do
  guard (json.text? "nodeType" = some "type")
  DataType.ofName? (← json.text? "type")

namespace Statement

def nameOfJson? (json : Json) : Option String := do
  guard (json.text? "nodeType" = some "identifier")
  json.text? "identifier"

/-- The tree of a JSON value, told by its node type. -/
def ofJson? (json : Json) : Option Node :=
  match json.text? "nodeType" with
  | none => if json.isNull then some .missing else none
  | some "type" => do return .typeName (← DataType.ofJson? json)
  | some "literal" => do return .literal (← Literal.ofJson? (← json.member? "literal"))
  | some "identifier" => do return .identifier (← nameOfJson? json)
  | some "declaration" => do
    let name ← nameOfJson? (← json.member? "identifier")
    return .declaration name (← DataType.ofJson? (← json.member? "type"))
  | some "operator" => do
    let op ← Operator.ofSymbol? (← json.text? "operator")
    let ⟨left, _⟩ ← json.part? "left"
    let ⟨right, _⟩ ← json.part? "right"
    return .operator op (← ofJson? left) (← ofJson? right)
  | some "cast" => do
    let type ← DataType.ofJson? (← json.member? "type")
    let ⟨operand, _⟩ ← json.part? "statement"
    return .cast type (← ofJson? operand)
  | some "parenthesis" => do
    let ⟨inner, _⟩ ← json.part? "statement"
    return .parenthesis (← ofJson? inner)
  | some "dereference" => do
    let ⟨pointer, _⟩ ← json.part? "statement"
    return .dereference (← ofJson? pointer)
  | some "assignment" => do
    let ⟨target, _⟩ ← json.part? "left"
    let ⟨value, _⟩ ← json.part? "right"
    return .assignment (← ofJson? target) (← ofJson? value)
  | some "functionCall" => do
    let function ← nameOfJson? (← json.member? "function_name")
    let items ← json.items? "arguments"
    return .call function (← items.mapM fun ⟨item, _⟩ => ofJson? item)
  | some _ => none
termination_by sizeOf json

section reading

variable {json : Json}

theorem type_of_same (type : DataType) (same : Json.Same type.toJson json) :
    DataType.ofJson? json = some type := by
  have kind := same.text? "nodeType" _ rfl
  have named := same.text? "type" _ rfl
  rw [DataType.ofJson?, kind, named]
  exact type.ofName?_name

theorem name_of_same (name : String) (same : Json.Same (nameJson name) json) :
    nameOfJson? json = some name := by
  have kind := same.text? "nodeType" _ rfl
  have named := same.text? "identifier" _ rfl
  rw [nameOfJson?, kind, named]
  rfl

/-- What the kind of a literal and its payload say. -/
theorem literal_of_parts (kind : Kind) (held : Json) (payload : Payload)
    (same : Json.Same
      (.object [("nodeType", .string kind.name), (kind.name, held)]) json)
    (unlike : kind.name ≠ "nodeType") (given : held.payload? = some payload) :
    Literal.ofJson? json = payload.literal? kind := by
  have named := same.text? "nodeType" _ rfl
  have stored : (Json.object [("nodeType", .string kind.name), (kind.name, held)]).member?
      kind.name = some held := by
    simp [Json.member?, List.lookup_cons, beq_false_of_ne unlike]
  obtain ⟨other, found, alike⟩ := same.member? kind.name _ stored
  simp only [Literal.ofJson?, named, found, alike.payload? payload given, kind.ofName?_name,
    Option.bind_eq_bind, Option.bind_some]

theorem literal_of_same (literal : Literal) (same : Json.Same literal.toJson json) :
    Literal.ofJson? json = some literal := by
  cases literal with
  | int value => exact literal_of_parts .int _ (.int value) same (by decide) rfl
  | double value => exact literal_of_parts .double _ (.double value) same (by decide) rfl
  | string value => exact literal_of_parts .string _ (.string value) same (by decide) rfl
  | char value =>
    rw [literal_of_parts .char _ (.int value.toNat) same (by decide) rfl]
    have small := value.toNat_lt
    rw [Payload.literal?, if_pos (by omega), Int.toNat_natCast, UInt8.ofNat_toNat]

theorem arguments_of_same (nodes : List Node)
    (items : List { item : Json // sizeOf item < sizeOf json })
    (each : ∀ node ∈ nodes, ∀ item : Json, Json.Same node.toJson item → ofJson? item = some node)
    (same : List.Forall₂ Json.Same (argumentsJson nodes) (items.map Subtype.val)) :
    (items.mapM fun item => ofJson? item.val) = some nodes := by
  induction nodes generalizing items with
  | nil =>
    cases items with
    | nil => rfl
    | cons item items => cases same
  | cons node nodes ih =>
    cases items with
    | nil => cases same
    | cons item items =>
      obtain ⟨head, tail⟩ := List.forall₂_cons.mp same
      have first := each node (by simp) item.val head
      have rest := ih items (fun other member => each other (by simp [member])) tail
      simp only [List.mapM_cons, first, rest, Option.bind_eq_bind, Option.bind_some,
        Option.pure_def]

/-- Whatever the order of the members, the tree is found again: the node type names the former, and
the other members its parts. -/
theorem ofJson?_of_same (node : Node) (json : Json) (same : Json.Same node.toJson json) :
    ofJson? json = some node := by
  cases node with
  | missing =>
    cases same
    rw [ofJson?]
    rfl
  | typeName type =>
    have kind := same.text? "nodeType" _ rfl
    rw [ofJson?, kind]
    simp [type_of_same type same]
  | literal value =>
    have kind := same.text? "nodeType" _ rfl
    obtain ⟨l, found, alike⟩ := same.member? "literal" _ rfl
    rw [ofJson?, kind]
    simp [found, literal_of_same value alike]
  | identifier name =>
    have kind := same.text? "nodeType" _ rfl
    rw [ofJson?, kind]
    simp [name_of_same name same]
  | declaration name type =>
    have kind := same.text? "nodeType" _ rfl
    obtain ⟨n, nameFound, nameSame⟩ := same.member? "identifier" _ rfl
    obtain ⟨t, typeFound, typeSame⟩ := same.member? "type" _ rfl
    rw [ofJson?, kind]
    simp [nameFound, name_of_same name nameSame, typeFound, type_of_same type typeSame]
  | operator op left right =>
    have kind := same.text? "nodeType" _ rfl
    have symbol := same.text? "operator" _ rfl
    obtain ⟨l, leftFound, leftSame⟩ := same.part? "left" _ rfl
    obtain ⟨r, rightFound, rightSame⟩ := same.part? "right" _ rfl
    have onLeft := ofJson?_of_same left l.val leftSame
    have onRight := ofJson?_of_same right r.val rightSame
    rw [ofJson?, kind]
    simp [symbol, op.ofSymbol?_symbol, leftFound, rightFound, onLeft, onRight]
  | cast type operand =>
    have kind := same.text? "nodeType" _ rfl
    obtain ⟨t, typeFound, typeSame⟩ := same.member? "type" _ rfl
    obtain ⟨o, found, alike⟩ := same.part? "statement" _ rfl
    have onOperand := ofJson?_of_same operand o.val alike
    rw [ofJson?, kind]
    simp [typeFound, type_of_same type typeSame, found, onOperand]
  | parenthesis inner =>
    have kind := same.text? "nodeType" _ rfl
    obtain ⟨i, found, alike⟩ := same.part? "statement" _ rfl
    have onInner := ofJson?_of_same inner i.val alike
    rw [ofJson?, kind]
    simp [found, onInner]
  | dereference pointer =>
    have kind := same.text? "nodeType" _ rfl
    obtain ⟨p, found, alike⟩ := same.part? "statement" _ rfl
    have onPointer := ofJson?_of_same pointer p.val alike
    rw [ofJson?, kind]
    simp [found, onPointer]
  | assignment target value =>
    have kind := same.text? "nodeType" _ rfl
    obtain ⟨l, leftFound, leftSame⟩ := same.part? "left" _ rfl
    obtain ⟨r, rightFound, rightSame⟩ := same.part? "right" _ rfl
    have onTarget := ofJson?_of_same target l.val leftSame
    have onValue := ofJson?_of_same value r.val rightSame
    rw [ofJson?, kind]
    simp [leftFound, rightFound, onTarget, onValue]
  | call function arguments =>
    have kind := same.text? "nodeType" _ rfl
    obtain ⟨f, functionFound, functionSame⟩ := same.member? "function_name" _ rfl
    obtain ⟨items, found, alike⟩ := same.items? "arguments" _ rfl
    have each := arguments_of_same arguments items
      (fun node member item below => ofJson?_of_same node item below) alike
    rw [ofJson?, kind]
    simp only [functionFound, name_of_same function functionSame, found, each, Option.bind_eq_bind,
      Option.bind_some, Option.pure_def]
termination_by sizeOf node

end reading

/-- A tree is read back from its JSON value, in whatever order the members of that stand, so trees
with the same JSON value are the same. -/
theorem toJson_lossless :
    (∀ node : Node, ofJson? node.toJson = some node) ∧
    (∀ (node : Node) (json : Json), Json.Same node.toJson json → ofJson? json = some node) ∧
    ∀ left right : Node, Json.Same left.toJson right.toJson → left = right := by
  have whole (node : Node) : ofJson? node.toJson = some node :=
    ofJson?_of_same node _ (.refl _)
  refine ⟨whole, ofJson?_of_same, fun left right same => ?_⟩
  have found := ofJson?_of_same left right.toJson same
  rw [whole right] at found
  exact (Option.some.inj found).symm

theorem toJson_lossless_of_swapped_members :
    let node : Node := .call "f" [.typeName .int, .missing]
    let json : Json := .object [("function_name", nameJson "f"),
      ("nodeType", .string "functionCall"), ("arguments", .array [DataType.int.toJson, .null])]
    Json.Same node.toJson json ∧ ofJson? json = some node := by
  intro node json
  have same : Json.Same node.toJson json := .swap _ _ _ _ _ (by decide)
  exact ⟨same, toJson_lossless.2.1 node json same⟩

end Statement

end HeapConsole
