import HeapConsole.Proofs.Bindings

/-! The type of a statement, told from the types of the names in scope alone. Nothing is checked
before a statement runs, but if it succeeds then its result is of that type. -/
namespace HeapConsole

open Evaluation

def Scope.types (scope : Scope) (name : String) : Option DataType :=
  (scope.find? name).map Value.type

namespace Operator

def ladder? (operator : Operator) : Kind → Kind → Option Kind
  | .int, .int => some .int
  | .int, .double | .double, .int | .double, .double => some .double
  | .char, .char => some .char
  | .int, .char | .char, .int => some .int
  | .char, .string | .string, .char | .string, .string =>
    if operator = .add then some .string else none
  | .int, .string | .string, .int | .double, .char | .char, .double | .double, .string
  | .string, .double => none

/-- Operands are literals, and a pointer counts as its address. -/
def type? (operator : Operator) (left right : DataType) : Option DataType := do
  let domain ← operator.ladder? (← left.kind?) (← right.kind?)
  return domain.type

end Operator

def DataType.pointed? : DataType → Option DataType
  | .pointer .int => some .int
  | .pointer .char => some .char
  | _ => none

/-- The type of a node under the given types of names; a statement without a value is void. -/
def Statement.typeIn? (types : String → Option DataType) : Node → Option DataType
  | .missing | .typeName _ => none
  | .literal value => some value.kind.type
  | .identifier name => types name
  | .declaration _ _ => some .void
  | .operator op left right => do op.type? (← left.typeIn? types) (← right.typeIn? types)
  | .cast type _ => some type
  | .parenthesis inner => inner.typeIn? types
  | .dereference pointer => do (← pointer.typeIn? types).pointed?
  | .assignment (.identifier name) _ => types name
  | .assignment (.declaration _ type) _ => some type
  | .assignment (.dereference _) _ => some .int
  | .assignment _ _ => none
  | .call function _ =>
    if types function = some .nativeFunction then
      (Builtin.ofName? function).map fun builtin => builtin.signature.returns
    else none

section parts

variable (machine after : Machine) (result : Result)

theorem Operator.domain?_eq_ladder? (operator : Operator) (left right : Kind) :
    operator.domain? left right = operator.ladder? left right := by
  cases left <;> cases right <;> cases operator <;> rfl

theorem Operator.within_kind (operator : Operator) (domain : Kind) (left right literal : Literal)
    (done : operator.within domain left right = .ok literal) : literal.kind = domain := by
  unfold within at done
  split at done
  · obtain ⟨_, _, rfl⟩ := exists_of_map_ok _ _ _ done
    rfl
  · obtain ⟨_, _, rfl⟩ := exists_of_map_ok _ _ _ done
    rfl
  · obtain ⟨_, _, rfl⟩ := exists_of_map_ok _ _ _ done
    rfl
  · cases done
    rfl
  · cases done

theorem Operator.apply_kind (operator : Operator) (left right literal : Literal)
    (done : operator.apply left right = .ok literal) :
    operator.ladder? left.kind right.kind = some literal.kind := by
  rw [← domain?_eq_ladder?]
  unfold apply at done
  split at done
  · next domain meet =>
    obtain ⟨a, _, done⟩ := exists_of_bind_ok _ _ _ done
    obtain ⟨b, _, done⟩ := exists_of_bind_ok _ _ _ done
    rw [meet, operator.within_kind domain a b literal done]
  · split at done <;> cases done

theorem Value.ofLiteral_type (literal : Literal) : (ofLiteral literal).type = literal.kind.type := by
  cases literal <;> rfl

theorem Evaluation.literal_of_operand (side : Side) (value : Value) (literal : Literal)
    (ran : (operand side value).runOn machine = (.ok literal, after)) :
    value.literal? = some literal := by
  unfold operand at ran
  split at ran
  · next found =>
    cases ran
    exact found
  · cases ran

theorem Evaluation.operate_type (op : Operator) (left right : Result)
    (ran : (operate op left right).runOn machine = (.ok result, after)) :
    op.type? left.type right.type = some result.type := by
  obtain ⟨leftValue, _, onLeft, ran⟩ := runOn_bind_ok _ _ _ _ _ ran
  obtain ⟨rightValue, _, onRight, ran⟩ := runOn_bind_ok _ _ _ _ _ ran
  obtain ⟨a, _, leftCarries, ran⟩ := runOn_bind_ok _ _ _ _ _ ran
  obtain ⟨b, _, rightCarries, ran⟩ := runOn_bind_ok _ _ _ _ _ ran
  obtain ⟨literal, _, done, ran⟩ := runOn_bind_ok _ _ _ _ _ ran
  cases ran
  have leftIs := (eq_value_of_require _ left _ _ leftValue onLeft).1
  have rightIs := (eq_value_of_require _ right _ _ rightValue onRight).1
  have leftKind := leftValue.kind?_of_literal a (literal_of_operand _ _ _ _ a leftCarries)
  have rightKind := rightValue.kind?_of_literal b (literal_of_operand _ _ _ _ b rightCarries)
  have applied := (eq_ok_of_lift _ _ _ _ done).1
  rw [applySymbol_symbol] at applied
  have domain := op.apply_kind a b literal applied
  simp [Operator.type?, leftIs, rightIs, Result.type, leftKind, rightKind, domain,
    Value.ofLiteral_type]

theorem Evaluation.cast_type (type : DataType) (given : Result)
    (ran : (Evaluation.cast type given).runOn machine = (.ok result, after)) :
    result.type = type := by
  obtain ⟨value, _, _, ran⟩ := runOn_bind_ok _ _ _ _ _ ran
  obtain ⟨stored, _, coerced, ran⟩ := runOn_bind_ok _ _ _ _ _ ran
  cases ran
  exact value.coerce_type stored type (eq_ok_of_lift _ _ _ _ coerced).1

theorem Memory.pointed_type (pointee : Pointee) (byte : UInt8) :
    (DataType.pointer pointee).pointed? = some (pointed pointee byte).type := by
  cases pointee <;> rfl

theorem Memory.load_type (memory : Memory) (address : Int) (pointee : Pointee) (value : Value)
    (loaded : memory.load address (.pointer pointee) = .ok value) :
    (DataType.pointer pointee).pointed? = some value.type := by
  obtain ⟨byte, _, loaded⟩ := exists_of_bind_ok _ _ _ loaded
  cases loaded
  exact pointed_type pointee byte

theorem Evaluation.pointer_of_resolve (pointer : Result) (place : Pointee × Int)
    (ran : (resolve pointer).runOn machine = (.ok place, after)) :
    pointer = .value (.pointer place.1 place.2) := by
  obtain ⟨value, _, given, ran⟩ := runOn_bind_ok _ _ _ _ _ ran
  rw [(eq_value_of_require _ pointer _ _ value given).1]
  cases value with
  | pointer pointee address =>
    obtain ⟨_, _, _, ran⟩ := runOn_bind_ok _ _ _ _ _ ran
    obtain ⟨_, _, _, ran⟩ := runOn_bind_ok _ _ _ _ _ ran
    cases ran
    rfl
  | _ => cases ran

theorem Evaluation.load_type (pointer : Result)
    (ran : (load pointer).runOn machine = (.ok result, after)) :
    pointer.type.pointed? = some result.type := by
  obtain ⟨place, _, resolved, ran⟩ := runOn_bind_ok _ _ _ _ _ ran
  obtain ⟨current, _, _, ran⟩ := runOn_bind_ok _ _ _ _ _ ran
  obtain ⟨value, _, loaded, ran⟩ := runOn_bind_ok _ _ _ _ _ ran
  cases ran
  rw [pointer_of_resolve _ _ pointer place resolved]
  exact Memory.load_type _ place.2 place.1 value (eq_ok_of_lift _ _ _ _ loaded).1

theorem Evaluation.store_type (address : Int) (value : Value)
    (ran : (store address value).runOn machine = (.ok result, after)) : result.type = .int := by
  obtain ⟨_, _, _, ran⟩ := runOn_bind_ok _ _ _ _ _ ran
  obtain ⟨_, _, _, ran⟩ := runOn_bind_ok _ _ _ _ _ ran
  obtain ⟨_, _, _, ran⟩ := runOn_bind_ok _ _ _ _ _ ran
  cases ran
  rfl

theorem Evaluation.assign_type (name : String) (value : Value)
    (ran : (assign name value).runOn machine = (.ok result, after)) :
    machine.scope.types name = some result.type := by
  obtain ⟨old, _, found, ran⟩ := runOn_bind_ok _ _ _ _ _ ran
  obtain ⟨stored, _, coerced, ran⟩ := runOn_bind_ok _ _ _ _ _ ran
  obtain ⟨_, _, _, ran⟩ := runOn_bind_ok _ _ _ _ _ ran
  cases ran
  have typed := value.coerce_type stored old.type (eq_ok_of_lift _ _ _ _ coerced).1
  rw [Scope.types, (found_of_lookup name _ _ old found).1, Result.type, typed]
  rfl

theorem Builtin.run_type (builtin : Builtin) (arguments : List Argument)
    (ran : (builtin.run arguments).runOn machine = (.ok result, after)) :
    result.type = builtin.signature.returns := by
  cases builtin with
  | malloc =>
    simp only [run, runMalloc] at ran
    split at ran
    · cases ran
    · obtain ⟨_, _, _, ran⟩ := runOn_bind_ok _ _ _ _ _ ran
      obtain ⟨_, _, _, ran⟩ := runOn_bind_ok _ _ _ _ _ ran
      obtain ⟨_, _, _, ran⟩ := runOn_bind_ok _ _ _ _ _ ran
      obtain ⟨_, _, _, ran⟩ := runOn_bind_ok _ _ _ _ _ ran
      cases ran
      rfl
  | clear | reset =>
    cases ran
    rfl
  | setDisplayBase =>
    obtain ⟨number, _, _, ran⟩ := runOn_bind_ok _ _ _ _ _ ran
    split at ran
    · cases ran
      rfl
    · cases ran
  | sizeof =>
    simp only [run, runSizeof] at ran
    split at ran
    · split at ran
      · cases ran
        rfl
      · cases ran
    · cases ran
    · cases ran

theorem Evaluation.call_type (function : String) (builtin : Builtin) (arguments : List Argument)
    (ran : (call function builtin arguments).runOn machine = (.ok result, after)) :
    result.type = builtin.signature.returns := by
  unfold call at ran
  split at ran
  · cases ran
  · obtain ⟨_, current, _, ran⟩ := runOn_bind_ok _ _ _ _ _ ran
    unfold Builtin.invoke at ran
    split at ran
    · exact builtin.run_type current after result arguments ran
    · cases ran

theorem Evaluation.types_of_declare (name : String) (type : DataType)
    (ran : (declare name type).runOn machine = (.ok (), after)) :
    after.scope.types name = some type := by
  obtain ⟨zero, _, initial, ran⟩ := runOn_bind_ok _ _ _ _ _ ran
  cases ran
  have typed := (blank_type type zero (eq_ok_of_lift _ _ _ _ initial).1).1
  show ((Scope.insert _ name zero).find? name).map Value.type = some type
  rw [Scope.find?_insert, if_pos rfl, Option.map_some, typed]

theorem Evaluation.native_of_callee (name : String) (builtin : Builtin)
    (ran : (callee name).runOn machine = (.ok builtin, after)) :
    machine.scope.find? name = some (.native builtin) := by
  obtain ⟨value, _, found, ran⟩ := runOn_bind_ok _ _ _ _ _ ran
  rw [(found_of_lookup name _ _ value found).1]
  cases value with
  | native other =>
    cases ran
    rfl
  | _ => cases ran

end parts

theorem Builtin.ofName?_name (builtin : Builtin) : ofName? builtin.name = some builtin := by
  cases builtin <;> decide

namespace Statement

theorem typeIn?_call (scope : Scope) (own : scope.OwnNames) (function : String)
    (arguments : List Node) (builtin : Builtin)
    (found : scope.find? function = some (.native builtin)) :
    (Statement.call function arguments : Node).typeIn? scope.types =
      some builtin.signature.returns := by
  have typed : scope.types function = some .nativeFunction := by
    rw [Scope.types, found]
    rfl
  rw [typeIn?, if_pos typed, own function builtin found, builtin.ofName?_name]
  rfl

section expressions

variable {types : DataType → Prop} {literals : Literal → Prop}

theorem scope_of_expression (node : Node) (expression : node.IsExpression types literals)
    (machine after : Machine) (outcome : Except Failure Result)
    (ran : node.evaluate.runOn machine = (outcome, after)) : after.scope = machine.scope := by
  have kept := (reading_expression node expression).scope_eq machine
  rwa [ran] at kept

/-- The scope stays the same while an expression runs, so that all of its parts are typed alike. -/
theorem type_of_expression (node : Node) (expression : node.IsExpression types literals)
    (scope : Scope) (own : scope.OwnNames) (machine after : Machine) (result : Result)
    (here : machine.scope = scope) (ran : node.evaluate.runOn machine = (.ok result, after)) :
    node.typeIn? scope.types = some result.type := by
  induction expression generalizing machine after result with
  | literal literal _ =>
    cases ran
    rw [typeIn?, Result.type, Value.ofLiteral_type]
  | identifier name _ =>
    obtain ⟨value, _, found, ran⟩ := runOn_bind_ok _ _ _ _ _ ran
    cases ran
    rw [typeIn?, Scope.types, ← here, (found_of_lookup name _ _ value found).1]
    rfl
  | operator op left right _ _ onLeft _ leftTyped rightTyped =>
    obtain ⟨l, middle, ranLeft, ran⟩ := runOn_bind_ok _ _ _ _ _ ran
    obtain ⟨r, last, ranRight, ran⟩ := runOn_bind_ok _ _ _ _ _ ran
    have kept := scope_of_expression left onLeft machine middle _ ranLeft
    rw [typeIn?, leftTyped machine middle l here ranLeft,
      rightTyped middle last r (kept.trans here) ranRight]
    exact operate_type last after result op l r ran
  | cast type operand _ _ _ _ =>
    obtain ⟨given, middle, _, ran⟩ := runOn_bind_ok _ _ _ _ _ ran
    rw [typeIn?, cast_type middle after result type given ran]
  | parenthesis inner _ innerTyped => exact innerTyped machine after result here ran
  | dereference pointer _ _ pointerTyped =>
    obtain ⟨given, middle, ranPointer, ran⟩ := runOn_bind_ok _ _ _ _ _ ran
    rw [typeIn?, pointerTyped machine middle given here ranPointer]
    exact Evaluation.load_type middle after result given ran
  | call function arguments _ _ _ _ =>
    obtain ⟨builtin, _, found, ran⟩ := runOn_bind_ok _ _ _ _ _ ran
    obtain ⟨evaluated, last, _, ran⟩ := runOn_bind_ok _ _ _ _ _ ran
    have native := native_of_callee machine _ function builtin found
    rw [here] at native
    rw [typeIn?_call scope own function arguments builtin native,
      call_type last after result function builtin evaluated ran]

theorem type_of_assigned (value : Node) (valued : value.IsExpression types literals) (name : String)
    (machine after : Machine) (result : Result)
    (ran : (value.assigned >>= assign name).runOn machine = (.ok result, after)) :
    machine.scope.types name = some result.type := by
  obtain ⟨v, middle, ranValue, ran⟩ := runOn_bind_ok _ _ _ _ _ ran
  -- The type is looked up behind the value, which has left the scope as it was.
  have kept := (reading_assigned value valued).scope_eq machine
  rw [ranValue] at kept
  have typed := assign_type middle after result name v ran
  rwa [kept] at typed

theorem type_of_sentence (node : Node) (sentence : node.IsSentence types literals)
    (machine after : Machine) (result : Result) (own : machine.scope.OwnNames)
    (ran : node.evaluate.runOn machine = (.ok result, after)) :
    node.typeIn? machine.scope.types = some result.type := by
  cases sentence with
  | expression _ valued =>
    exact type_of_expression node valued machine.scope own machine after result rfl ran
  | declaration name type _ _ =>
    obtain ⟨_, _, _, ran⟩ := runOn_bind_ok _ _ _ _ _ ran
    cases ran
    rfl
  | assignment target value place valued =>
    cases place with
    | identifier name _ =>
      rw [evaluate_assign] at ran
      exact type_of_assigned value valued name machine after result ran
    | declaration name type _ _ =>
      rw [evaluate_define] at ran
      obtain ⟨_, declared, ranDeclare, ran⟩ := runOn_bind_ok _ _ _ _ _ ran
      have typed := type_of_assigned value valued name declared after result ran
      rwa [types_of_declare machine declared name type ranDeclare] at typed
    | dereference pointer _ _ =>
      rw [evaluate_store] at ran
      obtain ⟨aim, middle, _, ran⟩ := runOn_bind_ok _ _ _ _ _ ran
      rw [typeIn?, Evaluation.store_type middle after result aim.1 aim.2 ran]

end expressions

end Statement

theorem Result.type_eq_void_iff (result : Result) : result.type = .void ↔ result = .void := by
  cases result with
  | void => simp [type]
  | value v => cases v <;> simp [type, Value.type]

theorem Machine.ownNames_session (config : Config) (attached : Bool) (nodes : List Node) :
    ((Machine.ofConfig config attached).session nodes).scope.OwnNames :=
  Scope.ownNames_of_kept _ _ (kept_session nodes (Machine.ofConfig config attached))

/-- On every machine that a session leaves, a statement read from a text gives a result of the type
that the scope foretells, if it gives one at all. -/
theorem Statement.type_of_result (config : Config) (attached : Bool) (nodes : List Node)
    (text : String) (node : Node) (read : Grammar.parse text = .ok node) (result : Result)
    (ended : (node.evaluate.runOn ((Machine.ofConfig config attached).session nodes)).1 =
      .ok result) :
    let scope := ((Machine.ofConfig config attached).session nodes).scope
    node.typeIn? scope.types = some result.type ∧
      (node.typeIn? scope.types = some .void ↔ result = .void) ∧
      ∀ function arguments builtin, scope.find? function = some (.native builtin) →
        (Statement.call function arguments : Node).typeIn? scope.types =
          some builtin.signature.returns := by
  intro scope
  have own := Machine.ownNames_session config attached nodes
  have settled := Grammar.settles_parse text
  rw [read] at settled
  obtain ⟨_, same, sentence⟩ | ⟨fault, same, _⟩ := settled.cases
  · cases same
    have typed := type_of_sentence node sentence _ _ result own (Prod.ext ended rfl)
    refine ⟨typed, ?_, typeIn?_call scope own⟩
    rw [typed, Option.some.injEq, result.type_eq_void_iff]
  · cases same

/-- A pointer is added to as its address, and what it points to meets what was reserved as an int. -/
theorem Statement.type_of_difference :
    let machine := (Machine.ofConfig ⟨8, 10⟩ true).session [.declaration "p" (.pointer .int)]
    let node : Node := .operator .sub
      (.dereference (.cast (.pointer .char) (.parenthesis (.operator .add (.identifier "p")
        (.literal (.int 1))))))
      (.call "malloc" [.literal (.int 2)])
    Grammar.parse "*(char*)(p + 1) - malloc(2)" = .ok node ∧
      (node.evaluate.runOn machine).1 = .ok (.value (.int 0)) ∧
      node.typeIn? machine.scope.types = some .int := by
  intro machine node
  have read : Grammar.parse "*(char*)(p + 1) - malloc(2)" = .ok (.operator .sub
      (.dereference (.cast (.pointer .char) (.parenthesis (.operator .add (.identifier "p")
        (.literal (.int 1))))))
      (.call "malloc" [.literal (.int 2)])) := by cbv
  have ended : (node.evaluate.runOn machine).1 = .ok (.value (.int 0)) := by decide +kernel
  exact ⟨read, ended, (type_of_result ⟨8, 10⟩ true _ _ node read _ ended).1⟩

end HeapConsole
