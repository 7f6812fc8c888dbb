import HeapConsole.Evaluate
import HeapConsole.Proofs.Conversions

/-! Tools for statements about evaluation: an induction that follows the evaluator, the two ways in
which a sequence of computations can go, properties that pass from the steps of a computation to the
whole, and sessions, which evaluate any nodes one after another on one machine whatever their
outcomes. -/
namespace HeapConsole

namespace Statement

variable {τ ℓ : Type}

/-- What may stand on the left of an assignment. -/
def isTarget : Statement τ ℓ → Bool
  | .declaration _ _ | .dereference _ | .identifier _ => true
  | _ => false

/-- Induction along the evaluation of a statement. An assignment runs the parts of its target and
never the target itself, so the hypotheses of its three forms are about those parts. -/
theorem evaluationInduction {motive : Statement τ ℓ → Prop}
    (missing : motive .missing)
    (typeName : ∀ type, motive (.typeName type))
    (literal : ∀ value, motive (.literal value))
    (identifier : ∀ name, motive (.identifier name))
    (declaration : ∀ name type, motive (.declaration name type))
    (operator : ∀ op left right, motive left → motive right → motive (.operator op left right))
    (cast : ∀ type operand, motive operand → motive (.cast type operand))
    (parenthesis : ∀ inner, motive inner → motive (.parenthesis inner))
    (dereference : ∀ pointer, motive pointer → motive (.dereference pointer))
    (store : ∀ pointer value, motive pointer → motive value →
      motive (.assignment (.dereference pointer) value))
    (define : ∀ name type value, motive value →
      motive (.assignment (.declaration name type) value))
    (assign : ∀ name value, motive value → motive (.assignment (.identifier name) value))
    (refuse : ∀ target value, target.isTarget = false → motive (.assignment target value))
    (call : ∀ function arguments, (∀ argument ∈ arguments, motive argument) →
      motive (.call function arguments)) (statement : Statement τ ℓ) : motive statement := by
  have step (part : Statement τ ℓ) (smaller : sizeOf part < sizeOf statement) : motive part :=
    evaluationInduction missing typeName literal identifier declaration operator cast parenthesis
      dereference store define assign refuse call part
  cases statement with
  | missing => exact missing
  | typeName type => exact typeName type
  | literal value => exact literal value
  | identifier name => exact identifier name
  | declaration name type => exact declaration name type
  | operator op left right =>
    have sizes := Statement.operator.sizeOf_spec op left right
    exact operator op left right (step left (by omega)) (step right (by omega))
  | cast type operand => exact cast type operand (step operand (by simp))
  | parenthesis inner => exact parenthesis inner (step inner (by simp))
  | dereference pointer => exact dereference pointer (step pointer (by simp))
  | assignment target value =>
    have sizes := Statement.assignment.sizeOf_spec target value
    have value_step := step value (by omega)
    cases target with
    | dereference pointer =>
      have inner := Statement.dereference.sizeOf_spec pointer
      exact store pointer value (step pointer (by omega)) value_step
    | declaration name type => exact define name type value value_step
    | identifier name => exact assign name value value_step
    | _ => exact refuse _ value rfl
  | call function arguments =>
    refine call function arguments fun argument member => step argument ?_
    have smaller := List.sizeOf_lt_of_mem member
    have sizes := Statement.call.sizeOf_spec function arguments
    omega
termination_by sizeOf statement

/-- An assignment to anything but a target fails before its right side runs. -/
theorem evaluate_refused (target value : Node) (refused : target.isTarget = false) :
    (Statement.assignment target value : Node).evaluate =
      Evaluation.fail (.unexpectedTarget target.nodeName) := by
  cases target <;> simp_all [isTarget, evaluate]

theorem evaluateArguments_cons (argument : Node) (rest : List Node)
    (value : argument.isType = false) :
    evaluateArguments (argument :: rest) = (do
      let result ← argument.evaluate
      let others ← evaluateArguments rest
      return Argument.ofResult result ++ others) := by
  cases argument <;> simp_all [isType, evaluateArguments]

end Statement

namespace Evaluation

variable {α β : Type}

/-- Either the first computation succeeds and the second one goes on from there, or its failure is
the failure of both. -/
theorem runOn_bind_cases (first : Evaluation α) (next : α → Evaluation β) (machine : Machine) :
    (∃ a after, runOn first machine = (.ok a, after) ∧
      runOn (first >>= next) machine = runOn (next a) after) ∨
    (∃ failure after, runOn first machine = (.error failure, after) ∧
      runOn (first >>= next) machine = (.error failure, after)) := by
  rw [runOn_bind]
  rcases runOn first machine with ⟨failure | a, after⟩
  · exact .inr ⟨failure, after, rfl, rfl⟩
  · exact .inl ⟨a, after, rfl, rfl⟩

/-- Where both computations together succeed, each of them does. -/
theorem runOn_bind_ok (first : Evaluation α) (next : α → Evaluation β) (machine after : Machine)
    (b : β) (ran : runOn (first >>= next) machine = (.ok b, after)) :
    ∃ a middle, runOn first machine = (.ok a, middle) ∧ runOn (next a) middle = (.ok b, after) := by
  rcases runOn_bind_cases first next machine with ⟨a, middle, head, goes⟩ | ⟨_, _, _, goes⟩
  · exact ⟨a, middle, head, goes.symm.trans ran⟩
  · rw [goes] at ran
    cases ran

theorem eq_ok_of_lift (outcome : Except Fault α) (machine after : Machine) (a : α)
    (ran : runOn (lift outcome) machine = (.ok a, after)) : outcome = .ok a ∧ after = machine := by
  cases outcome with
  | error fault => cases ran
  | ok b =>
    cases ran
    exact ⟨rfl, rfl⟩

theorem eq_value_of_require (fault : Fault) (result : Result) (machine after : Machine) (v : Value)
    (ran : runOn (require fault result) machine = (.ok v, after)) :
    result = .value v ∧ after = machine := by
  cases result with
  | void => cases ran
  | value w =>
    cases ran
    exact ⟨rfl, rfl⟩

theorem found_of_lookup (name : String) (machine after : Machine) (v : Value)
    (ran : runOn (lookup name) machine = (.ok v, after)) :
    machine.scope.find? name = some v ∧ after = machine := by
  simp only [lookup, runOn_bind, runOn_get] at ran
  cases found : machine.scope.find? name with
  | none =>
    rw [found] at ran
    cases ran
  | some w =>
    rw [found] at ran
    cases ran
    exact ⟨rfl, rfl⟩

/-- A property of computations that failing plainly has and that sequences inherit. -/
structure Closed (property : (α : Type) → Evaluation α → Prop) : Prop where
  pure : ∀ {α : Type} (a : α), property α (pure a)
  fail : ∀ {α : Type} (fault : Fault), fault.Plain → property α (fail fault)
  bind : ∀ {α β : Type} (first : Evaluation α) (next : α → Evaluation β), property α first →
    (∀ a, property β (next a)) → property β (first >>= next)

namespace Closed

variable {property : (α : Type) → Evaluation α → Prop} (closed : Closed property)

include closed

theorem lift {α : Type} (outcome : Except Fault α) (plain : Only Fault.Plain outcome) :
    property α (lift outcome) := by
  cases outcome with
  | ok a => exact closed.pure a
  | error fault => exact closed.fail fault (plain fault rfl)

theorem coerce (value : Value) (target : DataType) :
    property Value (Evaluation.lift (value.coerce target)) :=
  closed.lift _ (.imp _ Fault.Unfit.plain (coerce_unfit value target))

theorem require (fault : Fault) (plain : fault.Plain) (result : Result) :
    property Value (require fault result) := by
  cases result with
  | void => exact closed.fail fault plain
  | value v => exact closed.pure v

theorem operand (side : Side) (value : Value) : property Literal (operand side value) := by
  unfold Evaluation.operand
  split
  · exact closed.pure _
  · exact closed.fail _ ⟨.inr rfl, rfl⟩

theorem operate (operator : Operator) (left right : Result) :
    property Result (operate operator left right) := by
  refine closed.bind _ _ (closed.require _ ⟨.inr rfl, rfl⟩ left) fun leftValue => ?_
  refine closed.bind _ _ (closed.require _ ⟨.inr rfl, rfl⟩ right) fun rightValue => ?_
  refine closed.bind _ _ (closed.operand .left leftValue) fun a => ?_
  refine closed.bind _ _ (closed.operand .right rightValue) fun b => ?_
  rw [applySymbol_symbol]
  have plain := Only.imp _ Fault.Computed.plain (apply_computed operator a b)
  exact closed.bind _ _ (closed.lift _ plain) fun _ => closed.pure _

theorem cast (type : DataType) (result : Result) :
    property Result (Evaluation.cast type result) := by
  refine closed.bind _ _ (closed.require _ ⟨.inr rfl, rfl⟩ result) fun value => ?_
  exact closed.bind _ _ (closed.coerce value type) fun _ => closed.pure _

theorem declare (name : String) (type : DataType)
    (binds : ∀ value, property PUnit (modify fun machine => machine.bind name value)) :
    property Unit (declare name type) := by
  refine closed.bind _ _ ?_ binds
  unfold blank
  split
  · exact closed.fail _ ⟨.inl rfl, rfl⟩
  · exact closed.pure _
  · exact closed.coerce _ _

theorem assign (name : String) (value : Value) (finds : property Value (lookup name))
    (binds : ∀ value, property PUnit (modify fun machine => machine.bind name value)) :
    property Result (assign name value) := by
  refine closed.bind _ _ finds fun old => ?_
  refine closed.bind _ _ (closed.coerce value old.type) fun stored => ?_
  exact closed.bind _ _ (binds stored) fun _ => closed.pure _

theorem resolve (pointer : Result)
    (checks : ∀ (pointee : Pointee) (address : Int), property (Pointee × Int) (do
      let _ ← Evaluation.lift ((← get).memory.heap.index address)
      return (pointee, address))) :
    property (Pointee × Int) (resolve pointer) := by
  refine closed.bind _ _ (closed.require _ ⟨.inr rfl, rfl⟩ pointer) fun value => ?_
  cases value with
  | pointer pointee address => exact checks pointee address
  | native builtin => exact closed.fail _ ⟨.inl rfl, rfl⟩
  | _ => exact closed.fail _ ⟨.inl rfl, rfl⟩

theorem callee (name : String) (finds : property Value (lookup name)) :
    property Builtin (callee name) := by
  refine closed.bind _ _ finds fun value => ?_
  cases value with
  | native builtin => exact closed.pure builtin
  | _ => exact closed.fail _ ⟨.inl rfl, rfl⟩

end Closed

end Evaluation

namespace Machine

/-- The machine after some nodes were evaluated on it one after another; what a failed one did
before it failed remains done. -/
def session (machine : Machine) : List Node → Machine
  | [] => machine
  | node :: rest => (node.evaluate.runOn machine).2.session rest

end Machine

end HeapConsole
