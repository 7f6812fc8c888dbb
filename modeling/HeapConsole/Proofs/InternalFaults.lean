import HeapConsole.Proofs.Allocation
import HeapConsole.Proofs.Conversions
import Mathlib.Data.List.Forall2

/-! Internal faults belong to malformed trees. A well-formed tree ends in a result, a type fault, a
runtime fault or the digit limit on every machine, so none of the checks on kinds, contents, bytes,
pointer types and arguments can fire while it runs; a malformed tree never ends in a result. -/
namespace HeapConsole

namespace Statement

variable {τ ℓ : Type}

mutual

/-- Nothing is missing, a type stands only among the arguments of a call, and what is assigned to
is a target. -/
def wellFormed : Statement τ ℓ → Bool
  | .missing | .typeName _ => false
  | .literal _ | .identifier _ | .declaration _ _ => true
  | .operator _ left right => left.wellFormed && right.wellFormed
  | .cast _ operand => operand.wellFormed
  | .parenthesis inner => inner.wellFormed
  | .dereference pointer => pointer.wellFormed
  | .assignment target value => target.isTarget && target.wellFormed && value.wellFormed
  | .call _ arguments => argumentsWellFormed arguments

def argumentsWellFormed : List (Statement τ ℓ) → Bool
  | [] => true
  | argument :: rest => (argument.isType || argument.wellFormed) && argumentsWellFormed rest

end

end Statement

/-- A fault of the kinds that a statement can be to blame for. -/
def Fault.Expected (fault : Fault) : Prop :=
  fault.errorClass = .typing ∨ fault.errorClass = .runtime

instance (fault : Fault) : Decidable fault.Expected := inferInstanceAs (Decidable (_ ∨ _))

theorem Fault.code_of_expected (fault : Fault) (expected : fault.Expected) :
    fault.code ≠ .invariantViolated ∧ fault.code ≠ .unexpectedNode := by
  unfold Fault.Expected at expected
  cases fault <;> simp_all [Fault.errorClass, Fault.code]

def Failure.Expected : Failure → Prop
  | .fault cause => cause.Expected
  | .digitLimit => True

theorem Failure.expected_of (fault : Fault) (expected : fault.Expected) :
    (Failure.of fault).Expected := by
  unfold Failure.of
  split
  · exact expected
  · trivial

section memory

theorem index_expected (heap : Heap) (address : Int) : Only Fault.Expected (heap.index address) := by
  unfold Heap.index
  split
  · exact .ok _
  · exact .error _ (.inr rfl)

theorem wrapByte_bounds (value : Int) : 0 ≤ wrapByte value ∧ wrapByte value ≤ 255 := by
  unfold wrapByte
  split <;> omega

theorem storeInt_expected (heap : Heap) (address value : Int) :
    Only Fault.Expected (heap.storeInt address value) := by
  refine .bind _ _ (index_expected heap address) fun i _ => ?_
  rw [if_pos (wrapByte_bounds value)]
  exact .ok _

theorem load_expected (memory : Memory) (address : Int) (pointee : Pointee) :
    Only Fault.Expected (memory.load address (.pointer pointee)) := by
  refine .bind _ _ ?_ fun byte _ => .ok _
  exact .bind _ _ (index_expected memory.heap address) fun i _ => .ok _

theorem store_expected (memory : Memory) (address : Int) (value : Value) :
    Only Fault.Expected (memory.store address (.value value)) := by
  refine .bind _ _ (index_expected memory.heap address) fun i _ => ?_
  have converted := Only.imp _ (fun fault unfit => (Fault.Unfit.plain fault unfit).blamed)
    (valueToInt_unfit value)
  refine .bind _ _ converted fun n _ => ?_
  exact .bind _ _ (storeInt_expected memory.heap address n) fun heap _ => .ok _

/-- A request for memory is refused for its size or for want of room. -/
theorem malloc_faults (memory : Memory) (size : Int) :
    Only (fun fault => fault = .allocationSize size ∨
      fault = .outOfMemory size memory.allocator.reserved memory.allocator.capacity)
      (memory.malloc size) := by
  refine .map _ _ ?_
  unfold Allocator.malloc
  split
  · exact .error _ (.inl rfl)
  · dsimp only
    split
    · exact .error _ (.inr rfl)
    · exact .ok _

theorem malloc_expected (memory : Memory) (size : Int) :
    Only Fault.Expected (memory.malloc size) := by
  refine .imp _ (fun fault among => ?_) (malloc_faults memory size)
  rcases among with rfl | rfl
  · exact .inr rfl
  · exact .inr rfl

end memory

namespace Evaluation

variable {α β : Type}

/-- Wherever the computation starts, it does not fail internally. -/
def Safe (evaluation : Evaluation α) : Prop :=
  ∀ machine failure, (evaluation.runOn machine).1 = .error failure → failure.Expected

/-- Wherever the computation starts, it fails with an accepted failure, if at all. -/
def FailsOnly (accepted : Failure → Prop) (evaluation : Evaluation α) : Prop :=
  ∀ machine failure, (evaluation.runOn machine).1 = .error failure → accepted failure

/-- Wherever the computation starts, it gives no result. -/
def Fails (evaluation : Evaluation α) : Prop :=
  ∀ machine, ∃ failure, (evaluation.runOn machine).1 = .error failure

theorem safe_pure (a : α) : Safe (pure a : Evaluation α) := by
  intro machine failure failed
  cases failed

theorem safe_fail (fault : Fault) (expected : fault.Expected) :
    Safe (fail fault : Evaluation α) := by
  intro machine failure failed
  cases failed
  exact Failure.expected_of fault expected

theorem safe_lift (outcome : Except Fault α) (expected : Only Fault.Expected outcome) :
    Safe (lift outcome) := by
  cases outcome with
  | ok a => exact safe_pure a
  | error fault => exact safe_fail fault (expected fault rfl)

theorem safe_get : Safe (get : Evaluation Machine) := by
  intro machine failure failed
  cases failed

theorem safe_set (after : Machine) : Safe (set after : Evaluation PUnit) := by
  intro machine failure failed
  cases failed

theorem safe_modify (change : Machine → Machine) : Safe (modify change : Evaluation PUnit) := by
  intro machine failure failed
  cases failed

theorem failsOnly_bind (accepted : Failure → Prop) (first : Evaluation α)
    (next : α → Evaluation β) (head : FailsOnly accepted first)
    (tail : ∀ a, FailsOnly accepted (next a)) : FailsOnly accepted (first >>= next) := by
  intro machine failure failed
  rcases runOn_bind_cases first next machine with ⟨a, after, _, goes⟩ | ⟨cause, after, ran, goes⟩
  · rw [goes] at failed
    exact tail a after failure failed
  · rw [goes] at failed
    cases failed
    exact head machine _ (by rw [ran])

theorem safe_bind (first : Evaluation α) (next : α → Evaluation β) (head : Safe first)
    (tail : ∀ a, Safe (next a)) : Safe (first >>= next) :=
  failsOnly_bind Failure.Expected first next head tail

theorem fails_fail (fault : Fault) : Fails (fail fault : Evaluation α) :=
  fun _ => ⟨_, rfl⟩

theorem fails_bind_left (first : Evaluation α) (next : α → Evaluation β) (head : Fails first) :
    Fails (first >>= next) := by
  intro machine
  obtain ⟨failure, failed⟩ := head machine
  rcases runOn_bind_cases first next machine with ⟨a, after, ran, _⟩ | ⟨cause, after, _, goes⟩
  · rw [ran] at failed
    cases failed
  · exact ⟨cause, by rw [goes]⟩

theorem fails_bind_right (first : Evaluation α) (next : α → Evaluation β)
    (tail : ∀ a, Fails (next a)) : Fails (first >>= next) := by
  intro machine
  rcases runOn_bind_cases first next machine with ⟨a, after, _, goes⟩ | ⟨cause, after, _, goes⟩
  · rw [goes]
    exact tail a after
  · exact ⟨cause, by rw [goes]⟩

theorem safe_lookup (name : String) : Safe (lookup name) := by
  refine safe_bind _ _ safe_get fun machine => ?_
  split
  · exact safe_pure _
  · exact safe_fail _ (.inr rfl)

theorem closed_safe : Closed fun _ evaluation => Safe evaluation where
  pure := safe_pure
  fail fault plain := safe_fail fault plain.blamed
  bind := safe_bind

theorem safe_declare (name : String) (type : DataType) : Safe (declare name type) :=
  closed_safe.declare name type fun _ => safe_modify _

theorem safe_assign (name : String) (result : Result) :
    Safe (do assign name (← require .voidAssignment result)) := by
  refine safe_bind _ _ (closed_safe.require _ ⟨.inr rfl, rfl⟩ result) fun value => ?_
  exact closed_safe.assign name value (safe_lookup name) fun _ => safe_modify _

theorem safe_resolve (pointer : Result) : Safe (resolve pointer) := by
  refine closed_safe.resolve pointer fun pointee address => ?_
  refine safe_bind _ _ safe_get fun machine => ?_
  exact safe_bind _ _ (safe_lift _ (index_expected _ address)) fun _ => safe_pure _

theorem safe_load (pointer : Result) : Safe (load pointer) := by
  refine safe_bind _ _ (safe_resolve pointer) fun (pointee, address) => ?_
  refine safe_bind _ _ safe_get fun machine => ?_
  exact safe_bind _ _ (safe_lift _ (load_expected _ address pointee)) fun _ => safe_pure _

theorem safe_store (address : Int) (value : Value) : Safe (store address value) := by
  refine safe_bind _ _ safe_get fun machine => ?_
  refine safe_bind _ _ (safe_lift _ (store_expected _ address value)) fun (n, memory) => ?_
  exact safe_bind _ _ (safe_set _) fun _ => safe_pure _

def Agrees (parameter : Parameter) : Argument → Prop
  | .type _ => parameter.type = none
  | .result result => parameter.type = some result.type

theorem checkArgument_code (function : String) (index : Nat) (parameter : Parameter)
    (argument : Argument) :
    Only (fun fault => fault.code = .argumentMismatch)
      (checkArgument function index parameter argument) := by
  unfold checkArgument
  split
  · exact .ok _
  · exact .error _ rfl
  · exact .error _ rfl
  · split
    · exact .ok _
    · exact .error _ rfl

theorem checkArgument_agrees (function : String) (index : Nat) (parameter : Parameter)
    (argument : Argument) (checked : checkArgument function index parameter argument = .ok ()) :
    Agrees parameter argument := by
  unfold checkArgument at checked
  split at checked
  · assumption
  · cases checked
  · cases checked
  · rename_i expected result declared
    split at checked
    · rename_i same
      rw [Agrees, same]
      exact declared
    · cases checked

theorem checkArguments_code (function : String) (index : Nat) (parameters : List Parameter)
    (arguments : List Argument) :
    Only (fun fault => fault.code = .argumentMismatch)
      (checkArguments function index parameters arguments) := by
  induction parameters generalizing index arguments with
  | nil => exact .ok _
  | cons parameter parameters ih =>
    cases arguments with
    | nil => exact .ok _
    | cons argument arguments =>
      exact .bind _ _ (checkArgument_code function index parameter argument)
        fun _ _ => ih (index + 1) arguments

theorem checkArguments_plain (function : String) (index : Nat) (parameters : List Parameter)
    (arguments : List Argument) :
    Only Fault.Plain (checkArguments function index parameters arguments) := by
  refine .imp _ (fun fault code => ?_) (checkArguments_code function index parameters arguments)
  cases fault <;> first | exact ⟨.inl rfl, rfl⟩ | cases code

theorem checkArguments_agree (function : String) (index : Nat) (parameters : List Parameter)
    (arguments : List Argument) (size : arguments.length = parameters.length)
    (checked : checkArguments function index parameters arguments = .ok ()) :
    List.Forall₂ Agrees parameters arguments := by
  induction parameters generalizing index arguments with
  | nil =>
    cases arguments with
    | nil => exact .nil
    | cons argument arguments => cases size
  | cons parameter parameters ih =>
    cases arguments with
    | nil => cases size
    | cons argument arguments =>
      cases first : checkArgument function index parameter argument with
      | error fault =>
        simp only [checkArguments, first] at checked
        cases checked
      | ok done =>
        have rest : checkArguments function (index + 1) parameters arguments = .ok () := by
          rw [checkArguments, first] at checked
          exact checked
        exact .cons (checkArgument_agrees function index parameter argument first)
          (ih (index + 1) arguments (Nat.succ.inj size) rest)

theorem agrees_int (name : String) (argument : Argument)
    (agrees : Agrees ⟨name, some .int⟩ argument) :
    ∃ n, argument = .result (.value (.int n)) := by
  cases argument with
  | type type => cases agrees
  | result result =>
    cases result with
    | void => cases agrees
    | value v => cases v <;> first | exact ⟨_, rfl⟩ | cases agrees

end Evaluation

namespace Call

/-- The faults of a native function that was given what its parameters ask for. -/
inductive Refused : Call → Fault → Prop where
  | memory (size : Int) (before : Machine) (fault : Fault)
      (failed : before.memory.malloc size = .error fault) :
      Refused ⟨.malloc, [.result (.value (.int size))], before⟩ fault
  | base (number : Int) (before : Machine) (unknown : Base.ofNumber? number = none) :
      Refused ⟨.setDisplayBase, [.result (.value (.int number))], before⟩ (.displayBase number)
  | unsized (type : DataType) (before : Machine) (unknown : type.size? = none) :
      Refused ⟨.sizeof, [.type type], before⟩ (.sizeofType type)

theorem outcome_of_refused (call : Call) (fault : Fault) (refused : call.Refused fault) :
    call.outcome = .error (.of fault) := by
  cases refused with
  | memory size before fault failed => rw [outcome, run_of_requested _ size rfl, failed]
  | base number before unknown =>
    simp only [outcome, run, Builtin.run, Builtin.runSetDisplayBase, Builtin.intArgument,
      Evaluation.runOn_bind, Evaluation.runOn_lift_ok, unknown]
    rfl
  | unsized type before unknown =>
    simp only [outcome, run, Builtin.run, Builtin.runSizeof, unknown]
    rfl

theorem refused_of_outcome (call : Call) (failure : Failure)
    (agree : List.Forall₂ Evaluation.Agrees call.builtin.signature.parameters call.arguments)
    (failed : call.outcome = .error failure) : ∃ fault, failure = .of fault ∧ call.Refused fault := by
  obtain ⟨builtin, arguments, before⟩ := call
  cases builtin with
  | malloc =>
    rcases agree with _ | ⟨head, _ | _⟩
    obtain ⟨size, rfl⟩ := Evaluation.agrees_int _ _ head
    rw [outcome, run_of_requested _ size rfl] at failed
    cases granted : before.memory.malloc size with
    | ok answer =>
      rw [granted] at failed
      cases failed
    | error fault =>
      rw [granted] at failed
      exact ⟨fault, (Except.error.inj failed).symm, .memory size before fault granted⟩
  | clear => cases failed
  | setDisplayBase =>
    rcases agree with _ | ⟨head, _ | _⟩
    obtain ⟨number, rfl⟩ := Evaluation.agrees_int _ _ head
    simp only [outcome, run, Builtin.run, Builtin.runSetDisplayBase, Builtin.intArgument,
      Evaluation.runOn_bind, Evaluation.runOn_lift_ok] at failed
    split at failed
    · cases failed
    · rename_i unknown
      exact ⟨_, (Except.error.inj failed).symm, .base number before unknown⟩
  | sizeof =>
    rcases agree with _ | ⟨head, _ | _⟩
    rename_i argument
    cases argument with
    | result result => cases head
    | type type =>
      simp only [outcome, run, Builtin.run, Builtin.runSizeof] at failed
      split at failed
      · cases failed
      · rename_i unknown
        exact ⟨_, (Except.error.inj failed).symm, .unsized type before unknown⟩
  | reset => cases failed

theorem expected_of_refused (call : Call) (fault : Fault) (refused : call.Refused fault) :
    fault.Expected := by
  cases refused with
  | memory size before fault failed => exact malloc_expected before.memory size fault failed
  | base number before unknown => exact .inr rfl
  | unsized type before unknown => exact .inr rfl

end Call

namespace Evaluation

/-- A native function that is given what its parameters ask for does not fail internally. -/
theorem safe_run (builtin : Builtin) (arguments : List Argument)
    (agree : List.Forall₂ Agrees builtin.signature.parameters arguments) :
    Safe (builtin.run arguments) := by
  intro machine failure failed
  obtain ⟨fault, rfl, refused⟩ :=
    Call.refused_of_outcome ⟨builtin, arguments, machine⟩ failure agree failed
  exact Failure.expected_of fault (Call.expected_of_refused _ fault refused)

theorem safe_call (function : String) (builtin : Builtin) (arguments : List Argument) :
    Safe (call function builtin arguments) := by
  unfold call
  split
  · exact safe_fail _ (.inl rfl)
  · rename_i size
    cases checked : checkArguments function 0 builtin.signature.parameters arguments with
    | error fault =>
      exact safe_fail fault (checkArguments_plain function 0 _ arguments fault checked).blamed
    | ok done =>
      refine safe_bind _ _ (safe_pure done) fun _ => ?_
      unfold Builtin.invoke
      split
      · exact safe_run builtin arguments
          (checkArguments_agree function 0 _ arguments (not_not.mp size) checked)
      · intro machine failure failed
        cases failed
        trivial

end Evaluation

namespace Statement

open Evaluation

/-- A part that does not belong where it stands is out of the question, or its fault is accepted. -/
def Bears (accepted : Failure → Prop) (formed : Bool) : Prop :=
  formed = true ∨ ∀ fault : Fault, fault.code = .unexpectedNode → accepted (.of fault)

theorem Bears.split {accepted : Failure → Prop} {front back : Bool}
    (bears : Bears accepted (front && back)) : Bears accepted front ∧ Bears accepted back := by
  rcases bears with formed | tolerant
  · rw [Bool.and_eq_true] at formed
    exact ⟨.inl formed.1, .inl formed.2⟩
  · exact ⟨.inr tolerant, .inr tolerant⟩

theorem Bears.unexpected {α : Type} {accepted : Failure → Prop} (bears : Bears accepted false)
    (fault : Fault) (code : fault.code = .unexpectedNode) :
    FailsOnly accepted (fail fault : Evaluation α) := by
  intro machine failure failed
  cases failed
  exact bears.resolve_left (by simp) fault code

section walk

variable (accepted : Failure → Prop)
  (expected : ∀ failure : Failure, failure.Expected → accepted failure)

include expected

theorem failsOnly_of_safe {α : Type} (evaluation : Evaluation α) (safe : Safe evaluation) :
    FailsOnly accepted evaluation :=
  fun machine failure failed => expected failure (safe machine failure failed)

theorem failsOnly_evaluateArguments (arguments : List Node)
    (each : ∀ argument ∈ arguments, Bears accepted argument.wellFormed →
      FailsOnly accepted argument.evaluate)
    (bears : Bears accepted (argumentsWellFormed arguments)) :
    FailsOnly accepted (evaluateArguments arguments) := by
  have settled {α : Type} (a : α) : FailsOnly accepted (pure a) :=
    failsOnly_of_safe accepted expected _ (safe_pure a)
  induction arguments with
  | nil => exact settled _
  | cons argument rest ih =>
    obtain ⟨front, back⟩ := bears.split
    have tail := ih (fun other member => each other (by simp [member])) back
    cases kind : argument.isType with
    | true =>
      cases argument with
      | typeName type => exact failsOnly_bind accepted _ _ tail fun _ => settled _
      | _ => cases kind
    | false =>
      rw [evaluateArguments_cons argument rest kind]
      rw [kind, Bool.false_or] at front
      refine failsOnly_bind accepted _ _ (each argument (by simp) front) fun result => ?_
      exact failsOnly_bind accepted _ _ tail fun others => settled _

/-- One walk over the evaluator: its own steps fail expectedly only, so what else can go wrong is a
part that no statement may have. -/
theorem failsOnly_evaluate (node : Node) (bears : Bears accepted node.wellFormed) :
    FailsOnly accepted node.evaluate := by
  have safely {α : Type} (evaluation : Evaluation α) (safe : Safe evaluation) :
      FailsOnly accepted evaluation := failsOnly_of_safe accepted expected evaluation safe
  induction node using evaluationInduction with
  | missing => exact bears.unexpected _ rfl
  | typeName type => exact bears.unexpected _ rfl
  | literal value => exact safely _ (safe_pure _)
  | identifier name => exact safely _ (safe_bind _ _ (safe_lookup name) fun _ => safe_pure _)
  | declaration name type =>
    exact safely _ (safe_bind _ _ (safe_declare name type) fun _ => safe_pure _)
  | operator op left right onLeft onRight =>
    obtain ⟨front, back⟩ := bears.split
    refine failsOnly_bind accepted _ _ (onLeft front) fun l => ?_
    refine failsOnly_bind accepted _ _ (onRight back) fun r => ?_
    exact safely _ (closed_safe.operate op l r)
  | cast type operand onOperand =>
    refine failsOnly_bind accepted _ _ (onOperand bears) fun result => ?_
    exact safely _ (closed_safe.cast type result)
  | parenthesis inner onInner => exact onInner bears
  | dereference pointer onPointer =>
    refine failsOnly_bind accepted _ _ (onPointer bears) fun result => ?_
    exact safely _ (safe_load result)
  | store pointer value onPointer onValue =>
    obtain ⟨front, back⟩ := bears.split
    refine failsOnly_bind accepted _ _ (onPointer front) fun pointerResult => ?_
    refine failsOnly_bind accepted _ _ (safely _ (safe_resolve pointerResult)) fun place => ?_
    refine failsOnly_bind accepted _ _ (onValue back) fun result => ?_
    have required := closed_safe.require .voidAssignment ⟨.inr rfl, rfl⟩ result
    exact safely _ (safe_bind _ _ required fun v => safe_store place.2 v)
  | define name type value onValue =>
    refine failsOnly_bind accepted _ _ (safely _ (safe_declare name type)) fun _ => ?_
    refine failsOnly_bind accepted _ _ (onValue bears.split.2) fun result => ?_
    exact safely _ (safe_assign name result)
  | assign name value onValue =>
    refine failsOnly_bind accepted _ _ (onValue bears.split.2) fun result => ?_
    exact safely _ (safe_assign name result)
  | refuse target value refused =>
    rw [wellFormed, refused] at bears
    rw [evaluate_refused target value refused]
    exact bears.unexpected _ rfl
  | call function arguments each =>
    have called := closed_safe.callee function (safe_lookup function)
    refine failsOnly_bind accepted _ _ (safely _ called) fun builtin => ?_
    have evaluated := failsOnly_evaluateArguments accepted expected arguments each bears
    refine failsOnly_bind accepted _ _ evaluated fun given => ?_
    exact safely _ (safe_call function builtin given)

end walk

theorem fails_evaluateArguments (arguments : List Node)
    (each : ∀ argument ∈ arguments, argument.wellFormed = false → Fails argument.evaluate)
    (malformed : argumentsWellFormed arguments = false) :
    Fails (evaluateArguments arguments) := by
  induction arguments with
  | nil => cases malformed
  | cons argument rest ih =>
    rw [argumentsWellFormed, Bool.and_eq_false_iff, Bool.or_eq_false_iff] at malformed
    have tail := ih fun other member => each other (by simp [member])
    cases kind : argument.isType with
    | true =>
      cases argument with
      | typeName type =>
        refine fails_bind_left _ _ (tail (malformed.resolve_left ?_))
        intro ill
        cases ill.1
      | _ => cases kind
    | false =>
      rw [evaluateArguments_cons argument rest kind]
      rcases malformed with ⟨_, ill⟩ | ill
      · exact fails_bind_left _ _ (each argument (by simp) ill)
      · exact fails_bind_right _ _ fun result => fails_bind_left _ _ (tail ill)

theorem safe_evaluate (node : Node) (formed : node.wellFormed = true) : Safe node.evaluate :=
  failsOnly_evaluate Failure.Expected (fun _ => id) node (.inl formed)

theorem fails_evaluate (node : Node) (malformed : node.wellFormed = false) :
    Fails node.evaluate := by
  induction node using evaluationInduction with
  | missing => exact fails_fail _
  | typeName type => exact fails_fail _
  | literal value => cases malformed
  | identifier name => cases malformed
  | declaration name type => cases malformed
  | operator op left right leftFails rightFails =>
    rw [wellFormed, Bool.and_eq_false_iff] at malformed
    rcases malformed with ill | ill
    · exact fails_bind_left _ _ (leftFails ill)
    · exact fails_bind_right _ _ fun l => fails_bind_left _ _ (rightFails ill)
  | cast type operand operandFails => exact fails_bind_left _ _ (operandFails malformed)
  | parenthesis inner innerFails => exact innerFails malformed
  | dereference pointer pointerFails => exact fails_bind_left _ _ (pointerFails malformed)
  | store pointer value pointerFails valueFails =>
    simp only [wellFormed, isTarget, Bool.true_and, Bool.and_eq_false_iff] at malformed
    rcases malformed with ill | ill
    · exact fails_bind_left _ _ (pointerFails ill)
    · refine fails_bind_right _ _ fun pointerResult => ?_
      exact fails_bind_right _ _ fun place => fails_bind_left _ _ (valueFails ill)
  | define name type value valueFails =>
    simp only [wellFormed, isTarget, Bool.true_and] at malformed
    exact fails_bind_right _ _ fun _ => fails_bind_left _ _ (valueFails malformed)
  | assign name value valueFails =>
    simp only [wellFormed, isTarget, Bool.true_and] at malformed
    exact fails_bind_left _ _ (valueFails malformed)
  | refuse target value refused =>
    rw [evaluate_refused target value refused]
    exact fails_fail _
  | call function arguments each =>
    refine fails_bind_right _ _ fun builtin => ?_
    exact fails_bind_left _ _ (fails_evaluateArguments arguments each malformed)

/-- After any session, with failures in it or not, a well-formed tree ends in a result, a type
fault, a runtime fault or the digit limit, and never in one of the two internal codes, and a
malformed tree does not end in a result. -/
theorem outcome_after_session (config : Config) (attached : Bool) (nodes : List Node)
    (node : Node) :
    let outcome := (node.evaluate.runOn ((Machine.ofConfig config attached).session nodes)).1
    (node.wellFormed = true →
      (∃ result, outcome = .ok result) ∨
      (∃ fault, outcome = .error (.fault fault) ∧
        (fault.errorClass = .typing ∨ fault.errorClass = .runtime) ∧
        fault.code ≠ .invariantViolated ∧ fault.code ≠ .unexpectedNode) ∨
      outcome = .error .digitLimit) ∧
    (node.wellFormed = false → ∀ result, outcome ≠ .ok result) := by
  intro outcome
  constructor
  · intro formed
    cases ended : outcome with
    | ok result => exact .inl ⟨result, rfl⟩
    | error failure =>
      have expected := safe_evaluate node formed _ failure ended
      cases failure with
      | digitLimit => exact .inr (.inr rfl)
      | fault cause =>
        exact .inr (.inl ⟨cause, rfl, expected, Fault.code_of_expected cause expected⟩)
  · intro malformed result ended
    obtain ⟨failure, failed⟩ := fails_evaluate node malformed _
    rw [show outcome = .error failure from failed] at ended
    cases ended

theorem outcomes_of_stored_and_broken :
    let machine := (Machine.ofConfig ⟨0, 7⟩ true).session [.declaration "p" (.pointer .int), .missing]
    let stored : Node := .assignment (.dereference (.identifier "p")) (.call "sizeof" [.typeName .int])
    let broken : Node := .operator .add (.typeName .int) (.literal (.int 1))
    stored.wellFormed = true ∧ broken.wellFormed = false ∧
      (stored.evaluate.runOn machine).1 = .ok (.value (.int 4)) ∧
      ∀ result, (broken.evaluate.runOn machine).1 ≠ .ok result :=
  ⟨rfl, rfl, by decide +kernel, (outcome_after_session ⟨0, 7⟩ true _ _).2 rfl⟩

end Statement

end HeapConsole
