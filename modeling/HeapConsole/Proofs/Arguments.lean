import HeapConsole.Grammar
import HeapConsole.Proofs.InternalFaults

/-! The number of arguments in a call. Void arguments are dropped before the rest is counted, so a
void argument is missed only where it leaves too few: next to as many further arguments as the
function has parameters, it goes unnoticed. -/
namespace HeapConsole

namespace Argument

def isVoid : Argument → Bool
  | .result .void => true
  | _ => false

def kept (given : List Argument) : List Argument := given.filter fun argument => !argument.isVoid

theorem length_kept (given : List Argument) :
    given.length = (kept given).length + given.countP isVoid := by
  have split := List.length_eq_countP_add_countP isVoid (l := given)
  rw [kept, ← List.countP_eq_length_filter]
  simpa [Nat.add_comm] using split

theorem kept_result (result : Result) (rest : List Argument) :
    kept (.result result :: rest) = ofResult result ++ kept rest := by
  cases result with
  | void => rfl
  | value v => rfl

end Argument

theorem Failure.eq_of_of_eq_fault (cause fault : Fault) (same : Failure.of cause = .fault fault) :
    fault = cause := by
  unfold Failure.of at same
  split at same
  · cases same
    rfl
  · cases same

namespace Evaluation

theorem runOn_callee (function : String) (builtin : Builtin) (machine : Machine)
    (found : machine.scope.find? function = some (.native builtin)) :
    (callee function).runOn machine = (.ok builtin, machine) := by
  simp only [callee, lookup, runOn_bind, runOn_get, found]
  rfl

/-- A native function that is given what its parameters ask for has no complaint about their
number. -/
theorem run_code (builtin : Builtin) (arguments : List Argument)
    (agree : List.Forall₂ Agrees builtin.signature.parameters arguments) (machine : Machine)
    (fault : Fault) (failed : ((builtin.run arguments).runOn machine).1 = .error (.fault fault)) :
    fault.code ≠ .arityMismatch := by
  obtain ⟨cause, same, refused⟩ :=
    Call.refused_of_outcome ⟨builtin, arguments, machine⟩ (.fault fault) agree failed
  rw [Failure.eq_of_of_eq_fault cause fault same.symm]
  cases refused with
  | memory size _ _ refusal =>
    rcases malloc_faults machine.memory size cause refusal with rfl | rfl
    · exact nofun
    · exact nofun
  | base number _ unknown => exact nofun
  | unsized type _ unknown => exact nofun

/-- A call complains about the number of its arguments exactly when it is not the arity. -/
theorem call_arity_iff (function : String) (builtin : Builtin) (arguments : List Argument)
    (machine : Machine) :
    (∃ fault, ((call function builtin arguments).runOn machine).1 = .error (.fault fault) ∧
      fault.code = .arityMismatch) ↔ arguments.length ≠ builtin.arity := by
  constructor
  · rintro ⟨fault, failed, mismatch⟩ size
    rw [call, if_neg (not_not.mpr size), runOn_bind] at failed
    cases checked : checkArguments function 0 builtin.signature.parameters arguments with
    | error cause =>
      rw [checked] at failed
      have code := checkArguments_code function 0 _ arguments cause checked
      rw [← Failure.eq_of_of_eq_fault cause fault (Except.error.inj failed), mismatch] at code
      cases code
    | ok done =>
      rw [checked, runOn_lift_ok] at failed
      dsimp only at failed
      unfold Builtin.invoke at failed
      split at failed
      · have agree := checkArguments_agree function 0 _ arguments size checked
        exact run_code builtin arguments agree machine fault failed mismatch
      · cases failed
  · intro other
    rw [call, if_pos other]
    exact ⟨.arity function builtin.arity arguments.length, rfl, rfl⟩

theorem runOf_of_ne (function : String) (builtin : Builtin) (arguments : List Argument)
    (machine : Machine) (other : arguments.length ≠ builtin.arity) :
    runOf function builtin arguments machine = [] :=
  if_pos other

end Evaluation

namespace Statement

open Evaluation

/-- What the arguments of a call come to, one after another, the void ones included. -/
def argumentResults : List Node → Evaluation (List Argument)
  | [] => return []
  | .typeName type :: rest => return .type type :: (← argumentResults rest)
  | argument :: rest => do
    let result ← argument.evaluate
    let others ← argumentResults rest
    return .result result :: others

theorem argumentResults_cons (argument : Node) (rest : List Node)
    (value : argument.isType = false) :
    argumentResults (argument :: rest) = (do
      let result ← argument.evaluate
      let others ← argumentResults rest
      return .result result :: others) := by
  cases argument <;> simp_all [isType, argumentResults]

theorem evaluateArguments_eq (arguments : List Node) :
    evaluateArguments arguments = (do return Argument.kept (← argumentResults arguments)) := by
  induction arguments with
  | nil => rfl
  | cons argument rest ih =>
    cases kind : argument.isType with
    | true =>
      cases argument with
      | typeName type =>
        simp only [evaluateArguments, argumentResults, ih, bind_assoc, pure_bind]
        rfl
      | _ => cases kind
    | false =>
      simp only [evaluateArguments_cons argument rest kind, argumentResults_cons argument rest kind,
        ih, bind_assoc, pure_bind, Argument.kept_result]

theorem length_argumentResults (arguments : List Node) (machine after : Machine)
    (given : List Argument)
    (ran : (argumentResults arguments).runOn machine = (.ok given, after)) :
    given.length = arguments.length := by
  induction arguments generalizing machine given after with
  | nil =>
    cases ran
    rfl
  | cons argument rest ih =>
    cases kind : argument.isType with
    | true =>
      cases argument with
      | typeName type =>
        obtain ⟨others, middle, tail, ran⟩ := runOn_bind_ok _ _ _ _ _ ran
        cases ran
        rw [List.length_cons, List.length_cons, ih _ _ others tail]
      | _ => cases kind
    | false =>
      rw [argumentResults_cons argument rest kind] at ran
      obtain ⟨result, middle, _, ran⟩ := runOn_bind_ok _ _ _ _ _ ran
      obtain ⟨others, last, tail, ran⟩ := runOn_bind_ok _ _ _ _ _ ran
      cases ran
      rw [List.length_cons, List.length_cons, ih _ _ others tail]

section calls

variable (function : String) (arguments : List Node) (builtin : Builtin) (machine after : Machine)
  (given : List Argument)

theorem runOn_evaluateArguments
    (evaluated : (argumentResults arguments).runOn machine = (.ok given, after)) :
    (evaluateArguments arguments).runOn machine = (.ok (Argument.kept given), after) := by
  rw [evaluateArguments_eq, runOn_bind, evaluated]
  rfl

theorem runOn_call (found : machine.scope.find? function = some (.native builtin))
    (evaluated : (argumentResults arguments).runOn machine = (.ok given, after)) :
    (Statement.call function arguments : Node).evaluate.runOn machine =
      (Evaluation.call function builtin (Argument.kept given)).runOn after := by
  rw [evaluate, runOn_bind, runOn_callee function builtin machine found]
  dsimp only
  rw [runOn_bind, runOn_evaluateArguments arguments machine after given evaluated]

theorem calls_call (found : machine.scope.find? function = some (.native builtin))
    (evaluated : (argumentResults arguments).runOn machine = (.ok given, after)) :
    (Statement.call function arguments : Node).calls machine =
      argumentCalls arguments machine ++ runOf function builtin (Argument.kept given) after := by
  rw [calls, followedBy, runOn_callee function builtin machine found]
  dsimp only
  rw [followedBy, runOn_evaluateArguments arguments machine after given evaluated]

/-- A call works on the arguments that are not void. It fails for their number exactly when this,
and not the number of arguments that were written, differs from the arity; then the function is not
run, and where it is run the void arguments are those in excess of the arity. -/
theorem arity_of_kept_arguments (found : machine.scope.find? function = some (.native builtin))
    (evaluated : (argumentResults arguments).runOn machine = (.ok given, after)) :
    let node : Node := .call function arguments
    let voids := given.countP Argument.isVoid
    node.evaluate.runOn machine =
        (Evaluation.call function builtin (Argument.kept given)).runOn after ∧
      ((∃ fault, (node.evaluate.runOn machine).1 = .error (.fault fault) ∧
        fault.code = .arityMismatch) ↔ arguments.length ≠ builtin.arity + voids) ∧
      ∃ runs, node.calls machine = argumentCalls arguments machine ++ runs ∧
        (arguments.length ≠ builtin.arity + voids → runs = []) ∧
        ∀ run ∈ runs, run = ⟨builtin, Argument.kept given, after⟩ ∧
          arguments.length = builtin.arity + voids := by
  intro node voids
  have ran := runOn_call function arguments builtin machine after given found evaluated
  have log := calls_call function arguments builtin machine after given found evaluated
  have counted : (Argument.kept given).length ≠ builtin.arity ↔
      arguments.length ≠ builtin.arity + voids := by
    have written := length_argumentResults arguments machine after given evaluated
    have parts := Argument.length_kept given
    omega
  refine ⟨ran, ?_, runOf function builtin (Argument.kept given) after, log, fun other => ?_,
    fun run member => ?_⟩
  · rw [ran, call_arity_iff, counted]
  · exact runOf_of_ne function builtin _ after (counted.mpr other)
  · by_cases other : arguments.length ≠ builtin.arity + voids
    · rw [runOf_of_ne function builtin _ after (counted.mpr other)] at member
      cases member
    · refine ⟨?_, not_not.mp other⟩
      unfold runOf at member
      split at member
      · cases member
      · split at member
        · cases member
        · split at member
          · exact List.mem_singleton.mp member
          · cases member

end calls

/-- One void argument too many is dropped, and the function runs. -/
theorem arity_of_void_in_excess :
    let machine := Machine.ofConfig ⟨8, 10⟩ true
    let arguments : List Node := [.literal (.int 4), .call "clear" []]
    let node : Node := .call "malloc" arguments
    Grammar.parse "malloc(4, clear())" = .ok node ∧
      (argumentResults arguments).runOn machine =
        (.ok [.result (.value (.int 4)), .result .void], machine.clearHistory) ∧
      ¬ ∃ fault, (node.evaluate.runOn machine).1 = .error (.fault fault) ∧
        fault.code = .arityMismatch := by
  intro machine arguments node
  have evaluated : (argumentResults arguments).runOn machine =
      (.ok [.result (.value (.int 4)), .result .void], machine.clearHistory) := rfl
  have told := (arity_of_kept_arguments "malloc" arguments .malloc machine _ _ rfl evaluated).2.1
  refine ⟨by cbv, evaluated, fun mismatch => ?_⟩
  exact told.mp mismatch (by decide)

/-- A void argument need not be missed: it is not true that a call with one always fails for the
number of its arguments. -/
theorem void_argument_unnoticed :
    ¬ ∀ (config : Config) (attached : Bool) (nodes : List Node) (function : String)
      (arguments : List Node) (builtin : Builtin) (after : Machine) (given : List Argument),
      let machine := (Machine.ofConfig config attached).session nodes
      let node : Node := .call function arguments
      machine.scope.find? function = some (.native builtin) →
        (argumentResults arguments).runOn machine = (.ok given, after) →
        .result .void ∈ given →
        ∃ fault, (node.evaluate.runOn machine).1 = .error (.fault fault) ∧
          fault.code = .arityMismatch := by
  intro noticed
  obtain ⟨fault, failed, _⟩ := noticed ⟨8, 10⟩ true [] "malloc" [.literal (.int 4), .call "clear" []]
    .malloc _ [.result (.value (.int 4)), .result .void] rfl rfl (by decide)
  have granted : ((Statement.call "malloc" [.literal (.int 4), .call "clear" []] : Node).evaluate.runOn
      (Machine.ofConfig ⟨8, 10⟩ true)).1 = .ok (.value (.int 0)) := by decide +kernel
  rw [show (Machine.ofConfig ⟨8, 10⟩ true).session [] = Machine.ofConfig ⟨8, 10⟩ true from rfl,
    granted] at failed
  cases failed

end Statement

end HeapConsole
