import HeapConsole.Proofs.Calls
import Mathlib.Logic.Relation

/-! Every evaluation, whether it succeeds or fails, is a sequence of four kinds of steps: it
declares a name, assigns to a name that is bound, stores a byte, or runs a native function. What
each of these steps keeps is therefore kept by statements of any shape and by whole sessions. -/
namespace HeapConsole

namespace Statement

variable {τ ℓ : Type}

mutual

/-- The names that are declared in a statement, wherever the declarations stand. -/
def declarations : Statement τ ℓ → List String
  | .missing | .typeName _ | .literal _ | .identifier _ => []
  | .declaration name _ => [name]
  | .operator _ left right => left.declarations ++ right.declarations
  | .cast _ operand => operand.declarations
  | .parenthesis inner => inner.declarations
  | .dereference pointer => pointer.declarations
  | .assignment target value => target.declarations ++ value.declarations
  | .call _ arguments => argumentDeclarations arguments

def argumentDeclarations : List (Statement τ ℓ) → List String
  | [] => []
  | argument :: rest => argument.declarations ++ argumentDeclarations rest

end

theorem declarations_subset_arguments (arguments : List (Statement τ ℓ))
    (argument : Statement τ ℓ) (member : argument ∈ arguments) :
    argument.declarations ⊆ argumentDeclarations arguments := by
  induction arguments with
  | nil => cases member
  | cons head rest ih =>
    rw [argumentDeclarations]
    rcases List.mem_cons.mp member with rfl | inside
    · exact List.subset_append_left _ _
    · exact List.subset_append_of_subset_right _ (ih inside)

end Statement

namespace Machine

/-- One change of a machine. Only names from the list can be declared, while a name has to be bound
already in order to be assigned to, and it is given a value of the type that it has. -/
inductive Step (declared : List String) : Machine → Machine → Prop where
  | declare (machine : Machine) (name : String) (type : DataType) (value : Value)
      (listed : name ∈ declared) (initial : Evaluation.blank type = .ok value) :
      Step declared machine (machine.bind name value)
  | assign (machine : Machine) (name : String) (old value stored : Value)
      (found : machine.scope.find? name = some old) (coerced : value.coerce old.type = .ok stored) :
      Step declared machine (machine.bind name stored)
  | store (machine : Machine) (memory : Memory) (address n : Int) (value : Value)
      (stored : machine.memory.store address value = .ok (n, memory)) :
      Step declared machine { machine with memory := memory }
  | run (call : Call) : Step declared call.before call.after

def Steps (declared : List String) : Machine → Machine → Prop :=
  Relation.ReflTransGen (Step declared)

end Machine

namespace Evaluation

variable {α β : Type} (declared : List String)

/-- Wherever the computation starts, it gets on by steps, also when it fails. -/
def Stepwise (evaluation : Evaluation α) : Prop :=
  ∀ machine : Machine, machine.Steps declared (evaluation.runOn machine).2

theorem stepwise_of_quiet (evaluation : Evaluation α) (quiet : Quiet id evaluation) :
    Stepwise declared evaluation := by
  intro machine
  have same : (evaluation.runOn machine).2 = machine := quiet machine
  rw [same]
  exact .refl

theorem stepwise_bind (first : Evaluation α) (next : α → Evaluation β)
    (head : Stepwise declared first) (tail : ∀ a, Stepwise declared (next a)) :
    Stepwise declared (first >>= next) := by
  intro machine
  have before := head machine
  rcases runOn_bind_cases first next machine with ⟨a, after, ran, goes⟩ | ⟨_, after, ran, goes⟩
  · rw [ran] at before
    rw [goes]
    exact Relation.ReflTransGen.trans before (tail a after)
  · rw [ran] at before
    rw [goes]
    exact before

theorem stepwise_bind_quiet (first : Evaluation α) (next : α → Evaluation β)
    (head : Stepwise declared first) (tail : ∀ a, Quiet id (next a)) :
    Stepwise declared (first >>= next) :=
  stepwise_bind declared first next head fun a => stepwise_of_quiet declared _ (tail a)

theorem stepwise_quiet_bind (first : Evaluation α) (next : α → Evaluation β)
    (head : Quiet id first) (tail : ∀ a, Stepwise declared (next a)) :
    Stepwise declared (first >>= next) :=
  stepwise_bind declared first next (stepwise_of_quiet declared first head) tail

theorem stepwise_declare (name : String) (type : DataType) (listed : name ∈ declared) :
    Stepwise declared (declare name type) := by
  intro machine
  rw [declare, runOn_bind, runOn_lift]
  cases initial : blank type with
  | error fault => exact .refl
  | ok value => exact .single (.declare machine name type value listed initial)

theorem stepwise_assign (name : String) (value : Value) :
    Stepwise declared (assign name value) := by
  intro machine
  simp only [assign, lookup, runOn_bind, runOn_get]
  cases found : machine.scope.find? name with
  | none => exact .refl
  | some old =>
    simp only [runOn_pure, runOn_lift]
    cases coerced : value.coerce old.type with
    | error fault => exact .refl
    | ok stored => exact .single (.assign machine name old value stored found coerced)

theorem stepwise_store (address : Int) (value : Value) :
    Stepwise declared (store address value) := by
  intro machine
  rw [runOn_store]
  cases stored : machine.memory.store address value with
  | error fault => exact .refl
  | ok answer => exact .single (.store machine answer.2 address answer.1 value stored)

theorem stepwise_call (function : String) (builtin : Builtin) (arguments : List Argument) :
    Stepwise declared (call function builtin arguments) := by
  intro machine
  unfold call
  -- A call that is refused, for its arguments or for an integer that is too long, runs nothing.
  split
  · exact .refl
  · cases checkArguments function 0 builtin.signature.parameters arguments with
    | error fault => exact .refl
    | ok done =>
      show machine.Steps declared ((builtin.invoke arguments).runOn machine).2
      unfold Builtin.invoke
      split
      · exact .single (.run ⟨builtin, arguments, machine⟩)
      · exact .refl

end Evaluation

namespace Statement

open Evaluation

variable (declared : List String)

theorem stepwise_evaluateArguments (arguments : List Node)
    (each : ∀ argument ∈ arguments, Stepwise declared argument.evaluate) :
    Stepwise declared (evaluateArguments arguments) := by
  induction arguments with
  | nil => exact fun _ => .refl
  | cons argument rest ih =>
    have tail := ih fun other member => each other (List.mem_cons_of_mem _ member)
    cases kind : argument.isType with
    | true =>
      cases argument with
      | typeName type => exact stepwise_bind_quiet declared _ _ tail fun _ => quiet_pure id _
      | _ => cases kind
    | false =>
      rw [evaluateArguments_cons argument rest kind]
      refine stepwise_bind declared _ _ (each argument List.mem_cons_self) fun result => ?_
      exact stepwise_bind_quiet declared _ _ tail fun others => quiet_pure id _

theorem stepwise_evaluate (node : Node) (listed : node.declarations ⊆ declared) :
    Stepwise declared node.evaluate := by
  induction node using evaluationInduction with
  | missing => exact fun _ => .refl
  | typeName type => exact fun _ => .refl
  | literal value => exact fun _ => .refl
  | identifier name =>
    refine stepwise_of_quiet declared _ ?_
    exact quiet_bind id _ _ (quiet_lookup id name) fun v => quiet_pure id _
  | declaration name type =>
    have named : name ∈ declared := listed List.mem_cons_self
    exact stepwise_bind_quiet declared _ _ (stepwise_declare declared name type named)
      fun _ => quiet_pure id _
  | operator op left right onLeft onRight =>
    rw [declarations, List.append_subset] at listed
    refine stepwise_bind declared _ _ (onLeft listed.1) fun l => ?_
    exact stepwise_bind_quiet declared _ _ (onRight listed.2) fun r => quiet_operate id op l r
  | cast type operand onOperand =>
    exact stepwise_bind_quiet declared _ _ (onOperand listed) fun result => quiet_cast id type result
  | parenthesis inner onInner => exact onInner listed
  | dereference pointer onPointer =>
    exact stepwise_bind_quiet declared _ _ (onPointer listed) fun result => quiet_load id result
  | store pointer value onPointer onValue =>
    rw [declarations, List.append_subset] at listed
    refine stepwise_bind declared _ _ (onPointer listed.1) fun result => ?_
    refine stepwise_quiet_bind declared _ _ (quiet_resolve id result) fun place => ?_
    refine stepwise_bind declared _ _ (onValue listed.2) fun stored => ?_
    exact stepwise_quiet_bind declared _ _ (quiet_require id _ stored)
      fun v => stepwise_store declared place.2 v
  | define name type value onValue =>
    rw [declarations, List.append_subset] at listed
    have named : name ∈ declared := listed.1 List.mem_cons_self
    refine stepwise_bind declared _ _ (stepwise_declare declared name type named) fun _ => ?_
    refine stepwise_bind declared _ _ (onValue listed.2) fun result => ?_
    exact stepwise_quiet_bind declared _ _ (quiet_require id _ result)
      fun v => stepwise_assign declared name v
  | assign name value onValue =>
    rw [declarations, List.append_subset] at listed
    refine stepwise_bind declared _ _ (onValue listed.2) fun result => ?_
    exact stepwise_quiet_bind declared _ _ (quiet_require id _ result)
      fun v => stepwise_assign declared name v
  | refuse target value refused =>
    rw [evaluate_refused target value refused]
    exact fun _ => .refl
  | call function arguments each =>
    have onArguments := stepwise_evaluateArguments declared arguments fun argument member =>
      each argument member
        (List.Subset.trans (declarations_subset_arguments arguments argument member) listed)
    refine stepwise_quiet_bind declared _ _ (quiet_callee id function) fun builtin => ?_
    refine stepwise_bind declared _ _ onArguments fun evaluated => ?_
    exact stepwise_call declared function builtin evaluated

end Statement

theorem Machine.steps_session (declared : List String) (nodes : List Node)
    (listed : ∀ node ∈ nodes, node.declarations ⊆ declared) (machine : Machine) :
    machine.Steps declared (machine.session nodes) := by
  induction nodes generalizing machine with
  | nil => exact .refl
  | cons node rest ih =>
    have first := Statement.stepwise_evaluate declared node (listed node List.mem_cons_self) machine
    have others := ih fun other member => listed other (List.mem_cons_of_mem _ member)
    exact Relation.ReflTransGen.trans first (others _)

end HeapConsole
