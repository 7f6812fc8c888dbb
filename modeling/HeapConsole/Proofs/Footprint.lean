import HeapConsole.Proofs.Allocation
import HeapConsole.Proofs.Grammar.Soundness
import HeapConsole.Proofs.Transcript

/-! What a statement that was read from a text can change, whether it succeeds or fails. Nothing
below the root binds or stores, so a statement reads, runs native functions, and binds one name or
writes one byte as the last thing it does; only a declaration comes before the value assigned to
it. -/
namespace HeapConsole

open Evaluation

namespace DataType

/-- What a variable of the type holds at first. Nothing is declared void, nor to hold a native
function. -/
def zero? : DataType → Option Value
  | .void => none
  | .int => some (.int 0)
  | .char => some (.char 0)
  | .double => some (.double (.finite false 0))
  | .string => some (.string "")
  | .pointer pointee => some (.pointer pointee 0)
  | .nativeFunction => none

theorem exists_zero (type : DataType) (named : type.IsNamed) (solid : type ≠ .void) :
    ∃ zero, type.zero? = some zero := by
  cases type with
  | void => exact absurd rfl solid
  | nativeFunction => exact absurd rfl named
  | _ => exact ⟨_, rfl⟩

theorem blank_of_zero (type : DataType) (zero : Value) (initial : type.zero? = some zero) :
    blank type = .ok zero := by
  cases type with
  | void => cases initial
  | nativeFunction => cases initial
  | double =>
    cases initial
    decide +kernel
  | _ =>
    cases initial
    rfl

end DataType

namespace Scope

theorem lookup_entry (name bound : String) (value : Value) (rest : List (String × Value)) :
    ((bound, value) :: rest).lookup name = if name = bound then some value else rest.lookup name := by
  by_cases same : name = bound
  · simp [same]
  · simp [List.lookup_cons, same, beq_eq_false_iff_ne.mpr same]

theorem lookup_insertEntry (name other : String) (value : Value) (entries : List (String × Value)) :
    (insertEntry name value entries).lookup other =
      if other = name then some value else entries.lookup other := by
  induction entries with
  | nil => exact lookup_entry other name value []
  | cons entry rest ih =>
    obtain ⟨bound, old⟩ := entry
    by_cases same : name = bound
    · rw [insertEntry, if_pos same, lookup_entry, lookup_entry, same]
      split <;> rfl
    · rw [insertEntry, if_neg same, lookup_entry, lookup_entry, ih]
      split
      · next found => rw [if_neg fun equal => same (equal.symm.trans found)]
      · rfl

theorem find?_insert (scope : Scope) (name other : String) (value : Value) :
    (scope.insert name value).find? other =
      if other = name then some value else scope.find? other :=
  lookup_insertEntry name other value scope.entries

end Scope

section runs

def Machine.heap (machine : Machine) : Heap := machine.memory.heap

/-- A reset in the log zeroes the heap, and no other run writes to it. -/
def Heap.afterCalls (heap : Heap) (log : List Call) : Heap :=
  if log.any Call.isReset then heap.clear else heap

theorem Heap.clear_clear (heap : Heap) : heap.clear.clear = heap.clear := by
  simp [clear, zeros, size]

theorem Heap.afterCalls_cons (heap : Heap) (call : Call) (rest : List Call) :
    heap.afterCalls (call :: rest) =
      (if call.isReset then heap.clear else heap).afterCalls rest := by
  unfold afterCalls
  cases reset : call.isReset with
  | false => simp [reset]
  | true => simp [reset, clear_clear]

theorem Call.heap_after (call : Call) :
    call.after.heap = if call.isReset then call.before.heap.clear else call.before.heap := by
  have changes := call.changes
  generalize call.after = after at changes ⊢
  cases changes with
  | nothing _ _ unreset => simp [isReset, unreset]
  | reserved arguments before size address allocator granted => rfl
  | cleared arguments before => rfl
  | based arguments before base => rfl
  | reset arguments before => rfl

theorem Chained.kept {γ : Type} (view : Machine → γ)
    (kept : ∀ call : Call, view call.after = view call.before) (first last : γ) (log : List Call)
    (chain : Chained view first log last) : last = first := by
  induction log generalizing first with
  | nil => exact Eq.symm chain
  | cons call rest ih =>
    obtain ⟨start, tail⟩ := chain
    rw [ih _ tail, kept call, start]

theorem Chained.heap_eq (first last : Heap) (log : List Call)
    (chain : Chained Machine.heap first log last) : last = first.afterCalls log := by
  induction log generalizing first with
  | nil => exact Eq.symm chain
  | cons call rest ih =>
    obtain ⟨start, tail⟩ := chain
    rw [ih _ tail, call.heap_after, start, Heap.afterCalls_cons]

end runs

namespace Evaluation

variable {α β : Type}

/-- Nothing but the runs in the log changes the machine, whatever one looks at. -/
def Reading (evaluation : Evaluation α) (log : Machine → List Call) : Prop :=
  ∀ (γ : Type) (view : Machine → γ), Logged view evaluation log

theorem Reading.scope_eq {evaluation : Evaluation α} {log : Machine → List Call}
    (reading : Reading evaluation log) (machine : Machine) :
    (evaluation.runOn machine).2.scope = machine.scope :=
  Chained.kept _ Call.scope_after _ _ _ (reading _ Machine.scope machine)

theorem Reading.heap_eq {evaluation : Evaluation α} {log : Machine → List Call}
    (reading : Reading evaluation log) (machine : Machine) :
    (evaluation.runOn machine).2.heap = machine.heap.afterCalls (log machine) :=
  Chained.heap_eq _ _ _ (reading _ Machine.heap machine)

end Evaluation

namespace Statement

section trees

variable {τ ℓ : Type} {types : τ → Prop} {literals : ℓ → Prop}

theorem IsExpression.performs_nothing {statement : Statement τ ℓ}
    (expression : statement.IsExpression types literals) (effect : Effect) :
    ¬ statement.Performs effect := by
  intro performs
  induction performs with
  | declaration name type => cases expression
  | left op left right effect _ ih =>
    cases expression with
    | operator _ _ _ _ _ onLeft _ => exact ih onLeft
  | right op left right effect _ ih =>
    cases expression with
    | operator _ _ _ _ _ _ onRight => exact ih onRight
  | cast type operand effect _ ih =>
    cases expression with
    | cast _ _ _ _ below => exact ih below
  | parenthesis inner effect _ ih =>
    cases expression with
    | parenthesis _ below => exact ih below
  | dereference pointer effect _ ih =>
    cases expression with
    | dereference _ _ below => exact ih below
  | assign name value => cases expression
  | store pointer value => cases expression
  | target target value effect _ _ => cases expression
  | value target value effect _ _ => cases expression
  | argument function arguments argument effect member performs ih =>
    cases expression with
    | call _ _ _ _ below =>
      refine ih (below argument member ?_)
      cases performs <;> rfl

def callFree : Statement τ ℓ → Bool
  | .operator _ left right => left.callFree && right.callFree
  | .cast _ operand => operand.callFree
  | .parenthesis inner => inner.callFree
  | .dereference pointer => pointer.callFree
  | .assignment target value => target.callFree && value.callFree
  | .call _ _ => false
  | _ => true

/-- The name that the statement declares or assigns to at its root. -/
def boundName? : Statement τ ℓ → Option String
  | .declaration name _ => some name
  | .assignment (.declaration name _) _ => some name
  | .assignment (.identifier name) _ => some name
  | _ => none

def isStore : Statement τ ℓ → Bool
  | .assignment (.dereference _) _ => true
  | _ => false

end trees

theorem calls_of_callFree (node : Node) (free : node.callFree = true) (machine : Machine) :
    node.calls machine = [] := by
  induction node using evaluationInduction generalizing machine with
  | missing => rfl
  | typeName type => rfl
  | literal value => rfl
  | identifier name => rfl
  | declaration name type => rfl
  | operator op left right onLeft onRight =>
    rw [callFree, Bool.and_eq_true] at free
    rw [calls, onLeft free.1, funext (onRight free.2), List.nil_append, followedBy_nil]
  | cast type operand onOperand => exact onOperand free machine
  | parenthesis inner onInner => exact onInner free machine
  | dereference pointer onPointer => exact onPointer free machine
  | store pointer value onPointer onValue =>
    rw [callFree, Bool.and_eq_true] at free
    have silent (result : Result) :
        followedBy (resolve result) (fun _ => value.calls) = fun _ => [] := by
      rw [funext (onValue free.2)]
      exact funext (followedBy_nil (resolve result))
    rw [calls, onPointer free.1, funext silent, followedBy_nil]
    rfl
  | define name type value onValue =>
    rw [callFree, Bool.and_eq_true] at free
    rw [calls, funext (onValue free.2), followedBy_nil]
  | assign name value onValue =>
    rw [callFree, Bool.and_eq_true] at free
    exact onValue free.2 machine
  | refuse target value refused => cases target <;> first | rfl | cases refused
  | call function arguments each => cases free

end Statement

namespace Evaluation

theorem runOn_declare_cases (name : String) (type : DataType) (machine : Machine) :
    (∃ zero, type.zero? = some zero ∧
      (declare name type).runOn machine = (.ok (), machine.bind name zero)) ∨
    (type.zero? = none ∧ ∃ failure, (declare name type).runOn machine = (.error failure, machine)) := by
  cases initial : type.zero? with
  | some zero =>
    refine .inl ⟨zero, rfl, ?_⟩
    rw [declare, type.blank_of_zero zero initial]
    rfl
  | none =>
    refine .inr ⟨rfl, ?_⟩
    cases type with
    | void => exact ⟨_, rfl⟩
    | nativeFunction => exact ⟨_, rfl⟩
    | _ => cases initial

theorem runOn_assign_cases (name : String) (value : Value) (machine : Machine) :
    (∃ stored, (assign name value).runOn machine =
      (.ok (.value stored), machine.bind name stored)) ∨
    (∃ failure, (assign name value).runOn machine = (.error failure, machine)) := by
  simp only [assign, lookup, runOn_bind, runOn_get]
  cases machine.scope.find? name with
  | none => exact .inr ⟨_, rfl⟩
  | some old =>
    simp only [runOn_pure, runOn_lift]
    cases value.coerce old.type with
    | error fault => exact .inr ⟨_, rfl⟩
    | ok stored => exact .inl ⟨stored, rfl⟩

end Evaluation

namespace Statement

def assigned (value : Node) : Evaluation Value := value.evaluate >>= require .voidAssignment

def aimed (pointer value : Node) : Evaluation (Int × Value) := do
  let result ← pointer.evaluate
  let place ← resolve result
  let stored ← value.assigned
  return (place.2, stored)

theorem evaluate_assign (name : String) (value : Node) :
    (Statement.assignment (.identifier name) value : Node).evaluate =
      value.assigned >>= assign name := by
  rw [evaluate, assigned, bind_assoc]

theorem evaluate_define (name : String) (type : DataType) (value : Node) :
    (Statement.assignment (.declaration name type) value : Node).evaluate =
      declare name type >>= fun _ => value.assigned >>= assign name := by
  simp only [evaluate, assigned, bind_assoc]

theorem evaluate_store (pointer value : Node) :
    (Statement.assignment (.dereference pointer) value : Node).evaluate =
      aimed pointer value >>= fun aim => store aim.1 aim.2 := by
  simp only [evaluate, aimed, assigned, bind_assoc, pure_bind]

section readings

variable {types : DataType → Prop} {literals : Literal → Prop}

theorem reading_expression (node : Node) (expression : node.IsExpression types literals) :
    Reading node.evaluate node.calls :=
  fun _ view => logged_of_spared view node fun effect performs =>
    absurd performs (expression.performs_nothing effect)

theorem reading_assigned (value : Node) (expression : value.IsExpression types literals) :
    Reading value.assigned value.calls :=
  fun _ view => logged_bind_quiet view _ _ _ (reading_expression value expression _ view)
    fun result => quiet_require view _ result

theorem reading_aimed (pointer value : Node) (onPointer : pointer.IsExpression types literals)
    (onValue : value.IsExpression types literals) :
    Reading (aimed pointer value)
      (calls (.assignment (.dereference pointer) value)) := by
  intro γ view
  refine logged_bind view _ _ _ _ (reading_expression pointer onPointer _ view) fun result => ?_
  refine logged_quiet_bind view _ _ _ (quiet_resolve view result) fun place => ?_
  exact logged_bind_quiet view _ _ _ (reading_assigned value onValue _ view)
    fun stored => quiet_pure view _

end readings

end Statement

section effects

variable (node : Node) (machine : Machine)

theorem Statement.find?_of_unbound (name : String) (unbound : ¬ node.Performs (.bind name)) :
    (node.evaluate.runOn machine).2.scope.find? name = machine.scope.find? name := by
  have logged : Logged (fun machine => machine.scope.find? name) node.evaluate node.calls := by
    refine Statement.logged_of_spared _ node fun effect performs => ?_
    cases effect with
    | bind bound =>
      intro machine value
      have other : name ≠ bound := by
        rintro rfl
        exact unbound performs
      exact (machine.scope.find?_insert bound name value).trans (if_neg other)
    | store => exact fun _ _ _ _ _ _ => rfl
  refine Chained.kept _ (fun call => ?_) _ _ _ (logged machine)
  rw [call.scope_after]

theorem Statement.scope_of_unbound (unbound : ∀ name, ¬ node.Performs (.bind name)) :
    (node.evaluate.runOn machine).2.scope = machine.scope := by
  have logged : Logged Machine.scope node.evaluate node.calls := by
    refine Statement.logged_of_spared _ node fun effect performs => ?_
    cases effect with
    | bind name => exact absurd performs (unbound name)
    | store => exact fun _ _ _ _ _ _ => rfl
  exact Chained.kept _ Call.scope_after _ _ _ (logged machine)

theorem Statement.heap_of_unstored (unstored : ¬ node.Performs .store) :
    (node.evaluate.runOn machine).2.heap = machine.heap.afterCalls (node.calls machine) := by
  have logged : Logged Machine.heap node.evaluate node.calls := by
    refine Statement.logged_of_spared _ node fun effect performs => ?_
    cases effect with
    | bind name => exact fun _ _ => rfl
    | store => exact absurd performs unstored
  exact Chained.heap_eq _ _ _ (logged machine)

/-- What neither a name nor a byte is part of. -/
def Machine.setup (machine : Machine) : Allocator × Int × Option Nat :=
  (machine.memory.allocator, machine.displayBase, machine.clears)

theorem steady_setup : Steady Machine.setup where
  bind machine name value := rfl
  store machine address value n memory stored := by
    have layout := Memory.store_layout machine.memory memory address n value stored
    simp only [Machine.setup, layout.2]

theorem Statement.setup_of_callFree (free : node.callFree = true) :
    (node.evaluate.runOn machine).2.setup = machine.setup := by
  have chain := logged_evaluate Machine.setup steady_setup node machine
  rw [calls_of_callFree node free machine] at chain
  exact Eq.symm chain

end effects

namespace Statement

section roots

variable {τ ℓ : Type} {types : τ → Prop} {literals : ℓ → Prop}

theorem IsPlace.performs {statement : Statement τ ℓ} (place : statement.IsPlace types literals)
    (effect : Effect) (performs : statement.Performs effect) :
    ∃ name type, statement = .declaration name type ∧ effect = .bind name := by
  cases place with
  | declaration name type _ _ =>
    cases performs
    exact ⟨name, type, rfl, rfl⟩
  | identifier name _ => cases performs
  | dereference pointer _ below =>
    cases performs with
    | dereference _ _ inner => exact absurd inner (below.performs_nothing effect)

/-- The effects of a statement are those of its root. -/
theorem IsSentence.performs {statement : Statement τ ℓ}
    (sentence : statement.IsSentence types literals) (effect : Effect)
    (performs : statement.Performs effect) :
    match effect with
    | .bind name => statement.boundName? = some name
    | .store => statement.isStore = true := by
  cases sentence with
  | declaration name type _ _ =>
    cases performs
    rfl
  | expression _ valued => exact absurd performs (valued.performs_nothing effect)
  | assignment target value place valued =>
    cases performs with
    | assign name value => rfl
    | store pointer value => rfl
    | value _ _ _ below => exact absurd below (valued.performs_nothing effect)
    | target _ _ _ below =>
      obtain ⟨name, type, rfl, rfl⟩ := place.performs effect below
      rfl

end roots

section failures

variable {types : DataType → Prop} {literals : Literal → Prop} (machine : Machine)
  (failure : Failure)

theorem scope_of_failed_declaration (name : String) (type : DataType)
    (failed : ((Statement.declaration name type : Node).evaluate.runOn machine).1 = .error failure) :
    ((Statement.declaration name type : Node).evaluate.runOn machine).2.scope = machine.scope := by
  simp only [evaluate, runOn_bind] at failed ⊢
  rcases runOn_declare_cases name type machine with ⟨zero, _, ran⟩ | ⟨_, cause, ran⟩
  · rw [ran] at failed
    cases failed
  · rw [ran]

theorem scope_of_failed_assign (name : String) (value : Node)
    (expression : value.IsExpression types literals)
    (failed : ((value.assigned >>= assign name).runOn machine).1 = .error failure) :
    ((value.assigned >>= assign name).runOn machine).2.scope = machine.scope := by
  have kept := (reading_assigned value expression).scope_eq machine
  rcases runOn_bind_cases value.assigned (assign name) machine with
    ⟨v, middle, ran, goes⟩ | ⟨cause, middle, ran, goes⟩
  · rw [ran] at kept
    rw [goes] at failed ⊢
    rcases runOn_assign_cases name v middle with ⟨stored, ended⟩ | ⟨cause, ended⟩
    · rw [ended] at failed
      cases failed
    · rw [ended]
      exact kept
  · rw [ran] at kept
    rw [goes]
    exact kept

/-- A definition that fails has got as far as the declaration, unless there is none of its type. -/
theorem scope_of_failed_define (name : String) (type : DataType) (value : Node)
    (expression : value.IsExpression types literals)
    (failed : ((Statement.assignment (.declaration name type) value : Node).evaluate.runOn machine).1 =
      .error failure) :
    ((Statement.assignment (.declaration name type) value : Node).evaluate.runOn machine).2.scope =
      match type.zero? with
      | some zero => machine.scope.insert name zero
      | none => machine.scope := by
  rw [evaluate_define, runOn_bind] at failed ⊢
  rcases runOn_declare_cases name type machine with ⟨zero, initial, ran⟩ | ⟨initial, cause, ran⟩
  · rw [ran] at failed ⊢
    rw [initial]
    exact scope_of_failed_assign (machine.bind name zero) failure name value expression failed
  · rw [ran, initial]

/-- A store writes a single byte, after everything else has been done, or nothing. -/
theorem heap_of_store (pointer value : Node) (onPointer : pointer.IsExpression types literals)
    (onValue : value.IsExpression types literals) :
    let node : Node := .assignment (.dereference pointer) value
    let ground := machine.heap.afterCalls (node.calls machine)
    (node.evaluate.runOn machine).2.heap = ground ∨
      (∃ result, (node.evaluate.runOn machine).1 = .ok result) ∧
        ∃ i byte, (node.evaluate.runOn machine).2.heap = ground.set i byte := by
  intro node ground
  -- Finding the place and the value only reads, so the store meets what the calls left.
  have kept := (reading_aimed pointer value onPointer onValue).heap_eq machine
  rw [evaluate_store]
  rcases runOn_bind_cases (aimed pointer value) (fun aim => store aim.1 aim.2) machine with
    ⟨aim, middle, ran, goes⟩ | ⟨cause, middle, ran, goes⟩
  · rw [ran] at kept
    rw [goes, runOn_store]
    cases stored : middle.memory.store aim.1 aim.2 with
    | error fault => exact .inl kept
    | ok answer =>
      obtain ⟨n, memory⟩ := answer
      obtain ⟨i, _, _, rfl⟩ := Memory.eq_of_store _ memory aim.1 n _ stored
      have same : middle.memory.heap = ground := kept
      refine .inr ⟨⟨_, rfl⟩, ?_⟩
      rw [← same]
      exact ⟨i, _, rfl⟩
  · rw [ran] at kept
    rw [goes]
    exact .inl kept

end failures

end Statement

/-- What a statement leaves behind: the machine before and after it, how it ended, and the native
functions that ran. -/
structure Footprint (node : Node) (before after : Machine) (outcome : Except Failure Result)
    (log : List Call) : Prop where
  -- Only the name that the statement declares or assigns to can be bound anew.
  others : ∀ name, node.boundName? ≠ some name →
    after.scope.find? name = before.scope.find? name
  -- A definition that fails has declared its variable already.
  declared : ∀ name type value failure, node = .assignment (.declaration name type) value →
    type ≠ .void → outcome = .error failure →
      ∃ zero, type.zero? = some zero ∧ after.scope = before.scope.insert name zero
  -- Every other statement that fails leaves the scope as it was.
  unbound : ∀ failure, outcome = .error failure →
    (∀ name type value, node = .assignment (.declaration name type) value → type = .void) →
      after.scope = before.scope
  -- Apart from resets, only a store that succeeds writes to the heap, and it writes one byte.
  heap : after.heap = before.heap.afterCalls log ∨
    node.isStore = true ∧ (∃ result, outcome = .ok result) ∧
      ∃ i byte, after.heap = (before.heap.afterCalls log).set i byte
  -- Without a call, nothing but names and bytes is affected.
  silent : node.callFree = true → after.memory.allocator = before.memory.allocator ∧
    after.displayBase = before.displayBase ∧ after.clears = before.clears

namespace Statement

variable {literals : Literal → Prop}

theorem IsSentence.declared {node : Node}
    (sentence : node.IsSentence DataType.IsNamed literals) (machine : Machine) (name : String)
    (type : DataType) (value : Node) (failure : Failure)
    (define : node = .assignment (.declaration name type) value) (solid : type ≠ .void)
    (failed : (node.evaluate.runOn machine).1 = .error failure) :
    ∃ zero, type.zero? = some zero ∧
      (node.evaluate.runOn machine).2.scope = machine.scope.insert name zero := by
  subst define
  cases sentence with
  | assignment _ _ place valued =>
    cases place with
    | declaration _ _ _ named =>
      obtain ⟨zero, initial⟩ := type.exists_zero named solid
      refine ⟨zero, initial, ?_⟩
      rw [scope_of_failed_define machine failure name type value valued failed, initial]
  | expression _ valued => cases valued

theorem IsSentence.unbound {node : Node}
    (sentence : node.IsSentence DataType.IsNamed literals) (machine : Machine) (failure : Failure)
    (failed : (node.evaluate.runOn machine).1 = .error failure)
    (undefined : ∀ name type value, node = .assignment (.declaration name type) value → type = .void) :
    (node.evaluate.runOn machine).2.scope = machine.scope := by
  cases sentence with
  | declaration name type _ _ => exact scope_of_failed_declaration machine failure name type failed
  | expression _ valued =>
    exact scope_of_unbound node machine fun name => valued.performs_nothing (.bind name)
  | assignment target value place valued =>
    cases place with
    | declaration name type _ _ =>
      rw [scope_of_failed_define machine failure name type value valued failed,
        undefined name type value rfl]
      rfl
    | identifier name _ =>
      rw [evaluate_assign] at failed ⊢
      exact scope_of_failed_assign machine failure name value valued failed
    | dereference pointer whole below =>
      have sentence : IsSentence DataType.IsNamed literals
          (.assignment (.dereference pointer) value) :=
        .assignment _ value (.dereference pointer whole below) valued
      refine scope_of_unbound _ machine fun name performs => ?_
      cases sentence.performs _ performs

theorem IsSentence.heap {node : Node} (sentence : node.IsSentence DataType.IsNamed literals)
    (machine : Machine) :
    (node.evaluate.runOn machine).2.heap = machine.heap.afterCalls (node.calls machine) ∨
      node.isStore = true ∧ (∃ result, (node.evaluate.runOn machine).1 = .ok result) ∧
        ∃ i byte, (node.evaluate.runOn machine).2.heap =
          (machine.heap.afterCalls (node.calls machine)).set i byte := by
  by_cases stores : node.Performs .store
  · have store := sentence.performs .store stores
    cases sentence with
    | declaration name type _ _ => cases store
    | expression _ valued => exact absurd stores (valued.performs_nothing .store)
    | assignment target value place valued =>
      cases place with
      | declaration name type _ _ => cases store
      | identifier name _ => cases store
      | dereference pointer _ below =>
        exact (heap_of_store machine pointer value below valued).imp_right fun written =>
          ⟨rfl, written⟩
  · exact .inl (heap_of_unstored node machine stores)

/-- On every machine, and however it ends, a statement read from a text changes no more than its
footprint, and without a call in it the transcript of a console stays as it was. -/
theorem footprint_of_parse (text : String) (node : Node) (read : Grammar.parse text = .ok node)
    (machine : Machine) :
    Footprint node machine (node.evaluate.runOn machine).2 (node.evaluate.runOn machine).1
      (node.calls machine) ∧
    (node.callFree = true → ∀ history, (Console.run ⟨machine, history⟩ text).2.history = history) := by
  have settled := Grammar.settles_parse text
  rw [read] at settled
  obtain ⟨_, same, sentence⟩ | ⟨fault, same, _⟩ := settled.cases
  · cases same
    have kept (free : node.callFree = true) := setup_of_callFree node machine free
    simp only [Machine.setup, Prod.mk.injEq] at kept
    refine ⟨⟨fun name other => ?_, ?_, ?_, sentence.heap machine, kept⟩, fun free history => ?_⟩
    · exact find?_of_unbound node machine name fun performs => other (sentence.performs _ performs)
    · exact fun name type value failure => sentence.declared machine name type value failure
    · exact fun failure => sentence.unbound machine failure
    · have same : (machine.run text).2.clears = machine.clears := by
        rw [machine.run_of_parse text node read]
        exact (kept free).2.2
      rw [Console.history_run, if_pos same]
  · cases same

/-- The variable is declared and the heap is zeroed, although nothing can be assigned. -/
theorem footprint_of_void_definition :
    let machine := (Machine.ofConfig ⟨4, 10⟩ true).session
      [.assignment (.dereference (.cast (.pointer .char) (.literal (.int 2)))) (.literal (.int 300))]
    let node : Node := .assignment (.declaration "x" .int) (.call "reset" [])
    let after := (node.evaluate.runOn machine).2
    Grammar.parse "int x = reset()" = .ok node ∧
      (node.evaluate.runOn machine).1 = .error (.fault .voidAssignment) ∧
      machine.heap.bytes = #[0, 0, 44, 0] ∧ after.heap.bytes = #[0, 0, 0, 0] ∧
      after.scope = machine.scope.insert "x" (.int 0) := by
  intro machine node after
  have read : Grammar.parse "int x = reset()" =
      .ok (.assignment (.declaration "x" .int) (.call "reset" [])) := by cbv
  have failed : (node.evaluate.runOn machine).1 = .error (.fault .voidAssignment) := by
    decide +kernel
  have footprint := (footprint_of_parse _ _ read machine).1
  obtain ⟨zero, initial, scope⟩ := footprint.declared "x" .int _ _ rfl (by decide) failed
  cases initial
  exact ⟨read, failed, by decide +kernel, by decide +kernel, scope⟩

end Statement

end HeapConsole
