import HeapConsole.Proofs.Evaluation

/-! The runs of native functions that an evaluation makes, in order and with the machine each of
them starts on. Apart from these runs an evaluation only binds names and stores bytes, so whatever
neither a binding nor a store changes passes unchanged from one run to the next. -/
namespace HeapConsole

/-- A native function with the arguments it runs on and the machine it starts from. -/
structure Call where
  builtin : Builtin
  arguments : List Argument
  before : Machine

namespace Call

def run (call : Call) : Except Failure Result × Machine :=
  (call.builtin.run call.arguments).runOn call.before

def outcome (call : Call) : Except Failure Result := call.run.1

def after (call : Call) : Machine := call.run.2

/-- What a run can make of the machine it starts from. -/
inductive Changes : Call → Machine → Prop where
  | nothing (call : Call) (unclear : call.builtin ≠ .clear) (unreset : call.builtin ≠ .reset) :
      Changes call call.before
  | reserved (arguments : List Argument) (before : Machine) (size address : Int)
      (allocator : Allocator)
      (granted : before.memory.allocator.malloc size = .ok (address, allocator)) :
      Changes ⟨.malloc, arguments, before⟩ { before with memory.allocator := allocator }
  | cleared (arguments : List Argument) (before : Machine) :
      Changes ⟨.clear, arguments, before⟩ before.clearHistory
  | based (arguments : List Argument) (before : Machine) (base : Base) :
      Changes ⟨.setDisplayBase, arguments, before⟩ { before with displayBase := base.number }
  | reset (arguments : List Argument) (before : Machine) :
      Changes ⟨.reset, arguments, before⟩ { before with memory := before.memory.reset }

theorem changes (call : Call) : call.Changes call.after := by
  obtain ⟨builtin, arguments, before⟩ := call
  cases builtin with
  | malloc =>
    have unchanged : Changes ⟨.malloc, arguments, before⟩ before := .nothing _ (by simp) (by simp)
    simp only [after, run, Builtin.run, Builtin.runMalloc]
    split
    · exact unchanged
    · rw [Evaluation.runOn_bind]
      cases Builtin.malloc.intArgument arguments with
      | error fault => exact unchanged
      | ok size =>
        simp only [Evaluation.runOn_lift_ok, Evaluation.runOn_bind, Evaluation.runOn_get,
          Memory.malloc]
        cases granted : before.memory.allocator.malloc size with
        | error fault => exact unchanged
        | ok answer => exact .reserved arguments before size answer.1 answer.2 granted
  | clear => exact .cleared arguments before
  | setDisplayBase =>
    have unchanged : Changes ⟨.setDisplayBase, arguments, before⟩ before :=
      .nothing _ (by simp) (by simp)
    simp only [after, run, Builtin.run, Builtin.runSetDisplayBase, Evaluation.runOn_bind]
    cases Builtin.setDisplayBase.intArgument arguments with
    | error fault => exact unchanged
    | ok number =>
      simp only [Evaluation.runOn_lift_ok]
      cases Base.ofNumber? number with
      | none => exact unchanged
      | some base => exact .based arguments before base
  | sizeof =>
    have unchanged : Changes ⟨.sizeof, arguments, before⟩ before := .nothing _ (by simp) (by simp)
    simp only [after, run, Builtin.run, Builtin.runSizeof]
    split
    · split <;> exact unchanged
    · exact unchanged
    · exact unchanged
  | reset => exact .reset arguments before

/-- No native function binds a name. -/
theorem scope_after (call : Call) : call.after.scope = call.before.scope := by
  have changes := call.changes
  generalize call.after = after at changes ⊢
  cases changes <;> rfl

end Call

namespace Evaluation

variable {α β γ : Type}

def followedBy (first : Evaluation α) (next : α → Machine → List Call) (machine : Machine) :
    List Call :=
  match first.runOn machine with
  | (.ok a, after) => next a after
  | (.error _, _) => []

/-- The run that a call comes to once its arguments are evaluated: none if their number, their
types or the length of an integer is not accepted. -/
def runOf (function : String) (builtin : Builtin) (arguments : List Argument) (machine : Machine) :
    List Call :=
  if arguments.length ≠ builtin.arity then []
  else match checkArguments function 0 builtin.signature.parameters arguments with
    | .error _ => []
    | .ok _ =>
      if ∀ n ∈ arguments.filterMap Argument.integer?, Numeral.Writable n then
        [⟨builtin, arguments, machine⟩]
      else []

end Evaluation

namespace Statement

open Evaluation

mutual

/-- The runs of native functions while a node is evaluated on a machine. -/
def calls : Node → Machine → List Call
  | .operator _ left right, machine =>
    left.calls machine ++ followedBy left.evaluate (fun _ => right.calls) machine
  | .cast _ operand, machine => operand.calls machine
  | .parenthesis inner, machine => inner.calls machine
  | .dereference pointer, machine => pointer.calls machine
  | .assignment (.dereference pointer) value, machine =>
    pointer.calls machine ++
      followedBy pointer.evaluate
        (fun result => followedBy (resolve result) fun _ => value.calls) machine
  | .assignment (.declaration name type) value, machine =>
    followedBy (declare name type) (fun _ => value.calls) machine
  | .assignment (.identifier _) value, machine => value.calls machine
  | .call function arguments, machine =>
    followedBy (callee function)
      (fun builtin after => argumentCalls arguments after ++
        followedBy (evaluateArguments arguments) (runOf function builtin) after) machine
  | _, _ => []

def argumentCalls : List Node → Machine → List Call
  | [], _ => []
  | .typeName _ :: rest, machine => argumentCalls rest machine
  | argument :: rest, machine =>
    argument.calls machine ++ followedBy argument.evaluate (fun _ => argumentCalls rest) machine

end

theorem argumentCalls_cons (argument : Node) (rest : List Node) (machine : Machine)
    (value : argument.isType = false) :
    argumentCalls (argument :: rest) machine =
      argument.calls machine ++
        followedBy argument.evaluate (fun _ => argumentCalls rest) machine := by
  cases argument <;> simp_all [isType, argumentCalls]

end Statement

def Machine.sessionCalls (machine : Machine) : List Node → List Call
  | [] => []
  | node :: rest => node.calls machine ++ (node.evaluate.runOn machine).2.sessionCalls rest

/-- Each run starts from the view in which the one before it ended. -/
def Chained {γ : Type} (view : Machine → γ) : γ → List Call → γ → Prop
  | first, [], last => first = last
  | first, call :: rest, last => view call.before = first ∧ Chained view (view call.after) rest last

theorem Chained.append {γ : Type} (view : Machine → γ) (first middle last : γ)
    (front back : List Call) (head : Chained view first front middle)
    (tail : Chained view middle back last) : Chained view first (front ++ back) last := by
  induction front generalizing first with
  | nil =>
    rw [Chained] at head
    rw [head]
    exact tail
  | cons call rest ih => exact ⟨head.1, ih (view call.after) head.2⟩

theorem Chained.split {γ : Type} (view : Machine → γ) (first last : γ) (front back : List Call)
    (chain : Chained view first (front ++ back) last) :
    ∃ middle, Chained view first front middle ∧ Chained view middle back last := by
  induction front generalizing first with
  | nil => exact ⟨first, rfl, chain⟩
  | cons call rest ih =>
    obtain ⟨middle, head, tail⟩ := ih (view call.after) chain.2
    exact ⟨middle, ⟨chain.1, head⟩, tail⟩

/-- What neither a binding nor a store changes. -/
structure Steady {γ : Type} (view : Machine → γ) : Prop where
  bind : ∀ machine name value, view (machine.bind name value) = view machine
  store : ∀ machine address value n memory, machine.memory.store address value = .ok (n, memory) →
    view { machine with memory := memory } = view machine

/-- What an evaluation does to a machine by itself, without a native function. -/
inductive Effect where
  | bind (name : String)
  | store
deriving DecidableEq, Repr

/-- The view is the same before and after the effect. -/
def Effect.Spares {γ : Type} (view : Machine → γ) : Effect → Prop
  | .bind name => ∀ machine value, view (machine.bind name value) = view machine
  | .store => ∀ machine address value n memory,
      machine.memory.store address value = .ok (n, memory) →
        view { machine with memory := memory } = view machine

theorem Steady.spares {γ : Type} {view : Machine → γ} (steady : Steady view) (effect : Effect) :
    effect.Spares view := by
  cases effect with
  | bind name => exact fun machine value => steady.bind machine name value
  | store => exact steady.store

/-- The effects that the evaluation of a statement can have, wherever in it they arise. -/
inductive Statement.Performs {τ ℓ : Type} : Statement τ ℓ → Effect → Prop where
  | declaration (name : String) (type : τ) : Performs (.declaration name type) (.bind name)
  | left (op : Operator) (left right : Statement τ ℓ) (effect : Effect)
      (below : Performs left effect) : Performs (.operator op left right) effect
  | right (op : Operator) (left right : Statement τ ℓ) (effect : Effect)
      (below : Performs right effect) : Performs (.operator op left right) effect
  | cast (type : τ) (operand : Statement τ ℓ) (effect : Effect) (below : Performs operand effect) :
      Performs (.cast type operand) effect
  | parenthesis (inner : Statement τ ℓ) (effect : Effect) (below : Performs inner effect) :
      Performs (.parenthesis inner) effect
  | dereference (pointer : Statement τ ℓ) (effect : Effect) (below : Performs pointer effect) :
      Performs (.dereference pointer) effect
  | assign (name : String) (value : Statement τ ℓ) :
      Performs (.assignment (.identifier name) value) (.bind name)
  | store (pointer value : Statement τ ℓ) :
      Performs (.assignment (.dereference pointer) value) .store
  | target (target value : Statement τ ℓ) (effect : Effect) (below : Performs target effect) :
      Performs (.assignment target value) effect
  | value (target value : Statement τ ℓ) (effect : Effect) (below : Performs value effect) :
      Performs (.assignment target value) effect
  | argument (function : String) (arguments : List (Statement τ ℓ)) (argument : Statement τ ℓ)
      (effect : Effect) (member : argument ∈ arguments) (below : Performs argument effect) :
      Performs (.call function arguments) effect

namespace Evaluation

section chains

variable {α β γ : Type} (view : Machine → γ)

def Quiet (evaluation : Evaluation α) : Prop :=
  ∀ machine, view (evaluation.runOn machine).2 = view machine

/-- The view changes only by the runs in the log. -/
def Logged (evaluation : Evaluation α) (log : Machine → List Call) : Prop :=
  ∀ machine, Chained view (view machine) (log machine) (view (evaluation.runOn machine).2)

theorem quiet_pure (a : α) : Quiet view (pure a : Evaluation α) := fun _ => rfl

theorem quiet_fail (fault : Fault) : Quiet view (fail fault : Evaluation α) := fun _ => rfl

theorem quiet_lift (outcome : Except Fault α) : Quiet view (lift outcome) := by
  intro machine
  rw [runOn_lift]

theorem quiet_get : Quiet view (get : Evaluation Machine) := fun _ => rfl

theorem quiet_bind (first : Evaluation α) (next : α → Evaluation β) (head : Quiet view first)
    (tail : ∀ a, Quiet view (next a)) : Quiet view (first >>= next) := by
  intro machine
  have before := head machine
  rcases runOn_bind_cases first next machine with ⟨a, after, ran, goes⟩ | ⟨_, after, ran, goes⟩
  · rw [ran] at before
    rw [goes, tail a after]
    exact before
  · rw [ran] at before
    rw [goes]
    exact before

theorem closed_quiet : Closed fun _ evaluation => Quiet view evaluation where
  pure := quiet_pure view
  fail fault _ := quiet_fail view fault
  bind := quiet_bind view

theorem logged_of_quiet (evaluation : Evaluation α) (quiet : Quiet view evaluation) :
    Logged view evaluation fun _ => [] :=
  fun machine => (quiet machine).symm

theorem logged_bind (first : Evaluation α) (next : α → Evaluation β) (log : Machine → List Call)
    (nextLog : α → Machine → List Call) (head : Logged view first log)
    (tail : ∀ a, Logged view (next a) (nextLog a)) :
    Logged view (first >>= next) fun machine =>
      log machine ++ followedBy first nextLog machine := by
  intro machine
  have before := head machine
  show Chained view _ (log machine ++ followedBy first nextLog machine) _
  rcases runOn_bind_cases first next machine with ⟨a, after, ran, goes⟩ | ⟨_, after, ran, goes⟩
  · rw [ran] at before
    rw [goes, followedBy, ran]
    exact .append view _ _ _ _ _ before (tail a after)
  · rw [ran] at before
    rw [goes, followedBy, ran, List.append_nil]
    exact before

theorem followedBy_nil (first : Evaluation α) (machine : Machine) :
    followedBy first (fun _ _ => []) machine = [] := by
  unfold followedBy
  split <;> rfl

theorem logged_bind_quiet (first : Evaluation α) (next : α → Evaluation β)
    (log : Machine → List Call) (head : Logged view first log)
    (tail : ∀ a, Quiet view (next a)) : Logged view (first >>= next) log := by
  have both := logged_bind view first next log (fun _ _ => []) head
    fun a => logged_of_quiet view (next a) (tail a)
  simpa only [followedBy_nil, List.append_nil] using both

theorem logged_quiet_bind (first : Evaluation α) (next : α → Evaluation β)
    (nextLog : α → Machine → List Call) (head : Quiet view first)
    (tail : ∀ a, Logged view (next a) (nextLog a)) :
    Logged view (first >>= next) (followedBy first nextLog) :=
  logged_bind view first next (fun _ => []) nextLog (logged_of_quiet view first head) tail

end chains

/-- A store that fails leaves the machine as it was. -/
theorem runOn_store (address : Int) (value : Value) (machine : Machine) :
    (store address value).runOn machine =
      match machine.memory.store address value with
      | .ok (n, memory) => (.ok (.value (.int n)), { machine with memory := memory })
      | .error fault => (.error (.of fault), machine) := by
  simp only [store, runOn_bind, runOn_get, runOn_lift]
  cases machine.memory.store address value <;> rfl

section parts

variable {γ : Type} (view : Machine → γ)

theorem quiet_lookup (name : String) : Quiet view (lookup name) := by
  refine quiet_bind view _ _ (quiet_get view) fun machine => ?_
  split
  · exact quiet_pure view _
  · exact quiet_fail view _

theorem quiet_require (fault : Fault) (result : Result) : Quiet view (require fault result) := by
  cases result with
  | void => exact quiet_fail view fault
  | value v => exact quiet_pure view v

theorem quiet_operate (operator : Operator) (left right : Result) :
    Quiet view (operate operator left right) :=
  (closed_quiet view).operate operator left right

theorem quiet_cast (type : DataType) (result : Result) :
    Quiet view (Evaluation.cast type result) :=
  (closed_quiet view).cast type result

theorem quiet_resolve (pointer : Result) : Quiet view (resolve pointer) := by
  refine (closed_quiet view).resolve pointer fun pointee address => ?_
  refine quiet_bind view _ _ (quiet_get view) fun machine => ?_
  exact quiet_bind view _ _ (quiet_lift view _) fun _ => quiet_pure view _

theorem quiet_load (pointer : Result) : Quiet view (load pointer) := by
  refine quiet_bind view _ _ (quiet_resolve view pointer) fun (pointee, address) => ?_
  refine quiet_bind view _ _ (quiet_get view) fun machine => ?_
  exact quiet_bind view _ _ (quiet_lift view _) fun _ => quiet_pure view _

theorem quiet_callee (name : String) : Quiet view (callee name) :=
  (closed_quiet view).callee name (quiet_lookup view name)

theorem logged_call (function : String) (builtin : Builtin) (arguments : List Argument) :
    Logged view (call function builtin arguments) (runOf function builtin arguments) := by
  intro machine
  unfold runOf call
  split
  · rfl
  · cases checkArguments function 0 builtin.signature.parameters arguments with
    | error fault => rfl
    | ok done =>
      show Chained view _ _ (view ((builtin.invoke arguments).runOn machine).2)
      unfold Builtin.invoke
      dsimp only
      split
      · exact ⟨rfl, rfl⟩
      · rfl

theorem quiet_modify_bind (name : String) (value : Value)
    (spared : (Effect.bind name).Spares view) :
    Quiet view (modify fun machine => machine.bind name value : Evaluation PUnit) :=
  fun machine => spared machine value

theorem quiet_declare (name : String) (type : DataType) (spared : (Effect.bind name).Spares view) :
    Quiet view (declare name type) :=
  (closed_quiet view).declare name type fun value => quiet_modify_bind view name value spared

theorem quiet_assign (name : String) (value : Value) (spared : (Effect.bind name).Spares view) :
    Quiet view (assign name value) :=
  (closed_quiet view).assign name value (quiet_lookup view name)
    fun stored => quiet_modify_bind view name stored spared

theorem quiet_store (address : Int) (value : Value) (spared : Effect.store.Spares view) :
    Quiet view (store address value) := by
  intro machine
  rw [runOn_store]
  split
  · rename_i n memory stored
    exact spared machine address value n memory stored
  · rfl

end parts

end Evaluation

namespace Statement

open Evaluation

variable {γ : Type} (view : Machine → γ)

theorem logged_evaluateArguments (arguments : List Node)
    (each : ∀ argument ∈ arguments, Logged view argument.evaluate argument.calls) :
    Logged view (evaluateArguments arguments) (argumentCalls arguments) := by
  induction arguments with
  | nil =>
    intro machine
    rfl
  | cons argument rest ih =>
    have tail := ih fun other member => each other (by simp [member])
    cases kind : argument.isType with
    | true =>
      cases argument with
      | typeName type => exact logged_bind_quiet view _ _ _ tail fun _ => quiet_pure view _
      | _ => cases kind
    | false =>
      rw [evaluateArguments_cons argument rest kind,
        funext fun machine => argumentCalls_cons argument rest machine kind]
      refine logged_bind view _ _ _ _ (each argument (by simp)) fun result => ?_
      exact logged_bind_quiet view _ _ _ tail fun others => quiet_pure view _

/-- A view that the effects of a node spare changes only by the runs in the log. -/
theorem logged_of_spared (node : Node)
    (spared : ∀ effect, node.Performs effect → effect.Spares view) :
    Logged view node.evaluate node.calls := by
  induction node using evaluationInduction with
  | missing => exact fun _ => rfl
  | typeName type => exact fun _ => rfl
  | literal value => exact fun _ => rfl
  | identifier name =>
    have quiet := quiet_bind view _ _ (quiet_lookup view name) fun v => quiet_pure view (Result.value v)
    exact logged_of_quiet view _ quiet
  | declaration name type =>
    have quiet := quiet_bind view _ _
      (quiet_declare view name type (spared _ (.declaration name type)))
      fun _ => quiet_pure view Result.void
    exact logged_of_quiet view _ quiet
  | operator op left right leftLogged rightLogged =>
    have onLeft := leftLogged fun effect below => spared effect (.left op left right effect below)
    have onRight := rightLogged fun effect below => spared effect (.right op left right effect below)
    refine logged_bind view _ _ _ _ onLeft fun l => ?_
    exact logged_bind_quiet view _ _ _ onRight fun r => quiet_operate view op l r
  | cast type operand operandLogged =>
    have onOperand := operandLogged fun effect below => spared effect (.cast type operand effect below)
    exact logged_bind_quiet view _ _ _ onOperand fun result => quiet_cast view type result
  | parenthesis inner innerLogged =>
    exact innerLogged fun effect below => spared effect (.parenthesis inner effect below)
  | dereference pointer pointerLogged =>
    have onPointer := pointerLogged fun effect below =>
      spared effect (.dereference pointer effect below)
    exact logged_bind_quiet view _ _ _ onPointer fun result => quiet_load view result
  | store pointer value pointerLogged valueLogged =>
    have onPointer := pointerLogged fun effect below =>
      spared effect (.target _ value effect (.dereference pointer effect below))
    have onValue := valueLogged fun effect below => spared effect (.value _ value effect below)
    refine logged_bind view _ _ _ _ onPointer fun result => ?_
    refine logged_quiet_bind view _ _ _ (quiet_resolve view result) fun (_, address) => ?_
    refine logged_bind_quiet view _ _ _ onValue fun stored => ?_
    exact quiet_bind view _ _ (quiet_require view _ stored)
      fun v => quiet_store view address v (spared _ (.store pointer value))
  | define name type value valueLogged =>
    have bound := spared _ (.target _ value _ (.declaration name type))
    have onValue := valueLogged fun effect below => spared effect (.value _ value effect below)
    refine logged_quiet_bind view _ _ _ (quiet_declare view name type bound) fun _ => ?_
    refine logged_bind_quiet view _ _ _ onValue fun result => ?_
    exact quiet_bind view _ _ (quiet_require view _ result)
      fun v => quiet_assign view name v bound
  | assign name value valueLogged =>
    have bound := spared _ (.assign name value)
    have onValue := valueLogged fun effect below => spared effect (.value _ value effect below)
    refine logged_bind_quiet view _ _ _ onValue fun result => ?_
    exact quiet_bind view _ _ (quiet_require view _ result)
      fun v => quiet_assign view name v bound
  | refuse target value refused =>
    rw [evaluate_refused target value refused]
    cases target <;> first | exact fun _ => rfl | cases refused
  | call function arguments each =>
    have onArguments := logged_evaluateArguments view arguments fun argument member =>
      each argument member fun effect below =>
        spared effect (.argument function arguments argument effect member below)
    refine logged_quiet_bind view _ _ _ (quiet_callee view function) fun builtin => ?_
    refine logged_bind view _ _ _ _ onArguments fun evaluated => ?_
    exact logged_call view function builtin evaluated

/-- The runs in the log account for every change of a steady view. -/
theorem logged_evaluate (steady : Steady view) (node : Node) :
    Logged view node.evaluate node.calls :=
  logged_of_spared view node fun effect _ => steady.spares effect

theorem chained_session (steady : Steady view) (nodes : List Node) (machine : Machine) :
    Chained view (view machine) (machine.sessionCalls nodes) (view (machine.session nodes)) := by
  induction nodes generalizing machine with
  | nil => rfl
  | cons node rest ih =>
    exact .append view _ _ _ _ _ (logged_evaluate view steady node machine) (ih _)

end Statement

end HeapConsole
