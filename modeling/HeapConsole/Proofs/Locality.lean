import HeapConsole.Proofs.Footprint

/-! Evaluation is local to the names in a statement. Two machines with the same memory that agree on
these names run side by side: both come to the same end, change their memories and the names alike,
and nothing else of either machine is read, so nothing else can make a difference. -/
namespace HeapConsole

namespace Statement

variable {τ ℓ : Type}

mutual

/-- The names that occur in a statement, wherever they stand. -/
def names : Statement τ ℓ → List String
  | .missing | .typeName _ | .literal _ => []
  | .identifier name | .declaration name _ => [name]
  | .operator _ left right => left.names ++ right.names
  | .cast _ operand => operand.names
  | .parenthesis inner => inner.names
  | .dereference pointer => pointer.names
  | .assignment target value => target.names ++ value.names
  | .call function arguments => function :: argumentNames arguments

def argumentNames : List (Statement τ ℓ) → List String
  | [] => []
  | argument :: rest => argument.names ++ argumentNames rest

end

theorem names_subset_arguments (arguments : List (Statement τ ℓ)) (argument : Statement τ ℓ)
    (member : argument ∈ arguments) : argument.names ⊆ argumentNames arguments := by
  induction arguments with
  | nil => cases member
  | cons head rest ih =>
    rw [argumentNames]
    rcases List.mem_cons.mp member with rfl | inside
    · exact List.subset_append_left _ _
    · exact List.subset_append_of_subset_right _ (ih inside)

end Statement

namespace Memory

/-- The allocator was made for the size of the heap. -/
def Fits (memory : Memory) : Prop := memory.allocator.capacity = memory.heap.size

theorem eq_of_fits (left right : Memory) (leftFits : left.Fits) (rightFits : right.Fits)
    (heap : left.heap = right.heap) (regions : left.allocator.regions = right.allocator.regions) :
    left = right := by
  obtain ⟨leftHeap, leftCapacity, leftRegions⟩ := left
  obtain ⟨rightHeap, rightCapacity, rightRegions⟩ := right
  simp only [Fits] at leftFits rightFits heap regions
  subst heap leftFits rightFits regions
  rfl

end Memory

namespace Machine

/-- On every machine that a session has left, the allocator still fits the heap. -/
theorem fits_session (config : Config) (attached : Bool) (nodes : List Node) :
    ((Machine.ofConfig config attached).session nodes).memory.Fits := by
  have chain := Statement.chained_session Machine.layout steady_layout nodes
    (Machine.ofConfig config attached)
  have packed := packed_chain _ 0 _ _ _ chain (packed_ofConfig config attached)
  exact packed.capacity.trans packed.heap.symm

/-- Machines with the same memory that agree on some names. -/
structure Alike (names : List String) (left right : Machine) : Prop where
  memory : left.memory = right.memory
  scope : ∀ name ∈ names, left.scope.find? name = right.scope.find? name

/-- What becomes of two machines side by side: they are alike afterwards, and each keeps of its own
whatever the other need not have. -/
structure Parallel (names : List String) (left right leftAfter rightAfter : Machine) : Prop where
  alike : leftAfter.Alike names rightAfter
  others : ∀ name, name ∉ names → leftAfter.scope.find? name = left.scope.find? name ∧
    rightAfter.scope.find? name = right.scope.find? name
  clears : ∃ count, leftAfter.clears = left.clears.map (· + count) ∧
    rightAfter.clears = right.clears.map (· + count)
  base : (∃ base : Base, leftAfter.displayBase = base.number ∧ rightAfter.displayBase = base.number) ∨
    leftAfter.displayBase = left.displayBase ∧ rightAfter.displayBase = right.displayBase

variable {names : List String} {left right : Machine}

theorem Parallel.refl (alike : left.Alike names right) : Parallel names left right left right := by
  refine ⟨alike, fun _ _ => ⟨rfl, rfl⟩, ⟨0, ?_, ?_⟩, .inr ⟨rfl, rfl⟩⟩
  · simp
  · simp

theorem Parallel.trans {leftMiddle rightMiddle leftAfter rightAfter : Machine}
    (earlier : Parallel names left right leftMiddle rightMiddle)
    (later : Parallel names leftMiddle rightMiddle leftAfter rightAfter) :
    Parallel names left right leftAfter rightAfter := by
  refine ⟨later.alike, fun name other => ?_, ?_, ?_⟩
  · have first := earlier.others name other
    have second := later.others name other
    exact ⟨second.1.trans first.1, second.2.trans first.2⟩
  · obtain ⟨first, leftFirst, rightFirst⟩ := earlier.clears
    obtain ⟨second, leftSecond, rightSecond⟩ := later.clears
    refine ⟨first + second, ?_, ?_⟩
    · rw [leftSecond, leftFirst, Option.map_map]
      exact congrFun (congrArg Option.map (funext fun n => Nat.add_assoc n first second)) left.clears
    · rw [rightSecond, rightFirst, Option.map_map]
      exact congrFun (congrArg Option.map (funext fun n => Nat.add_assoc n first second)) right.clears
  · -- The base that was set last counts, and before any was set each has its own.
    rcases later.base with set | ⟨leftKept, rightKept⟩
    · exact .inl set
    · rw [leftKept, rightKept]
      exact earlier.base

theorem Parallel.memory (alike : left.Alike names right) (memory : Memory) :
    Parallel names left right { left with memory := memory } { right with memory := memory } := by
  have same := Parallel.refl alike
  exact ⟨⟨rfl, alike.scope⟩, same.others, same.clears, same.base⟩

theorem Parallel.bind (alike : left.Alike names right) (name : String) (listed : name ∈ names)
    (value : Value) :
    Parallel names left right (left.bind name value) (right.bind name value) := by
  have same := Parallel.refl alike
  refine ⟨⟨alike.memory, fun other member => ?_⟩, fun other unlisted => ?_, same.clears, same.base⟩
  · show (left.scope.insert name value).find? other = (right.scope.insert name value).find? other
    rw [Scope.find?_insert, Scope.find?_insert, alike.scope other member]
  · have different : other ≠ name := by
      rintro rfl
      exact unlisted listed
    exact ⟨(left.scope.find?_insert name other value).trans (if_neg different),
      (right.scope.find?_insert name other value).trans (if_neg different)⟩

theorem Parallel.clearHistory (alike : left.Alike names right) :
    Parallel names left right left.clearHistory right.clearHistory := by
  have same := Parallel.refl alike
  exact ⟨⟨alike.memory, alike.scope⟩, same.others, ⟨1, rfl, rfl⟩, same.base⟩

theorem Parallel.displayBase (alike : left.Alike names right) (base : Base) :
    Parallel names left right { left with displayBase := base.number }
      { right with displayBase := base.number } := by
  have same := Parallel.refl alike
  exact ⟨⟨alike.memory, alike.scope⟩, same.others, same.clears, .inl ⟨base, rfl, rfl⟩⟩

end Machine

namespace Evaluation

variable {α β : Type} (names : List String)

/-- From machines that agree on the names, the computation comes to one end, side by side. -/
def Local (evaluation : Evaluation α) : Prop :=
  ∀ left right : Machine, left.Alike names right →
    (evaluation.runOn left).1 = (evaluation.runOn right).1 ∧
      Machine.Parallel names left right (evaluation.runOn left).2 (evaluation.runOn right).2

theorem local_of_quiet (evaluation : Evaluation α) (quiet : Quiet id evaluation)
    (same : ∀ left right : Machine, left.Alike names right →
      (evaluation.runOn left).1 = (evaluation.runOn right).1) : Local names evaluation := by
  intro left right alike
  have leftKept : (evaluation.runOn left).2 = left := quiet left
  have rightKept : (evaluation.runOn right).2 = right := quiet right
  rw [leftKept, rightKept]
  exact ⟨same left right alike, .refl alike⟩

theorem local_pure (a : α) : Local names (pure a : Evaluation α) :=
  local_of_quiet names _ (quiet_pure id a) fun _ _ _ => rfl

theorem local_fail (fault : Fault) : Local names (fail fault : Evaluation α) :=
  local_of_quiet names _ (quiet_fail id fault) fun _ _ _ => rfl

theorem local_lift (outcome : Except Fault α) : Local names (lift outcome) := by
  refine local_of_quiet names _ (quiet_lift id outcome) fun left right _ => ?_
  rw [runOn_lift, runOn_lift]

theorem local_modify (change : Machine → Machine)
    (parallel : ∀ left right : Machine, left.Alike names right →
      Machine.Parallel names left right (change left) (change right)) :
    Local names (modify change : Evaluation PUnit) :=
  fun left right alike => ⟨rfl, parallel left right alike⟩

theorem local_bind (first : Evaluation α) (next : α → Evaluation β) (head : Local names first)
    (tail : ∀ a, Local names (next a)) : Local names (first >>= next) := by
  intro left right alike
  obtain ⟨same, parallel⟩ := head left right alike
  rw [runOn_bind, runOn_bind]
  rcases leftRan : first.runOn left with ⟨outcome, leftMiddle⟩
  rcases rightRan : first.runOn right with ⟨other, rightMiddle⟩
  rw [leftRan, rightRan] at same parallel
  cases same
  cases outcome with
  | error failure => exact ⟨rfl, parallel⟩
  | ok a =>
    obtain ⟨ends, onward⟩ := tail a leftMiddle rightMiddle parallel.alike
    exact ⟨ends, parallel.trans onward⟩

/-- What works on the memory alone is local whatever the names are. -/
theorem local_of_memory (evaluation : Evaluation α)
    (operation : Memory → Except Fault (α × Memory))
    (runs : ∀ machine : Machine, evaluation.runOn machine =
      match operation machine.memory with
      | .ok (a, memory) => (.ok a, { machine with memory := memory })
      | .error fault => (.error (.of fault), machine)) : Local names evaluation := by
  intro left right alike
  rw [runs left, runs right, alike.memory]
  cases operation right.memory with
  | error fault => exact ⟨rfl, .refl alike⟩
  | ok answer => exact ⟨rfl, .memory alike answer.2⟩

theorem local_lookup (name : String) (listed : name ∈ names) : Local names (lookup name) := by
  refine local_of_quiet names _ (quiet_lookup id name) fun left right alike => ?_
  simp only [lookup, runOn_bind, runOn_get, alike.scope name listed]
  cases right.scope.find? name with
  | none => rfl
  | some value => rfl

theorem closed_local : Closed fun _ evaluation => Local names evaluation where
  pure := local_pure names
  fail fault _ := local_fail names fault
  bind := local_bind names

theorem local_modify_bind (name : String) (listed : name ∈ names) (value : Value) :
    Local names (modify fun machine => machine.bind name value : Evaluation PUnit) :=
  local_modify names _ fun _ _ alike => .bind alike name listed value

theorem local_declare (name : String) (type : DataType) (listed : name ∈ names) :
    Local names (declare name type) :=
  (closed_local names).declare name type fun value => local_modify_bind names name listed value

theorem local_assign (name : String) (value : Value) (listed : name ∈ names) :
    Local names (assign name value) :=
  (closed_local names).assign name value (local_lookup names name listed)
    fun stored => local_modify_bind names name listed stored

theorem local_resolve (pointer : Result) : Local names (resolve pointer) := by
  refine (closed_local names).resolve pointer fun pointee address => ?_
  refine local_of_memory names _
    (fun memory => (memory.heap.index address).map fun _ => ((pointee, address), memory)) ?_
  intro machine
  simp only [runOn_bind, runOn_get, runOn_lift]
  cases machine.memory.heap.index address <;> rfl

theorem local_load (pointer : Result) : Local names (load pointer) := by
  refine local_bind names _ _ (local_resolve names pointer) fun (pointee, address) => ?_
  refine local_of_memory names _
    (fun memory => (memory.load address (.pointer pointee)).map fun v => (.value v, memory)) ?_
  intro machine
  simp only [runOn_bind, runOn_get, runOn_lift]
  cases machine.memory.load address (.pointer pointee) <;> rfl

theorem local_store (address : Int) (value : Value) : Local names (store address value) := by
  refine local_of_memory names _
    (fun memory => (memory.store address value).map fun stored => (.value (.int stored.1), stored.2)) ?_
  intro machine
  rw [runOn_store]
  cases machine.memory.store address value <;> rfl

theorem local_runMalloc (arguments : List Argument) : Local names (Builtin.runMalloc arguments) := by
  unfold Builtin.runMalloc
  split
  · exact local_fail names _
  · refine local_bind names _ _ (local_lift names _) fun size => ?_
    refine local_of_memory names _
      (fun memory => (memory.malloc size).map fun answer => (.value (.int answer.1), answer.2)) ?_
    intro machine
    simp only [runOn_bind, runOn_get, runOn_lift]
    cases machine.memory.malloc size <;> rfl

theorem local_runSetDisplayBase (arguments : List Argument) :
    Local names (Builtin.runSetDisplayBase arguments) := by
  refine local_bind names _ _ (local_lift names _) fun number => ?_
  split
  · rename_i base _
    refine local_bind names _ _ ?_ fun _ => local_pure names _
    exact local_modify names _ fun _ _ alike => .displayBase alike base
  · exact local_fail names _

theorem local_runSizeof (arguments : List Argument) : Local names (Builtin.runSizeof arguments) := by
  unfold Builtin.runSizeof
  split
  · split
    · exact local_pure names _
    · exact local_fail names _
  · exact local_fail names _
  · exact local_fail names _

theorem local_run (builtin : Builtin) (arguments : List Argument) :
    Local names (builtin.run arguments) := by
  cases builtin with
  | malloc => exact local_runMalloc names arguments
  | clear =>
    refine local_bind names _ _ ?_ fun _ => local_pure names _
    exact local_modify names _ fun _ _ alike => .clearHistory alike
  | setDisplayBase => exact local_runSetDisplayBase names arguments
  | sizeof => exact local_runSizeof names arguments
  | reset => exact local_of_memory names _ (fun memory => .ok (.void, memory.reset)) fun _ => rfl

theorem local_call (function : String) (builtin : Builtin) (arguments : List Argument) :
    Local names (call function builtin arguments) := by
  unfold call
  split
  · exact local_fail names _
  · refine local_bind names _ _ (local_lift names _) fun _ => ?_
    unfold Builtin.invoke
    split
    · exact local_run names builtin arguments
    · exact fun left right alike => ⟨rfl, .refl alike⟩

end Evaluation

namespace Statement

open Evaluation

theorem local_evaluateArguments (names : List String) (arguments : List Node)
    (each : ∀ argument ∈ arguments, Local names argument.evaluate) :
    Local names (evaluateArguments arguments) := by
  induction arguments with
  | nil => exact local_pure names _
  | cons argument rest ih =>
    have tail := ih fun other member => each other (List.mem_cons_of_mem _ member)
    cases kind : argument.isType with
    | true =>
      cases argument with
      | typeName type => exact local_bind names _ _ tail fun _ => local_pure names _
      | _ => cases kind
    | false =>
      rw [evaluateArguments_cons argument rest kind]
      refine local_bind names _ _ (each argument List.mem_cons_self) fun result => ?_
      exact local_bind names _ _ tail fun others => local_pure names _

theorem local_evaluate (names : List String) (node : Node) (listed : node.names ⊆ names) :
    Local names node.evaluate := by
  induction node using evaluationInduction with
  | missing => exact local_fail names _
  | typeName type => exact local_fail names _
  | literal value => exact local_pure names _
  | identifier name =>
    have named : name ∈ names := listed List.mem_cons_self
    exact local_bind names _ _ (local_lookup names name named) fun _ => local_pure names _
  | declaration name type =>
    have named : name ∈ names := listed List.mem_cons_self
    exact local_bind names _ _ (local_declare names name type named) fun _ => local_pure names _
  | operator op left right onLeft onRight =>
    rw [Statement.names, List.append_subset] at listed
    refine local_bind names _ _ (onLeft listed.1) fun l => ?_
    exact local_bind names _ _ (onRight listed.2) fun r => (closed_local names).operate op l r
  | cast type operand onOperand =>
    exact local_bind names _ _ (onOperand listed) fun result => (closed_local names).cast type result
  | parenthesis inner onInner => exact onInner listed
  | dereference pointer onPointer =>
    exact local_bind names _ _ (onPointer listed) fun result => local_load names result
  | store pointer value onPointer onValue =>
    rw [Statement.names, List.append_subset] at listed
    refine local_bind names _ _ (onPointer listed.1) fun result => ?_
    refine local_bind names _ _ (local_resolve names result) fun place => ?_
    refine local_bind names _ _ (onValue listed.2) fun stored => ?_
    exact local_bind names _ _ ((closed_local names).require _ ⟨.inr rfl, rfl⟩ stored)
      fun v => local_store names place.2 v
  | define name type value onValue =>
    rw [Statement.names, List.append_subset] at listed
    have named : name ∈ names := listed.1 List.mem_cons_self
    refine local_bind names _ _ (local_declare names name type named) fun _ => ?_
    refine local_bind names _ _ (onValue listed.2) fun result => ?_
    exact local_bind names _ _ ((closed_local names).require _ ⟨.inr rfl, rfl⟩ result)
      fun v => local_assign names name v named
  | assign name value onValue =>
    rw [Statement.names, List.append_subset] at listed
    have named : name ∈ names := listed.1 List.mem_cons_self
    refine local_bind names _ _ (onValue listed.2) fun result => ?_
    exact local_bind names _ _ ((closed_local names).require _ ⟨.inr rfl, rfl⟩ result)
      fun v => local_assign names name v named
  | refuse target value refused =>
    rw [evaluate_refused target value refused]
    exact local_fail names _
  | call function arguments each =>
    rw [Statement.names, List.cons_subset] at listed
    have onArguments := local_evaluateArguments names arguments fun argument member =>
      each argument member
        (List.Subset.trans (names_subset_arguments arguments argument member) listed.2)
    have onCallee := (closed_local names).callee function (local_lookup names function listed.1)
    refine local_bind names _ _ onCallee fun builtin => ?_
    refine local_bind names _ _ onArguments fun evaluated => ?_
    exact local_call names function builtin evaluated

/-- Whatever else two machines hold, a node that finds the same heap, the same regions and the same
bindings of its names on both ends alike on both. -/
theorem evaluate_alike (node : Node) (left right : Machine) (leftFits : left.memory.Fits)
    (rightFits : right.memory.Fits) (heap : left.memory.heap = right.memory.heap)
    (regions : left.memory.allocator.regions = right.memory.allocator.regions)
    (scope : ∀ name ∈ node.names, left.scope.find? name = right.scope.find? name) :
    let ranLeft := node.evaluate.runOn left
    let ranRight := node.evaluate.runOn right
    ranLeft.1 = ranRight.1 ∧
      ranLeft.2.memory.heap = ranRight.2.memory.heap ∧
      ranLeft.2.memory.allocator = ranRight.2.memory.allocator ∧
      (∃ count, ranLeft.2.clears = left.clears.map (· + count) ∧
        ranRight.2.clears = right.clears.map (· + count)) ∧
      (∀ name ∈ node.names, ranLeft.2.scope.find? name = ranRight.2.scope.find? name) ∧
      (∀ name, name ∉ node.names → ranLeft.2.scope.find? name = left.scope.find? name ∧
        ranRight.2.scope.find? name = right.scope.find? name) ∧
      ((∃ base : Base, ranLeft.2.displayBase = base.number ∧ ranRight.2.displayBase = base.number) ∨
        ranLeft.2.displayBase = left.displayBase ∧ ranRight.2.displayBase = right.displayBase) := by
  intro ranLeft ranRight
  have memory := Memory.eq_of_fits left.memory right.memory leftFits rightFits heap regions
  obtain ⟨same, parallel⟩ := local_evaluate node.names node (List.Subset.refl _) left right
    ⟨memory, scope⟩
  have after := parallel.alike.memory
  exact ⟨same, congrArg Memory.heap after, congrArg Memory.allocator after, parallel.clears,
    parallel.alike.scope, parallel.others, parallel.base⟩

/-- A variable that is not named, another display base and an emptied history make no difference. -/
theorem evaluate_alike_beside_hidden_name :
    let left := (Machine.ofConfig ⟨8, 10⟩ true).session [.declaration "x" .int]
    let right := (Machine.ofConfig ⟨8, 16⟩ true).session
      [.assignment (.declaration "y" .string) (.literal (.string "hidden")), .call "clear" [],
        .declaration "x" .int]
    let node : Node := .assignment (.identifier "x")
      (.operator .add (.call "malloc" [.literal (.int 5)]) (.call "clear" []))
    left.displayBase = 10 ∧ right.displayBase = 16 ∧ left.clears = some 0 ∧ right.clears = some 1 ∧
      left.scope.find? "y" = none ∧ right.scope.find? "y" = some (.string "hidden") ∧
      (node.evaluate.runOn right).1 = .error (.fault (.voidOperand .right .add)) ∧
      (node.evaluate.runOn left).1 = (node.evaluate.runOn right).1 ∧
      (node.evaluate.runOn left).2.memory.allocator = (node.evaluate.runOn right).2.memory.allocator ∧
      (node.evaluate.runOn right).2.memory.allocator.regions = [⟨0, 5⟩] := by
  intro left right node
  have alike := evaluate_alike node left right (Machine.fits_session _ _ _)
    (Machine.fits_session _ _ _) (by decide +kernel) (by decide +kernel) (by decide +kernel)
  exact ⟨by decide +kernel, by decide +kernel, by decide +kernel, by decide +kernel,
    by decide +kernel, by decide +kernel, by decide +kernel, alike.1, alike.2.2.1,
    by decide +kernel⟩

end Statement

end HeapConsole
