import HeapConsole.Proofs.Arguments
import HeapConsole.Proofs.FileRun
import HeapConsole.Proofs.Stores

/-! Where the digit limit is met. A line goes without an answer exactly when it comes to write an
integer beyond the limit, and integers are written in two places: a call describes its arguments,
and may be refused in words that tell the sizes, and a pointer that leads out of the heap is reported
with its address. Every other failure of a line is recorded. -/
namespace HeapConsole

/-- The integers that a native function writes: those it is given, and those of its refusal. -/
def Call.Writes (call : Call) (n : Int) : Prop :=
  n ∈ call.arguments.filterMap Argument.integer? ∨
    ∃ fault, call.Refused fault ∧ n ∈ fault.integers

namespace Statement

open Evaluation

/-- The evaluation of a node on a machine gets as far as to write the integer. -/
inductive Writes : Node → Machine → Int → Prop where
  | left (op : Operator) (left right : Node) (machine : Machine) (n : Int)
      (below : Writes left machine n) : Writes (.operator op left right) machine n
  | right (op : Operator) (left right : Node) (machine after : Machine) (result : Result) (n : Int)
      (ran : left.evaluate.runOn machine = (.ok result, after)) (below : Writes right after n) :
      Writes (.operator op left right) machine n
  | cast (type : DataType) (operand : Node) (machine : Machine) (n : Int)
      (below : Writes operand machine n) : Writes (.cast type operand) machine n
  | parenthesis (inner : Node) (machine : Machine) (n : Int) (below : Writes inner machine n) :
      Writes (.parenthesis inner) machine n
  | pointer (pointer : Node) (machine : Machine) (n : Int) (below : Writes pointer machine n) :
      Writes (.dereference pointer) machine n
  | address (pointer : Node) (machine after : Machine) (pointee : Pointee) (address : Int)
      (ran : pointer.evaluate.runOn machine = (.ok (.value (.pointer pointee address)), after))
      (outside : ¬ (0 ≤ address ∧ address < after.memory.heap.size)) :
      Writes (.dereference pointer) machine address
  | place (pointer value : Node) (machine : Machine) (n : Int)
      (below : Writes (.dereference pointer) machine n) :
      Writes (.assignment (.dereference pointer) value) machine n
  | stored (pointer value : Node) (machine after : Machine) (pointee : Pointee) (address n : Int)
      (ran : pointer.evaluate.runOn machine = (.ok (.value (.pointer pointee address)), after))
      (inside : 0 ≤ address ∧ address < after.memory.heap.size) (below : Writes value after n) :
      Writes (.assignment (.dereference pointer) value) machine n
  | defined (name : String) (type : DataType) (value : Node) (machine after : Machine) (n : Int)
      (ran : (declare name type).runOn machine = (.ok (), after)) (below : Writes value after n) :
      Writes (.assignment (.declaration name type) value) machine n
  | assigned (name : String) (value : Node) (machine : Machine) (n : Int)
      (below : Writes value machine n) : Writes (.assignment (.identifier name) value) machine n
  | argument (function : String) (before rest : List Node) (argument : Node) (builtin : Builtin)
      (given : List Argument) (machine after : Machine) (n : Int)
      (found : machine.scope.find? function = some (.native builtin))
      (ran : (evaluateArguments before).runOn machine = (.ok given, after))
      (below : Writes argument after n) :
      Writes (.call function (before ++ argument :: rest)) machine n
  | call (function : String) (arguments : List Node) (builtin : Builtin) (given : List Argument)
      (machine after : Machine) (n : Int)
      (found : machine.scope.find? function = some (.native builtin))
      (ran : (evaluateArguments arguments).runOn machine = (.ok given, after))
      (size : given.length = builtin.arity)
      (checked : checkArguments function 0 builtin.signature.parameters given = .ok ())
      (written : Call.Writes ⟨builtin, given, after⟩ n) :
      Writes (.call function arguments) machine n

end Statement

theorem Failure.of_eq_digitLimit (fault : Fault) :
    Failure.of fault = .digitLimit ↔ ∃ n ∈ fault.integers, ¬ Numeral.Writable n := by
  unfold Failure.of
  split
  · rename_i short
    refine ⟨nofun, ?_⟩
    rintro ⟨n, member, long⟩
    exact absurd (short n member) long
  · rename_i long
    refine ⟨fun _ => ?_, fun _ => rfl⟩
    push Not at long
    exact long

namespace Evaluation

variable {α β : Type}

/-- The computation fails at the digit limit. -/
def Stops (evaluation : Evaluation α) (machine : Machine) : Prop :=
  (evaluation.runOn machine).1 = .error .digitLimit

def Legible (evaluation : Evaluation α) : Prop := ∀ machine, ¬ Stops evaluation machine

theorem stops_bind_iff (first : Evaluation α) (next : α → Evaluation β) (machine : Machine) :
    Stops (first >>= next) machine ↔
      Stops first machine ∨
        ∃ a after, runOn first machine = (.ok a, after) ∧ Stops (next a) after := by
  unfold Stops
  rw [runOn_bind]
  rcases runOn first machine with ⟨failure | a, after⟩
  · simp
  · simp

theorem stops_first {first : Evaluation α} {next : α → Evaluation β} {machine : Machine}
    (stops : Stops first machine) : Stops (first >>= next) machine :=
  (stops_bind_iff first next machine).mpr (.inl stops)

theorem stops_next {first : Evaluation α} {next : α → Evaluation β} {machine after : Machine} {a : α}
    (ran : runOn first machine = (.ok a, after)) (stops : Stops (next a) after) :
    Stops (first >>= next) machine :=
  (stops_bind_iff first next machine).mpr (.inr ⟨a, after, ran, stops⟩)

theorem stops_fail_iff (fault : Fault) (machine : Machine) :
    Stops (fail fault : Evaluation α) machine ↔ ∃ n ∈ fault.integers, ¬ Numeral.Writable n := by
  rw [← Failure.of_eq_digitLimit]
  exact ⟨Except.error.inj, congrArg Except.error⟩

theorem legible_pure (a : α) : Legible (pure a : Evaluation α) := nofun

theorem legible_fail (fault : Fault) (short : fault.integers = []) :
    Legible (fail fault : Evaluation α) := by
  intro machine
  rw [stops_fail_iff, short]
  simp

theorem legible_modify (change : Machine → Machine) :
    Legible (modify change : Evaluation PUnit) := nofun

theorem legible_bind (first : Evaluation α) (next : α → Evaluation β) (head : Legible first)
    (tail : ∀ a, Legible (next a)) : Legible (first >>= next) := by
  intro machine
  rw [stops_bind_iff]
  rintro (stops | ⟨a, after, _, stops⟩)
  · exact head machine stops
  · exact tail a after stops

theorem closed_legible : Closed fun _ evaluation => Legible evaluation where
  pure := legible_pure
  fail fault plain := legible_fail fault plain.short
  bind := legible_bind

/-- Where the rest is legible, only the first part can stop. -/
theorem stops_of_bind (first : Evaluation α) (next : α → Evaluation β) (machine : Machine)
    (tail : ∀ a, Legible (next a)) (stops : Stops (first >>= next) machine) :
    Stops first machine := by
  rcases (stops_bind_iff first next machine).mp stops with stops | ⟨a, after, _, stops⟩
  · exact stops
  · exact absurd stops (tail a after)

/-- Where the first part is legible, it is the rest that stops. -/
theorem stops_after (first : Evaluation α) (next : α → Evaluation β) (machine : Machine)
    (head : Legible first) (stops : Stops (first >>= next) machine) :
    ∃ a after, runOn first machine = (.ok a, after) ∧ Stops (next a) after := by
  rcases (stops_bind_iff first next machine).mp stops with stops | later
  · exact absurd stops (head machine)
  · exact later

theorem legible_lookup (name : String) : Legible (lookup name) := by
  refine legible_bind _ _ nofun fun machine => ?_
  split
  · exact legible_pure _
  · exact legible_fail _ rfl

theorem legible_declare (name : String) (type : DataType) : Legible (declare name type) :=
  closed_legible.declare name type fun _ => legible_modify _

theorem legible_callee (name : String) : Legible (callee name) :=
  closed_legible.callee name (legible_lookup name)

/-- What is left to do with the result on the right of an assignment to a name. -/
theorem legible_assign (name : String) (result : Result) :
    Legible (do assign name (← require .voidAssignment result)) := by
  refine legible_bind _ _ (closed_legible.require _ ⟨.inr rfl, rfl⟩ result) fun value => ?_
  exact closed_legible.assign name value (legible_lookup name) fun _ => legible_modify _

section places

variable (address : Int) (machine : Machine)

theorem legible_resolve (pointer : Result)
    (other : ∀ pointee address, pointer ≠ .value (.pointer pointee address)) :
    Legible (resolve pointer) := by
  cases pointer with
  | void =>
    intro machine stops
    rcases (stops_bind_iff _ _ _).mp stops with failing | ⟨_, _, ran, _⟩
    · exact legible_fail .voidDereference rfl machine failing
    · cases ran
  | value v =>
    unfold resolve require
    rw [pure_bind]
    cases v with
    | pointer pointee address => exact absurd rfl (other pointee address)
    | native builtin => exact legible_fail _ rfl
    | _ => exact legible_fail _ rfl

theorem stops_resolve_iff (pointer : Result) :
    Stops (resolve pointer) machine ↔
      ∃ pointee address, pointer = .value (.pointer pointee address) ∧
        ¬ (0 ≤ address ∧ address < machine.memory.heap.size) ∧ ¬ Numeral.Writable address := by
  constructor
  · intro stops
    by_cases aims : ∃ pointee address, pointer = .value (.pointer pointee address)
    · obtain ⟨pointee, address, rfl⟩ := aims
      have outside : ¬ (0 ≤ address ∧ address < machine.memory.heap.size) := by
        intro inside
        rw [Stops, runOn_resolve pointee address machine inside] at stops
        cases stops
      rw [Stops, runOn_resolve_outside pointee address machine outside, Except.error.injEq,
        Failure.of_eq_digitLimit] at stops
      obtain ⟨n, member, long⟩ := stops
      cases List.mem_singleton.mp member
      exact ⟨pointee, address, rfl, outside, long⟩
    · push Not at aims
      exact absurd stops (legible_resolve pointer aims machine)
  · rintro ⟨pointee, address, rfl, outside, long⟩
    rw [Stops, runOn_resolve_outside pointee address machine outside, Except.error.injEq,
      Failure.of_eq_digitLimit]
    exact ⟨address, List.mem_singleton_self address, long⟩

/-- An address that was found inside is read without complaint. -/
theorem stops_load_iff (pointer : Result) :
    Stops (load pointer) machine ↔ Stops (resolve pointer) machine := by
  refine ⟨fun stops => ?_, fun stops => stops_first stops⟩
  rcases (stops_bind_iff _ _ _).mp stops with resolving | ⟨place, after, ran, reading⟩
  · exact resolving
  · obtain ⟨_, inside, rfl⟩ := inside_of_resolve machine after pointer place ran
    obtain ⟨i, found, _⟩ := after.memory.heap.index_of_inside place.2 inside.1 inside.2
    rw [Stops, runOn_bind, runOn_get] at reading
    dsimp only at reading
    rw [after.memory.load_inside place.2 place.1 i found] at reading
    cases reading

theorem store_plain (memory : Memory) (value : Value)
    (inside : 0 ≤ address ∧ address < memory.heap.size) :
    Only Fault.Plain (memory.store address (.value value)) := by
  obtain ⟨i, found, _⟩ := memory.heap.index_of_inside address inside.1 inside.2
  rw [memory.store_of_index address value i found]
  exact .map _ _ (.imp _ Fault.Unfit.plain (valueToInt_unfit value))

theorem not_stops_store (value : Value)
    (inside : 0 ≤ address ∧ address < machine.memory.heap.size) :
    ¬ Stops (store address value) machine := by
  have plain := store_plain address machine.memory value inside
  rw [Stops, runOn_store]
  cases stored : machine.memory.store address value with
  | ok answer => exact nofun
  | error fault =>
    rw [Except.error.injEq, Failure.of_eq_digitLimit, (plain fault stored).short]
    simp

theorem not_stops_stored (result : Result)
    (inside : 0 ≤ address ∧ address < machine.memory.heap.size) :
    ¬ Stops (do store address (← require .voidAssignment result)) machine := by
  intro stops
  have legible := closed_legible.require .voidAssignment ⟨.inr rfl, rfl⟩ result
  obtain ⟨value, after, ran, storing⟩ := stops_after _ _ machine legible stops
  obtain ⟨_, rfl⟩ := eq_value_of_require _ result machine after value ran
  exact not_stops_store address after value inside storing

end places

section calls

variable (builtin : Builtin) (arguments : List Argument) (machine : Machine)
  (agree : List.Forall₂ Agrees builtin.signature.parameters arguments)

include agree

theorem stops_run_iff :
    Stops (builtin.run arguments) machine ↔
      ∃ fault, Call.Refused ⟨builtin, arguments, machine⟩ fault ∧
        ∃ n ∈ fault.integers, ¬ Numeral.Writable n := by
  constructor
  · intro stops
    obtain ⟨fault, limit, refused⟩ :=
      Call.refused_of_outcome ⟨builtin, arguments, machine⟩ .digitLimit agree stops
    exact ⟨fault, refused, (Failure.of_eq_digitLimit fault).mp limit.symm⟩
  · rintro ⟨fault, refused, long⟩
    have failed := Call.outcome_of_refused _ fault refused
    rw [(Failure.of_eq_digitLimit fault).mpr long] at failed
    exact failed

theorem stops_invoke_iff :
    Stops (builtin.invoke arguments) machine ↔
      ∃ n, Call.Writes ⟨builtin, arguments, machine⟩ n ∧ ¬ Numeral.Writable n := by
  unfold Builtin.invoke
  split
  · rename_i short
    rw [stops_run_iff builtin arguments machine agree]
    constructor
    · rintro ⟨fault, refused, n, member, long⟩
      exact ⟨n, .inr ⟨fault, refused, member⟩, long⟩
    · rintro ⟨n, given | ⟨fault, refused, member⟩, long⟩
      · exact absurd (short n given) long
      · exact ⟨fault, refused, n, member, long⟩
  · rename_i long
    refine ⟨fun _ => ?_, fun _ => rfl⟩
    push Not at long
    obtain ⟨n, given, long⟩ := long
    exact ⟨n, .inl given, long⟩

end calls

theorem stops_call_iff (function : String) (builtin : Builtin) (arguments : List Argument)
    (machine : Machine) :
    Stops (call function builtin arguments) machine ↔
      arguments.length = builtin.arity ∧
        checkArguments function 0 builtin.signature.parameters arguments = .ok () ∧
        ∃ n, Call.Writes ⟨builtin, arguments, machine⟩ n ∧ ¬ Numeral.Writable n := by
  by_cases size : arguments.length = builtin.arity
  · rw [call, if_neg (not_not.mpr size)]
    cases checked : checkArguments function 0 builtin.signature.parameters arguments with
    | error fault =>
      have plain := checkArguments_plain function 0 _ arguments fault checked
      constructor
      · intro stops
        rcases (stops_bind_iff _ _ _).mp stops with failing | ⟨_, _, ran, _⟩
        · exact absurd failing (legible_fail fault plain.short machine)
        · cases ran
      · rintro ⟨_, failed, _⟩
        cases failed
    | ok done =>
      have agree := checkArguments_agree function 0 _ arguments size checked
      have goesOn : Stops (lift (.ok done) >>= fun _ => builtin.invoke arguments) machine ↔
          Stops (builtin.invoke arguments) machine := Iff.rfl
      rw [goesOn, stops_invoke_iff builtin arguments machine agree]
      exact ⟨fun written => ⟨size, rfl, written⟩, fun accepted => accepted.2.2⟩
  · rw [call, if_pos size, stops_fail_iff]
    refine ⟨?_, fun accepted => absurd accepted.1 size⟩
    rintro ⟨n, member, _⟩
    cases member

end Evaluation

namespace Statement

open Evaluation

theorem evaluateArguments_append (front back : List Node) :
    evaluateArguments (front ++ back) = (do
      let given ← evaluateArguments front
      let others ← evaluateArguments back
      return given ++ others) := by
  induction front with
  | nil => simp [evaluateArguments]
  | cons argument rest ih =>
    cases kind : argument.isType with
    | true =>
      cases argument with
      | typeName type => simp [evaluateArguments, ih]
      | _ => cases kind
    | false =>
      simp only [List.cons_append, evaluateArguments_cons argument _ kind, ih, bind_assoc, pure_bind,
        List.append_assoc]

theorem stops_behind (before rest : List Node) (argument : Node) (given : List Argument)
    (machine after : Machine) (value : argument.isType = false)
    (ran : (evaluateArguments before).runOn machine = (.ok given, after))
    (stops : Stops argument.evaluate after) :
    Stops (evaluateArguments (before ++ argument :: rest)) machine := by
  have here : Stops (evaluateArguments (argument :: rest)) after := by
    rw [evaluateArguments_cons argument rest value]
    exact stops_first stops
  rw [evaluateArguments_append]
  exact stops_next ran (stops_first here)

/-- Arguments stop at one of them, behind those that were evaluated before it. -/
theorem first_stop (arguments : List Node) (machine : Machine)
    (stops : Stops (evaluateArguments arguments) machine) :
    ∃ before argument rest given after, arguments = before ++ argument :: rest ∧
      (evaluateArguments before).runOn machine = (.ok given, after) ∧
      Stops argument.evaluate after := by
  induction arguments generalizing machine with
  | nil => cases stops
  | cons argument rest ih =>
    cases kind : argument.isType with
    | true =>
      cases argument with
      | typeName type =>
        have later := stops_of_bind _ _ machine (fun _ => legible_pure _) stops
        obtain ⟨before, other, behind, given, after, rfl, ran, stops⟩ := ih machine later
        refine ⟨.typeName type :: before, other, behind, .type type :: given, after, rfl, ?_, stops⟩
        rw [evaluateArguments, runOn_bind, ran]
        rfl
      | _ => cases kind
    | false =>
      rw [evaluateArguments_cons argument rest kind] at stops
      rcases (stops_bind_iff _ _ _).mp stops with here | ⟨result, middle, head, stops⟩
      · exact ⟨[], argument, rest, [], machine, rfl, rfl, here⟩
      · have later := stops_of_bind _ _ middle (fun _ => legible_pure _) stops
        obtain ⟨before, other, behind, given, after, rfl, ran, stops⟩ := ih middle later
        refine ⟨argument :: before, other, behind, Argument.ofResult result ++ given, after, rfl, ?_,
          stops⟩
        rw [evaluateArguments_cons argument before kind, runOn_bind, head]
        dsimp only
        rw [runOn_bind, ran]
        rfl

theorem stops_of_writes (node : Node) (machine : Machine) (n : Int) (writes : node.Writes machine n)
    (long : ¬ Numeral.Writable n) : Stops node.evaluate machine := by
  induction writes with
  | left op left right machine n below ih => exact stops_first (ih long)
  | right op left right machine after result n ran below ih =>
    exact stops_next ran (stops_first (ih long))
  | cast type operand machine n below ih => exact stops_first (ih long)
  | parenthesis inner machine n below ih => exact ih long
  | pointer pointer machine n below ih => exact stops_first (ih long)
  | address pointer machine after pointee address ran outside =>
    refine stops_next ran ?_
    rw [stops_load_iff, stops_resolve_iff]
    exact ⟨pointee, address, rfl, outside, long⟩
  | place pointer value machine n below ih =>
    rcases (stops_bind_iff _ _ _).mp (ih long) with stops | ⟨result, after, ran, stops⟩
    · exact stops_first stops
    · rw [stops_load_iff] at stops
      exact stops_next ran (stops_first stops)
  | stored pointer value machine after pointee address n ran inside below ih =>
    have resolved := runOn_resolve pointee address after inside
    exact stops_next ran (stops_next resolved (stops_first (ih long)))
  | defined name type value machine after n ran below ih =>
    exact stops_next ran (stops_first (ih long))
  | assigned name value machine n below ih => exact stops_first (ih long)
  | argument function before rest argument builtin given machine after n found ran below ih =>
    have value : argument.isType = false := by cases below <;> rfl
    have called := runOn_callee function builtin machine found
    have stops := stops_behind before rest argument given machine after value ran (ih long)
    exact stops_next called (stops_first stops)
  | call function arguments builtin given machine after n found ran size checked written =>
    have called := runOn_callee function builtin machine found
    have stops := (stops_call_iff function builtin given after).mpr ⟨size, checked, n, written, long⟩
    exact stops_next called (stops_next ran stops)

theorem writes_of_stops (node : Node) (machine : Machine) (stops : Stops node.evaluate machine) :
    ∃ n, node.Writes machine n ∧ ¬ Numeral.Writable n := by
  induction node using evaluationInduction generalizing machine with
  | missing => exact absurd stops (legible_fail _ rfl machine)
  | typeName type => exact absurd stops (legible_fail _ rfl machine)
  | literal value => cases stops
  | identifier name =>
    exact absurd (stops_of_bind _ _ machine (fun _ => legible_pure _) stops)
      (legible_lookup name machine)
  | declaration name type =>
    exact absurd (stops_of_bind _ _ machine (fun _ => legible_pure _) stops)
      (legible_declare name type machine)
  | operator op left right onLeft onRight =>
    rcases (stops_bind_iff _ _ _).mp stops with here | ⟨l, after, ran, later⟩
    · obtain ⟨n, below, long⟩ := onLeft machine here
      exact ⟨n, .left op left right machine n below, long⟩
    · have there := stops_of_bind _ _ after (fun r => closed_legible.operate op l r) later
      obtain ⟨n, below, long⟩ := onRight after there
      exact ⟨n, .right op left right machine after l n ran below, long⟩
  | cast type operand onOperand =>
    have here := stops_of_bind _ _ machine (fun result => closed_legible.cast type result) stops
    obtain ⟨n, below, long⟩ := onOperand machine here
    exact ⟨n, .cast type operand machine n below, long⟩
  | parenthesis inner onInner =>
    obtain ⟨n, below, long⟩ := onInner machine stops
    exact ⟨n, .parenthesis inner machine n below, long⟩
  | dereference pointer onPointer =>
    rcases (stops_bind_iff _ _ _).mp stops with here | ⟨result, after, ran, later⟩
    · obtain ⟨n, below, long⟩ := onPointer machine here
      exact ⟨n, .pointer pointer machine n below, long⟩
    · rw [stops_load_iff, stops_resolve_iff] at later
      obtain ⟨pointee, address, rfl, outside, long⟩ := later
      exact ⟨address, .address pointer machine after pointee address ran outside, long⟩
  | store pointer value onPointer onValue =>
    rcases (stops_bind_iff _ _ _).mp stops with here | ⟨result, after, ran, later⟩
    · obtain ⟨n, below, long⟩ := onPointer machine here
      exact ⟨n, .place pointer value machine n (.pointer pointer machine n below), long⟩
    · rcases (stops_bind_iff _ _ _).mp later with resolving | ⟨place, current, resolved, behind⟩
      · obtain ⟨pointee, address, rfl, outside, long⟩ := (stops_resolve_iff after result).mp resolving
        have written := Writes.address pointer machine after pointee address ran outside
        exact ⟨address, .place pointer value machine address written, long⟩
      · obtain ⟨rfl, inside, rfl⟩ := inside_of_resolve after current result place resolved
        rcases (stops_bind_iff _ _ _).mp behind with there | ⟨stored, last, valued, storing⟩
        · obtain ⟨n, below, long⟩ := onValue current there
          exact ⟨n, .stored pointer value machine current place.1 place.2 n ran inside below, long⟩
        · -- The heap has kept its size since the address was checked.
          have size := size_evaluate value current
          rw [valued] at size
          rw [← size] at inside
          exact absurd storing (not_stops_stored place.2 last stored inside)
  | define name type value onValue =>
    obtain ⟨_, after, ran, later⟩ := stops_after _ _ machine (legible_declare name type) stops
    have here := stops_of_bind _ _ after (fun result => legible_assign name result) later
    obtain ⟨n, below, long⟩ := onValue after here
    exact ⟨n, .defined name type value machine after n ran below, long⟩
  | assign name value onValue =>
    have here := stops_of_bind _ _ machine (fun result => legible_assign name result) stops
    obtain ⟨n, below, long⟩ := onValue machine here
    exact ⟨n, .assigned name value machine n below, long⟩
  | refuse target value refused =>
    rw [evaluate_refused target value refused] at stops
    exact absurd stops (legible_fail _ rfl machine)
  | call function arguments each =>
    obtain ⟨builtin, current, called, later⟩ := stops_after _ _ machine (legible_callee function) stops
    have found := native_of_callee machine current function builtin called
    rw [runOn_callee function builtin machine found] at called
    cases called
    rcases (stops_bind_iff _ _ _).mp later with here | ⟨given, after, ran, later⟩
    · obtain ⟨before, argument, rest, given, after, rfl, ran, there⟩ := first_stop arguments machine here
      obtain ⟨n, below, long⟩ := each argument (by simp) after there
      exact ⟨n, .argument function before rest argument builtin given machine after n found ran below,
        long⟩
    · obtain ⟨size, checked, n, written, long⟩ :=
        (stops_call_iff function builtin given after).mp later
      exact ⟨n, .call function arguments builtin given machine after n found ran size checked written,
        long⟩

end Statement

namespace Console

/-- The line is a statement whose evaluation writes the integer. -/
def Writes (console : Console) (line : String) (n : Int) : Prop :=
  (Text.strip line).isEmpty = false ∧ isHelp (Text.strip line) = false ∧
    ∃ node, Grammar.parse (Text.strip line) = .ok node ∧ node.Writes console.machine n

theorem aborts_iff_writes (console : Console) (line : String) :
    console.Aborts line ↔ ∃ n, console.Writes line n ∧ ¬ Numeral.Writable n := by
  constructor
  · rintro ⟨visible, plain, limit⟩
    cases read : Grammar.parse (Text.strip line) with
    | error fault =>
      rw [console.machine.run_of_unread _ fault read] at limit
      cases limit
    | ok node =>
      rw [console.machine.run_of_parse _ node read] at limit
      obtain ⟨n, writes, long⟩ := node.writes_of_stops console.machine limit
      exact ⟨n, ⟨visible, plain, node, read, writes⟩, long⟩
  · rintro ⟨n, ⟨visible, plain, node, read, writes⟩, long⟩
    refine ⟨visible, plain, ?_⟩
    rw [console.machine.run_of_parse _ node read]
    exact node.stops_of_writes console.machine n writes long

/-- The fault of a line is the last entry of the transcript behind it. -/
theorem history_of_fault (console : Console) (attached : console.Attached) (line : String)
    (fault : Fault) (visible : (Text.strip line).isEmpty = false)
    (plain : isHelp (Text.strip line) = false)
    (failed : (console.machine.run (Text.strip line)).1 = .error (.fault fault)) :
    ∃ earlier, (console.execute line).2.history = earlier ++ [⟨.error, fault.line⟩] := by
  have ends : ¬ console.Aborts line := Fails.ends ⟨visible, plain, fault, failed⟩
  have answered : console.answer (Text.strip line) = [⟨.error, fault.line⟩] := by
    rw [answer, if_neg (by simp [plain])]
    rcases ran : console.machine.run (Text.strip line) with ⟨outcome, after⟩
    rw [ran] at failed
    cases failed
    rfl
  rw [(execute_of_ends console line attached visible ends).1, replay_events console line _ visible,
    answered]
  exact ⟨_, rfl⟩

/-- A line has an answer unless it comes to write an integer beyond the digit limit, and every fault
of reading or evaluating it ends up in the transcript. -/
theorem execute_unanswered_iff (console : Console) (reachable : console.Reachable) (line : String) :
    ((console.execute line).1 = none ↔
      ∃ n, console.Writes line n ∧ ¬ Numeral.Writable n) ∧
    ∀ fault, (Text.strip line).isEmpty = false → isHelp (Text.strip line) = false →
      (console.machine.run (Text.strip line)).1 = .error (.fault fault) →
        (∃ items, (console.execute line).1 = some items) ∧
          ∃ earlier, (console.execute line).2.history = earlier ++ [⟨.error, fault.line⟩] := by
  constructor
  · rw [← aborts_iff_writes]
    cases visible : (Text.strip line).isEmpty with
    | true =>
      rw [execute_blank console line visible]
      refine ⟨nofun, fun aborts => ?_⟩
      rw [aborts.1] at visible
      cases visible
    | false => exact aborts_iff console reachable.attached line visible
  · intro fault visible plain failed
    have ends : ¬ console.Aborts line := Fails.ends ⟨visible, plain, fault, failed⟩
    exact ⟨⟨_, (execute_of_ends console line reachable.attached visible ends).2⟩,
      history_of_fault console reachable.attached line fault visible plain failed⟩

section lines

def afterLines (console : Console) : List String → Console
  | [] => console
  | line :: rest => (console.execute line).2.afterLines rest

theorem Reachable.afterLines {console : Console} (reachable : console.Reachable)
    (lines : List String) : (console.afterLines lines).Reachable := by
  induction lines generalizing console with
  | nil => exact reachable
  | cons line rest ih =>
    rw [Console.afterLines]
    exact ih (.execute console line reachable)

/-- The line is the statement and nothing else. -/
structure Reads (line : String) (node : Node) : Prop where
  bare : Text.strip line = line
  visible : line.isEmpty = false
  plain : isHelp line = false
  read : Grammar.parse line = .ok node

theorem machine_afterLines (console : Console) (lines : List String) (nodes : List Node)
    (read : List.Forall₂ Reads lines nodes) :
    (console.afterLines lines).machine = console.machine.session nodes := by
  induction read generalizing console with
  | nil => rfl
  | @cons line node lines nodes reads _ ih =>
    have stepped := machine_execute console line
    rw [reads.bare, reads.visible, reads.plain, console.machine.run_of_parse _ node reads.read]
      at stepped
    rw [afterLines, ih, stepped]
    rfl

end lines

section tower

def powerLine : String := "x = x * x * x * x * x * x * x * x"

def powerNode : Node :=
  .assignment (.identifier "x")
    ((List.replicate 7 (.identifier "x")).foldl (.operator .mul) (.identifier "x"))

theorem reads_power : Reads powerLine powerNode where
  bare := by decide +kernel
  visible := by decide +kernel
  plain := by decide +kernel
  read := by cbv

/-- The console on which a name is bound to two to the power of 64, which is then raised to the
power of eight three times. -/
def tower : Console :=
  (ofConfig ⟨4, 10⟩).afterLines ["int x = 0x10000000000000000", powerLine, powerLine, powerLine]

def towerNodes : List Node :=
  [.assignment (.declaration "x" .int) (.literal (.int 18446744073709551616)), powerNode, powerNode,
    powerNode]

theorem machine_tower : tower.machine = (Machine.ofConfig ⟨4, 10⟩ true).session towerNodes := by
  have powers := List.Forall₂.cons reads_power (.cons reads_power (.cons reads_power .nil))
  refine machine_afterLines _ _ _ (.cons ?_ powers)
  exact ⟨by decide +kernel, by decide +kernel, by decide +kernel, by cbv⟩

theorem find?_tower :
    tower.machine.scope.find? "x" = some (.int (Nat.pow 2 32768)) ∧
      tower.machine.scope.find? "malloc" = some (.native .malloc) := by
  rw [machine_tower]
  decide +kernel

theorem long_tower : ¬ Numeral.Writable (Nat.pow 2 32768) := by decide +kernel

/-- A request for memory writes the number that it asks for. -/
theorem writes_request (machine : Machine) (name : String) (n : Int)
    (bound : machine.scope.find? name = some (.int n))
    (native : machine.scope.find? "malloc" = some (.native .malloc)) :
    (Statement.call "malloc" [.identifier name] : Node).Writes machine n := by
  have ran : (Statement.evaluateArguments [.identifier name]).runOn machine =
      (.ok [.result (.value (.int n))], machine) := by
    simp only [Statement.evaluateArguments, Statement.evaluate, Evaluation.lookup,
      Evaluation.runOn_bind, Evaluation.runOn_get, bound]
    rfl
  have given : n ∈ [Argument.result (.value (.int n))].filterMap Argument.integer? :=
    List.mem_singleton_self n
  exact .call "malloc" _ .malloc _ machine machine n native ran rfl rfl (.inl given)

theorem writes_tower : tower.Writes "malloc(x)" (Nat.pow 2 32768) := by
  have bare : Text.strip "malloc(x)" = "malloc(x)" := by decide +kernel
  have read : Grammar.parse "malloc(x)" = .ok (.call "malloc" [.identifier "x"]) := by cbv
  refine ⟨by decide +kernel, by decide +kernel, _, by rw [bare, read], ?_⟩
  exact writes_request tower.machine "x" _ find?_tower.1 find?_tower.2

theorem execute_unanswered_on_tower :
    tower.Reachable ∧ tower.Writes "malloc(x)" (Nat.pow 2 32768) ∧
      ¬ Numeral.Writable (Nat.pow 2 32768) ∧ (tower.execute "malloc(x)").1 = none := by
  have reachable : tower.Reachable := (Reachable.ofConfig ⟨4, 10⟩).afterLines _
  refine ⟨reachable, writes_tower, long_tower, ?_⟩
  exact (execute_unanswered_iff tower reachable "malloc(x)").1.mpr ⟨_, writes_tower, long_tower⟩

/-- Not every line has an answer. -/
theorem execute_not_total :
    ¬ ∀ (console : Console) (line : String), console.Reachable →
      ∃ items, (console.execute line).1 = some items := by
  intro total
  obtain ⟨items, answered⟩ := total tower "malloc(x)" ((Reachable.ofConfig ⟨4, 10⟩).afterLines _)
  have aborts := (aborts_iff_writes tower "malloc(x)").mpr ⟨_, writes_tower, long_tower⟩
  rw [execute_of_aborts tower "malloc(x)" aborts] at answered
  cases answered

end tower

end Console

end HeapConsole
