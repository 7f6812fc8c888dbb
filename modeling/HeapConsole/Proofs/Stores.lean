import HeapConsole.Proofs.LastWrite
import HeapConsole.Proofs.StaticTypes

/-! Stores through pointers. A store finds its place as a read of the same pointer does, before its
right side runs, and since nothing changes the size of the heap it can still write there whatever the
right side did. A char that is stored through a pointer is the char that would have been assigned to
a variable. -/
namespace HeapConsole

section places

namespace Evaluation

variable (pointee : Pointee) (address : Int) (machine : Machine)

theorem runOn_resolve (inside : 0 ≤ address ∧ address < machine.memory.heap.size) :
    (resolve (.value (.pointer pointee address))).runOn machine =
      (.ok (pointee, address), machine) := by
  obtain ⟨i, found, _⟩ := machine.memory.heap.index_of_inside address inside.1 inside.2
  simp only [resolve, require, pure_bind, runOn_bind, runOn_get, found]
  rfl

theorem runOn_resolve_outside (outside : ¬ (0 ≤ address ∧ address < machine.memory.heap.size)) :
    (resolve (.value (.pointer pointee address))).runOn machine =
      (.error (.of (.addressRange address machine.memory.heap.size)), machine) := by
  have found := machine.memory.heap.index_of_outside address outside
  simp only [resolve, require, pure_bind, runOn_bind, runOn_get, found]
  rfl

theorem inside_of_resolve (after : Machine) (pointer : Result) (place : Pointee × Int)
    (ran : (resolve pointer).runOn machine = (.ok place, after)) :
    pointer = .value (.pointer place.1 place.2) ∧
      (0 ≤ place.2 ∧ place.2 < machine.memory.heap.size) ∧ after = machine := by
  have aims := pointer_of_resolve machine after pointer place ran
  rw [aims] at ran
  have inside : 0 ≤ place.2 ∧ place.2 < machine.memory.heap.size := by
    by_contra outside
    rw [runOn_resolve_outside _ _ _ outside] at ran
    cases ran
  rw [runOn_resolve _ _ _ inside] at ran
  exact ⟨aims, inside, (congrArg Prod.snd ran).symm⟩

end Evaluation

/-- An evaluation never changes the size of the heap. -/
theorem Statement.size_evaluate (node : Node) (machine : Machine) :
    (node.evaluate.runOn machine).2.memory.heap.size = machine.memory.heap.size := by
  have steady : Steady fun machine => machine.memory.heap.size :=
    ⟨fun machine name value => congrArg Prod.fst (steady_layout.bind machine name value),
      fun machine address value n memory stored =>
        congrArg Prod.fst (steady_layout.store machine address value n memory stored)⟩
  refine Chained.kept _ (fun call => ?_) _ _ _ (Statement.logged_evaluate _ steady node machine)
  have heap := call.heap_after
  show call.after.heap.size = call.before.heap.size
  rw [heap]
  split
  · simp [Heap.clear, Heap.zeros, Heap.size]
  · rfl

end places

theorem Failure.of_plain (fault : Fault) (plain : fault.Plain) : Failure.of fault = .fault fault := by
  apply if_pos
  simp [plain.short]

def Machine.write (machine : Machine) (i : Fin machine.memory.heap.bytes.size) (byte : UInt8) :
    Machine :=
  { machine with memory := { machine.memory with heap := machine.memory.heap.set i byte } }

theorem Heap.size_set (heap : Heap) (i : Fin heap.bytes.size) (byte : UInt8) :
    (heap.set i byte).size = heap.size := by
  simp [set, size]

theorem Heap.getElem_set_self (heap : Heap) (i : Fin heap.bytes.size) (byte : UInt8)
    (j : Fin (heap.set i byte).bytes.size) (same : i.val = j.val) :
    (heap.set i byte).bytes[j] = byte := by
  rw [Fin.getElem_fin]
  simp [set, same]

namespace Evaluation

theorem runOn_store_inside (address : Int) (value : Value) (machine : Machine)
    (i : Fin machine.memory.heap.bytes.size)
    (found : machine.memory.heap.index address = .ok i) :
    (store address value).runOn machine =
      match value.toInt with
      | .ok n => (.ok (.value (.int n)), machine.write i (lowByte n))
      | .error fault => (.error (.fault fault), machine) := by
  rw [runOn_store, machine.memory.store_of_index address value i found, Result.toInt]
  cases converted : value.toInt with
  | ok n => rfl
  | error fault =>
    have plain := (valueToInt_unfit value fault converted).plain
    simp only [Except.map, Failure.of_plain fault plain]

theorem runOn_assign (name : String) (value old : Value) (machine : Machine)
    (found : machine.scope.find? name = some old) :
    (assign name value).runOn machine =
      match value.coerce old.type with
      | .ok stored => (.ok (.value stored), machine.bind name stored)
      | .error fault => (.error (.of fault), machine) := by
  simp only [assign, lookup, runOn_bind, runOn_get, found, runOn_pure, runOn_lift]
  cases value.coerce old.type <;> rfl

end Evaluation

namespace Statement

open Evaluation

section targets

variable (pointer value : Node) (machine : Machine)

/-- What a read and a store through a pointer have in common. -/
def place : Evaluation (Pointee × Int) := pointer.evaluate >>= resolve

theorem evaluate_read :
    (Statement.dereference pointer : Node).evaluate = (do
      let found ← pointer.place
      return .value (← lift ((← get).memory.load found.2 (.pointer found.1)))) := by
  simp only [evaluate, load, place, bind_assoc]

theorem evaluate_placed :
    (Statement.assignment (.dereference pointer) value : Node).evaluate =
      pointer.place >>= fun found => value.assigned >>= store found.2 := by
  simp only [evaluate, place, assigned, bind_assoc]

theorem pointer_of_place (start : Machine) (pointee : Pointee) (address : Int)
    (placed : pointer.place.runOn machine = (.ok (pointee, address), start)) :
    pointer.evaluate.runOn machine = (.ok (.value (.pointer pointee address)), start) ∧
      0 ≤ address ∧ address < start.memory.heap.size := by
  obtain ⟨result, middle, ran, resolved⟩ := runOn_bind_ok _ _ _ _ _ placed
  obtain ⟨rfl, inside, rfl⟩ := inside_of_resolve _ _ _ _ resolved
  exact ⟨ran, inside⟩

/-- Once the place is found, nothing can go wrong with reading it. -/
theorem read_of_place (start : Machine) (pointee : Pointee) (address : Int)
    (placed : pointer.place.runOn machine = (.ok (pointee, address), start)) :
    ∃ i : Fin start.memory.heap.bytes.size, (i : Int) = address ∧
      (Statement.dereference pointer : Node).evaluate.runOn machine =
        (.ok (.value (Memory.pointed pointee start.memory.heap.bytes[i])), start) := by
  obtain ⟨_, low, high⟩ := pointer_of_place pointer machine start pointee address placed
  obtain ⟨i, found, same⟩ := start.memory.heap.index_of_inside address low high
  have loaded := start.memory.load_inside address pointee i found
  refine ⟨i, same, ?_⟩
  rw [evaluate_read, runOn_bind, placed]
  simp only [runOn_bind, runOn_get, loaded, runOn_lift_ok, runOn_pure]

end targets

/-- How a store ends whose place was found on the machine `start`, from where its right side goes on.
Apart from what the right side does, only a void or a value that is no integer can make it fail. -/
structure StoresAt (value : Node) (address : Int) (start : Machine)
    (ended : Except Failure Result × Machine) : Prop where
  failed : ∀ failure last, value.evaluate.runOn start = (.error failure, last) →
    ended = (.error failure, last)
  void : ∀ last, value.evaluate.runOn start = (.ok .void, last) →
    ended = (.error (.fault .voidAssignment), last)
  unfit : ∀ given fault last, value.evaluate.runOn start = (.ok (.value given), last) →
    given.coerce .int = .error fault →
      fault.code = .invalidCoercion ∧ ended = (.error (.fault fault), last)
  -- The byte is written into the heap that the right side leaves.
  stored : ∀ given whole last, value.evaluate.runOn start = (.ok (.value given), last) →
    given.coerce .int = .ok whole → ∃ n, whole = .int n ∧
      ∃ i : Fin last.memory.heap.bytes.size, (i : Int) = address ∧
        ended = (.ok (.value whole), last.write i (lowByte n))

theorem storesAt_of_inside (value : Node) (address : Int) (start : Machine)
    (inside : 0 ≤ address ∧ address < start.memory.heap.size) :
    value.StoresAt address start ((value.assigned >>= store address).runOn start) := by
  have whole (given : Value) : given.coerce .int = given.toInt.map .int :=
    (Result.value given).coerce_int
  have reached (given : Value) (last : Machine)
      (ran : value.evaluate.runOn start = (.ok (.value given), last)) :
      ∃ i : Fin last.memory.heap.bytes.size, (i : Int) = address ∧
        last.memory.heap.index address = .ok i := by
    have size := size_evaluate value start
    rw [ran] at size
    dsimp only at size
    obtain ⟨i, found, same⟩ := last.memory.heap.index_of_inside address inside.1 (by omega)
    exact ⟨i, same, found⟩
  constructor
  · intro failure last ran
    simp only [assigned, runOn_bind, ran]
  · intro last ran
    simp only [assigned, runOn_bind, ran]
    rfl
  · intro given fault last ran refused
    obtain ⟨i, same, found⟩ := reached given last ran
    have stored := runOn_store_inside address given last i found
    cases coerce_unfit given .int fault refused
    refine ⟨rfl, ?_⟩
    simp only [assigned, runOn_bind, ran, require, runOn_pure, stored]
    rw [whole] at refused
    cases converted : given.toInt with
    | ok n => simp [converted, Except.map] at refused
    | error cause =>
      rw [converted] at refused
      cases refused
      rfl
  · intro given kept last ran coerced
    obtain ⟨i, same, found⟩ := reached given last ran
    have stored := runOn_store_inside address given last i found
    rw [whole] at coerced
    obtain ⟨n, converted, rfl⟩ := exists_of_map_ok _ _ _ coerced
    refine ⟨n, rfl, i, same, ?_⟩
    simp only [assigned, runOn_bind, ran, require, runOn_pure, stored, converted]

/-- On every machine, a store fails as the read of its pointer fails, with nothing of its right side
done; where the read succeeds, the right side goes on from the machine that the read leaves, and the
store ends at the address that was found there. -/
theorem store_resolves_as_read (pointer value : Node) (machine : Machine) :
    let read := (Statement.dereference pointer : Node).evaluate.runOn machine
    let written := (Statement.assignment (.dereference pointer) value : Node).evaluate.runOn machine
    (∀ failure after, read = (.error failure, after) → written = (.error failure, after)) ∧
    ∀ seen start, read = (.ok seen, start) → ∃ pointee address,
      pointer.evaluate.runOn machine = (.ok (.value (.pointer pointee address)), start) ∧
      (0 ≤ address ∧ address < start.memory.heap.size) ∧ value.StoresAt address start written := by
  intro read written
  have goes : written = _ := congrArg (runOn · machine) (evaluate_placed pointer value)
  rw [runOn_bind] at goes
  rcases placed : pointer.place.runOn machine with ⟨failure | ⟨pointee, address⟩, start⟩
  · have failed : read = (.error failure, start) := by
      simp only [read, evaluate_read, runOn_bind, placed]
    rw [placed] at goes
    refine ⟨fun cause after again => ?_, fun seen after succeeded => ?_⟩
    · exact goes.trans (failed.symm.trans again)
    · cases failed.symm.trans succeeded
  · obtain ⟨ran, inside⟩ := pointer_of_place pointer machine start pointee address placed
    obtain ⟨i, _, seen⟩ := read_of_place pointer machine start pointee address placed
    rw [placed] at goes
    refine ⟨fun failure after failed => ?_, fun result after succeeded => ?_⟩
    · cases seen.symm.trans failed
    · cases seen.symm.trans succeeded
      refine ⟨pointee, address, ran, inside, ?_⟩
      rw [goes]
      exact storesAt_of_inside value address start inside

/-- The right side zeroes the heap and declares the pointer anew, and the byte is still written at the
address that the pointer had; outside the heap, nothing of this is done. -/
theorem store_resolves_before_reset :
    let machine := (Machine.ofConfig ⟨4, 10⟩ true).session
      [.assignment (.declaration "p" (.pointer .char)) (.literal (.int 2)),
        .assignment (.dereference (.cast (.pointer .int) (.literal (.int 1)))) (.literal (.int 9))]
    let value : Node := .operator .add (.call "malloc" [.literal (.int 1), .call "reset" []])
      (.assignment (.declaration "p" .int) (.literal (.int 300)))
    let pointer : Node := .identifier "p"
    let beyond : Node := .cast (.pointer .char) (.literal (.int 9))
    let written := (Statement.assignment (.dereference pointer) value : Node).evaluate.runOn machine
    machine.memory.heap.bytes = #[0, 9, 0, 0] ∧ written.1 = .ok (.value (.int 300)) ∧
      written.2.memory.heap.bytes = #[0, 0, 44, 0] ∧
      written.2.scope.find? "p" = some (.int 300) ∧
      (Statement.assignment (.dereference beyond) value : Node).evaluate.runOn machine =
        (.error (.fault (.addressRange 9 4)), machine) := by
  intro machine value pointer beyond written
  have seen : (Statement.dereference pointer : Node).evaluate.runOn machine =
      (.ok (.value (.char 0)), machine) := by decide +kernel
  have given : (value.evaluate.runOn machine).1 = .ok (.value (.int 300)) := by decide +kernel
  have failed : (Statement.dereference beyond : Node).evaluate.runOn machine =
      (.error (.fault (.addressRange 9 4)), machine) := by decide +kernel
  obtain ⟨_, _, _, _, stores⟩ := (store_resolves_as_read pointer value machine).2 _ _ seen
  have ran : value.evaluate.runOn machine =
      (.ok (.value (.int 300)), (value.evaluate.runOn machine).2) := by rw [← given]
  obtain ⟨_, _, _, _, ended⟩ := stores.stored (.int 300) (.int 300) _ ran rfl
  have refused := (store_resolves_as_read beyond value machine).1 _ _ failed
  exact ⟨by decide +kernel, congrArg Prod.fst ended, by decide +kernel, by decide +kernel, refused⟩

section chars

variable {types : DataType → Prop} {literals : Literal → Prop}

theorem isExpression_of_parse (text : String) (node : Node) (read : Grammar.parse text = .ok node)
    (unbound : node.boundName? = none) (unstored : node.isStore = false) :
    ∃ literals, node.IsExpression DataType.IsNamed literals := by
  cases Grammar.isSentence_of_parse text node read with
  | expression _ expression => exact ⟨_, expression⟩
  | declaration name type _ _ => cases unbound
  | assignment target value place _ =>
    cases place with
    | dereference pointer _ _ => cases unstored
    | _ => cases unbound

theorem assigned_of_callFree (node : Node) (expression : node.IsExpression types literals)
    (free : node.callFree = true) (machine after : Machine) (outcome : Except Failure Value)
    (ran : node.assigned.runOn machine = (outcome, after)) : after = machine := by
  have chain := reading_assigned node expression _ id machine
  rw [calls_of_callFree node free machine, ran] at chain
  exact Eq.symm chain

theorem place_of_pointer (name : String) (pointee : Pointee) (address : Int) (machine : Machine)
    (aims : machine.scope.find? name = some (.pointer pointee address))
    (inside : 0 ≤ address ∧ address < machine.memory.heap.size) :
    (Statement.place (.identifier name)).runOn machine = (.ok (pointee, address), machine) := by
  have resolved := runOn_resolve pointee address machine inside
  simp only [place, evaluate, lookup, runOn_bind, runOn_get, aims, runOn_pure, resolved]

theorem read_of_written (name : String) (pointee : Pointee) (machine : Machine)
    (i : Fin machine.memory.heap.bytes.size) (byte : UInt8)
    (aims : machine.scope.find? name = some (.pointer pointee i)) :
    ((Statement.dereference (.identifier name) : Node).evaluate.runOn (machine.write i byte)).1 =
      .ok (.value (Memory.pointed pointee byte)) := by
  have size := machine.memory.heap.size_set i byte
  have inside : 0 ≤ (i : Int) ∧ (i : Int) < (machine.write i byte).memory.heap.size := by
    have bound : i.val < machine.memory.heap.size := i.isLt
    simp only [Machine.write, size]
    omega
  have placed := place_of_pointer name pointee i (machine.write i byte) aims inside
  obtain ⟨j, same, seen⟩ := read_of_place _ _ _ _ _ placed
  have written := machine.memory.heap.getElem_set_self i byte j (by omega)
  rw [seen]
  simp only [Machine.write, written]

theorem identifier_of_bound (name : String) (value : Value) (machine : Machine) :
    ((Statement.identifier name : Node).evaluate.runOn (machine.bind name value)).1 =
      .ok (.value value) := by
  have bound := machine.scope.find?_insert name name value
  rw [if_pos rfl] at bound
  simp only [evaluate, lookup, runOn_bind, runOn_get, Machine.bind, bound, runOn_pure]

/-- An integer is kept by its low byte in a char as in the heap. -/
theorem store_beside_assign (value : Value) (number : value.type ≠ .string) (machine : Machine)
    (address : Int) (i : Fin machine.memory.heap.bytes.size)
    (found : machine.memory.heap.index address = .ok i) (name : String) (old : UInt8)
    (holds : machine.scope.find? name = some (.char old)) :
    (∃ failure cause, (store address value).runOn machine = (.error failure, machine) ∧
      (assign name value).runOn machine = (.error cause, machine)) ∨
    ∃ n, (store address value).runOn machine =
        (.ok (.value (.int n)), machine.write i (lowByte n)) ∧
      (assign name value).runOn machine =
        (.ok (.value (.char (lowByte n))), machine.bind name (.char (lowByte n))) := by
  rw [runOn_store_inside address value machine i found, runOn_assign name value _ machine holds]
  have chars : (Value.char old).type = .char := rfl
  rw [chars]
  cases whole : value.toInt with
  | ok n =>
    have kept : value.coerce .char = .ok (.char (lowByte n)) :=
      (value.coerce_integral_iff _ .char number rfl).mpr ⟨n, whole, rfl⟩
    right
    exact ⟨n, rfl, by rw [kept]⟩
  | error fault =>
    left
    cases refused : value.coerce .char with
    | error cause => exact ⟨_, _, rfl, rfl⟩
    | ok stored =>
      obtain ⟨n, converted, _⟩ := (value.coerce_integral_iff stored .char number rfl).mp refused
      rw [whole] at converted
      cases converted

theorem stored_beside_assigned (node : Node) (expression : node.IsExpression types literals)
    (free : node.callFree = true) (machine : Machine)
    (wordless : ∀ words, (node.evaluate.runOn machine).1 ≠ .ok (.value (.string words)))
    (address : Int) (i : Fin machine.memory.heap.bytes.size)
    (found : machine.memory.heap.index address = .ok i) (name : String) (old : UInt8)
    (holds : machine.scope.find? name = some (.char old)) :
    (∃ failure cause,
      (node.assigned >>= store address).runOn machine = (.error failure, machine) ∧
      (node.assigned >>= assign name).runOn machine = (.error cause, machine)) ∨
    ∃ n, (node.assigned >>= store address).runOn machine =
        (.ok (.value (.int n)), machine.write i (lowByte n)) ∧
      (node.assigned >>= assign name).runOn machine =
        (.ok (.value (.char (lowByte n))), machine.bind name (.char (lowByte n))) := by
  rw [runOn_bind, runOn_bind]
  rcases ran : node.assigned.runOn machine with ⟨outcome, after⟩
  have same := assigned_of_callFree node expression free machine after outcome ran
  subst same
  cases outcome with
  | error failure => exact .inl ⟨failure, failure, rfl, rfl⟩
  | ok value =>
    have number : value.type ≠ .string := by
      intro texts
      obtain ⟨result, middle, evaluated, required⟩ := runOn_bind_ok _ _ _ _ _ ran
      have given := (eq_value_of_require _ result _ _ value required).1
      cases value with
      | string words =>
        apply wordless words
        rw [evaluated, given]
      | _ => cases texts
    exact store_beside_assign value number after address i found name old holds

/-- On every machine, storing an expression through a pointer to chars fails exactly if assigning it
to a variable that holds a char does, and otherwise both leave the same char to be read, as long as
the expression calls nothing and is no text. -/
theorem stored_char_agrees (machine : Machine) (text : String) (node : Node)
    (read : Grammar.parse text = .ok node) (unbound : node.boundName? = none)
    (unstored : node.isStore = false) (free : node.callFree = true)
    (wordless : ∀ words, (node.evaluate.runOn machine).1 ≠ .ok (.value (.string words)))
    (p c : String) (address : Int) (old : UInt8)
    (aims : machine.scope.find? p = some (.pointer .char address))
    (inside : 0 ≤ address ∧ address < machine.memory.heap.size)
    (holds : machine.scope.find? c = some (.char old)) :
    let stored := (Statement.assignment (.dereference (.identifier p)) node : Node).evaluate.runOn
      machine
    let assigned := (Statement.assignment (.identifier c) node : Node).evaluate.runOn machine
    ((∃ failure, stored.1 = .error failure) ↔ ∃ failure, assigned.1 = .error failure) ∧
    ((∃ result, stored.1 = .ok result) → (∃ result, assigned.1 = .ok result) → ∃ byte,
      ((Statement.dereference (.identifier p) : Node).evaluate.runOn stored.2).1 =
        .ok (.value (.char byte)) ∧
      ((Statement.identifier c : Node).evaluate.runOn assigned.2).1 = .ok (.value (.char byte))) := by
  intro stored assigned
  obtain ⟨literals, expression⟩ := isExpression_of_parse text node read unbound unstored
  obtain ⟨i, found, same⟩ := machine.memory.heap.index_of_inside address inside.1 inside.2
  have placed := place_of_pointer p .char address machine aims inside
  have storing : stored = (node.assigned >>= store address).runOn machine := by
    simp only [stored, evaluate_placed, runOn_bind, placed]
  have assigning : assigned = _ := congrArg (runOn · machine) (evaluate_assign c node)
  rcases stored_beside_assigned node expression free machine wordless address i found c old holds with
    ⟨failure, cause, storeFails, assignFails⟩ | ⟨n, storeEnds, assignEnds⟩
  · rw [storing, storeFails, assigning, assignFails]
    refine ⟨⟨fun _ => ⟨cause, rfl⟩, fun _ => ⟨failure, rfl⟩⟩, ?_⟩
    rintro ⟨result, ended⟩
    cases ended
  · rw [storing, storeEnds, assigning, assignEnds]
    refine ⟨⟨?_, ?_⟩, fun _ _ => ⟨lowByte n, ?_, ?_⟩⟩
    · rintro ⟨failure, failed⟩
      cases failed
    · rintro ⟨failure, failed⟩
      cases failed
    · rw [← same] at aims
      exact read_of_written p .char machine i (lowByte n) aims
    · exact identifier_of_bound c (.char (lowByte n)) machine

/-- The quotient is -19.75, which is cut to -19 and wraps to 237 on either way. -/
theorem stored_char_agrees_on_quotient :
    let machine := (Machine.ofConfig ⟨4, 10⟩ true).session
      [.assignment (.declaration "p" (.pointer .char)) (.literal (.int 3)),
        .assignment (.declaration "c" .char) (.literal (.char 97))]
    let node : Node := .operator .div (.cast .double (.literal (.int (-79)))) (.literal (.int 4))
    let stored := (Statement.assignment (.dereference (.identifier "p")) node : Node).evaluate.runOn
      machine
    let assigned := (Statement.assignment (.identifier "c") node : Node).evaluate.runOn machine
    Grammar.parse "(double) -79 / 4" = .ok node ∧
      ((Statement.identifier "c" : Node).evaluate.runOn assigned.2).1 = .ok (.value (.char 237)) ∧
      ((Statement.dereference (.identifier "p") : Node).evaluate.runOn stored.2).1 =
        .ok (.value (.char 237)) := by
  intro machine node stored assigned
  have read : Grammar.parse "(double) -79 / 4" =
      .ok (.operator .div (.cast .double (.literal (.int (-79)))) (.literal (.int 4))) := by cbv
  have number : (node.evaluate.runOn machine).1 =
      .ok (.value (.double (.finite true (79 * Nat.pow 2 1072)))) := by decide +kernel
  have wordless (words : String) : (node.evaluate.runOn machine).1 ≠ .ok (.value (.string words)) := by
    intro texts
    cases number.symm.trans texts
  have storeEnds : stored.1 = .ok (.value (.int (-19))) := by decide +kernel
  have assignEnds : assigned.1 = .ok (.value (.char 237)) := by decide +kernel
  obtain ⟨_, agree⟩ := stored_char_agrees machine _ node read rfl rfl rfl wordless "p" "c" 3 97
    (by decide +kernel) (by decide +kernel) (by decide +kernel)
  obtain ⟨byte, seen, held⟩ := agree ⟨_, storeEnds⟩ ⟨_, assignEnds⟩
  have known : ((Statement.identifier "c" : Node).evaluate.runOn assigned.2).1 =
      .ok (.value (.char 237)) := by decide +kernel
  cases known.symm.trans held
  exact ⟨read, known, seen⟩

end chars

end Statement

end HeapConsole
