import HeapConsole.Memory.Operation
import HeapConsole.Proofs.Allocation
import HeapConsole.Proofs.Coercion

/-! A memory as a map from addresses to bytes. After any operations, each byte is the remainder
modulo 256 of the integer that was stored at its address last, and zero if nothing was stored there
since the last reset. -/
namespace HeapConsole

theorem wrapByte_eq_emod (n : Int) : wrapByte n = n % 256 := by
  unfold wrapByte
  split <;> omega

theorem ofNat_wrapByte (n : Int) : UInt8.ofNat (wrapByte n).toNat = lowByte n := by
  rw [wrapByte_eq_emod, lowByte]

namespace Heap

theorem index_of_inside (heap : Heap) (address : Int) (low : 0 ≤ address)
    (high : address < heap.size) : ∃ i, heap.index address = .ok i ∧ (i : Int) = address := by
  unfold size at high
  refine ⟨⟨address.toNat, by omega⟩, ?_, by dsimp only; omega⟩
  rw [index, dif_pos ⟨low, by omega⟩]

theorem index_of_outside (heap : Heap) (address : Int)
    (outside : ¬ (0 ≤ address ∧ address < heap.size)) :
    heap.index address = .error (.addressRange address heap.size) := by
  unfold size at outside
  rw [index, dif_neg (by omega)]

theorem address_of_index (heap : Heap) (address : Int) (i : Fin heap.bytes.size)
    (found : heap.index address = .ok i) : (i : Int) = address := by
  unfold index at found
  split at found
  · cases found
    dsimp only
    omega
  · cases found

theorem eq_of_write (heap after : Heap) (address byte : Int)
    (written : heap.write address byte = .ok after) :
    ∃ i : Fin heap.bytes.size, (i : Int) = address ∧ after = heap.set i (lowByte byte) := by
  obtain ⟨i, found, written⟩ := exists_of_bind_ok _ _ _ written
  split at written
  · next range =>
    cases written
    exact ⟨i, heap.address_of_index address i found, by rw [lowByte_of_range byte range.1 range.2]⟩
  · cases written

theorem storeInt_of_index (heap : Heap) (address n : Int) (i : Fin heap.bytes.size)
    (found : heap.index address = .ok i) :
    heap.storeInt address n = .ok (heap.set i (lowByte n)) := by
  rw [storeInt, write, found, ← ofNat_wrapByte]
  exact if_pos (wrapByte_bounds n)

theorem eq_of_storeInt (heap after : Heap) (address n : Int)
    (stored : heap.storeInt address n = .ok after) :
    ∃ i : Fin heap.bytes.size, (i : Int) = address ∧ after = heap.set i (lowByte n) := by
  obtain ⟨i, same, rfl⟩ := heap.eq_of_write after address _ stored
  refine ⟨i, same, ?_⟩
  rw [lowByte, lowByte, wrapByte_eq_emod, Int.emod_emod]

end Heap

namespace Memory

namespace Operation

/-- What is remembered of the last store at an address, once an operation has succeeded. -/
def remember (address : Int) (last : Option Int) : Operation → Option Int
  | .reset | .clearHeap => none
  | .store target result => if target = address then result.toInt.toOption else last
  | .storeInt target n | .write target n => if target = address then some n else last
  | _ => last

/-- What an operation that succeeds makes of the heap. -/
inductive Rewrites (operation : Operation) (heap : Heap) : Heap → Prop where
  | nothing (silent : ∀ address last, operation.remember address last = last) :
      Rewrites operation heap heap
  | zeros (forgets : ∀ address last, operation.remember address last = none) :
      Rewrites operation heap heap.clear
  | byte (i : Fin heap.bytes.size) (n : Int)
      (remembers : ∀ address last,
        operation.remember address last = if (i : Int) = address then some n else last) :
      Rewrites operation heap (heap.set i (lowByte n))

end Operation

theorem rewrites_of_attempt (memory after : Memory) (operation : Operation) (answer : Answer)
    (done : memory.attempt operation = .ok (answer, after)) :
    operation.Rewrites memory.heap after.heap := by
  cases operation with
  | malloc size =>
    obtain ⟨⟨address, served⟩, granted, same⟩ := exists_of_map_ok _ _ _ done
    obtain ⟨⟨address, allocator⟩, _, made⟩ := exists_of_map_ok _ _ _ granted
    cases made
    cases same
    exact .nothing fun _ _ => rfl
  | reserve _ | resetAllocator =>
    cases done
    exact .nothing fun _ _ => rfl
  | reset | clearHeap =>
    cases done
    exact .zeros fun _ _ => rfl
  | check _ | read _ | load _ _ =>
    obtain ⟨_, _, same⟩ := exists_of_map_ok _ _ _ done
    cases same
    exact .nothing fun _ _ => rfl
  | write address byte =>
    obtain ⟨heap, written, same⟩ := exists_of_map_ok _ _ _ done
    obtain ⟨i, rfl, rfl⟩ := memory.heap.eq_of_write heap address byte written
    cases same
    exact .byte i byte fun _ _ => rfl
  | storeInt address n =>
    obtain ⟨heap, stored, same⟩ := exists_of_map_ok _ _ _ done
    obtain ⟨i, rfl, rfl⟩ := memory.heap.eq_of_storeInt heap address n stored
    cases same
    exact .byte i n fun _ _ => rfl
  | store address result =>
    obtain ⟨⟨n, later⟩, stored, same⟩ := exists_of_map_ok _ _ _ done
    obtain ⟨i, found, converted, rfl⟩ := memory.eq_of_store later address n result stored
    cases same
    rw [ofNat_wrapByte]
    refine .byte i n fun other last => ?_
    rw [memory.heap.address_of_index address i found, Operation.remember, converted]
    rfl

/-- The heap has the given size, and each of its bytes is the low byte of what is remembered for
its address. -/
structure Holds (size : Nat) (heap : Heap) (last : Int → Option Int) : Prop where
  size_eq : heap.size = size
  byte_eq : ∀ (i : Nat) (inside : i < heap.bytes.size),
    heap.bytes[i] = lowByte ((last i).getD 0)

theorem holds_zeros (size : Nat) (last : Int → Option Int) (nothing : ∀ address, last address = none) :
    Holds size (.zeros size) last := by
  constructor
  · simp [Heap.size, Heap.zeros]
  · intro i inside
    rw [nothing]
    simp [Heap.zeros, lowByte]

theorem holds_of_rewrites (size : Nat) (heap after : Heap) (last : Int → Option Int)
    (operation : Operation) (rewrites : operation.Rewrites heap after)
    (holds : Holds size heap last) :
    Holds size after fun address => operation.remember address (last address) := by
  cases rewrites with
  | nothing silent =>
    simp only [silent]
    exact holds
  | zeros forgets =>
    rw [Heap.clear, holds.size_eq]
    exact holds_zeros size _ fun address => forgets address _
  | byte i n remembers =>
    constructor
    · simpa [Heap.size, Heap.set] using holds.size_eq
    · intro j inside
      rw [remembers]
      by_cases same : i.val = j
      · simp [Heap.set, same]
      · have kept := holds.byte_eq j (by simpa [Heap.set] using inside)
        rw [if_neg (by omega), ← kept]
        simp [Heap.set, Array.getElem_set, same]

def perform (memory : Memory) : List Operation → Memory
  | [] => memory
  | operation :: rest => (memory.apply operation).2.perform rest

def successes (memory : Memory) : List Operation → List Operation
  | [] => []
  | operation :: rest =>
    let (answer, after) := memory.apply operation
    match answer with
    | .ok _ => operation :: after.successes rest
    | .error _ => after.successes rest

/-- The integer of the last successful store at an address since the last reset. -/
def lastStored? (memory : Memory) (operations : List Operation) (address : Int) : Option Int :=
  (memory.successes operations).foldl (Operation.remember address) none

theorem holds_perform (size : Nat) (memory : Memory) (operations : List Operation)
    (last : Int → Option Int) (holds : Holds size memory.heap last) :
    Holds size (memory.perform operations).heap fun address =>
      (memory.successes operations).foldl (Operation.remember address) (last address) := by
  induction operations generalizing memory last with
  | nil => exact holds
  | cons operation rest ih =>
    unfold perform successes apply
    cases done : memory.attempt operation with
    | error fault => exact ih memory last holds
    | ok pair =>
      have rewrites := memory.rewrites_of_attempt pair.2 operation pair.1 done
      exact ih pair.2 _ (holds_of_rewrites size _ _ last operation rewrites holds)

def Operation.address? : Operation → Option Int
  | .check address | .read address | .write address _ | .storeInt address _ | .load address _
  | .store address _ => some address
  | .malloc _ | .reserve _ | .reset | .resetAllocator | .clearHeap => none

theorem apply_outside (memory : Memory) (operation : Operation) (address : Int)
    (about : operation.address? = some address)
    (outside : ¬ (0 ≤ address ∧ address < memory.heap.size)) :
    memory.apply operation = (.error (.addressRange address memory.heap.size), memory) := by
  have missing := memory.heap.index_of_outside address outside
  have failed : memory.attempt operation = .error (.addressRange address memory.heap.size) := by
    cases operation with
    | check _ | read _ | write _ _ | storeInt _ _ | load _ _ | store _ _ =>
      cases about
      simp only [attempt, Memory.load, Memory.store, Heap.read, Heap.storeInt, Heap.write, missing]
      rfl
    | _ => cases about
  rw [apply, failed]

theorem store_of_index (memory : Memory) (address : Int) (result : Result)
    (i : Fin memory.heap.bytes.size) (found : memory.heap.index address = .ok i) :
    memory.store address result =
      result.toInt.map fun n => (n, { memory with heap := memory.heap.set i (lowByte n) }) := by
  rw [Memory.store, found]
  cases result.toInt with
  | error fault => rfl
  | ok n =>
    simp only [bind, Except.bind, memory.heap.storeInt_of_index address n i found]
    rfl

theorem apply_store (memory : Memory) (address : Int) (result : Result) (low : 0 ≤ address)
    (high : address < memory.heap.size) :
    (memory.apply (.store address result)).1 = (result.coerce .int).map .value := by
  obtain ⟨i, found, _⟩ := memory.heap.index_of_inside address low high
  rw [result.coerce_int, apply, attempt, memory.store_of_index address result i found]
  cases result.toInt <;> rfl

theorem load_inside (memory : Memory) (address : Int) (pointee : Pointee)
    (i : Fin memory.heap.bytes.size) (found : memory.heap.index address = .ok i) :
    memory.load address (.pointer pointee) = .ok (pointed pointee memory.heap.bytes[i]) := by
  rw [Memory.load, Heap.read, found]
  rfl

/-- A memory of the given size whose bytes are what the last stores left. -/
structure LastWriteWins (size : Int) (memory : Memory) (stored? : Int → Option Int) : Prop where
  loads : ∀ address, 0 ≤ address → address < size → ∃ byte : UInt8,
    (byte.toNat : Int) = (stored? address).getD 0 % 256 ∧
      memory.load address (.pointer .int) = .ok (.int byte.toNat) ∧
      memory.load address (.pointer .char) = .ok (.char byte)
  -- A store inside the range answers with the coercion to int, and fails only where that fails.
  stores : ∀ address result, 0 ≤ address → address < size →
    (memory.apply (.store address result)).1 = (result.coerce .int).map .value
  outside : ∀ operation address, operation.address? = some address →
    ¬ (0 ≤ address ∧ address < size) →
      (memory.apply operation).1 = .error (.addressRange address size.toNat)
  reservations : ∀ n, (memory.apply (.malloc n)).2.heap = memory.heap
  reads : ∀ address type, (memory.apply (.load address type)).2 = memory
  failures : ∀ operation fault, (memory.apply operation).1 = .error fault →
    (memory.apply operation).2 = memory

theorem heap_of_malloc (memory : Memory) (n : Int) :
    (memory.apply (.malloc n)).2.heap = memory.heap := by
  rw [apply, attempt, Memory.malloc]
  cases memory.allocator.malloc n <;> rfl

theorem apply_load (memory : Memory) (address : Int) (type : DataType) :
    (memory.apply (.load address type)).2 = memory := by
  rw [apply, attempt]
  cases memory.load address type <;> rfl

theorem apply_failed (memory : Memory) (operation : Operation) (fault : Fault)
    (failed : (memory.apply operation).1 = .error fault) : (memory.apply operation).2 = memory := by
  unfold apply at failed ⊢
  split at failed
  · cases failed
  · rfl

theorem lastWriteWins_of_holds (size : Nat) (memory : Memory) (last : Int → Option Int)
    (holds : Holds size memory.heap last) : LastWriteWins size memory last := by
  have sized := holds.size_eq
  constructor
  · intro address low high
    obtain ⟨i, found, same⟩ := memory.heap.index_of_inside address low (by omega)
    have byte := holds.byte_eq i i.isLt
    rw [same] at byte
    refine ⟨memory.heap.bytes[i], ?_, memory.load_inside address .int i found,
      memory.load_inside address .char i found⟩
    rw [← toNat_lowByte, ← byte]
    rfl
  · intro address result low high
    exact memory.apply_store address result low (by omega)
  · intro operation address about beyond
    rw [memory.apply_outside operation address about (by omega), sized, Int.toNat_natCast]
  · exact memory.heap_of_malloc
  · exact memory.apply_load
  · exact memory.apply_failed

/-- Whatever operations run on a new memory, each byte is what was stored at its address last. -/
theorem load_after_operations (size : Int) (positive : 0 < size) (operations : List Operation) :
    ∃ memory, ofSize? size = some memory ∧
      LastWriteWins size (memory.perform operations) (memory.lastStored? operations) := by
  refine ⟨ofSize size.toNat, if_pos positive, ?_⟩
  have fresh := holds_zeros size.toNat (fun _ => none) fun _ => rfl
  have holds := holds_perform size.toNat (ofSize size.toNat) operations _ fresh
  have wins := lastWriteWins_of_holds size.toNat _ _ holds
  rwa [Int.toNat_of_nonneg (by omega)] at wins

/-- The store that counts is neither the first, nor one of those that failed behind it. -/
theorem load_after_wrapped_store :
    let operations : List Operation :=
      [.store 2 (.value (.int 300)), .malloc 3, .store 2 (.value (.pointer .char (-257))), .malloc 9,
        .store 4 (.value (.int 1)), .store 2 (.value (.string "7")), .load 2 (.pointer .int)]
    0 < (4 : Int) ∧ ∃ memory, ofSize? 4 = some memory ∧
      memory.lastStored? operations 2 = some (-257) ∧
      (memory.perform operations).load 2 (.pointer .char) = .ok (.char 255) ∧
      (memory.perform operations).load 3 (.pointer .int) = .ok (.int 0) := by
  intro operations
  obtain ⟨memory, made, wins⟩ := load_after_operations 4 (by decide) operations
  have same : memory = ofSize 4 := Option.some.inj (made.symm.trans rfl)
  subst same
  have stored : (ofSize 4).lastStored? operations 2 = some (-257) := by decide +kernel
  have unstored : (ofSize 4).lastStored? operations 3 = none := by decide +kernel
  obtain ⟨wrapped, value, _, asChar⟩ := wins.loads 2 (by decide) (by decide)
  obtain ⟨blank, zero, asInt, _⟩ := wins.loads 3 (by decide) (by decide)
  rw [stored] at value
  rw [unstored] at zero
  have full : wrapped = 255 := UInt8.toNat_inj.mp (Int.ofNat_inj.mp value)
  refine ⟨by decide, _, made, stored, ?_, ?_⟩
  · rw [asChar, full]
  · rw [asInt, zero]
    rfl

end Memory

end HeapConsole
