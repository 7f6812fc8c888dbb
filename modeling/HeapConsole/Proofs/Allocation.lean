import HeapConsole.Proofs.Calls

/-! Since regions are given back all at once, the first gap that fits is always behind the last
region: in every session the allocator answers as a bump allocator, whose next address is the sum
of the sizes granted since the last reset. -/
namespace HeapConsole

namespace Region

/-- The regions fill the addresses from `first` up to `last`, one behind another. -/
def Tile : Int → List Region → Int → Prop
  | first, [], last => first = last
  | first, region :: rest, last => region.start = first ∧ 0 < region.size ∧ Tile region.stop rest last

theorem Tile.le (first last : Int) (regions : List Region) (tile : Tile first regions last) :
    first ≤ last := by
  induction regions generalizing first with
  | nil => exact Int.le_of_eq tile
  | cons region rest ih =>
    obtain ⟨start, positive, tail⟩ := tile
    have behind := ih region.stop tail
    unfold stop at behind
    omega

theorem Tile.total_eq (first last : Int) (regions : List Region) (tile : Tile first regions last) :
    first + total regions = last := by
  induction regions generalizing first with
  | nil => simpa [total, Tile] using tile
  | cons region rest ih =>
    obtain ⟨start, positive, tail⟩ := tile
    have behind := ih region.stop tail
    unfold stop at behind
    unfold total
    omega

/-- No region leaves a gap before it, so the search ends behind the last one. -/
theorem Tile.gap_eq (size first last : Int) (regions : List Region) (positive : 0 < size)
    (tile : Tile first regions last) : gap size first regions = last := by
  induction regions generalizing first with
  | nil => exact tile
  | cons region rest ih =>
    obtain ⟨start, _, tail⟩ := tile
    rw [gap, if_neg (by omega)]
    exact ih region.stop tail

theorem Tile.insert_eq (size first last : Int) (regions : List Region)
    (tile : Tile first regions last) :
    Region.insert ⟨last, size⟩ regions = regions ++ [⟨last, size⟩] := by
  induction regions generalizing first with
  | nil => rfl
  | cons region rest ih =>
    obtain ⟨start, positive, tail⟩ := tile
    have behind := Tile.le region.stop last rest tail
    unfold stop at behind
    have later : Region.before ⟨last, size⟩ region = false := by
      simp only [before, Bool.or_eq_false_iff, decide_eq_false_iff_not, Bool.and_eq_false_iff,
        beq_eq_false_iff_ne]
      omega
    rw [Region.insert, if_neg (by simp [later]), ih region.stop tail]
    rfl

theorem Tile.append (size first last : Int) (regions : List Region) (positive : 0 < size)
    (tile : Tile first regions last) :
    Tile first (regions ++ [⟨last, size⟩]) (last + size) := by
  induction regions generalizing first with
  | nil => exact ⟨tile.symm, positive, rfl⟩
  | cons region rest ih => exact ⟨tile.1, tile.2.1, ih region.stop tile.2.2⟩

theorem Tile.start_ge (first last : Int) (regions : List Region) (tile : Tile first regions last)
    (region : Region) (member : region ∈ regions) : first ≤ region.start ∧ 0 < region.size := by
  induction regions generalizing first with
  | nil => cases member
  | cons head rest ih =>
    obtain ⟨start, positive, tail⟩ := tile
    rcases List.mem_cons.mp member with rfl | inside
    · omega
    · have behind := ih head.stop tail inside
      unfold stop at behind
      omega

end Region

/-- Where regions tile the addresses up to `next`, a request is served there or nowhere. -/
theorem Allocator.malloc_of_tile (allocator : Allocator) (next size : Int)
    (tile : Region.Tile 0 allocator.regions next) :
    allocator.malloc size =
      if size ≤ 0 then .error (.allocationSize size)
      else if allocator.capacity < next + size then
        .error (.outOfMemory size next allocator.capacity)
      else .ok (next, { allocator with regions := allocator.regions ++ [⟨next, size⟩] }) := by
  unfold malloc
  split
  · rfl
  · rename_i positive
    have reserved : allocator.reserved = next := by
      have sum := Region.Tile.total_eq 0 next allocator.regions tile
      unfold Allocator.reserved
      omega
    simp only [Region.Tile.gap_eq size 0 next allocator.regions (by omega) tile, reserved,
      Allocator.insert, Region.Tile.insert_eq size 0 next allocator.regions tile]

namespace Call

def requested? (call : Call) : Option Int :=
  match call.builtin with
  | .malloc =>
    if call.arguments.any Argument.isType then none
    else (Builtin.malloc.intArgument call.arguments).toOption
  | _ => none

def isReset (call : Call) : Bool := call.builtin = .reset

def granted (call : Call) : Int :=
  match call.requested?, call.outcome with
  | some size, .ok _ => size
  | _, _ => 0

theorem run_of_requested (call : Call) (size : Int) (requested : call.requested? = some size) :
    call.run =
      match call.before.memory.malloc size with
      | .ok (address, memory) =>
        (.ok (.value (.int address)), { call.before with memory := memory })
      | .error fault => (.error (.of fault), call.before) := by
  obtain ⟨builtin, arguments, before⟩ := call
  cases builtin with
  | malloc =>
    simp only [requested?] at requested
    split at requested
    · cases requested
    · rename_i values
      have given : Builtin.malloc.intArgument arguments = .ok size := by
        cases found : Builtin.malloc.intArgument arguments with
        | error fault =>
          rw [found] at requested
          cases requested
        | ok n =>
          rw [found] at requested
          cases requested
          rfl
      simp only [run, Builtin.run, Builtin.runMalloc, if_neg values, given, Evaluation.runOn_bind,
        Evaluation.runOn_lift_ok, Evaluation.runOn_get]
      cases before.memory.malloc size <;> rfl
  | _ => cases requested

theorem memory_of_unrequested (call : Call) (requested : call.requested? = none)
    (kept : call.isReset = false) : call.after.memory = call.before.memory := by
  obtain ⟨builtin, arguments, before⟩ := call
  cases builtin with
  | malloc =>
    simp only [after, run, Builtin.run, Builtin.runMalloc]
    simp only [requested?] at requested
    split at requested
    · rename_i types
      rw [if_pos types]
      rfl
    · rename_i values
      rw [if_neg values, Evaluation.runOn_bind, Evaluation.runOn_lift]
      cases found : Builtin.malloc.intArgument arguments with
      | error fault => rfl
      | ok n =>
        rw [found] at requested
        cases requested
  | clear => rfl
  | setDisplayBase =>
    simp only [after, run, Builtin.run, Builtin.runSetDisplayBase, Evaluation.runOn_bind]
    cases Builtin.setDisplayBase.intArgument arguments with
    | error fault => rfl
    | ok number =>
      rw [Evaluation.runOn_lift_ok]
      dsimp only
      split <;> rfl
  | sizeof =>
    simp only [after, run, Builtin.run, Builtin.runSizeof]
    split
    · split <;> rfl
    · rfl
    · rfl
  | reset => cases kept

theorem memory_of_reset (call : Call) (reset : call.isReset = true) :
    call.after.memory = call.before.memory.reset := by
  obtain ⟨builtin, arguments, before⟩ := call
  cases builtin <;> first | rfl | cases reset

theorem isReset_of_requested (call : Call) (request : Int)
    (requested : call.requested? = some request) : call.isReset = false := by
  obtain ⟨builtin, arguments, before⟩ := call
  cases builtin <;> first | rfl | cases requested

def bumped (next : Int) (call : Call) : Int := if call.isReset then 0 else next + call.granted

end Call

/-- The sum of the sizes that were granted since the last reset. -/
def served (log : List Call) : Int := log.foldl Call.bumped 0

/-- What allocation is about: the size of the heap, and the allocator. -/
def Machine.layout (machine : Machine) : Nat × Allocator :=
  (machine.memory.heap.size, machine.memory.allocator)

/-- A store that succeeds writes one byte, at the address it was given. -/
theorem Memory.eq_of_store (memory after : Memory) (address n : Int) (result : Result)
    (stored : memory.store address result = .ok (n, after)) :
    ∃ i, memory.heap.index address = .ok i ∧ result.toInt = .ok n ∧
      after = { memory with heap := memory.heap.set i (UInt8.ofNat (wrapByte n).toNat) } := by
  unfold store Heap.storeInt Heap.write at stored
  cases found : memory.heap.index address with
  | error fault =>
    rw [found] at stored
    cases stored
  | ok i =>
    rw [found] at stored
    cases converted : result.toInt with
    | error fault =>
      rw [converted] at stored
      cases stored
    | ok m =>
      rw [converted] at stored
      simp only [bind, Except.bind, pure, Except.pure] at stored
      split at stored
      · cases stored
      · rename_i heap written
        split at written
        · cases written
          cases stored
          exact ⟨i, rfl, rfl, rfl⟩
        · cases written

theorem Memory.store_layout (memory after : Memory) (address n : Int) (result : Result)
    (stored : memory.store address result = .ok (n, after)) :
    after.heap.size = memory.heap.size ∧ after.allocator = memory.allocator := by
  obtain ⟨i, _, _, rfl⟩ := eq_of_store memory after address n result stored
  simp [Heap.size, Heap.set]

theorem steady_layout : Steady Machine.layout where
  bind machine name value := rfl
  store machine address value n memory stored := by
    obtain ⟨size, allocator⟩ := Memory.store_layout machine.memory memory address n value stored
    simp only [Machine.layout, size, allocator]

/-- A heap and an allocator of one size, with the regions of a bump allocator that has given out
the addresses below `next`. -/
structure Packed (size : Nat) (next : Int) (layout : Nat × Allocator) : Prop where
  heap : layout.1 = size
  capacity : layout.2.capacity = size
  tile : Region.Tile 0 layout.2.regions next
  room : next ≤ size

theorem packed_ofConfig (config : Config) (attached : Bool) :
    Packed config.settled.memorySize.toNat 0 (Machine.ofConfig config attached).layout := by
  refine ⟨?_, rfl, rfl, by omega⟩
  simp [Machine.layout, Machine.ofConfig, Machine.fresh, Memory.ofSize, Heap.zeros, Heap.size]

namespace Call

theorem run_of_packed (call : Call) (size : Nat) (next request : Int)
    (requested : call.requested? = some request) (packed : Packed size next call.before.layout) :
    call.run =
      if request ≤ 0 then (.error (.of (.allocationSize request)), call.before)
      else if size < next + request then
        (.error (.of (.outOfMemory request next size)), call.before)
      else
        (.ok (.value (.int next)),
          { call.before with memory :=
              ⟨call.before.memory.heap, size, call.before.memory.allocator.regions ++ [⟨next, request⟩]⟩ }) := by
  have capacity : call.before.memory.allocator.capacity = size := packed.capacity
  have answer := Allocator.malloc_of_tile call.before.memory.allocator next request packed.tile
  rw [run_of_requested call request requested, Memory.malloc, answer, capacity]
  by_cases small : request ≤ 0
  · simp [small, Except.map]
  · by_cases full : (size : Int) < next + request
    · simp [small, full, Except.map]
    · simp [small, full, Except.map]

theorem packed_malloc (call : Call) (size : Nat) (next request : Int)
    (requested : call.requested? = some request) (packed : Packed size next call.before.layout) :
    Packed size (next + call.granted) call.after.layout ∧ 0 ≤ call.granted := by
  have ran := run_of_packed call size next request requested packed
  unfold granted outcome after
  rw [ran, requested]
  by_cases small : request ≤ 0
  · simpa [small] using packed
  · by_cases full : (size : Int) < next + request
    · simpa [small, full] using packed
    · rw [if_neg small, if_neg full]
      have tile := Region.Tile.append request 0 next _ (by omega) packed.tile
      exact ⟨⟨packed.heap, rfl, tile, by dsimp only; omega⟩, by dsimp only; omega⟩

/-- One run keeps the regions packed and moves the next address as a bump allocator does. -/
theorem packed_step (call : Call) (size : Nat) (next : Int)
    (packed : Packed size next call.before.layout) :
    Packed size (call.bumped next) call.after.layout ∧ 0 ≤ call.granted := by
  cases requested : call.requested? with
  | some request =>
    have kept := isReset_of_requested call request requested
    rw [bumped, if_neg (by simp [kept])]
    exact packed_malloc call size next request requested packed
  | none =>
    have nothing : call.granted = 0 := by
      rw [granted, requested]
    cases reset : call.isReset with
    | false =>
      rw [bumped, nothing, if_neg (by simp [reset]), Machine.layout,
        memory_of_unrequested call requested reset, Int.add_zero]
      exact ⟨packed, Int.le_refl 0⟩
    | true =>
      rw [bumped, nothing, if_pos reset, Machine.layout, memory_of_reset call reset]
      refine ⟨⟨?_, packed.capacity, rfl, by omega⟩, Int.le_refl 0⟩
      have heap := packed.heap
      simpa [Memory.reset, Heap.clear, Heap.zeros, Heap.size, Machine.layout] using heap

end Call

theorem packed_chain (size : Nat) (next : Int) (first last : Nat × Allocator) (log : List Call)
    (chain : Chained Machine.layout first log last) (packed : Packed size next first) :
    Packed size (log.foldl Call.bumped next) last := by
  induction log generalizing next first with
  | nil =>
    rw [Chained] at chain
    rw [← chain]
    exact packed
  | cons call rest ih =>
    obtain ⟨start, tail⟩ := chain
    rw [← start] at packed
    exact ih (call.bumped next) call.after.layout tail (call.packed_step size next packed).1

-- Requests inside an expression and requests that fail are in the log as well.
example :
    let malloc (size : Int) : Node := .call "malloc" [.literal (.int size)]
    let log := (Machine.ofConfig ⟨8, 10⟩ true).sessionCalls
      [malloc 3, .operator .add (malloc 5) (malloc 1), .call "reset" [], malloc 0, malloc 8]
    log.map Call.requested? = [some 3, some 5, some 1, none, some 0, some 8] ∧
      log.map (fun call => call.outcome.toOption) =
        [some (.value (.int 0)), some (.value (.int 3)), none, some .void, none,
          some (.value (.int 0))] := by
  decide +kernel

end HeapConsole
