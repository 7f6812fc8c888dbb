import HeapConsole.Memory

/-! The operations on a memory as data, so that runs of any length can be spoken of. An operation
that fails leaves the memory as it was. -/
namespace HeapConsole.Memory

inductive Operation where
  | malloc (size : Int)
  | reserve (region : Region)
  | reset
  | resetAllocator
  | clearHeap
  | check (address : Int)
  | read (address : Int)
  | write (address byte : Int)
  | storeInt (address value : Int)
  | load (address : Int) (type : DataType)
  | store (address : Int) (result : Result)
deriving DecidableEq, Repr

inductive Answer where
  | done
  | number (n : Int)
  | value (value : Value)
deriving DecidableEq, Repr

def attempt (memory : Memory) : Operation → Except Fault (Answer × Memory)
  | .malloc size => (memory.malloc size).map fun (address, after) => (.number address, after)
  | .reserve region => .ok (.done, { memory with allocator := memory.allocator.insert region })
  | .reset => .ok (.done, memory.reset)
  | .resetAllocator => .ok (.done, { memory with allocator := memory.allocator.reset })
  | .clearHeap => .ok (.done, { memory with heap := memory.heap.clear })
  | .check address => (memory.heap.index address).map fun _ => (.done, memory)
  | .read address => (memory.heap.read address).map fun byte => (.number byte.toNat, memory)
  | .write address byte =>
    (memory.heap.write address byte).map fun heap => (.done, { memory with heap := heap })
  | .storeInt address value =>
    (memory.heap.storeInt address value).map fun heap =>
      (.number (wrapByte value), { memory with heap := heap })
  | .load address type => (memory.load address type).map fun value => (.value value, memory)
  | .store address result =>
    (memory.store address result).map fun (n, after) => (.value (.int n), after)

def apply (memory : Memory) (operation : Operation) : Except Fault Answer × Memory :=
  match memory.attempt operation with
  | .ok (answer, after) => (.ok answer, after)
  | .error fault => (.error fault, memory)

end HeapConsole.Memory
