import HeapConsole.Memory.Allocator
import HeapConsole.Memory.Heap

/-! Memory: a heap with the reservations on it, and what loading and storing through a pointer
does. -/
namespace HeapConsole

structure Memory where
  heap : Heap
  allocator : Allocator
deriving DecidableEq, Repr

namespace Memory

def ofSize (size : Nat) : Memory := ⟨.zeros size, .empty size⟩

def ofSize? (size : Int) : Option Memory := if 0 < size then some (ofSize size.toNat) else none

def malloc (memory : Memory) (size : Int) : Except Fault (Int × Memory) :=
  (memory.allocator.malloc size).map fun (address, allocator) =>
    (address, { memory with allocator := allocator })

def reset (memory : Memory) : Memory := ⟨memory.heap.clear, memory.allocator.reset⟩

def pointed : Pointee → UInt8 → Value
  | .int, byte => .int byte.toNat
  | .char, byte => .char byte

def load (memory : Memory) (address : Int) (type : DataType) : Except Fault Value := do
  let byte ← memory.heap.read address
  match type with
  | .pointer pointee => .ok (pointed pointee byte)
  | type => .error (.pointerType type)

/-- Coerces to int, writes the low byte, and gives the whole int; the address is checked first. -/
def store (memory : Memory) (address : Int) (result : Result) : Except Fault (Int × Memory) := do
  let _ ← memory.heap.index address
  let n ← result.toInt
  let heap ← memory.heap.storeInt address n
  return (n, { memory with heap := heap })

end Memory

end HeapConsole
