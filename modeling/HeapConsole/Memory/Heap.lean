import HeapConsole.Coercion

/-! The heap: a fixed number of bytes, each access of which is checked against the range. -/
namespace HeapConsole

structure Heap where
  bytes : Array UInt8
deriving DecidableEq, Repr

/-- What an integer is reduced to before it is stored: the remainder modulo 256, counted down from
256 where the integer is negative. -/
def wrapByte (value : Int) : Int :=
  if value < 0 then (256 - value.natAbs % 256) % 256 else value % 256

namespace Heap

def zeros (size : Nat) : Heap := ⟨Array.replicate size 0⟩

def size (heap : Heap) : Nat := heap.bytes.size

def index (heap : Heap) (address : Int) : Except Fault (Fin heap.bytes.size) :=
  if inside : 0 ≤ address ∧ address.toNat < heap.bytes.size then .ok ⟨address.toNat, inside.2⟩
  else .error (.addressRange address heap.size)

def read (heap : Heap) (address : Int) : Except Fault UInt8 := do
  let i ← heap.index address
  return heap.bytes[i]

def set (heap : Heap) (i : Fin heap.bytes.size) (byte : UInt8) : Heap :=
  ⟨heap.bytes.set i byte i.isLt⟩

/-- Writes an integer that has to be a byte; the address is checked first. -/
def write (heap : Heap) (address byte : Int) : Except Fault Heap := do
  let i ← heap.index address
  if 0 ≤ byte ∧ byte ≤ 255 then .ok (heap.set i (UInt8.ofNat byte.toNat))
  else .error (.byteRange byte)

def storeInt (heap : Heap) (address value : Int) : Except Fault Heap :=
  heap.write address (wrapByte value)

def clear (heap : Heap) : Heap := zeros heap.size

end Heap

end HeapConsole
