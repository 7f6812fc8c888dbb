import HeapConsole.Error.Fault

/-! Reservations of heap regions. A request takes the lowest gap that fits, and only a reset gives
regions back. -/
namespace HeapConsole

structure Region where
  start : Int
  size : Int
deriving DecidableEq, Repr

namespace Region

def stop (region : Region) : Int := region.start + region.size

def text (region : Region) : String :=
  "[" ++ Numeral.decimal region.start ++ ", " ++ Numeral.decimal region.stop ++ ")"

def before (left right : Region) : Bool :=
  left.start < right.start || (left.start == right.start && left.size < right.size)

/-- Inserts a region behind all that do not come after it. -/
def insert (region : Region) : List Region → List Region
  | [] => [region]
  | next :: rest =>
    if region.before next then region :: next :: rest else next :: region.insert rest

def total : List Region → Int
  | [] => 0
  | region :: rest => region.size + total rest

/-- The address at which a search from `cursor` finds room for `size` bytes: before the first
region that leaves a gap of that size, or behind the last one. -/
def gap (size : Int) (cursor : Int) : List Region → Int
  | [] => cursor
  | region :: rest => if size ≤ region.start - cursor then cursor else gap size region.stop rest

end Region

structure Allocator where
  capacity : Nat
  regions : List Region
deriving DecidableEq, Repr

namespace Allocator

def empty (capacity : Nat) : Allocator := ⟨capacity, []⟩

def reserved (allocator : Allocator) : Int := Region.total allocator.regions

def insert (allocator : Allocator) (region : Region) : Allocator :=
  { allocator with regions := region.insert allocator.regions }

def malloc (allocator : Allocator) (size : Int) : Except Fault (Int × Allocator) :=
  if size ≤ 0 then .error (.allocationSize size)
  else
    let address := Region.gap size 0 allocator.regions
    if allocator.capacity < address + size then
      .error (.outOfMemory size allocator.reserved allocator.capacity)
    else .ok (address, allocator.insert ⟨address, size⟩)

def reset (allocator : Allocator) : Allocator := { allocator with regions := [] }

end Allocator

end HeapConsole
