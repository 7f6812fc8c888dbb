import HeapConsole.Memory.Operation
import Mathlib.Data.Int.ConditionallyCompleteOrder
import Mathlib.Order.CompletePartialOrder
import Mathlib.Order.ConditionallyCompleteLattice.Basic
import Mathlib.Order.Interval.Set.Disjoint

/-! First fit on any reservations, gaps between them included. The search moves a cursor from region
to region and stays at the first gap that is wide enough; no address below it has room, so a request
is refused only when there is no room anywhere. -/
namespace HeapConsole

namespace Region

def span (region : Region) : Set Int := Set.Ico region.start region.stop

/-- Regions of at least one byte, in the order of their starts, which lie within the capacity and
have no address in common. -/
structure Orderly (capacity : Int) (regions : List Region) : Prop where
  sorted : regions.Pairwise fun left right => left.start ≤ right.start
  apart : regions.Pairwise fun left right => Disjoint left.span right.span
  positive : ∀ region ∈ regions, 0 < region.size
  inside : ∀ region ∈ regions, region.span ⊆ Set.Ico 0 capacity

/-- The addresses at which `size` bytes lie within the capacity and meet no region. -/
def room (capacity size : Int) (regions : List Region) : Set Int :=
  {address | span ⟨address, size⟩ ⊆ Set.Ico 0 capacity ∧
    ∀ region ∈ regions, Disjoint (span ⟨address, size⟩) region.span}

theorem disjoint_span_iff (left right : Region) (leftPositive : 0 < left.size)
    (rightPositive : 0 < right.size) :
    Disjoint left.span right.span ↔ left.stop ≤ right.start ∨ right.stop ≤ left.start := by
  unfold span
  rw [Set.Ico_disjoint_Ico]
  unfold stop
  omega

theorem span_subset_iff (capacity : Int) (region : Region) (positive : 0 < region.size) :
    region.span ⊆ Set.Ico 0 capacity ↔ 0 ≤ region.start ∧ region.stop ≤ capacity := by
  have filled : region.start < region.stop := by
    unfold stop
    omega
  exact Set.Ico_subset_Ico_iff filled

/-- Regions of at least one byte that stand one behind another between two addresses, with gaps or
without. -/
def Lined : Int → List Region → Int → Prop
  | first, [], last => first ≤ last
  | first, region :: rest, last => first ≤ region.start ∧ 0 < region.size ∧ Lined region.stop rest last

theorem lined_of_orderly (capacity first : Int) (regions : List Region)
    (orderly : Orderly capacity regions) (start : ∀ region ∈ regions, first ≤ region.start)
    (room : first ≤ capacity) : Lined first regions capacity := by
  induction regions generalizing first with
  | nil => exact room
  | cons region rest ih =>
    obtain ⟨after, sorted⟩ := List.pairwise_cons.mp orderly.sorted
    obtain ⟨apart, others⟩ := List.pairwise_cons.mp orderly.apart
    have positive := orderly.positive region List.mem_cons_self
    have inside := (span_subset_iff capacity region positive).mp
      (orderly.inside region List.mem_cons_self)
    have tail : Orderly capacity rest := by
      refine ⟨sorted, others, fun other member => ?_, fun other member => ?_⟩
      · exact orderly.positive other (List.mem_cons_of_mem _ member)
      · exact orderly.inside other (List.mem_cons_of_mem _ member)
    refine ⟨start region List.mem_cons_self, positive, ih region.stop tail ?_ inside.2⟩
    intro other member
    have behind := after other member
    have solid := tail.positive other member
    have sides := (disjoint_span_iff region other positive solid).mp (apart other member)
    unfold stop at sides ⊢
    omega

theorem Orderly.lined {capacity : Int} {regions : List Region} (orderly : Orderly capacity regions)
    (bounded : 0 ≤ capacity) : Lined 0 regions capacity := by
  refine lined_of_orderly capacity 0 regions orderly (fun region member => ?_) bounded
  have positive := orderly.positive region member
  exact ((span_subset_iff capacity region positive).mp (orderly.inside region member)).1

theorem Lined.start_ge (first last : Int) (regions : List Region) (lined : Lined first regions last)
    (region : Region) (member : region ∈ regions) : first ≤ region.start := by
  induction regions generalizing first with
  | nil => cases member
  | cons head rest ih =>
    obtain ⟨start, positive, tail⟩ := lined
    rcases List.mem_cons.mp member with rfl | inside
    · exact start
    · have behind := ih head.stop tail inside
      unfold stop at behind
      omega

theorem Lined.total_le (first last : Int) (regions : List Region) (lined : Lined first regions last) :
    0 ≤ total regions ∧ first + total regions ≤ last := by
  induction regions generalizing first with
  | nil =>
    rw [Lined] at lined
    unfold total
    omega
  | cons region rest ih =>
    obtain ⟨start, positive, tail⟩ := lined
    have behind := ih region.stop tail
    unfold stop at behind
    unfold total
    omega

/-- The bytes from an address on stand before or behind each of the regions. -/
def Avoids (size : Int) (regions : List Region) (address : Int) : Prop :=
  ∀ region ∈ regions, address + size ≤ region.start ∨ region.stop ≤ address

theorem mem_room_iff (capacity size address : Int) (regions : List Region) (positive : 0 < size)
    (solid : ∀ region ∈ regions, 0 < region.size) :
    address ∈ room capacity size regions ↔
      0 ≤ address ∧ address + size ≤ capacity ∧ Avoids size regions address := by
  have within := span_subset_iff capacity ⟨address, size⟩ positive
  have clear : (∀ region ∈ regions, Disjoint (span ⟨address, size⟩) region.span) ↔
      Avoids size regions address := by
    refine forall₂_congr fun region member => ?_
    exact disjoint_span_iff ⟨address, size⟩ region positive (solid region member)
  exact (and_congr within clear).trans and_assoc

/-- The search ends at the least address from the cursor on at which the bytes avoid the regions. -/
theorem isLeast_gap (size cursor last : Int) (regions : List Region)
    (lined : Lined cursor regions last) :
    IsLeast {address | cursor ≤ address ∧ Avoids size regions address} (gap size cursor regions) := by
  induction regions generalizing cursor with
  | nil => exact ⟨⟨Int.le_refl cursor, nofun⟩, fun address above => above.1⟩
  | cons region rest ih =>
    obtain ⟨start, solid, tail⟩ := lined
    have below : cursor ≤ region.stop := by
      unfold stop
      omega
    rw [gap]
    split
    · rename_i wide
      refine ⟨⟨Int.le_refl cursor, fun other member => .inl ?_⟩, fun address above => above.1⟩
      rcases List.mem_cons.mp member with rfl | inside
      · omega
      · have behind := Lined.start_ge region.stop last rest tail other inside
        unfold stop at behind
        omega
    · rename_i narrow
      obtain ⟨⟨behind, avoids⟩, least⟩ := ih region.stop tail
      refine ⟨⟨?_, fun other member => ?_⟩, fun address above => ?_⟩
      · exact Int.le_trans below behind
      · rcases List.mem_cons.mp member with rfl | inside
        · exact .inr behind
        · exact avoids other inside
      · -- In front of the region the gap is too narrow, so the bytes stand behind it.
        have past : region.stop ≤ address := by
          have sides := above.2 region List.mem_cons_self
          have low := above.1
          omega
        exact least ⟨past, fun other member => above.2 other (List.mem_cons_of_mem _ member)⟩

theorem perm_insert (region : Region) (regions : List Region) :
    (region.insert regions).Perm (region :: regions) := by
  induction regions with
  | nil => exact .refl _
  | cons next rest ih =>
    rw [Region.insert]
    split
    · exact .refl _
    · exact (ih.cons next).trans (.swap region next rest)

theorem sorted_insert (region : Region) (regions : List Region)
    (sorted : regions.Pairwise fun left right => left.start ≤ right.start) :
    (region.insert regions).Pairwise fun left right => left.start ≤ right.start := by
  induction regions with
  | nil => exact List.pairwise_singleton _ region
  | cons next rest ih =>
    obtain ⟨after, tail⟩ := List.pairwise_cons.mp sorted
    rw [Region.insert]
    by_cases first : region.before next = true
    · rw [if_pos first]
      have lower : region.start ≤ next.start := by
        simp only [before, Bool.or_eq_true, decide_eq_true_eq, Bool.and_eq_true, beq_iff_eq] at first
        omega
      refine .cons (fun other member => ?_) sorted
      rcases List.mem_cons.mp member with rfl | inside
      · exact lower
      · exact Int.le_trans lower (after other inside)
    · rw [if_neg first]
      have upper : next.start ≤ region.start := by
        simp only [before, Bool.or_eq_true, decide_eq_true_eq, Bool.and_eq_true, beq_iff_eq] at first
        omega
      refine .cons (fun other member => ?_) (ih tail)
      rcases List.mem_cons.mp ((perm_insert region rest).mem_iff.mp member) with rfl | inside
      · exact upper
      · exact after other inside

theorem orderly_insert (capacity size address : Int) (regions : List Region)
    (orderly : Orderly capacity regions) (positive : 0 < size)
    (fits : address ∈ room capacity size regions) :
    Orderly capacity (Region.insert ⟨address, size⟩ regions) := by
  have permuted := perm_insert ⟨address, size⟩ regions
  constructor
  · exact sorted_insert ⟨address, size⟩ regions orderly.sorted
  · have symmetric {left right : Region} (apart : Disjoint left.span right.span) :
        Disjoint right.span left.span := apart.symm
    exact (permuted.pairwise_iff symmetric).mpr (.cons fits.2 orderly.apart)
  · intro region member
    rcases List.mem_cons.mp (permuted.mem_iff.mp member) with rfl | old
    · exact positive
    · exact orderly.positive region old
  · intro region member
    rcases List.mem_cons.mp (permuted.mem_iff.mp member) with rfl | old
    · exact fits.1
    · exact orderly.inside region old

/-- Either the search has found the least address with room, or there is no room. -/
theorem room_of_gap (capacity size : Int) (regions : List Region)
    (orderly : Orderly capacity regions) (bounded : 0 ≤ capacity) (positive : 0 < size) :
    if capacity < gap size 0 regions + size then room capacity size regions = ∅
    else IsLeast (room capacity size regions) (gap size 0 regions) := by
  obtain ⟨⟨above, avoids⟩, least⟩ := isLeast_gap size 0 capacity regions
    (orderly.lined bounded)
  have fits (address : Int) := mem_room_iff capacity size address regions positive orderly.positive
  split
  · rename_i full
    refine Set.eq_empty_iff_forall_notMem.mpr fun address member => ?_
    obtain ⟨low, high, clear⟩ := (fits address).mp member
    have lowest : gap size 0 regions ≤ address := least ⟨low, clear⟩
    omega
  · rename_i enough
    refine ⟨(fits _).mpr ⟨above, Int.not_lt.mp enough, avoids⟩, fun address member => ?_⟩
    obtain ⟨low, _, clear⟩ := (fits address).mp member
    exact least ⟨low, clear⟩

end Region

namespace Memory

/-- What a request for `size` bytes is answered, and what it makes of the memory. -/
structure FirstFit (size : Int) (before : Memory) (answer : Except Fault Answer) (after : Memory) :
    Prop where
  granted : ∀ address, answer = .ok (.number address) ↔
    0 < size ∧ IsLeast (Region.room before.allocator.capacity size before.allocator.regions) address
  reserved : ∀ address, answer = .ok (.number address) →
    after.heap = before.heap ∧ after.allocator.capacity = before.allocator.capacity ∧
      after.allocator.regions.Perm (⟨address, size⟩ :: before.allocator.regions) ∧
      Region.Orderly before.allocator.capacity after.allocator.regions
  exhausted : (∃ fault, answer = .error fault ∧ fault.code = .outOfMemory) ↔
    0 < size ∧ Region.room before.allocator.capacity size before.allocator.regions = ∅
  invalid : (∃ fault, answer = .error fault ∧ fault.code = .invalidArgument) ↔ size ≤ 0
  unchanged : ∀ fault, answer = .error fault → after = before
  -- The fault can be told, unless the numbers in it are too long to be written.
  legible : Numeral.Writable size → Numeral.Writable before.allocator.capacity →
    ∀ fault, answer = .error fault → Failure.of fault = .fault fault

theorem apply_malloc (memory : Memory) (size : Int) :
    let address := Region.gap size 0 memory.allocator.regions
    memory.apply (.malloc size) =
      if size ≤ 0 then (.error (.allocationSize size), memory)
      else if memory.allocator.capacity < address + size then
        (.error (.outOfMemory size memory.allocator.reserved memory.allocator.capacity), memory)
      else (.ok (.number address),
        { memory with allocator := memory.allocator.insert ⟨address, size⟩ }) := by
  intro address
  unfold apply attempt Memory.malloc Allocator.malloc
  by_cases small : size ≤ 0
  · simp only [small, if_true, Except.map]
  · by_cases full : (memory.allocator.capacity : Int) < address + size
    · simp only [small, if_false, address, full, if_true, Except.map]
    · simp only [small, if_false, address, full, Except.map]

theorem legible_outOfMemory (size capacity : Int) (regions : List Region)
    (orderly : Region.Orderly capacity regions) (bounded : 0 ≤ capacity)
    (short : Numeral.Writable size) (small : Numeral.Writable capacity) :
    Failure.of (.outOfMemory size (Region.total regions) capacity) =
      .fault (.outOfMemory size (Region.total regions) capacity) := by
  have sum := Region.Lined.total_le 0 capacity regions (orderly.lined bounded)
  have reserved : Numeral.Writable (Region.total regions) := by
    unfold Numeral.Writable at small ⊢
    omega
  refine if_pos fun n member => ?_
  simp only [Fault.integers, List.mem_cons, List.not_mem_nil, or_false] at member
  rcases member with rfl | rfl | rfl
  · exact short
  · exact reserved
  · exact small

/-- On any orderly reservations a request takes the least address at which it fits, and fails for
want of memory exactly when it fits nowhere. -/
theorem malloc_first_fit (memory : Memory) (size : Int)
    (orderly : Region.Orderly memory.allocator.capacity memory.allocator.regions) :
    FirstFit size memory (memory.apply (.malloc size)).1 (memory.apply (.malloc size)).2 := by
  rw [apply_malloc]
  have bounded : (0 : Int) ≤ memory.allocator.capacity := Int.natCast_nonneg _
  by_cases small : size ≤ 0
  · rw [if_pos small]
    have nothing : ¬ 0 < size := by omega
    refine ⟨?_, nofun, ?_, ?_, fun _ _ => rfl, fun short _ fault failed => ?_⟩
    · simp [nothing]
    · simp [nothing, Fault.code]
    · simp [small, Fault.code]
    · cases failed
      exact if_pos (by simpa [Fault.integers] using short)
  · have positive : 0 < size := by omega
    have search := Region.room_of_gap memory.allocator.capacity size memory.allocator.regions
      orderly bounded positive
    rw [if_neg small]
    by_cases full : (memory.allocator.capacity : Int) <
        Region.gap size 0 memory.allocator.regions + size
    · rw [if_pos full] at search ⊢
      refine ⟨?_, nofun, ?_, ?_, fun _ _ => rfl, fun short capacity fault failed => ?_⟩
      · simp [search, IsLeast]
      · simp [search, positive, Fault.code]
      · simp [small, Fault.code]
      · cases failed
        exact legible_outOfMemory size _ _ orderly bounded short capacity
    · rw [if_neg full] at search ⊢
      refine ⟨fun address => ?_, fun address granted => ?_, ?_, ?_, fun fault failed => ?_,
        fun _ _ fault failed => ?_⟩
      · constructor
        · intro granted
          cases granted
          exact ⟨positive, search⟩
        · rintro ⟨_, least⟩
          rw [search.unique least]
      · cases granted
        have kept := Region.orderly_insert _ size _ _ orderly positive search.1
        exact ⟨rfl, rfl, Region.perm_insert _ _, kept⟩
      · have some : (Region.room memory.allocator.capacity size memory.allocator.regions) ≠ ∅ :=
          Set.nonempty_iff_ne_empty.mp ⟨_, search.1⟩
        simp [some]
      · simp [small]
      · cases failed
      · cases failed

/-- Three bytes pass over the gaps at 0 and 5, two take the first of them. -/
theorem first_fit_between_regions :
    let memory : Memory := ⟨.zeros 12, 12, [⟨2, 3⟩, ⟨7, 2⟩]⟩
    Region.Orderly memory.allocator.capacity memory.allocator.regions ∧
      IsLeast (Region.room 12 3 [⟨2, 3⟩, ⟨7, 2⟩]) 9 ∧
      IsLeast (Region.room 12 2 [⟨2, 3⟩, ⟨7, 2⟩]) 0 ∧
      Region.room 12 4 [⟨2, 3⟩, ⟨7, 2⟩] = ∅ := by
  intro memory
  have orderly : Region.Orderly memory.allocator.capacity memory.allocator.regions := by
    have apart : Disjoint (Region.span ⟨2, 3⟩) (Region.span ⟨7, 2⟩) :=
      (Region.disjoint_span_iff _ _ (by decide) (by decide)).mpr (.inl (by decide))
    refine ⟨by decide, .cons (by simpa using apart) (List.pairwise_singleton _ _), by decide, ?_⟩
    intro region member
    have bounds : ∀ region ∈ memory.allocator.regions,
        0 < region.size ∧ 0 ≤ region.start ∧ region.stop ≤ 12 := by decide
    exact (Region.span_subset_iff 12 region (bounds region member).1).mpr (bounds region member).2
  have three := (malloc_first_fit memory 3 orderly).granted 9
  have two := (malloc_first_fit memory 2 orderly).granted 0
  have four := (malloc_first_fit memory 4 orderly).exhausted
  exact ⟨orderly, (three.mp (by decide +kernel)).2, (two.mp (by decide +kernel)).2,
    (four.mp ⟨_, rfl, rfl⟩).2⟩

end Memory

end HeapConsole
