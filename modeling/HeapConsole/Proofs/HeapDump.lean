import HeapConsole.Proofs.Reentry

/-! The heap dump: a line for each row of bytes, with the address of the first of them in a column
of one width and each byte in a cell of one width. No number is wider than its column, so the bytes
can be read back from the text. -/
namespace HeapConsole

open Grammar

namespace Numeral

theorem value_zeros (base count : Nat) (digits : List Char) :
    value base (List.replicate count '0' ++ digits) = value base digits := by
  induction count with
  | zero => rfl
  | succ count ih =>
    have front : 0 * base + digitValue '0' = 0 := by rw [Nat.zero_mul]; rfl
    rw [← ih]
    simp only [value, List.replicate_succ, List.cons_append, List.foldl_cons, front]

theorem length_padLeft (width : Nat) (fill : Char) (digits : List Char)
    (fits : digits.length ≤ width) : (padLeft width fill digits).length = width := by
  rw [padLeft, List.length_append, List.length_replicate]
  omega

end Numeral

namespace Base

variable (base : Base)

theorem value_dumpDigits (n : Nat) : Numeral.value base.number (base.dumpDigits n) = n := by
  cases base with
  | decimal => exact Numeral.value_toDigits 10 n (by decide) (by decide)
  | hexadecimal => exact Numeral.value_upperHexDigits n

theorem several_dumpDigits (n : Nat) : Several Numeral.isHexDigit (base.dumpDigits n) := by
  cases base with
  | decimal =>
    obtain ⟨filled, digits⟩ := Numeral.several_toDigits n
    exact ⟨filled, fun c member => by simp [Numeral.isHexDigit, digits c member]⟩
  | hexadecimal => exact Numeral.several_upperHexDigits n

theorem length_dumpDigits_le_iff (n limit : Nat) (positive : 0 < limit) :
    (base.dumpDigits n).length ≤ limit ↔ n < Nat.pow base.number limit := by
  cases base with
  | decimal => exact Nat.length_toDigits_le_iff (by decide) positive
  | hexadecimal =>
    rw [dumpDigits, Numeral.upperHexDigits, List.length_map]
    exact Nat.length_toDigits_le_iff (by decide) positive

theorem length_dumpDigits_mono (m n : Nat) (le : m ≤ n) :
    (base.dumpDigits m).length ≤ (base.dumpDigits n).length := by
  have filled := List.length_pos_iff.mpr (base.several_dumpDigits n).1
  have bound := (base.length_dumpDigits_le_iff n _ filled).mp le_rfl
  exact (base.length_dumpDigits_le_iff m _ filled).mpr (Nat.lt_of_le_of_lt le bound)

theorem length_dumpNumber (width n : Nat) (fits : (base.dumpDigits n).length ≤ width) :
    (base.dumpNumber width n).length = width :=
  Numeral.length_padLeft width base.dumpFill (base.dumpDigits n) fits

theorem mem_dumpNumber (width n : Nat) (c : Char) (member : c ∈ base.dumpNumber width n) :
    c = ' ' ∨ Numeral.isHexDigit c = true := by
  rcases List.mem_append.mp member with padding | digit
  · rw [List.eq_of_mem_replicate padding]
    cases base with
    | decimal => exact .inl rfl
    | hexadecimal => exact .inr rfl
  · exact .inr ((base.several_dumpDigits n).2 c digit)

def cell (byte : UInt8) : List Char := base.dumpNumber base.cellWidth byte.toNat

theorem length_cell (byte : UInt8) : (base.cell byte).length = base.cellWidth := by
  have small := byte.toNat_lt
  have positive : 0 < base.cellWidth := by cases base <;> decide
  have fits : byte.toNat < Nat.pow base.number base.cellWidth := by
    cases base with
    | decimal => exact Nat.lt_trans small (by decide)
    | hexadecimal => exact small
  exact base.length_dumpNumber _ _ ((base.length_dumpDigits_le_iff _ _ positive).mpr fits)

/-- The number in a column, whatever it is filled up with. -/
def readNumber (column : List Char) : Nat :=
  Numeral.value base.number (column.dropWhile (· == ' '))

theorem dropWhile_blanks (count : Nat) (digits : List Char)
    (all : ∀ c ∈ digits, Numeral.isHexDigit c = true) :
    (List.replicate count ' ' ++ digits).dropWhile (· == ' ') = digits := by
  refine dropWhile_of_ends _ _ _ (by simp) fun c first => ?_
  have digit := all c (List.mem_of_mem_head? first)
  rw [beq_eq_false_iff_ne]
  rintro rfl
  cases digit

theorem readNumber_dumpNumber (width n : Nat) :
    base.readNumber (base.dumpNumber width n) = n := by
  have digits := (base.several_dumpDigits n).2
  have value := base.value_dumpDigits n
  rw [readNumber, dumpNumber, Numeral.padLeft]
  cases base with
  | decimal => rwa [dumpFill, dropWhile_blanks _ _ digits]
  | hexadecimal =>
    -- The zeros in front are digits themselves, and add nothing to the value.
    have padded (count : Nat) : ∀ c ∈ List.replicate count '0' ++ dumpDigits .hexadecimal n,
        Numeral.isHexDigit c = true := by
      intro c member
      rcases List.mem_append.mp member with zero | digit
      · rw [List.eq_of_mem_replicate zero]
        rfl
      · exact digits c digit
    have whole (count : Nat) :
        (List.replicate count '0' ++ dumpDigits .hexadecimal n).dropWhile (· == ' ') =
          List.replicate count '0' ++ dumpDigits .hexadecimal n :=
      dropWhile_blanks 0 _ (padded count)
    rwa [dumpFill, whole, Numeral.value_zeros]

end Base

namespace Dump

variable (base : Base) (width : Nat)

section rows

variable (data : List UInt8)

def rowBytes (k : Nat) : List UInt8 :=
  data.extract (k * width) (min ((k + 1) * width) data.length)

theorem rowBytes_eq (k : Nat) : rowBytes width data k = (data.drop (k * width)).take width := by
  rw [rowBytes, List.extract_eq_take_drop, List.take_eq_take_iff, List.length_drop, Nat.succ_mul]
  omega

theorem rowBytes_succ (k : Nat) :
    rowBytes width data (k + 1) = rowBytes width (data.drop width) k := by
  rw [rowBytes_eq, rowBytes_eq, List.drop_drop, Nat.succ_mul, Nat.add_comm]

theorem length_rowBytes (k : Nat) (full : (k + 1) * width ≤ data.length) :
    (rowBytes width data k).length = width := by
  rw [Nat.succ_mul] at full
  rw [rowBytes_eq, List.length_take, List.length_drop]
  omega

variable (wide : 0 < width)

include wide

theorem rows_of_filled (filled : data ≠ []) :
    rows width data = data.take width :: rows width (data.drop width) := by
  rw [rows, if_neg]
  simp [filled, Nat.ne_of_gt wide]

theorem length_rows : (rows width data).length = (data.length + (width - 1)) / width := by
  induction data using rows.induct width with
  | case1 data none =>
    have empty : data.length = 0 := none.resolve_right (Nat.ne_of_gt wide)
    rw [rows, if_pos none, empty, List.length_nil, Nat.div_eq_of_lt (by omega)]
  | case2 data some ih =>
    have filled : data.length ≠ 0 := fun empty => some (.inl empty)
    rw [rows, if_neg some, List.length_cons, ih, List.length_drop]
    by_cases long : width ≤ data.length
    · rw [← Nat.add_div_right _ wide]
      congr 1
      omega
    · have rest : data.length - width + (width - 1) = width - 1 := by omega
      have here : data.length + (width - 1) = data.length - 1 + width := by omega
      rw [rest, here, Nat.add_div_right _ wide, Nat.div_eq_of_lt (by omega),
        Nat.div_eq_of_lt (by omega)]

theorem getElem?_rows (k : Nat) (bytes : List UInt8) (found : (rows width data)[k]? = some bytes) :
    bytes = rowBytes width data k := by
  induction k generalizing data with
  | zero =>
    by_cases empty : data = []
    · rw [empty, rows, if_pos (.inl rfl)] at found
      cases found
    · rw [rows_of_filled width data wide empty] at found
      rw [rowBytes_eq, Nat.zero_mul, List.drop_zero]
      exact (Option.some.inj found).symm
  | succ k ih =>
    by_cases empty : data = []
    · rw [empty, rows, if_pos (.inl rfl)] at found
      cases found
    · rw [rows_of_filled width data wide empty, List.getElem?_cons_succ] at found
      rw [rowBytes_succ]
      exact ih (data.drop width) found

theorem flatten_rows : (rows width data).flatten = data := by
  induction data using rows.induct width with
  | case1 data none =>
    rw [rows, if_pos none, List.length_eq_zero_iff.mp (none.resolve_right (Nat.ne_of_gt wide))]
    rfl
  | case2 data some ih => rw [rows, if_neg some, List.flatten_cons, ih, List.take_append_drop]

end rows

def cells (bytes : List UInt8) : List Char := [' '].intercalate (bytes.map base.cell)

theorem cells_cons (byte next : UInt8) (rest : List UInt8) :
    cells base (byte :: next :: rest) = base.cell byte ++ ' ' :: cells base (next :: rest) := by
  simp [cells, List.intercalate_cons_cons]

theorem length_cells (bytes : List UInt8) (filled : bytes ≠ []) :
    (cells base bytes).length + 1 = bytes.length * (base.cellWidth + 1) := by
  induction bytes with
  | nil => exact absurd rfl filled
  | cons byte rest ih =>
    cases rest with
    | nil => simp [cells, base.length_cell]
    | cons next rest =>
      have later := ih (List.cons_ne_nil _ _)
      rw [List.length_cons, Nat.succ_mul, ← later, cells_cons, List.length_append, base.length_cell,
        List.length_cons]
      omega

theorem mem_cells (bytes : List UInt8) (c : Char) (member : c ∈ cells base bytes) :
    c = ' ' ∨ Numeral.isHexDigit c = true := by
  induction bytes with
  | nil => cases member
  | cons byte rest ih =>
    cases rest with
    | nil =>
      rw [cells, List.map_singleton, List.intercalate_singleton] at member
      exact base.mem_dumpNumber _ _ c member
    | cons next rest =>
      rw [cells_cons] at member
      rcases List.mem_append.mp member with here | behind
      · exact base.mem_dumpNumber _ _ c here
      · rcases List.mem_cons.mp behind with blank | later
        · exact .inl blank
        · exact ih later

/-- Reads cell after cell, each with the blank behind it. -/
def readCells (text : List Char) : List UInt8 :=
  if text = [] then []
  else UInt8.ofNat (base.readNumber (text.take base.cellWidth)) ::
    readCells (text.drop (base.cellWidth + 1))
termination_by text.length
decreasing_by
  have filled : 0 < text.length := List.length_pos_iff.mpr ‹_›
  rw [List.length_drop]
  omega

theorem readCells_nil : readCells base [] = [] := by rw [readCells, if_pos rfl]

theorem readCells_cell (byte : UInt8) (rest : List Char) :
    readCells base (base.cell byte ++ rest) = byte :: readCells base (rest.drop 1) := by
  have filled : base.cell byte ++ rest ≠ [] := by
    intro empty
    have none := congrArg List.length (List.append_eq_nil_iff.mp empty).1
    rw [base.length_cell] at none
    cases base <;> cases none
  have behind : (base.cell byte ++ rest).drop (base.cellWidth + 1) = rest.drop 1 := by
    rw [← base.length_cell byte, List.drop_append]
    simp
  rw [readCells, if_neg filled, behind, List.take_left' (base.length_cell byte)]
  rw [Base.cell, base.readNumber_dumpNumber, UInt8.ofNat_toNat]

theorem readCells_cells (bytes : List UInt8) : readCells base (cells base bytes) = bytes := by
  induction bytes with
  | nil => exact readCells_nil base
  | cons byte rest ih =>
    cases rest with
    | nil =>
      have last := readCells_cell base byte []
      rw [List.append_nil, List.drop_nil, readCells_nil] at last
      rwa [cells, List.map_singleton, List.intercalate_singleton]
    | cons next rest => rw [cells_cons, readCells_cell, List.drop_one, List.tail_cons, ih]

section lines

variable (data : List UInt8)

def address (k : Nat) : List Char :=
  base.dumpNumber (addressWidth base data.length) (k * width)

/-- What the line is made of. Neither the address nor a byte is wider than its column, so that full
lines are equally long. -/
structure IsLine (k : Nat) (line : List Char) : Prop where
  spelled : line =
    address base width data k ++ ':' :: ' ' :: cells base (rowBytes width data k)
  addressed : base.readNumber (address base width data k) = k * width
  aligned : (address base width data k).length = addressWidth base data.length
  even : ∀ byte ∈ rowBytes width data k, (base.cell byte).length = base.cellWidth
  full : (k + 1) * width ≤ data.length →
    line.length + 1 = addressWidth base data.length + 2 + width * (base.cellWidth + 1)

theorem toList_row (column place : Nat) (bytes : List UInt8) :
    (row base column place bytes).toList =
      base.dumpNumber column place ++ ':' :: ' ' :: cells base bytes := by
  have each : (bytes.map fun byte => String.ofList (base.cell byte)).map String.toList =
      bytes.map base.cell := by
    simp
  have spelled : (row base column place bytes).toList =
      base.dumpNumber column place ++ [':', ' '] ++
        [' '].intercalate ((bytes.map fun byte => String.ofList (base.cell byte)).map
          String.toList) := by
    rw [row, String.toList_append, String.toList_append, String.toList_ofList,
      String.toList_intercalate]
    rfl
  rw [spelled, each, List.append_assoc]
  rfl

/-- The bytes of a line, which stand behind the address, a colon and a blank. -/
def readLine (line : List Char) : List UInt8 :=
  readCells base ((line.dropWhile (· != ':')).drop 2)

theorem readLine_row (column place : Nat) (bytes : List UInt8) :
    readLine base (row base column place bytes).toList = bytes := by
  have before : ∀ c ∈ base.dumpNumber column place, (c != ':') = true := by
    intro c member
    rw [bne_iff_ne]
    rintro rfl
    rcases base.mem_dumpNumber column place _ member with blank | digit
    · cases blank
    · cases digit
  rw [readLine, toList_row, dropWhile_of_ends _ _ _ before fun c first => ?_]
  · exact readCells_cells base bytes
  · cases first
    rfl

theorem newline_not_mem_row (column place : Nat) (bytes : List UInt8) :
    '\n' ∉ (row base column place bytes).toList := by
  have other : ¬ ('\n' = ' ' ∨ Numeral.isHexDigit '\n' = true) := by decide
  rw [toList_row]
  intro member
  rcases List.mem_append.mp member with front | behind
  · exact other (base.mem_dumpNumber _ _ _ front)
  · simp only [List.mem_cons, Char.reduceEq, false_or] at behind
    exact other (mem_cells base bytes _ behind)

theorem getElem?_lines (wide : 0 < width) (k : Nat) (line : String)
    (found : (lines base width data)[k]? = some line) :
    line = row base (addressWidth base data.length) (k * width) (rowBytes width data k) := by
  rw [lines, List.getElem?_map, List.getElem?_zipIdx, Option.map_map] at found
  obtain ⟨bytes, inside, same⟩ := Option.map_eq_some_iff.mp found
  rw [← getElem?_rows width data wide k bytes inside, ← same]
  simp

/-- The address of a line stands before the last one, so it has no more digits. -/
theorem isLine_row (wide : 0 < width) (k : Nat) (inside : k * width < data.length) :
    IsLine base width data k
      (row base (addressWidth base data.length) (k * width) (rowBytes width data k)).toList := by
  have aligned : (address base width data k).length = addressWidth base data.length :=
    base.length_dumpNumber _ _ (base.length_dumpDigits_mono _ _ (by omega))
  refine ⟨toList_row base _ _ _, base.readNumber_dumpNumber _ _, aligned,
    fun byte _ => base.length_cell byte, fun full => ?_⟩
  have size := length_rowBytes width data k full
  have filled : rowBytes width data k ≠ [] := List.length_pos_iff.mp (by rwa [size])
  have row := length_cells base (rowBytes width data k) filled
  rw [size] at row
  rw [toList_row, List.length_append, show (base.dumpNumber _ _).length = _ from aligned,
    List.length_cons, List.length_cons]
  omega

theorem splitOn_text (wide : 0 < width) (filled : data ≠ []) :
    ("\n".intercalate (lines base width data)).toList.splitOn '\n' =
      (lines base width data).map String.toList := by
  have several : (lines base width data).map String.toList ≠ [] := by
    simp [lines, rows_of_filled width data wide filled]
  rw [String.toList_intercalate]
  refine List.splitOn_intercalate '\n' (fun line member => ?_) several
  simp only [lines, List.map_map, List.mem_map] at member
  obtain ⟨⟨bytes, k⟩, _, rfl⟩ := member
  exact newline_not_mem_row base _ _ bytes

def read (text : String) : List UInt8 := (text.toList.splitOn '\n').flatMap (readLine base)

theorem map_readLine_lines :
    ((lines base width data).map String.toList).map (readLine base) = rows width data := by
  have kept (entry : List UInt8 × Nat) : readLine base
      (row base (addressWidth base data.length) (entry.2 * width) entry.1).toList = entry.1 :=
    readLine_row base _ _ entry.1
  calc ((lines base width data).map String.toList).map (readLine base)
      _ = (rows width data).zipIdx.map Prod.fst := by
        rw [lines, List.map_map, List.map_map]
        exact List.map_congr_left fun entry _ => kept entry
      _ = rows width data := List.zipIdx_map_fst 0 (rows width data)

theorem read_text (wide : 0 < width) :
    read base ("\n".intercalate (lines base width data)) = data := by
  by_cases filled : data = []
  · have blank : readLine base [] = [] := readCells_nil base
    rw [filled, lines, rows, if_pos (.inl rfl)]
    simp [read, blank]
  · rw [read, splitOn_text base width data wide filled, List.flatMap_def, map_readLine_lines]
    exact flatten_rows width data wide

end lines

/-- A dump has a line for every row that the bytes begin, each line is made up of the address of
its first byte and of the cells of its bytes, all of fitting width, and the bytes can be read back.
It is what a console with these bytes in its heap shows. -/
theorem aligned_and_readable (data : List UInt8) (wide : 0 < width) (filled : data ≠ []) :
    ∃ text, text? base width data = some text ∧
      (text.toList.splitOn '\n').length = (data.length + (width - 1)) / width ∧
      (∀ k line, (text.toList.splitOn '\n')[k]? = some line → IsLine base width data k line) ∧
      read base text = data ∧
      (∀ other, text? base width other = some text → other = data) ∧
      ∀ console : Console, console.machine.base = base →
        console.machine.memory.heap.bytes.toList = data → console.heapDump? width = some text := by
  have shown (bytes : List UInt8) :
      text? base width bytes = some ("\n".intercalate (lines base width bytes)) := by
    rw [text?, if_neg (by omega), Int.toNat_natCast]
  have split := splitOn_text base width data wide filled
  refine ⟨_, shown data, ?_, fun k line found => ?_, read_text base width data wide, ?_, ?_⟩
  · rw [split, List.length_map, lines, List.length_map, List.length_zipIdx,
      length_rows width data wide]
  · rw [split, List.getElem?_map] at found
    obtain ⟨spelled, there, rfl⟩ := Option.map_eq_some_iff.mp found
    have inside : k < (rows width data).length := by
      have bound := (List.getElem?_eq_some_iff.mp there).1
      simpa [lines] using bound
    rw [length_rows width data wide] at inside
    rw [getElem?_lines base width data wide k spelled there]
    refine isLine_row base width data wide k ?_
    have below := (Nat.le_div_iff_mul_le wide).mp inside
    rw [Nat.succ_mul] at below
    omega
  · intro other same
    rw [shown] at same
    rw [← read_text base width other wide, Option.some.inj same, read_text base width data wide]
  · rintro console rfl rfl
    exact shown _

theorem aligned_and_readable_of_seventeen_bytes :
    let data := (List.range 17).map UInt8.ofNat
    let text := "00: 00 01 02 03 04 05 06 07\n08: 08 09 0A 0B 0C 0D 0E 0F\n10: 10"
    0 < 8 ∧ data ≠ [] ∧ text? .hexadecimal 8 data = some text ∧
      (text.toList.splitOn '\n').length = 3 ∧ read .hexadecimal text = data := by
  intro data text
  have filled : data ≠ [] := by decide
  have shown : text? .hexadecimal (8 : Nat) data = some text := by decide +kernel
  obtain ⟨found, same, count, _, readable, _⟩ :=
    aligned_and_readable .hexadecimal 8 data (by decide) filled
  rw [shown] at same
  cases same
  exact ⟨by decide, filled, shown, count.trans (by decide), readable⟩

end Dump

end HeapConsole
