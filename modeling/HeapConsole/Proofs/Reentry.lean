import HeapConsole.Proofs.Grammar.Completeness
import HeapConsole.Proofs.Transcript

/-! What the console shows of an integer, a string or a pointer can be entered again, and gives the
value that was shown. -/
namespace HeapConsole

open Grammar Text

namespace Numeral

theorem upperHexDigits_of_lt (n : Nat) (small : n < 16) :
    upperHexDigits n = [n.digitChar.toUpper] := by
  rw [upperHexDigits, Nat.toDigits_of_lt_base small]
  rfl

theorem upperHexDigits_append (n digit : Nat) (positive : 0 < n) (small : digit < 16) :
    upperHexDigits (16 * n + digit) = upperHexDigits n ++ [digit.digitChar.toUpper] := by
  have last := Nat.toDigits_append_toDigits (by decide : 1 < 16) positive small
  rw [upperHexDigits, ← last, List.map_append]
  exact congrArg _ (upperHexDigits_of_lt digit small)

theorem digitValue_toUpper (digit : Nat) (small : digit < 16) :
    digitValue digit.digitChar.toUpper = digit := by
  revert digit
  decide

theorem isHexDigit_toUpper (digit : Nat) (small : digit < 16) :
    isHexDigit digit.digitChar.toUpper = true := by
  revert digit
  decide

theorem value_upperHexDigits (n : Nat) : value 16 (upperHexDigits n) = n := by
  -- Digit by digit from the last one, since upper case changes digits one at a time.
  induction n using Nat.base_induction 16 (by decide) with
  | single m below =>
    rw [upperHexDigits_of_lt m below]
    simpa [value] using digitValue_toUpper m below
  | digit m k below positive ih =>
    rw [upperHexDigits_append m k positive below, value_append, ih, digitValue_toUpper k below,
      Nat.mul_comm]

theorem several_upperHexDigits (n : Nat) : Several isHexDigit (upperHexDigits n) := by
  induction n using Nat.base_induction 16 (by decide) with
  | single m below =>
    rw [upperHexDigits_of_lt m below]
    exact ⟨by simp, by simpa using isHexDigit_toUpper m below⟩
  | digit m k below positive ih =>
    rw [upperHexDigits_append m k positive below]
    refine ⟨by simp, fun c member => ?_⟩
    rcases List.mem_append.mp member with inside | last
    · exact ih.2 c inside
    · rw [List.mem_singleton.mp last]
      exact isHexDigit_toUpper k below

theorem toList_sign_append (n : Int) (text : String) :
    (sign n ++ text).toList = withSign (decide (n < 0)) text.toList := by
  unfold sign withSign
  split <;> simp_all

theorem toList_decimal (n : Int) :
    (decimal n).toList = withSign (decide (n < 0)) (Nat.toDigits 10 n.natAbs) := by
  rw [decimal, toList_sign_append]
  simp [Nat.toString_eq_repr, Nat.repr]

theorem toList_hexadecimal (n : Int) :
    (hexadecimal n).toList =
      withSign (decide (n < 0)) ('0' :: 'x' :: upperHexDigits n.natAbs) := by
  rw [hexadecimal, String.append_assoc, toList_sign_append]
  simp

end Numeral

namespace Literal

theorem spelledAs_decimal (n : Int) (short : Numeral.Writable n) :
    (int n).SpelledAs (Numeral.decimal n).toList := by
  have few := Numeral.length_toDigits_le n.natAbs Numeral.maxDigits (by decide) short
  have spelled := SpelledAs.decimal (decide (n < 0)) _ (Numeral.several_toDigits n.natAbs) few
  rw [Numeral.value_toDigits 10 _ (by decide) (by decide), Numeral.signed_natAbs] at spelled
  rwa [Numeral.toList_decimal]

theorem spelledAs_hexadecimal (n : Int) : (int n).SpelledAs (Numeral.hexadecimal n).toList := by
  have spelled := SpelledAs.hexadecimal (decide (n < 0)) 'x' _ rfl
    (Numeral.several_upperHexDigits n.natAbs)
  rw [Numeral.value_upperHexDigits, Numeral.signed_natAbs] at spelled
  rwa [Numeral.toList_hexadecimal]

/-- Where the decimal numeral would be too long to be read, the other one is shown. -/
theorem spelledAs_showInt (base : Base) (n : Int) : (int n).SpelledAs (base.showInt n).toList := by
  cases base with
  | hexadecimal => exact spelledAs_hexadecimal n
  | decimal =>
    by_cases short : Numeral.Writable n
    · simp only [Base.showInt, if_pos short]
      exact spelledAs_decimal n short
    · simp only [Base.showInt, if_neg short]
      exact spelledAs_hexadecimal n

theorem denotes_escapeShown (c : Char) : Denotes quotationMark (escapeShown c) c := by
  unfold escapeShown
  split
  · next special =>
    refine .inr ⟨c, rfl, ?_⟩
    rcases special with rfl | rfl <;> rfl
  · next plain =>
    rw [not_or] at plain
    exact .inl ⟨rfl, plain.2, plain.1⟩

theorem spelledAs_showString (text : String) : (string text).SpelledAs (showString text).toList := by
  have each : List.Forall₂ (Denotes quotationMark) (text.toList.map escapeShown) text.toList := by
    rw [List.forall₂_map_left_iff, List.forall₂_same]
    exact fun c _ => denotes_escapeShown c
  rw [showString, String.toList_ofList, List.flatMap_def]
  exact .string text _ each

end Literal

theorem blanks_space : Blanks [' '] := by
  intro c member
  rw [List.mem_singleton.mp member]
  rfl

theorem DataType.writtenAs_name (pointee : Pointee) :
    (DataType.pointer pointee).WrittenAs (DataType.pointer pointee).name.toList := by
  have starred : (DataType.pointer pointee).isPointer = true := rfl
  rw [DataType.WrittenAs, if_pos starred]
  refine ⟨[], blanks_nil, ?_⟩
  cases pointee <;> rfl

theorem isMargin_of_isNameChar (c : Char) (named : isNameChar c = true) : isMargin c = false := by
  have unblank := isBlank_of_isNameChar c named
  simp only [isNameChar, Bool.or_eq_true, isNameStart_iff, isDigit_iff] at named
  simp only [isMargin, unblank, Bool.false_or, Bool.and_eq_false_iff, decide_eq_false_iff_not]
  omega

theorem isMargin_of_opensLiteral (c : Char) (opens : opensLiteral c = true) :
    isMargin c = false := by
  simp only [opensLiteral, Bool.or_eq_true, beq_iff_eq] at opens
  rcases opens with ((digit | rfl) | rfl) | rfl
  · exact isMargin_of_isNameChar c (by simp [isNameChar, digit])
  all_goals decide

theorem isMargin_of_mem_withSign (negative : Bool) (magnitude : List Char)
    (named : ∀ c ∈ magnitude, isNameChar c = true) (c : Char)
    (inside : c ∈ withSign negative magnitude) : isMargin c = false := by
  cases negative with
  | true =>
    rcases List.mem_cons.mp inside with rfl | behind
    · rfl
    · exact isMargin_of_isNameChar c (named c behind)
  | false => exact isMargin_of_isNameChar c (named c inside)

theorem getLast?_enclosed (mark : Char) (body : List Char) :
    (enclosed mark body).getLast? = some mark := by
  simp [enclosed, List.getLast?_cons]

theorem spelled_last (literal : Literal) (text : List Char) (spelled : literal.SpelledAs text)
    (c : Char) (last : c ∈ text.getLast?) : isMargin c = false := by
  cases spelled with
  | decimal negative digits several _ =>
    refine isMargin_of_mem_withSign negative digits (fun d member => ?_) c (List.mem_of_getLast? last)
    simp [isNameChar, several.2 d member]
  | hexadecimal negative mark digits marked several =>
    refine isMargin_of_mem_withSign negative _ (fun d member => ?_) c (List.mem_of_getLast? last)
    rcases List.mem_cons.mp member with rfl | behind
    · rfl
    · rcases List.mem_cons.mp behind with rfl | digit
      · simp only [Scan.isHexMark, Bool.or_eq_true, beq_iff_eq] at marked
        rcases marked with rfl | rfl <;> rfl
      · exact isNameChar_of_isHexDigit d (several.2 d digit)
  -- A quoted text ends with its mark, whatever it holds.
  | character byte piece d _ _ =>
    rw [getLast?_enclosed] at last
    cases last
    rfl
  | string text pieces _ =>
    rw [getLast?_enclosed] at last
    cases last
    rfl

/-- The text begins and ends with something that is not trimmed, and does not begin as a request for
help does. -/
def Framed (text : List Char) : Prop :=
  (∃ c others, text = c :: others ∧ isMargin c = false ∧ c ≠ 'h') ∧
    ∀ c ∈ text.getLast?, isMargin c = false

theorem framed_spelled (literal : Literal) (text : List Char) (spelled : literal.SpelledAs text) :
    Framed text := by
  obtain ⟨c, others, same, opens⟩ := spelled_head literal text spelled
  refine ⟨⟨c, others, same, isMargin_of_opensLiteral c opens, ?_⟩, spelled_last literal text spelled⟩
  rintro rfl
  cases opens

theorem framed_singleton (c : Char) (solid : isMargin c = false) (other : c ≠ 'h') :
    Framed [c] := by
  refine ⟨⟨c, [], rfl, solid, other⟩, fun d last => ?_⟩
  cases last
  exact solid

theorem framed_append (front middle back : List Char) (opened : Framed front)
    (closed : Framed back) : Framed (front ++ (middle ++ back)) := by
  obtain ⟨⟨c, others, rfl, solid, other⟩, _⟩ := opened
  obtain ⟨⟨d, rest, rfl, _⟩, last⟩ := closed
  refine ⟨⟨c, _, rfl, solid, other⟩, ?_⟩
  rwa [← List.append_assoc, List.getLast?_append_of_ne_nil _ (by simp)]

namespace Value

/-- The statement that a shown value is read as. -/
inductive EnteredAs : Value → Node → Prop where
  | int (n : Int) : EnteredAs (.int n) (.literal (.int n))
  | string (text : String) : EnteredAs (.string text) (.literal (.string text))
  | pointer (pointee : Pointee) (address : Int) :
      EnteredAs (.pointer pointee address) (.cast (.pointer pointee) (.literal (.int address)))

theorem exists_enteredAs (v : Value)
    (typed : v.type = .int ∨ v.type = .string ∨ ∃ pointee, v.type = .pointer pointee) :
    ∃ node, v.EnteredAs node := by
  cases v with
  | int n => exact ⟨_, .int n⟩
  | string text => exact ⟨_, .string text⟩
  | pointer pointee address => exact ⟨_, .pointer pointee address⟩
  | _ => simp [type] at typed

theorem display_int (base : Base) (n : Int) : (int n).display base = base.showInt n := rfl

theorem toList_display_pointer (base : Base) (pointee : Pointee) (address : Int) :
    ((pointer pointee address).display base).toList =
      '(' :: ((DataType.pointer pointee).name.toList ++ [')', ' '] ++
        (base.showInt address).toList) := by
  have shown : (pointer pointee address).display base =
      "(" ++ (DataType.pointer pointee).name ++ ") " ++ base.showInt address := rfl
  rw [shown]
  simp

section entries

variable {v : Value} {node : Node} (entered : v.EnteredAs node) (base : Base)

include entered

theorem EnteredAs.evaluate_eq (machine : Machine) :
    node.evaluate.runOn machine = (.ok (.value v), machine) := by
  cases entered with
  | int n => rfl
  | string text => rfl
  | pointer pointee address => rfl

theorem EnteredAs.isExpression : node.IsExpression DataType.IsNamed fun _ => True := by
  cases entered with
  | int n => exact .literal _ trivial
  | string text => exact .literal _ trivial
  | pointer pointee address => exact .cast _ _ nofun rfl (.literal _ trivial)

theorem EnteredAs.writtenAs : node.WrittenAs (v.display base).toList := by
  cases entered with
  | int n =>
    rw [display_int]
    exact .literal _ _ (Literal.spelledAs_showInt base n)
  | string text => exact .literal _ _ (Literal.spelledAs_showString text)
  | pointer pointee address =>
    have written := Statement.WrittenAs.cast (.pointer pointee) _ [] _ [] [' '] _ blanks_nil
      (DataType.writtenAs_name pointee) blanks_nil blanks_space
      (.literal _ _ (Literal.spelledAs_showInt base address))
    rw [toList_display_pointer]
    simpa using written

theorem EnteredAs.framed : Framed (v.display base).toList := by
  cases entered with
  | int n =>
    rw [display_int]
    exact framed_spelled _ _ (Literal.spelledAs_showInt base n)
  | string text => exact framed_spelled _ _ (Literal.spelledAs_showString text)
  | pointer pointee address =>
    rw [toList_display_pointer]
    exact framed_append ['('] _ _ (framed_singleton '(' rfl (by decide))
      (framed_spelled _ _ (Literal.spelledAs_showInt base address))

theorem EnteredAs.parse_eq : parse (v.display base) = .ok node := by
  have sentence : node.IsSentence DataType.IsNamed fun _ => True :=
    .expression _ entered.isExpression
  refine parse_of_reads _ node (reads_statement node _ sentence ?_)
  exact ⟨[], _, [], [], blanks_nil, entered.writtenAs base, blanks_nil, .inl rfl, by simp⟩

end entries

end Value

namespace Console

theorem isHelp_of_framed (text : String) (framed : Framed text.toList) : isHelp text = false := by
  obtain ⟨⟨c, others, same, _, other⟩, _⟩ := framed
  obtain ⟨cut, whole⟩ := List.rdropWhile_prefix (· == ';') text.toList
  have unlike (word : String) (rest : List Char) (spelled : word.toList = 'h' :: rest) :
      (String.ofList (text.toList.rdropWhile (· == ';')) == word) = false := by
    rw [beq_eq_false_iff_ne]
    rintro rfl
    rw [String.toList_ofList] at spelled
    rw [spelled, same] at whole
    exact other (List.cons.inj whole).1.symm
  exact Bool.or_eq_false_iff.mpr ⟨unlike "help" _ rfl, unlike "help()" _ rfl⟩

theorem strip_of_framed (text : String) (framed : Framed text.toList) : strip text = text := by
  obtain ⟨⟨c, others, same, solid, _⟩, last⟩ := framed
  refine strip_eq_self _ (fun d first => ?_) last
  rw [same] at first
  cases first
  exact solid

theorem visible_of_framed (text : String) (framed : Framed text.toList) :
    text.isEmpty = false := by
  obtain ⟨⟨c, others, same, _⟩, _⟩ := framed
  rw [← Bool.not_eq_true, String.isEmpty_iff]
  rintro rfl
  cases same

/-- A statement that gives a value and changes nothing is recorded together with the value. -/
theorem execute_of_value (console : Console) (line : String) (v : Value)
    (framed : Framed line.toList)
    (ran : console.machine.run line = (.ok (.value v), console.machine)) :
    let items := [⟨.command, line⟩, ⟨.info, "-> " ++ v.display console.machine.base⟩]
    console.execute line = (some items, { console with history := console.history ++ items }) := by
  intro items
  have bare := strip_of_framed line framed
  have visible := visible_of_framed line framed
  have plain := isHelp_of_framed line framed
  have answered : console.answer line = [⟨.info, "-> " ++ v.display console.machine.base⟩] := by
    simp [answer, plain, ran]
  have steady := console.execute_of_steady line (by rwa [bare]) (by rwa [bare]) (.ok (.value v))
    (by simp) (by rw [bare, ran])
  rwa [bare, answered] at steady

end Console

/-- What is shown of an integer, a string or a pointer in either base reads as a statement that gives
the value back and changes nothing, so a console that is given it shows the value again. -/
theorem Value.display_reenters (base : Base) (v : Value)
    (typed : v.type = .int ∨ v.type = .string ∨ ∃ pointee, v.type = .pointer pointee) :
    (∃ node, parse (v.display base) = .ok node ∧
      ∀ machine, node.evaluate.runOn machine = (.ok (.value v), machine)) ∧
    ∀ console : Console,
      let items := [⟨.command, v.display base⟩, ⟨.info, "-> " ++ v.display console.machine.base⟩]
      console.execute (v.display base) =
        (some items, { console with history := console.history ++ items }) := by
  obtain ⟨node, entered⟩ := v.exists_enteredAs typed
  have read := entered.parse_eq base
  refine ⟨⟨node, read, entered.evaluate_eq⟩, fun console => ?_⟩
  refine console.execute_of_value _ v (entered.framed base) ?_
  rw [console.machine.run_of_parse _ node read, entered.evaluate_eq]

theorem Value.display_reenters_pointer :
    (Value.pointer .char (-255)).display .hexadecimal = "(char*) -0xFF" ∧
      ((Console.ofConfig ⟨4, 16⟩).execute "(char*) -0xFF").1 =
        some [⟨.command, "(char*) -0xFF"⟩, ⟨.info, "-> (char*) -0xFF"⟩] := by
  have shown : (Value.pointer .char (-255)).display .hexadecimal = "(char*) -0xFF" := by
    decide +kernel
  have entered := display_reenters .hexadecimal (.pointer .char (-255)) (.inr (.inr ⟨_, rfl⟩))
  have answer := entered.2 (Console.ofConfig ⟨4, 16⟩)
  have based : (Console.ofConfig ⟨4, 16⟩).machine.base = .hexadecimal := by decide +kernel
  rw [shown, based, shown] at answer
  exact ⟨shown, by rw [answer]; rfl⟩

end HeapConsole
