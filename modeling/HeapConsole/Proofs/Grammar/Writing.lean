import HeapConsole.Proofs.Grammar.Language

/-! Every tree of the language has a written form. -/
namespace HeapConsole

open Grammar Text

namespace Numeral

theorem value_append (base : Nat) (digits : List Char) (c : Char) :
    value base (digits ++ [c]) = value base digits * base + digitValue c := by
  simp [value]

theorem digitValue_digitChar (digit : Nat) (small : digit < 16) :
    digitValue digit.digitChar = digit := by
  revert digit
  decide

theorem value_toDigits (base n : Nat) (large : 1 < base) (small : base ≤ 16) :
    value base (Nat.toDigits base n) = n := by
  induction n using Nat.base_induction base large with
  | single m below =>
    rw [Nat.toDigits_of_lt_base below]
    simpa [value] using digitValue_digitChar m (by omega)
  | digit m k below positive ih =>
    rw [← Nat.toDigits_append_toDigits large positive below, Nat.toDigits_of_lt_base below,
      value_append, ih, digitValue_digitChar k (by omega), Nat.mul_comm]

theorem several_toDigits (n : Nat) : Several isDigit (Nat.toDigits 10 n) := by
  refine ⟨Nat.toDigits_ne_nil, fun c member => ?_⟩
  have digit := Nat.isDigit_of_mem_toDigits (by decide) (by decide) member
  simpa [Char.isDigit, isDigit, Char.le_def] using digit

theorem length_toDigits_le (n limit : Nat) (positive : 0 < limit) (small : n < Nat.pow 10 limit) :
    (Nat.toDigits 10 n).length ≤ limit :=
  (Nat.length_toDigits_le_iff (by decide) positive).mpr small

theorem signed_natAbs (n : Int) : signed (decide (n < 0)) n.natAbs = n := by
  unfold signed
  split
  · next negative =>
    have : n < 0 := by simpa using negative
    omega
  · next positive =>
    have : ¬ n < 0 := by simpa using positive
    omega

end Numeral

theorem exists_denotes (mark c : Char) (quotes : mark = apostrophe ∨ mark = quotationMark) :
    ∃ piece, Denotes mark piece c := by
  by_cases plain : c ≠ mark ∧ c ≠ '\\'
  · exact ⟨[c], .inl ⟨rfl, plain⟩⟩
  · have same : c = mark ∨ c = '\\' := by grind
    refine ⟨['\\', c], .inr ⟨c, rfl, ?_⟩⟩
    rcases same with rfl | rfl
    · rcases quotes with rfl | rfl <;> decide
    · decide

theorem exists_pieces (mark : Char) (quotes : mark = apostrophe ∨ mark = quotationMark)
    (cs : List Char) : ∃ pieces, List.Forall₂ (Denotes mark) pieces cs := by
  induction cs with
  | nil => exact ⟨[], .nil⟩
  | cons c cs ih =>
    obtain ⟨pieces, denote⟩ := ih
    obtain ⟨piece, denotes⟩ := exists_denotes mark c quotes
    exact ⟨piece :: pieces, .cons denotes denote⟩

theorem Literal.exists_spelling (literal : Literal) (plain : literal.IsPlain) :
    ∃ text, literal.SpelledAs text := by
  cases literal with
  | int value =>
    have short := Numeral.length_toDigits_le value.natAbs Numeral.maxDigits (by decide) plain
    have spelled := SpelledAs.decimal (decide (value < 0)) (Nat.toDigits 10 value.natAbs)
      (Numeral.several_toDigits _) short
    rw [Numeral.value_toDigits 10 _ (by decide) (by decide), Numeral.signed_natAbs] at spelled
    exact ⟨_, spelled⟩
  | double value => cases plain
  | char byte =>
    obtain ⟨piece, denotes⟩ := exists_denotes apostrophe (Char.ofNat byte.toNat) (.inl rfl)
    have valid : byte.toNat.isValidChar := .inl (by have := byte.toNat_lt; omega)
    exact ⟨_, .character byte piece _ denotes (by rw [Char.ofNat, dif_pos valid]; rfl)⟩
  | string text =>
    obtain ⟨pieces, denote⟩ := exists_pieces quotationMark (.inr rfl) text.toList
    exact ⟨_, .string text pieces denote⟩

theorem DataType.exists_writing (type : DataType) : ∃ word, type.WrittenAs word := by
  unfold DataType.WrittenAs
  split
  · exact ⟨_, [], blanks_nil, rfl⟩
  · exact ⟨_, rfl⟩

namespace Statement

theorem exists_listing (arguments : List Node)
    (written : ∀ argument ∈ arguments, ∃ text, argument.WrittenAs text) :
    ∃ text, ListedAs arguments text := by
  induction arguments with
  | nil => exact ⟨[], .nil⟩
  | cons argument others ih =>
    obtain ⟨text, head⟩ := written argument (by simp)
    obtain ⟨othersText, tail⟩ := ih fun node member => written node (by simp [member])
    cases others with
    | nil => exact ⟨text, .single argument text head⟩
    | cons next others =>
      exact ⟨_, .cons argument next others text [] [] othersText head blanks_nil blanks_nil tail⟩

theorem IsExpression.exists_writing {node : Node}
    (expression : node.IsExpression DataType.IsNamed Literal.IsPlain) :
    ∃ text, node.WrittenAs text := by
  induction expression with
  | literal literal plain =>
    obtain ⟨text, spelled⟩ := literal.exists_spelling plain
    exact ⟨text, .literal literal text spelled⟩
  | identifier name _ => exact ⟨_, .identifier name⟩
  | operator op left right _ _ _ _ onLeft onRight =>
    obtain ⟨leftText, writtenLeft⟩ := onLeft
    obtain ⟨rightText, writtenRight⟩ := onRight
    exact ⟨_, .operator op left right leftText [] [] rightText writtenLeft blanks_nil blanks_nil
      writtenRight⟩
  | cast type operand _ _ _ below =>
    obtain ⟨word, typed⟩ := type.exists_writing
    obtain ⟨text, written⟩ := below
    exact ⟨_, .cast type operand [] word [] [] text blanks_nil typed blanks_nil blanks_nil written⟩
  | parenthesis inner _ below =>
    obtain ⟨text, written⟩ := below
    exact ⟨_, .parenthesis inner [] text [] blanks_nil written blanks_nil⟩
  | dereference pointer _ _ below =>
    obtain ⟨text, written⟩ := below
    exact ⟨_, .dereference pointer [] text blanks_nil written⟩
  | call function arguments _ _ _ below =>
    have written : ∀ argument ∈ arguments, ∃ text, argument.WrittenAs text := by
      intro argument member
      cases isType : argument.isType with
      | true =>
        cases argument with
        | typeName type =>
          obtain ⟨word, typed⟩ := type.exists_writing
          exact ⟨word, .typeName type word typed⟩
        | _ => cases isType
      | false => exact below argument member isType
    obtain ⟨text, listed⟩ := exists_listing arguments written
    exact ⟨_, .call function arguments [] [] text [] blanks_nil blanks_nil listed blanks_nil⟩

theorem exists_declaration (name : String) (type : DataType) :
    ∃ text, (Statement.declaration name type : Node).WrittenAs text := by
  obtain ⟨word, typed⟩ := type.exists_writing
  refine ⟨_, .declaration name type word [' '] typed ?_ (by simp)⟩
  intro c member
  rw [List.mem_singleton.mp member]
  rfl

theorem IsPlace.exists_writing {node : Node}
    (place : node.IsPlace DataType.IsNamed Literal.IsPlain) : ∃ text, node.WrittenAs text := by
  cases place with
  | declaration name type _ _ => exact exists_declaration name type
  | identifier name _ => exact ⟨_, .identifier name⟩
  | dereference pointer whole below => exact (IsExpression.dereference pointer whole below).exists_writing

/-- Every statement of the language can be written. -/
theorem IsSentence.exists_writing {node : Node}
    (sentence : node.IsSentence DataType.IsNamed Literal.IsPlain) :
    ∃ text, node.FullyWrittenAs text := by
  have written : ∃ body, node.WrittenAs body := by
    cases sentence with
    | declaration name type _ _ => exact exists_declaration name type
    | assignment target value place valued =>
      obtain ⟨targetText, writtenTarget⟩ := place.exists_writing
      obtain ⟨valueText, writtenValue⟩ := valued.exists_writing
      exact ⟨_, .assignment target value targetText [] [] valueText writtenTarget blanks_nil blanks_nil
        writtenValue⟩
    | expression _ valued => exact valued.exists_writing
  obtain ⟨body, written⟩ := written
  exact ⟨_, [], body, [], [], blanks_nil, written, blanks_nil, .inl rfl, rfl⟩

end Statement

end HeapConsole
