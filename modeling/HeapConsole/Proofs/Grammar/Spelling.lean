import HeapConsole.Proofs.Grammar.Layout

/-! Tokens of literals and types: the rules read each of them where it stands, and each spelling of a
literal or a type has a token that settles to it. -/
namespace HeapConsole.Grammar

open HeapConsole.Grammar.Parser Text

theorem literal_none (text : List Char) (ends : Ends opensLiteral text) :
    (literal text).found = none := by
  have digitless : Ends Numeral.isDigit text :=
    ends.of_imp fun c digit => by simp [opensLiteral, digit]
  have unsigned : Ends (· == '-') text :=
    ends.of_imp fun c sign => by simp [opensLiteral, show c = '-' by simpa using sign]
  obtain ⟨noDouble, noHexadecimal, noInteger⟩ := Scan.numerals_none text digitless unsigned
  have noCharacter : Scan.character text = none :=
    Scan.character_none text (ends.of_imp fun c same => by simp_all [opensLiteral])
  have noString : Scan.string text = none :=
    Scan.string_none text (ends.of_imp fun c same => by simp_all [opensLiteral])
  simp [found_literal, found_literalOf, noDouble, noHexadecimal, noInteger, noCharacter, noString]

theorem isNameChar_of_isHexDigit (c : Char) (digit : Numeral.isHexDigit c = true) :
    isNameChar c = true := by
  rw [isNameChar, Bool.or_eq_true, isNameStart_iff, isDigit_iff]
  simp only [Numeral.isHexDigit, Bool.or_eq_true, isDigit_iff, Bool.and_eq_true, decide_eq_true_eq,
    Char.le_def, UInt32.le_iff_toNat_le, Char.toNat_val, Char.reduceToNat] at digit
  omega

theorem found_literal_enclosed (mark : Char) (body rest : List Char)
    (quotes : mark = apostrophe ∨ mark = quotationMark) :
    (literal (enclosed mark body ++ rest)).found =
      (literalOf .character Scan.character (enclosed mark body ++ rest)).found.or
        (literalOf .string Scan.string (enclosed mark body ++ rest)).found := by
  have heads : Numeral.isDigit mark = false ∧ (mark == '-') = false := by
    rcases quotes with rfl | rfl <;> decide
  obtain ⟨noDouble, noHexadecimal, noInteger⟩ := Scan.numerals_none (enclosed mark body ++ rest)
    (ends_cons _ mark _ heads.1) (ends_cons _ mark _ heads.2)
  rw [found_literal, found_literalOf .double, found_literalOf .hexadecimal, found_literalOf .integer,
    noDouble, noHexadecimal, noInteger]
  rfl

/-- A token is read wherever it stands, unless a word or a point continues it. -/
theorem literal_complete (token : Token) (input rest : List Char) (written : token.IsWritten)
    (spans : token.Spans input rest) (ends : Ends isNameChar rest) (pointless : Ends (· == '.') rest) :
    (literal input).found = some (token, rest) := by
  have digitless : Ends Numeral.isDigit rest :=
    ends.of_imp fun c digit => by simp [isNameChar, digit]
  obtain ⟨kind, lexeme, remaining⟩ := token
  obtain ⟨rfl, placed⟩ := spans
  simp only at placed
  subst placed
  cases kind with
  | double =>
    obtain ⟨negative, whole, fraction, power, rfl, several, digits, shape⟩ := written
    have unmarked : Ends Scan.isExponentMark rest := ends.of_imp fun c marked => by
      simp only [Scan.isExponentMark, Bool.or_eq_true, beq_iff_eq] at marked
      rcases marked with rfl | rfl <;> decide
    have read := Scan.double_complete negative whole fraction power rest several digits shape
      digitless unmarked
    rw [found_literal, found_literalOf, read]
    rfl
  | hexadecimal =>
    obtain ⟨negative, mark, digits, rfl, marked, several⟩ := written
    have unequal : mark ≠ '.' ∧ Numeral.isDigit mark = false := by
      simp only [Scan.isHexMark, Bool.or_eq_true, beq_iff_eq] at marked
      rcases marked with rfl | rfl <;> decide
    have noDouble : Scan.double (withSign negative ('0' :: mark :: digits) ++ rest) = none := by
      rw [withSign_append]
      refine Scan.double_none negative ['0'] (mark :: (digits ++ rest)) (by decide) ?_ ?_
      · exact ends_cons _ mark _ unequal.2
      · exact ends_cons _ mark _ (by simpa using unequal.1)
    have read := Scan.hexadecimal_complete negative mark digits rest marked several
      (ends.of_imp isNameChar_of_isHexDigit)
    rw [found_literal, found_literalOf, found_literalOf, noDouble, read]
    rfl
  | integer =>
    obtain ⟨negative, digits, rfl, several⟩ := written
    have unmarked : Ends Scan.isHexMark rest := ends.of_imp fun c marked => by
      simp only [Scan.isHexMark, Bool.or_eq_true, beq_iff_eq] at marked
      rcases marked with rfl | rfl <;> decide
    have noDouble := Scan.double_none negative digits rest several digitless pointless
    have noHexadecimal := Scan.hexadecimal_none negative digits rest several unmarked
    have read := Scan.integer_complete negative digits rest several digitless
    rw [← withSign_append] at noDouble noHexadecimal
    rw [found_literal, found_literalOf, found_literalOf, found_literalOf, noDouble, noHexadecimal,
      read]
    rfl
  | character =>
    obtain ⟨piece, rfl, shape⟩ := written
    rw [found_literal_enclosed apostrophe piece rest (.inl rfl), found_literalOf,
      Scan.character_complete piece rest shape]
    rfl
  | string =>
    obtain ⟨pieces, rfl, shape⟩ := written
    have noCharacter : Scan.character (enclosed quotationMark pieces.flatten ++ rest) = none :=
      Scan.character_none _ (ends_cons _ quotationMark _ (by decide))
    rw [found_literal_enclosed quotationMark _ rest (.inr rfl), found_literalOf, found_literalOf,
      noCharacter, Scan.string_complete pieces rest shape]
    rfl

/-- A type is read wherever it stands, unless a word or a star continues it. -/
theorem typeName_complete (token : TypeToken) (input rest : List Char) (written : token.IsWritten)
    (spans : token.Spans input rest)
    (ended : token.starred = false → Ends isNameChar rest ∧ Ends (· == '*') (skipBlanks rest)) :
    (typeName input).found = some (token, rest) := by
  obtain ⟨keyword, starred⟩ := token
  obtain ⟨behind, rfl, ending⟩ := spans
  cases starred with
  | true =>
    obtain ⟨gap, blank, rfl⟩ := ending
    have ends : Ends isNameChar (gap ++ '*' :: rest) :=
      ends_gap _ gap _ blank isNameChar_of_isBlank (ends_cons _ '*' rest rfl)
    have star := found_optional_some _ _ _ rest (by simp) (found_star gap rest blank)
    rw [found_typeName, Scan.typeKeyword_complete keyword _ written ends, Option.bind_some, star]
    rfl
  | false =>
    cases ending
    obtain ⟨ends, starless⟩ := ended rfl
    have star := found_optional_none _ rest (found_star_none rest starless)
    rw [found_typeName, Scan.typeKeyword_complete keyword _ written ends, Option.bind_some, star]
    rfl

theorem Token.IsWritten.head {token : Token} (written : token.IsWritten) :
    ∃ c others, token.lexeme = c :: others ∧ opensLiteral c = true := by
  have signed (negative : Bool) (digits behind : List Char)
      (several : Several Numeral.isDigit digits) :
      ∃ c others, withSign negative (digits ++ behind) = c :: others ∧ opensLiteral c = true := by
    obtain ⟨c, others, rfl, digit⟩ := several.head
    cases negative with
    | true => exact ⟨'-', _, rfl, rfl⟩
    | false => exact ⟨c, _, rfl, by simp [opensLiteral, digit]⟩
  obtain ⟨kind, lexeme, remaining⟩ := token
  cases kind with
  | double =>
    obtain ⟨negative, whole, fraction, power, rfl, several, _⟩ := written
    exact signed negative whole _ several
  | hexadecimal =>
    obtain ⟨negative, mark, digits, rfl, _⟩ := written
    exact signed negative ['0'] (mark :: digits) (by decide)
  | integer =>
    obtain ⟨negative, digits, rfl, several⟩ := written
    simpa using signed negative digits [] several
  | character =>
    obtain ⟨piece, rfl, _⟩ := written
    exact ⟨apostrophe, _, rfl, by decide⟩
  | string =>
    obtain ⟨pieces, rfl, _⟩ := written
    exact ⟨quotationMark, _, rfl, by decide⟩

theorem escaped_newline (escape c : Char) (known : escaped? escape = some c) : escape ≠ '\n' := by
  rintro rfl
  have unknown : escaped? '\n' = none := by decide
  rw [unknown] at known
  cases known

theorem isPiece_of_denotes (mark : Char) (piece : List Char) (c : Char)
    (denotes : Denotes mark piece c) : IsPiece mark piece := by
  rcases denotes with ⟨rfl, plain, unescaped⟩ | ⟨escape, rfl, known⟩
  · exact .inl ⟨c, rfl, plain, unescaped⟩
  · exact .inr ⟨escape, rfl, escaped_newline escape c known⟩

theorem isPiece_of_mem (mark : Char) (pieces : List (List Char)) (cs : List Char)
    (denote : List.Forall₂ (Denotes mark) pieces cs) : ∀ piece ∈ pieces, IsPiece mark piece := by
  induction denote with
  | nil => simp
  | cons denotes _ ih => exact List.forall_mem_cons.mpr ⟨isPiece_of_denotes mark _ _ denotes, ih⟩

theorem unescape_append (mark : Char) (piece rest : List Char) (c : Char)
    (denotes : Denotes mark piece c) :
    unescape (piece ++ rest) = (unescape rest).map (c :: ·) := by
  rcases denotes with ⟨rfl, _, unescaped⟩ | ⟨escape, rfl, known⟩
  · exact unescape_cons c rest unescaped
  · exact unescape_known escape c rest known

theorem unescape_pieces (mark : Char) (pieces : List (List Char)) (cs rest : List Char)
    (denote : List.Forall₂ (Denotes mark) pieces cs) :
    unescape (pieces.flatten ++ rest) = (unescape rest).map (cs ++ ·) := by
  induction denote with
  | nil =>
    rw [List.flatten_nil, List.nil_append]
    cases unescape rest <;> rfl
  | cons denotes _ ih =>
    rw [List.flatten_cons, List.append_assoc, unescape_append mark _ _ _ denotes, ih]
    cases unescape rest <;> rfl

theorem unescape_flatten (mark : Char) (pieces : List (List Char)) (cs : List Char)
    (denote : List.Forall₂ (Denotes mark) pieces cs) : unescape pieces.flatten = .ok cs := by
  simpa [unescape, Except.map] using unescape_pieces mark pieces cs [] denote

/-- Each spelling of a literal is a token that stands for it. -/
theorem exists_token (literal : Literal) (text : List Char) (spelled : literal.SpelledAs text)
    (remaining : Nat) :
    ∃ kind, Token.IsWritten ⟨kind, text, remaining⟩ ∧
      ∀ length, Token.settle length ⟨kind, text, remaining⟩ = .ok literal := by
  cases spelled with
  | decimal negative digits several short =>
    refine ⟨.integer, ⟨negative, digits, rfl, several⟩, fun length => ?_⟩
    have unsigned := Scan.unsigned_of_digits digits [] several
    rw [List.append_nil] at unsigned
    simp only [Token.settle, Token.settleInteger, splitSign_withSign negative digits unsigned, short,
      if_true]
  | hexadecimal negative mark digits marked several =>
    refine ⟨.hexadecimal, ⟨negative, mark, digits, rfl, marked, several⟩, fun length => ?_⟩
    have unsigned : Ends (· == '-') ('0' :: mark :: digits) := ends_cons _ '0' _ rfl
    simp only [Token.settle, Token.settleHexadecimal, splitSign_withSign negative _ unsigned]
    rfl
  | character byte piece c denotes fits =>
    have shape := isPiece_of_denotes apostrophe piece c denotes
    refine ⟨.character, ⟨piece, rfl, shape⟩, fun length => ?_⟩
    have read := unescape_append apostrophe piece [] c denotes
    rw [List.append_nil] at read
    have bounded : byte.toNat ≤ 255 := by
      have := byte.toNat_lt
      omega
    simp only [Token.settle, Token.settleCharacter, body_enclosed, read, unescape, Except.map, bind,
      Except.bind, bounded, if_true, fits, UInt8.ofNat_toNat]
  | string text pieces denote =>
    have shape := isPiece_of_mem quotationMark pieces _ denote
    refine ⟨.string, ⟨pieces, rfl, shape⟩, fun length => ?_⟩
    simp only [Token.settle, body_enclosed, unescape_flatten quotationMark pieces _ denote,
      Except.map, String.ofList_toList]

/-- Each written form of a type is a token that stands for it. -/
theorem exists_typeToken (type : DataType) (named : type.IsNamed) :
    ∃ token : TypeToken, token.IsWritten ∧ token.settle = .ok type ∧
      token.starred = type.isPointer ∧
      ∀ word rest, type.WrittenAs word → token.Spans (word ++ rest) rest := by
  refine ⟨⟨type.keyword, type.isPointer⟩, ?_, ?_, rfl, fun word rest typed => ?_⟩
  · show type.keyword ∈ Scan.keywords
    cases type with
    | pointer pointee => cases pointee <;> decide
    | nativeFunction => exact absurd rfl named
    | _ => decide
  · cases type with
    | pointer pointee => cases pointee <;> rfl
    | nativeFunction => exact absurd rfl named
    | _ => rfl
  · unfold DataType.WrittenAs at typed
    split at typed
    · next pointer =>
      obtain ⟨gap, blank, rfl⟩ := typed
      refine ⟨gap ++ '*' :: rest, by simp, ?_⟩
      rw [if_pos pointer]
      exact ⟨gap, blank, rfl⟩
    · next plain =>
      refine ⟨rest, by rw [typed], ?_⟩
      rw [if_neg plain]

theorem spelled_head (literal : Literal) (text : List Char) (spelled : literal.SpelledAs text) :
    ∃ c others, text = c :: others ∧ opensLiteral c = true := by
  obtain ⟨kind, written, _⟩ := exists_token literal text spelled 0
  exact written.head

end HeapConsole.Grammar
