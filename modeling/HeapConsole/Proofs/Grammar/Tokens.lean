import HeapConsole.Grammar.Rules
import HeapConsole.Proofs.Grammar.Language

/-! What the rules for single tokens find: types, names, literals and operators. -/
namespace HeapConsole.Grammar

open HeapConsole.Grammar.Parser Text

theorem found_typeKeyword (text : List Char) :
    (typeKeyword text).found = Scan.typeKeyword text := by
  simp [typeKeyword]

theorem found_typeName (text : List Char) :
    (typeName text).found = (Scan.typeKeyword text).bind fun x =>
      ((optional (do blanks; char '*') x.2).found).map fun y => (⟨x.1, y.1.isSome⟩, y.2) := by
  simp only [typeName, found_rule, found_bind, found_typeKeyword, found_pure]
  cases Scan.typeKeyword text with
  | none => rfl
  | some x => cases h : (optional (do blanks; char '*') x.2).found <;> simp [h]

theorem found_typeName_none (text : List Char) (missing : Scan.typeKeyword text = none) :
    (typeName text).found = none := by
  rw [found_typeName, missing]
  rfl

theorem found_star (gap rest : List Char) (blank : Blanks gap) :
    ((do blanks; char '*' : Parser Unit) (gap ++ '*' :: rest)).found = some ((), rest) := by
  simp only [found_bind, found_blanks, Option.bind_some]
  rw [skipBlanks_append gap _ blank, skipBlanks_cons '*' rest rfl, found_char_cons, if_pos rfl]

theorem found_star_none (rest : List Char) (starless : Ends (· == '*') (skipBlanks rest)) :
    ((do blanks; char '*' : Parser Unit) rest).found = none := by
  simp only [found_bind, found_blanks, Option.bind_some]
  cases visible : skipBlanks rest with
  | nil => rfl
  | cons c others =>
    rw [visible] at starless
    rw [found_char_cons, if_neg (by simpa using starless c rfl)]

/-- Names are words that are not keywords: a keyword is refused even where it could be a name. -/
theorem found_identifier (text : List Char) :
    (identifier text).found =
      if (Scan.typeKeyword text).isSome then none
      else (Scan.name text).map fun x => (String.ofList x.1, x.2) := by
  simp only [identifier, found_rule, found_bind, found_notAhead, found_typeKeyword, found_token,
    found_pure]
  cases Scan.typeKeyword text with
  | some x => rfl
  | none => cases scanned : Scan.name text <;> simp [scanned]

theorem identifier_sound (text : List Char) (name : String) (rest : List Char)
    (found : (identifier text).found = some (name, rest)) :
    text = name.toList ++ rest ∧ IsName name := by
  rw [found_identifier] at found
  split at found
  · cases found
  · next unreserved =>
    obtain ⟨⟨lexeme, behind⟩, scanned, same⟩ := Option.map_eq_some_iff.mp found
    cases same
    obtain ⟨rfl, ends, shape⟩ := Scan.name_sound text lexeme behind scanned
    refine ⟨by simp, ?_⟩
    rw [IsName, String.toList_ofList]
    refine ⟨shape, fun keyword => unreserved ?_⟩
    rw [Scan.typeKeyword_complete lexeme behind keyword ends]
    rfl

theorem isNameChar_of_isNameStart (c : Char) (starts : isNameStart c = true) :
    isNameChar c = true := by
  simp [isNameChar, starts]

theorem IsWord.chars {word : List Char} (isWord : IsWord word) :
    ∀ c ∈ word, isNameChar c = true := by
  obtain ⟨⟨c, others, rfl, starts, inside⟩, _⟩ := isWord
  intro d member
  rcases List.mem_cons.mp member with rfl | member
  · exact isNameChar_of_isNameStart d starts
  · exact inside d member

theorem typeKeyword_of_name (name : String) (rest : List Char) (named : IsName name)
    (ends : Ends isNameChar rest) : Scan.typeKeyword (name.toList ++ rest) = none :=
  Scan.typeKeyword_none name.toList rest (IsWord.chars named) named.2 ends

theorem identifier_complete (name : String) (rest : List Char) (named : IsName name)
    (ends : Ends isNameChar rest) :
    (identifier (name.toList ++ rest)).found = some (name, rest) := by
  rw [found_identifier, typeKeyword_of_name name rest named ends]
  obtain ⟨⟨c, others, same, starts, inside⟩, _⟩ := named
  rw [same, List.cons_append, Scan.name_complete c others rest starts inside ends]
  simp [← same]

theorem found_identifier_none (text : List Char) (ends : Ends isNameStart text) :
    (identifier text).found = none := by
  have unnamed : Scan.name text = none := by
    cases text with
    | nil => rfl
    | cons c rest => simp [Scan.name, ends c rfl]
  rw [found_identifier, unnamed]
  split <;> rfl

theorem found_literalOf (kind : TokenKind) (scan : Scanner) (text : List Char) :
    (literalOf kind scan text).found =
      (scan text).map fun x => (⟨kind, x.1, text.length⟩, x.2) := by
  simp only [literalOf, found_rule, found_bind, found_remaining, found_token, found_pure,
    Option.bind_some]
  cases scan text <;> rfl

/-- The first of the five scanners that finds a token decides its kind. -/
theorem found_literal (text : List Char) :
    (literal text).found =
      (literalOf .double Scan.double text).found.or
        ((literalOf .hexadecimal Scan.hexadecimal text).found.or
          ((literalOf .integer Scan.integer text).found.or
            ((literalOf .character Scan.character text).found.or
              (literalOf .string Scan.string text).found))) := by
  simp only [literal, found_rule, found_orElse, doubleLiteral, hexLiteral, intLiteral, charLiteral,
    stringLiteral]

theorem found_oneOf (accepts : Char → Bool) (decode : List Char → Operator) (text : List Char) :
    (rule (do let lexeme ← token (Scan.oneOf accepts); return decode lexeme) text).found =
      match text with
      | [] => none
      | c :: rest => if accepts c then some (decode [c], rest) else none := by
  simp only [found_rule, found_bind, found_token, found_pure]
  cases text with
  | nil => rfl
  | cons c rest => cases accepted : accepts c <;> simp [Scan.oneOf, accepted]

theorem addOperator_iff (text : List Char) (op : Operator) (rest : List Char) :
    (addOperator text).found = some (op, rest) ↔
      op.tightness = 0 ∧ text = op.symbol.toList ++ rest := by
  rw [addOperator, found_oneOf, Operator.symbol_toList]
  cases text with
  | nil => simp
  | cons c others =>
    by_cases plus : c = '+'
    · subst plus
      cases op <;> simp [Operator.mark, Operator.tightness, Operator.isAdditive]
    · by_cases minus : c = '-'
      · subst minus
        cases op <;> simp [Operator.mark, Operator.tightness, Operator.isAdditive]
      · cases op <;> simp [Operator.mark, Operator.tightness, Operator.isAdditive, plus, minus]

theorem mulOperator_iff (text : List Char) (op : Operator) (rest : List Char) :
    (mulOperator text).found = some (op, rest) ↔
      op.tightness = 1 ∧ text = op.symbol.toList ++ rest := by
  rw [mulOperator, found_oneOf, Operator.symbol_toList]
  cases text with
  | nil => simp
  | cons c others =>
    by_cases star : c = '*'
    · subst star
      cases op <;> simp [Operator.mark, Operator.tightness, Operator.isAdditive]
    · by_cases slash : c = '/'
      · subst slash
        cases op <;> simp [Operator.mark, Operator.tightness, Operator.isAdditive]
      · cases op <;> simp [Operator.mark, Operator.tightness, Operator.isAdditive, star, slash]

end HeapConsole.Grammar
