import HeapConsole.Grammar
import HeapConsole.Proofs.Grammar.Expressions
import HeapConsole.Proofs.Grammar.Segmentation

/-! The statement rule reads a text to its end exactly if a statement is laid out in it. -/
namespace HeapConsole.Grammar

open HeapConsole.Grammar.Parser Text Statement

section places

variable {input rest : List Char}

theorem declaration_none (opening : Opening input) :
    (declaration input).found = none := by
  rw [declaration, found_rule, found_bind, found_typeName_none input opening.unreserved]
  rfl

theorem found_declaration (name : String) (type : TypeToken) (named : IsName name)
    (known : type.IsWritten) (spanned : Spanned (segments (.declaration name type)) input rest)
    (ends : Ends isNameChar rest) :
    (declaration input).found = some (.declaration name type, rest) := by
  obtain ⟨typed, spans, _, ⟨gap, apart⟩, _, rfl, rfl⟩ := spanned
  have visible := (opening_of_name name _ named ends).visible
  have called := identifier_complete name _ named ends
  have read : (typeName input).found = some (type, typed) := by
    refine typeName_complete type input typed known spans fun unstarred => ?_
    rw [gap.skip visible]
    refine ⟨?_, ends_name_sign named _ '*' rfl⟩
    obtain ⟨_ | ⟨d, gap⟩, blank, rfl⟩ := gap
    · exact absurd rfl (apart (by simp [unstarred]))
    · exact ends_cons _ d _ (isNameChar_of_isBlank d (blank d (by simp)))
  simp only [declaration, found_rule, found_bind_iff, found_blanks_iff, found_pure_iff]
  exact ⟨type, typed, read, (), _, gap.skip visible, name, _, called, rfl, rfl⟩

theorem found_place (target : Draft) (place : target.IsPlace TypeToken.IsWritten Token.IsWritten)
    (spanned : Spanned (segments target) input rest) (follows : Follows 3 rest) :
    (assignTarget input).found = some (target, rest) := by
  cases place with
  | declaration name type named known =>
    rw [assignTarget, found_rule, found_orElse, found_declaration name type named known spanned
      (follows.endsName (Nat.le_refl 3))]
    rfl
  | identifier name named =>
    obtain ⟨_, rfl, rfl⟩ := spanned
    have ends := follows.endsName (Nat.le_refl 3)
    rw [assignTarget, found_rule, found_orElse, declaration_none (opening_of_name name _ named ends),
      found_orElse, dereferenceWith_none unary _ (ends_name_sign named _ '*' rfl), found_map,
      identifier_complete name _ named ends]
    rfl
  | dereference pointer whole below =>
    have found := found_dereferenceWith (recovers_unary input.length) pointer
      ⟨below, Nat.le_of_eq whole.symm⟩ spanned (by omega) follows
    obtain ⟨_, rfl, _⟩ := spanned
    rw [assignTarget, found_rule, found_orElse, declaration_none (opening_of_head '*' _ rfl rfl),
      found_orElse, found]
    rfl

theorem visible_place (target : Draft) (place : target.IsPlace TypeToken.IsWritten Token.IsWritten)
    (spanned : Spanned (segments target) input rest) (follows : Follows 3 rest) :
    Ends isBlank input := by
  cases place with
  | declaration name type _ known =>
    obtain ⟨_, spans, _⟩ := spanned
    exact visible_type known spans
  | identifier name named =>
    obtain ⟨_, rfl, rfl⟩ := spanned
    exact (opening_of_name name _ named (follows.endsName (Nat.le_refl 3))).visible
  | dereference pointer _ _ =>
    obtain ⟨_, rfl, _⟩ := spanned
    exact ends_cons _ '*' _ rfl

theorem found_assignment (target value : Draft)
    (place : target.IsPlace TypeToken.IsWritten Token.IsWritten)
    (valued : value.IsExpression TypeToken.IsWritten Token.IsWritten)
    (spanned : Spanned (segments (.assignment target value)) input rest) (follows : Follows 0 rest) :
    (assignment input).found = some (.assignment target value, rest) := by
  obtain ⟨placed, spannedTarget, _, ⟨before, _⟩, assigned, rfl, start, ⟨after, _⟩, spannedValue⟩ :=
    (spanned_append _ _ _ _).mp spanned
  have next : Follows 3 placed := Follows.before (.cons 3 '=' _ rfl (by decide)) before
  have opening := opening_expression value valued spannedValue (follows.mono 2 (by decide))
  have found := found_place target place spannedTarget next
  have foundValue := recovers_expression (start.length + 1) value start rest
    ⟨valued, Nat.zero_le _⟩ spannedValue (by omega) follows
  simp only [assignment, found_rule, found_bind_iff, found_char_iff, found_blanks_iff,
    found_pure_iff]
  exact ⟨target, placed, found, (), _, before.skip (ends_cons _ '=' _ rfl), (), assigned, rfl, (),
    start, after.skip opening.visible, value, rest, foundValue, rfl, rfl⟩

/-- Without an equals sign behind its target there is no assignment. -/
theorem assignment_none
    (unassigned : ∀ draft rest, (assignTarget input).found = some (draft, rest) →
      Ends (· == '=') (skipBlanks rest)) : (assignment input).found = none := by
  rw [assignment, found_rule, found_bind]
  cases found : (assignTarget input).found with
  | none => rfl
  | some pair =>
    rw [Option.bind_some, found_bind, found_blanks, Option.bind_some, found_bind,
      found_char_none '=' _ (unassigned pair.1 pair.2 found)]
    rfl

theorem found_assignTarget (opening : Opening input) :
    (assignTarget input).found = (dereferenceWith unary input).found.or
      ((identifier input).found.map fun x => (.identifier x.1, x.2)) := by
  rw [assignTarget, found_rule, found_orElse, declaration_none opening, Option.none_or,
    found_orElse, found_map]

/-- The first part of an expression may be read as a target, but then no equals sign comes next. -/
theorem unassigned_unary (head : Draft) (drafted : DraftAt 2 head)
    (spanned : Spanned (segments head) input rest) (follows : Follows 2 rest) (draft : Draft)
    (behind : List Char) (found : (assignTarget input).found = some (draft, behind)) :
    Ends (· == '=') (skipBlanks behind) := by
  have wider := follows.mono 3 (by decide)
  rw [found_assignTarget (opening_unary head drafted spanned wider)] at found
  have unequal : Ends (· == '=') (skipBlanks rest) := follows.next _ rfl
  -- Neither a star nor a name stands at the front of the other three kinds.
  have neither (c : Char) (others : List Char) (same : input = c :: others)
      (starless : (c == '*') = false) (unnamed : isNameStart c = false) :
      Ends (· == '=') (skipBlanks behind) := by
    rw [same, dereferenceWith_none unary _ (ends_cons _ c _ starless),
      found_identifier_none _ (ends_cons _ c _ unnamed)] at found
    cases found
  -- A name is read up to its end, wherever the text goes on.
  have afterName (name : String) (named : IsName name) (next : List Char)
      (same : input = name.toList ++ next) (ends : Ends isNameChar next) : behind = next := by
    rw [same, identifier_complete name next named ends,
      dereferenceWith_none unary _ (ends_name_sign named next '*' rfl)] at found
    cases found
    rfl
  obtain ⟨expression, whole⟩ := drafted
  cases expression with
  | literal token written =>
    obtain ⟨_, ⟨same, _⟩, rfl⟩ := spanned
    obtain ⟨c, others, spelled, opens⟩ := written.head
    rw [spelled] at same
    exact neither c _ same (beq_of_class _ c '*' opens rfl) (isNameStart_of_opensLiteral c opens)
  | identifier name named =>
    obtain ⟨_, same, rfl⟩ := spanned
    rw [afterName name named _ same (wider.endsName (Nat.le_refl 3))]
    exact unequal
  | operator op _ _ _ _ _ _ =>
    have := op.tightness_le
    have : 2 ≤ op.tightness := whole
    omega
  | cast type operand _ _ _ =>
    obtain ⟨_, same, _⟩ := spanned
    exact neither '(' _ same rfl rfl
  | parenthesis inner _ =>
    obtain ⟨_, same, _⟩ := spanned
    exact neither '(' _ same rfl rfl
  | dereference pointer wholeBelow below =>
    have read := found_dereferenceWith (recovers_unary input.length) pointer
      ⟨below, Nat.le_of_eq wholeBelow.symm⟩ spanned (by omega) wider
    rw [read] at found
    cases found
    exact unequal
  | call function arguments named _ _ =>
    obtain ⟨called, same, _, ⟨gap, _⟩, _, rfl, _⟩ := spanned
    rw [afterName function named called same (endsName_gap gap rfl), gap.skip (ends_cons _ '(' _ rfl)]
    exact ends_cons _ '(' _ rfl

end places

section statements

variable {input rest : List Char}

theorem visible_sentence (draft : Draft)
    (sentence : draft.IsSentence TypeToken.IsWritten Token.IsWritten)
    (spanned : Spanned (segments draft) input rest) (follows : Follows 0 rest) :
    Ends isBlank input := by
  cases sentence with
  | declaration name type named known =>
    exact visible_place _ (.declaration name type named known) spanned (follows.mono 3 (by decide))
  | assignment target value place _ =>
    obtain ⟨placed, spannedTarget, _, ⟨before, _⟩, _, rfl, _⟩ := (spanned_append _ _ _ _).mp spanned
    exact visible_place target place spannedTarget
      (Follows.before (.cons 3 '=' _ rfl (by decide)) before)
  | expression _ valued =>
    exact (opening_expression draft valued spanned (follows.mono 2 (by decide))).visible

theorem found_statementBody (draft : Draft)
    (sentence : draft.IsSentence TypeToken.IsWritten Token.IsWritten)
    (spanned : Spanned (segments draft) input rest) (follows : Follows 0 rest) :
    (statementBody input).found = some (draft, rest) := by
  rw [statementBody, found_rule, found_orElse, found_orElse]
  cases sentence with
  | declaration name type named known =>
    have target := found_place _ (.declaration name type named known) spanned
      (follows.mono 3 (by decide))
    have unassigned : (assignment input).found = none := by
      refine assignment_none fun draft behind found => ?_
      rw [target] at found
      cases found
      exact follows.next _ rfl
    rw [unassigned, found_declaration name type named known spanned (follows.endsName (by decide))]
    rfl
  | assignment target value place valued =>
    rw [found_assignment target value place valued spanned follows]
    rfl
  | expression _ valued =>
    have wider := follows.mono 2 (by decide)
    have opening := opening_expression draft valued spanned wider
    have unassigned : (assignment input).found = none := by
      obtain ⟨head, middle, drafted, first, next⟩ := leftmost draft valued spanned wider
      exact assignment_none (unassigned_unary head drafted first next)
    rw [unassigned, declaration_none opening]
    exact recovers_expression (input.length + 1) draft input rest ⟨valued, Nat.zero_le _⟩ spanned
      (by omega) follows

/-- The statement rule reads a whole text exactly if a statement is laid out in it, between blanks
and with or without a semicolon. -/
theorem statement_iff (input : List Char) (draft : Draft) :
    (statement input).found = some (draft, []) ↔
      draft.IsSentence TypeToken.IsWritten Token.IsWritten ∧
        ∃ closed, Spanned (wholeSegments closed draft) input [] := by
  constructor
  · intro found
    exact ⟨yields_statement input draft [] found, (statement_spans input draft [] found).1⟩
  rintro ⟨sentence, closed, start, ⟨before, _⟩, whole⟩
  obtain ⟨ended, core, _, ⟨margin, _⟩, rfl⟩ := (spanned_append _ _ _ _).mp whole
  obtain ⟨behind, spanned, closing⟩ := (spanned_append _ _ _ _).mp core
  have nothing : skipBlanks ended = [] := margin.skip nofun
  have ending : Follows 0 behind ∧ ∃ semicolon last,
      (optional (char ';') (skipBlanks behind)).found = some (semicolon, last) ∧
        skipBlanks last = [] := by
    cases closed with
    | false =>
      cases closing
      rw [nothing]
      exact ⟨Follows.before (.nil 0) margin, none, [], rfl, rfl⟩
    | true =>
      obtain ⟨_, ⟨after, _⟩, _, rfl, rfl⟩ := closing
      refine ⟨Follows.before (.cons 0 ';' _ rfl (by decide)) after, some (), _, ?_, nothing⟩
      rw [after.skip (ends_cons _ ';' _ rfl)]
      exact found_optional_some _ _ () _ (by simp) (by rw [found_char_cons, if_pos rfl])
  obtain ⟨follows, semicolon, last, closes, final⟩ := ending
  have visible := visible_sentence draft sentence spanned follows
  have found := found_statementBody draft sentence spanned follows
  simp only [statement, found_rule, found_bind_iff, found_blanks_iff, found_pure_iff]
  exact ⟨(), start, before.skip visible, draft, behind, found, (), _, rfl, semicolon, last, closes, (),
    [], final, rfl, rfl⟩

/-- A statement stays one when it is moved. -/
theorem relocate_sentence (f : Nat → Nat) (draft : Draft)
    (sentence : draft.IsSentence TypeToken.IsWritten Token.IsWritten) :
    (relocate f draft).IsSentence TypeToken.IsWritten Token.IsWritten := by
  have kept (token : Token) (written : token.IsWritten) :
      Token.IsWritten { token with remaining := f token.remaining } := written
  exact sentence.relabel kept

theorem coreSegments_relocate (f : Nat → Nat) (closed : Bool) (draft : Draft) :
    coreSegments closed (relocate f draft) = (coreSegments closed draft).map (Segment.relocate f) := by
  rw [coreSegments, coreSegments, segments_relocate, List.map_append]
  cases closed <;> rfl

theorem wholeSegments_relocate (f : Nat → Nat) (closed : Bool) (draft : Draft) :
    wholeSegments closed (relocate f draft) =
      (wholeSegments closed draft).map (Segment.relocate f) := by
  rw [wholeSegments, wholeSegments, coreSegments_relocate, List.map_cons, List.map_append]
  rfl

/-- A text is no statement from its beginning on, or it goes on behind one, or its draft decides. -/
theorem parse_cases (text : String) :
    (∃ column, column ≤ text.toList.length ∧ parse text = .error (.unparsable text column)) ∨
    (∃ draft c rest, (statement text.toList).found = some (draft, c :: rest) ∧
      parse text = .error (.unexpectedInput (String.ofList (c :: rest))
        (columnOf text.toList (c :: rest).length))) ∨
    ∃ draft, (statement text.toList).found = some (draft, []) ∧
      parse text = settle text.toList.length draft := by
  rw [parse]
  rcases statement text.toList with ⟨_ | ⟨draft, _ | ⟨c, rest⟩⟩, stops⟩
  · exact .inl ⟨_, Nat.sub_le .., rfl⟩
  · exact .inr (.inr ⟨draft, rfl, rfl⟩)
  · exact .inr (.inl ⟨draft, c, rest, rfl, rfl⟩)

theorem parse_of_found (text : String) (draft : Draft)
    (found : (statement text.toList).found = some (draft, [])) :
    parse text = settle text.toList.length draft := by
  rcases read : statement text.toList with ⟨result, stops⟩
  rw [read] at found
  subst found
  rw [parse, read]
  rfl

theorem found_of_parse (text : String) (node : Node) (read : parse text = .ok node) :
    ∃ draft, (statement text.toList).found = some (draft, []) ∧
      settle text.toList.length draft = .ok node := by
  rcases parse_cases text with ⟨_, _, failed⟩ | ⟨_, _, _, _, failed⟩ | ⟨draft, found, settled⟩
  · rw [failed] at read
    cases read
  · rw [failed] at read
    cases read
  · exact ⟨draft, found, settled ▸ read⟩

end statements

end HeapConsole.Grammar
