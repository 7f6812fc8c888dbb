import HeapConsole.Proofs.Grammar.Layout

/-! What a rule reads lies in the text: the segments of the draft lead from the place where the rule
was tried to the place where it stopped. -/
namespace HeapConsole.Grammar

open HeapConsole.Grammar.Parser Text Statement

/-- The segments of each draft that the parser reads cover what it consumes. -/
def Covers (p : Parser Draft) : Prop :=
  ∀ input draft rest, (p input).found = some (draft, rest) → Spanned (segments draft) input rest

theorem spans_gap (input : List Char) : (Segment.gap false).Spans input (skipBlanks input) :=
  ⟨gap_skipBlanks input, nofun⟩

section tokens

variable {input rest : List Char}

theorem typeName_spans (token : TypeToken) (found : (typeName input).found = some (token, rest)) :
    token.Spans input rest ∧ (token.starred = false → Ends isNameChar rest) := by
  simp only [typeName, found_rule, found_bind_iff, found_typeKeyword, found_pure_iff] at found
  obtain ⟨keyword, behind, scanned, star, _, ended, rfl, rfl⟩ := found
  obtain ⟨_, rfl, ends⟩ := Scan.typeKeyword_sound input keyword behind scanned
  rcases found_optional_cases _ _ _ star ended with ⟨_, rfl, read⟩ | ⟨rfl, rfl⟩
  · simp only [found_bind_iff, found_blanks_iff, found_char_iff] at read
    obtain ⟨_, _, rfl, starred⟩ := read
    refine ⟨⟨behind, rfl, starred ▸ gap_skipBlanks behind⟩, fun unstarred => ?_⟩
    cases unstarred
  · exact ⟨⟨behind, rfl, rfl⟩, fun _ => ends⟩

theorem literalOf_spans (kind : TokenKind) (scan : Scanner)
    (sound : ∀ text lexeme behind, scan text = some (lexeme, behind) → text = lexeme ++ behind)
    (token : Token) (found : (literalOf kind scan input).found = some (token, rest)) :
    token.Spans input rest := by
  rw [found_literalOf] at found
  obtain ⟨⟨lexeme, behind⟩, scanned, same⟩ := Option.map_eq_some_iff.mp found
  cases same
  exact ⟨sound input lexeme _ scanned, rfl⟩

theorem literal_spans (token : Token) (found : (literal input).found = some (token, rest)) :
    token.Spans input rest := by
  simp only [literal, found_rule, found_orElse_iff] at found
  rcases found with found | ⟨_, found | ⟨_, found | ⟨_, found | ⟨_, found⟩⟩⟩⟩
  · exact literalOf_spans _ _ (fun text lexeme behind scanned =>
      (Scan.double_sound text lexeme behind scanned).1) token found
  · exact literalOf_spans _ _ (fun text lexeme behind scanned =>
      (Scan.hexadecimal_sound text lexeme behind scanned).1) token found
  · exact literalOf_spans _ _ (fun text lexeme behind scanned =>
      (Scan.integer_sound text lexeme behind scanned).1) token found
  · exact literalOf_spans _ _ (fun text lexeme behind scanned =>
      (Scan.character_sound text lexeme behind scanned).1) token found
  · exact literalOf_spans _ _ (fun text lexeme behind scanned =>
      (Scan.string_sound text lexeme behind scanned).1) token found

end tokens

theorem covers_chain {operand : Parser Draft} {operator : Parser Operator}
    (operands : Covers operand) (operators : ReadsSymbol operator) :
    Covers (chain operand operator) := by
  intro input draft rest found
  simp only [chain, found_bind_iff, found_pure_iff] at found
  obtain ⟨head, middle, first, tail, _, links, rfl, rfl⟩ := found
  -- Each link extends what has been joined so far, whatever that is.
  refine many_induction (motive := fun tail middle behind => ∀ left : Draft,
    Spanned (segments left) input middle →
      Spanned (segments (tail.foldl (fun left x => .operator x.1 left x.2) left)) input behind)
    (fun _ _ spanned => spanned) ?_ middle _ tail links head (operands input head middle first)
  intro middle link behind others final linked further left spanned
  simp only [Grammar.link, found_bind_iff, found_blanks_iff, found_pure_iff] at linked
  obtain ⟨_, _, rfl, op, _, marked, _, _, rfl, right, _, read, rfl, rfl⟩ := linked
  have symbol := operators _ op _ marked
  rw [Operator.symbol_toList] at symbol
  refine further _ ((spanned_append _ _ _ _).mpr ⟨middle, spanned, ?_⟩)
  exact ⟨_, spans_gap middle, _, symbol, _, spans_gap _, operands _ right _ read⟩

section nested

variable {unary : Parser Draft} (unaries : Covers unary)

include unaries

theorem covers_expressionWith : Covers (expressionWith unary) := by
  have terms : Covers (termWith unary) := fun input draft rest found => by
    rw [termWith, found_rule] at found
    exact covers_chain unaries (fun text op rest found => ((mulOperator_iff text op rest).mp found).2)
      input draft rest found
  intro input draft rest found
  rw [expressionWith, found_rule] at found
  exact covers_chain terms (fun text op rest found => ((addOperator_iff text op rest).mp found).2)
    input draft rest found

theorem covers_dereferenceWith : Covers (dereferenceWith unary) := by
  intro input draft rest found
  simp only [dereferenceWith, found_rule, found_bind_iff, found_char_iff, found_blanks_iff,
    found_pure_iff] at found
  obtain ⟨_, behind, rfl, _, _, rfl, pointer, _, read, rfl, rfl⟩ := found
  exact ⟨behind, rfl, _, spans_gap behind, unaries _ pointer _ read⟩

theorem covers_castWith : Covers (castWith unary) := by
  intro input draft rest found
  simp only [castWith, found_rule, found_bind_iff, found_char_iff, found_blanks_iff,
    found_pure_iff] at found
  obtain ⟨_, opened, rfl, _, _, rfl, type, typed, read, _, _, rfl, _, closed, closing, _, _, rfl,
    operand, _, below, rfl, rfl⟩ := found
  exact ⟨opened, rfl, _, spans_gap opened, typed, (typeName_spans type read).1, _, spans_gap typed,
    closed, closing, _, spans_gap closed, unaries _ operand _ below⟩

theorem covers_groupWith : Covers (groupWith unary) := by
  intro input draft rest found
  simp only [groupWith, found_rule, found_bind_iff, found_char_iff, found_blanks_iff,
    found_pure_iff] at found
  obtain ⟨_, opened, rfl, _, _, rfl, inner, behind, read, _, _, rfl, _, _, closing, rfl, rfl⟩ := found
  refine ⟨opened, rfl, _, spans_gap opened, (spanned_append _ _ _ _).mpr ⟨behind, ?_, ?_⟩⟩
  · exact covers_expressionWith unaries _ inner behind read
  · exact ⟨_, spans_gap behind, _, closing, rfl⟩

theorem covers_argumentWith : Covers (argumentWith unary) := by
  intro input draft rest found
  simp only [argumentWith, typeArgument, found_rule, found_orElse_iff, found_bind_iff, found_ahead,
    Option.map_eq_some_iff, found_pure_iff] at found
  rcases found with ⟨type, behind, read, _, _, ⟨_, _, same⟩, rfl, rfl⟩ | ⟨_, found⟩
  · cases same
    exact ⟨_, (typeName_spans type read).1, rfl⟩
  · exact covers_expressionWith unaries input draft rest found

theorem argumentsWith_spans (input : List Char) (drafts : List Draft) (rest : List Char)
    (found : (argumentsWith unary input).found = some (drafts, rest)) :
    Spanned (argumentSegments drafts) input rest := by
  simp only [argumentsWith, found_rule, found_bind_iff, found_pure_iff] at found
  obtain ⟨head, middle, first, tail, _, more, rfl, rfl⟩ := found
  refine (spanned_append _ _ _ _).mpr ⟨middle, covers_argumentWith unaries _ head _ first, ?_⟩
  refine many_induction (motive := fun tail middle behind =>
    Spanned (otherSegments tail) middle behind) (fun _ => rfl) ?_ middle _ tail more
  intro middle argument behind others final read further
  simp only [anotherWith, found_bind_iff, found_blanks_iff, found_char_iff] at read
  obtain ⟨_, _, rfl, _, separated, comma, _, _, rfl, read⟩ := read
  refine ⟨_, spans_gap middle, separated, comma, _, spans_gap separated,
    (spanned_append _ _ _ _).mpr ⟨behind, ?_, further⟩⟩
  exact covers_argumentWith unaries _ argument behind read

theorem covers_callWith : Covers (callWith unary) := by
  intro input draft rest found
  simp only [callWith, found_rule, found_bind_iff, found_char_iff, found_blanks_iff,
    found_pure_iff] at found
  obtain ⟨function, named, called, _, _, rfl, _, opened, opening, _, _, rfl, arguments, behind, listed,
    _, _, rfl, _, _, closing, rfl, rfl⟩ := found
  refine ⟨named, (identifier_sound input function named called).1, _, spans_gap named, opened, opening,
    _, spans_gap opened, (spanned_append _ _ _ _).mpr ⟨behind, ?_, _, spans_gap behind, _, closing, rfl⟩⟩
  rcases found_optional_cases _ _ _ arguments listed with ⟨drafts, rfl, read⟩ | ⟨rfl, rfl⟩
  · exact argumentsWith_spans unaries _ drafts behind read
  · rfl

theorem covers_unaryWith : Covers (unaryWith unary) := by
  intro input draft rest found
  simp only [unaryWith, primaryWith, found_rule, found_orElse_iff, found_map_iff] at found
  rcases found with found | ⟨_, found | ⟨_, found | ⟨_, ⟨token, found, rfl⟩ | ⟨_, found | ⟨_, name,
    found, rfl⟩⟩⟩⟩⟩
  · exact covers_dereferenceWith unaries input draft rest found
  · exact covers_castWith unaries input draft rest found
  · exact covers_callWith unaries input draft rest found
  · exact ⟨rest, literal_spans token found, rfl⟩
  · exact covers_groupWith unaries input draft rest found
  · exact ⟨rest, (identifier_sound input name rest found).1, rfl⟩

end nested

theorem covers_unaryAt (depth : Nat) : Covers (unaryAt depth) := by
  induction depth with
  | zero => exact fun _ _ _ found => by cases found
  | succ depth ih => exact covers_unaryWith ih

theorem covers_unary : Covers unary :=
  fun input draft rest found => covers_unaryAt (input.length + 1) input draft rest found

theorem covers_expression : Covers expression := covers_expressionWith covers_unary

theorem covers_declaration : Covers declaration := by
  intro input draft rest found
  simp only [declaration, found_rule, found_bind_iff, found_blanks_iff, found_pure_iff] at found
  obtain ⟨type, typed, read, _, _, rfl, name, _, called, rfl, rfl⟩ := found
  obtain ⟨spans, ends⟩ := typeName_spans type read
  obtain ⟨same, ⟨c, others, spelled, starts, _⟩, _⟩ := identifier_sound _ name _ called
  refine ⟨typed, spans, _, ⟨gap_skipBlanks typed, fun needed joined => ?_⟩, _, same, rfl⟩
  -- A keyword that runs into the name would be a longer word.
  have unstarred : type.starred = false := by simpa using needed
  have ended := ends unstarred
  rw [joined, same, spelled] at ended
  simpa [isNameChar_of_isNameStart c starts] using ended c rfl

theorem covers_assignTarget : Covers assignTarget := by
  intro input draft rest found
  simp only [assignTarget, found_rule, found_orElse_iff, found_map_iff] at found
  rcases found with found | ⟨_, found | ⟨_, name, found, rfl⟩⟩
  · exact covers_declaration input draft rest found
  · exact covers_dereferenceWith covers_unary input draft rest found
  · exact ⟨rest, (identifier_sound input name rest found).1, rfl⟩

theorem covers_assignment : Covers assignment := by
  intro input draft rest found
  simp only [assignment, found_rule, found_bind_iff, found_char_iff, found_blanks_iff,
    found_pure_iff] at found
  obtain ⟨target, placed, first, _, _, rfl, _, assigned, equals, _, _, rfl, value, _, read, rfl, rfl⟩ :=
    found
  refine (spanned_append _ _ _ _).mpr ⟨placed, covers_assignTarget _ target _ first, ?_⟩
  exact ⟨_, spans_gap placed, assigned, equals, _, spans_gap assigned,
    covers_expression _ value _ read⟩

theorem covers_statementBody : Covers statementBody := by
  intro input draft rest found
  simp only [statementBody, found_rule, found_orElse_iff] at found
  rcases found with found | ⟨_, found | ⟨_, found⟩⟩
  · exact covers_assignment input draft rest found
  · exact covers_declaration input draft rest found
  · exact covers_expression input draft rest found

/-- What stands between the blanks around a statement; a semicolon may close it. -/
def coreSegments (closed : Bool) (draft : Draft) : List Segment :=
  segments draft ++ if closed then [.gap false, .sign ';'] else []

def wholeSegments (closed : Bool) (draft : Draft) : List Segment :=
  .gap false :: (coreSegments closed draft ++ [.gap false])

/-- A statement is read up to the next visible character. -/
theorem statement_spans (input : List Char) (draft : Draft) (rest : List Char)
    (found : (statement input).found = some (draft, rest)) :
    (∃ closed, Spanned (wholeSegments closed draft) input rest) ∧ Ends isBlank rest := by
  simp only [statement, found_rule, found_bind_iff, found_blanks_iff, found_pure_iff] at found
  obtain ⟨_, _, rfl, body, behind, read, _, _, rfl, semicolon, ended, closing, _, _, rfl, rfl, rfl⟩ :=
    found
  have spanned := covers_statementBody _ body behind read
  refine ⟨?_, ends_dropWhile isBlank ended⟩
  rcases found_optional_cases _ _ _ semicolon closing with ⟨_, _, mark⟩ | ⟨_, rfl⟩
  · rw [found_char_iff] at mark
    refine ⟨true, _, spans_gap input, (spanned_append _ _ _ _).mpr ⟨ended, ?_, ?_⟩⟩
    · refine (spanned_append _ _ _ _).mpr ⟨behind, spanned, ?_⟩
      exact ⟨_, spans_gap behind, ended, mark, rfl⟩
    · exact ⟨_, spans_gap ended, rfl⟩
  · refine ⟨false, _, spans_gap input, (spanned_append _ _ _ _).mpr ⟨behind, ?_, ?_⟩⟩
    · exact (spanned_append _ _ _ _).mpr ⟨behind, spanned, rfl⟩
    · exact ⟨_, ⟨(gap_skipBlanks behind).trans (gap_skipBlanks _), nofun⟩, rfl⟩

end HeapConsole.Grammar
