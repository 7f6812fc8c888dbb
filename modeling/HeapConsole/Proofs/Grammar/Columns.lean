import HeapConsole.Proofs.Grammar.BadTokens

/-! The column of a refusal is where the text goes wrong: behind a complete statement, or at the
literal that has no meaning. -/
namespace HeapConsole.Grammar

open HeapConsole.Grammar.Parser Text Statement

/-- Cut off where the statement rule stops, a text is a statement from beginning to end. -/
theorem statement_prefix (input : List Char) (draft : Draft) (rest : List Char)
    (found : (statement input).found = some (draft, rest)) :
    ∃ front moved, input = front ++ rest ∧ (statement front).found = some (moved, []) := by
  have sentence := yields_statement input draft rest found
  obtain ⟨⟨closed, spanned⟩, _⟩ := statement_spans input draft rest found
  obtain ⟨front, same, moved⟩ := spanned.relocate
  have alone := moved []
  rw [← wholeSegments_relocate, List.append_nil] at alone
  refine ⟨front, relocate _ draft, same, (statement_iff front _).mpr ⟨?_, closed, alone⟩⟩
  exact relocate_sentence _ draft sentence

theorem run_complete (rule : Rule) (text : String)
    (found : (rule.parser text.toList).found = some ((), [])) :
    rule.run text = .complete text.toList.length := by
  rcases read : rule.parser text.toList with ⟨result, stops⟩
  rw [read] at found
  subst found
  simp only [Rule.run, read]

theorem Spanned.of_mem {list : List Segment} {segment : Segment} {input rest : List Char}
    (spanned : Spanned list input rest) (member : segment ∈ list) :
    ∃ front start behind, input = front ++ start ∧ segment.Spans start behind := by
  obtain ⟨before, after, rfl⟩ := List.append_of_mem member
  obtain ⟨start, earlier, behind, spans, _⟩ := (spanned_append _ _ _ _).mp spanned
  obtain ⟨front, same⟩ := earlier.exists_text
  exact ⟨front, start, behind, same, spans⟩

/-- A literal remembers its place, so that its lexeme begins at its column. -/
theorem drop_column {draft : Draft} {closed : Bool} {input : List Char} {token : Token}
    (spanned : Spanned (wholeSegments closed draft) input [])
    (member : .literal token ∈ wholeSegments closed draft) :
    ∃ behind, input.drop (token.column input.length) = token.lexeme ++ behind := by
  obtain ⟨front, start, behind, rfl, same, placed⟩ := spanned.of_mem member
  refine ⟨behind, ?_⟩
  have column : token.column (front ++ start).length = front.length := by
    rw [Token.column, placed, List.length_append]
    omega
  rw [column, List.drop_left, same]

/-- Only literals raise faults that have a column, and it is their own. -/
theorem Segment.Raises.literal {length column : Nat} {segment : Segment} {fault : Fault}
    (raises : segment.Raises length fault) (placed : fault.column = some column) :
    ∃ token, segment = .literal token ∧ column = token.column length := by
  cases raises with
  | longInteger token _ _ _ _ _ _ => exact ⟨token, rfl, (Option.some.inj placed).symm⟩
  | wideCharacter token _ _ _ _ => exact ⟨token, rfl, (Option.some.inj placed).symm⟩
  | unknownType _ _ => cases placed
  | characterEscape _ _ _ _ => cases placed
  | stringEscape _ _ _ _ => cases placed

/-- The column of each refusal that has one lies in the text or at its end. Unexpected input begins
there with a visible character, and the text before it is a complete statement. A literal that is too
long or too wide stands there, and it is one of the tokens of the statement. -/
theorem column_points_at_fault (text : String) (fault : Fault) (column : Nat)
    (failed : parse text = .error fault) (placed : fault.column = some column) :
    column ≤ text.toList.length ∧
    (∀ rest, fault = .unexpectedInput rest column →
      column < text.toList.length ∧
      (∃ c, text.toList[column]? = some c ∧ isBlank c = false) ∧
      rest = String.ofList (text.toList.drop column) ∧
      Rule.statement.run (String.ofList (text.toList.take column)) = .complete column) ∧
    ((∃ size, fault = .longInteger size column) ∨ (∃ lexeme, fault = .wideCharacter lexeme column) →
      ∃ draft token behind, (statement text.toList).found = some (draft, []) ∧
        .literal token ∈ segments draft ∧
        (Segment.literal token).Raises text.toList.length fault ∧
        text.toList.drop column = token.lexeme ++ behind) := by
  rcases parse_cases text with ⟨stop, bounded, read⟩ | ⟨draft, c, rest, found, read⟩ |
    ⟨draft, found, read⟩
  · rw [read] at failed
    cases failed
    cases placed
    exact ⟨bounded, nofun, by rintro (⟨_, ⟨⟩⟩ | ⟨_, ⟨⟩⟩)⟩
  · rw [read] at failed
    cases failed
    obtain ⟨front, moved, same, whole⟩ := statement_prefix _ draft _ found
    have visible := (statement_spans _ draft _ found).2 c rfl
    have here : column = front.length := by
      cases placed
      rw [columnOf, same, List.length_append]
      omega
    subst here
    refine ⟨?_, ?_, by rintro (⟨_, ⟨⟩⟩ | ⟨_, ⟨⟩⟩)⟩
    · simp [same]
    · intro behind named
      have recognised : (Rule.statement.parser (String.ofList front).toList).found =
          some ((), []) := by
        rw [String.toList_ofList, Rule.parser, found_discard, whole]
        rfl
      have complete := run_complete .statement (String.ofList front) recognised
      rw [String.toList_ofList] at complete
      refine ⟨by simp [same], ⟨c, by simp [same], visible⟩, ?_, ?_⟩
      · rw [same, List.drop_left, (Fault.unexpectedInput.inj named).1]
      · rw [same, List.take_left]
        exact complete
  · rw [read] at failed
    obtain ⟨sentence, closed, spanned⟩ := (statement_iff _ draft).mp found
    have checked := check_segments text.toList.length draft
    rw [failed] at checked
    obtain ⟨segment, member, fails⟩ := exists_of_forM_error _ _ fault checked
    have raises := (check_iff segment (isWritten_sentence draft sentence segment member)).mp fails
    obtain ⟨token, rfl, rfl⟩ := raises.literal placed
    have inside : .literal token ∈ wholeSegments closed draft := by
      simp [wholeSegments, coreSegments, member]
    obtain ⟨behind, here⟩ := drop_column spanned inside
    refine ⟨Nat.sub_le .., ?_, fun _ => ⟨draft, token, behind, found, member, raises, here⟩⟩
    rintro rest rfl
    cases raises

/-- A parenthesis goes on behind a closed statement, and a char is too wide in the middle of another. -/
theorem columns_behind_statement_and_at_char :
    Rule.statement.run "1 + 2; " = .complete 7 ∧
      ∃ token behind, (Segment.literal token).Raises 11 (.wideCharacter "'Ā'" 5) ∧
        "f(1, 'Ā'); ".toList.drop 5 = token.lexeme ++ behind := by
  have unexpected : parse "1 + 2; )" = .error (.unexpectedInput ")" 7) := by cbv
  have wide : parse "f(1, 'Ā'); " = .error (.wideCharacter "'Ā'" 5) := by cbv
  obtain ⟨_, behind, _⟩ := column_points_at_fault _ _ 7 unexpected rfl
  obtain ⟨_, _, literal⟩ := column_points_at_fault _ _ 5 wide rfl
  obtain ⟨_, token, rest, _, _, raises, here⟩ := literal (.inr ⟨_, rfl⟩)
  exact ⟨(behind _ rfl).2.2.2, token, rest, raises, here⟩

end HeapConsole.Grammar
