import HeapConsole.Grammar
import HeapConsole.Proofs.Grammar.Statements
import HeapConsole.Proofs.Grammar.Writing

/-! Whatever is written in the language is read back, from every one of its written forms: each of
them lays out a draft that settles to the statement. -/
namespace HeapConsole.Grammar

open HeapConsole.Grammar.Parser Text Statement

variable {literals : Literal → Prop}

/-- The parser reads a draft of the node from the input and leaves the rest. -/
def Reads (p : Parser Draft) (input : List Char) (node : Node) (rest : List Char) : Prop :=
  ∃ draft, (p input).found = some (draft, rest) ∧ ∀ length, settle length draft = .ok node

/-- The draft stands between the two places and settles to the node. -/
structure Drafts (draft : Draft) (node : Node) (input rest : List Char) : Prop where
  settled : ∀ length, settle length draft = .ok node
  spanned : Spanned (segments draft) input rest

theorem spans_blanks (gap rest : List Char) (blank : Blanks gap) :
    (Segment.gap false).Spans (gap ++ rest) rest := ⟨⟨gap, blank, rfl⟩, nofun⟩

section drafts

theorem Drafts.dereference {draft : Draft} {pointer : Node} {text rest : List Char}
    (drafts : Drafts draft pointer (text ++ rest) rest) (gap : List Char) (blank : Blanks gap) :
    Drafts (.dereference draft) (.dereference pointer) ('*' :: (gap ++ text) ++ rest) rest := by
  refine ⟨fun length => ?_, ?_⟩
  · rw [settle, drafts.settled length]
    rfl
  · simp only [List.append_assoc, List.cons_append]
    exact ⟨_, rfl, _, spans_blanks gap _ blank, drafts.spanned⟩

theorem exists_arguments (arguments : List Node)
    (each : ∀ argument ∈ arguments, ∀ text, argument.WrittenAs text → ∀ rest,
      ∃ draft, draft.IsArgument TypeToken.IsWritten Token.IsWritten ∧
        Drafts draft argument (text ++ rest) rest)
    (text : List Char) (listed : ListedAs arguments text) (rest : List Char) :
    ∃ drafts, (∀ draft ∈ drafts, draft.IsArgument TypeToken.IsWritten Token.IsWritten) ∧
      (∀ length, settleAll length drafts = .ok arguments) ∧
      Spanned (argumentSegments drafts) (text ++ rest) rest := by
  induction arguments generalizing text with
  | nil =>
    cases listed
    exact ⟨[], by simp, fun _ => rfl, rfl⟩
  | cons argument others ih =>
    cases listed with
    | single _ _ written =>
      obtain ⟨draft, valid, drafts⟩ := each argument (by simp) text written rest
      refine ⟨[draft], by simpa using valid, fun length => ?_, ?_⟩
      · rw [settleAll, drafts.settled length]
        rfl
      · exact (spanned_append _ _ _ _).mpr ⟨rest, drafts.spanned, rfl⟩
    | cons _ next others first before after behind written blankBefore blankAfter listed =>
      obtain ⟨tail, validTail, settledTail, spannedTail⟩ :=
        ih (fun node member => each node (by simp [member])) behind listed
      obtain ⟨draft, valid, drafts⟩ := each argument (by simp) first written
        (before ++ (',' :: (after ++ (behind ++ rest))))
      cases tail with
      | nil => cases settledTail 0
      | cons second tail =>
        refine ⟨draft :: second :: tail, List.forall_mem_cons.mpr ⟨valid, validTail⟩,
          fun length => ?_, ?_⟩
        · rw [settleAll, drafts.settled length, settledTail length]
          rfl
        · simp only [List.append_assoc, List.cons_append]
          refine (spanned_append _ _ _ _).mpr ⟨_, drafts.spanned, ?_⟩
          exact ⟨_, spans_blanks before _ blankBefore, _, rfl, _, spans_blanks after _ blankAfter,
            spannedTail⟩

theorem exists_expression (node : Node) (expression : node.IsExpression DataType.IsNamed literals)
    (text : List Char) (written : node.WrittenAs text) (rest : List Char) :
    ∃ draft, draft.IsExpression TypeToken.IsWritten Token.IsWritten ∧
      draft.tightness = node.tightness ∧ Drafts draft node (text ++ rest) rest := by
  induction expression generalizing text rest with
  | literal literal _ =>
    cases written with
    | literal _ _ spelled =>
      obtain ⟨kind, known, settled⟩ := exists_token literal text spelled (text ++ rest).length
      refine ⟨.literal ⟨kind, text, _⟩, .literal _ known, rfl, fun length => ?_, rest, ⟨rfl, rfl⟩, rfl⟩
      rw [settle, settled length]
      rfl
  | identifier name named =>
    cases written
    exact ⟨.identifier name, .identifier name named, rfl, fun _ => rfl, rest, rfl, rfl⟩
  | operator op left right loose tight _ _ onLeft onRight =>
    cases written with
    | operator _ _ _ leftText before after rightText writtenLeft blankBefore blankAfter writtenRight =>
      obtain ⟨r, rightShape, rightTight, drafts⟩ := onRight rightText writtenRight rest
      obtain ⟨l, leftShape, leftTight, draftsLeft⟩ := onLeft leftText writtenLeft
        (before ++ (op.symbol.toList ++ (after ++ (rightText ++ rest))))
      refine ⟨.operator op l r, ?_, rfl, fun length => ?_, ?_⟩
      · exact .operator op l r (leftTight ▸ loose) (rightTight ▸ tight) leftShape rightShape
      · rw [settle, draftsLeft.settled length, drafts.settled length]
        rfl
      · simp only [List.append_assoc]
        rw [Operator.symbol_toList] at draftsLeft ⊢
        refine (spanned_append _ _ _ _).mpr ⟨_, draftsLeft.spanned, ?_⟩
        exact ⟨_, spans_blanks before _ blankBefore, _, rfl, _, spans_blanks after _ blankAfter,
          drafts.spanned⟩
  | cast type operand named whole _ below =>
    cases written with
    | cast _ _ first word second third inner blankFirst typed blankSecond blankThird written =>
      obtain ⟨draft, shape, tight, drafts⟩ := below inner written rest
      obtain ⟨token, known, settled, _, spans⟩ := exists_typeToken type named
      refine ⟨.cast token draft, .cast token draft known (tight.trans whole) shape, rfl,
        fun length => ?_, ?_⟩
      · rw [settle, settled, drafts.settled length]
        rfl
      · simp only [List.append_assoc, List.cons_append]
        exact ⟨_, rfl, _, spans_blanks first _ blankFirst, _, spans word _ typed, _,
          spans_blanks second _ blankSecond, _, rfl, _, spans_blanks third _ blankThird,
          drafts.spanned⟩
  | parenthesis inner _ below =>
    cases written with
    | parenthesis _ before inside after blankBefore written blankAfter =>
      obtain ⟨draft, shape, _, drafts⟩ := below inside written (after ++ ')' :: rest)
      refine ⟨.parenthesis draft, .parenthesis draft shape, rfl, fun length => ?_, ?_⟩
      · rw [settle, drafts.settled length]
        rfl
      · simp only [List.append_assoc, List.cons_append, List.nil_append]
        refine ⟨_, rfl, _, spans_blanks before _ blankBefore, (spanned_append _ _ _ _).mpr ⟨_,
          drafts.spanned, ?_⟩⟩
        exact ⟨_, spans_blanks after _ blankAfter, _, rfl, rfl⟩
  | dereference pointer whole _ below =>
    cases written with
    | dereference _ gap inner blank written =>
      obtain ⟨draft, shape, tight, drafts⟩ := below inner written rest
      exact ⟨.dereference draft, .dereference draft (tight.trans whole) shape, rfl,
        drafts.dereference gap blank⟩
  | call function arguments named known _ below =>
    cases written with
    | call _ _ first second list third blankFirst blankSecond listed blankThird =>
      have each (argument : Node) (member : argument ∈ arguments) (text : List Char)
          (written : argument.WrittenAs text) (rest : List Char) :
          ∃ draft, draft.IsArgument TypeToken.IsWritten Token.IsWritten ∧
            Drafts draft argument (text ++ rest) rest := by
        cases isType : argument.isType with
        | true =>
          cases written with
          | typeName type _ typed =>
            obtain ⟨token, wellFormed, settled, _, spans⟩ := exists_typeToken type (known type member)
            refine ⟨.typeName token, ⟨?_, nofun⟩, fun length => ?_, rest, spans text rest typed, rfl⟩
            · rintro other same
              cases same
              exact wellFormed
            · rw [settle, settled]
              rfl
          | _ => cases isType
        | false =>
          obtain ⟨draft, shape, _, drafts⟩ := below argument member isType text written rest
          refine ⟨draft, ⟨?_, fun _ => shape⟩, drafts⟩
          rintro type rfl
          cases shape
      obtain ⟨drafts, valid, settled, spanned⟩ := exists_arguments arguments each list listed
        (third ++ ')' :: rest)
      refine ⟨.call function drafts, isExpression_call _ _ function drafts named valid, rfl,
        fun length => ?_, ?_⟩
      · rw [settle, settled length]
        rfl
      · simp only [List.append_assoc, List.cons_append, List.nil_append]
        refine ⟨_, rfl, _, spans_blanks first _ blankFirst, _, rfl, _,
          spans_blanks second _ blankSecond, (spanned_append _ _ _ _).mpr ⟨_, spanned, ?_⟩⟩
        exact ⟨_, spans_blanks third _ blankThird, _, rfl, rfl⟩

theorem exists_declaration (name : String) (type : DataType) (named : type.IsNamed)
    (text : List Char) (written : WrittenAs (.declaration name type) text) (rest : List Char) :
    ∃ token : TypeToken, token.IsWritten ∧
      Drafts (.declaration name token) (.declaration name type) (text ++ rest) rest := by
  cases written with
  | declaration _ _ word gap typed blank apart =>
    obtain ⟨token, known, settled, starred, spans⟩ := exists_typeToken type named
    refine ⟨token, known, fun length => ?_, ?_⟩
    · rw [settle, settled]
      rfl
    · simp only [List.append_assoc]
      refine ⟨_, spans word _ typed, _, ⟨⟨gap, blank, rfl⟩, fun needed => ?_⟩, rest, rfl, rfl⟩
      rw [starred] at needed
      simpa using apart (by simpa using needed)

theorem exists_place (target : Node) (place : target.IsPlace DataType.IsNamed literals)
    (text : List Char) (written : target.WrittenAs text) (rest : List Char) :
    ∃ draft, draft.IsPlace TypeToken.IsWritten Token.IsWritten ∧
      Drafts draft target (text ++ rest) rest := by
  cases place with
  | declaration name type named known =>
    obtain ⟨token, wellFormed, drafts⟩ := exists_declaration name type known text written rest
    exact ⟨_, .declaration name token named wellFormed, drafts⟩
  | identifier name named =>
    cases written
    exact ⟨.identifier name, .identifier name named, fun _ => rfl, rest, rfl, rfl⟩
  | dereference pointer whole below =>
    cases written with
    | dereference _ gap inner blank written =>
      obtain ⟨draft, shape, tight, drafts⟩ := exists_expression pointer below inner written rest
      exact ⟨.dereference draft, .dereference draft (tight.trans whole) shape,
        drafts.dereference gap blank⟩

theorem exists_sentence (node : Node) (sentence : node.IsSentence DataType.IsNamed literals)
    (text : List Char) (written : node.WrittenAs text) (rest : List Char) :
    ∃ draft, draft.IsSentence TypeToken.IsWritten Token.IsWritten ∧
      Drafts draft node (text ++ rest) rest := by
  cases sentence with
  | declaration name type named known =>
    obtain ⟨token, wellFormed, drafts⟩ := exists_declaration name type known text written rest
    exact ⟨_, .declaration name token named wellFormed, drafts⟩
  | assignment target value place valued =>
    cases written with
    | assignment _ _ targetText before after valueText written blankBefore blankAfter writtenValue =>
      obtain ⟨right, valuedRight, _, drafts⟩ := exists_expression value valued valueText writtenValue
        rest
      obtain ⟨left, placed, draftsLeft⟩ := exists_place target place targetText written
        (before ++ '=' :: (after ++ (valueText ++ rest)))
      refine ⟨.assignment left right, .assignment left right placed valuedRight, fun length => ?_, ?_⟩
      · rw [settle, draftsLeft.settled length, drafts.settled length]
        rfl
      · simp only [List.append_assoc, List.cons_append]
        refine (spanned_append _ _ _ _).mpr ⟨_, draftsLeft.spanned, ?_⟩
        exact ⟨_, spans_blanks before _ blankBefore, _, rfl, _, spans_blanks after _ blankAfter,
          drafts.spanned⟩
  | expression _ valued =>
    obtain ⟨draft, shape, _, drafts⟩ := exists_expression node valued text written rest
    exact ⟨draft, .expression draft shape, drafts⟩

end drafts

theorem reads_statement (node : Node) (text : List Char)
    (sentence : node.IsSentence DataType.IsNamed literals) (written : node.FullyWrittenAs text) :
    Reads statement text node [] := by
  obtain ⟨before, body, after, closing, blankBefore, writtenBody, blankAfter, shape, rfl⟩ := written
  obtain ⟨draft, drafted, drafts⟩ := exists_sentence node sentence body writtenBody (after ++ closing)
  refine ⟨draft, (statement_iff _ draft).mpr ⟨drafted, ?_⟩, drafts.settled⟩
  rcases shape with rfl | ⟨last, blankLast, rfl⟩
  · refine ⟨false, _, spans_blanks before _ blankBefore, (spanned_append _ _ _ _).mpr ⟨after, ?_, ?_⟩⟩
    · simpa [coreSegments] using drafts.spanned
    · exact ⟨[], by simpa using spans_blanks after [] blankAfter, rfl⟩
  · refine ⟨true, _, spans_blanks before _ blankBefore, (spanned_append _ _ _ _).mpr ⟨last, ?_, ?_⟩⟩
    · refine (spanned_append _ _ _ _).mpr ⟨_, drafts.spanned, ?_⟩
      exact ⟨_, spans_blanks after _ blankAfter, last, rfl, rfl⟩
    · exact ⟨[], by simpa using spans_blanks last [] blankLast, rfl⟩

theorem parse_of_reads (text : String) (node : Node) (reads : Reads statement text.toList node []) :
    parse text = .ok node := by
  obtain ⟨draft, found, settled⟩ := reads
  rw [parse_of_found text draft found, settled]

/-- Every statement of the language can be written, and from each of its written forms it is read
back. -/
theorem parse_complete (node : Node)
    (sentence : node.IsSentence DataType.IsNamed Literal.IsPlain) :
    (∃ text : String, node.FullyWrittenAs text.toList) ∧
      ∀ text : String, node.FullyWrittenAs text.toList → parse text = .ok node := by
  constructor
  · obtain ⟨text, written⟩ := sentence.exists_writing
    exact ⟨String.ofList text, by rwa [String.toList_ofList]⟩
  · intro text written
    exact parse_of_reads text node (reads_statement node text.toList sentence written)

/-- A store whose stars, signs and parentheses each stand in more than one role. -/
theorem parse_written_store :
    parse " *( p )=\n x - -1* f( int *,'\\n') ;" =
      .ok (.assignment (.dereference (.parenthesis (.identifier "p")))
        (.operator .sub (.identifier "x") (.operator .mul (.literal (.int (-1)))
          (.call "f" [.typeName (.pointer .int), .literal (.char 10)])))) := by
  have blank (gap : List Char) (all : gap.all isBlank = true) : Blanks gap := List.all_eq_true.mp all
  refine (parse_complete _ ?_).2 _ ?_
  · refine .assignment _ _ (.dereference _ rfl (.parenthesis _ (.identifier _ (by decide)))) ?_
    refine .operator _ _ _ (by decide) (by decide) (.identifier _ (by decide)) ?_
    refine .operator _ _ _ (by decide) (by decide) (.literal _ (by decide +kernel)) ?_
    refine .call _ _ (by decide) ?_ ?_
    · simp [DataType.IsNamed]
    · simp only [List.mem_cons, List.not_mem_nil, or_false, forall_eq_or_imp, forall_eq]
      exact ⟨nofun, fun _ => .literal _ trivial⟩
  · have pointer := WrittenAs.dereference _ [] _ blanks_nil (.parenthesis _ [' '] _ [' ']
      (blank _ rfl) (.identifier "p") (blank _ rfl))
    have factor := WrittenAs.literal _ _ (.decimal true ['1'] (by decide) (by decide))
    have listed := ListedAs.cons _ _ _ _ [] [] _
      (.typeName (.pointer .int) "int *".toList ⟨[' '], blank _ rfl, rfl⟩) blanks_nil blanks_nil
      (.single _ _ (.literal _ _ (.character 10 ['\\', 'n'] '\n' (.inr ⟨'n', rfl, rfl⟩) rfl)))
    have product := WrittenAs.operator .mul _ _ _ [] [' '] _ factor blanks_nil (blank _ rfl)
      (.call "f" _ [] [' '] _ [] blanks_nil (blank _ rfl) listed blanks_nil)
    have value := WrittenAs.operator .sub _ _ _ [' '] [' '] _ (.identifier "x") (blank _ rfl)
      (blank _ rfl) product
    exact ⟨[' '], _, [' '], [';'], blank _ rfl, .assignment _ _ _ [] ['\n', ' '] _ pointer blanks_nil
      (blank _ rfl) value, blank _ rfl, .inr ⟨[], blanks_nil, rfl⟩, rfl⟩

end HeapConsole.Grammar
