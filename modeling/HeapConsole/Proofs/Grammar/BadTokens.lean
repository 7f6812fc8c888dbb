import HeapConsole.Proofs.Grammar.Statements

/-! Which tokens have no meaning, and that the first of them decides how a text that is otherwise a
statement is refused. Settling a draft comes to checking its segments from left to right. -/
namespace HeapConsole.Grammar

open HeapConsole.Grammar.Parser Text Statement

def typeNames : List String := ["void", "int", "char", "double", "string", "int*", "char*"]

/-- Pieces that stand for characters come first, and then an escape that stands for none. -/
def UnknownEscape (mark : Char) (body : List Char) (escape : Char) : Prop :=
  ∃ pieces cs behind, body = pieces.flatten ++ '\\' :: escape :: behind ∧
    List.Forall₂ (Denotes mark) pieces cs ∧ escaped? escape = none

namespace Segment

/-- The ways in which a segment of a text of the given length has no meaning, and the fault of each. -/
inductive Raises (length : Nat) : Segment → Fault → Prop where
  | unknownType (token : TypeToken) (unknown : token.name ∉ typeNames) :
      Raises length (.type token) (.unknownType token.name)
  | characterEscape (token : Token) (kind : token.kind = .character) (escape : Char)
      (unknown : UnknownEscape apostrophe token.body escape) :
      Raises length (.literal token) (.unknownEscape (String.singleton escape))
  | stringEscape (token : Token) (kind : token.kind = .string) (escape : Char)
      (unknown : UnknownEscape quotationMark token.body escape) :
      Raises length (.literal token) (.unknownEscape (String.singleton escape))
  | longInteger (token : Token) (kind : token.kind = .integer) (negative : Bool)
      (digits : List Char) (spelled : token.lexeme = withSign negative digits)
      (several : Several Numeral.isDigit digits) (long : Numeral.maxDigits < digits.length) :
      Raises length (.literal token) (.longInteger token.lexeme.length (token.column length))
  | wideCharacter (token : Token) (kind : token.kind = .character) (c : Char)
      (denotes : Denotes apostrophe token.body c) (wide : 255 < c.toNat) :
      Raises length (.literal token)
        (.wideCharacter (String.ofList token.lexeme) (token.column length))

/-- The type or the literal of a segment is given its meaning. -/
def check (length : Nat) : Segment → Except Fault Unit
  | .type token => token.settle.map fun _ => ()
  | .literal token => (token.settle length).map fun _ => ()
  | _ => .ok ()

def IsWritten : Segment → Prop
  | .type token => token.IsWritten
  | .literal token => token.IsWritten
  | _ => True

end Segment

section written

theorem isWritten_arguments (drafts : List Draft)
    (each : ∀ draft ∈ drafts, ∀ segment ∈ segments draft, segment.IsWritten) :
    (∀ segment ∈ argumentSegments drafts, segment.IsWritten) ∧
      ∀ segment ∈ otherSegments drafts, segment.IsWritten := by
  induction drafts with
  | nil => simp [argumentSegments, otherSegments]
  | cons draft drafts ih =>
    obtain ⟨_, others⟩ := ih fun other member => each other (by simp [member])
    have first := each draft (by simp)
    constructor
    · simpa [argumentSegments, or_imp, forall_and] using ⟨first, others⟩
    · simpa [otherSegments, or_imp, forall_and, Segment.IsWritten] using ⟨first, others⟩

theorem isWritten_expression (draft : Draft)
    (expression : draft.IsExpression TypeToken.IsWritten Token.IsWritten) :
    ∀ segment ∈ segments draft, segment.IsWritten := by
  induction expression with
  | literal token known => simpa [segments, Segment.IsWritten] using known
  | identifier name _ => simp [segments, Segment.IsWritten]
  | operator op left right _ _ _ _ onLeft onRight =>
    simpa [segments, or_imp, forall_and, Segment.IsWritten] using ⟨onLeft, onRight⟩
  | cast type operand known _ _ below =>
    simpa [segments, Segment.IsWritten] using ⟨known, below⟩
  | parenthesis inner _ below => simpa [segments, or_imp, forall_and, Segment.IsWritten] using below
  | dereference pointer _ _ below => simpa [segments, Segment.IsWritten] using below
  | call function arguments _ known _ below =>
    have each : ∀ draft ∈ arguments, ∀ segment ∈ segments draft, segment.IsWritten := by
      intro draft member
      cases isType : draft.isType with
      | false => exact below draft member isType
      | true =>
        cases draft with
        | typeName type => simpa [segments, Segment.IsWritten] using known type member
        | _ => cases isType
    simpa [segments, or_imp, forall_and, Segment.IsWritten] using (isWritten_arguments arguments each).1

theorem isWritten_sentence (draft : Draft)
    (sentence : draft.IsSentence TypeToken.IsWritten Token.IsWritten) :
    ∀ segment ∈ segments draft, segment.IsWritten := by
  cases sentence with
  | declaration name type _ known => simpa [segments, Segment.IsWritten] using known
  | assignment target value place valued =>
    have onLeft : ∀ segment ∈ segments target, segment.IsWritten := by
      cases place with
      | declaration name type _ known => simpa [segments, Segment.IsWritten] using known
      | identifier name _ => simp [segments, Segment.IsWritten]
      | dereference pointer whole below =>
        exact isWritten_expression _ (.dereference pointer whole below)
    simpa [segments, or_imp, forall_and, Segment.IsWritten] using
      ⟨onLeft, isWritten_expression value valued⟩
  | expression _ valued => exact isWritten_expression draft valued

end written

section meanings

variable {length : Nat} {fault : Fault}

theorem check_type_iff (token : TypeToken) (written : token.IsWritten) :
    (Segment.type token).check length = .error fault ↔ (Segment.type token).Raises length fault := by
  -- Ten types can be written, and seven of them exist.
  have exist : ∀ word ∈ Scan.keywords, ∀ starred : Bool,
      (DataType.ofName? (TypeToken.name ⟨word, starred⟩)).isNone =
        decide (TypeToken.name ⟨word, starred⟩ ∉ typeNames) := by
    decide
  have known := exist token.keyword written token.starred
  simp only [Segment.check, TypeToken.settle, DataType.ofName]
  constructor
  · intro failed
    split at failed
    · cases failed
    · next missing =>
      cases failed
      exact .unknownType token (by simpa [missing] using known)
  · intro raises
    cases raises with
    | unknownType _ unknown =>
      have missing : DataType.ofName? token.name = none := by simpa [unknown] using known
      rw [missing]
      rfl

/-- A body fails to be unescaped at its first unknown escape. -/
theorem unescape_error_iff (fault : Fault) (mark : Char) (pieces : List (List Char))
    (shape : ∀ piece ∈ pieces, IsPiece mark piece) :
    unescape pieces.flatten = .error fault ↔
      ∃ escape, UnknownEscape mark pieces.flatten escape ∧
        fault = .unknownEscape (String.singleton escape) := by
  constructor
  · intro failed
    induction pieces with
    | nil => cases failed
    | cons piece pieces ih =>
      have further (c : Char) (denotes : Denotes mark piece c) :
          ∃ escape, UnknownEscape mark (piece :: pieces).flatten escape ∧
            fault = .unknownEscape (String.singleton escape) := by
        rw [List.flatten_cons, unescape_append mark piece _ c denotes] at failed
        have below : unescape pieces.flatten = .error fault := by
          cases read : unescape pieces.flatten with
          | ok cs => simp [read, Except.map] at failed
          | error other => simpa [read, Except.map] using failed
        obtain ⟨escape, ⟨known, cs, behind, same, denote, unknown⟩, rfl⟩ :=
          ih (fun other member => shape other (by simp [member])) below
        refine ⟨escape, ⟨piece :: known, c :: cs, behind, ?_, .cons denotes denote, unknown⟩, rfl⟩
        simp [same]
      rcases shape piece (by simp) with ⟨c, rfl, plain, unescaped⟩ | ⟨escape, rfl, _⟩
      · exact further c (.inl ⟨rfl, plain, unescaped⟩)
      · cases known : escaped? escape with
        | some c => exact further c (.inr ⟨escape, rfl, known⟩)
        | none =>
          simp only [List.flatten_cons, List.cons_append, List.nil_append,
            unescape_unknown escape _ known] at failed
          cases failed
          exact ⟨escape, ⟨[], [], pieces.flatten, rfl, .nil, known⟩, rfl⟩
  · rintro ⟨escape, ⟨known, cs, behind, same, denote, unknown⟩, rfl⟩
    rw [same, unescape_pieces mark known cs _ denote, unescape_unknown escape behind unknown]
    rfl

theorem check_integer_iff (lexeme : List Char) (remaining : Nat) (shape : IsInteger lexeme) :
    (Segment.literal ⟨.integer, lexeme, remaining⟩).check length = .error fault ↔
      (Segment.literal ⟨.integer, lexeme, remaining⟩).Raises length fault := by
  obtain ⟨negative, digits, rfl, several⟩ := shape
  have split (negative : Bool) (digits : List Char) (several : Several Numeral.isDigit digits) :
      Numeral.splitSign (withSign negative digits) = (negative, digits) := by
    have unsigned := Scan.unsigned_of_digits digits [] several
    rw [List.append_nil] at unsigned
    exact splitSign_withSign negative digits unsigned
  simp only [Segment.check, Token.settle, Token.settleInteger, split negative digits several]
  constructor
  · intro failed
    split at failed
    · cases failed
    · next long =>
      cases failed
      exact .longInteger _ rfl negative digits rfl several (by omega)
  · intro raises
    cases raises with
    | longInteger _ _ other others spelled severalOthers long =>
      have same := congrArg Numeral.splitSign spelled
      simp only [split negative digits several, split other others severalOthers] at same
      cases same
      rw [if_neg (by omega)]
      rfl
    | characterEscape _ kind => cases kind
    | stringEscape _ kind => cases kind
    | wideCharacter _ kind => cases kind

theorem denotes_of_unescape (mark : Char) (piece : List Char) (c : Char) (shape : IsPiece mark piece)
    (read : unescape piece = .ok [c]) : Denotes mark piece c := by
  rcases shape with ⟨d, rfl, plain, unescaped⟩ | ⟨escape, rfl, _⟩
  · rw [unescape_cons d [] unescaped] at read
    cases read
    exact .inl ⟨rfl, plain, unescaped⟩
  · cases known : escaped? escape with
    | some d =>
      rw [unescape_known escape d [] known] at read
      cases read
      exact .inr ⟨escape, rfl, known⟩
    | none =>
      rw [unescape_unknown escape [] known] at read
      cases read

theorem check_character_iff (lexeme : List Char) (remaining : Nat) (shape : IsCharacter lexeme) :
    (Segment.literal ⟨.character, lexeme, remaining⟩).check length = .error fault ↔
      (Segment.literal ⟨.character, lexeme, remaining⟩).Raises length fault := by
  obtain ⟨piece, rfl, shape⟩ := shape
  have escapes := unescape_error_iff fault apostrophe [piece] (by simpa using shape)
  rw [List.flatten_singleton] at escapes
  simp only [Segment.check, Token.settle, Token.settleCharacter, body_enclosed]
  constructor
  · intro failed
    cases read : unescape piece with
    | error other =>
      rw [read] at failed escapes
      obtain ⟨escape, unknown, rfl⟩ := escapes.mp (by simpa [bind, Except.bind, Except.map] using failed)
      exact .characterEscape _ rfl escape (by rwa [body_enclosed])
    | ok cs =>
      obtain ⟨c, rfl⟩ := unescape_piece apostrophe piece cs shape read
      simp only [read, bind, Except.bind] at failed
      split at failed
      · cases failed
      · next wide =>
        cases failed
        refine .wideCharacter _ rfl c ?_ (by omega)
        rw [body_enclosed]
        exact denotes_of_unescape apostrophe piece c shape read
  · intro raises
    cases raises with
    | characterEscape _ _ escape unknown =>
      rw [body_enclosed] at unknown
      rw [escapes.mpr ⟨escape, unknown, rfl⟩]
      rfl
    | wideCharacter _ _ c denotes wide =>
      rw [body_enclosed] at denotes
      have read := unescape_append apostrophe piece [] c denotes
      rw [List.append_nil] at read
      simp only [read, unescape, Except.map, bind, Except.bind]
      rw [if_neg (by omega)]
    | stringEscape _ kind => cases kind
    | longInteger _ kind => cases kind

theorem check_string_iff (lexeme : List Char) (remaining : Nat) (shape : IsString lexeme) :
    (Segment.literal ⟨.string, lexeme, remaining⟩).check length = .error fault ↔
      (Segment.literal ⟨.string, lexeme, remaining⟩).Raises length fault := by
  obtain ⟨pieces, rfl, shape⟩ := shape
  have escapes := unescape_error_iff fault quotationMark pieces shape
  simp only [Segment.check, Token.settle, body_enclosed]
  constructor
  · intro failed
    have stuck : unescape pieces.flatten = .error fault := by
      cases read : unescape pieces.flatten with
      | ok cs => simp [read, Except.map] at failed
      | error other => simpa [read, Except.map] using failed
    obtain ⟨escape, unknown, rfl⟩ := escapes.mp stuck
    exact .stringEscape _ rfl escape (by rwa [body_enclosed])
  · intro raises
    cases raises with
    | stringEscape _ _ escape unknown =>
      rw [body_enclosed] at unknown
      rw [escapes.mpr ⟨escape, unknown, rfl⟩]
      rfl
    | characterEscape _ kind => cases kind
    | longInteger _ kind => cases kind
    | wideCharacter _ kind => cases kind

/-- A segment fails in the ways that are told apart by `Segment.Raises`, and in no other. -/
theorem check_iff (segment : Segment) (written : segment.IsWritten) :
    segment.check length = .error fault ↔ segment.Raises length fault := by
  cases segment with
  | type token => exact check_type_iff token written
  | literal token =>
    obtain ⟨kind, lexeme, remaining⟩ := token
    cases kind with
    | integer => exact check_integer_iff lexeme remaining written
    | character => exact check_character_iff lexeme remaining written
    | string => exact check_string_iff lexeme remaining written
    | double => exact ⟨nofun, nofun⟩
    | hexadecimal => exact ⟨nofun, nofun⟩
  | gap needed => exact ⟨nofun, nofun⟩
  | sign c => exact ⟨nofun, nofun⟩
  | word name => exact ⟨nofun, nofun⟩

theorem check_ok_iff (segment : Segment) (written : segment.IsWritten) :
    segment.check length = .ok () ↔ ∀ other, ¬ segment.Raises length other := by
  constructor
  · intro fine other raises
    rw [(check_iff segment written).mpr raises] at fine
    cases fine
  · intro clean
    cases checked : segment.check length with
    | ok _ => rfl
    | error other => exact absurd ((check_iff segment written).mp checked) (clean other)

end meanings

/-- Two parts are checked one after the other, whatever is made of them. -/
theorem checks_both {α β γ : Type} {first : Except Fault α} {second : Except Fault β}
    {checked : Except Fault Unit} (join : α → β → γ) (same : checked = second.map fun _ => ()) :
    ((first.map fun _ => ()) >>= fun _ => checked) =
      (first >>= fun a => second >>= fun b => pure (join a b)).map fun _ => () := by
  rw [same]
  cases first with
  | error fault => rfl
  | ok a => cases second <;> rfl

mutual

/-- A draft settles exactly if its segments do, and fails as the first of them that fails. -/
theorem check_segments (length : Nat) :
    (draft : Draft) →
      forM (segments draft) (Segment.check length) = (settle length draft).map fun _ => ()
  | .missing => rfl
  | .typeName type => by
    rw [settle, segments, List.forM_cons, Segment.check]
    cases type.settle <;> rfl
  | .literal token => by
    rw [settle, segments, List.forM_cons, Segment.check]
    cases token.settle length <;> rfl
  | .identifier name => rfl
  | .declaration name type => by
    rw [settle, segments, List.forM_cons, Segment.check]
    cases type.settle <;> rfl
  | .operator op left right => by
    rw [settle, segments, List.forM_append, check_segments length left]
    exact checks_both (Statement.operator op) (check_segments length right)
  | .cast type operand => by
    rw [settle, segments]
    exact checks_both Statement.cast (check_segments length operand)
  | .parenthesis inner => by
    have below := check_segments length inner
    rw [settle, segments]
    simp only [List.forM_cons, List.forM_append, Segment.check, below]
    cases settle length inner <;> rfl
  | .dereference pointer => by
    rw [settle, segments]
    refine Eq.trans (check_segments length pointer) ?_
    cases settle length pointer <;> rfl
  | .assignment target value => by
    rw [settle, segments, List.forM_append, check_segments length target]
    exact checks_both Statement.assignment (check_segments length value)
  | .call function arguments => by
    have below := check_argumentSegments length arguments
    rw [settle, segments]
    simp only [List.forM_cons, List.forM_append, Segment.check, below]
    cases settleAll length arguments <;> rfl

theorem check_argumentSegments (length : Nat) :
    (drafts : List Draft) →
      forM (argumentSegments drafts) (Segment.check length) =
        (settleAll length drafts).map fun _ => ()
  | [] => rfl
  | draft :: drafts => by
    rw [settleAll, argumentSegments, List.forM_append, check_segments length draft]
    exact checks_both List.cons (check_otherSegments length drafts)

theorem check_otherSegments (length : Nat) :
    (drafts : List Draft) →
      forM (otherSegments drafts) (Segment.check length) =
        (settleAll length drafts).map fun _ => ()
  | [] => rfl
  | draft :: drafts => by
    change forM (segments draft ++ otherSegments drafts) (Segment.check length) = _
    rw [settleAll, List.forM_append, check_segments length draft]
    exact checks_both List.cons (check_otherSegments length drafts)

end

theorem check_wholeSegments (length : Nat) (closed : Bool) (draft : Draft) :
    forM (wholeSegments closed draft) (Segment.check length) =
      (settle length draft).map fun _ => () := by
  rw [← check_segments length draft]
  cases closed with
  | false =>
    simp only [wholeSegments, coreSegments, List.forM_cons, List.forM_append]
    cases forM (segments draft) (Segment.check length) <;> rfl
  | true =>
    simp only [wholeSegments, coreSegments, List.forM_cons, List.forM_append]
    cases forM (segments draft) (Segment.check length) <;> rfl

theorem isWritten_whole (closed : Bool) (draft : Draft)
    (sentence : draft.IsSentence TypeToken.IsWritten Token.IsWritten) :
    ∀ segment ∈ wholeSegments closed draft, segment.IsWritten := by
  have inside := isWritten_sentence draft sentence
  cases closed with
  | false => simpa [wholeSegments, coreSegments, or_imp, forall_and, Segment.IsWritten] using inside
  | true => simpa [wholeSegments, coreSegments, or_imp, forall_and, Segment.IsWritten] using inside

section traversal

variable (check : Segment → Except Fault Unit)

theorem forM_ok_iff (list : List Segment) :
    forM list check = .ok () ↔ ∀ segment ∈ list, check segment = .ok () := by
  induction list with
  | nil => simp [pure, Except.pure]
  | cons segment others ih =>
    rw [List.forM_cons, List.forall_mem_cons, ← ih]
    cases check segment with
    | error fault => simp [bind, Except.bind]
    | ok _ => simp [bind, Except.bind]

/-- Nothing is checked behind the first segment that fails. -/
theorem forM_stops (before after : List Segment) (segment : Segment) (fault : Fault)
    (fine : ∀ earlier ∈ before, check earlier = .ok ()) (fails : check segment = .error fault) :
    forM (before ++ segment :: after) check = .error fault := by
  rw [List.forM_append, (forM_ok_iff check before).mpr fine, List.forM_cons, fails]
  rfl

theorem exists_of_forM_error (list : List Segment) (fault : Fault)
    (failed : forM list check = .error fault) : ∃ segment ∈ list, check segment = .error fault := by
  induction list with
  | nil => cases failed
  | cons segment others ih =>
    rw [List.forM_cons] at failed
    cases checked : check segment with
    | error other =>
      rw [checked] at failed
      cases failed
      exact ⟨segment, by simp, checked⟩
    | ok _ =>
      rw [checked] at failed
      obtain ⟨later, member, fails⟩ := ih failed
      exact ⟨later, by simp [member], fails⟩

end traversal

/-- A text that the statement rule reads to its end lies in segments from left to right. It is
refused exactly if one of them raises a fault, and then for the fault of the leftmost of these, however
deep that stands in the statement. -/
theorem leftmost_bad_token (text : String) (draft : Draft)
    (matched : (statement text.toList).found = some (draft, [])) :
    ∃ closed, Spanned (wholeSegments closed draft) text.toList [] ∧
      ((∃ fault, parse text = .error fault) ↔
        ∃ segment ∈ wholeSegments closed draft, ∃ fault, segment.Raises text.toList.length fault) ∧
      ∀ before segment after fault, wholeSegments closed draft = before ++ segment :: after →
        (∀ earlier ∈ before, ∀ other, ¬ earlier.Raises text.toList.length other) →
        segment.Raises text.toList.length fault → parse text = .error fault := by
  obtain ⟨sentence, closed, spanned⟩ := (statement_iff _ draft).mp matched
  have written := isWritten_whole closed draft sentence
  have checked := check_wholeSegments text.toList.length closed draft
  rw [parse_of_found text draft matched]
  refine ⟨closed, spanned, ?_, ?_⟩
  · constructor
    · rintro ⟨fault, failed⟩
      rw [failed] at checked
      obtain ⟨segment, member, fails⟩ := exists_of_forM_error _ _ fault checked
      exact ⟨segment, member, fault, (check_iff segment (written segment member)).mp fails⟩
    · rintro ⟨segment, member, fault, raises⟩
      have fails := (check_iff segment (written segment member)).mpr raises
      cases settled : settle text.toList.length draft with
      | error other => exact ⟨other, rfl⟩
      | ok node =>
        rw [settled] at checked
        have fine := (forM_ok_iff _ _).mp checked segment member
        rw [fails] at fine
        cases fine
  · intro before segment after fault split clean raises
    rw [split] at checked written
    have fine : ∀ earlier ∈ before, earlier.check text.toList.length = .ok () := fun earlier member =>
      (check_ok_iff earlier (written earlier (by simp [member]))).mpr (clean earlier member)
    have fails := (check_iff segment (written segment (by simp))).mpr raises
    rw [forM_stops _ before after segment fault fine fails] at checked
    cases settled : settle text.toList.length draft with
    | ok node =>
      rw [settled] at checked
      cases checked
    | error other =>
      rw [settled] at checked
      cases checked
      rfl

/-- The type of a cast stands before its operand, whose escape is unknown too. -/
theorem leftmost_bad_cast :
    parse "x + (double*) f(\"\\q\", 'Ā')" = .error (.unknownType "double*") := by
  have matched : (statement "x + (double*) f(\"\\q\", 'Ā')".toList).found =
      some (.operator .add (.identifier "x") (.cast ⟨"double".toList, true⟩ (.call "f"
        [.literal ⟨.string, "\"\\q\"".toList, 10⟩, .literal ⟨.character, "'Ā'".toList, 4⟩])), []) := by
    cbv
  obtain ⟨closed, _, _, leftmost⟩ := leftmost_bad_token _ _ matched
  refine leftmost [.gap false, .word "x", .gap false, .sign '+', .gap false, .sign '(', .gap false]
    (.type ⟨"double".toList, true⟩) _ _ rfl ?_ (.unknownType _ (by decide))
  intro earlier member other raises
  cases raises <;> simp at member

end HeapConsole.Grammar
