import HeapConsole.Grammar
import HeapConsole.Proofs.Grammar.Tokens

/-! Whatever is read belongs to the language. The rules read drafts of its trees, because of which
rule calls which; settling keeps the shape of a draft, or fails for a reason of syntax. -/
namespace HeapConsole.Grammar

open HeapConsole.Grammar.Parser Statement

def TypeToken.IsWritten (token : TypeToken) : Prop := token.keyword ∈ Scan.keywords

def Token.IsWritten (token : Token) : Prop :=
  match token.kind with
  | .double => IsDouble token.lexeme
  | .hexadecimal => IsHexadecimal token.lexeme
  | .integer => IsInteger token.lexeme
  | .character => IsCharacter token.lexeme
  | .string => IsString token.lexeme

/-- A draft of an expression that binds at least as tightly as the level says. -/
def DraftAt (level : Nat) (draft : Draft) : Prop :=
  draft.IsExpression TypeToken.IsWritten Token.IsWritten ∧ level ≤ draft.tightness

theorem DraftAt.whole {draft : Draft} (drafted : DraftAt 2 draft) : draft.tightness = 2 :=
  Nat.le_antisymm draft.tightness_le drafted.2

section yields

theorem yields_typeName : Yields typeName TypeToken.IsWritten := by
  intro text token rest found
  rw [found_typeName] at found
  obtain ⟨⟨keyword, behind⟩, scanned, found⟩ := Option.bind_eq_some_iff.mp found
  obtain ⟨star, _, same⟩ := Option.map_eq_some_iff.mp found
  cases same
  exact (Scan.typeKeyword_sound text keyword behind scanned).1

theorem yields_identifier : Yields identifier IsName :=
  fun text name rest found => (identifier_sound text name rest found).2

theorem yields_literalOf (kind : TokenKind) (scan : Scanner)
    (sound : ∀ text lexeme rest, scan text = some (lexeme, rest) →
      ∀ remaining, Token.IsWritten ⟨kind, lexeme, remaining⟩) :
    Yields (literalOf kind scan) Token.IsWritten := by
  intro text token rest found
  rw [found_literalOf] at found
  obtain ⟨⟨lexeme, behind⟩, scanned, same⟩ := Option.map_eq_some_iff.mp found
  cases same
  exact sound text lexeme behind scanned _

theorem yields_literal : Yields literal Token.IsWritten := by
  refine Yields.rule (.orElse ?_ (.orElse ?_ (.orElse ?_ (.orElse ?_ ?_))))
  · exact yields_literalOf _ _ fun text lexeme rest scanned _ =>
      (Scan.double_sound text lexeme rest scanned).2
  · exact yields_literalOf _ _ fun text lexeme rest scanned _ =>
      (Scan.hexadecimal_sound text lexeme rest scanned).2
  · exact yields_literalOf _ _ fun text lexeme rest scanned _ =>
      (Scan.integer_sound text lexeme rest scanned).2
  · exact yields_literalOf _ _ fun text lexeme rest scanned _ =>
      (Scan.character_sound text lexeme rest scanned).2
  · exact yields_literalOf _ _ fun text lexeme rest scanned _ =>
      (Scan.string_sound text lexeme rest scanned).2

theorem yields_addOperator : Yields addOperator fun op => op.tightness = 0 :=
  fun text op rest found => ((addOperator_iff text op rest).mp found).1

theorem yields_mulOperator : Yields mulOperator fun op => op.tightness = 1 :=
  fun text op rest found => ((mulOperator_iff text op rest).mp found).1

/-- Joining operands from the left keeps them on their level. -/
theorem draftAt_foldl (level : Nat) (head : Draft) (tail : List (Operator × Draft))
    (first : DraftAt level head)
    (others : ∀ x ∈ tail, x.1.tightness = level ∧ DraftAt (level + 1) x.2) :
    DraftAt level (tail.foldl (fun left x => .operator x.1 left x.2) head) := by
  induction tail generalizing head with
  | nil => exact first
  | cons x tail ih =>
    obtain ⟨atLevel, onRight, tight⟩ := others x (by simp)
    refine ih (.operator x.1 head x.2) ⟨?_, ?_⟩ fun y member => others y (by simp [member])
    · exact .operator x.1 head x.2 (atLevel ▸ first.2) (by omega) first.1 onRight
    · exact Nat.le_of_eq atLevel.symm

theorem yields_chain (level : Nat) (operand : Parser Draft) (operator : Parser Operator)
    (operands : Yields operand (DraftAt (level + 1)))
    (operators : Yields operator fun op => op.tightness = level) :
    Yields (chain operand operator) (DraftAt level) := by
  have step : Yields (link operand operator) fun x =>
      x.1.tightness = level ∧ DraftAt (level + 1) x.2 :=
    .after _ fun _ => operators.bind fun op atLevel => .after _ fun _ =>
      operands.bind fun right tight => yields_pure _ ⟨atLevel, tight⟩
  refine operands.bind fun head first => step.many.bind fun tail others => yields_pure _ ?_
  exact draftAt_foldl level head tail ⟨first.1, by have := first.2; omega⟩ others

section nested

variable (unary : Parser Draft) (unaries : Yields unary (DraftAt 2))

include unaries

theorem yields_expressionWith : Yields (expressionWith unary) (DraftAt 0) :=
  .rule (yields_chain 0 _ _ (.rule (yields_chain 1 _ _ unaries yields_mulOperator))
    yields_addOperator)

theorem yields_dereferenceWith : Yields (dereferenceWith unary) fun draft =>
    DraftAt 2 draft ∧ draft.IsPlace TypeToken.IsWritten Token.IsWritten := by
  refine Yields.rule (.after _ fun _ => .after _ fun _ => unaries.bind fun pointer below => ?_)
  refine yields_pure _ ⟨⟨.dereference pointer below.whole below.1, Nat.le_refl 2⟩, ?_⟩
  exact .dereference pointer below.whole below.1

theorem yields_castWith : Yields (castWith unary) (DraftAt 2) := by
  refine Yields.rule (.after _ fun _ => .after _ fun _ => yields_typeName.bind fun type known => ?_)
  refine .after _ fun _ => .after _ fun _ => .after _ fun _ => unaries.bind fun operand below => ?_
  exact yields_pure _ ⟨.cast type operand known below.whole below.1, Nat.le_refl 2⟩

theorem yields_groupWith : Yields (groupWith unary) (DraftAt 2) := by
  refine Yields.rule (.after _ fun _ => .after _ fun _ => ?_)
  refine (yields_expressionWith unary unaries).bind fun inner below => ?_
  exact .after _ fun _ => .after _ fun _ => yields_pure _ ⟨.parenthesis inner below.1, Nat.le_refl 2⟩

theorem yields_argumentWith :
    Yields (argumentWith unary) (IsArgument TypeToken.IsWritten Token.IsWritten) := by
  refine Yields.rule (.orElse (.rule (yields_typeName.bind fun type known => ?_)) ?_)
  · refine .after _ fun _ => yields_pure _ ⟨?_, fun value => by cases value⟩
    rintro other same
    cases same
    exact known
  · refine (yields_expressionWith unary unaries).weaken fun draft below => ⟨?_, fun _ => below.1⟩
    rintro type rfl
    cases below.1

theorem yields_argumentsWith :
    Yields (argumentsWith unary) fun drafts =>
      ∀ draft ∈ drafts, draft.IsArgument TypeToken.IsWritten Token.IsWritten := by
  have argument := yields_argumentWith unary unaries
  refine Yields.rule (argument.bind fun head first => ?_)
  refine (Yields.many (.after _ fun _ => .after _ fun _ => .after _ fun _ => argument)).bind
    fun tail others => yields_pure _ ?_
  simpa using ⟨first, others⟩

theorem yields_callWith : Yields (callWith unary) (DraftAt 2) := by
  refine Yields.rule (yields_identifier.bind fun function named => ?_)
  refine .after _ fun _ => .after _ fun _ => .after _ fun _ => ?_
  refine (yields_argumentsWith unary unaries).optional.bind fun arguments below => ?_
  refine .after _ fun _ => .after _ fun _ => yields_pure _ ⟨?_, Nat.le_refl 2⟩
  refine isExpression_call _ _ function _ named ?_
  cases arguments with
  | none => simp
  | some drafts => exact below drafts rfl

theorem yields_unaryWith : Yields (unaryWith unary) (DraftAt 2) := by
  refine Yields.rule (.orElse ?_ (.orElse (yields_castWith unary unaries) (.rule ?_)))
  · exact (yields_dereferenceWith unary unaries).weaken fun draft below => below.1
  · refine .orElse (yields_callWith unary unaries) (.orElse ?_ (.orElse ?_ ?_))
    · exact yields_literal.map _ fun token known => ⟨.literal token known, Nat.le_refl 2⟩
    · exact yields_groupWith unary unaries
    · exact yields_identifier.map _ fun name named => ⟨.identifier name named, Nat.le_refl 2⟩

end nested

theorem yields_unaryAt (depth : Nat) : Yields (unaryAt depth) (DraftAt 2) := by
  induction depth with
  | zero => exact yields_fail
  | succ depth ih => exact yields_unaryWith (unaryAt depth) ih

theorem yields_unary : Yields unary (DraftAt 2) :=
  fun text draft rest found => yields_unaryAt (text.length + 1) text draft rest found

theorem yields_expression : Yields expression (DraftAt 0) :=
  yields_expressionWith unary yields_unary

theorem yields_declaration : Yields declaration fun draft =>
    draft.IsPlace TypeToken.IsWritten Token.IsWritten ∧
      draft.IsSentence TypeToken.IsWritten Token.IsWritten := by
  refine Yields.rule (yields_typeName.bind fun type known => .after _ fun _ => ?_)
  refine yields_identifier.bind fun name named => yields_pure _ ⟨?_, ?_⟩
  · exact .declaration name type named known
  · exact .declaration name type named known

theorem yields_assignTarget :
    Yields assignTarget (IsPlace TypeToken.IsWritten Token.IsWritten) := by
  refine Yields.rule (.orElse ?_ (.orElse ?_ ?_))
  · exact yields_declaration.weaken fun draft place => place.1
  · exact (yields_dereferenceWith unary yields_unary).weaken fun draft below => below.2
  · exact yields_identifier.map _ fun name named => .identifier name named

theorem yields_statementBody :
    Yields statementBody (IsSentence TypeToken.IsWritten Token.IsWritten) := by
  refine Yields.rule (.orElse (.rule ?_) (.orElse ?_ ?_))
  · refine yields_assignTarget.bind fun target place => ?_
    refine .after _ fun _ => .after _ fun _ => .after _ fun _ => ?_
    refine yields_expression.bind fun value valued => yields_pure _ ?_
    exact .assignment target value place valued.1
  · exact yields_declaration.weaken fun draft sentence => sentence.2
  · exact yields_expression.weaken fun draft valued => .expression draft valued.1

theorem yields_statement : Yields statement (IsSentence TypeToken.IsWritten Token.IsWritten) := by
  refine Yields.rule (.after _ fun _ => yields_statementBody.bind fun body sentence => ?_)
  exact .after _ fun _ => .after _ fun _ => .after _ fun _ => yields_pure _ sentence

end yields

/-- A char token stands for exactly one character, if its escape is known. -/
def Token.IsSingle (token : Token) : Prop :=
  token.kind = .character → ∀ cs, unescape token.body = .ok cs → ∃ c, cs = [c]

theorem Token.IsWritten.isSingle {token : Token} (written : token.IsWritten) : token.IsSingle := by
  intro kind cs read
  obtain ⟨kind, lexeme, remaining⟩ := token
  cases kind
  obtain ⟨piece, rfl, shape⟩ := written
  rw [body_enclosed] at read
  exact unescape_piece _ piece cs shape read

/-- The literal is the meaning of a written token in a text of the given length, and a char is the
very character that the token stands for. -/
def IsReading (length : Nat) (literal : Literal) : Prop :=
  ∃ token : Token, token.IsWritten ∧ token.settle length = .ok literal ∧
    ∀ byte, literal = .char byte → ∃ c, unescape token.body = .ok [c] ∧ c.toNat = byte.toNat

/-- Settling fails for a reason of syntax, or gives something with the property. -/
inductive Settles {α : Type} (property : α → Prop) : Except Fault α → Prop where
  | ok (a : α) (holds : property a) : Settles property (.ok a)
  | error (fault : Fault) (syntactic : fault.errorClass = .syntactic)
      (kind : fault.code.kind = .syntactic) : Settles property (.error fault)

section settling

variable {α β : Type} {P Q : α → Prop} {R : β → Prop}

theorem Settles.cases {outcome : Except Fault α} (settled : Settles P outcome) :
    (∃ a, outcome = .ok a ∧ P a) ∨
      ∃ fault, outcome = .error fault ∧
        fault.errorClass = .syntactic ∧ fault.code.kind = .syntactic := by
  cases settled with
  | ok a holds => exact .inl ⟨a, rfl, holds⟩
  | error fault syntactic kind => exact .inr ⟨fault, rfl, syntactic, kind⟩

theorem Settles.imp (outcome : Except Fault α) (settled : Settles P outcome)
    (implies : ∀ a, outcome = .ok a → P a → Q a) : Settles Q outcome := by
  cases settled with
  | ok a holds => exact .ok a (implies a rfl holds)
  | error fault syntactic kind => exact .error fault syntactic kind

theorem Settles.bind (first : Except Fault α) (next : α → Except Fault β)
    (settled : Settles P first) (then_ : ∀ a, P a → Settles R (next a)) :
    Settles R (first >>= next) := by
  cases settled with
  | ok a holds => exact then_ a holds
  | error fault syntactic kind => exact .error fault syntactic kind

theorem Settles.map (f : α → β) (outcome : Except Fault α) (settled : Settles P outcome)
    (implies : ∀ a, P a → R (f a)) : Settles R (outcome.map f) := by
  cases settled with
  | ok a holds => exact .ok (f a) (implies a holds)
  | error fault syntactic kind => exact .error fault syntactic kind

/-- No keyword names the type of native functions. -/
theorem settles_type (token : TypeToken) (written : token.IsWritten) :
    Settles DataType.IsNamed token.settle := by
  obtain ⟨keyword, starred⟩ := token
  have known : ∀ word ∈ Scan.keywords, ∀ starred : Bool,
      DataType.ofName? (TypeToken.name ⟨word, starred⟩) ≠ some .nativeFunction := by
    decide
  unfold TypeToken.settle DataType.ofName
  split
  · next type named =>
    refine .ok type ?_
    rintro rfl
    exact known keyword written starred named
  · exact .error _ rfl rfl

theorem settles_unescape (cs : List Char) : Settles (fun _ => True) (unescape cs) := by
  fun_induction unescape cs with
  | case1 => exact .ok [] trivial
  | case2 => exact .error _ rfl rfl
  | case3 c rest d known ih => exact .map _ _ ih fun _ _ => trivial
  | case4 => exact .error _ rfl rfl
  | case5 c rest _ _ ih => exact .map _ _ ih fun _ _ => trivial

/-- A char is the character of its token, and no other with the same last byte. -/
theorem settle_char (length : Nat) (token : Token) (byte : UInt8)
    (settled : token.settle length = .ok (.char byte)) :
    ∃ c, unescape token.body = .ok [c] ∧ c.toNat = byte.toNat := by
  obtain ⟨kind, lexeme, remaining⟩ := token
  cases kind with
  | double => cases settled
  | hexadecimal => cases settled
  | integer =>
    simp only [Token.settle, Token.settleInteger] at settled
    split at settled
    · cases settled
    · cases settled
  | string =>
    simp only [Token.settle] at settled
    cases read : unescape (Token.body ⟨.string, lexeme, remaining⟩) with
    | error fault => simp [read, Except.map] at settled
    | ok cs => simp [read, Except.map] at settled
  | character =>
    simp only [Token.settle, Token.settleCharacter] at settled
    cases read : unescape (Token.body ⟨.character, lexeme, remaining⟩) with
    | error fault => simp [read, bind, Except.bind] at settled
    | ok cs =>
      simp only [read, bind, Except.bind] at settled
      split at settled
      · next c =>
        split at settled
        · next fits =>
          cases settled
          exact ⟨c, rfl, by simp; omega⟩
        · cases settled
      · cases settled

theorem settles_anything (length : Nat) (token : Token) :
    Settles (fun _ => True) (token.settle length) := by
  obtain ⟨kind, lexeme, remaining⟩ := token
  cases kind with
  | double => exact .ok _ trivial
  | hexadecimal => exact .ok _ trivial
  | integer =>
    simp only [Token.settle, Token.settleInteger]
    split
    · exact .ok _ trivial
    · exact .error _ rfl rfl
  | character =>
    refine .bind _ _ (settles_unescape _) fun cs _ => ?_
    split
    · split
      · exact .ok _ trivial
      · exact .error _ rfl rfl
    · exact .error _ rfl rfl
  | string => exact .map _ _ (settles_unescape _) fun _ _ => trivial

theorem settles_token (length : Nat) (token : Token) (written : token.IsWritten) :
    Settles (IsReading length) (token.settle length) := by
  refine (settles_anything length token).imp _ fun literal settled _ => ?_
  refine ⟨token, written, settled, ?_⟩
  rintro byte rfl
  exact settle_char length token byte settled

theorem settles_all (length : Nat) (property : Node → Prop) (drafts : List Draft)
    (settled : ∀ draft ∈ drafts, Settles property (settle length draft)) :
    Settles (fun nodes => ∀ node ∈ nodes, property node) (settleAll length drafts) := by
  induction drafts with
  | nil => exact .ok [] (by simp)
  | cons draft drafts ih =>
    rw [settleAll]
    refine .bind _ _ (settled draft (by simp)) fun node holds => ?_
    refine .bind _ _ (ih fun other member => settled other (by simp [member])) fun nodes others => ?_
    exact .ok (node :: nodes) (List.forall_mem_cons.mpr ⟨holds, others⟩)

/-- Settling keeps the shape of an expression, and with it how tightly it binds. -/
theorem settles_expression (length : Nat) (draft : Draft)
    (drafted : draft.IsExpression TypeToken.IsWritten Token.IsWritten) :
    Settles (fun node => node.IsExpression DataType.IsNamed (IsReading length) ∧
      node.tightness = draft.tightness) (settle length draft) := by
  induction drafted with
  | literal token known =>
    rw [settle]
    exact .map _ _ (settles_token length token known) fun literal read => ⟨.literal literal read, rfl⟩
  | identifier name named => exact .ok _ ⟨.identifier name named, rfl⟩
  | operator op left right loose tight _ _ onLeft onRight =>
    rw [settle]
    refine .bind _ _ onLeft fun l ⟨leftShape, leftTight⟩ => ?_
    refine .bind _ _ onRight fun r ⟨rightShape, rightTight⟩ => .ok _ ⟨?_, rfl⟩
    exact .operator op l r (leftTight ▸ loose) (rightTight ▸ tight) leftShape rightShape
  | cast type operand known whole _ below =>
    rw [settle]
    refine .bind _ _ (settles_type type known) fun t named => ?_
    refine .bind _ _ below fun inner ⟨shape, tight⟩ => .ok _ ⟨?_, rfl⟩
    exact .cast t inner named (tight.trans whole) shape
  | parenthesis inner _ below =>
    rw [settle]
    exact .map _ _ below fun node holds => ⟨.parenthesis node holds.1, rfl⟩
  | dereference pointer whole _ below =>
    rw [settle]
    exact .map _ _ below fun node holds =>
      ⟨.dereference node (holds.2.trans whole) holds.1, rfl⟩
  | call function arguments named known _ below =>
    rw [settle]
    refine .map _ _ (settles_all length (IsArgument DataType.IsNamed (IsReading length)) arguments
      fun draft member => ?_) fun nodes all => ⟨isExpression_call _ _ function nodes named all, rfl⟩
    cases isType : draft.isType with
    | true =>
      cases draft with
      | typeName type =>
        rw [settle]
        refine .map _ _ (settles_type type (known type member)) fun t named => ⟨?_, nofun⟩
        rintro other same
        cases same
        exact named
      | _ => cases isType
    | false =>
      refine (below draft member isType).imp _ fun node _ holds => ⟨?_, fun _ => holds.1⟩
      rintro type rfl
      cases holds.1

theorem settles_place (length : Nat) (draft : Draft)
    (place : draft.IsPlace TypeToken.IsWritten Token.IsWritten) :
    Settles (IsPlace DataType.IsNamed (IsReading length)) (settle length draft) := by
  cases place with
  | declaration name type named known =>
    rw [settle]
    exact .map _ _ (settles_type type known) fun t known => .declaration name t named known
  | identifier name named => exact .ok _ (.identifier name named)
  | dereference pointer whole below =>
    rw [settle]
    exact .map _ _ (settles_expression length pointer below) fun node holds =>
      .dereference node (holds.2.trans whole) holds.1

theorem settles_sentence (length : Nat) (draft : Draft)
    (sentence : draft.IsSentence TypeToken.IsWritten Token.IsWritten) :
    Settles (IsSentence DataType.IsNamed (IsReading length)) (settle length draft) := by
  cases sentence with
  | declaration name type named known =>
    rw [settle]
    exact .map _ _ (settles_type type known) fun t known => .declaration name t named known
  | assignment target value place valued =>
    rw [settle]
    refine .bind _ _ (settles_place length target place) fun left onLeft => ?_
    refine .bind _ _ (settles_expression length value valued) fun right onRight => ?_
    exact .ok _ (.assignment left right onLeft onRight.1)
  | expression draft valued =>
    exact (settles_expression length draft valued).imp _ fun node _ holds =>
      .expression node holds.1

theorem settles_parse (text : String) :
    Settles (IsSentence DataType.IsNamed (IsReading text.toList.length)) (parse text) := by
  rw [parse]
  rcases read : statement text.toList with ⟨_ | ⟨draft, _ | ⟨c, rest⟩⟩, stops⟩
  · exact .error _ rfl rfl
  · have found : (statement text.toList).found = some (draft, []) := by rw [read]
    exact settles_sentence _ draft (yields_statement text.toList draft [] found)
  · exact .error _ rfl rfl

theorem isSentence_of_parse (text : String) (node : Node) (read : parse text = .ok node) :
    node.IsSentence DataType.IsNamed (IsReading text.toList.length) := by
  have settled := settles_parse text
  rw [read] at settled
  cases settled with
  | ok _ sentence => exact sentence

end settling

/-- What the rule reads is the symbol of the operator that it gives. -/
def ReadsSymbol (operator : Parser Operator) : Prop :=
  ∀ text op rest, (operator text).found = some (op, rest) → text = op.symbol.toList ++ rest

/-- Every text is refused for a reason of syntax or read as a statement of the language. On the way
each token has the shape that its kind asks for, so that none of the conversions of tokens can fail
in another way: a char token stands for a single character, and an operator is its own symbol. -/
theorem parse_sound (text : String) :
    ((∃ node, parse text = .ok node ∧
        node.IsSentence DataType.IsNamed (IsReading text.toList.length)) ∨
      ∃ fault, parse text = .error fault ∧
        fault.errorClass = .syntactic ∧ fault.code.kind = .syntactic) ∧
    Yields statement (IsSentence TypeToken.IsWritten Token.IsWritten) ∧
    (∀ token : Token, token.IsWritten → token.IsSingle) ∧
    ReadsSymbol addOperator ∧ ReadsSymbol mulOperator := by
  refine ⟨?_, yields_statement, ?_, ?_, ?_⟩
  · exact Settles.cases (settles_parse text)
  · exact fun token written => written.isSingle
  · exact fun text op rest found => ((addOperator_iff text op rest).mp found).2
  · exact fun text op rest found => ((mulOperator_iff text op rest).mp found).2

end HeapConsole.Grammar
