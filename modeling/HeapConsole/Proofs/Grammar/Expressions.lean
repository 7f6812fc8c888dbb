import HeapConsole.Proofs.Grammar.Spelling

/-! Every expression that is laid out in a text is read back. The order of the alternatives and the
greed of the repetitions never lead a rule astray, because of what can begin each part of an
expression and what can come next behind it. -/
namespace HeapConsole.Grammar

open HeapConsole.Grammar.Parser Text Statement

theorem Spanned.length_le {list : List Segment} {input rest : List Char}
    (spanned : Spanned list input rest) : rest.length ≤ input.length := by
  obtain ⟨text, rfl⟩ := spanned.exists_text
  simp

theorem beq_of_class (accepts : Char → Bool) (c d : Char) (accepted : accepts c = true)
    (refused : accepts d = false) : (c == d) = false := by
  refine beq_eq_false_iff_ne.mpr ?_
  rintro rfl
  simp [accepted] at refused

theorem ends_name {name : String} (named : IsName name) (rest : List Char) (accepts : Char → Bool)
    (refuses : ∀ c, accepts c = true → isNameStart c = false) :
    Ends accepts (name.toList ++ rest) := by
  obtain ⟨⟨c, others, same, starts, _⟩, _⟩ := named
  rw [same]
  refine ends_cons accepts c _ ?_
  rw [← Bool.not_eq_true]
  intro accepted
  simp [refuses c accepted] at starts

theorem ends_name_sign {name : String} (named : IsName name) (rest : List Char) (sign : Char)
    (unnamed : isNameStart sign = false) : Ends (· == sign) (name.toList ++ rest) :=
  ends_name named rest _ fun c same => by rwa [beq_iff_eq.mp same]

section openings

variable {input rest : List Char}

theorem endsName_gap {c : Char} {behind : List Char} (gap : Gap input (c :: behind))
    (outside : isNameChar c = false) : Ends isNameChar input :=
  gap.ends isNameChar isNameChar_of_isBlank (ends_cons _ c behind outside)

theorem visible_type {token : TypeToken} (written : token.IsWritten)
    (spans : token.Spans input rest) : Ends isBlank input := by
  obtain ⟨behind, rfl, _⟩ := spans
  have heads : Scan.keywords.all (·.head?.any (!isBlank ·)) = true := rfl
  have visible := List.all_eq_true.mp heads token.keyword written
  cases word : token.keyword with
  | nil => simp [word] at visible
  | cons c others => exact ends_cons _ c _ (by simpa [word] using visible)

theorem opening_unary (draft : Draft) (drafted : DraftAt 2 draft)
    (spanned : Spanned (segments draft) input rest) (follows : Follows 3 rest) : Opening input := by
  obtain ⟨expression, whole⟩ := drafted
  cases expression with
  | literal token written =>
    obtain ⟨_, ⟨rfl, _⟩, rfl⟩ := spanned
    obtain ⟨c, others, same, opens⟩ := written.head
    rw [same]
    exact opening_of_head c _ (isBlank_of_opensLiteral c opens) (isNameStart_of_opensLiteral c opens)
  | identifier name named =>
    obtain ⟨_, rfl, rfl⟩ := spanned
    exact opening_of_name name _ named (follows.endsName (by decide))
  | operator op left right _ _ _ _ =>
    have := op.tightness_le
    have : 2 ≤ op.tightness := whole
    omega
  | cast type operand _ _ _ =>
    obtain ⟨_, rfl, _⟩ := spanned
    exact opening_of_head '(' _ rfl rfl
  | parenthesis inner _ =>
    obtain ⟨_, rfl, _⟩ := spanned
    exact opening_of_head '(' _ rfl rfl
  | dereference pointer _ _ =>
    obtain ⟨_, rfl, _⟩ := spanned
    exact opening_of_head '*' _ rfl rfl
  | call function arguments named _ _ =>
    obtain ⟨_, rfl, _, ⟨gap, _⟩, _, rfl, _⟩ := spanned
    exact opening_of_name function _ named (endsName_gap gap rfl)

/-- An expression begins with a whole part, and what comes next behind it does not belong to that
part. -/
theorem leftmost (draft : Draft)
    (expression : draft.IsExpression TypeToken.IsWritten Token.IsWritten)
    (spanned : Spanned (segments draft) input rest) (follows : Follows 2 rest) :
    ∃ head middle, DraftAt 2 head ∧ Spanned (segments head) input middle ∧ Follows 2 middle := by
  induction draft using leftInduction generalizing rest with
  | whole draft whole => exact ⟨draft, rest, ⟨expression, Nat.le_of_eq whole.symm⟩, spanned, follows⟩
  | operator op left right ih =>
    cases expression with
    | operator _ _ _ _ _ onLeft _ =>
      obtain ⟨middle, spannedLeft, _, ⟨gap, _⟩, _, rfl, _⟩ := (spanned_append _ _ _ _).mp spanned
      refine ih onLeft spannedLeft (Follows.before (.cons 2 op.mark _ (by cases op <;> rfl) ?_) gap)
      exact followers_mono _ 2 (Nat.succ_le_succ op.tightness_le) _ (mark_follows op)

theorem opening_expression (draft : Draft)
    (expression : draft.IsExpression TypeToken.IsWritten Token.IsWritten)
    (spanned : Spanned (segments draft) input rest) (follows : Follows 2 rest) : Opening input := by
  obtain ⟨head, middle, drafted, first, next⟩ := leftmost draft expression spanned follows
  exact opening_unary head drafted first (next.mono 3 (by decide))

end openings

/-- The parser reads every draft that binds at least as tightly as the level says and stands in the
text before what may follow it, if it takes less of the text than the bound. -/
def Recovers (bound level follow : Nat) (p : Parser Draft) : Prop :=
  ∀ draft input rest, DraftAt level draft → Spanned (segments draft) input rest →
    input.length < rest.length + bound → Follows follow rest → (p input).found = some (draft, rest)

theorem Recovers.narrow {bound level follow : Nat} {p : Parser Draft}
    (recovers : Recovers bound level follow p) (lower : Nat) (ordered : lower ≤ follow) :
    Recovers bound level lower p :=
  fun draft input rest drafted spanned short follows =>
    recovers draft input rest drafted spanned short (follows.mono follow ordered)

section chains

variable {bound level : Nat} {operand : Parser Draft} {operator : Parser Operator}

theorem found_link (op : Operator) (draft : Draft) {input behind right rest : List Char}
    (before : Gap input (op.mark :: behind)) (after : Gap behind right) (visible : Ends isBlank right)
    (operators : ∀ text, (operator (op.symbol.toList ++ text)).found = some (op, text))
    (operands : (operand right).found = some (draft, rest)) :
    (link operand operator input).found = some ((op, draft), rest) := by
  have shown : skipBlanks input = op.symbol.toList ++ behind := by
    rw [Operator.symbol_toList]
    exact before.skip (ends_cons _ op.mark _ (by cases op <;> rfl))
  simp only [link, found_bind_iff, found_blanks_iff, found_pure_iff]
  exact ⟨(), _, shown, op, behind, operators behind, (), right, after.skip visible, draft, rest,
    operands, rfl, rfl⟩

theorem found_link_none (rest : List Char) (follows : Follows level rest)
    (operators : ∀ text op behind, (operator text).found = some (op, behind) →
      op.tightness = level ∧ text = op.symbol.toList ++ behind) :
    (link operand operator rest).found = none := by
  simp only [link, found_bind, found_blanks, Option.bind_some]
  cases found : (operator (skipBlanks rest)).found with
  | none => rfl
  | some pair =>
    obtain ⟨rfl, same⟩ := operators _ pair.1 pair.2 found
    rw [Operator.symbol_toList] at same
    exact absurd (follows pair.1.mark (by simp [same])) (mark_not_follows pair.1)

variable (operators : ∀ text op rest, (operator text).found = some (op, rest) ↔
  op.tightness = level ∧ text = op.symbol.toList ++ rest)

include operators

/-- The operands of a chain are read one after the other and joined to the draft, and the links of
the text behind are left as they are. -/
theorem found_links (bounded : level ≤ 1)
    (operands : Recovers bound (level + 1) (level + 1) operand) (draft : Draft)
    (input rest : List Char) (drafted : DraftAt level draft)
    (spanned : Spanned (segments draft) input rest) (short : input.length < rest.length + bound)
    (follows : Follows (level + 1) rest) :
    ∃ head tail middle, (operand input).found = some (head, middle) ∧
      tail.foldl (fun left x => .operator x.1 left x.2) head = draft ∧
      ∀ more final, (many (link operand operator) rest).found = some (more, final) →
        (many (link operand operator) middle).found = some (tail ++ more, final) := by
  obtain ⟨expression, loose⟩ := drafted
  -- Repetition reads the links from left to right, and the tree nests them the other way: the
  -- statement lets any further links follow, so that the last operator can be peeled off first.
  induction draft using leftInduction generalizing rest with
  | whole draft whole =>
    have found := operands draft input rest ⟨expression, by omega⟩ spanned short follows
    exact ⟨draft, [], rest, found, rfl, fun _ _ behind => behind⟩
  | operator op left right ih =>
    by_cases above : level + 1 ≤ op.tightness
    · have found := operands _ input rest ⟨expression, above⟩ spanned short follows
      exact ⟨_, [], rest, found, rfl, fun _ _ behind => behind⟩
    have atLevel : op.tightness = level := Nat.le_antisymm (by omega) loose
    cases expression with
    | operator _ _ _ loose tight onLeft onRight =>
      obtain ⟨middle, spannedLeft, _, ⟨before, _⟩, behind, rfl, start, ⟨after, _⟩, spannedRight⟩ :=
        (spanned_append _ _ _ _).mp spanned
      have reaches := spannedLeft.length_le
      have starts := before.length_le
      have stays := after.length_le
      have stops := spannedRight.length_le
      simp only [List.length_cons] at starts
      have opening := opening_expression right onRight spannedRight (follows.mono 2 (by omega))
      have found := operands right start rest ⟨onRight, by omega⟩ spannedRight (by omega) follows
      have linked := found_link op right before after opening.visible
        (fun text => (operators _ op text).mpr ⟨atLevel, rfl⟩) found
      have next : Follows (level + 1) middle := by
        refine Follows.before (.cons _ op.mark _ (by cases op <;> rfl) ?_) before
        exact atLevel ▸ mark_follows op
      obtain ⟨head, tail, first, readHead, joined, further⟩ := ih middle spannedLeft (by omega) next
        onLeft (by omega)
      refine ⟨head, tail ++ [(op, right)], first, readHead, by simp [joined], fun more final links => ?_⟩
      have extended := further _ final (found_many_cons _ middle _ final (op, right) more linked
        (by omega) links)
      simpa using extended

theorem recovers_chain (bounded : level ≤ 1)
    (operands : Recovers bound (level + 1) (level + 1) operand) :
    Recovers bound level level (chain operand operator) := by
  intro draft input rest drafted spanned short follows
  have stops : (link operand operator rest).found = none :=
    found_link_none rest follows fun text op behind => (operators text op behind).mp
  obtain ⟨head, tail, middle, first, joined, further⟩ := found_links operators bounded operands draft
    input rest drafted spanned short (follows.mono _ (Nat.le_succ level))
  have others := further [] rest (found_many_nil _ rest stops)
  rw [List.append_nil] at others
  simp only [chain, found_bind_iff, found_pure_iff]
  exact ⟨head, middle, first, tail, rest, others, joined, rfl⟩

end chains

section heads

variable (unary : Parser Draft)

theorem found_char_none (c : Char) (text : List Char) (ends : Ends (· == c) text) :
    (char c text).found = none := by
  cases text with
  | nil => rfl
  | cons d rest => rw [found_char_cons, if_neg (by simpa using ends d rfl)]

theorem dereferenceWith_none (text : List Char) (ends : Ends (· == '*') text) :
    (dereferenceWith unary text).found = none := by
  rw [dereferenceWith, found_rule, found_bind, found_char_none '*' text ends]
  rfl

theorem castWith_none (text : List Char) (ends : Ends (· == '(') text) :
    (castWith unary text).found = none := by
  rw [castWith, found_rule, found_bind, found_char_none '(' text ends]
  rfl

theorem groupWith_none (text : List Char) (ends : Ends (· == '(') text) :
    (groupWith unary text).found = none := by
  rw [groupWith, found_rule, found_bind, found_char_none '(' text ends]
  rfl

theorem callWith_none (text : List Char) (ends : Ends isNameStart text) :
    (callWith unary text).found = none := by
  rw [callWith, found_rule, found_bind, found_identifier_none text ends]
  rfl

theorem callWith_none_of_name (name : String) (rest : List Char) (named : IsName name)
    (ends : Ends isNameChar rest) (unopened : Ends (· == '(') (skipBlanks rest)) :
    (callWith unary (name.toList ++ rest)).found = none := by
  rw [callWith, found_rule, found_bind, identifier_complete name rest named ends, Option.bind_some,
    found_bind, found_blanks, Option.bind_some, found_bind, found_char_none '(' _ unopened]
  rfl

theorem castWith_none_of_opening {behind input : List Char} (gap : Gap behind input)
    (opening : Opening input) : (castWith unary ('(' :: behind)).found = none := by
  rw [castWith, found_rule, found_bind, found_char_cons, if_pos rfl, Option.bind_some, found_bind,
    found_blanks, Option.bind_some, gap.skip opening.visible, found_bind,
    found_typeName_none input opening.unreserved]
  rfl

theorem unaryWith_closed (rest : List Char) : (unaryWith unary (')' :: rest)).found = none := by
  rw [unaryWith, found_rule, found_orElse, found_orElse, primaryWith, found_rule, found_orElse,
    found_orElse, found_orElse, found_map, found_map,
    dereferenceWith_none unary _ (ends_cons _ ')' rest rfl),
    castWith_none unary _ (ends_cons _ ')' rest rfl),
    callWith_none unary _ (ends_cons _ ')' rest rfl), literal_none _ (ends_cons _ ')' rest rfl),
    groupWith_none unary _ (ends_cons _ ')' rest rfl),
    found_identifier_none _ (ends_cons _ ')' rest rfl)]
  rfl

theorem argumentsWith_none (rest : List Char) (closed : (unary (')' :: rest)).found = none) :
    (argumentsWith unary (')' :: rest)).found = none := by
  have untyped : Scan.typeKeyword (')' :: rest) = none :=
    (opening_of_head ')' rest rfl rfl).unreserved
  have missed : (argumentWith unary (')' :: rest)).found = none := by
    rw [argumentWith, found_rule, found_orElse, typeArgument, found_rule, found_bind,
      found_typeName_none _ untyped, Option.bind_none, Option.none_or, expressionWith, found_rule,
      chain, found_bind, termWith, found_rule, chain, found_bind, closed]
    rfl
  rw [argumentsWith, found_rule, found_bind, missed]
  rfl

end heads

/-- Behind blanks comes what ends an argument. -/
def ClosesArgument (rest : List Char) : Prop :=
  ∃ c behind, (c = ')' ∨ c = ',') ∧ Gap rest (c :: behind)

theorem ClosesArgument.follows {rest : List Char} (closes : ClosesArgument rest) :
    Follows 0 rest := by
  obtain ⟨c, behind, sign, gap⟩ := closes
  refine Follows.before ?_ gap
  rcases sign with rfl | rfl
  · exact .cons 0 ')' behind rfl (by decide)
  · exact .cons 0 ',' behind rfl (by decide)

section nested

variable {unary : Parser Draft} {bound : Nat} {input rest : List Char}
  (unaries : Recovers bound 2 3 unary)

/-- A type is read before blanks and a sign that is neither a word nor a star. -/
theorem found_type_before (token : TypeToken) {c : Char} {behind : List Char}
    (written : token.IsWritten) (spans : token.Spans input rest) (gap : Gap rest (c :: behind))
    (visible : isBlank c = false) (outside : isNameChar c = false) (starless : c ≠ '*') :
    (typeName input).found = some (token, rest) := by
  refine typeName_complete token input rest written spans fun _ => ⟨endsName_gap gap outside, ?_⟩
  rw [gap.skip (ends_cons _ c behind visible)]
  exact ends_cons _ c behind (by simpa using starless)

include unaries

theorem recovers_expressionWith : Recovers bound 0 0 (expressionWith unary) := by
  have terms : Recovers bound 1 1 (termWith unary) := by
    intro draft input rest drafted spanned short follows
    rw [termWith, found_rule]
    exact recovers_chain mulOperator_iff (Nat.le_refl 1) (unaries.narrow 2 (by decide)) draft input
      rest drafted spanned short follows
  intro draft input rest drafted spanned short follows
  rw [expressionWith, found_rule]
  exact recovers_chain addOperator_iff (by decide) terms draft input rest drafted spanned short
    follows

theorem found_dereferenceWith (pointer : Draft) (below : DraftAt 2 pointer)
    (spanned : Spanned (segments (.dereference pointer)) input rest)
    (short : input.length ≤ rest.length + bound) (follows : Follows 3 rest) :
    (dereferenceWith unary input).found = some (.dereference pointer, rest) := by
  obtain ⟨behind, rfl, start, ⟨gap, _⟩, spanned⟩ := spanned
  have shorter := gap.length_le
  rw [List.length_cons] at short
  have opening := opening_unary pointer below spanned follows
  have found := unaries pointer start rest below spanned (by omega) follows
  simp only [dereferenceWith, found_rule, found_bind_iff, found_char_iff, found_blanks_iff,
    found_pure_iff]
  exact ⟨(), behind, rfl, (), start, gap.skip opening.visible, pointer, rest, found, rfl, rfl⟩

theorem found_castWith (type : TypeToken) (operand : Draft) (known : type.IsWritten)
    (below : DraftAt 2 operand) (spanned : Spanned (segments (.cast type operand)) input rest)
    (short : input.length ≤ rest.length + bound) (follows : Follows 3 rest) :
    (castWith unary input).found = some (.cast type operand, rest) := by
  obtain ⟨opened, rfl, word, ⟨first, _⟩, typed, spans, _, ⟨second, _⟩, closed, rfl, start, ⟨third, _⟩,
    spanned⟩ := spanned
  have reaches := first.length_le
  have starts := second.length_le
  have stays := third.length_le
  have alone : Spanned [.type type] word typed := ⟨_, spans, rfl⟩
  have stops := alone.length_le
  simp only [List.length_cons] at short starts
  have opening := opening_unary operand below spanned follows
  have found := unaries operand start rest below spanned (by omega) follows
  simp only [castWith, found_rule, found_bind_iff, found_char_iff, found_blanks_iff, found_pure_iff]
  exact ⟨(), opened, rfl, (), word, first.skip (visible_type known spans), type, typed,
    found_type_before type known spans second rfl rfl (by decide), (), _,
    second.skip (ends_cons _ ')' _ rfl), (), closed, rfl, (), start, third.skip opening.visible,
    operand, rest, found, rfl, rfl⟩

theorem found_groupWith (inner : Draft)
    (below : inner.IsExpression TypeToken.IsWritten Token.IsWritten)
    (spanned : Spanned (segments (.parenthesis inner)) input rest)
    (short : input.length ≤ rest.length + bound) :
    (groupWith unary input).found = some (.parenthesis inner, rest) := by
  obtain ⟨opened, rfl, start, ⟨before, _⟩, enclosed⟩ := spanned
  obtain ⟨behind, spanned, _, ⟨after, _⟩, _, rfl, rfl⟩ := (spanned_append _ _ _ _).mp enclosed
  have starts := before.length_le
  have stops := after.length_le
  simp only [List.length_cons] at short stops
  have follows : Follows 0 behind := Follows.before (.cons 0 ')' _ rfl (by decide)) after
  have opening := opening_expression inner below spanned (follows.mono 2 (by decide))
  have found := recovers_expressionWith unaries inner start behind ⟨below, Nat.zero_le _⟩ spanned
    (by omega) follows
  simp only [groupWith, found_rule, found_bind_iff, found_char_iff, found_blanks_iff, found_pure_iff]
  exact ⟨(), opened, rfl, (), start, before.skip opening.visible, inner, behind, found, (), _,
    after.skip (ends_cons _ ')' _ rfl), (), _, rfl, rfl, rfl⟩

omit unaries in
theorem visible_argument (argument : Draft)
    (valid : argument.IsArgument TypeToken.IsWritten Token.IsWritten)
    (spanned : Spanned (segments argument) input rest) (closes : ClosesArgument rest) :
    Ends isBlank input := by
  cases isType : argument.isType with
  | true =>
    cases argument with
    | typeName type =>
      obtain ⟨_, spans, _⟩ := spanned
      exact visible_type (valid.known type rfl) spans
    | _ => cases isType
  | false =>
    exact (opening_expression argument (valid.below isType) spanned
      (closes.follows.mono 2 (by decide))).visible

theorem found_argumentWith (argument : Draft)
    (valid : argument.IsArgument TypeToken.IsWritten Token.IsWritten)
    (spanned : Spanned (segments argument) input rest) (short : input.length < rest.length + bound)
    (closes : ClosesArgument rest) :
    (argumentWith unary input).found = some (argument, rest) := by
  cases isType : argument.isType with
  | true =>
    cases argument with
    | typeName type =>
      obtain ⟨_, spans, rfl⟩ := spanned
      obtain ⟨c, behind, sign, gap⟩ := closes
      have signs : isBlank c = false ∧ isNameChar c = false ∧ c ≠ '*' := by
        rcases sign with rfl | rfl <;> decide
      have found := found_type_before type (valid.known type rfl) spans gap signs.1 signs.2.1 signs.2.2
      have closed : ((char ')' <|> char ',' : Parser Unit) (c :: behind)).found =
          some ((), behind) := by
        rw [found_orElse, found_char_cons, found_char_cons]
        rcases sign with rfl | rfl <;> rfl
      rw [argumentWith, found_rule, found_orElse, typeArgument, found_rule, found_bind, found,
        Option.bind_some, found_bind, found_ahead, found_bind, found_blanks, Option.bind_some,
        gap.skip (ends_cons _ c behind signs.1), closed]
      rfl
    | _ => cases isType
  | false =>
    have expression := valid.below isType
    have opening := opening_expression argument expression spanned
      (closes.follows.mono 2 (by decide))
    rw [argumentWith, found_rule, found_orElse, typeArgument, found_rule, found_bind,
      found_typeName_none _ opening.unreserved, Option.bind_none, Option.none_or]
    exact recovers_expressionWith unaries argument input rest ⟨expression, Nat.zero_le _⟩ spanned short
      closes.follows

/-- The further arguments of a call are read up to its closing parenthesis. -/
theorem found_others (others : List Draft)
    (valid : ∀ draft ∈ others, draft.IsArgument TypeToken.IsWritten Token.IsWritten)
    (spanned : Spanned (otherSegments others) input rest)
    (short : input.length < rest.length + bound) {behind : List Char}
    (closing : Gap rest (')' :: behind)) :
    (many (anotherWith unary) input).found = some (others, rest) ∧ ClosesArgument input := by
  induction others generalizing input with
  | nil =>
    cases spanned
    refine ⟨found_many_nil _ _ ?_, ')', behind, .inl rfl, closing⟩
    rw [anotherWith, found_bind, found_blanks, Option.bind_some,
      closing.skip (ends_cons _ ')' _ rfl), found_bind,
      found_char_none ',' _ (ends_cons _ ')' _ rfl)]
    rfl
  | cons argument others ih =>
    obtain ⟨_, ⟨before, _⟩, separated, rfl, start, ⟨after, _⟩, listed⟩ := spanned
    obtain ⟨middle, first, further⟩ := (spanned_append _ _ _ _).mp listed
    have starts := before.length_le
    have stays := after.length_le
    have reaches := first.length_le
    have stops := further.length_le
    simp only [List.length_cons] at starts
    obtain ⟨more, closes⟩ := ih (fun draft member => valid draft (by simp [member])) further (by omega)
    have known := valid argument (by simp)
    have visible := visible_argument argument known first closes
    have found := found_argumentWith unaries argument known first (by omega) closes
    refine ⟨found_many_cons _ input middle rest argument others ?_ (by omega) more, ',', _, .inr rfl,
      before⟩
    simp only [anotherWith, found_bind_iff, found_blanks_iff, found_char_iff]
    exact ⟨(), _, before.skip (ends_cons _ ',' _ rfl), (), separated, rfl, (), start,
      after.skip visible, found⟩

theorem found_callWith (function : String) (arguments : List Draft) (named : IsName function)
    (valid : ∀ draft ∈ arguments, draft.IsArgument TypeToken.IsWritten Token.IsWritten)
    (closed : ∀ behind, (unary (')' :: behind)).found = none)
    (spanned : Spanned (segments (.call function arguments)) input rest)
    (short : input.length ≤ rest.length + bound) :
    (callWith unary input).found = some (.call function arguments, rest) := by
  obtain ⟨called, rfl, _, ⟨first, _⟩, opened, rfl, start, ⟨second, _⟩, enclosed⟩ := spanned
  obtain ⟨behind, listed, _, ⟨third, _⟩, final, rfl, rfl⟩ := (spanned_append _ _ _ _).mp enclosed
  have starts := first.length_le
  have stays := second.length_le
  have stops := third.length_le
  simp only [List.length_append, List.length_cons] at short starts stops
  have read := identifier_complete function called named (endsName_gap first rfl)
  have closing := third.skip (ends_cons isBlank ')' _ rfl)
  -- Without arguments the two gaps run into one, and the parenthesis is where they would begin.
  have collected : ∃ found middle, (optional (argumentsWith unary) (skipBlanks opened)).found =
      some (found, middle) ∧ found.getD [] = arguments ∧ skipBlanks middle = ')' :: final := by
    cases arguments with
    | nil =>
      cases listed
      rw [second.skipBlanks_eq, closing]
      refine ⟨none, _, found_optional_none _ _ (argumentsWith_none unary final (closed final)), rfl, ?_⟩
      exact skipBlanks_of_ends _ (ends_cons _ ')' final rfl)
    | cons argument others =>
      obtain ⟨middle, head, tail⟩ := (spanned_append _ _ _ _).mp listed
      have reaches := head.length_le
      have further := tail.length_le
      obtain ⟨more, closes⟩ := found_others unaries others
        (fun draft member => valid draft (by simp [member])) tail (by omega) third
      have known := valid argument (by simp)
      have found := found_argumentWith unaries argument known head (by omega) closes
      rw [second.skip (visible_argument argument known head closes)]
      refine ⟨some (argument :: others), behind, found_optional_some _ _ _ _ ?_ ?_, rfl, closing⟩
      · rintro rfl
        simp only [List.length_nil] at reaches
        omega
      · simp only [argumentsWith, found_rule, found_bind_iff, found_pure_iff]
        exact ⟨argument, middle, found, others, behind, more, rfl, rfl⟩
  obtain ⟨found, middle, collect, rfl, close⟩ := collected
  simp only [callWith, found_rule, found_bind_iff, found_char_iff, found_blanks_iff, found_pure_iff]
  exact ⟨function, called, read, (), _, first.skip (ends_cons _ '(' _ rfl), (), opened, rfl, (), _, rfl,
    found, middle, collect, (), _, close, (), final, rfl, rfl, rfl⟩

end nested

theorem found_literalWith (unary : Parser Draft) (token : Token) (input rest : List Char)
    (written : token.IsWritten) (spans : token.Spans input rest) (follows : Follows 3 rest) :
    (unaryWith unary input).found = some (.literal token, rest) := by
  have pointless : Ends (· == '.') rest :=
    follows.ends _ (fun c blank => beq_of_class isBlank c '.' blank rfl) rfl
  have found := literal_complete token input rest written spans (follows.endsName (by decide))
    pointless
  obtain ⟨c, others, same, opens⟩ := written.head
  rw [spans.1, same, List.cons_append] at found ⊢
  rw [unaryWith, found_rule, found_orElse, found_orElse, primaryWith, found_rule, found_orElse,
    dereferenceWith_none unary _ (ends_cons _ c _ (beq_of_class _ c '*' opens rfl)),
    castWith_none unary _ (ends_cons _ c _ (beq_of_class _ c '(' opens rfl)),
    callWith_none unary _ (ends_cons _ c _ (isNameStart_of_opensLiteral c opens)), found_orElse,
    found_map, found]
  rfl

theorem found_nameWith (unary : Parser Draft) (name : String) (rest : List Char)
    (named : IsName name) (follows : Follows 3 rest) :
    (unaryWith unary (name.toList ++ rest)).found = some (.identifier name, rest) := by
  have ends := follows.endsName (Nat.le_refl 3)
  have uncalled := callWith_none_of_name unary name rest named ends (follows.next _ rfl)
  have noLiteral := literal_none _ (ends_name named rest _ isNameStart_of_opensLiteral)
  rw [unaryWith, found_rule, found_orElse, found_orElse, primaryWith, found_rule, found_orElse,
    dereferenceWith_none unary _ (ends_name_sign named rest '*' rfl),
    castWith_none unary _ (ends_name_sign named rest '(' rfl), uncalled, found_orElse, found_map,
    noLiteral, found_orElse, groupWith_none unary _ (ends_name_sign named rest '(' rfl), found_map,
    identifier_complete name rest named ends]
  rfl

/-- Each kind of whole expression is read one level further down. -/
theorem recovers_unaryWith {unary : Parser Draft} {bound : Nat} (unaries : Recovers bound 2 3 unary)
    (closed : ∀ behind, (unary (')' :: behind)).found = none) :
    Recovers (bound + 1) 2 3 (unaryWith unary) := by
  intro draft input rest drafted spanned short follows
  obtain ⟨expression, tight⟩ := drafted
  cases expression with
  | literal token written =>
    obtain ⟨_, spans, rfl⟩ := spanned
    exact found_literalWith unary token input _ written spans follows
  | identifier name named =>
    obtain ⟨_, rfl, rfl⟩ := spanned
    exact found_nameWith unary name _ named follows
  | operator op _ _ _ _ _ _ =>
    have := op.tightness_le
    have : 2 ≤ op.tightness := tight
    omega
  | cast type operand known whole below =>
    have found := found_castWith unaries type operand known ⟨below, Nat.le_of_eq whole.symm⟩ spanned
      (by omega) follows
    obtain ⟨_, rfl, _⟩ := spanned
    rw [unaryWith, found_rule, found_orElse, dereferenceWith_none unary _ (ends_cons _ '(' _ rfl),
      found_orElse, found]
    rfl
  | parenthesis inner below =>
    have found := found_groupWith unaries inner below spanned (by omega)
    obtain ⟨opened, rfl, start, ⟨before, _⟩, enclosed⟩ := spanned
    obtain ⟨behind, spanned, _, ⟨after, _⟩, _, rfl, rfl⟩ := (spanned_append _ _ _ _).mp enclosed
    have opening := opening_expression inner below spanned
      (Follows.before (.cons 2 ')' _ rfl (by decide)) after)
    rw [unaryWith, found_rule, found_orElse, dereferenceWith_none unary _ (ends_cons _ '(' _ rfl),
      found_orElse, castWith_none_of_opening unary before opening, primaryWith, found_rule,
      found_orElse, callWith_none unary _ (ends_cons _ '(' _ rfl), found_orElse, found_map,
      literal_none _ (ends_cons _ '(' _ rfl), found_orElse, found]
    rfl
  | dereference pointer whole below =>
    have found := found_dereferenceWith unaries pointer ⟨below, Nat.le_of_eq whole.symm⟩ spanned
      (by omega) follows
    rw [unaryWith, found_rule, found_orElse, found]
    rfl
  | call function arguments named known below =>
    have found := found_callWith unaries function arguments named
      (fun draft member => ⟨fun type same => known type (same ▸ member), below draft member⟩) closed
      spanned (by omega)
    obtain ⟨called, rfl, _⟩ := spanned
    rw [unaryWith, found_rule, found_orElse, found_orElse, primaryWith, found_rule, found_orElse,
      dereferenceWith_none unary _ (ends_name_sign named called '*' rfl),
      castWith_none unary _ (ends_name_sign named called '(' rfl), found]
    rfl

/-- Nesting as deep as the text is long is always enough. -/
theorem recovers_unaryAt (depth : Nat) :
    Recovers depth 2 3 (unaryAt depth) ∧
      ∀ behind, (unaryAt depth (')' :: behind)).found = none := by
  induction depth with
  | zero =>
    refine ⟨fun draft input rest _ spanned short _ => ?_, fun _ => rfl⟩
    have := spanned.length_le
    omega
  | succ depth ih => exact ⟨recovers_unaryWith ih.1 ih.2, unaryWith_closed (unaryAt depth)⟩

theorem recovers_unary (bound : Nat) : Recovers bound 2 3 unary := by
  intro draft input rest drafted spanned _ follows
  exact (recovers_unaryAt (input.length + 1)).1 draft input rest drafted spanned (by omega) follows

theorem recovers_expression (bound : Nat) : Recovers bound 0 0 expression :=
  recovers_expressionWith (recovers_unary bound)

end HeapConsole.Grammar
