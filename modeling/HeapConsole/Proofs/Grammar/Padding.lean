import HeapConsole.Proofs.Grammar.Statements

/-! Blanks around a statement and a semicolon behind it make no difference: what is read depends on
the text between the outer blanks alone. -/
namespace HeapConsole

namespace Text

open Grammar

theorem ends_trimBlanks (text : List Char) :
    Ends isBlank (trimBlanks text) ∧ Ends isBlank (trimBlanks text).reverse := by
  refine ⟨?_, by rw [trimBlanks, List.reverse_reverse]; exact ends_dropWhile isBlank _⟩
  have front : trimBlanks text <+: skipBlanks text := by
    rw [trimBlanks, ← List.reverse_suffix, List.reverse_reverse]
    exact List.dropWhile_suffix isBlank
  intro c member
  refine ends_dropWhile isBlank text c ?_
  obtain ⟨behind, same⟩ := front
  have heads : (skipBlanks text).head? = some c := by
    rw [← same, List.head?_append, Option.mem_def.mp member, Option.some_or]
  exact heads

theorem exists_margins (text : List Char) :
    ∃ before after, Blanks before ∧ Blanks after ∧ text = before ++ (trimBlanks text ++ after) := by
  have margin := mem_takeWhile isBlank (skipBlanks text).reverse
  refine ⟨text.takeWhile isBlank, ((skipBlanks text).reverse.takeWhile isBlank).reverse,
    mem_takeWhile isBlank text, fun c member => margin c (List.mem_reverse.mp member), ?_⟩
  rw [trimBlanks, ← List.reverse_append, List.takeWhile_append_dropWhile, List.reverse_reverse]
  exact List.takeWhile_append_dropWhile.symm

/-- Only blanks are trimmed, and all of them. -/
theorem trimBlanks_eq (before core after : List Char) (blankBefore : Blanks before)
    (blankAfter : Blanks after) (opens : Ends isBlank core) (ends : Ends isBlank core.reverse) :
    trimBlanks (before ++ (core ++ after)) = core := by
  have blankBack : ∀ c ∈ after.reverse, isBlank c = true :=
    fun c member => blankAfter c (List.mem_reverse.mp member)
  rw [trimBlanks, skipBlanks_append before _ blankBefore]
  cases core with
  | nil => rw [List.nil_append, skipBlanks_blanks after blankAfter]; rfl
  | cons c others =>
    rw [List.cons_append, skipBlanks_cons c _ (opens c rfl), ← List.cons_append, List.reverse_append,
      dropWhile_of_ends isBlank _ _ blankBack ends, List.reverse_reverse]

theorem trimBlanks_pad (before text after : List Char) (blankBefore : Blanks before)
    (blankAfter : Blanks after) :
    trimBlanks (before ++ (text ++ after)) = trimBlanks text := by
  obtain ⟨opens, ends⟩ := ends_trimBlanks text
  obtain ⟨front, back, blankFront, blankBack, same⟩ := exists_margins text
  have wider : before ++ (text ++ after) =
      before ++ front ++ (trimBlanks text ++ (back ++ after)) := by
    rw [List.append_assoc, ← List.append_assoc (trimBlanks text), ← List.append_assoc front, ← same]
  rw [wider]
  exact trimBlanks_eq _ _ _ (List.forall_mem_append.mpr ⟨blankBefore, blankFront⟩)
    (List.forall_mem_append.mpr ⟨blankBack, blankAfter⟩) opens ends

end Text

namespace Grammar

open Text Statement

/-- The last character before the rest is visible. -/
def EndsVisibly (input rest : List Char) : Prop :=
  ∃ front c, isBlank c = false ∧ input = front ++ c :: rest

section endings

variable {input middle rest : List Char}

theorem EndsVisibly.after {list : List Segment} (ending : EndsVisibly middle rest)
    (spanned : Spanned list input middle) : EndsVisibly input rest := by
  obtain ⟨text, rfl⟩ := spanned.exists_text
  obtain ⟨front, c, visible, rfl⟩ := ending
  exact ⟨text ++ front, c, visible, (List.append_assoc ..).symm⟩

theorem endsVisibly_of_all (lexeme : List Char) (nonempty : lexeme ≠ [])
    (visible : ∀ c ∈ lexeme, isBlank c = false) : EndsVisibly (lexeme ++ rest) rest := by
  refine ⟨lexeme.dropLast, lexeme.getLast nonempty, visible _ (List.getLast_mem nonempty), ?_⟩
  conv => lhs; rw [← List.dropLast_append_getLast nonempty]
  simp

theorem endsVisibly_enclosed (mark : Char) (body : List Char) (visible : isBlank mark = false) :
    EndsVisibly (enclosed mark body ++ rest) rest :=
  ⟨mark :: body, mark, visible, by simp [enclosed]⟩

theorem isBlank_of_isDigit (c : Char) (digit : Numeral.isDigit c = true) : isBlank c = false :=
  isBlank_of_isNameChar c (by simp [isNameChar, digit])

theorem endsVisibly_token (token : Token) (written : token.IsWritten)
    (spans : token.Spans input rest) : EndsVisibly input rest := by
  obtain ⟨c, others, opening, _⟩ := written.head
  have nonempty : token.lexeme ≠ [] := by simp [opening]
  obtain ⟨rfl, _⟩ := spans
  obtain ⟨kind, lexeme, remaining⟩ := token
  -- No character of a numeral is a blank.
  have signed (negative : Bool) (magnitude : List Char)
      (visible : ∀ c ∈ magnitude, isBlank c = false) :
      ∀ c ∈ withSign negative magnitude, isBlank c = false := by
    cases negative with
    | false => exact visible
    | true => exact List.forall_mem_cons.mpr ⟨rfl, visible⟩
  cases kind with
  | double =>
    obtain ⟨negative, whole, fraction, power, rfl, several, digits, shape⟩ := written
    refine endsVisibly_of_all _ nonempty (signed negative _ ?_)
    have exponent : ∀ c ∈ power, isBlank c = false := by
      rcases shape with rfl | ⟨mark, places, marked, more, form⟩
      · simp
      have markVisible : isBlank mark = false := by
        simp only [Scan.isExponentMark, Bool.or_eq_true, beq_iff_eq] at marked
        rcases marked with rfl | rfl <;> rfl
      have placesVisible : ∀ c ∈ places, isBlank c = false :=
        fun c member => isBlank_of_isDigit c (more.2 c member)
      rcases form with rfl | ⟨sign, signs, rfl⟩
      · exact List.forall_mem_cons.mpr ⟨markVisible, placesVisible⟩
      · have signVisible : isBlank sign = false := by
          simp only [Scan.isSign, Bool.or_eq_true, beq_iff_eq] at signs
          rcases signs with rfl | rfl <;> rfl
        exact List.forall_mem_cons.mpr ⟨markVisible, List.forall_mem_cons.mpr
          ⟨signVisible, placesVisible⟩⟩
    refine List.forall_mem_append.mpr ⟨fun c member => isBlank_of_isDigit c (several.2 c member), ?_⟩
    refine List.forall_mem_cons.mpr ⟨rfl, List.forall_mem_append.mpr ⟨?_, exponent⟩⟩
    exact fun c member => isBlank_of_isDigit c (digits c member)
  | hexadecimal =>
    obtain ⟨negative, mark, digits, rfl, marked, several⟩ := written
    refine endsVisibly_of_all _ nonempty (signed negative _ ?_)
    refine List.forall_mem_cons.mpr ⟨rfl, List.forall_mem_cons.mpr ⟨?_, fun c member => ?_⟩⟩
    · simp only [Scan.isHexMark, Bool.or_eq_true, beq_iff_eq] at marked
      rcases marked with rfl | rfl <;> rfl
    · exact isBlank_of_isNameChar c (isNameChar_of_isHexDigit c (several.2 c member))
  | integer =>
    obtain ⟨negative, digits, rfl, several⟩ := written
    refine endsVisibly_of_all _ nonempty (signed negative _ ?_)
    exact fun c member => isBlank_of_isDigit c (several.2 c member)
  | character =>
    obtain ⟨piece, rfl, _⟩ := written
    exact endsVisibly_enclosed apostrophe piece (by decide)
  | string =>
    obtain ⟨pieces, rfl, _⟩ := written
    exact endsVisibly_enclosed quotationMark _ (by decide)

theorem endsVisibly_name (name : String) (named : IsName name) :
    EndsVisibly (name.toList ++ rest) rest := by
  refine endsVisibly_of_all _ ?_ fun c member => isBlank_of_isNameChar c (IsWord.chars named c member)
  obtain ⟨⟨c, others, same, _⟩, _⟩ := named
  simp [same]

theorem endsVisibly_sign (c : Char) (visible : isBlank c = false) : EndsVisibly (c :: rest) rest :=
  ⟨[], c, visible, rfl⟩

theorem endsVisibly_expression (draft : Draft)
    (expression : draft.IsExpression TypeToken.IsWritten Token.IsWritten)
    (spanned : Spanned (segments draft) input rest) : EndsVisibly input rest := by
  induction expression generalizing input with
  | literal token written =>
    obtain ⟨_, spans, rfl⟩ := spanned
    exact endsVisibly_token token written spans
  | identifier name named =>
    obtain ⟨_, rfl, rfl⟩ := spanned
    exact endsVisibly_name name named
  | operator op left right _ _ _ _ _ onRight =>
    rw [segments, List.append_cons, List.append_cons, List.append_cons] at spanned
    obtain ⟨middle, front, back⟩ := (spanned_append _ _ _ _).mp spanned
    exact (onRight back).after front
  | cast type operand _ _ _ below =>
    obtain ⟨middle, front, back⟩ := (spanned_append [_, _, _, _, _, _] _ _ _).mp spanned
    exact (below back).after front
  | parenthesis inner _ _ =>
    rw [segments, List.append_cons, ← List.cons_append, ← List.cons_append] at spanned
    obtain ⟨_, front, _, rfl, rfl⟩ := (spanned_append _ _ _ _).mp spanned
    exact (endsVisibly_sign ')' rfl).after front
  | dereference pointer _ _ below =>
    obtain ⟨middle, front, back⟩ := (spanned_append [_, _] _ _ _).mp spanned
    exact (below back).after front
  | call function arguments _ _ _ _ =>
    rw [segments, List.append_cons, ← List.cons_append, ← List.cons_append, ← List.cons_append,
      ← List.cons_append] at spanned
    obtain ⟨_, front, _, rfl, rfl⟩ := (spanned_append _ _ _ _).mp spanned
    exact (endsVisibly_sign ')' rfl).after front

theorem endsVisibly_sentence (draft : Draft)
    (sentence : draft.IsSentence TypeToken.IsWritten Token.IsWritten)
    (spanned : Spanned (segments draft) input rest) : EndsVisibly input rest := by
  cases sentence with
  | declaration name type named _ =>
    obtain ⟨middle, front, _, rfl, rfl⟩ := (spanned_append [_, _] _ _ _).mp spanned
    exact (endsVisibly_name name named).after front
  | assignment target value _ valued =>
    rw [segments, List.append_cons, List.append_cons, List.append_cons] at spanned
    obtain ⟨middle, front, back⟩ := (spanned_append _ _ _ _).mp spanned
    exact (endsVisibly_expression value valued back).after front
  | expression _ valued => exact endsVisibly_expression draft valued spanned

end endings

section settling

theorem toOption_bind {α β : Type} (first : Except Fault α) (next : α → Except Fault β) :
    (first >>= next).toOption = first.toOption.bind fun a => (next a).toOption := by
  cases first <;> rfl

theorem toOption_map {α β : Type} (f : α → β) (outcome : Except Fault α) :
    (outcome.map f).toOption = outcome.toOption.map f := by
  cases outcome <;> rfl

/-- Where a token stands matters to the fault that it raises, not to its meaning. -/
theorem toOption_settle_token (f : Nat → Nat) (length other : Nat) (token : Token) :
    (Token.settle other { token with remaining := f token.remaining }).toOption =
      (token.settle length).toOption := by
  obtain ⟨kind, lexeme, remaining⟩ := token
  cases kind with
  | double => rfl
  | hexadecimal => rfl
  | integer =>
    simp only [Token.settle, Token.settleInteger]
    split <;> rfl
  | character =>
    simp only [Token.settle, Token.settleCharacter, Token.body, toOption_bind]
    congr 1
    funext cs
    rcases cs with _ | ⟨c, _ | ⟨d, others⟩⟩
    · rfl
    · simp only
      split <;> rfl
    · rfl
  | string => rfl

mutual

theorem toOption_settle (f : Nat → Nat) (length other : Nat) :
    (draft : Draft) →
      (settle other (relocate f draft)).toOption = (settle length draft).toOption
  | .missing => rfl
  | .typeName type => rfl
  | .literal token => by
    have moved := toOption_settle_token f length other token
    simp only [relocate, relabel, settle, toOption_map, moved]
  | .identifier name => rfl
  | .declaration name type => rfl
  | .operator op left right => by
    have onLeft := toOption_settle f length other left
    have onRight := toOption_settle f length other right
    rw [relocate] at onLeft onRight
    simp only [relocate, relabel, settle, toOption_bind, onLeft, onRight]
  | .cast type operand => by
    have below := toOption_settle f length other operand
    rw [relocate] at below
    simp only [relocate, relabel, settle, toOption_bind, below]
  | .parenthesis inner => by
    have below := toOption_settle f length other inner
    rw [relocate] at below
    simp only [relocate, relabel, settle, toOption_map, below]
  | .dereference pointer => by
    have below := toOption_settle f length other pointer
    rw [relocate] at below
    simp only [relocate, relabel, settle, toOption_map, below]
  | .assignment target value => by
    have onLeft := toOption_settle f length other target
    have onRight := toOption_settle f length other value
    rw [relocate] at onLeft onRight
    simp only [relocate, relabel, settle, toOption_bind, onLeft, onRight]
  | .call function arguments => by
    have below := toOption_settleAll f length other arguments
    simp only [relocate, relabel, settle, toOption_map, below]

theorem toOption_settleAll (f : Nat → Nat) (length other : Nat) :
    (drafts : List Draft) →
      (settleAll other (relabelAll (fun token => { token with remaining := f token.remaining })
        drafts)).toOption = (settleAll length drafts).toOption
  | [] => rfl
  | draft :: drafts => by
    have first := toOption_settle f length other draft
    have others := toOption_settleAll f length other drafts
    rw [relocate] at first
    simp only [relabelAll, settleAll, toOption_bind, first, others]

end

theorem settle_relocate (f : Nat → Nat) (length other : Nat) (draft : Draft) (node : Node)
    (settled : settle length draft = .ok node) : settle other (relocate f draft) = .ok node := by
  have same := toOption_settle f length other draft
  rw [settled] at same
  cases moved : settle other (relocate f draft) with
  | error fault => rw [moved] at same; cases same
  | ok result => rw [moved] at same; cases same; rfl

/-- A statement can stand before any other text just as well, and means the same there. -/
theorem exists_elsewhere {closed : Bool} {draft : Draft} {node : Node} {length : Nat}
    {input rest : List Char} (sentence : draft.IsSentence TypeToken.IsWritten Token.IsWritten)
    (spanned : Spanned (coreSegments closed draft) input rest)
    (settled : settle length draft = .ok node) :
    ∃ core, input = core ++ rest ∧ ∀ other, ∃ moved : Draft,
      moved.IsSentence TypeToken.IsWritten Token.IsWritten ∧
      Spanned (coreSegments closed moved) (core ++ other) other ∧
      ∀ length, settle length moved = .ok node := by
  obtain ⟨core, same, moved⟩ := spanned.relocate
  refine ⟨core, same, fun other => ⟨relocate (· - rest.length + other.length) draft, ?_, ?_, ?_⟩⟩
  · exact relocate_sentence _ draft sentence
  · rw [coreSegments_relocate]
    exact moved other
  · exact fun other => settle_relocate _ length other draft node settled

end settling

theorem EndsVisibly.reverse {input : List Char} (ending : EndsVisibly input []) :
    Ends isBlank input.reverse := by
  obtain ⟨front, c, visible, rfl⟩ := ending
  rw [List.reverse_append]
  exact ends_cons isBlank c _ visible

/-- Neither end of a statement without its outer blanks is blank. -/
theorem ends_core (closed : Bool) (draft : Draft)
    (sentence : draft.IsSentence TypeToken.IsWritten Token.IsWritten) (core : List Char)
    (spanned : Spanned (coreSegments closed draft) core []) :
    Ends isBlank core ∧ Ends isBlank core.reverse := by
  obtain ⟨behind, body, closing⟩ := (spanned_append _ _ _ _).mp spanned
  cases closed with
  | false =>
    cases closing
    exact ⟨visible_sentence draft sentence body (.nil 0),
      (endsVisibly_sentence draft sentence body).reverse⟩
  | true =>
    obtain ⟨_, ⟨gap, apart⟩, _, rfl, rfl⟩ := closing
    have next : Follows 0 behind := Follows.before (.cons 0 ';' _ rfl (by decide)) gap
    have front : Spanned (segments draft ++ [.gap false]) core [';'] :=
      (spanned_append _ _ _ _).mpr ⟨behind, body, _, ⟨gap, apart⟩, rfl⟩
    exact ⟨visible_sentence draft sentence body next, ((endsVisibly_sign ';' rfl).after front).reverse⟩

/-- What is read depends on the text between the outer blanks alone. -/
theorem parse_ok_iff (text : String) (node : Node) :
    parse text = .ok node ↔
      ∃ draft closed, draft.IsSentence TypeToken.IsWritten Token.IsWritten ∧
        Spanned (coreSegments closed draft) (trimBlanks text.toList) [] ∧
        ∀ length, settle length draft = .ok node := by
  constructor
  · intro read
    obtain ⟨draft, found, settled⟩ := found_of_parse text node read
    obtain ⟨sentence, closed, _, ⟨⟨before, blankBefore, same⟩, _⟩, whole⟩ :=
      (statement_iff _ draft).mp found
    obtain ⟨after, spanned, _, ⟨⟨gap, blankAfter, ended⟩, _⟩, rfl⟩ := (spanned_append _ _ _ _).mp whole
    obtain ⟨core, rfl, elsewhere⟩ := exists_elsewhere sentence spanned settled
    obtain ⟨moved, sentenceHere, spannedHere, settledHere⟩ := elsewhere []
    rw [List.append_nil] at spannedHere
    obtain ⟨opens, ends⟩ := ends_core closed moved sentenceHere core spannedHere
    have blank : Blanks after := by rwa [ended, List.append_nil]
    rw [same, trimBlanks_eq before core after blankBefore blank opens ends]
    exact ⟨moved, closed, sentenceHere, spannedHere, settledHere⟩
  · rintro ⟨draft, closed, sentence, spanned, settled⟩
    obtain ⟨before, after, blankBefore, blankAfter, same⟩ := exists_margins text.toList
    obtain ⟨core, trimmed, elsewhere⟩ := exists_elsewhere sentence spanned (settled 0)
    obtain ⟨moved, sentenceHere, spannedHere, settledHere⟩ := elsewhere after
    rw [trimmed, List.append_nil] at same
    have whole : Spanned (wholeSegments closed moved) text.toList [] := by
      rw [same]
      refine ⟨core ++ after, ⟨⟨before, blankBefore, rfl⟩, nofun⟩, (spanned_append _ _ _ _).mpr
        ⟨after, spannedHere, ?_⟩⟩
      exact ⟨[], ⟨⟨after, blankAfter, (List.append_nil after).symm⟩, nofun⟩, rfl⟩
    rw [parse_of_found text moved ((statement_iff _ moved).mpr ⟨sentenceHere, closed, whole⟩)]
    exact settledHere _

/-- Blanks before and after a text change nothing about what is read, and neither does a semicolon
behind a statement that has none. -/
theorem padding_irrelevant (text before after last : String) (blankBefore : Blanks before.toList)
    (blankAfter : Blanks after.toList) (blankLast : Blanks last.toList) :
    (∀ node, parse (before ++ text ++ after) = .ok node ↔ parse text = .ok node) ∧
      ∀ node, parse text = .ok node → (trimBlanks text.toList).getLast? ≠ some ';' →
        parse (text ++ after ++ ";" ++ last) = .ok node := by
  constructor
  · intro node
    have trimmed : trimBlanks (before ++ text ++ after).toList = trimBlanks text.toList := by
      rw [String.toList_append, String.toList_append, List.append_assoc]
      exact trimBlanks_pad _ _ _ blankBefore blankAfter
    rw [parse_ok_iff, parse_ok_iff, trimmed]
  · intro node read unclosed
    obtain ⟨draft, closed, sentence, spanned, settled⟩ := (parse_ok_iff text node).mp read
    cases closed with
    | true =>
      -- The semicolon of a closed statement is its last visible character.
      obtain ⟨behind, body, _, gap, _, rfl, rfl⟩ := (spanned_append _ _ _ _).mp spanned
      have front : Spanned (segments draft ++ [.gap false]) (trimBlanks text.toList) [';'] :=
        (spanned_append _ _ _ _).mpr ⟨behind, body, _, gap, rfl⟩
      obtain ⟨start, same⟩ := front.exists_text
      exact absurd (by simp [same]) unclosed
    | false =>
      obtain ⟨front, back, blankFront, blankBack, same⟩ := exists_margins text.toList
      have gap : Blanks (back ++ after.toList) := List.forall_mem_append.mpr ⟨blankBack, blankAfter⟩
      obtain ⟨core, trimmed, elsewhere⟩ := exists_elsewhere sentence spanned (settled 0)
      obtain ⟨moved, sentenceHere, spannedHere, settledHere⟩ :=
        elsewhere (back ++ after.toList ++ [';'])
      obtain ⟨_, body, rfl⟩ := (spanned_append _ _ _ _).mp spannedHere
      have closedHere : Spanned (coreSegments true moved)
          (core ++ (back ++ after.toList ++ [';'])) [] :=
        (spanned_append _ _ _ _).mpr ⟨_, body, [';'], ⟨⟨_, gap, rfl⟩, nofun⟩, [], rfl, rfl⟩
      obtain ⟨opens, ends⟩ := ends_core true moved sentenceHere _ closedHere
      have whole : (text ++ after ++ ";" ++ last).toList =
          front ++ (core ++ (back ++ after.toList ++ [';']) ++ last.toList) := by
        rw [trimmed, List.append_nil] at same
        simp [same]
      refine (parse_ok_iff _ node).mpr ⟨moved, true, sentenceHere, ?_, settledHere⟩
      rw [whole, trimBlanks_eq front _ last.toList blankFront blankLast opens ends]
      exact closedHere

/-- The semicolon between the apostrophes is not the last visible character. -/
theorem padding_around_quoted_semicolon :
    parse ("\t" ++ "c = ';'" ++ "\n ") = .ok (.assignment (.identifier "c") (.literal (.char 59))) ∧
      parse ("c = ';'" ++ "\n " ++ ";" ++ " ") =
        .ok (.assignment (.identifier "c") (.literal (.char 59))) := by
  have read : parse "c = ';'" = .ok (.assignment (.identifier "c") (.literal (.char 59))) := by cbv
  have blank (gap : String) (all : gap.toList.all isBlank = true) : Blanks gap.toList :=
    List.all_eq_true.mp all
  obtain ⟨padded, closed⟩ := padding_irrelevant "c = ';'" "\t" "\n " " " (blank _ rfl) (blank _ rfl)
    (blank _ rfl)
  exact ⟨(padded _).mpr read, closed _ read (by decide)⟩

end Grammar

end HeapConsole
