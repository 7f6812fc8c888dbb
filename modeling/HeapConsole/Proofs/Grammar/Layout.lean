import HeapConsole.Proofs.Grammar.Context
import HeapConsole.Proofs.Grammar.Soundness

/-! How a draft lies in a text: as segments that follow one another without a break. The segments are
read off the draft from left to right, so that their order is the order of the text. A draft can be
relocated, which keeps its segments and moves the places that its tokens remember. -/
namespace HeapConsole

namespace Statement

section relabelling

variable {τ ℓ : Type}

mutual

/-- The statement with a function applied to each of its literals. -/
def relabel (f : ℓ → ℓ) : Statement τ ℓ → Statement τ ℓ
  | .missing => .missing
  | .typeName type => .typeName type
  | .literal value => .literal (f value)
  | .identifier name => .identifier name
  | .declaration name type => .declaration name type
  | .operator op left right => .operator op (left.relabel f) (right.relabel f)
  | .cast type operand => .cast type (operand.relabel f)
  | .parenthesis inner => .parenthesis (inner.relabel f)
  | .dereference pointer => .dereference (pointer.relabel f)
  | .assignment target value => .assignment (target.relabel f) (value.relabel f)
  | .call function arguments => .call function (relabelAll f arguments)

def relabelAll (f : ℓ → ℓ) : List (Statement τ ℓ) → List (Statement τ ℓ)
  | [] => []
  | argument :: rest => argument.relabel f :: relabelAll f rest

end

theorem relabelAll_eq_map (f : ℓ → ℓ) (arguments : List (Statement τ ℓ)) :
    relabelAll f arguments = arguments.map (relabel f) := by
  induction arguments with
  | nil => rfl
  | cons argument rest ih => rw [relabelAll, ih, List.map_cons]

@[simp] theorem tightness_relabel (f : ℓ → ℓ) (statement : Statement τ ℓ) :
    (statement.relabel f).tightness = statement.tightness := by
  cases statement <;> rfl

@[simp] theorem isType_relabel (f : ℓ → ℓ) (statement : Statement τ ℓ) :
    (statement.relabel f).isType = statement.isType := by
  cases statement <;> rfl

theorem eq_typeName_of_relabel (f : ℓ → ℓ) (statement : Statement τ ℓ) (type : τ)
    (same : statement.relabel f = .typeName type) : statement = .typeName type := by
  cases statement <;> cases same
  rfl

variable {types : τ → Prop} {literals : ℓ → Prop} {f : ℓ → ℓ}
  (kept : ∀ value, literals value → literals (f value))

include kept

theorem IsExpression.relabel {statement : Statement τ ℓ}
    (expression : statement.IsExpression types literals) :
    (statement.relabel f).IsExpression types literals := by
  induction expression with
  | literal value known => exact .literal (f value) (kept value known)
  | identifier name named => exact .identifier name named
  | operator op left right loose tight _ _ onLeft onRight =>
    rw [← tightness_relabel f] at loose tight
    exact .operator op _ _ loose tight onLeft onRight
  | cast type operand known whole _ below =>
    rw [← tightness_relabel f] at whole
    exact .cast type _ known whole below
  | parenthesis inner _ below => exact .parenthesis _ below
  | dereference pointer whole _ below =>
    rw [← tightness_relabel f] at whole
    exact .dereference _ whole below
  | call function arguments named known _ below =>
    rw [Statement.relabel, relabelAll_eq_map]
    refine .call function _ named (fun type member => ?_) fun argument member value => ?_
    · obtain ⟨original, inside, same⟩ := List.mem_map.mp member
      rw [eq_typeName_of_relabel f original type same] at inside
      exact known type inside
    · obtain ⟨original, inside, rfl⟩ := List.mem_map.mp member
      rw [isType_relabel] at value
      exact below original inside value

theorem IsPlace.relabel {statement : Statement τ ℓ} (place : statement.IsPlace types literals) :
    (statement.relabel f).IsPlace types literals := by
  cases place with
  | declaration name type named known => exact .declaration name type named known
  | identifier name named => exact .identifier name named
  | dereference pointer whole below =>
    rw [← tightness_relabel f] at whole
    exact .dereference _ whole (below.relabel kept)

theorem IsSentence.relabel {statement : Statement τ ℓ}
    (sentence : statement.IsSentence types literals) :
    (statement.relabel f).IsSentence types literals := by
  cases sentence with
  | declaration name type named known => exact .declaration name type named known
  | assignment target value place valued =>
    exact .assignment _ _ (place.relabel kept) (valued.relabel kept)
  | expression _ valued => exact .expression _ (valued.relabel kept)

end relabelling

end Statement

namespace Grammar

open Text Statement

/-- Any number of blanks, or none, leads from one place of a text to another. -/
def Gap (input rest : List Char) : Prop := ∃ gap, Blanks gap ∧ input = gap ++ rest

section gaps

variable {input middle rest : List Char}

theorem gap_skipBlanks (input : List Char) : Gap input (skipBlanks input) :=
  ⟨input.takeWhile isBlank, mem_takeWhile isBlank input, List.takeWhile_append_dropWhile.symm⟩

theorem Gap.trans (first : Gap input middle) (second : Gap middle rest) : Gap input rest := by
  obtain ⟨gap, blank, rfl⟩ := first
  obtain ⟨more, moreBlank, rfl⟩ := second
  refine ⟨gap ++ more, fun c member => ?_, (List.append_assoc ..).symm⟩
  exact (List.mem_append.mp member).elim (blank c) (moreBlank c)

theorem Gap.skip (gap : Gap input rest) (visible : Ends isBlank rest) : skipBlanks input = rest := by
  obtain ⟨gap, blank, rfl⟩ := gap
  rw [skipBlanks_append gap rest blank, skipBlanks_of_ends rest visible]

theorem Gap.skipBlanks_eq (gap : Gap input rest) : skipBlanks input = skipBlanks rest := by
  obtain ⟨gap, blank, rfl⟩ := gap
  exact skipBlanks_append gap rest blank

theorem Gap.length_le (gap : Gap input rest) : rest.length ≤ input.length := by
  obtain ⟨gap, _, rfl⟩ := gap
  simp

theorem Gap.ends (gap : Gap input rest) (accepts : Char → Bool)
    (refusesBlanks : ∀ c, isBlank c = true → accepts c = false) (ends : Ends accepts rest) :
    Ends accepts input := by
  obtain ⟨gap, blank, rfl⟩ := gap
  exact ends_gap accepts gap rest blank refusesBlanks ends

theorem Follows.before {level : Nat} (follows : Follows level rest) (gap : Gap input rest) :
    Follows level input := by
  obtain ⟨gap, blank, rfl⟩ := gap
  exact .gap level gap rest blank follows

end gaps

/-- A stretch of text with a role of its own. Where a gap is needed, it is not empty. -/
inductive Segment where
  | gap (needed : Bool)
  | sign (c : Char)
  | word (name : String)
  | type (token : TypeToken)
  | literal (token : Token)
deriving DecidableEq, Repr

mutual

def segments : Draft → List Segment
  | .missing => []
  | .typeName type => [.type type]
  | .literal token => [.literal token]
  | .identifier name => [.word name]
  | .declaration name type => [.type type, .gap (!type.starred), .word name]
  | .operator op left right =>
    segments left ++ .gap false :: .sign op.mark :: .gap false :: segments right
  | .cast type operand =>
    .sign '(' :: .gap false :: .type type :: .gap false :: .sign ')' :: .gap false ::
      segments operand
  | .parenthesis inner =>
    .sign '(' :: .gap false :: (segments inner ++ [.gap false, .sign ')'])
  | .dereference pointer => .sign '*' :: .gap false :: segments pointer
  | .assignment target value =>
    segments target ++ .gap false :: .sign '=' :: .gap false :: segments value
  | .call function arguments =>
    .word function :: .gap false :: .sign '(' :: .gap false ::
      (argumentSegments arguments ++ [.gap false, .sign ')'])

def argumentSegments : List Draft → List Segment
  | [] => []
  | argument :: others => segments argument ++ otherSegments others

/-- Each further argument stands behind a comma. -/
def otherSegments : List Draft → List Segment
  | [] => []
  | argument :: others =>
    .gap false :: .sign ',' :: .gap false :: (segments argument ++ otherSegments others)

end

/-- A type is its keyword, and its star behind blanks if it has one. -/
def TypeToken.Spans (token : TypeToken) (input rest : List Char) : Prop :=
  ∃ behind, input = token.keyword ++ behind ∧
    if token.starred then Gap behind ('*' :: rest) else behind = rest

/-- A literal is its lexeme, and it remembers how much text there was. -/
def Token.Spans (token : Token) (input rest : List Char) : Prop :=
  input = token.lexeme ++ rest ∧ token.remaining = input.length

namespace Segment

/-- The segment is what stands between two places of a text. -/
def Spans : Segment → List Char → List Char → Prop
  | .gap needed, input, rest => Gap input rest ∧ (needed = true → input ≠ rest)
  | .sign c, input, rest => input = c :: rest
  | .word name, input, rest => input = name.toList ++ rest
  | .type token, input, rest => token.Spans input rest
  | .literal token, input, rest => token.Spans input rest

def relocate (f : Nat → Nat) : Segment → Segment
  | .literal token => .literal { token with remaining := f token.remaining }
  | segment => segment

end Segment

/-- The segments follow one another from the first place to the second. -/
def Spanned : List Segment → List Char → List Char → Prop
  | [], input, rest => input = rest
  | segment :: others, input, rest =>
    ∃ middle, segment.Spans input middle ∧ Spanned others middle rest

theorem spanned_append (front back : List Segment) (input rest : List Char) :
    Spanned (front ++ back) input rest ↔
      ∃ middle, Spanned front input middle ∧ Spanned back middle rest := by
  induction front generalizing input with
  | nil => simp [Spanned]
  | cons segment others ih =>
    simp only [List.cons_append, Spanned, ih]
    constructor
    · rintro ⟨first, spans, middle, more, behind⟩
      exact ⟨middle, ⟨first, spans, more⟩, behind⟩
    · rintro ⟨middle, ⟨first, spans, more⟩, behind⟩
      exact ⟨first, spans, middle, more, behind⟩

/-- A segment spans a text of its own, wherever that stands. -/
theorem Segment.Spans.relocate {segment : Segment} {input rest : List Char}
    (spans : segment.Spans input rest) :
    ∃ text, input = text ++ rest ∧ ∀ (f : Nat → Nat) (other : List Char),
      f (text ++ rest).length = (text ++ other).length →
        (segment.relocate f).Spans (text ++ other) other := by
  cases segment with
  | gap needed =>
    obtain ⟨⟨gap, blank, rfl⟩, apart⟩ := spans
    refine ⟨gap, rfl, fun f other _ => ⟨⟨gap, blank, rfl⟩, fun required same => ?_⟩⟩
    refine apart required ?_
    rw [List.append_left_eq_self.mp same, List.nil_append]
  | sign c => exact ⟨[c], spans, fun _ _ _ => rfl⟩
  | word name => exact ⟨name.toList, spans, fun _ _ _ => rfl⟩
  | type token =>
    obtain ⟨behind, rfl, ending⟩ := spans
    cases starred : token.starred with
    | true =>
      simp only [starred, if_true] at ending
      obtain ⟨gap, blank, rfl⟩ := ending
      refine ⟨token.keyword ++ (gap ++ ['*']), by simp, fun f other _ => ?_⟩
      refine ⟨gap ++ '*' :: other, by simp, ?_⟩
      rw [if_pos starred]
      exact ⟨gap, blank, rfl⟩
    | false =>
      simp only [starred, Bool.false_eq_true, if_false] at ending
      subst ending
      exact ⟨token.keyword, rfl, fun f other _ => ⟨other, rfl, by simp [starred]⟩⟩
  | literal token =>
    obtain ⟨rfl, placed⟩ := spans
    exact ⟨token.lexeme, rfl, fun f other moved => ⟨rfl, by simp only [placed, moved]⟩⟩

/-- What spans a text before one continuation spans it before every other, once the places are moved
by the difference. -/
theorem Spanned.relocate {list : List Segment} {input rest : List Char}
    (spanned : Spanned list input rest) :
    ∃ text, input = text ++ rest ∧ ∀ other,
      Spanned (list.map (Segment.relocate (· - rest.length + other.length))) (text ++ other)
        other := by
  induction list generalizing input with
  | nil => exact ⟨[], spanned, fun _ => rfl⟩
  | cons segment others ih =>
    obtain ⟨middle, spans, more⟩ := spanned
    obtain ⟨behind, rfl, movedBehind⟩ := ih more
    obtain ⟨front, rfl, movedFront⟩ := spans.relocate
    refine ⟨front ++ behind, (List.append_assoc ..).symm, fun other => ?_⟩
    refine ⟨behind ++ other, ?_, movedBehind other⟩
    rw [List.append_assoc]
    refine movedFront _ _ ?_
    simp only [List.length_append]
    omega

theorem Spanned.exists_text {list : List Segment} {input rest : List Char}
    (spanned : Spanned list input rest) : ∃ text, input = text ++ rest := by
  obtain ⟨text, same, _⟩ := spanned.relocate
  exact ⟨text, same⟩

def relocate (f : Nat → Nat) (draft : Draft) : Draft :=
  draft.relabel fun token => { token with remaining := f token.remaining }

mutual

theorem segments_relocate (f : Nat → Nat) :
    (draft : Draft) → segments (relocate f draft) = (segments draft).map (Segment.relocate f)
  | .missing => rfl
  | .typeName type => rfl
  | .literal token => rfl
  | .identifier name => rfl
  | .declaration name type => rfl
  | .operator op left right => by
    have onLeft := segments_relocate f left
    have onRight := segments_relocate f right
    simp_all [relocate, relabel, segments, Segment.relocate]
  | .cast type operand => by
    have below := segments_relocate f operand
    simp_all [relocate, relabel, segments, Segment.relocate]
  | .parenthesis inner => by
    have below := segments_relocate f inner
    simp_all [relocate, relabel, segments, Segment.relocate]
  | .dereference pointer => by
    have below := segments_relocate f pointer
    simp_all [relocate, relabel, segments, Segment.relocate]
  | .assignment target value => by
    have onLeft := segments_relocate f target
    have onRight := segments_relocate f value
    simp_all [relocate, relabel, segments, Segment.relocate]
  | .call function arguments => by
    have below := argumentSegments_relocate f arguments
    simp_all [relocate, relabel, segments, Segment.relocate]

theorem argumentSegments_relocate (f : Nat → Nat) :
    (drafts : List Draft) →
      argumentSegments (relabelAll (fun token => { token with remaining := f token.remaining })
        drafts) = (argumentSegments drafts).map (Segment.relocate f)
  | [] => rfl
  | argument :: others => by
    have head := segments_relocate f argument
    have tail := otherSegments_relocate f others
    simp_all [relocate, relabelAll, argumentSegments]

theorem otherSegments_relocate (f : Nat → Nat) :
    (drafts : List Draft) →
      otherSegments (relabelAll (fun token => { token with remaining := f token.remaining })
        drafts) = (otherSegments drafts).map (Segment.relocate f)
  | [] => rfl
  | argument :: others => by
    have head := segments_relocate f argument
    have tail := otherSegments_relocate f others
    simp_all [relocate, relabelAll, otherSegments, Segment.relocate]

end

end Grammar

end HeapConsole
