import HeapConsole.Proofs.Grammar.Tokens

/-! What stands around the parts of a written statement: the characters that can begin one, and the
characters that can come next behind it. -/
namespace HeapConsole.Grammar

open HeapConsole.Grammar.Parser Text Statement

theorem isDigit_iff (c : Char) : Numeral.isDigit c = true ↔ 48 ≤ c.toNat ∧ c.toNat ≤ 57 := by
  simp [Numeral.isDigit, Char.le_def, UInt32.le_iff_toNat_le]

theorem isNameStart_iff (c : Char) :
    isNameStart c = true ↔
      (97 ≤ c.toNat ∧ c.toNat ≤ 122 ∨ 65 ≤ c.toNat ∧ c.toNat ≤ 90) ∨ c.toNat = 95 := by
  simp [isNameStart, Char.le_def, UInt32.le_iff_toNat_le, ← Char.toNat_inj]

theorem isBlank_of_isNameChar (c : Char) (inside : isNameChar c = true) : isBlank c = false := by
  rw [isNameChar, Bool.or_eq_true, isNameStart_iff, isDigit_iff] at inside
  rw [← Bool.not_eq_true]
  simp only [isBlank, Bool.or_eq_true, Bool.and_eq_true, decide_eq_true_eq, beq_iff_eq]
  omega

theorem isNameChar_of_isBlank (c : Char) (blank : isBlank c = true) : isNameChar c = false := by
  rw [← Bool.not_eq_true]
  intro inside
  simp [isBlank_of_isNameChar c inside] at blank

/-- The characters that a literal can begin with. -/
def opensLiteral (c : Char) : Bool :=
  Numeral.isDigit c || c == '-' || c == apostrophe || c == quotationMark

theorem isNameStart_of_opensLiteral (c : Char) (opens : opensLiteral c = true) :
    isNameStart c = false := by
  rw [← Bool.not_eq_true, isNameStart_iff]
  simp only [opensLiteral, Bool.or_eq_true, isDigit_iff, beq_iff_eq] at opens
  rcases opens with ((digit | rfl) | rfl) | rfl
  · omega
  all_goals decide

theorem isBlank_of_opensLiteral (c : Char) (opens : opensLiteral c = true) :
    isBlank c = false := by
  simp only [opensLiteral, Bool.or_eq_true, beq_iff_eq] at opens
  rcases opens with ((digit | rfl) | rfl) | rfl
  · exact isBlank_of_isNameChar c (by simp [isNameChar, digit])
  all_goals decide

theorem ends_cons (accepts : Char → Bool) (c : Char) (rest : List Char)
    (refused : accepts c = false) : Ends accepts (c :: rest) := by
  intro d member
  cases member
  exact refused

theorem Ends.of_imp {accepts narrower : Char → Bool} {text : List Char} (ends : Ends accepts text)
    (implies : ∀ c, narrower c = true → accepts c = true) : Ends narrower text := by
  intro c member
  rw [← Bool.not_eq_true]
  intro accepted
  exact absurd (implies c accepted) (by simp [ends c member])

theorem skipBlanks_of_ends (text : List Char) (visible : Ends isBlank text) :
    skipBlanks text = text := by
  cases text with
  | nil => rfl
  | cons c rest => exact skipBlanks_cons c rest (visible c rfl)

theorem ends_gap (accepts : Char → Bool) (gap rest : List Char) (blank : Blanks gap)
    (refusesBlanks : ∀ c, isBlank c = true → accepts c = false) (ends : Ends accepts rest) :
    Ends accepts (gap ++ rest) := by
  cases gap with
  | nil => exact ends
  | cons c gap => exact ends_cons accepts c _ (refusesBlanks c (blank c (by simp)))

/-- The characters that may come next behind an expression of the given tightness: what ends every
expression, then the operators that bind less tightly, then an assignment. -/
def followers (level : Nat) : List Char :=
  [')', ',', ';', '+', '-', '*', '/', '='].take (3 + 2 * level)

theorem followers_mono (low high : Nat) (ordered : low ≤ high) (c : Char)
    (member : c ∈ followers low) : c ∈ followers high :=
  List.take_subset_take_left _ (by omega) member

theorem mark_follows (op : Operator) : op.mark ∈ followers (op.tightness + 1) := by
  cases op <;> decide

theorem mark_not_follows (op : Operator) : op.mark ∉ followers op.tightness := by
  cases op <;> decide

/-- The text ends here, or behind blanks comes a character that may follow. -/
def Follows (level : Nat) (rest : List Char) : Prop :=
  ∀ c ∈ (skipBlanks rest).head?, c ∈ followers level

namespace Follows

theorem mono {low : Nat} {rest : List Char} (follows : Follows low rest) (high : Nat)
    (ordered : low ≤ high) : Follows high rest :=
  fun c member => followers_mono low high ordered c (follows c member)

theorem gap (level : Nat) (gap rest : List Char) (blank : Blanks gap) (follows : Follows level rest) :
    Follows level (gap ++ rest) := by
  intro c member
  rw [skipBlanks_append gap rest blank] at member
  exact follows c member

theorem cons (level : Nat) (c : Char) (rest : List Char) (visible : isBlank c = false)
    (member : c ∈ followers level) : Follows level (c :: rest) := by
  intro d head
  rw [skipBlanks_cons c rest visible] at head
  cases head
  exact member

theorem nil (level : Nat) : Follows level [] := by
  intro c member
  cases member

theorem next {level : Nat} {rest : List Char} (follows : Follows level rest)
    (accepts : Char → Bool) (refused : (followers level).all (!accepts ·) = true) :
    Ends accepts (skipBlanks rest) := by
  intro c member
  simpa using List.all_eq_true.mp refused c (follows c member)

theorem ends {level : Nat} {rest : List Char} (follows : Follows level rest)
    (accepts : Char → Bool) (refusesBlanks : ∀ c, isBlank c = true → accepts c = false)
    (refused : (followers level).all (!accepts ·) = true) : Ends accepts rest := by
  have behind := follows.next accepts refused
  cases rest with
  | nil => exact behind
  | cons c rest =>
    cases visible : isBlank c with
    | true => exact ends_cons accepts c rest (refusesBlanks c visible)
    | false => rwa [skipBlanks_cons c rest visible] at behind

end Follows

/-- Neither blanks nor a type can be read here. -/
structure Opening (input : List Char) : Prop where
  visible : Ends isBlank input
  unreserved : Scan.typeKeyword input = none

theorem opening_of_head (c : Char) (rest : List Char) (visible : isBlank c = false)
    (unnamed : isNameStart c = false) : Opening (c :: rest) := by
  refine ⟨ends_cons _ c rest visible, ?_⟩
  cases scanned : Scan.typeKeyword (c :: rest) with
  | none => rfl
  | some pair =>
    have heads : Scan.keywords.all (·.head?.any isNameStart) = true := rfl
    obtain ⟨keyword, same, _⟩ := Scan.typeKeyword_sound _ pair.1 pair.2 scanned
    have starts := List.all_eq_true.mp heads pair.1 keyword
    cases word : pair.1 with
    | nil => simp [word] at starts
    | cons d others => simp_all

theorem opening_of_name (name : String) (rest : List Char) (named : IsName name)
    (ends : Ends isNameChar rest) : Opening (name.toList ++ rest) := by
  refine ⟨?_, typeKeyword_of_name name rest named ends⟩
  obtain ⟨⟨c, others, same, starts, _⟩, _⟩ := named
  rw [same]
  exact ends_cons _ c _ (isBlank_of_isNameChar c (isNameChar_of_isNameStart c starts))

theorem Follows.endsName {level : Nat} {rest : List Char} (follows : Follows level rest)
    (bounded : level ≤ 3) : Ends isNameChar rest :=
  (follows.mono 3 bounded).ends isNameChar isNameChar_of_isBlank rfl

end HeapConsole.Grammar
