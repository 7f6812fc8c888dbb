import HeapConsole.Grammar.Parser

/-! What the parsers find, whatever stops they record on the way. Each combinator has an equation for
what it finds on a text, and a rule for the properties of everything it can find. -/
namespace HeapConsole

namespace Text

def Blanks (gap : List Char) : Prop := ∀ c ∈ gap, isBlank c = true

@[simp] theorem blanks_nil : Blanks [] := by
  intro c member
  cases member

theorem skipBlanks_append (gap text : List Char) (blank : Blanks gap) :
    skipBlanks (gap ++ text) = skipBlanks text := List.dropWhile_append_of_pos blank

theorem skipBlanks_cons (c : Char) (text : List Char) (visible : isBlank c = false) :
    skipBlanks (c :: text) = c :: text := List.dropWhile_cons_of_neg (by simp [visible])

theorem skipBlanks_blanks (gap : List Char) (blank : Blanks gap) : skipBlanks gap = [] := by
  simpa [skipBlanks] using skipBlanks_append gap [] blank

end Text

namespace Grammar.Parser

open Text

variable {α β : Type}

@[simp] theorem found_token (scan : List Char → Option (List Char × List Char))
    (text : List Char) : (token scan text).found = scan text := by
  unfold token
  split <;> simp_all

@[simp] theorem found_char_nil (c : Char) : (char c []).found = none := rfl

theorem found_char_cons (c d : Char) (rest : List Char) :
    (char c (d :: rest)).found = if d = c then some ((), rest) else none := by
  simp only [char]
  split <;> rfl

@[simp] theorem found_blanks (text : List Char) :
    (blanks text).found = some ((), skipBlanks text) := rfl

@[simp] theorem found_remaining (text : List Char) :
    (remaining text).found = some (text.length, text) := rfl

@[simp] theorem found_fail (text : List Char) : ((fail : Parser α) text).found = none := rfl

theorem found_map (f : α → β) (p : Parser α) (text : List Char) :
    ((f <$> p) text).found = (p text).found.map fun x => (f x.1, x.2) := by
  show ((p >>= fun a => pure (f a)) text).found = _
  rw [found_bind]
  cases (p text).found <;> rfl

theorem found_discard (p : Parser α) (text : List Char) :
    ((discard p : Parser Unit) text).found = (p text).found.map fun x => ((), x.2) :=
  found_map (fun _ => ()) p text

theorem found_optional_some (p : Parser α) (text : List Char) (a : α) (rest : List Char)
    (nonempty : text ≠ []) (found : (p text).found = some (a, rest)) :
    (optional p text).found = some (some a, rest) := by
  rcases step : p text with ⟨result, stops⟩
  rw [step] at found
  subst found
  simp [optional, step, nonempty]

theorem found_optional_none (p : Parser α) (text : List Char) (found : (p text).found = none) :
    (optional p text).found = some (none, text) := by
  rcases step : p text with ⟨result, stops⟩
  rw [step] at found
  subst found
  unfold optional
  split
  · rfl
  · simp [step]

theorem found_many_nil (p : Parser α) (text : List Char) (found : (p text).found = none) :
    (many p text).found = some ([], text) := by
  rcases step : p text with ⟨result, stops⟩
  rw [step] at found
  subst found
  rw [many]
  split
  · rfl
  · simp [step]

theorem found_many_cons (p : Parser α) (text rest final : List Char) (a : α) (as : List α)
    (found : (p text).found = some (a, rest)) (shorter : rest.length < text.length)
    (more : (many p rest).found = some (as, final)) :
    (many p text).found = some (a :: as, final) := by
  have nonempty : text ≠ [] := by
    rintro rfl
    simp at shorter
  rcases step : p text with ⟨result, stops⟩
  rw [step] at found
  subst found
  rw [many]
  simp [step, nonempty, shorter, more]

theorem found_ahead (p : Parser α) (text : List Char) :
    (ahead p text).found = (p text).found.map fun _ => ((), text) := by
  rcases step : p text with ⟨_ | _, _⟩ <;> simp [ahead, step]

theorem found_notAhead (p : Parser α) (text : List Char) :
    (notAhead p text).found = if (p text).found.isSome then none else some ((), text) := by
  rcases step : p text with ⟨_ | _, _⟩ <;> simp [notAhead, step]

/-! Each combinator succeeds in these ways alone, so that a success is taken apart step by step. -/

theorem found_bind_iff (p : Parser α) (next : α → Parser β) (text rest : List Char) (b : β) :
    ((p >>= next) text).found = some (b, rest) ↔
      ∃ a middle, (p text).found = some (a, middle) ∧ (next a middle).found = some (b, rest) := by
  rw [found_bind, Option.bind_eq_some_iff, Prod.exists]

theorem found_orElse_iff (p q : Parser α) (text : List Char) (x : α × List Char) :
    ((p <|> q) text).found = some x ↔
      (p text).found = some x ∨ (p text).found = none ∧ (q text).found = some x := by
  rw [found_orElse, Option.or_eq_some_iff]

theorem found_map_iff (f : α → β) (p : Parser α) (text rest : List Char) (b : β) :
    ((f <$> p) text).found = some (b, rest) ↔ ∃ a, (p text).found = some (a, rest) ∧ f a = b := by
  simp [found_map]

theorem found_pure_iff (a b : α) (text rest : List Char) :
    ((pure a : Parser α) text).found = some (b, rest) ↔ a = b ∧ text = rest := by
  simp

theorem found_char_iff (c : Char) (u : Unit) (text rest : List Char) :
    (char c text).found = some (u, rest) ↔ text = c :: rest := by
  cases text with
  | nil => simp
  | cons d behind =>
    rw [found_char_cons]
    split <;> simp_all

theorem found_blanks_iff (u : Unit) (text rest : List Char) :
    (blanks text).found = some (u, rest) ↔ skipBlanks text = rest := by
  simp

theorem found_optional_cases (p : Parser α) (text rest : List Char) (result : Option α)
    (found : (optional p text).found = some (result, rest)) :
    (∃ a, result = some a ∧ (p text).found = some (a, rest)) ∨ result = none ∧ text = rest := by
  cases read : (p text).found with
  | none =>
    rw [found_optional_none p text read] at found
    cases found
    exact .inr ⟨rfl, rfl⟩
  | some pair =>
    by_cases empty : text = []
    · subst empty
      cases found
      exact .inr ⟨rfl, rfl⟩
    · rw [found_optional_some p text pair.1 pair.2 empty read] at found
      cases found
      exact .inl ⟨pair.1, rfl, rfl⟩

/-- A repetition is over at once, or goes on behind one more thing found. -/
theorem many_induction {p : Parser α} {motive : List α → List Char → List Char → Prop}
    (done : ∀ text, motive [] text text)
    (next : ∀ text a middle others final, (p text).found = some (a, middle) →
      motive others middle final → motive (a :: others) text final)
    (text final : List Char) (results : List α)
    (found : (many p text).found = some (results, final)) : motive results text final := by
  induction text using Parser.many.induct p generalizing results final with
  | case1 text empty =>
    rw [Parser.many, if_pos empty] at found
    cases found
    exact done text
  | case2 text nonempty stops step =>
    rw [found_many_nil p text (by rw [step])] at found
    cases found
    exact done text
  | case3 text nonempty a middle stops step shorter ih =>
    rw [Parser.many, if_neg nonempty, step] at found
    simp only [if_pos shorter] at found
    obtain ⟨⟨others, last⟩, more, same⟩ := Option.map_eq_some_iff.mp found
    cases same
    exact next text a middle others last (by rw [step]) (ih last others more)
  | case4 text nonempty a middle stops step stuck =>
    rw [Parser.many, if_neg nonempty, step] at found
    simp only [if_neg stuck] at found
    cases found
    exact next text a middle [] middle (by rw [step]) (done middle)

/-- Everything that a parser finds has the property. -/
def Yields (p : Parser α) (property : α → Prop) : Prop :=
  ∀ text a rest, (p text).found = some (a, rest) → property a

section yields

variable {p q : Parser α} {next : α → Parser β} {P Q : α → Prop} {R : β → Prop}

theorem yields_anything (p : Parser α) : Yields p fun _ => True := fun _ _ _ _ => trivial

theorem Yields.weaken (yields : Yields p P) (implies : ∀ a, P a → Q a) : Yields p Q :=
  fun text a rest found => implies a (yields text a rest found)

theorem yields_pure (a : α) (holds : P a) : Yields (pure a) P := by
  intro text b rest found
  cases found
  exact holds

theorem yields_fail : Yields (fail : Parser α) P := by
  intro text a rest found
  cases found

theorem Yields.bind (first : Yields p P) (then_ : ∀ a, P a → Yields (next a) R) :
    Yields (p >>= next) R := by
  intro text b rest found
  rw [found_bind] at found
  obtain ⟨⟨a, middle⟩, read, found⟩ := Option.bind_eq_some_iff.mp found
  exact then_ a (first text a middle read) middle b rest found

theorem Yields.after (p : Parser α) (then_ : ∀ a, Yields (next a) R) : Yields (p >>= next) R :=
  (yields_anything p).bind fun a _ => then_ a

theorem Yields.map (f : α → β) (yields : Yields p P) (implies : ∀ a, P a → R (f a)) :
    Yields (f <$> p) R :=
  yields.bind fun a holds => yields_pure (f a) (implies a holds)

theorem Yields.orElse (first : Yields p P) (second : Yields q P) : Yields (p <|> q) P := by
  intro text a rest found
  rw [found_orElse] at found
  rcases Option.or_eq_some_iff.mp found with found | ⟨_, found⟩
  · exact first text a rest found
  · exact second text a rest found

theorem Yields.rule (yields : Yields p P) : Yields (rule p) P := by
  intro text a rest found
  rw [found_rule] at found
  exact yields text a rest found

theorem Yields.optional (yields : Yields p P) :
    Yields (optional p) fun result => ∀ a ∈ result, P a := by
  intro text result rest found a member
  rcases found_optional_cases p text rest result found with ⟨b, rfl, read⟩ | ⟨rfl, _⟩
  · cases member
    exact yields text _ _ read
  · cases member

theorem Yields.many (yields : Yields p P) : Yields (many p) fun results => ∀ a ∈ results, P a := by
  intro text results rest found
  refine many_induction (motive := fun results _ _ => ∀ a ∈ results, P a) (fun _ => by simp) ?_ text
    rest results found
  intro text a middle others final read holds
  exact List.forall_mem_cons.mpr ⟨yields text a middle read, holds⟩

end yields

end Grammar.Parser

end HeapConsole
