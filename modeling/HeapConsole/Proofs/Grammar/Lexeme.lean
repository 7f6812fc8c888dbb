import HeapConsole.Grammar.Scan
import HeapConsole.Grammar.Token
import HeapConsole.Proofs.Grammar.Parsing

/-! The shapes of names, types and literals, stated apart from the scanners, and the two directions
that tie them together: a scanner splits off a lexeme of its shape, and it finds each lexeme of its
shape that the text behind does not continue. -/
namespace HeapConsole.Grammar

/-- The text does not begin with a character of the class. -/
def Ends (accepts : Char → Bool) (text : List Char) : Prop := ∀ c ∈ text.head?, accepts c = false

theorem takeWhile_of_ends (accepts : Char → Bool) (lexeme rest : List Char)
    (inside : ∀ c ∈ lexeme, accepts c = true) (ends : Ends accepts rest) :
    (lexeme ++ rest).takeWhile accepts = lexeme := by
  rw [List.takeWhile_append_of_pos inside]
  cases rest with
  | nil => simp
  | cons c rest => simp [ends c rfl]

theorem dropWhile_of_ends (accepts : Char → Bool) (lexeme rest : List Char)
    (inside : ∀ c ∈ lexeme, accepts c = true) (ends : Ends accepts rest) :
    (lexeme ++ rest).dropWhile accepts = rest := by
  rw [List.dropWhile_append_of_pos inside]
  cases rest with
  | nil => simp
  | cons c rest => simp [ends c rfl]

theorem ends_dropWhile (accepts : Char → Bool) (text : List Char) :
    Ends accepts (text.dropWhile accepts) := by
  intro c member
  have := List.head?_dropWhile_not accepts text
  rw [Option.mem_def.mp member] at this
  simpa using this

theorem mem_takeWhile (accepts : Char → Bool) (text : List Char) :
    ∀ c ∈ text.takeWhile accepts, accepts c = true := List.all_eq_true.mp List.all_takeWhile

def Several (accepts : Char → Bool) (cs : List Char) : Prop :=
  cs ≠ [] ∧ ∀ c ∈ cs, accepts c = true

theorem several_iff (accepts : Char → Bool) (cs : List Char) :
    Several accepts cs ↔ (!cs.isEmpty && cs.all accepts) = true := by
  simp [Several]

instance (accepts : Char → Bool) (cs : List Char) : Decidable (Several accepts cs) :=
  decidable_of_iff _ (several_iff accepts cs).symm

theorem Several.head {accepts : Char → Bool} {cs : List Char} (several : Several accepts cs) :
    ∃ c others, cs = c :: others ∧ accepts c = true := by
  obtain ⟨nonempty, inside⟩ := several
  cases cs with
  | nil => exact absurd rfl nonempty
  | cons c others => exact ⟨c, others, rfl, inside c (by simp)⟩

def withSign (negative : Bool) (magnitude : List Char) : List Char :=
  if negative then '-' :: magnitude else magnitude

@[simp] theorem withSign_append (negative : Bool) (magnitude rest : List Char) :
    withSign negative magnitude ++ rest = withSign negative (magnitude ++ rest) := by
  cases negative <;> rfl

theorem splitSign_withSign (negative : Bool) (magnitude : List Char)
    (unsigned : Ends (· == '-') magnitude) :
    Numeral.splitSign (withSign negative magnitude) = (negative, magnitude) := by
  cases negative with
  | true => rfl
  | false =>
    unfold withSign Numeral.splitSign
    split
    · next rest same => simpa using unsigned '-' (by simp_all)
    · rfl

def IsInteger (lexeme : List Char) : Prop :=
  ∃ negative digits, lexeme = withSign negative digits ∧ Several Numeral.isDigit digits

def IsHexadecimal (lexeme : List Char) : Prop :=
  ∃ negative mark digits, lexeme = withSign negative ('0' :: mark :: digits) ∧
    Scan.isHexMark mark = true ∧ Several Numeral.isHexDigit digits

/-- A mark, an optional sign and digits, or nothing. -/
def IsExponent (power : List Char) : Prop :=
  power = [] ∨ ∃ mark digits, Scan.isExponentMark mark = true ∧ Several Numeral.isDigit digits ∧
    (power = mark :: digits ∨ ∃ sign, Scan.isSign sign = true ∧ power = mark :: sign :: digits)

def IsDouble (lexeme : List Char) : Prop :=
  ∃ negative whole fraction power, lexeme = withSign negative (whole ++ '.' :: (fraction ++ power)) ∧
    Several Numeral.isDigit whole ∧ (∀ c ∈ fraction, Numeral.isDigit c = true) ∧ IsExponent power

/-- One character between two marks: itself, or a backslash and another one. -/
def IsPiece (mark : Char) (piece : List Char) : Prop :=
  (∃ c, piece = [c] ∧ c ≠ mark ∧ c ≠ '\\') ∨ ∃ c, piece = ['\\', c] ∧ c ≠ '\n'

def enclosed (mark : Char) (body : List Char) : List Char := mark :: (body ++ [mark])

def IsCharacter (lexeme : List Char) : Prop :=
  ∃ piece, lexeme = enclosed Text.apostrophe piece ∧ IsPiece Text.apostrophe piece

def IsString (lexeme : List Char) : Prop :=
  ∃ pieces : List (List Char), lexeme = enclosed Text.quotationMark pieces.flatten ∧
    ∀ piece ∈ pieces, IsPiece Text.quotationMark piece

/-- A letter or an underscore, then letters, digits and underscores, but no keyword. -/
def IsWord (lexeme : List Char) : Prop :=
  (∃ c others, lexeme = c :: others ∧ isNameStart c = true ∧
    ∀ d ∈ others, isNameChar d = true) ∧ lexeme ∉ Scan.keywords

theorem isWord_iff (lexeme : List Char) :
    IsWord lexeme ↔ (lexeme.head?.any isNameStart && lexeme.tail.all isNameChar &&
      !Scan.keywords.contains lexeme) = true := by
  cases lexeme with
  | nil => simp [IsWord]
  | cons c others =>
    simp only [List.head?_cons, Option.any_some, List.tail_cons, Bool.and_eq_true, List.all_eq_true,
      Bool.not_eq_true', List.contains_eq_mem, decide_eq_false_iff_not]
    constructor
    · rintro ⟨⟨_, _, same, shape⟩, unreserved⟩
      cases same
      exact ⟨shape, unreserved⟩
    · rintro ⟨shape, unreserved⟩
      exact ⟨⟨c, others, rfl, shape⟩, unreserved⟩

instance : DecidablePred IsWord := fun lexeme => decidable_of_iff _ (isWord_iff lexeme).symm

theorem unescape_cons (c : Char) (rest : List Char) (unescaped : c ≠ '\\') :
    unescape (c :: rest) = (unescape rest).map (c :: ·) := by
  rw [unescape]
  · intro same
    exact absurd same unescaped
  · intro d others same
    exact absurd same unescaped

theorem unescape_known (escape c : Char) (rest : List Char) (known : escaped? escape = some c) :
    unescape ('\\' :: escape :: rest) = (unescape rest).map (c :: ·) := by
  rw [unescape, known]

theorem unescape_unknown (escape : Char) (rest : List Char) (unknown : escaped? escape = none) :
    unescape ('\\' :: escape :: rest) = .error (.unknownEscape (String.singleton escape)) := by
  rw [unescape, unknown]

/-- What a single piece stands for is one character, unless its escape is unknown. -/
theorem unescape_piece (mark : Char) (piece cs : List Char) (shape : IsPiece mark piece)
    (read : unescape piece = .ok cs) : ∃ c, cs = [c] := by
  rcases shape with ⟨c, rfl, _, unescaped⟩ | ⟨c, rfl, _⟩
  · rw [unescape_cons c [] unescaped] at read
    cases read
    exact ⟨c, rfl⟩
  · cases known : escaped? c with
    | some d =>
      rw [unescape_known c d [] known] at read
      cases read
      exact ⟨d, rfl⟩
    | none =>
      rw [unescape_unknown c [] known] at read
      cases read

theorem body_enclosed (kind : TokenKind) (mark : Char) (body : List Char) (remaining : Nat) :
    Token.body ⟨kind, enclosed mark body, remaining⟩ = body := by
  simp [Token.body, enclosed]

namespace Scan

theorem someOf_sound (accepts : Char → Bool) (text lexeme rest : List Char)
    (scanned : someOf accepts text = some (lexeme, rest)) :
    text = lexeme ++ rest ∧ Several accepts lexeme := by
  unfold someOf at scanned
  split at scanned
  · cases scanned
  · next c cs taken =>
    cases scanned
    rw [← taken]
    refine ⟨List.takeWhile_append_dropWhile.symm, ?_, mem_takeWhile accepts text⟩
    simp [taken]

theorem someOf_complete (accepts : Char → Bool) (lexeme rest : List Char)
    (several : Several accepts lexeme) (ends : Ends accepts rest) :
    someOf accepts (lexeme ++ rest) = some (lexeme, rest) := by
  obtain ⟨c, others, rfl, _⟩ := several.head
  unfold someOf
  rw [takeWhile_of_ends accepts _ rest several.2 ends, dropWhile_of_ends accepts _ rest several.2 ends]

theorem someOf_none (accepts : Char → Bool) (text : List Char) (ends : Ends accepts text) :
    someOf accepts text = none := by
  unfold someOf
  rw [show text.takeWhile accepts = [] by
    simpa using takeWhile_of_ends accepts [] text (by simp) ends]

/-- The sign belongs to the token, and the scanner sees what stands behind it. -/
theorem signed_sound (scan : Scanner) (text lexeme rest : List Char)
    (scanned : signed scan text = some (lexeme, rest)) :
    ∃ negative body magnitude, text = withSign negative body ∧
      lexeme = withSign negative magnitude ∧ scan body = some (magnitude, rest) := by
  unfold signed at scanned
  split at scanned
  · next body =>
    obtain ⟨⟨magnitude, final⟩, read, same⟩ := Option.map_eq_some_iff.mp scanned
    cases same
    exact ⟨true, body, magnitude, rfl, rfl, read⟩
  · exact ⟨false, text, lexeme, rfl, rfl, scanned⟩

theorem signed_withSign (scan : Scanner) (negative : Bool) (body : List Char)
    (unsigned : Ends (· == '-') body) :
    signed scan (withSign negative body) =
      (scan body).map fun x => (withSign negative x.1, x.2) := by
  cases negative with
  | true => rfl
  | false =>
    unfold withSign signed
    split
    · next rest same => simpa using unsigned '-' (by simp_all)
    · simp

theorem integer_sound (text lexeme rest : List Char)
    (scanned : integer text = some (lexeme, rest)) : text = lexeme ++ rest ∧ IsInteger lexeme := by
  obtain ⟨negative, body, digits, rfl, rfl, read⟩ := signed_sound _ text lexeme rest scanned
  obtain ⟨rfl, several⟩ := someOf_sound _ body digits rest read
  exact ⟨(withSign_append negative digits rest).symm, negative, digits, rfl, several⟩

theorem hexMagnitude_sound (text lexeme rest : List Char)
    (scanned : hexMagnitude text = some (lexeme, rest)) :
    ∃ mark digits, text = lexeme ++ rest ∧ lexeme = '0' :: mark :: digits ∧
      isHexMark mark = true ∧ Several Numeral.isHexDigit digits := by
  unfold hexMagnitude at scanned
  split at scanned
  · next mark body =>
    split at scanned
    · next marked =>
      obtain ⟨⟨digits, final⟩, read, same⟩ := Option.map_eq_some_iff.mp scanned
      cases same
      obtain ⟨rfl, several⟩ := someOf_sound _ body digits rest read
      exact ⟨mark, digits, rfl, rfl, marked, several⟩
    · cases scanned
  · cases scanned

theorem hexadecimal_sound (text lexeme rest : List Char)
    (scanned : hexadecimal text = some (lexeme, rest)) :
    text = lexeme ++ rest ∧ IsHexadecimal lexeme := by
  obtain ⟨negative, body, magnitude, rfl, rfl, read⟩ := signed_sound _ text lexeme rest scanned
  obtain ⟨mark, digits, rfl, rfl, marked, several⟩ := hexMagnitude_sound body magnitude rest read
  exact ⟨(withSign_append negative _ rest).symm, negative, mark, digits, rfl, marked, several⟩

theorem exponent_sound (text : List Char) :
    text = (exponent text).1 ++ (exponent text).2 ∧ IsExponent (exponent text).1 := by
  fun_cases exponent text with
  | case1 mark sign rest marked signs digits final read =>
    obtain ⟨rfl, several⟩ := someOf_sound _ rest digits final read
    exact ⟨rfl, .inr ⟨mark, digits, marked, several, .inr ⟨sign, signs, rfl⟩⟩⟩
  | case3 mark sign rest marked signs digits final read =>
    obtain ⟨same, several⟩ := someOf_sound _ (sign :: rest) digits final read
    exact ⟨by simp [same], .inr ⟨mark, digits, marked, several, .inl rfl⟩⟩
  | case2 => exact ⟨rfl, .inl rfl⟩
  | case4 => exact ⟨rfl, .inl rfl⟩
  | case5 => exact ⟨rfl, .inl rfl⟩
  | case6 => exact ⟨rfl, .inl rfl⟩

theorem doubleMagnitude_sound (text lexeme rest : List Char)
    (scanned : doubleMagnitude text = some (lexeme, rest)) :
    ∃ whole fraction power, text = lexeme ++ rest ∧ lexeme = whole ++ '.' :: (fraction ++ power) ∧
      Several Numeral.isDigit whole ∧ (∀ c ∈ fraction, Numeral.isDigit c = true) ∧
      IsExponent power := by
  have split_off := (List.takeWhile_append_dropWhile (p := Numeral.isDigit) (l := text)).symm
  have digits := mem_takeWhile Numeral.isDigit text
  unfold doubleMagnitude at scanned
  split at scanned
  · cases scanned
  · next behind dropped nonempty =>
    rw [dropped] at split_off
    have powers := exponent_sound (behind.dropWhile Numeral.isDigit)
    rcases read : exponent (behind.dropWhile Numeral.isDigit) with ⟨power, final⟩
    rw [read] at scanned powers
    cases scanned
    refine ⟨_, behind.takeWhile Numeral.isDigit, _, ?_, rfl, ⟨nonempty, digits⟩,
      mem_takeWhile Numeral.isDigit behind, powers.2⟩
    simp only [List.append_assoc, List.cons_append]
    rw [← powers.1, List.takeWhile_append_dropWhile]
    exact split_off
  · cases scanned

theorem double_sound (text lexeme rest : List Char)
    (scanned : double text = some (lexeme, rest)) : text = lexeme ++ rest ∧ IsDouble lexeme := by
  obtain ⟨negative, body, magnitude, rfl, rfl, read⟩ := signed_sound _ text lexeme rest scanned
  obtain ⟨whole, fraction, power, rfl, rfl, shape⟩ := doubleMagnitude_sound body magnitude rest read
  exact ⟨(withSign_append negative _ rest).symm, negative, whole, fraction, power, rfl, shape⟩

theorem character_sound (text lexeme rest : List Char)
    (scanned : character text = some (lexeme, rest)) :
    text = lexeme ++ rest ∧ IsCharacter lexeme := by
  unfold character at scanned
  split at scanned
  · next opening c closing behind =>
    split at scanned
    · next shape =>
      obtain ⟨rfl, broken, rfl⟩ := shape
      cases scanned
      exact ⟨rfl, ['\\', c], rfl, .inr ⟨c, rfl, broken⟩⟩
    · cases scanned
  · next opening c closing behind _ =>
    split at scanned
    · next shape =>
      obtain ⟨rfl, plain, unescaped, rfl⟩ := shape
      cases scanned
      exact ⟨rfl, [c], rfl, .inl ⟨c, rfl, plain, unescaped⟩⟩
    · cases scanned
  · cases scanned

theorem stringTail_sound (text lexeme rest : List Char)
    (scanned : stringTail text = some (lexeme, rest)) :
    ∃ pieces : List (List Char), text = lexeme ++ rest ∧
      lexeme = pieces.flatten ++ [Text.quotationMark] ∧
      ∀ piece ∈ pieces, IsPiece Text.quotationMark piece := by
  fun_induction stringTail text generalizing lexeme rest with
  | case1 => cases scanned
  | case2 behind => cases scanned
  | case3 c behind broken ih =>
    obtain ⟨⟨others, final⟩, read, same⟩ := Option.map_eq_some_iff.mp scanned
    cases same
    obtain ⟨pieces, rfl, rfl, shape⟩ := ih others rest read
    refine ⟨['\\', c] :: pieces, rfl, rfl, ?_⟩
    simpa using ⟨.inr ⟨c, rfl, broken⟩, shape⟩
  | case4 behind _ =>
    cases scanned
    exact ⟨[], rfl, rfl, by simp⟩
  | case5 => cases scanned
  | case6 c behind _ plain unescaped ih =>
    obtain ⟨⟨others, final⟩, read, same⟩ := Option.map_eq_some_iff.mp scanned
    cases same
    obtain ⟨pieces, rfl, rfl, shape⟩ := ih others rest read
    refine ⟨[c] :: pieces, rfl, rfl, ?_⟩
    simpa using ⟨.inl ⟨c, rfl, plain, unescaped⟩, shape⟩

theorem string_sound (text lexeme rest : List Char)
    (scanned : string text = some (lexeme, rest)) : text = lexeme ++ rest ∧ IsString lexeme := by
  unfold string at scanned
  split at scanned
  · cases scanned
  · next c behind =>
    split at scanned
    · next opening =>
      obtain ⟨⟨others, final⟩, read, same⟩ := Option.map_eq_some_iff.mp scanned
      cases same
      subst opening
      obtain ⟨pieces, rfl, rfl, shape⟩ := stringTail_sound behind others rest read
      exact ⟨rfl, pieces, rfl, shape⟩
    · cases scanned

theorem name_sound (text lexeme rest : List Char) (scanned : name text = some (lexeme, rest)) :
    text = lexeme ++ rest ∧ Ends isNameChar rest ∧ ∃ c others, lexeme = c :: others ∧
      isNameStart c = true ∧ ∀ d ∈ others, isNameChar d = true := by
  unfold name at scanned
  split at scanned
  · cases scanned
  · next c behind =>
    split at scanned
    · next starts =>
      cases scanned
      refine ⟨by simp, ends_dropWhile isNameChar behind, c, _, rfl, starts, ?_⟩
      exact mem_takeWhile isNameChar behind
    · cases scanned

theorem name_complete (c : Char) (others rest : List Char) (starts : isNameStart c = true)
    (inside : ∀ d ∈ others, isNameChar d = true) (ends : Ends isNameChar rest) :
    name (c :: (others ++ rest)) = some (c :: others, rest) := by
  simp only [name, starts, if_true]
  rw [takeWhile_of_ends isNameChar others rest inside ends,
    dropWhile_of_ends isNameChar others rest inside ends]

theorem afterWord_eq_some (word text rest : List Char) :
    afterWord word text = some rest ↔ text = word ++ rest ∧ Ends isNameChar rest := by
  fun_induction afterWord word text with
  | case1 =>
    simp only [Option.some.injEq, List.nil_append]
    constructor
    · rintro rfl
      exact ⟨rfl, fun c member => by cases member⟩
    · exact And.left
  | case2 c behind inside =>
    simp only [reduceCtorEq, List.nil_append, false_iff, not_and]
    rintro rfl ends
    simp [ends c rfl] at inside
  | case3 c behind outside =>
    simp only [Option.some.injEq, List.nil_append]
    constructor
    · rintro rfl
      exact ⟨rfl, fun d member => by cases member; simpa using outside⟩
    · rintro ⟨rfl, _⟩
      rfl
  | case4 => simp
  | case5 c word behind ih => simp [ih]
  | case6 c word d behind different => simp [Ne.symm different]

theorem keyword_chars (word : List Char) (keyword : word ∈ keywords) :
    ∀ c ∈ word, isNameChar c = true := by
  have all : keywords.all (·.all isNameChar) = true := rfl
  exact List.all_eq_true.mp (List.all_eq_true.mp all word keyword)

/-- Two words that end where they stand in one text are the same. -/
theorem word_unique (word other rest behind : List Char) (same : word ++ rest = other ++ behind)
    (inside : ∀ c ∈ word, isNameChar c = true) (otherInside : ∀ c ∈ other, isNameChar c = true)
    (ends : Ends isNameChar rest) (otherEnds : Ends isNameChar behind) :
    word = other ∧ rest = behind := by
  have equal : word = other := by
    rw [← takeWhile_of_ends isNameChar word rest inside ends, same,
      takeWhile_of_ends isNameChar other behind otherInside otherEnds]
  subst equal
  exact ⟨rfl, List.append_cancel_left same⟩

theorem typeKeyword_sound (text word rest : List Char)
    (scanned : typeKeyword text = some (word, rest)) :
    word ∈ keywords ∧ text = word ++ rest ∧ Ends isNameChar rest := by
  obtain ⟨candidate, member, found⟩ := List.exists_of_findSome?_eq_some scanned
  obtain ⟨behind, after, same⟩ := Option.map_eq_some_iff.mp found
  cases same
  exact ⟨member, (afterWord_eq_some word text rest).mp after⟩

theorem typeKeyword_complete (word rest : List Char) (keyword : word ∈ keywords)
    (ends : Ends isNameChar rest) : typeKeyword (word ++ rest) = some (word, rest) := by
  cases scanned : typeKeyword (word ++ rest) with
  | none =>
    have missed := List.findSome?_eq_none_iff.mp scanned word keyword
    rw [(afterWord_eq_some word (word ++ rest) rest).mpr ⟨rfl, ends⟩] at missed
    cases missed
  | some pair =>
    obtain ⟨member, same, otherEnds⟩ := typeKeyword_sound _ pair.1 pair.2 scanned
    obtain ⟨rfl, rfl⟩ := word_unique word pair.1 rest pair.2 same (keyword_chars word keyword)
      (keyword_chars pair.1 member) ends otherEnds
    rfl

theorem typeKeyword_none (word rest : List Char) (inside : ∀ c ∈ word, isNameChar c = true)
    (different : word ∉ keywords) (ends : Ends isNameChar rest) :
    typeKeyword (word ++ rest) = none := by
  cases scanned : typeKeyword (word ++ rest) with
  | none => rfl
  | some pair =>
    obtain ⟨member, same, otherEnds⟩ := typeKeyword_sound _ pair.1 pair.2 scanned
    obtain ⟨equal, _⟩ := word_unique word pair.1 rest pair.2 same inside
      (keyword_chars pair.1 member) ends otherEnds
    exact absurd (equal ▸ member) different

theorem unsigned_of_digits (digits rest : List Char) (several : Several Numeral.isDigit digits) :
    Ends (· == '-') (digits ++ rest) := by
  obtain ⟨c, others, rfl, digit⟩ := several.head
  intro d member
  cases member
  refine beq_eq_false_iff_ne.mpr ?_
  rintro rfl
  exact absurd digit (by decide)

theorem integer_complete (negative : Bool) (digits rest : List Char)
    (several : Several Numeral.isDigit digits) (ends : Ends Numeral.isDigit rest) :
    integer (withSign negative digits ++ rest) = some (withSign negative digits, rest) := by
  rw [withSign_append, integer, signed_withSign _ _ _ (unsigned_of_digits digits rest several),
    someOf_complete _ digits rest several ends]
  rfl

theorem hexadecimal_complete (negative : Bool) (mark : Char) (digits rest : List Char)
    (marked : isHexMark mark = true) (several : Several Numeral.isHexDigit digits)
    (ends : Ends Numeral.isHexDigit rest) :
    hexadecimal (withSign negative ('0' :: mark :: digits) ++ rest) =
      some (withSign negative ('0' :: mark :: digits), rest) := by
  rw [withSign_append, hexadecimal, signed_withSign]
  · simp only [List.cons_append, hexMagnitude, marked, if_true]
    rw [someOf_complete _ digits rest several ends]
    rfl
  · intro c member
    cases member
    rfl

theorem hexMagnitude_none (text : List Char)
    (unmarked : ∀ mark rest, text = '0' :: mark :: rest → isHexMark mark = false) :
    hexMagnitude text = none := by
  unfold hexMagnitude
  split
  · next mark rest => simp [unmarked mark rest rfl]
  · rfl

theorem hexadecimal_none (negative : Bool) (digits rest : List Char)
    (several : Several Numeral.isDigit digits) (ends : Ends isHexMark rest) :
    hexadecimal (withSign negative (digits ++ rest)) = none := by
  rw [hexadecimal, signed_withSign _ _ _ (unsigned_of_digits digits rest several),
    hexMagnitude_none, Option.map_none]
  intro mark behind same
  match digits, several with
  | [c], _ =>
    simp only [List.cons_append, List.nil_append, List.cons.injEq] at same
    exact ends mark (by simp [same.2])
  | c :: d :: others, several =>
    simp only [List.cons_append, List.cons.injEq] at same
    have digit := several.2 d (by simp)
    rw [same.2.1] at digit
    rw [← Bool.not_eq_true]
    intro marked
    simp only [isHexMark, Bool.or_eq_true, beq_iff_eq] at marked
    rcases marked with rfl | rfl <;> exact absurd digit (by decide)

theorem double_none (negative : Bool) (digits rest : List Char)
    (several : Several Numeral.isDigit digits) (ends : Ends Numeral.isDigit rest)
    (pointless : Ends (· == '.') rest) : double (withSign negative (digits ++ rest)) = none := by
  rw [double, signed_withSign _ _ _ (unsigned_of_digits digits rest several), doubleMagnitude,
    takeWhile_of_ends _ digits rest several.2 ends, dropWhile_of_ends _ digits rest several.2 ends]
  split
  · rfl
  · simpa using pointless '.' rfl
  · rfl

theorem exponent_none (text : List Char) (unmarked : Ends isExponentMark text) :
    exponent text = ([], text) := by
  unfold exponent
  split
  · next mark sign rest => rw [if_neg (by simp [unmarked mark rfl])]
  · rfl

theorem exponent_complete (power rest : List Char) (shape : IsExponent power)
    (ends : Ends Numeral.isDigit rest) (unmarked : Ends isExponentMark rest) :
    exponent (power ++ rest) = (power, rest) := by
  rcases shape with rfl | ⟨mark, digits, marked, several, rfl | ⟨sign, signs, rfl⟩⟩
  · exact exponent_none rest unmarked
  · have read := someOf_complete _ digits rest several ends
    obtain ⟨d, others, rfl, digit⟩ := several.head
    have unsigned : isSign d = false := by
      rw [← Bool.not_eq_true, isSign, Bool.or_eq_true, beq_iff_eq, beq_iff_eq]
      rintro (rfl | rfl) <;> exact absurd digit (by decide)
    rw [List.cons_append] at read
    simp only [List.cons_append, exponent, marked, unsigned, read, if_true, Bool.false_eq_true,
      if_false]
  · have read := someOf_complete _ digits rest several ends
    simp only [List.cons_append, exponent, marked, signs, read, if_true]

theorem double_complete (negative : Bool) (whole fraction power rest : List Char)
    (several : Several Numeral.isDigit whole) (digits : ∀ c ∈ fraction, Numeral.isDigit c = true)
    (shape : IsExponent power) (ends : Ends Numeral.isDigit rest)
    (unmarked : Ends isExponentMark rest) :
    double (withSign negative (whole ++ '.' :: (fraction ++ power)) ++ rest) =
      some (withSign negative (whole ++ '.' :: (fraction ++ power)), rest) := by
  have point : Ends Numeral.isDigit ('.' :: (fraction ++ (power ++ rest))) := by
    rintro c ⟨⟩
    rfl
  have fractionEnds : Ends Numeral.isDigit (power ++ rest) := by
    rcases shape with rfl | ⟨mark, _, marked, _, rfl | ⟨_, _, rfl⟩⟩
    · exact ends
    all_goals
      rintro c ⟨⟩
      simp only [isExponentMark, Bool.or_eq_true, beq_iff_eq] at marked
      rcases marked with rfl | rfl <;> rfl
  have read := exponent_complete power rest shape ends unmarked
  obtain ⟨c, others, rfl, _⟩ := several.head
  have joined : c :: others ++ '.' :: (fraction ++ power) ++ rest =
      c :: others ++ '.' :: (fraction ++ (power ++ rest)) := by simp
  rw [withSign_append, joined, double, signed_withSign _ _ _ (unsigned_of_digits _ _ several),
    doubleMagnitude, takeWhile_of_ends _ _ _ several.2 point,
    dropWhile_of_ends _ _ _ several.2 point]
  simp only [takeWhile_of_ends _ _ _ digits fractionEnds,
    dropWhile_of_ends _ _ _ digits fractionEnds, read, Option.map_some]

theorem numerals_none (text : List Char) (ends : Ends Numeral.isDigit text)
    (unsigned : Ends (· == '-') text) :
    double text = none ∧ hexadecimal text = none ∧ integer text = none := by
  have drop_sign (scan : Scanner) (missing : scan text = none) : signed scan text = none := by
    rw [show text = withSign false text from rfl, signed_withSign scan false text unsigned, missing]
    rfl
  refine ⟨drop_sign _ ?_, drop_sign _ ?_, drop_sign _ (someOf_none _ text ends)⟩
  · unfold doubleMagnitude
    rw [show text.takeWhile Numeral.isDigit = [] by
      simpa using takeWhile_of_ends Numeral.isDigit [] text (by simp) ends]
  · refine hexMagnitude_none text ?_
    rintro mark rest rfl
    exact absurd (ends '0' rfl) (by decide)

theorem character_none (text : List Char) (ends : Ends (· == Text.apostrophe) text) :
    character text = none := by
  unfold character
  split
  · next opening c closing rest => rw [if_neg fun shape => by simpa [shape.1] using ends opening rfl]
  · next opening c closing rest _ =>
    rw [if_neg fun shape => by simpa [shape.1] using ends opening rfl]
  · rfl

theorem string_none (text : List Char) (ends : Ends (· == Text.quotationMark) text) :
    string text = none := by
  cases text with
  | nil => rfl
  | cons c rest => rw [string, if_neg (by simpa using ends c rfl)]

theorem character_complete (piece rest : List Char) (shape : IsPiece Text.apostrophe piece) :
    character (enclosed Text.apostrophe piece ++ rest) =
      some (enclosed Text.apostrophe piece, rest) := by
  rcases shape with ⟨c, rfl, plain, unescaped⟩ | ⟨c, rfl, broken⟩
  · simp [enclosed, character, plain, unescaped]
  · simp [enclosed, character, broken]

theorem stringTail_complete (pieces : List (List Char)) (rest : List Char)
    (shape : ∀ piece ∈ pieces, IsPiece Text.quotationMark piece) :
    stringTail (pieces.flatten ++ Text.quotationMark :: rest) =
      some (pieces.flatten ++ [Text.quotationMark], rest) := by
  induction pieces with
  | nil => simp [stringTail, Text.quotationMark]
  | cons piece pieces ih =>
    have read := ih fun other member => shape other (by simp [member])
    rcases shape piece (by simp) with ⟨c, rfl, plain, unescaped⟩ | ⟨c, rfl, broken⟩
    · simp [stringTail, plain, unescaped, read]
    · simp [stringTail, broken, read]

theorem string_complete (pieces : List (List Char)) (rest : List Char)
    (shape : ∀ piece ∈ pieces, IsPiece Text.quotationMark piece) :
    string (enclosed Text.quotationMark pieces.flatten ++ rest) =
      some (enclosed Text.quotationMark pieces.flatten, rest) := by
  have read := stringTail_complete pieces rest shape
  simp [enclosed, string, read]

end Scan

end HeapConsole.Grammar
