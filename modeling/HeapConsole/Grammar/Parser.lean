import HeapConsole.Text.Blank

/-! Parsers that consume a text from the left and remember how far they got before they failed.
Places in the text are given by the length of the text that remains, so that a parser's answer
depends on the remaining text alone. -/
namespace HeapConsole.Grammar

/-- Where attempts failed: the remaining length at the very first failure, and the least remaining
length at which a named rule failed. -/
structure Stops where
  first : Option Nat
  named : Option Nat
deriving DecidableEq, Repr

namespace Stops

def none : Stops := ⟨.none, .none⟩

/-- The failure of an unnamed piece of the grammar counts only if it is the first. -/
def unnamed (remaining : Nat) : Stops := ⟨some remaining, .none⟩

def rule (remaining : Nat) : Stops := ⟨some remaining, some remaining⟩

def least : Option Nat → Option Nat → Option Nat
  | some m, some n => some (min m n)
  | some m, .none => some m
  | .none, n => n

def append (earlier later : Stops) : Stops :=
  ⟨earlier.first.or later.first, least earlier.named later.named⟩

instance : Append Stops := ⟨append⟩

def furthest? (stops : Stops) : Option Nat := least stops.first stops.named

end Stops

structure Attempt (α : Type) where
  found : Option (α × List Char)
  stops : Stops

def Parser (α : Type) : Type := List Char → Attempt α

namespace Parser

variable {α β : Type}

def succeed (a : α) : Parser α := fun text => ⟨some (a, text), .none⟩

def andThen (p : Parser α) (next : α → Parser β) : Parser β := fun text =>
  match p text with
  | ⟨none, stops⟩ => ⟨none, stops⟩
  | ⟨some (a, rest), stops⟩ => ⟨(next a rest).found, stops ++ (next a rest).stops⟩

instance : Monad Parser where
  pure := succeed
  bind := andThen

def fail : Parser α := fun _ => ⟨none, .none⟩

def orElse (p q : Parser α) : Parser α := fun text =>
  match p text with
  | ⟨none, stops⟩ => ⟨(q text).found, stops ++ (q text).stops⟩
  | success => success

instance : OrElse (Parser α) := ⟨fun p q => orElse p (q ())⟩

/-- A named rule: its failure is recorded at the place where it was tried. -/
def rule (p : Parser α) : Parser α := fun text =>
  match p text with
  | ⟨none, stops⟩ => ⟨none, stops ++ .rule text.length⟩
  | success => success

def token (scan : List Char → Option (List Char × List Char)) : Parser (List Char) := fun text =>
  match scan text with
  | some (lexeme, rest) => ⟨some (lexeme, rest), .none⟩
  | none => ⟨none, .unnamed text.length⟩

def char (c : Char) : Parser Unit := fun text =>
  match text with
  | [] => ⟨none, .unnamed 0⟩
  | d :: rest => if d = c then ⟨some ((), rest), .none⟩ else ⟨none, .unnamed text.length⟩

def blanks : Parser Unit := fun text => ⟨some ((), Text.skipBlanks text), .none⟩

def remaining : Parser Nat := fun text => ⟨some (text.length, text), .none⟩

/-- At the end of the text the parser is not tried. -/
def optional (p : Parser α) : Parser (Option α) := fun text =>
  if text.isEmpty then ⟨some (none, text), .none⟩
  else match p text with
    | ⟨some (a, rest), stops⟩ => ⟨some (some a, rest), stops⟩
    | ⟨none, stops⟩ => ⟨some (none, text), stops⟩

/-- Repeats a parser until it fails, reaches the end of the text or consumes nothing. -/
def many (p : Parser α) : Parser (List α) := fun text =>
  if text.isEmpty then ⟨some ([], text), .none⟩
  else match p text with
    | ⟨none, stops⟩ => ⟨some ([], text), stops⟩
    | ⟨some (a, rest), stops⟩ =>
      if rest.length < text.length then
        let more := many p rest
        ⟨more.found.map fun (as, final) => (a :: as, final), stops ++ more.stops⟩
      else ⟨some ([a], rest), stops⟩
termination_by text => text.length

def ahead (p : Parser α) : Parser Unit := fun text =>
  match p text with
  | ⟨some _, stops⟩ => ⟨some ((), text), stops⟩
  | ⟨none, stops⟩ => ⟨none, stops ++ .unnamed text.length⟩

def notAhead (p : Parser α) : Parser Unit := fun text =>
  match p text with
  | ⟨none, stops⟩ => ⟨some ((), text), stops⟩
  | ⟨some _, stops⟩ => ⟨none, stops ++ .unnamed text.length⟩

@[simp] theorem found_pure (a : α) (text : List Char) :
    ((pure a : Parser α) text).found = some (a, text) := rfl

theorem found_bind (p : Parser α) (next : α → Parser β) (text : List Char) :
    ((p >>= next) text).found = (p text).found.bind fun x => (next x.1 x.2).found := by
  show (andThen p next text).found = _
  rcases step : p text with ⟨_ | _, _⟩ <;> simp [andThen, step]

theorem found_orElse (p q : Parser α) (text : List Char) :
    ((p <|> q) text).found = (p text).found.or (q text).found := by
  show (orElse p q text).found = _
  rcases step : p text with ⟨_ | _, _⟩ <;> simp [orElse, step]

@[simp] theorem found_rule (p : Parser α) (text : List Char) :
    (rule p text).found = (p text).found := by
  rcases step : p text with ⟨_ | _, _⟩ <;> simp [rule, step]

end Parser

end HeapConsole.Grammar
