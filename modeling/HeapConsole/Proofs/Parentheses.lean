import HeapConsole.Proofs.InternalFaults

/-! Parentheses group and do nothing else. A well-formed tree and the tree that is left when each
parenthesis gives way to what stands in it are the same computation. The evaluator does look at the
shape of a tree in two places, where a type may stand among arguments and where something is
assigned to, and a well-formed tree has no parentheses around either. -/
namespace HeapConsole

namespace Statement

section trees

variable {τ ℓ : Type}

mutual

/-- The statement with each parenthesis replaced by what stands in it, at every depth. -/
def bare : Statement τ ℓ → Statement τ ℓ
  | .parenthesis inner => inner.bare
  | .operator op left right => .operator op left.bare right.bare
  | .cast type operand => .cast type operand.bare
  | .dereference pointer => .dereference pointer.bare
  | .assignment target value => .assignment target.bare value.bare
  | .call function arguments => .call function (bareArguments arguments)
  | .missing => .missing
  | .typeName type => .typeName type
  | .literal value => .literal value
  | .identifier name => .identifier name
  | .declaration name type => .declaration name type

def bareArguments : List (Statement τ ℓ) → List (Statement τ ℓ)
  | [] => []
  | argument :: rest => argument.bare :: bareArguments rest

end

mutual

def hasParenthesis : Statement τ ℓ → Bool
  | .parenthesis _ => true
  | .operator _ left right => left.hasParenthesis || right.hasParenthesis
  | .cast _ operand => operand.hasParenthesis
  | .dereference pointer => pointer.hasParenthesis
  | .assignment target value => target.hasParenthesis || value.hasParenthesis
  | .call _ arguments => argumentsHaveParenthesis arguments
  | .missing | .typeName _ | .literal _ | .identifier _ | .declaration _ _ => false

def argumentsHaveParenthesis : List (Statement τ ℓ) → Bool
  | [] => false
  | argument :: rest => argument.hasParenthesis || argumentsHaveParenthesis rest

end

mutual

theorem hasParenthesis_bare : (statement : Statement τ ℓ) → statement.bare.hasParenthesis = false
  | .parenthesis inner => by rw [bare, hasParenthesis_bare inner]
  | .operator op left right => by
    rw [bare, hasParenthesis, hasParenthesis_bare left, hasParenthesis_bare right]
    rfl
  | .cast type operand => by rw [bare, hasParenthesis, hasParenthesis_bare operand]
  | .dereference pointer => by rw [bare, hasParenthesis, hasParenthesis_bare pointer]
  | .assignment target value => by
    rw [bare, hasParenthesis, hasParenthesis_bare target, hasParenthesis_bare value]
    rfl
  | .call function arguments => by rw [bare, hasParenthesis, argumentsHaveParenthesis_bare arguments]
  | .missing | .typeName _ | .literal _ | .identifier _ | .declaration _ _ => rfl

theorem argumentsHaveParenthesis_bare :
    (arguments : List (Statement τ ℓ)) →
      argumentsHaveParenthesis (bareArguments arguments) = false
  | [] => rfl
  | argument :: rest => by
    rw [bareArguments, argumentsHaveParenthesis, hasParenthesis_bare argument,
      argumentsHaveParenthesis_bare rest]
    rfl

end

/-- No type comes to light where a parenthesis is taken away. -/
theorem isType_bare (statement : Statement τ ℓ) (formed : statement.wellFormed = true) :
    statement.bare.isType = false := by
  induction statement using evaluationInduction with
  | parenthesis inner ih =>
    rw [bare]
    exact ih formed
  | typeName type => cases formed
  | missing => cases formed
  | _ => rw [bare]; rfl

end trees

open Evaluation

theorem evaluateArguments_bare (arguments : List Node)
    (each : ∀ argument ∈ arguments, argument.wellFormed = true →
      argument.bare.evaluate = argument.evaluate)
    (formed : argumentsWellFormed arguments = true) :
    evaluateArguments (bareArguments arguments) = evaluateArguments arguments := by
  induction arguments with
  | nil => rfl
  | cons argument rest ih =>
    rw [argumentsWellFormed, Bool.and_eq_true, Bool.or_eq_true] at formed
    have tail := ih (fun other member => each other (by simp [member])) formed.2
    cases kind : argument.isType with
    | true =>
      cases argument with
      | typeName type => rw [bareArguments, bare, evaluateArguments, evaluateArguments, tail]
      | _ => cases kind
    | false =>
      have head := formed.1.resolve_left (by simp [kind])
      rw [bareArguments, evaluateArguments_cons _ _ (isType_bare argument head),
        evaluateArguments_cons argument rest kind, each argument (by simp) head, tail]

theorem evaluate_bare (node : Node) (formed : node.wellFormed = true) :
    node.bare.evaluate = node.evaluate := by
  induction node using evaluationInduction with
  | missing => cases formed
  | typeName type => cases formed
  | literal value => rw [bare]
  | identifier name => rw [bare]
  | declaration name type => rw [bare]
  | operator op left right onLeft onRight =>
    rw [wellFormed, Bool.and_eq_true] at formed
    rw [bare, evaluate, evaluate, onLeft formed.1, onRight formed.2]
  | cast type operand onOperand => rw [bare, evaluate, evaluate, onOperand formed]
  | parenthesis inner onInner => rw [bare, evaluate, onInner formed]
  | dereference pointer onPointer => rw [bare, evaluate, evaluate, onPointer formed]
  | store pointer value onPointer onValue =>
    simp only [wellFormed, isTarget, Bool.true_and, Bool.and_eq_true] at formed
    rw [bare, bare, evaluate, evaluate, onPointer formed.1, onValue formed.2]
  | define name type value onValue =>
    simp only [wellFormed, isTarget, Bool.true_and] at formed
    rw [bare, bare, evaluate, evaluate, onValue formed]
  | assign name value onValue =>
    simp only [wellFormed, isTarget, Bool.true_and] at formed
    rw [bare, bare, evaluate, evaluate, onValue formed]
  | refuse target value refused =>
    rw [wellFormed, refused] at formed
    cases formed
  | call function arguments each =>
    rw [bare, evaluate, evaluate, evaluateArguments_bare arguments each formed]

/-- Taking all parentheses away from a well-formed tree changes neither how it ends, with a result
or in whichever failure, nor what it leaves behind on the machine. -/
theorem parentheses_transparent (node : Node) (formed : node.wellFormed = true)
    (machine : Machine) :
    node.bare.hasParenthesis = false ∧
      node.bare.evaluate.runOn machine = node.evaluate.runOn machine := by
  refine ⟨hasParenthesis_bare node, ?_⟩
  rw [evaluate_bare node formed]

/-- Parentheses inside the target of a store, around an operand and around arguments, in a statement
that reserves memory before it fails. -/
theorem parentheses_transparent_in_store :
    let machine := (Machine.ofConfig ⟨8, 10⟩ true).session [.declaration "p" (.pointer .char)]
    let grouped : Node := .assignment (.dereference (.parenthesis (.identifier "p")))
      (.parenthesis (.operator .add
        (.parenthesis (.call "malloc" [.parenthesis (.parenthesis (.literal (.int 3)))]))
        (.call "clear" [])))
    let plain : Node := .assignment (.dereference (.identifier "p"))
      (.operator .add (.call "malloc" [.literal (.int 3)]) (.call "clear" []))
    grouped.wellFormed = true ∧
      (plain.evaluate.runOn machine).1 = .error (.fault (.voidOperand .right .add)) ∧
      (plain.evaluate.runOn machine).2.memory.allocator.regions = [⟨0, 3⟩] ∧
      plain.evaluate.runOn machine = grouped.evaluate.runOn machine := by
  intro machine grouped plain
  have formed : grouped.wellFormed = true := rfl
  exact ⟨formed, by decide +kernel, by decide +kernel,
    (parentheses_transparent grouped formed machine).2⟩

end Statement

end HeapConsole
