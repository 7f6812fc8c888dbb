import HeapConsole.Proofs.Grammar.Soundness
import HeapConsole.Proofs.InternalFaults

/-! The class of an error, the range of its code and the words in front of its message always tell
the same kind. Reading a text gives errors of syntax and no others, and evaluating a tree, malformed
or not, never gives one. -/
namespace HeapConsole

def ErrorKind.errorClass : ErrorKind → ErrorClass
  | .syntactic => .syntactic
  | .typing => .typing
  | .runtime => .runtime
  | .internal => .internal

/-- The numbers of a kind are the thousand from here on. -/
def ErrorKind.firstNumber : ErrorKind → Nat
  | .syntactic => 1000
  | .typing => 2000
  | .runtime => 5000
  | .internal => 9000

theorem Code.number_of_kind (code : Code) :
    code.kind.firstNumber ≤ code.number ∧ code.number < code.kind.firstNumber + 1000 := by
  cases code <;> decide

namespace Fault

/-- Where a fault arises its class and its code are chosen apart from each other. -/
theorem errorClass_eq (fault : Fault) : fault.errorClass = fault.code.kind.errorClass := by
  cases fault <;> rfl

theorem line_eq (fault : Fault) :
    fault.line = fault.code.kind.heading ++ ": " ++ fault.message := rfl

/-- The code is of the kind and has one of the numbers, and the line begins with the heading. -/
structure ShownAs (fault : Fault) (kind : ErrorKind) (first last : Nat) (heading : String) :
    Prop where
  kind : fault.code.kind = kind
  first : first ≤ fault.code.number
  last : fault.code.number ≤ last
  line : fault.line = heading ++ fault.message

/-- The code, its number and the heading are those of the class. -/
def Coherent (fault : Fault) : Prop :=
  match fault.errorClass with
  | .syntactic => fault.ShownAs .syntactic 1000 1999 "Syntax error: "
  | .typing => fault.ShownAs .typing 2000 2999 "Type error: "
  | .runtime => fault.ShownAs .runtime 5000 5999 "Runtime error: "
  | .internal => fault.ShownAs .internal 9000 9999 "Internal error: "
  | .general => False

theorem shownAs (fault : Fault) (kind : ErrorKind) (same : fault.code.kind = kind) :
    fault.ShownAs kind kind.firstNumber (kind.firstNumber + 999) (kind.heading ++ ": ") := by
  obtain ⟨first, last⟩ := fault.code.number_of_kind
  have line := fault.line_eq
  rw [same] at first last line
  exact ⟨same, first, Nat.le_of_lt_succ last, line⟩

theorem coherent (fault : Fault) : fault.Coherent := by
  rw [Coherent, errorClass_eq]
  cases kind : fault.code.kind with
  | syntactic => exact fault.shownAs .syntactic kind
  | typing => exact fault.shownAs .typing kind
  | runtime => exact fault.shownAs .runtime kind
  | internal => exact fault.shownAs .internal kind

theorem errorClass_of_expected (fault : Fault) (expected : fault.Expected) :
    fault.errorClass ≠ .syntactic := by
  rcases expected with typing | runtime
  · rw [typing]
    decide
  · rw [runtime]
    decide

theorem errorClass_of_unexpectedNode (fault : Fault) (code : fault.code = .unexpectedNode) :
    fault.errorClass = .internal := by
  rw [errorClass_eq, code]
  rfl

end Fault

theorem Grammar.errorClass_of_parse (text : String) (fault : Fault)
    (unread : Grammar.parse text = .error fault) : fault.errorClass = .syntactic := by
  rcases Settles.cases (settles_parse text) with ⟨node, read, _⟩ | ⟨cause, failed, syntactic, _⟩
  · rw [read] at unread
    cases unread
  · rw [failed] at unread
    cases unread
    exact syntactic

/-- What the evaluation of a tree of any shape can fail with. -/
def Failure.OfEvaluation : Failure → Prop
  | .fault cause => cause.Expected ∨ cause.code = .unexpectedNode
  | .digitLimit => True

theorem Failure.ofEvaluation_of_expected (failure : Failure) (expected : failure.Expected) :
    failure.OfEvaluation := by
  cases failure with
  | fault cause => exact .inl expected
  | digitLimit => trivial

theorem Failure.ofEvaluation_of_unexpectedNode (fault : Fault)
    (code : fault.code = .unexpectedNode) : (Failure.of fault).OfEvaluation := by
  unfold Failure.of
  split
  · exact .inr code
  · trivial

namespace Statement

theorem failsOnly_ofEvaluation (node : Node) :
    Evaluation.FailsOnly Failure.OfEvaluation node.evaluate :=
  failsOnly_evaluate _ Failure.ofEvaluation_of_expected node
    (.inr Failure.ofEvaluation_of_unexpectedNode)

theorem errorClass_of_evaluate (node : Node) (machine : Machine) (fault : Fault)
    (failed : (node.evaluate.runOn machine).1 = .error (.fault fault)) :
    fault.errorClass ≠ .syntactic := by
  rcases node.failsOnly_ofEvaluation machine _ failed with expected | code
  · exact fault.errorClass_of_expected expected
  · rw [fault.errorClass_of_unexpectedNode code]
    decide

end Statement

/-- Every error of reading a text is one of syntax, and no error of evaluating a tree on any machine
is; all of them have a code of their class and are shown under its heading. -/
theorem errors_coherent :
    (∀ text fault, Grammar.parse text = .error fault →
      fault.errorClass = .syntactic ∧ fault.Coherent) ∧
    ∀ (node : Node) (machine : Machine) (fault : Fault),
      (node.evaluate.runOn machine).1 = .error (.fault fault) →
        fault.errorClass ≠ .syntactic ∧ fault.Coherent :=
  ⟨fun text fault unread => ⟨Grammar.errorClass_of_parse text fault unread, fault.coherent⟩,
    fun node machine fault failed =>
      ⟨node.errorClass_of_evaluate machine fault failed, fault.coherent⟩⟩

theorem errors_coherent_at_unknown_type_and_missing_operand :
    let unread : Fault := .unknownType "double*"
    let broken : Fault := .unexpectedNode "NoneType"
    let node : Node := .operator .add (.literal (.int 1)) .missing
    let machine := Machine.ofConfig ⟨4, 10⟩ true
    Grammar.parse "double* p" = .error unread ∧
      (node.evaluate.runOn machine).1 = .error (.fault broken) ∧
      unread.line = "Syntax error: Unknown type double*." ∧
      broken.line = "Internal error: Unexpected statement node type NoneType." := by
  intro unread broken node machine
  have read : Grammar.parse "double* p" = .error unread := by cbv
  have failed : (node.evaluate.runOn machine).1 = .error (.fault broken) := rfl
  have syntactic : unread.ShownAs .syntactic 1000 1999 "Syntax error: " :=
    (errors_coherent.1 _ unread read).2
  have internal : broken.ShownAs .internal 9000 9999 "Internal error: " :=
    (errors_coherent.2 node machine broken failed).2
  exact ⟨read, failed, syntactic.line, internal.line⟩

end HeapConsole
