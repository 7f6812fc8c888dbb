import HeapConsole.CommandLine.Perform
import HeapConsole.Proofs.Transcript

/-! What the run of a file executes, prints and exits with. The run itself sees only the items that
each line gives back; here its course is told by how the statements end. -/
namespace HeapConsole

namespace Console

theorem aborts_iff (console : Console) (attached : console.Attached) (line : String)
    (visible : (Text.strip line).isEmpty = false) :
    (console.execute line).1 = none ↔ console.Aborts line := by
  constructor
  · intro unanswered
    by_contra ends
    rw [items_of_execute console attached line visible ends] at unanswered
    cases unanswered
  · exact execute_of_aborts console line

theorem any_error_of_execute (console : Console) (attached : console.Attached) (line : String)
    (visible : (Text.strip line).isEmpty = false) (items : List Item)
    (given : (console.execute line).1 = some items) :
    items.any (·.style == .error) = decide (console.Fails line ∧ ¬ console.Hides line) := by
  have ends : ¬ console.Aborts line := by
    rw [← aborts_iff console attached line visible, given]
    simp
  rw [items_of_execute console attached line visible ends] at given
  have errors := error_mem_items console line visible
  rw [Option.some.inj given] at errors
  rw [Bool.eq_iff_iff, List.any_eq_true, decide_eq_true_iff, ← errors]
  simp

end Console

namespace CommandLine

def statements (lines : List String) : List String :=
  (lines.map Text.strip).filter fun text => !isSkipped text

section run

variable (heapLimit : Int) (options : RunOptions)

/-- The line is the last one of the run, whatever comes behind it. -/
def Ends (console : Console) (line : String) : Prop :=
  console.Aborts line ∨ options.keepGoing = false ∧ console.Fails line ∧ ¬ console.Hides line

instance (console : Console) (line : String) : Decidable (Ends options console line) :=
  inferInstanceAs (Decidable (_ ∨ _))

/-- The statements that are executed, each with the console as it was before. -/
def executed (console : Console) : List String → List (Console × String)
  | [] => []
  | line :: rest =>
    (console, line) ::
      if Ends options console line then [] else executed (console.execute line).2 rest

def output (console : Console) (line : String) : List String :=
  match (console.execute line).1 with
  | none => []
  | some items => (if options.echo then [prompt ++ line] else []) ++ shown items

def final (console : Console) (steps : List (Console × String)) : Console :=
  match steps.getLast? with
  | none => console
  | some (before, line) => (before.execute line).2

def progress (console : Console) (steps : List (Console × String)) : Progress where
  console := final console steps
  printed := steps.flatMap fun step => output options step.1 step.2
  failed := steps.any fun step => step.1.Fails step.2 ∧ ¬ step.1.Hides step.2
  aborted := steps.any fun step => step.1.Aborts step.2

/-- The progress of a statement, given that of the lines behind it. -/
def Progress.after (later : Progress) (console : Console) (line : String) : Progress where
  console := later.console
  printed := output options console line ++ later.printed
  failed := decide (console.Fails line ∧ ¬ console.Hides line) || later.failed
  aborted := decide (console.Aborts line) || later.aborted

theorem progress_cons (console before : Console) (line : String) (steps : List (Console × String)) :
    progress options console ((before, line) :: steps) =
      (progress options (before.execute line).2 steps).after options before line := by
  have last : final console ((before, line) :: steps) = final (before.execute line).2 steps := by
    cases steps with
    | nil => simp [final]
    | cons step rest => rw [final, final, List.getLast?_cons_cons, List.getLast?_cons]
  simp only [progress, Progress.after, last, List.flatMap_cons, List.any_cons]

theorem visible_of_unskipped (raw : String) (kept : isSkipped (Text.strip raw) = false) :
    (Text.strip (Text.strip raw)).isEmpty = false := by
  rw [isSkipped, Bool.or_eq_false_iff] at kept
  rw [Text.strip_strip]
  exact kept.1

theorem runLines_skipped (console : Console) (raw : String) (rest : List String)
    (skipped : isSkipped (Text.strip raw) = true) :
    runLines options console (raw :: rest) = runLines options console rest := by
  simp only [runLines, skipped, if_true]

/-- A statement is noticed to fail unless it hides that, and then the run may end. -/
theorem runLines_statement (console : Console) (attached : console.Attached) (raw : String)
    (rest : List String) (kept : isSkipped (Text.strip raw) = false) :
    runLines options console (raw :: rest) =
      (if Ends options console (Text.strip raw)
        then progress options (console.execute (Text.strip raw)).2 []
        else runLines options (console.execute (Text.strip raw)).2 rest).after options console
          (Text.strip raw) := by
  have visible := visible_of_unskipped raw kept
  have unanswered := console.aborts_iff attached (Text.strip raw) visible
  have noticed := console.any_error_of_execute attached (Text.strip raw) visible
  simp only [runLines, kept, Bool.false_eq_true, if_false, Progress.after, output]
  rcases ran : console.execute (Text.strip raw) with ⟨_ | items, after⟩
  · -- Without an answer nothing is printed, and nothing counts as a failure.
    rw [ran] at unanswered
    have aborts := unanswered.mp rfl
    have unfailed : ¬ console.Fails (Text.strip raw) := fun fails => fails.ends aborts
    have ends : Ends options console (Text.strip raw) := .inl aborts
    simp [ends, aborts, unfailed, progress, final]
  · rw [ran] at unanswered
    have unaborted : ¬ console.Aborts (Text.strip raw) := by
      rw [← unanswered]
      simp
    have error := noticed items (by rw [ran])
    by_cases fails : console.Fails (Text.strip raw) ∧ ¬ console.Hides (Text.strip raw)
    · rw [decide_eq_true fails] at error
      cases going : options.keepGoing with
      | false =>
        have ends : Ends options console (Text.strip raw) := .inr ⟨going, fails⟩
        simp [error, ends, fails, unaborted, progress, final]
      | true =>
        have goesOn : ¬ Ends options console (Text.strip raw) := by simp [Ends, unaborted, going]
        simp [error, goesOn, fails, unaborted]
    · have goesOn : ¬ Ends options console (Text.strip raw) := by
        rintro (aborts | ends)
        · exact unaborted aborts
        · exact fails ends.2
      rw [decide_eq_false fails] at error
      simp [error, goesOn, fails, unaborted]

theorem runLines_eq (console : Console) (attached : console.Attached) (lines : List String) :
    runLines options console lines =
      progress options console (executed options console (statements lines)) := by
  induction lines generalizing console with
  | nil => rfl
  | cons raw rest ih =>
    cases skipped : isSkipped (Text.strip raw) with
    | true =>
      have fewer : statements (raw :: rest) = statements rest := by simp [statements, skipped]
      rw [fewer, runLines_skipped options console raw rest skipped, ih console attached]
    | false =>
      have more : statements (raw :: rest) = Text.strip raw :: statements rest := by
        simp [statements, skipped]
      rw [more, executed, progress_cons, runLines_statement options console attached raw rest skipped,
        ih _ (attached.execute (Text.strip raw))]
      split <;> rfl

theorem executed_prefix (console : Console) (lines : List String) :
    (executed options console lines).map Prod.snd <+: lines := by
  induction lines generalizing console with
  | nil => exact List.prefix_rfl
  | cons line rest ih =>
    rw [executed, List.map_cons, List.prefix_cons_inj]
    split
    · exact List.nil_prefix
    · exact ih _

theorem executed_ends (console : Console) (lines : List String) (before after : List (Console × String))
    (step : Console × String) (course : executed options console lines = before ++ step :: after)
    (ends : Ends options step.1 step.2) : after = [] := by
  induction lines generalizing console before with
  | nil => simp [executed] at course
  | cons line rest ih =>
    rw [executed] at course
    cases before with
    | nil =>
      obtain ⟨rfl, tail⟩ := List.cons.inj course
      rw [if_pos ends] at tail
      exact tail.symm
    | cons earlier before =>
      have tail := (List.cons.inj course).2
      split at tail
      · simp at tail
      · exact ih _ before tail

theorem executed_all (console : Console) (lines : List String)
    (goesOn : ∀ step ∈ executed options console lines, ¬ Ends options step.1 step.2) :
    (executed options console lines).map Prod.snd = lines := by
  induction lines generalizing console with
  | nil => rfl
  | cons line rest ih =>
    rw [executed] at goesOn ⊢
    rw [if_neg (goesOn (console, line) (by simp))] at goesOn ⊢
    rw [List.map_cons, ih _ fun step member => goesOn step (by simp [member])]

theorem attached_of_console? (config : Config) (console : Console)
    (valid : console? heapLimit config = some console) : console.Attached := by
  unfold console? at valid
  split at valid
  · cases valid
    exact (Console.Reachable.ofConfig config).attached
  · cases valid

theorem run_eq (config : Config) (console : Console) (text : String)
    (valid : console? heapLimit config = some console)
    (unaborted : ∀ step ∈ executed options console (statements (Text.splitLines text)),
      ¬ step.1.Aborts step.2) :
    let steps := executed options console (statements (Text.splitLines text))
    run heapLimit options config (some text) =
      .printed (if ∃ step ∈ steps, step.1.Fails step.2 ∧ ¬ step.1.Hides step.2 then 1 else 0)
        (lines (steps.flatMap fun step => output options step.1 step.2) ++
          if options.dumpHeap then line (dump (final console steps)) else "") := by
  intro steps
  have course := runLines_eq options console (attached_of_console? heapLimit config console valid)
    (Text.splitLines text)
  have quiet : (steps.any fun step => step.1.Aborts step.2) = false := by
    simpa using unaborted
  have seen : (steps.any fun step => step.1.Fails step.2 ∧ ¬ step.1.Hides step.2) = true ↔
      ∃ step ∈ steps, step.1.Fails step.2 ∧ ¬ step.1.Hides step.2 := by
    simp only [List.any_eq_true, decide_eq_true_iff]
  simp only [run, valid, course, progress, steps, quiet, seen, Bool.false_eq_true, if_false]

/-- The statements of a file run up to the first that is seen to fail, or all of them, and the exit
code tells whether one was seen to fail. One that clears a transcript is not seen. -/
theorem run_reports (config : Config) (console : Console) (text : String)
    (valid : console? heapLimit config = some console)
    (unaborted : ∀ step ∈ executed options console (statements (Text.splitLines text)),
      ¬ step.1.Aborts step.2) :
    let steps := executed options console (statements (Text.splitLines text))
    run heapLimit options config (some text) =
      .printed (if ∃ step ∈ steps, step.1.Fails step.2 ∧ ¬ step.1.Hides step.2 then 1 else 0)
        (lines (steps.flatMap fun step => output options step.1 step.2) ++
          if options.dumpHeap then line (dump (final console steps)) else "") ∧
    steps.map Prod.snd <+: statements (Text.splitLines text) ∧
    (options.keepGoing = true → steps.map Prod.snd = statements (Text.splitLines text)) ∧
    (options.keepGoing = false → ∀ before step after, steps = before ++ step :: after →
      step.1.Fails step.2 → ¬ step.1.Hides step.2 → after = []) := by
  intro steps
  refine ⟨run_eq heapLimit options config console text valid unaborted,
    executed_prefix options console _, fun going => ?_,
    fun stops before step after course fails seen => ?_⟩
  · refine executed_all options console _ fun step member ends => ?_
    rcases ends with aborts | ⟨stops, _⟩
    · exact unaborted step member aborts
    · rw [going] at stops
      cases stops
  · exact executed_ends options console _ before after step course (.inr ⟨stops, fails, seen⟩)

end run

section clearing

def clearingFile : String := "clear() + 1\nhelp"

theorem executed_clearingFile :
    let console := Console.ofConfig ⟨4, 10⟩
    executed ⟨false, false, false⟩ console (statements (Text.splitLines clearingFile)) =
      [(console, "clear() + 1"), ((console.execute "clear() + 1").2, "help")] := by
  intro console
  have split : statements (Text.splitLines clearingFile) = ["clear() + 1", "help"] := by
    decide +kernel
  obtain ⟨fails, hides⟩ := Console.fails_and_hides_of_cleared_operand
  -- The line fails, but it hides that.
  have goesOn : ¬ Ends ⟨false, false, false⟩ console "clear() + 1" := by
    rintro (aborts | ⟨_, _, seen⟩)
    · exact fails.ends aborts
    · exact seen hides
  rw [split, executed, if_neg goesOn, executed]
  simp [executed]

theorem course_of_clearingFile :
    let console := Console.ofConfig ⟨4, 10⟩
    let steps := executed ⟨false, false, false⟩ console (statements (Text.splitLines clearingFile))
    (∀ step ∈ steps, ¬ step.1.Aborts step.2) ∧ (∃ step ∈ steps, step.1.Fails step.2) ∧
      ¬ ∃ step ∈ steps, step.1.Fails step.2 ∧ ¬ step.1.Hides step.2 := by
  intro console steps
  obtain ⟨fails, hides⟩ := Console.fails_and_hides_of_cleared_operand
  have help : Console.isHelp (Text.strip "help") = true := by decide +kernel
  have course : steps = [(console, "clear() + 1"), ((console.execute "clear() + 1").2, "help")] :=
    executed_clearingFile
  rw [course]
  refine ⟨?_, ⟨(console, "clear() + 1"), by simp, fails⟩, ?_⟩
  · simp only [List.mem_cons, List.not_mem_nil, or_false, forall_eq_or_imp, forall_eq]
    refine ⟨fails.ends, ?_⟩
    rintro ⟨_, plain, _⟩
    exact absurd help (by simp [plain])
  · simp only [List.mem_cons, List.not_mem_nil, or_false, exists_eq_or_imp, exists_eq_left]
    rintro (⟨_, seen⟩ | ⟨⟨_, plain, _⟩, _⟩)
    · exact seen hides
    · exact absurd help (by simp [plain])

theorem run_reports_clearingFile :
    let console := Console.ofConfig ⟨4, 10⟩
    console? 4 ⟨4, 10⟩ = some console ∧ console.Fails "clear() + 1" ∧
      (run 4 ⟨false, false, false⟩ ⟨4, 10⟩ (some clearingFile)).exit = 0 := by
  intro console
  obtain ⟨unaborted, _, unseen⟩ := course_of_clearingFile
  have report := run_reports 4 ⟨false, false, false⟩ ⟨4, 10⟩ console clearingFile rfl unaborted
  refine ⟨rfl, Console.fails_and_hides_of_cleared_operand.1, ?_⟩
  rw [report.1, if_neg unseen]
  rfl

/-- A statement of the file fails, and the run exits as if none had. -/
theorem run_forgets_cleared_fault :
    ¬ ∀ (heapLimit : Int) (options : RunOptions) (config : Config) (console : Console)
        (text : String), console? heapLimit config = some console →
      (∀ step ∈ executed options console (statements (Text.splitLines text)),
        ¬ step.1.Aborts step.2) →
      ((run heapLimit options config (some text)).exit = 1 ↔
        ∃ step ∈ executed options console (statements (Text.splitLines text)),
          step.1.Fails step.2) := by
  intro faithful
  obtain ⟨unaborted, failed, unseen⟩ := course_of_clearingFile
  have exit := (faithful 4 ⟨false, false, false⟩ ⟨4, 10⟩ _ clearingFile rfl unaborted).mpr failed
  rw [run_eq 4 ⟨false, false, false⟩ ⟨4, 10⟩ _ clearingFile rfl unaborted, if_neg unseen] at exit
  exact absurd exit Nat.zero_ne_one

end clearing

end CommandLine

end HeapConsole
