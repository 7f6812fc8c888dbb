import HeapConsole.Proofs.DigitLimit

/-! The transcript of a whole session. What happened to it is told line by line, from the reading
and the evaluation of each line alone, and what is left in the end is what was recorded behind the
last clearing. -/
namespace HeapConsole

namespace Event

def item? : Event → Option Item
  | .record item => some item
  | .clear => none

/-- What was recorded behind the last clearing. -/
def sinceClear (events : List Event) : List Item :=
  (events.rtakeWhile (· ≠ .clear)).filterMap item?

theorem sinceClear_record (events : List Event) (item : Item) :
    sinceClear (events ++ [.record item]) = sinceClear events ++ [item] := by
  rw [sinceClear, List.rtakeWhile_concat_pos _ _ _ (by simp), List.filterMap_append]
  rfl

theorem sinceClear_clear (events : List Event) : sinceClear (events ++ [.clear]) = [] := by
  rw [sinceClear, List.rtakeWhile_concat_neg _ _ _ (by simp)]
  rfl

theorem replay_eq_sinceClear (events : List Event) : replay [] events = sinceClear events := by
  induction events using List.reverseRecOn with
  | nil => rfl
  | append_singleton events event ih =>
    rw [replay_append, ih]
    cases event with
    | record item => exact (sinceClear_record events item).symm
    | clear => exact (sinceClear_clear events).symm

/-- What is there to begin with counts as recorded first. -/
theorem replay_onto (history : List Item) (events : List Event) :
    replay history events = sinceClear (history.map .record ++ events) := by
  have first : replay [] (history.map .record) = history := replay_record [] history
  rw [← replay_eq_sinceClear, replay_append, first]

end Event

theorem Machine.textCalls_of_unread (machine : Machine) (text : String) (fault : Fault)
    (unread : Grammar.parse text = .error fault) : machine.textCalls text = [] := by
  unfold textCalls
  split
  · rfl
  · next found same =>
    rw [same] at unread
    cases unread

namespace Console

/-- The lines of a session, each with the console that it is given to. -/
def steps (console : Console) : List String → List (Console × String)
  | [] => []
  | line :: rest => (console, line) :: (console.execute line).2.steps rest

/-- How often the evaluation of a node on the machine clears the transcript. -/
def clearsOf (node : Node) (machine : Machine) : List Event :=
  List.replicate ((node.calls machine).countP Call.isClear) .clear

/-- What a line adds to the course of a session. A blank line adds nothing, and every other one
first its command. An answer is recorded once, behind the clearings that ran on the way to it, and
it is shown in the base that the machine has by then. -/
inductive Adds (console : Console) (line : String) : List Event → Prop where
  | blank (blank : (Text.strip line).isEmpty = true) : Adds console line []
  | help (visible : (Text.strip line).isEmpty = false) (help : isHelp (Text.strip line) = true) :
      Adds console line [.record ⟨.command, Text.strip line⟩, .record ⟨.info, helpText⟩]
  | unread (visible : (Text.strip line).isEmpty = false) (plain : isHelp (Text.strip line) = false)
      (fault : Fault) (unread : Grammar.parse (Text.strip line) = .error fault) :
      Adds console line [.record ⟨.command, Text.strip line⟩, .record ⟨.error, fault.line⟩]
  | failed (visible : (Text.strip line).isEmpty = false) (plain : isHelp (Text.strip line) = false)
      (node : Node) (read : Grammar.parse (Text.strip line) = .ok node) (fault : Fault)
      (after : Machine)
      (ran : node.evaluate.runOn console.machine = (.error (.fault fault), after)) :
      Adds console line (.record ⟨.command, Text.strip line⟩ ::
        (clearsOf node console.machine ++ [.record ⟨.error, fault.line⟩]))
  | void (visible : (Text.strip line).isEmpty = false) (plain : isHelp (Text.strip line) = false)
      (node : Node) (read : Grammar.parse (Text.strip line) = .ok node) (after : Machine)
      (ran : node.evaluate.runOn console.machine = (.ok .void, after)) :
      Adds console line (.record ⟨.command, Text.strip line⟩ :: clearsOf node console.machine)
  | value (visible : (Text.strip line).isEmpty = false) (plain : isHelp (Text.strip line) = false)
      (node : Node) (read : Grammar.parse (Text.strip line) = .ok node) (v : Value)
      (after : Machine) (ran : node.evaluate.runOn console.machine = (.ok (.value v), after)) :
      Adds console line (.record ⟨.command, Text.strip line⟩ ::
        (clearsOf node console.machine ++ [.record ⟨.info, "-> " ++ v.display after.base⟩]))

section events

variable (console : Console) (line : String)

theorem events_blank (blank : (Text.strip line).isEmpty = true) : console.events line = [] := by
  simp [events, blank]

theorem events_help (visible : (Text.strip line).isEmpty = false)
    (help : isHelp (Text.strip line) = true) :
    console.events line = [.record ⟨.command, Text.strip line⟩, .record ⟨.info, helpText⟩] := by
  simp [events, visible, clearings, answer, help]

theorem events_unread (visible : (Text.strip line).isEmpty = false)
    (plain : isHelp (Text.strip line) = false) (fault : Fault)
    (unread : Grammar.parse (Text.strip line) = .error fault) :
    console.events line =
      [.record ⟨.command, Text.strip line⟩, .record ⟨.error, fault.line⟩] := by
  have uncalled := console.machine.textCalls_of_unread _ fault unread
  have ran := console.machine.run_of_unread _ fault unread
  simp [events, visible, clearings, answer, plain, uncalled, ran]

theorem events_read (visible : (Text.strip line).isEmpty = false)
    (plain : isHelp (Text.strip line) = false) (node : Node)
    (read : Grammar.parse (Text.strip line) = .ok node) :
    console.events line =
      .record ⟨.command, Text.strip line⟩ ::
        (clearsOf node console.machine ++ (console.answer (Text.strip line)).map .record) := by
  have called := console.machine.textCalls_of_parse _ node read
  simp [events, visible, clearings, clearsOf, plain, called]

theorem adds_events (answered : (console.execute line).1 ≠ none) :
    console.Adds line (console.events line) := by
  cases visible : (Text.strip line).isEmpty with
  | true =>
    rw [events_blank console line visible]
    exact .blank visible
  | false =>
    cases plain : isHelp (Text.strip line) with
    | true =>
      rw [events_help console line visible plain]
      exact .help visible plain
    | false =>
      cases read : Grammar.parse (Text.strip line) with
      | error fault =>
        rw [events_unread console line visible plain fault read]
        exact .unread visible plain fault read
      | ok node =>
        have ran := console.machine.run_of_parse _ node read
        rw [events_read console line visible plain node read, answer, plain, ran]
        rcases ended : node.evaluate.runOn console.machine with ⟨(fault | _) | (_ | v), after⟩
        · exact .failed visible plain node read fault after ended
        · have aborts : console.Aborts line := ⟨visible, plain, by rw [ran, ended]⟩
          exact absurd (execute_of_aborts console line aborts) answered
        · have added := Adds.void visible plain node read after ended
          simpa using added
        · exact .value visible plain node read v after ended

/-- One line does to the transcript what its events say. -/
theorem history_execute (attached : console.Attached) (answered : (console.execute line).1 ≠ none) :
    (console.execute line).2.history = Event.replay console.history (console.events line) := by
  cases visible : (Text.strip line).isEmpty with
  | true =>
    rw [execute_blank console line visible, events_blank console line visible]
    rfl
  | false =>
    have ends : ¬ console.Aborts line :=
      fun aborts => answered (execute_of_aborts console line aborts)
    exact (execute_of_ends console line attached visible ends).1

end events

/-- A session does to the transcript what the events of its lines say, one line after another. -/
theorem history_afterLines (console : Console) (attached : console.Attached) (lines : List String)
    (answered : ∀ step ∈ console.steps lines, (step.1.execute step.2).1 ≠ none) :
    (console.afterLines lines).history =
      Event.replay console.history
        ((console.steps lines).flatMap fun step => step.1.events step.2) := by
  induction lines generalizing console with
  | nil => rfl
  | cons line rest ih =>
    have here := history_execute console line attached
      (answered (console, line) List.mem_cons_self)
    have later := ih (console.execute line).2 (attached.execute line)
      fun step member => answered step (List.mem_cons_of_mem _ member)
    rw [afterLines, steps, List.flatMap_cons, Event.replay_append, ← here]
    exact later

/-- The transcript of a session on a new console is what was recorded behind the last clearing,
where the greeting comes first and every line adds what became of it. -/
theorem transcript_of_session (config : Config) (lines : List String)
    (answered : ∀ step ∈ (ofConfig config).steps lines, (step.1.execute step.2).1 ≠ none) :
    ((ofConfig config).afterLines lines).history =
      Event.sinceClear (greeting.map .record ++
        ((ofConfig config).steps lines).flatMap fun step => step.1.events step.2) ∧
    (∀ step ∈ (ofConfig config).steps lines, step.1.Adds step.2 (step.1.events step.2)) ∧
    ∀ step ∈ (ofConfig config).steps lines, (Text.strip step.2).isEmpty = true →
      step.1.execute step.2 = (some [], step.1) := by
  have attached : (ofConfig config).Attached := (Reachable.ofConfig config).attached
  refine ⟨?_, fun step member => ?_, fun step _ blank => execute_blank step.1 step.2 blank⟩
  · rw [history_afterLines _ attached lines answered, Event.replay_onto]
    rfl
  · exact adds_events step.1 step.2 (answered step member)

theorem events_of_cleared_operand :
    (ofConfig ⟨4, 10⟩).events "clear() + 1" =
      [.record ⟨.command, "clear() + 1"⟩, .clear,
        .record ⟨.error, "Runtime error: Left-hand side of operator + is void."⟩] := by
  have bare : Text.strip "clear() + 1" = "clear() + 1" := by decide +kernel
  have visible : (Text.strip "clear() + 1").isEmpty = false := by decide +kernel
  have plain : isHelp (Text.strip "clear() + 1") = false := by decide +kernel
  let node : Node := .operator .add (.call "clear" []) (.literal (.int 1))
  have read : Grammar.parse (Text.strip "clear() + 1") = .ok node := by
    rw [bare]
    cbv
  have ran := (ofConfig ⟨4, 10⟩).machine.run_of_parse _ node read
  have failed : (ofConfig ⟨4, 10⟩).answer (Text.strip "clear() + 1") =
      [⟨.error, "Runtime error: Left-hand side of operator + is void."⟩] := by
    rw [answer, plain, ran]
    decide +kernel
  have cleared : clearsOf node (ofConfig ⟨4, 10⟩).machine = [.clear] := by decide +kernel
  rw [events_read _ _ visible plain node read, failed, cleared, bare]
  rfl

theorem transcript_of_cleared_session :
    let console := ofConfig ⟨4, 10⟩
    let lines := [" ", "clear() + 1", "help;"]
    (∀ step ∈ console.steps lines, (step.1.execute step.2).1 ≠ none) ∧
      (console.afterLines lines).history =
        [⟨.error, "Runtime error: Left-hand side of operator + is void."⟩, ⟨.command, "help;"⟩,
          ⟨.info, helpText⟩] := by
  intro console lines
  have blank : (Text.strip " ").isEmpty = true := by decide +kernel
  have bare : Text.strip "help;" = "help;" := by decide +kernel
  have visible : (Text.strip "help;").isEmpty = false := by decide +kernel
  have help : isHelp (Text.strip "help;") = true := by decide +kernel
  obtain ⟨fails, hides⟩ := fails_and_hides_of_cleared_operand
  have attached := (Reachable.ofConfig ⟨4, 10⟩).attached
  have cleared := items_of_execute console attached _ fails.1 fails.ends
  let after := (console.execute "clear() + 1").2
  have course : console.steps lines =
      [(console, " "), (console, "clear() + 1"), (after, "help;")] := by
    simp only [lines, steps, execute_blank console " " blank]
    rfl
  have answered : ∀ step ∈ console.steps lines, (step.1.execute step.2).1 ≠ none := by
    rw [course]
    intro step member
    rcases List.mem_cons.mp member with rfl | member
    · rw [execute_blank console " " blank]
      nofun
    rcases List.mem_cons.mp member with rfl | member
    · rw [cleared]
      nofun
    · rw [List.mem_singleton.mp member, execute_help after "help;" visible help]
      nofun
  have transcript := (transcript_of_session ⟨4, 10⟩ lines answered).1
  refine ⟨answered, transcript.trans ?_⟩
  have events : (console.steps lines).flatMap (fun step => step.1.events step.2) =
      [.record ⟨.command, "clear() + 1"⟩, .clear,
        .record ⟨.error, "Runtime error: Left-hand side of operator + is void."⟩,
        .record ⟨.command, "help;"⟩, .record ⟨.info, helpText⟩] := by
    rw [course]
    simp only [List.flatMap_cons, List.flatMap_nil, events_blank console " " blank,
      events_help after "help;" visible help, bare]
    rw [show console.events "clear() + 1" = _ from events_of_cleared_operand]
    rfl
  rw [show ((ofConfig ⟨4, 10⟩).steps lines).flatMap _ = _ from events]
  rfl

end Console

end HeapConsole
