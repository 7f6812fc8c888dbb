import HeapConsole.Console
import HeapConsole.Proofs.Calls
import Mathlib.Data.List.DropRight

/-! The transcript of a console, as what is left of everything that happened to it. A line first
records its command, then each run of `clear` in it empties the transcript, and its answer is
recorded last. -/
namespace HeapConsole

namespace Text

theorem strip_eq_self (text : String)
    (front : ∀ c ∈ text.toList.head?, isMargin c = false)
    (back : ∀ c ∈ text.toList.getLast?, isMargin c = false) : strip text = text := by
  have left : text.toList.dropWhile isMargin = text.toList := by
    cases spelled : text.toList with
    | nil => rfl
    | cons c rest =>
      rw [spelled] at front
      simp [front c rfl]
  have right : text.toList.rdropWhile isMargin = text.toList := by
    rw [List.rdropWhile_eq_self_iff]
    intro filled
    simp [back _ (List.getLast?_eq_some_getLast filled)]
  show String.ofList ((text.toList.dropWhile isMargin).rdropWhile isMargin) = text
  rw [left, right, String.ofList_toList]

theorem strip_strip (text : String) : strip (strip text) = strip text := by
  have spelled : (strip text).toList = (text.toList.dropWhile isMargin).rdropWhile isMargin := by
    rw [strip, String.toList_ofList]
    rfl
  refine strip_eq_self (strip text) (fun c first => ?_) (fun c last => ?_)
  · obtain ⟨cut, whole⟩ := List.rdropWhile_prefix isMargin (text.toList.dropWhile isMargin)
    have outside := List.head?_dropWhile_not isMargin text.toList
    rw [← whole, ← spelled, List.head?_append, Option.mem_def.mp first] at outside
    exact outside
  · rw [spelled] at last
    obtain ⟨filled, rfl⟩ := List.mem_getLast?_eq_getLast last
    exact Bool.eq_false_iff.mpr (List.rdropWhile_last_not isMargin _ filled)

end Text

namespace Machine

theorem run_of_parse (machine : Machine) (text : String) (node : Node)
    (read : Grammar.parse text = .ok node) : machine.run text = node.evaluate.runOn machine := by
  unfold Machine.run
  split
  · next fault failed =>
    rw [failed] at read
    cases read
  · next found same =>
    rw [same] at read
    cases read
    rfl

theorem run_of_unread (machine : Machine) (text : String) (fault : Fault)
    (unread : Grammar.parse text = .error fault) :
    machine.run text = (.error (.fault fault), machine) := by
  unfold Machine.run
  split
  · next cause failed =>
    rw [failed] at unread
    cases unread
    rfl
  · next found same =>
    rw [same] at unread
    cases unread

def textCalls (machine : Machine) (text : String) : List Call :=
  match Grammar.parse text with
  | .error _ => []
  | .ok node => node.calls machine

theorem textCalls_of_parse (machine : Machine) (text : String) (node : Node)
    (read : Grammar.parse text = .ok node) : machine.textCalls text = node.calls machine := by
  unfold textCalls
  split
  · next fault failed =>
    rw [failed] at read
    cases read
  · next found same =>
    rw [same] at read
    cases read
    rfl

end Machine

section clears

def Call.isClear (call : Call) : Bool := call.builtin = .clear

theorem Call.clears_after (call : Call) :
    call.after.clears =
      if call.isClear then call.before.clears.map (· + 1) else call.before.clears := by
  have changes := call.changes
  generalize call.after = after at changes ⊢
  cases changes with
  | nothing _ unclear _ => simp [isClear, unclear]
  | reserved arguments before size address allocator granted => rfl
  | cleared arguments before => rfl
  | based arguments before base => rfl
  | reset arguments before => rfl

theorem Chained.clears_eq (first last : Option Nat) (log : List Call)
    (chain : Chained Machine.clears first log last) :
    last = first.map (· + log.countP Call.isClear) := by
  induction log generalizing first with
  | nil =>
    rw [Chained] at chain
    simp [chain]
  | cons call rest ih =>
    obtain ⟨start, tail⟩ := chain
    rw [ih _ tail, call.clears_after, start, List.countP_cons]
    cases call.isClear with
    | false => simp
    | true =>
      cases first with
      | none => rfl
      | some n => simp [Nat.add_assoc, Nat.add_comm 1]

theorem steady_clears : Steady Machine.clears where
  bind _ _ _ := rfl
  store _ _ _ _ _ _ := rfl

theorem Machine.clears_run (machine : Machine) (text : String) :
    (machine.run text).2.clears =
      machine.clears.map (· + (machine.textCalls text).countP Call.isClear) := by
  unfold textCalls
  split
  · next fault unread =>
    rw [run_of_unread machine text fault unread]
    simp
  · next node read =>
    rw [run_of_parse machine text node read]
    exact Chained.clears_eq _ _ _ (Statement.logged_evaluate Machine.clears steady_clears node machine)

end clears

inductive Event where
  | record (item : Item)
  | clear
deriving DecidableEq, Repr

namespace Event

def apply (history : List Item) : Event → List Item
  | .record item => history ++ [item]
  | .clear => []

def replay (history : List Item) (events : List Event) : List Item := events.foldl apply history

theorem replay_append (history : List Item) (earlier later : List Event) :
    replay history (earlier ++ later) = replay (replay history earlier) later := by
  simp [replay]

theorem replay_record (history items : List Item) :
    replay history (items.map record) = history ++ items := by
  induction items generalizing history with
  | nil => simp [replay]
  | cons item rest ih =>
    have step := ih (history ++ [item])
    simpa [replay, apply] using step

theorem replay_clear (history : List Item) (count : Nat) :
    replay history (List.replicate count clear) = if count = 0 then history else [] := by
  induction count generalizing history with
  | zero => rfl
  | succ count ih =>
    have step := ih []
    simpa [replay, apply, List.replicate_succ] using step

/-- What was there before is either still in front or gone. -/
theorem replay_eq (history : List Item) (events : List Event) :
    replay history events = (if clear ∈ events then [] else history) ++ replay [] events := by
  induction events generalizing history with
  | nil => simp [replay]
  | cons event rest ih =>
    cases event with
    | clear => simp [replay, apply]
    | record item =>
      have onto := ih (history ++ [item])
      have alone := ih [item]
      simp only [replay, List.foldl_cons, apply, List.nil_append, List.mem_cons, reduceCtorEq,
        false_or] at onto alone ⊢
      rw [onto, alone]
      split <;> simp

end Event

namespace Console

/-- What a line is answered with, apart from the record of its command. -/
def answer (console : Console) (text : String) : List Item :=
  if isHelp text then [⟨.info, helpText⟩]
  else match console.machine.run text with
    | (.error (.fault fault), _) => [⟨.error, fault.line⟩]
    | (.error .digitLimit, _) => []
    | (.ok .void, _) => []
    | (.ok (.value v), after) => [⟨.info, "-> " ++ v.display after.base⟩]

def clearings (console : Console) (text : String) : Nat :=
  if isHelp text then 0 else (console.machine.textCalls text).countP Call.isClear

/-- What a line does to the transcript, in order. -/
def events (console : Console) (line : String) : List Event :=
  let text := Text.strip line
  if text.isEmpty then []
  else .record ⟨.command, text⟩ ::
    (List.replicate (console.clearings text) .clear ++ (console.answer text).map .record)

/-- The line has no end that can be recorded: an integer beyond the digit limit had to be
written. -/
def Aborts (console : Console) (line : String) : Prop :=
  (Text.strip line).isEmpty = false ∧ isHelp (Text.strip line) = false ∧
    (console.machine.run (Text.strip line)).1 = .error .digitLimit

/-- The line is a statement that cannot be read, or not be evaluated. -/
def Fails (console : Console) (line : String) : Prop :=
  (Text.strip line).isEmpty = false ∧ isHelp (Text.strip line) = false ∧
    ∃ fault, (console.machine.run (Text.strip line)).1 = .error (.fault fault)

instance (outcome : Except Failure Result) : Decidable (outcome = .error .digitLimit) :=
  match outcome with
  | .error .digitLimit => isTrue rfl
  | .error (.fault _) => isFalse nofun
  | .ok _ => isFalse nofun

instance (outcome : Except Failure Result) : Decidable (∃ fault, outcome = .error (.fault fault)) :=
  match outcome with
  | .error (.fault fault) => isTrue ⟨fault, rfl⟩
  | .error .digitLimit => isFalse (by simp)
  | .ok _ => isFalse (by simp)

instance (console : Console) (line : String) : Decidable (console.Aborts line) :=
  inferInstanceAs (Decidable (_ ∧ _ ∧ _))

instance (console : Console) (line : String) : Decidable (console.Fails line) :=
  inferInstanceAs (Decidable (_ ∧ _ ∧ _))

def Attached (console : Console) : Prop := console.machine.clears.isSome = true

theorem history_run (console : Console) (text : String) :
    (console.run text).2.history =
      if (console.machine.run text).2.clears = console.machine.clears then console.history else [] := by
  simp only [Console.run, ne_eq, ite_not]

theorem history_run_of_attached (console : Console) (attached : console.Attached) (text : String) :
    (console.run text).2.history =
      if (console.machine.textCalls text).countP Call.isClear = 0 then console.history else [] := by
  have counted := console.machine.clears_run text
  obtain ⟨n, found⟩ := Option.isSome_iff_exists.mp attached
  have unchanged : (console.machine.run text).2.clears = console.machine.clears ↔
      (console.machine.textCalls text).countP Call.isClear = 0 := by
    rw [counted, found]
    simp
  simp only [history_run, unchanged]

theorem machine_record (console : Console) (style : Style) (text : String) :
    (console.record style text).machine = console.machine := rfl

theorem machine_run (console : Console) (text : String) :
    (console.run text).2.machine = (console.machine.run text).2 := by
  simp only [Console.run]

theorem outcome_run (console : Console) (text : String) :
    (console.run text).1 = (console.machine.run text).1 := by
  simp only [Console.run]

theorem machine_conclude (console concluded : Console) (outcome : Except Failure Result)
    (ended : console.conclude outcome = some concluded) : concluded.machine = console.machine := by
  rcases outcome with (fault | _) | (_ | v)
  · cases ended
    rfl
  · cases ended
  · cases ended
    rfl
  · cases ended
    rfl

theorem conclude_run (console : Console) (text : String) (plain : isHelp text = false)
    (ends : (console.machine.run text).1 ≠ .error .digitLimit) :
    (console.run text).2.conclude (console.run text).1 =
      some { (console.run text).2 with
        history := (console.run text).2.history ++ console.answer text } := by
  unfold answer
  rw [if_neg (by simp [plain]), outcome_run]
  generalize left : (console.run text).2 = after
  have moved : (console.machine.run text).2 = after.machine := by rw [← left, machine_run]
  rcases ran : console.machine.run text with ⟨(fault | _) | (_ | v), machine⟩
  · rfl
  · rw [ran] at ends
    exact absurd rfl ends
  · simp [conclude]
  · rw [ran] at moved
    cases moved
    rfl

section lines

variable (console : Console) (line : String)

theorem execute_blank (blank : (Text.strip line).isEmpty = true) :
    console.execute line = (some [], console) := by
  unfold Console.execute
  simp [blank]

theorem execute_help (visible : (Text.strip line).isEmpty = false)
    (help : isHelp (Text.strip line) = true) :
    console.execute line =
      (some [⟨.command, Text.strip line⟩, ⟨.info, helpText⟩],
        { console with history :=
            console.history ++ [⟨.command, Text.strip line⟩, ⟨.info, helpText⟩] }) := by
  unfold Console.execute
  simp [visible, help, record]

theorem execute_statement (visible : (Text.strip line).isEmpty = false)
    (plain : isHelp (Text.strip line) = false) :
    let ran := (console.record .command (Text.strip line)).run (Text.strip line)
    console.execute line =
      match ran.2.conclude ran.1 with
      | some concluded =>
        (some (concluded.history.drop console.history.length), concluded)
      | none => (none, ran.2) := by
  intro ran
  have shorter (concluded : Console) :
      concluded.history.drop (min console.history.length concluded.history.length) =
        concluded.history.drop console.history.length := by
    rw [List.drop_eq_drop_iff]
    omega
  unfold Console.execute
  simp only [visible, plain, Bool.false_eq_true, if_false, shorter]
  split
  · next concluded ended => rw [ended]
  · next unended => rw [unended]

/-- A statement that leaves the machine as it was is recorded together with its answer. -/
theorem execute_of_steady (visible : (Text.strip line).isEmpty = false)
    (plain : isHelp (Text.strip line) = false) (outcome : Except Failure Result)
    (ends : outcome ≠ .error .digitLimit)
    (ran : console.machine.run (Text.strip line) = (outcome, console.machine)) :
    let items := ⟨.command, Text.strip line⟩ :: console.answer (Text.strip line)
    console.execute line = (some items, { console with history := console.history ++ items }) := by
  intro items
  have same : (console.record .command (Text.strip line)).run (Text.strip line) =
      (outcome, console.record .command (Text.strip line)) := by
    simp only [Console.run, machine_record, ran, ne_eq, not_true_eq_false, if_false]
    rfl
  have answered : (console.record .command (Text.strip line)).answer (Text.strip line) =
      console.answer (Text.strip line) := by
    simp only [answer, machine_record]
  have ended := conclude_run (console.record .command (Text.strip line)) (Text.strip line) plain
    (by rwa [machine_record, ran])
  rw [same, answered] at ended
  rw [execute_statement console line visible plain, same]
  simp only [ended]
  simp [record, items]

theorem replay_events (history : List Item) (visible : (Text.strip line).isEmpty = false) :
    Event.replay history (console.events line) =
      (if console.clearings (Text.strip line) = 0 then history ++ [⟨.command, Text.strip line⟩]
        else []) ++ console.answer (Text.strip line) := by
  have first (events : List Event) : Event.replay history (.record ⟨.command, Text.strip line⟩ :: events) =
      Event.replay (history ++ [⟨.command, Text.strip line⟩]) events := rfl
  rw [events, if_neg (by simp [visible]), first, Event.replay_append, Event.replay_clear,
    Event.replay_record]

/-- Where a line does not abort, the transcript is what its events make of it, and it is given back
from its former end on. -/
theorem execute_of_ends (attached : console.Attached)
    (visible : (Text.strip line).isEmpty = false) (ends : ¬ console.Aborts line) :
    (console.execute line).2.history = Event.replay console.history (console.events line) ∧
    (console.execute line).1 =
      some ((Event.replay console.history (console.events line)).drop console.history.length) := by
  rw [replay_events console line console.history visible]
  cases plain : isHelp (Text.strip line) with
  | true =>
    rw [execute_help console line visible plain]
    simp [clearings, answer, plain]
  | false =>
    have onto := history_run_of_attached (console.record .command (Text.strip line)) attached
      (Text.strip line)
    have ended := conclude_run (console.record .command (Text.strip line)) (Text.strip line) plain
      fun limit => ends ⟨visible, plain, limit⟩
    have same : (console.record .command (Text.strip line)).answer (Text.strip line) =
        console.answer (Text.strip line) := by
      simp only [answer, machine_record]
    rw [same, onto, machine_record] at ended
    rw [execute_statement console line visible plain]
    simp only [ended, clearings, plain, Bool.false_eq_true, if_false]
    exact ⟨rfl, rfl⟩

theorem execute_of_aborts (aborts : console.Aborts line) : (console.execute line).1 = none := by
  obtain ⟨visible, plain, limit⟩ := aborts
  rw [execute_statement console line visible plain]
  simp only [outcome_run, machine_record, limit, conclude]

theorem clear_mem_events (visible : (Text.strip line).isEmpty = false) :
    Event.clear ∈ console.events line ↔ console.clearings (Text.strip line) ≠ 0 := by
  simp [events, visible, List.mem_replicate]

theorem length_answer_le (text : String) : (console.answer text).length ≤ 1 := by
  unfold answer
  split
  · simp
  · split <;> simp

/-- What the line itself recorded and did not clear again. -/
def remains : List Item := Event.replay [] (console.events line)

theorem remains_eq (visible : (Text.strip line).isEmpty = false) :
    console.remains line =
      (if .clear ∈ console.events line then [] else [⟨.command, Text.strip line⟩]) ++
        console.answer (Text.strip line) := by
  simp only [remains, replay_events console line [] visible, clear_mem_events console line visible,
    ite_not, List.nil_append]

theorem machine_execute :
    (console.execute line).2.machine =
      if (Text.strip line).isEmpty || isHelp (Text.strip line) then console.machine
      else (console.machine.run (Text.strip line)).2 := by
  cases visible : (Text.strip line).isEmpty with
  | true => simp [execute_blank console line visible]
  | false =>
    cases plain : isHelp (Text.strip line) with
    | true => simp [execute_help console line visible plain]
    | false =>
      have moved := machine_run (console.record .command (Text.strip line)) (Text.strip line)
      rw [machine_record] at moved
      rw [execute_statement console line visible plain]
      simp only [Bool.or_self, Bool.false_eq_true, if_false]
      split
      · next concluded ended =>
        rw [machine_conclude _ concluded _ ended, moved]
      · simp only [moved]

end lines

inductive Reachable : Console → Prop where
  | ofConfig (config : Config) : Reachable (.ofConfig config)
  | execute (console : Console) (line : String) (earlier : Reachable console) :
      Reachable (console.execute line).2
  | resetHistory (console : Console) (earlier : Reachable console) : Reachable console.resetHistory

theorem Attached.execute {console : Console} (attached : console.Attached) (line : String) :
    (console.execute line).2.Attached := by
  unfold Attached at attached ⊢
  rw [machine_execute]
  split
  · exact attached
  · rw [console.machine.clears_run, Option.isSome_map]
    exact attached

theorem Reachable.attached {console : Console} (reachable : console.Reachable) :
    console.Attached := by
  induction reachable with
  | ofConfig config => rfl
  | execute console line _ ih => exact ih.execute line
  | resetHistory console _ ih => exact ih

/-- The line clears a transcript that was not empty before it. -/
def Hides (console : Console) (line : String) : Prop :=
  Event.clear ∈ console.events line ∧ console.history ≠ []

instance (console : Console) (line : String) : Decidable (console.Hides line) :=
  inferInstanceAs (Decidable (_ ∧ _))

theorem drop_replay_events (console : Console) (line : String)
    (visible : (Text.strip line).isEmpty = false) :
    (Event.replay console.history (console.events line)).drop console.history.length =
      if console.Hides line then [] else console.remains line := by
  have left := remains_eq console line visible
  have short := console.length_answer_le (Text.strip line)
  rw [Event.replay_eq, ← remains]
  by_cases cleared : Event.clear ∈ console.events line
  · rw [if_pos cleared, List.nil_append] at left ⊢
    by_cases empty : console.history = []
    · simp [Hides, empty]
    · -- Only the answer is left, and it stands before the former end.
      have long := List.length_pos_iff.mpr empty
      rw [if_pos ⟨cleared, empty⟩, left]
      exact List.drop_eq_nil_of_le (by omega)
  · rw [if_neg cleared, List.drop_left, if_neg fun hides => cleared hides.1]

theorem error_mem_answer (console : Console) (line : String)
    (visible : (Text.strip line).isEmpty = false) :
    (∃ item ∈ console.answer (Text.strip line), item.style = .error) ↔ console.Fails line := by
  unfold answer Fails
  cases plain : isHelp (Text.strip line) with
  | true => simp
  | false =>
    rcases console.machine.run (Text.strip line) with ⟨(fault | _) | (_ | v), machine⟩ <;>
      simp [visible]

theorem error_mem_remains (console : Console) (line : String)
    (visible : (Text.strip line).isEmpty = false) :
    (∃ item ∈ console.remains line, item.style = .error) ↔ console.Fails line := by
  rw [← error_mem_answer console line visible, remains_eq console line visible]
  split <;> simp

theorem items_of_execute (console : Console) (attached : console.Attached) (line : String)
    (visible : (Text.strip line).isEmpty = false) (ends : ¬ console.Aborts line) :
    (console.execute line).1 = some (if console.Hides line then [] else console.remains line) := by
  rw [(execute_of_ends console line attached visible ends).2, drop_replay_events console line visible]

theorem error_mem_items (console : Console) (line : String)
    (visible : (Text.strip line).isEmpty = false) :
    (∃ item ∈ (if console.Hides line then [] else console.remains line), item.style = .error) ↔
      console.Fails line ∧ ¬ console.Hides line := by
  by_cases hides : console.Hides line
  · simp [hides]
  · rw [if_neg hides, error_mem_remains console line visible]
    simp [hides]

theorem fails_and_hides_of_cleared_operand :
    let console := Console.ofConfig ⟨4, 10⟩
    console.Fails "clear() + 1" ∧ console.Hides "clear() + 1" := by
  intro console
  -- The call clears and has no value to add to.
  have bare : Text.strip "clear() + 1" = "clear() + 1" := by decide +kernel
  have plain : isHelp "clear() + 1" = false := by decide +kernel
  have read : Grammar.parse "clear() + 1" =
      .ok (.operator .add (.call "clear" []) (.literal (.int 1))) := by cbv
  constructor
  · refine ⟨by decide +kernel, by rw [bare, plain], .voidOperand .left .add, ?_⟩
    rw [bare, console.machine.run_of_parse _ _ read]
    rfl
  · have cleared : Event.clear ∈ console.events "clear() + 1" := by
      rw [clear_mem_events _ _ (by decide +kernel), bare, clearings, if_neg (by simp [plain]),
        Machine.textCalls_of_parse _ _ _ read]
      decide +kernel
    exact ⟨cleared, List.cons_ne_nil _ _⟩

theorem Fails.ends {console : Console} {line : String} (fails : console.Fails line) :
    ¬ console.Aborts line := by
  obtain ⟨_, _, fault, failed⟩ := fails
  rintro ⟨_, _, aborted⟩
  rw [failed] at aborted
  cases aborted

/-- What a line gives back, and what it leaves in the transcript. The two agree unless the line
cleared a transcript that was not empty: then nothing is given back, not even a fault. -/
theorem execute_remains (console : Console) (reachable : console.Reachable) (line : String)
    (visible : (Text.strip line).isEmpty = false) (ends : ¬ console.Aborts line) :
    ∃ items, (console.execute line).1 = some items ∧
      (console.execute line).2.history =
        (if .clear ∈ console.events line then [] else console.history) ++ console.remains line ∧
      console.remains line =
        (if .clear ∈ console.events line then [] else [⟨.command, Text.strip line⟩]) ++
          console.answer (Text.strip line) ∧
      items = (if console.Hides line then [] else console.remains line) ∧
      ((∃ item ∈ items, item.style = .error) ↔ console.Fails line ∧ ¬ console.Hides line) := by
  have left := (execute_of_ends console line reachable.attached visible ends).1
  refine ⟨_, items_of_execute console reachable.attached line visible ends, ?_,
    remains_eq console line visible, rfl, error_mem_items console line visible⟩
  rw [left, Event.replay_eq]
  rfl

theorem execute_remains_of_cleared_operand :
    let console := Console.ofConfig ⟨4, 10⟩
    ¬ console.Aborts "clear() + 1" ∧ console.Fails "clear() + 1" ∧
      ∃ items, (console.execute "clear() + 1").1 = some items ∧
        ¬ ∃ item ∈ items, item.style = .error := by
  intro console
  obtain ⟨fails, hides⟩ := fails_and_hides_of_cleared_operand
  obtain ⟨items, given, _, _, _, noticed⟩ :=
    execute_remains console (.ofConfig _) "clear() + 1" fails.1 fails.ends
  exact ⟨fails.ends, fails, items, given, fun error => (noticed.mp error).2 hides⟩

/-- The fault of a line is recorded, but need not be given back. -/
theorem execute_forgets_cleared_fault :
    ¬ ∀ (console : Console) (line : String), console.Reachable →
      (Text.strip line).isEmpty = false → ¬ console.Aborts line →
        (console.execute line).1 = some (console.remains line) := by
  intro faithful
  obtain ⟨fails, hides⟩ := fails_and_hides_of_cleared_operand
  have given := faithful _ "clear() + 1" (.ofConfig ⟨4, 10⟩) fails.1 fails.ends
  rw [items_of_execute _ (Reachable.ofConfig ⟨4, 10⟩).attached _ fails.1 fails.ends,
    if_pos hides] at given
  obtain ⟨item, member, _⟩ := (error_mem_remains _ _ fails.1).mpr fails
  rw [← Option.some.inj given] at member
  cases member

end Console

end HeapConsole
