import HeapConsole.Display
import HeapConsole.Memory

/-! The state that statements work on: named values, memory, the display base, and how often the
history was asked to be cleared. -/
namespace HeapConsole

structure Config where
  memorySize : Int
  displayBase : Int
deriving DecidableEq, Repr

namespace Config

def standard : Config := ⟨256, 16⟩

def warnings (config : Config) : List String :=
  (if config.memorySize ≤ 0 then ["memory_size must be positive"] else []) ++
    if (Base.ofNumber? config.displayBase).isNone then ["display_base must be 10 or 16"] else []

/-- Settings that cannot be used are replaced by the standard ones. -/
def settled (config : Config) : Config where
  memorySize := if config.memorySize ≤ 0 then standard.memorySize else config.memorySize
  displayBase :=
    if (Base.ofNumber? config.displayBase).isNone then standard.displayBase else config.displayBase

end Config

/-- Named values in the order in which the names were first bound. -/
structure Scope where
  entries : List (String × Value)
deriving DecidableEq, Repr

namespace Scope

def find? (scope : Scope) (name : String) : Option Value := scope.entries.lookup name

def insertEntry (name : String) (value : Value) : List (String × Value) → List (String × Value)
  | [] => [(name, value)]
  | (bound, old) :: rest =>
    if name = bound then (bound, value) :: rest else (bound, old) :: insertEntry name value rest

def insert (scope : Scope) (name : String) (value : Value) : Scope :=
  ⟨insertEntry name value scope.entries⟩

def builtins : Scope := ⟨Builtin.all.map fun builtin => (builtin.name, .native builtin)⟩

end Scope

structure Machine where
  memory : Memory
  /-- The number that was set as the display base. -/
  displayBase : Int
  scope : Scope
  /-- How often the attached history was asked to be cleared, if there is one. -/
  clears : Option Nat
deriving DecidableEq, Repr

namespace Machine

/-- A machine on which nothing has run yet, with or without a history to clear. -/
def fresh (memory : Memory) (displayBase : Int) (attached : Bool) : Machine where
  memory := memory
  displayBase := displayBase
  scope := .builtins
  clears := if attached then some 0 else none

def ofConfig (config : Config) (attached : Bool) : Machine :=
  fresh (.ofSize config.settled.memorySize.toNat) config.settled.displayBase attached

/-- A new machine of exactly the given settings, if there can be a memory of the size. -/
def ofExactly? (config : Config) (attached : Bool) : Option Machine :=
  (Memory.ofSize? config.memorySize).map fun memory => fresh memory config.displayBase attached

def base (machine : Machine) : Base := .ofNumber machine.displayBase

def bind (machine : Machine) (name : String) (value : Value) : Machine :=
  { machine with scope := machine.scope.insert name value }

def clearHistory (machine : Machine) : Machine :=
  { machine with clears := machine.clears.map (· + 1) }

end Machine

/-- A computation on a machine; what it did before it failed remains done. -/
abbrev Evaluation (α : Type) := ExceptT Failure (StateM Machine) α

namespace Evaluation

def fail {α : Type} (fault : Fault) : Evaluation α := throw (Failure.of fault)

def lift {α : Type} : Except Fault α → Evaluation α
  | .ok a => pure a
  | .error fault => fail fault

def runOn {α : Type} (evaluation : Evaluation α) (machine : Machine) :
    Except Failure α × Machine :=
  StateT.run (ExceptT.run evaluation) machine

section runs

variable {α β : Type}

@[simp] theorem runOn_pure (a : α) (machine : Machine) :
    runOn (pure a) machine = (.ok a, machine) := rfl

@[simp] theorem runOn_throw (failure : Failure) (machine : Machine) :
    runOn (throw failure : Evaluation α) machine = (.error failure, machine) := rfl

@[simp] theorem runOn_fail (fault : Fault) (machine : Machine) :
    runOn (fail fault : Evaluation α) machine = (.error (.of fault), machine) := rfl

@[simp] theorem runOn_lift (outcome : Except Fault α) (machine : Machine) :
    runOn (lift outcome) machine = (outcome.mapError Failure.of, machine) := by
  cases outcome <;> rfl

@[simp] theorem runOn_lift_ok (a : α) (machine : Machine) :
    runOn (lift (.ok a)) machine = (.ok a, machine) := rfl

@[simp] theorem runOn_get (machine : Machine) :
    runOn (get : Evaluation Machine) machine = (.ok machine, machine) := rfl

@[simp] theorem runOn_set (after machine : Machine) :
    runOn (set after : Evaluation PUnit) machine = (.ok ⟨⟩, after) := rfl

@[simp] theorem runOn_modify (change : Machine → Machine) (machine : Machine) :
    runOn (modify change : Evaluation PUnit) machine = (.ok ⟨⟩, change machine) := rfl

theorem runOn_bind (first : Evaluation α) (next : α → Evaluation β) (machine : Machine) :
    runOn (first >>= next) machine =
      match runOn first machine with
      | (.ok a, after) => runOn (next a) after
      | (.error failure, after) => (.error failure, after) := by
  show (ExceptT.bindCont next (runOn first machine).1) (runOn first machine).2 = _
  rcases runOn first machine with ⟨_ | _, _⟩ <;> rfl

end runs

end Evaluation

end HeapConsole
