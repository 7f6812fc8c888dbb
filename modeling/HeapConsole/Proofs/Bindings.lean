import HeapConsole.Proofs.Coercion
import HeapConsole.Proofs.Footprint
import HeapConsole.Proofs.Steps

/-! What can become of the names in a scope. A name that is bound stays bound and keeps its type
unless it is declared again, and no step binds a native function, so these stand only where they
stood on the new machine, each under its own name. -/
namespace HeapConsole

theorem Evaluation.blank_type (type : DataType) (value : Value) (initial : blank type = .ok value) :
    value.type = type ∧ value.type ≠ .nativeFunction := by
  unfold blank at initial
  split at initial
  · cases initial
  · cases initial
    exact ⟨rfl, nofun⟩
  · exact ⟨Value.coerce_type _ value type initial, Value.coerce_not_native _ value type initial⟩

namespace Scope

theorem find?_builtins (builtin : Builtin) :
    builtins.find? builtin.name = some (.native builtin) := by
  cases builtin <;> decide

theorem name_of_find?_builtins (name : String) (builtin : Builtin)
    (found : builtins.find? name = some (.native builtin)) : name = builtin.name := by
  unfold builtins find? at found
  generalize Builtin.all = listed at found
  induction listed with
  | nil => cases found
  | cons head rest ih =>
    rw [List.map_cons, lookup_entry] at found
    split at found
    · next same =>
      cases found
      exact same
    · exact ih found

/-- The changes of a scope in which only the listed names may have been declared. -/
structure Kept (declared : List String) (before after : Scope) : Prop where
  bound : ∀ name, (before.find? name).isSome = true → (after.find? name).isSome = true
  native : ∀ name builtin, after.find? name = some (.native builtin) →
    before.find? name = some (.native builtin)
  typed : ∀ name old, name ∉ declared → before.find? name = some old →
    ∃ new, after.find? name = some new ∧ new.type = old.type

theorem Kept.refl (declared : List String) (scope : Scope) : Kept declared scope scope :=
  ⟨fun _ => id, fun _ _ => id, fun _ old _ found => ⟨old, found, rfl⟩⟩

theorem Kept.trans (declared : List String) (first second third : Scope)
    (earlier : Kept declared first second) (later : Kept declared second third) :
    Kept declared first third := by
  constructor
  · intro name found
    exact later.bound name (earlier.bound name found)
  · intro name builtin found
    exact earlier.native name builtin (later.native name builtin found)
  · intro name old undeclared found
    obtain ⟨middle, foundMiddle, sameMiddle⟩ := earlier.typed name old undeclared found
    obtain ⟨new, foundNew, sameNew⟩ := later.typed name middle undeclared foundMiddle
    exact ⟨new, foundNew, sameNew.trans sameMiddle⟩

theorem kept_insert (declared : List String) (scope : Scope) (name : String) (value : Value)
    (solid : value.type ≠ .nativeFunction)
    (fits : name ∈ declared ∨ ∃ old, scope.find? name = some old ∧ value.type = old.type) :
    Kept declared scope (scope.insert name value) := by
  constructor
  · intro other found
    rw [find?_insert]
    split
    · rfl
    · exact found
  · intro other builtin found
    rw [find?_insert] at found
    split at found
    · cases found
      exact absurd rfl solid
    · exact found
  · intro other old undeclared found
    rw [find?_insert]
    by_cases same : other = name
    · subst same
      obtain ⟨current, foundCurrent, typed⟩ := fits.resolve_left undeclared
      rw [found] at foundCurrent
      cases foundCurrent
      exact ⟨value, if_pos rfl, typed⟩
    · exact ⟨old, by rw [if_neg same, found], rfl⟩

theorem kept_of_step (declared : List String) (before after : Machine)
    (step : before.Step declared after) : Kept declared before.scope after.scope := by
  cases step with
  | declare _ name type value listed initial =>
    have solid := (Evaluation.blank_type type value initial).2
    exact kept_insert declared before.scope name value solid (.inl listed)
  | assign _ name old value stored found coerced =>
    have typed := Value.coerce_type value stored old.type coerced
    have solid := Value.coerce_not_native value stored old.type coerced
    exact kept_insert declared before.scope name stored solid (.inr ⟨old, found, typed⟩)
  | store _ memory address n value stored => exact .refl declared before.scope
  | run call =>
    rw [call.scope_after]
    exact .refl declared call.before.scope

theorem kept_of_steps (declared : List String) (before after : Machine)
    (steps : before.Steps declared after) : Kept declared before.scope after.scope := by
  induction steps with
  | refl => exact .refl declared before.scope
  | tail _ step ih => exact .trans declared _ _ _ ih (kept_of_step declared _ _ step)

def OwnNames (scope : Scope) : Prop :=
  ∀ name builtin, scope.find? name = some (.native builtin) → name = builtin.name

theorem ownNames_of_kept (declared : List String) (scope : Scope)
    (origin : Kept declared .builtins scope) : scope.OwnNames := by
  intro name builtin found
  exact name_of_find?_builtins name builtin (origin.native name builtin found)

/-- What the nodes of a session with the listed declarations can do to a scope, and what is true of
every scope that it leaves. -/
structure Disciplined (declared : List String) (before after : Scope) : Prop where
  bound : ∀ name, (before.find? name).isSome = true → (after.find? name).isSome = true
  builtins : ∀ builtin : Builtin, (after.find? builtin.name).isSome = true
  -- No name but its own ever stands for a native function.
  native : ∀ name value, after.find? name = some value → value.type = .nativeFunction →
    ∃ builtin : Builtin, name = builtin.name ∧ value = .native builtin
  typed : ∀ name old, name ∉ declared → before.find? name = some old →
    ∃ new, after.find? name = some new ∧ new.type = old.type ∧ (old.isNative = true → new = old)
  -- A name that no longer stands for a native function never does again.
  shadowed : ∀ name, (∀ builtin, before.find? name ≠ some (.native builtin)) →
    ∀ builtin, after.find? name ≠ some (.native builtin)

theorem disciplined_of_kept (declared earlier : List String) (before after : Scope)
    (origin : Kept earlier .builtins before) (kept : Kept declared before after) :
    Disciplined declared before after := by
  constructor
  · exact kept.bound
  · intro builtin
    refine kept.bound _ (origin.bound _ ?_)
    rw [find?_builtins]
    rfl
  · intro name value found native
    cases value with
    | native builtin =>
      have own := ownNames_of_kept earlier before origin
      exact ⟨builtin, own name builtin (kept.native name builtin found), rfl⟩
    | _ => cases native
  · intro name old undeclared found
    obtain ⟨new, foundNew, same⟩ := kept.typed name old undeclared found
    refine ⟨new, foundNew, same, fun native => ?_⟩
    -- Of the same type it is native too, and then it was bound to this name before.
    cases old with
    | native builtin =>
      cases new with
      | native other =>
        have former := kept.native name other foundNew
        exact Option.some.inj (former.symm.trans found)
      | _ => cases same
    | _ => cases native
  · intro name shadowed builtin found
    exact shadowed builtin (kept.native name builtin found)

end Scope

theorem Machine.kept_session (nodes : List Node) (machine : Machine) :
    Scope.Kept (nodes.flatMap Statement.declarations) machine.scope (machine.session nodes).scope := by
  refine Scope.kept_of_steps _ machine _ (steps_session _ nodes ?_ machine)
  intro node member name inside
  exact List.mem_flatMap.mpr ⟨node, member, inside⟩

/-- After any session, the nodes of a further one change the scope only by the rules, whatever they
are and however they end. -/
theorem Machine.session_disciplined (config : Config) (attached : Bool)
    (earlier later : List Node) :
    let before := (Machine.ofConfig config attached).session earlier
    Scope.Disciplined (later.flatMap Statement.declarations) before.scope
      (before.session later).scope := by
  intro before
  have origin := kept_session earlier (Machine.ofConfig config attached)
  exact Scope.disciplined_of_kept _ _ _ _ origin (kept_session later before)

end HeapConsole
