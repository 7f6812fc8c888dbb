import HeapConsole.Arithmetic

/-! What can go wrong with conversions and operators: types or kinds that do not go together, a
value that has no counterpart, and a division by zero. Their faults tell types and kinds and never
an integer of the program, and the checks on kinds and contents behind them cannot fire. -/
namespace HeapConsole

/-- The outcome is no other fault than an accepted one. -/
def Only {α : Type} (accepted : Fault → Prop) (outcome : Except Fault α) : Prop :=
  ∀ fault, outcome = .error fault → accepted fault

namespace Only

variable {α β : Type} {accepted : Fault → Prop}

theorem ok (a : α) : Only accepted (.ok a) := by
  intro fault failed
  cases failed

theorem error (fault : Fault) (among : accepted fault) :
    Only accepted (.error fault : Except Fault α) := by
  intro other failed
  cases failed
  exact among

theorem bind (first : Except Fault α) (next : α → Except Fault β) (head : Only accepted first)
    (tail : ∀ a, first = .ok a → Only accepted (next a)) : Only accepted (first >>= next) := by
  cases first with
  | error fault => exact error fault (head fault rfl)
  | ok a => exact tail a rfl

theorem map (f : α → β) (outcome : Except Fault α) (among : Only accepted outcome) :
    Only accepted (outcome.map f) := by
  cases outcome with
  | error fault => exact error fault (among fault rfl)
  | ok a => exact ok (f a)

theorem imp {wider : Fault → Prop} (outcome : Except Fault α)
    (wide : ∀ fault, accepted fault → wider fault) (among : Only accepted outcome) :
    Only wider outcome :=
  fun fault failed => wide fault (among fault failed)

end Only

/-- The faults of conversions. -/
inductive Fault.Unfit : Fault → Prop where
  | coercion (source target : DataType) (reason : CoercionReason) :
      Unfit (.coercion source target reason)

/-- The faults of conversions and operators. -/
inductive Fault.Computed : Fault → Prop where
  | coercion (source target : DataType) (reason : CoercionReason) :
      Computed (.coercion source target reason)
  | operandKinds (operator : Operator) (left right : Kind) :
      Computed (.operandKinds operator left right)
  | stringSubtraction : Computed .stringSubtraction
  | divisionByZero : Computed .divisionByZero

/-- A fault that a statement can be to blame for, and that tells no integer. -/
structure Fault.Plain (fault : Fault) : Prop where
  blamed : fault.errorClass = .typing ∨ fault.errorClass = .runtime
  short : fault.integers = []

theorem Fault.Computed.plain (fault : Fault) (computed : fault.Computed) : fault.Plain := by
  cases computed <;> exact ⟨.inr rfl, rfl⟩

theorem Fault.Unfit.computed (fault : Fault) (unfit : fault.Unfit) : fault.Computed := by
  cases unfit
  exact .coercion _ _ _

theorem Fault.Unfit.plain (fault : Fault) (unfit : fault.Unfit) : fault.Plain :=
  unfit.computed.plain

section conversions

theorem truncate_unfit (value : Double) (target : DataType) :
    Only Fault.Unfit (value.truncate target) := by
  unfold Double.truncate
  split
  · exact .ok _
  · exact .error _ (.coercion _ _ _)

theorem toInt_unfit (literal : Literal) : Only Fault.Unfit literal.toInt := by
  cases literal with
  | double value => exact truncate_unfit value .int
  | string value => exact .error _ (.coercion _ _ _)
  | _ => exact .ok _

theorem ofInt_unfit (n : Int) (source : DataType) :
    Only Fault.Unfit (Double.ofInt n source) := by
  unfold Double.ofInt
  split
  · exact .ok _
  · exact .error _ (.coercion _ _ _)

theorem toDouble_unfit (literal : Literal) : Only Fault.Unfit literal.toDouble := by
  cases literal with
  | int value => exact ofInt_unfit value .int
  | char value => exact ofInt_unfit value.toNat .char
  | double value => exact .ok _
  | string value => exact .error _ (.coercion _ _ _)

theorem toChar_unfit (literal : Literal) : Only Fault.Unfit literal.toChar := by
  cases literal with
  | double value => exact .map _ _ (truncate_unfit value .char)
  | string value =>
    unfold Literal.toChar
    dsimp only
    split
    · split
      · exact .ok _
      · exact .error _ (.coercion _ _ _)
    · exact .error _ (.coercion _ _ _)
  | _ => exact .ok _

theorem toText_unfit (literal : Literal) : Only Fault.Unfit literal.toText := by
  cases literal with
  | int value => exact .error _ (.coercion _ _ _)
  | double value => exact .error _ (.coercion _ _ _)
  | _ => exact .ok _

theorem convert_unfit (literal : Literal) (kind : Kind) :
    Only Fault.Unfit (literal.convert kind) := by
  cases kind with
  | int => exact .map _ _ (toInt_unfit literal)
  | double => exact .map _ _ (toDouble_unfit literal)
  | char => exact .map _ _ (toChar_unfit literal)
  | string => exact .map _ _ (toText_unfit literal)

theorem convert_kind (literal converted : Literal) (kind : Kind)
    (ok : literal.convert kind = .ok converted) : converted.kind = kind := by
  have mapped {α : Type} (outcome : Except Fault α) (make : α → Literal)
      (made : outcome.map make = .ok converted) : ∃ a, converted = make a := by
    cases outcome with
    | error fault => cases made
    | ok a => exact ⟨a, (Except.ok.inj made).symm⟩
  cases kind <;> obtain ⟨a, rfl⟩ := mapped _ _ ok <;> rfl

/-- A type holds every literal of its kind. -/
theorem ofContent_of_kind (type : DataType) (literal : Literal)
    (holds : type.kind? = some literal.kind) :
    ∃ value, Value.ofContent type (.literal literal) = .ok value := by
  cases type <;> cases literal <;> first | exact ⟨_, rfl⟩ | cases holds

theorem literal_coerce_unfit (literal : Literal) (target : DataType) :
    Only Fault.Unfit (literal.coerce target) := by
  unfold Literal.coerce
  split
  · rename_i kind holds
    refine .bind _ _ (convert_unfit literal kind) fun converted ok => ?_
    have same := convert_kind literal converted kind ok
    obtain ⟨value, made⟩ := ofContent_of_kind target converted (by rw [same]; exact holds)
    rw [made]
    exact .ok value
  · exact .error _ (.coercion _ _ _)

theorem coerce_unfit (value : Value) (target : DataType) :
    Only Fault.Unfit (value.coerce target) := by
  unfold Value.coerce
  split
  · split
    · exact .ok _
    · exact literal_coerce_unfit _ target
  · exact .error _ (.coercion _ _ _)

theorem valueToInt_unfit (value : Value) : Only Fault.Unfit value.toInt := by
  unfold Value.toInt
  split
  · exact toInt_unfit _
  · exact .error _ (.coercion _ _ _)

end conversions

section operators

theorem onInts_computed (operator : Operator) (left right : Int) :
    Only Fault.Computed (operator.onInts left right) := by
  cases operator with
  | div =>
    unfold Operator.onInts
    dsimp only
    split
    · exact .error _ .divisionByZero
    · exact .ok _
  | _ => exact .ok _

theorem onDoubles_computed (operator : Operator) (left right : Double) :
    Only Fault.Computed (operator.onDoubles left right) := by
  cases operator with
  | div =>
    unfold Operator.onDoubles
    dsimp only
    split
    · exact .error _ .divisionByZero
    · exact .ok _
  | _ => exact .ok _

theorem onChars_computed (operator : Operator) (left right : UInt8) :
    Only Fault.Computed (operator.onChars left right) := by
  cases operator with
  | div =>
    unfold Operator.onChars
    dsimp only
    split
    · exact .error _ .divisionByZero
    · exact .ok _
  | _ => exact .ok _

/-- Within a domain only the division by zero can go wrong, as long as both literals belong to
it. -/
theorem within_computed (operator : Operator) (domain : Kind) (left right : Literal)
    (leftKind : left.kind = domain) (rightKind : right.kind = domain) :
    Only Fault.Computed (operator.within domain left right) := by
  subst leftKind
  cases left with
  | int a => cases right <;> first | exact .map _ _ (onInts_computed _ _ _) | cases rightKind
  | double a => cases right <;> first | exact .map _ _ (onDoubles_computed _ _ _) | cases rightKind
  | char a => cases right <;> first | exact .map _ _ (onChars_computed _ _ _) | cases rightKind
  | string a => cases right <;> first | exact .ok _ | cases rightKind

theorem apply_computed (operator : Operator) (left right : Literal) :
    Only Fault.Computed (operator.apply left right) := by
  unfold Operator.apply
  split
  · rename_i domain meet
    refine .bind _ _ (.imp _ Fault.Unfit.computed (convert_unfit left domain)) fun a leftOk => ?_
    refine .bind _ _ (.imp _ Fault.Unfit.computed (convert_unfit right domain)) fun b rightOk => ?_
    exact within_computed operator domain a b (convert_kind _ _ _ leftOk) (convert_kind _ _ _ rightOk)
  · split
    · exact .error _ .stringSubtraction
    · exact .error _ (.operandKinds _ _ _)

theorem applySymbol_symbol (operator : Operator) (left right : Literal) :
    Operator.applySymbol operator.symbol left right = operator.apply left right := by
  cases operator <;> rfl

end operators

end HeapConsole
