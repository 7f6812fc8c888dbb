import HeapConsole.Proofs.InternalFaults

/-! What a coercion gives: a value of exactly the type that was asked for, and never a native
function. Coercing twice to one type is coercing once, ints and pointers lie on the way between any
two types of integers, and chars and texts of one character stand for each other. -/
namespace HeapConsole

theorem exists_of_bind_ok {ε α β : Type} (first : Except ε α) (next : α → Except ε β) (b : β)
    (ok : first >>= next = .ok b) : ∃ a, first = .ok a ∧ next a = .ok b := by
  cases first with
  | error cause => cases ok
  | ok a => exact ⟨a, rfl, ok⟩

theorem map_ok_iff {ε α β : Type} (outcome : Except ε α) (f : α → β) (b : β) :
    outcome.map f = .ok b ↔ ∃ a, outcome = .ok a ∧ f a = b := by
  cases outcome <;> simp [Except.map]

theorem exists_of_map_ok {ε α β : Type} (outcome : Except ε α) (f : α → β) (b : β)
    (ok : outcome.map f = .ok b) : ∃ a, outcome = .ok a ∧ f a = b :=
  (map_ok_iff outcome f b).mp ok

namespace Value

theorem ofContent_type (type : DataType) (content : Content) (value : Value)
    (made : ofContent type content = .ok value) : value.type = type := by
  unfold ofContent at made
  split at made <;> cases made <;> rfl

/-- The kinds of a value's type and of the literal that it carries agree. -/
theorem kind?_of_literal (value : Value) (literal : Literal)
    (carried : value.literal? = some literal) : value.type.kind? = some literal.kind := by
  cases value with
  | native builtin => cases carried
  | _ =>
    cases carried
    rfl

theorem coerce_type (value stored : Value) (target : DataType)
    (ok : value.coerce target = .ok stored) : stored.type = target := by
  unfold coerce at ok
  split at ok
  · split at ok
    · next same =>
      cases ok
      exact same
    · unfold Literal.coerce at ok
      split at ok
      · obtain ⟨converted, _, made⟩ := exists_of_bind_ok _ _ _ ok
        exact ofContent_type target _ stored made
      · cases ok
  · cases ok

/-- Nothing is coerced to a type without literals, so no coercion gives a native function. -/
theorem coerce_not_native (value stored : Value) (target : DataType)
    (ok : value.coerce target = .ok stored) : stored.type ≠ .nativeFunction := by
  intro native
  have typed := coerce_type value stored target ok
  rw [native] at typed
  subst typed
  unfold coerce at ok
  split at ok
  · next kind => cases kind
  · cases ok

end Value

theorem Literal.coerce_int (literal : Literal) : literal.coerce .int = literal.toInt.map .int := by
  show (literal.toInt.map .int >>= fun converted => Value.ofContent .int (.literal converted)) = _
  cases literal.toInt <;> rfl

theorem Result.coerce_int (result : Result) : result.coerce .int = result.toInt.map .int := by
  cases result with
  | void => rfl
  | value v =>
    cases v with
    | int n => rfl
    | native builtin => rfl
    | char byte => exact (Literal.char byte).coerce_int
    | double d => exact (Literal.double d).coerce_int
    | string s => exact (Literal.string s).coerce_int
    | pointer pointee address => exact (Literal.int address).coerce_int

section bytes

theorem toNat_lowByte (n : Int) : ((lowByte n).toNat : Int) = n % 256 := by
  have bound : (n % 256).toNat < 256 := by omega
  rw [lowByte, UInt8.toNat_ofNat', Nat.mod_eq_of_lt bound]
  omega

theorem lowByte_of_range (n : Int) (low : 0 ≤ n) (high : n ≤ 255) :
    lowByte n = UInt8.ofNat n.toNat := by
  rw [lowByte, Int.emod_eq_of_lt low (by omega)]

theorem lowByte_toNat (byte : UInt8) : lowByte byte.toNat = byte := by
  have bound := byte.toNat_lt
  rw [lowByte_of_range _ (by omega) (by omega), Int.toNat_natCast, UInt8.ofNat_toNat]

theorem toNat_byteChar (byte : UInt8) : (byteChar byte).toNat = byte.toNat := by
  have bound := byte.toNat_lt
  have valid : byte.toNat.isValidChar := .inl (by omega)
  rw [byteChar, Char.ofNat, dif_pos valid]
  rfl

theorem byteChar_ofNat (c : Char) (narrow : c.toNat ≤ 255) :
    byteChar (UInt8.ofNat c.toNat) = c := by
  rw [byteChar, UInt8.toNat_ofNat', Nat.mod_eq_of_lt (by omega), Char.ofNat_toNat]

end bytes

theorem Double.truncate_iff (d : Double) (target : DataType) (n : Int) :
    d.truncate target = .ok n ↔ d.truncate? = some n := by
  unfold Double.truncate
  split <;> simp_all

namespace Literal

theorem convert_self (literal : Literal) : literal.convert literal.kind = .ok literal := by
  cases literal <;> rfl

/-- Whatever is no text becomes a char by way of its integer. -/
theorem toChar_iff (literal : Literal) (byte : UInt8) (number : literal.kind ≠ .string) :
    literal.toChar = .ok byte ↔ ∃ n, literal.toInt = .ok n ∧ lowByte n = byte := by
  cases literal with
  | int n => simp [toChar, toInt]
  | char own => simp [toChar, toInt, lowByte_toNat]
  | string text => exact absurd rfl number
  | double d => simp only [toChar, toInt, map_ok_iff, Double.truncate_iff]

theorem toChar_string_iff (text : String) (byte : UInt8) :
    (Literal.string text).toChar = .ok byte ↔ text = String.singleton (byteChar byte) := by
  constructor
  · intro ok
    simp only [toChar] at ok
    split at ok
    · next c single =>
      split at ok
      · next narrow =>
        have same : text = String.singleton c := by
          rw [← String.toList_inj, single, String.toList_singleton]
        rw [same, ← Except.ok.inj ok, byteChar_ofNat c narrow]
      · cases ok
    · cases ok
  · intro same
    have bound := byte.toNat_lt
    simp only [same, toChar, String.toList_singleton, toNat_byteChar]
    rw [if_pos (by omega), UInt8.ofNat_toNat]

end Literal

namespace Value

theorem ofContent_iff (type : DataType) (literal : Literal) (value : Value) :
    ofContent type (.literal literal) = .ok value ↔
      value.type = type ∧ value.literal? = some literal := by
  constructor
  · intro made
    refine ⟨ofContent_type type _ value made, ?_⟩
    cases literal <;> cases type <;> cases made <;> rfl
  · rintro ⟨rfl, carried⟩
    cases value <;> cases carried <;> rfl

/-- Keeping a value of the target type is converting it, too. -/
theorem coerce_of_literal (value : Value) (literal : Literal) (target : DataType) (kind : Kind)
    (carried : value.literal? = some literal) (holds : target.kind? = some kind) :
    value.coerce target = (do
      let converted ← literal.convert kind
      ofContent target (.literal converted)) := by
  simp only [coerce, carried, holds]
  split
  · next same =>
    subst same
    have kinds := value.kind?_of_literal literal carried
    rw [holds, Option.some.injEq] at kinds
    have made := (ofContent_iff value.type literal value).mpr ⟨rfl, carried⟩
    rw [kinds, literal.convert_self]
    exact made.symm
  · simp only [Literal.coerce, holds]

theorem coerce_iff (value stored : Value) (target : DataType) :
    value.coerce target = .ok stored ↔
      stored.type = target ∧ ∃ literal kind converted, value.literal? = some literal ∧
        target.kind? = some kind ∧ literal.convert kind = .ok converted ∧
        stored.literal? = some converted := by
  constructor
  · intro ok
    have typed := value.coerce_type stored target ok
    cases carried : value.literal? with
    | none => simp [coerce, carried] at ok
    | some literal =>
      cases holds : target.kind? with
      | none => simp [coerce, carried, holds] at ok
      | some kind =>
        rw [value.coerce_of_literal literal target kind carried holds] at ok
        obtain ⟨converted, done, made⟩ := exists_of_bind_ok _ _ _ ok
        have holding := ((ofContent_iff target converted stored).mp made).2
        exact ⟨typed, literal, kind, converted, rfl, rfl, done, holding⟩
  · rintro ⟨typed, literal, kind, converted, carried, holds, done, holding⟩
    rw [value.coerce_of_literal literal target kind carried holds, done]
    exact (ofContent_iff target converted stored).mpr ⟨typed, holding⟩

theorem coerce_again (value stored : Value) (target : DataType)
    (ok : value.coerce target = .ok stored) : stored.coerce target = .ok stored := by
  obtain ⟨typed, literal, kind, converted, _, holds, done, holding⟩ :=
    (coerce_iff value stored target).mp ok
  have same := convert_kind literal converted kind done
  apply (coerce_iff stored stored target).mpr
  refine ⟨typed, converted, kind, converted, holding, holds, ?_, holding⟩
  rw [← same, converted.convert_self]

end Value

section integers

def DataType.isIntegral (type : DataType) : Bool := type.kind?.any Kind.isIntegral

/-- What an integer becomes in a type of integers: a char keeps its low byte. -/
def DataType.hold? (type : DataType) (n : Int) : Option Value :=
  match type with
  | .int => some (.int n)
  | .char => some (.char (lowByte n))
  | .pointer pointee => some (.pointer pointee n)
  | .void | .double | .string | .nativeFunction => none

theorem DataType.ne_string_of_integral (type : DataType) (integral : type.isIntegral = true) :
    type ≠ .string := by
  rintro rfl
  cases integral

theorem DataType.exists_hold (type : DataType) (integral : type.isIntegral = true) (n : Int) :
    ∃ held, type.hold? n = some held := by
  cases type with
  | int | char | pointer _ => exact ⟨_, rfl⟩
  | _ => cases integral

namespace Value

theorem kind_of_number (value : Value) (literal : Literal) (number : value.type ≠ .string)
    (carried : value.literal? = some literal) : literal.kind ≠ .string := by
  intro texts
  cases value with
  | string text => exact number rfl
  | native builtin => cases carried
  | _ =>
    cases carried
    cases texts

/-- Whatever is no text is coerced to a type of integers by way of its integer. -/
theorem coerce_integral_iff (value stored : Value) (target : DataType)
    (number : value.type ≠ .string) (integral : target.isIntegral = true) :
    value.coerce target = .ok stored ↔ ∃ n, value.toInt = .ok n ∧ target.hold? n = some stored := by
  cases carried : value.literal? with
  | none => simp [coerce, toInt, carried]
  | some literal =>
    have whole : value.toInt = literal.toInt := by simp only [toInt, carried]
    have kinds := value.kind_of_number literal number carried
    rw [whole]
    cases target with
    | int =>
      have through : value.coerce .int = literal.toInt.map .int := by
        rw [value.coerce_of_literal literal .int .int carried rfl, Literal.convert]
        cases literal.toInt <;> rfl
      simp [through, map_ok_iff, DataType.hold?]
    | pointer pointee =>
      have through : value.coerce (.pointer pointee) = literal.toInt.map (.pointer pointee) := by
        rw [value.coerce_of_literal literal (.pointer pointee) .int carried rfl, Literal.convert]
        cases literal.toInt <;> rfl
      simp [through, map_ok_iff, DataType.hold?]
    | char =>
      have through : value.coerce .char = literal.toChar.map .char := by
        rw [value.coerce_of_literal literal .char .char carried rfl, Literal.convert]
        cases literal.toChar <;> rfl
      simp [through, map_ok_iff, literal.toChar_iff _ kinds, DataType.hold?]
    | _ => cases integral

theorem coerce_integral_ok (value : Value) (target : DataType) (number : value.type ≠ .string)
    (integral : target.isIntegral = true) :
    (∃ stored, value.coerce target = .ok stored) ↔ ∃ n, value.toInt = .ok n := by
  simp only [value.coerce_integral_iff _ target number integral]
  constructor
  · rintro ⟨stored, n, whole, _⟩
    exact ⟨n, whole⟩
  · rintro ⟨n, whole⟩
    obtain ⟨held, holds⟩ := target.exists_hold integral n
    exact ⟨held, n, whole, holds⟩

/-- An int or a pointer keeps the whole integer. -/
theorem toInt_of_hold (hub : DataType) (n : Int) (between : Value) (keeps : hub.kind? = some .int)
    (holds : hub.hold? n = some between) : between.type ≠ .string ∧ between.toInt = .ok n := by
  cases hub with
  | int | pointer _ =>
    cases holds
    exact ⟨nofun, rfl⟩
  | _ => cases keeps

theorem coerce_through (value between : Value) (hub target : DataType)
    (number : value.type ≠ .string) (keeps : hub.kind? = some .int)
    (integral : target.isIntegral = true) (ok : value.coerce hub = .ok between) :
    between.coerce target = value.coerce target := by
  have whole : hub.isIntegral = true := by simp [DataType.isIntegral, keeps, Kind.isIntegral]
  obtain ⟨n, isInt, holds⟩ := (value.coerce_integral_iff between hub number whole).mp ok
  obtain ⟨numeric, same⟩ := toInt_of_hold hub n between keeps holds
  obtain ⟨held, holds⟩ := target.exists_hold integral n
  have direct := (value.coerce_integral_iff held target number integral).mpr ⟨n, isInt, holds⟩
  have onward := (between.coerce_integral_iff held target numeric integral).mpr ⟨n, same, holds⟩
  rw [onward, direct]

end Value

end integers

section texts

namespace Value

theorem coerce_char_to_string (byte : UInt8) :
    (Value.char byte).coerce .string = .ok (.string (String.singleton (byteChar byte))) := rfl

theorem coerce_string_to_char_iff (text : String) (stored : Value) :
    (Value.string text).coerce .char = .ok stored ↔
      ∃ byte, text = String.singleton (byteChar byte) ∧ .char byte = stored := by
  have through : (Value.string text).coerce .char = (Literal.string text).toChar.map .char := by
    rw [coerce_of_literal _ (.string text) .char .char rfl rfl, Literal.convert]
    cases (Literal.string text).toChar <;> rfl
  simp only [through, map_ok_iff, Literal.toChar_string_iff]

end Value

end texts

namespace Value

/-- What is true of a coercion whatever the value and the type. -/
structure Coercible (value : Value) (target : DataType) : Prop where
  refused : ∀ fault, value.coerce target = .error fault →
    fault.errorClass = .runtime ∧ fault.code = .invalidCoercion
  -- It gives the literal that the conversion to the kind of the target gives, where it gives one.
  converted : ∀ stored, value.coerce target = .ok stored ↔
    stored.type = target ∧ ∃ literal kind converted, value.literal? = some literal ∧
      target.kind? = some kind ∧ literal.convert kind = .ok converted ∧
      stored.literal? = some converted
  settled : ∀ stored, value.coerce target = .ok stored → stored.coerce target = .ok stored

/-- Ints and pointers are the types whose kind is int; coercing to one of them first makes no
difference on the way from anything but a text to an int, a char or a pointer. -/
theorem coercion_laws :
    (∀ (value : Value) (target : DataType), value.Coercible target) ∧
    (∀ (value : Value) (hub target : DataType), value.type ≠ .string → hub.kind? = some .int →
      target.isIntegral = true →
      ((∃ between, value.coerce hub = .ok between) ↔ ∃ stored, value.coerce target = .ok stored) ∧
      ∀ between, value.coerce hub = .ok between → between.coerce target = value.coerce target) ∧
    (∀ text stored, (Value.string text).coerce .char = .ok stored →
      stored.coerce .string = .ok (.string text)) ∧
    ∀ byte, ∃ text, (Value.char byte).coerce .string = .ok text ∧
      text.coerce .char = .ok (.char byte) := by
  refine ⟨fun value target => ⟨?_, ?_, ?_⟩, ?_, ?_, ?_⟩
  · intro fault refused
    cases coerce_unfit value target fault refused
    exact ⟨rfl, rfl⟩
  · exact fun stored => value.coerce_iff stored target
  · exact fun stored => value.coerce_again stored target
  · intro value hub target number keeps integral
    have whole : hub.isIntegral = true := by simp [DataType.isIntegral, keeps, Kind.isIntegral]
    refine ⟨?_, fun between => value.coerce_through between hub target number keeps integral⟩
    rw [value.coerce_integral_ok hub number whole, value.coerce_integral_ok target number integral]
  · intro text stored ok
    obtain ⟨byte, rfl, rfl⟩ := (coerce_string_to_char_iff text stored).mp ok
    exact coerce_char_to_string byte
  · intro byte
    exact ⟨_, coerce_char_to_string byte, (coerce_string_to_char_iff _ _).mpr ⟨byte, rfl, rfl⟩⟩

/-- The double is -513.75, and 255 is its integer part modulo 256. -/
theorem coercion_laws_of_negative_double :
    let value : Value := .double (.finite true (2055 * Nat.pow 2 1072))
    let between : Value := .pointer .char (-513)
    value.type ≠ .string ∧ value.coerce (.pointer .char) = .ok between ∧
      value.coerce .char = .ok (.char 255) ∧ between.coerce .char = value.coerce .char := by
  intro value between
  have number : value.type ≠ .string := by decide
  have truncated : value.coerce (.pointer .char) = .ok between := by decide +kernel
  have wrapped : value.coerce .char = .ok (.char 255) := by decide +kernel
  have through := (coercion_laws.2.1 value (.pointer .char) .char number rfl rfl).2 between truncated
  exact ⟨number, truncated, wrapped, through⟩

end Value

end HeapConsole
