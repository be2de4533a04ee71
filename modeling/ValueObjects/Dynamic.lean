import ValueObjects.Wrapper

namespace ValueObjects

/-- A value with its type. The types are told apart at run time, and each has its values. -/
structure Boxed {τ : Type} (Value : τ → Type) where
  type : τ
  value : Value type

def Boxed.as? {τ : Type} [DecidableEq τ] {Value : τ → Type} (boxed : Boxed Value) (type : τ) :
    Option (Value type) :=
  if same : boxed.type = type then some (same ▸ boxed.value) else none

@[simp]
theorem Boxed.as?_own {τ : Type} [DecidableEq τ] {Value : τ → Type} (type : τ)
    (value : Value type) : Boxed.as? ⟨type, value⟩ type = some value := by
  simp [as?]

/-- A type whose values are the values of one that is told apart at run time. -/
structure Tag {τ : Type} (Value : τ → Type) (α : Type) where
  type : τ
  values : Value type = α

namespace Tag

variable {τ α : Type} {Value : τ → Type}

def box (tag : Tag Value α) (value : α) : Boxed Value :=
  ⟨tag.type, cast tag.values.symm value⟩

def unbox? [DecidableEq τ] (tag : Tag Value α) (boxed : Boxed Value) : Option α :=
  (boxed.as? tag.type).map (cast tag.values)

end Tag

inductive ValueType where
  | payload (type : PayloadType)
  | wrapper (type : Wrapper)
  | optional (type : Wrapper)
  deriving DecidableEq, Repr

def ValueType.Value : ValueType → Type
  | .payload type => type.Value
  | .wrapper type => Wrapped type
  | .optional type => Option (Wrapped type)

namespace ValueType

instance (type : ValueType) : DecidableEq type.Value :=
  match type with
  | .payload type => inferInstanceAs (DecidableEq type.Value)
  | .wrapper type => inferInstanceAs (DecidableEq (Wrapped type))
  | .optional type => inferInstanceAs (DecidableEq (Option (Wrapped type)))

def fullName : ValueType → String
  | .payload type => type.fullName
  | .wrapper type => type.fullName
  | .optional type => optionName type.fullName

end ValueType

/-- A payload, a wrapper or an option of a wrapper, with its type. -/
abbrev Dynamic : Type :=
  Boxed ValueType.Value

abbrev Dynamic.as? (dynamic : Dynamic) (type : ValueType) : Option type.Value :=
  Boxed.as? dynamic type

end ValueObjects
