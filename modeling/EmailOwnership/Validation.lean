/-! What is wrong with an input, and where. -/
namespace EmailOwnership

inductive Problem
  | missing
  | valueError
  | stringType
  /-- Half of a surrogate pair stands alone. -/
  | stringUnicode
  | stringTooShort
  | stringTooLong
  | modelType
  | modelAttributesType
  | jsonInvalid
  | uuidParsing
  | intType
  | intParsing
  | intParsingSize
  | intFromFloat
  | finiteNumber
  | floatType
  | floatParsing
  | literalError
  | greaterThanEqual
  | extraForbidden
  deriving DecidableEq

def Problem.name : Problem → String
  | missing => "missing"
  | valueError => "value_error"
  | stringType => "string_type"
  | stringUnicode => "string_unicode"
  | stringTooShort => "string_too_short"
  | stringTooLong => "string_too_long"
  | modelType => "model_type"
  | modelAttributesType => "model_attributes_type"
  | jsonInvalid => "json_invalid"
  | uuidParsing => "uuid_parsing"
  | intType => "int_type"
  | intParsing => "int_parsing"
  | intParsingSize => "int_parsing_size"
  | intFromFloat => "int_from_float"
  | finiteNumber => "finite_number"
  | floatType => "float_type"
  | floatParsing => "float_parsing"
  | literalError => "literal_error"
  | greaterThanEqual => "greater_than_equal"
  | extraForbidden => "extra_forbidden"

/-- A problem with the path of names that leads to the input. -/
structure Issue where
  problem : Problem
  location : List String
  deriving DecidableEq

/-- The issue as seen from outside of the field `name`. -/
def Issue.within (name : String) (i : Issue) : Issue := {i with location := name :: i.location}

/-- What is read can be compared, and so can what is wrong. -/
instance exceptDecidableEq {ε α : Type} [DecidableEq ε] [DecidableEq α] : DecidableEq (Except ε α)
  | .ok a, .ok b => decidable_of_iff (a = b) ⟨congrArg _, Except.ok.inj⟩
  | .error e, .error e' => decidable_of_iff (e = e') ⟨congrArg _, Except.error.inj⟩
  | .ok _, .error _ => isFalse nofun
  | .error _, .ok _ => isFalse nofun

/-- The issues that a reading ended with. -/
def issuesOf {α : Type} : Except (List Issue) α → List Issue
  | .ok _ => []
  | .error issues => issues

end EmailOwnership
