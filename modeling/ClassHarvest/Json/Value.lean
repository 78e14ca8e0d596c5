import ClassHarvest.Dictionary
import ClassHarvest.Number.Binary64

/-!
# JSON values

The values that a JSON document may hold.  Whole numbers and numbers with a fraction or an exponent
are kept apart.
-/

namespace ClassHarvest.Json

/-- A value. -/
inductive Value where
  /-- The value `null`. -/
  | null
  /-- A truth value. -/
  | bool (value : Bool)
  /-- A whole number. -/
  | int (value : Int)
  /-- A number with a fraction or an exponent, or no finite number. -/
  | float (value : Binary64)
  /-- A string. -/
  | string (value : Text)
  /-- Values in order. -/
  | array (items : List Value)
  /-- Values by name. -/
  | object (members : List (Text × Value))
deriving Repr, Inhabited

/-- Values by name, in the order in which the names first occurred. -/
abbrev Object := Dictionary Value

namespace Value

/-- The text of a string. -/
def string? : Value → Option Text
  | .string value => some value
  | _ => none

/-- The members of an object. -/
def object? : Value → Option Object
  | .object members => some members
  | _ => none

/-- The items of an array. -/
def array? : Value → Option (List Value)
  | .array items => some items
  | _ => none

/-- The value of a whole number; truth values count as zero and one. -/
def whole? : Value → Option Int
  | .int value => some value
  | .bool value => some (if value then 1 else 0)
  | _ => none

/-- Whether a value equals the number one. -/
def isOne : Value → Bool
  | .float value => value.isOne
  | value => value.whole? = some 1

end Value
end ClassHarvest.Json
