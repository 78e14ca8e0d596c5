import ClassHarvest.Text.Basic

/-!
# Names of characters
-/

namespace ClassHarvest.CodePoint

/-- The character with a name. -/
def ofName? (name : Text) : Option CodePoint :=
  if name = ("DIGIT ONE" : Text) then some '1' else none

end ClassHarvest.CodePoint
