import ClassHarvest.Text.Basic

/-!
# Emission modes
-/

namespace ClassHarvest

/-- How class names are emitted. -/
inductive Mode where
  /-- One accessor for all of them. -/
  | combined
  /-- One accessor for each category, and one for their union. -/
  | categories
deriving DecidableEq, Repr

namespace Mode

/-- The name of a mode. -/
def name : Mode → Text
  | .combined => "combined"
  | .categories => "categories"

/-- All modes, the usual one first. -/
def all : List Mode := [.combined, .categories]

/-- The mode with a name. -/
def ofName? (name : Text) : Option Mode :=
  all.find? (·.name = name)

theorem ofName?_name (mode : Mode) : ofName? mode.name = some mode := by
  cases mode <;> decide

end Mode
end ClassHarvest
