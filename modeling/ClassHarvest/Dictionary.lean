import ClassHarvest.Text.Basic

/-!
# Dictionaries

A dictionary is a list of pairs of a key and a value in which the keys are in the order of their first
insertion.
-/

namespace ClassHarvest

/-- Pairs of a key and a value, in the order in which the keys were first inserted. -/
abbrev Dictionary (α : Type) := List (Text × α)

namespace Dictionary

variable {α : Type}

/-- The value of a key. -/
def get? (key : Text) : Dictionary α → Option α
  | [] => none
  | (k, v) :: rest => if k = key then some v else get? key rest

/-- Whether there is a value for a key. -/
def has (d : Dictionary α) (key : Text) : Bool :=
  d.any (·.1 = key)

/-- The dictionary with a value for a key, in the place of the old value or else at the end. -/
def put (key : Text) (value : α) : Dictionary α → Dictionary α
  | [] => [(key, value)]
  | (k, v) :: rest => if k = key then (key, value) :: rest else (k, v) :: put key value rest

/-- The dictionary without a key. -/
def erase (key : Text) (d : Dictionary α) : Dictionary α :=
  d.filter (·.1 ≠ key)

/-- The dictionary of pairs of which the last one for a key counts. -/
def ofPairs (pairs : List (Text × α)) : Dictionary α :=
  pairs.foldl (fun d pair => put pair.1 pair.2 d) []

/-- The dictionary with the pairs of another one put into it. -/
def update (d other : Dictionary α) : Dictionary α :=
  other.foldl (fun d pair => put pair.1 pair.2 d) d

/-- The keys in order. -/
def keys (d : Dictionary α) : List Text :=
  d.map (·.1)

/-- The pairs in the order of their keys. -/
def sorted (d : Dictionary α) : Dictionary α :=
  d.mergeSort fun a b => Text.le a.1 b.1

/-! ## Small laws -/

@[simp]
theorem get?_nil (key : Text) : get? key ([] : Dictionary α) = none :=
  rfl

theorem get?_cons (key k : Text) (v : α) (d : Dictionary α) :
    get? key ((k, v) :: d) = if k = key then some v else get? key d :=
  rfl

theorem get?_put (key key' : Text) (value : α) (d : Dictionary α) :
    get? key (put key' value d) = if key' = key then some value else get? key d := by
  induction d with
  | nil => simp [put, get?]
  | cons pair rest ih =>
    obtain ⟨k, v⟩ := pair
    simp only [put]
    split
    · next h => subst h; simp only [get?_cons]; split <;> rfl
    · next h =>
      simp only [get?_cons, ih]
      split
      · next hk => subst hk; simp [Ne.symm h]
      · rfl

end Dictionary
end ClassHarvest
