import ClassHarvest.Proofs.Gathering
import ClassHarvest.Yaml.Value

/-!
# Values that can be displayed

Only a whole number with too many digits has no text.  In a document without such a number every value
has one, also a collection that holds itself.
-/

namespace ClassHarvest.Yaml

open Gathering

/-! ## Scalars of a document -/

/-- Whether a scalar has a text: it is no whole number with too many digits. -/
def Scalar.isWritable : Scalar → Bool
  | .int n => (Numeral.write? n).isSome
  | _ => true

/-- The scalar that a value is. -/
def Value.scalars : Value → List Scalar
  | .scalar value => [value]
  | .collection _ => []

/-- The scalars in a collection, but not in the collections inside it. -/
def Collection.scalars : Collection → List Scalar
  | .sequence items => items.flatMap Value.scalars
  | .mapping entries => entries.flatMap fun (key, value) => key :: value.scalars
  | .set members => members
  | .pairs list => list.flatMap fun (a, b) => a.scalars ++ b.scalars

/-- All scalars of a document. -/
def Document.scalars (document : Document) : List Scalar :=
  document.root.scalars ++ document.collections.flatMap fun (_, collection) => collection.scalars

/-- A document without too great numbers. -/
def Document.IsWritable (document : Document) : Prop :=
  ∀ scalar ∈ document.scalars, scalar.isWritable

/-- A value without too great numbers, apart from what it leads to. -/
def Value.IsWritable (value : Value) : Prop :=
  ∀ scalar ∈ value.scalars, scalar.isWritable

/-! ## Texts of scalars -/

theorem Scalar.exists_quoted {scalar : Scalar} (writable : scalar.isWritable) :
    ∃ text, scalar.quoted = .ok text := by
  cases scalar with
  | int n =>
      simp only [Scalar.isWritable, Option.isSome_iff_exists] at writable
      obtain ⟨digits, written⟩ := writable
      rw [Scalar.quoted]
      unfold Scalar.wholeText
      rw [written]
      exact ⟨digits, rfl⟩
  | null | bool | float | text | bytes | timestamp => exact ⟨_, rfl⟩

theorem Scalar.exists_display {scalar : Scalar} (writable : scalar.isWritable) :
    ∃ text, scalar.display = .ok text := by
  cases scalar with
  | text | timestamp => exact ⟨_, rfl⟩
  | null | bool | int | float | bytes =>
      simp only [Scalar.display]
      exact Scalar.exists_quoted writable

/-! ## Texts of values -/

namespace Document

variable {document : Document}

theorem IsWritable.collection (writable : document.IsWritable) {id : NodeId}
    {collection : Collection} (found : document.collections.lookup id = some collection) :
    ∀ scalar ∈ collection.scalars, scalar.isWritable := by
  intro scalar mem
  have listed : (id, collection) ∈ document.collections := by
    obtain ⟨before, after, same, -⟩ := List.lookup_eq_some_iff.mp found
    rw [same]
    exact List.mem_append_right before List.mem_cons_self
  exact writable scalar (List.mem_append_right _ (List.mem_flatMap.mpr ⟨_, listed, mem⟩))

/-- The induction is on the bound, and goes from a collection to the values in it. -/
theorem IsWritable.exists_quotedIn (writable : document.IsWritable) (bound : Nat)
    (around : List NodeId) {value : Value} (ofValue : value.IsWritable) :
    ∃ text, document.quotedIn around bound value = .ok text := by
  induction bound generalizing around value with
  | zero =>
      cases value with
      | scalar scalar =>
          obtain ⟨text, quoted⟩ := Scalar.exists_quoted (ofValue scalar (List.mem_singleton_self _))
          exact ⟨text, by rw [quotedIn, quoted]⟩
      | collection id => exact ⟨[], by rw [quotedIn]⟩
  | succ bound ih =>
  cases value with
  | scalar scalar =>
      obtain ⟨text, quoted⟩ := Scalar.exists_quoted (ofValue scalar (List.mem_singleton_self _))
      exact ⟨text, by rw [quotedIn, quoted]⟩
  | collection id =>
  rw [quotedIn]
  cases found : document.collections.lookup id with
  | none => exact ⟨[], rfl⟩
  | some collection =>
  have inside := writable.collection found
  dsimp only
  split
  · exact ⟨_, rfl⟩
  have item (value : Value) (within : value.scalars ⊆ collection.scalars) :
      ∃ text, document.quotedIn (id :: around) bound value = .ok text :=
    ih (id :: around) fun scalar mem => inside scalar (within mem)
  cases collection with
  | sequence items =>
      obtain ⟨texts, all⟩ := exists_mapM_eq_ok_iff.mpr fun value mem =>
        item value fun scalar => List.mem_flatMap_of_mem mem
      exact ⟨_, bind_eq_ok_iff.mpr ⟨texts, all, rfl⟩⟩
  | mapping entries =>
      have entry : ∀ entry ∈ entries, ∃ text, (do
          return (← entry.1.quoted) ++ (": " : Text) ++
            (← document.quotedIn (id :: around) bound entry.2)) = (.ok text : Except LoadError Text) := by
        rintro ⟨key, value⟩ mem
        obtain ⟨keyText, isKey⟩ := Scalar.exists_quoted (inside key
          (List.mem_flatMap_of_mem mem List.mem_cons_self))
        obtain ⟨valueText, isValue⟩ := item value fun scalar isScalar =>
          List.mem_flatMap_of_mem mem (List.mem_cons_of_mem key isScalar)
        exact ⟨_, bind_eq_ok_iff.mpr ⟨keyText, isKey, bind_eq_ok_iff.mpr ⟨valueText, isValue, rfl⟩⟩⟩
      obtain ⟨texts, all⟩ := exists_mapM_eq_ok_iff.mpr entry
      exact ⟨_, bind_eq_ok_iff.mpr ⟨texts, all, rfl⟩⟩
  | set members =>
      obtain ⟨texts, all⟩ := exists_mapM_eq_ok_iff.mpr fun member mem =>
        Scalar.exists_quoted (inside member mem)
      dsimp only
      split
      · exact ⟨_, rfl⟩
      · exact ⟨_, bind_eq_ok_iff.mpr ⟨texts, all, rfl⟩⟩
  | pairs list =>
      have pair : ∀ pair ∈ list, ∃ text, (do
          return bracketed "(" ")" [← document.quotedIn (id :: around) bound pair.1,
            ← document.quotedIn (id :: around) bound pair.2]) = (.ok text : Except LoadError Text) := by
        rintro ⟨first, second⟩ mem
        obtain ⟨text, isFirst⟩ := item first fun scalar isScalar =>
          List.mem_flatMap_of_mem mem (List.mem_append_left _ isScalar)
        obtain ⟨text', isSecond⟩ := item second fun scalar isScalar =>
          List.mem_flatMap_of_mem mem (List.mem_append_right _ isScalar)
        exact ⟨_, bind_eq_ok_iff.mpr ⟨text, isFirst, bind_eq_ok_iff.mpr ⟨text', isSecond, rfl⟩⟩⟩
      obtain ⟨texts, all⟩ := exists_mapM_eq_ok_iff.mpr pair
      exact ⟨_, bind_eq_ok_iff.mpr ⟨texts, all, rfl⟩⟩

theorem IsWritable.exists_display (writable : document.IsWritable) {value : Value}
    (ofValue : value.IsWritable) : ∃ text, document.display value = .ok text := by
  cases value with
  | scalar scalar => exact Scalar.exists_display (ofValue scalar (List.mem_singleton_self _))
  | collection id => exact writable.exists_quotedIn _ [] ofValue

end Document
end ClassHarvest.Yaml
