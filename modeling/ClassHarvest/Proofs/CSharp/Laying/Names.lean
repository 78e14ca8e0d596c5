import ClassHarvest.CSharp.Grammar.Patterns
import ClassHarvest.Proofs.CSharp.Laying.Phrases

/-!
# Names, arguments and patterns lay out nodes

The rules for what stands inside expressions and declarations, if those for the goals of the grammar
lay out their nodes.
-/

namespace ClassHarvest.CSharp.Grammar

-- The size of an instance grows with the length of the rule that it is for.
set_option synthInstance.maxSize 100000

/-! ## Goals -/

/-- Rules lay out their nodes, whatever they are asked for. -/
class Orderly (rules : Rules) : Prop where
  lays : ∀ goal, Lays (rules goal) []

variable {rules : Rules} [Orderly rules]

instance lays_goal (goal : Goal) : Lays (rules goal) [] :=
  Orderly.lays goal

instance lays_nodes (goal : Goal) : Lays (rules.nodes goal) [] := by
  unfold Rules.nodes
  infer_instance

instance lays_nodesOfMany (goal : Goal) : Lays (rules.nodesOfMany goal) [] := by
  unfold Rules.nodesOfMany
  infer_instance

instance lays_expression : Lays rules.expression [] :=
  Orderly.lays _

instance lays_value : Lays rules.value [] := by
  unfold Rules.value
  infer_instance

/-! ## Names and types -/

variable {value : Bool}

instance advances_identifier : Advances identifier := by
  unfold identifier
  infer_instance

instance advances_typeArguments : Advances (typeArguments rules value) := by
  unfold typeArguments
  infer_instance

instance advances_simpleName : Advances (simpleName rules value) := by
  unfold simpleName
  infer_instance

instance advances_qualifiedName : Advances (qualifiedName rules value) := by
  unfold qualifiedName
  infer_instance

instance forward_tuplePart : Forward (tuplePart rules value) := by
  unfold tuplePart
  infer_instance

instance advances_tupleType : Advances (tupleType rules value) := by
  unfold tupleType
  infer_instance

instance advances_functionPointer : Advances (functionPointer rules) := by
  unfold functionPointer
  infer_instance

instance forward_seesScoped : Forward seesScoped := by
  unfold seesScoped
  infer_instance

instance forward_plainType : Forward (plainType rules value) := by
  unfold plainType
  infer_instance

instance forward_typeMark : Forward (typeMark value) := by
  unfold typeMark
  infer_instance

instance lays_typePhrase : Lays (typePhrase rules value) [] := by
  unfold typePhrase
  infer_instance

/-! ## Arguments, parameters and attributes -/

variable {lambda : Bool} {opening closing : String}

instance lays_declaredVariable : Lays (declaredVariable rules) [] := by
  unfold declaredVariable
  infer_instance

instance lays_argument : Lays (argument rules) [] := by
  unfold argument
  refine .pass fun place => .pass fun name => ?_
  cases name <;>
  · dsimp only
    infer_instance

instance lays_arguments : Lays (arguments rules) [] := by
  unfold arguments
  infer_instance

instance advances_arguments : Advances (arguments rules) := by
  unfold arguments
  infer_instance

instance lays_indices : Lays (indices rules) [] := by
  unfold indices
  infer_instance

instance advances_indices : Advances (indices rules) := by
  unfold indices
  infer_instance

instance lays_parameter : Lays (parameter rules lambda) [] := by
  unfold parameter
  infer_instance

instance lays_parametersBetween : Lays (parametersBetween rules lambda opening closing) [] := by
  unfold parametersBetween
  infer_instance

instance lays_parameters : Lays (parameters rules lambda) [] := by
  unfold parameters
  infer_instance

instance lays_typeParameter : Lays (typeParameter rules) [] := by
  unfold typeParameter
  infer_instance

instance lays_typeParameters : Lays (typeParameters rules) [] := by
  unfold typeParameters
  infer_instance

instance forward_constraint : Forward (constraint rules) := by
  unfold constraint
  infer_instance

instance forward_constraints : Forward (constraints rules) := by
  unfold constraints
  infer_instance

instance lays_attributeUse : Lays (attributeUse rules) [] := by
  unfold attributeUse
  infer_instance

instance lays_attributesPhrase : Lays (attributesPhrase rules) [] := by
  unfold attributesPhrase
  infer_instance

/-! ## Patterns -/

instance forward_designation (bound : List Token) : Forward (designation bound) := by
  induction bound with
  | nil => exact forward_failure
  | cons _ bound ih =>
      unfold designation
      infer_instance

instance forward_patternVariable : Forward patternVariable := by
  unfold patternVariable
  infer_instance

instance forward_testedProperty : Forward testedProperty := by
  unfold testedProperty
  infer_instance

instance lays_subpattern : Lays (subpattern rules) [] := by
  unfold subpattern
  infer_instance

instance lays_subpatterns : Lays (subpatterns rules opening closing) [] := by
  unfold subpatterns
  infer_instance

instance lays_recursivePattern : Lays (recursivePattern rules) [] := by
  unfold recursivePattern
  infer_instance

instance lays_constantPattern : Lays (constantPattern rules) [] := by
  unfold constantPattern
  infer_instance

instance lays_simplePattern : Lays (simplePattern rules) [] := by
  unfold simplePattern
  infer_instance

instance lays_negatedPattern : Lays (negatedPattern rules) [] := by
  unfold negatedPattern
  infer_instance

instance lays_patternPhrase : Lays (patternPhrase rules) [] := by
  unfold patternPhrase
  infer_instance

end ClassHarvest.CSharp.Grammar
