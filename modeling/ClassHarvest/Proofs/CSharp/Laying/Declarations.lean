import ClassHarvest.CSharp.Grammar.Declarations
import ClassHarvest.Proofs.CSharp.Laying.Expressions

/-!
# Statements and declarations lay out nodes

The rules for statements, declarations and whole source texts, each found along its text.
-/

namespace ClassHarvest.CSharp.Grammar

-- The size of an instance grows with the length of the rule that it is for.
set_option synthInstance.maxSize 100000

variable {rules : Rules} [Orderly rules]

/-! ## Variables and local functions -/

instance forward_variableTuple (bound : List Token) : Forward (variableTuple bound) := by
  induction bound with
  | nil => exact forward_failure
  | cons _ bound ih =>
      unfold variableTuple
      infer_instance

instance lays_declarator : Lays (declarator rules) [] := by
  unfold declarator
  infer_instance

instance lays_deconstruction : Lays (deconstruction rules) [] := by
  unfold deconstruction
  infer_instance

instance lays_variableList : Lays (variableList rules) [] := by
  unfold variableList
  infer_instance

instance lays_body : Lays (body rules) [] := by
  unfold body
  infer_instance

instance forward_modifier : Forward modifier := by
  unfold modifier
  infer_instance

instance lays_localFunction : Lays (localFunction rules) [] := by
  unfold localFunction
  infer_instance

instance lays_localVariables : Lays (localVariables rules) [] := by
  unfold localVariables
  infer_instance

/-! ## Statements -/

instance lays_condition : Lays (condition rules) [] := by
  unfold condition
  infer_instance

instance lays_ifStatement : Lays (ifStatement rules) [] := by
  unfold ifStatement
  infer_instance

instance lays_forStatement : Lays (forStatement rules) [] := by
  unfold forStatement
  infer_instance

instance lays_loopVariable : Lays (loopVariable rules) [] := by
  unfold loopVariable
  infer_instance

instance lays_foreachStatement : Lays (foreachStatement rules) [] := by
  unfold foreachStatement
  infer_instance

instance lays_doStatement : Lays (doStatement rules) [] := by
  unfold doStatement
  infer_instance

instance lays_switchLabel : Lays (switchLabel rules) [] := by
  unfold switchLabel
  infer_instance

instance lays_switchSection : Lays (switchSection rules) [] := by
  unfold switchSection
  infer_instance

instance lays_switchStatement : Lays (switchStatement rules) [] := by
  unfold switchStatement
  infer_instance

instance forward_caught : Forward (caught rules) := by
  unfold caught
  infer_instance

instance lays_catchClause : Lays (catchClause rules) [] := by
  unfold catchClause
  infer_instance

instance lays_tryStatement : Lays (tryStatement rules) [] := by
  unfold tryStatement
  infer_instance

instance lays_usingStatement : Lays (usingStatement rules) [] := by
  unfold usingStatement
  infer_instance

instance lays_fixedStatement : Lays (fixedStatement rules) [] := by
  unfold fixedStatement
  infer_instance

instance lays_gotoStatement : Lays (gotoStatement rules) [] := by
  unfold gotoStatement
  infer_instance

instance lays_keywordStatement : Lays (keywordStatement rules) [] := by
  unfold keywordStatement
  infer_instance

instance lays_yieldStatement : Lays (yieldStatement rules) [] := by
  unfold yieldStatement
  infer_instance

instance lays_expressionStatement : Lays (expressionStatement rules) [] := by
  unfold expressionStatement
  infer_instance

instance lays_plainStatement : Lays (plainStatement rules) [] := by
  unfold plainStatement
  infer_instance

instance lays_wordStatement {text : Text} : Lays (wordStatement rules text) [] := by
  unfold wordStatement
  infer_instance

instance lays_statementPhrase : Lays (statementPhrase rules) [] := by
  unfold statementPhrase
  refine @lays_phrase _ _ (.pass fun seen => ?_)
  split <;> infer_instance

instance lays_blockPhrase : Lays (blockPhrase rules) [] := by
  unfold blockPhrase
  infer_instance

/-! ## Namespaces and types -/

instance lays_usingDirective : Lays (usingDirective rules) [] := by
  unfold usingDirective
  infer_instance

instance lays_externAlias : Lays externAlias [] := by
  unfold externAlias
  infer_instance

instance lays_declarations : Lays (declarations rules) [] := by
  unfold declarations
  infer_instance

instance forward_namespaceName : Forward (namespaceName rules) := by
  unfold namespaceName
  infer_instance

instance lays_namespaceDeclaration : Lays (namespaceDeclaration rules) [] := by
  unfold namespaceDeclaration
  infer_instance

instance lays_namespaceHeader : Lays (namespaceHeader rules) [] := by
  unfold namespaceHeader
  infer_instance

instance lays_baseType : Lays (baseType rules) [] := by
  unfold baseType
  infer_instance

instance lays_headPart : Lays (headPart rules) [] := by
  unfold headPart
  infer_instance

instance lays_typeRest : Lays (typeRest rules) [] := by
  unfold typeRest
  infer_instance

instance lays_enumMember : Lays (enumMember rules) [] := by
  unfold enumMember
  infer_instance

instance lays_enumMembers (bound : List Token) : Lays (enumMembers rules bound) [] := by
  induction bound with
  | nil => exact lays_pure []
  | cons _ bound ih =>
      unfold enumMembers
      infer_instance

instance lays_enumRest : Lays (enumRest rules) [] := by
  unfold enumRest
  infer_instance

instance lays_delegateRest : Lays (delegateRest rules) [] := by
  unfold delegateRest
  infer_instance

/-! ## Members -/

instance lays_accessor : Lays (accessor rules) [] := by
  unfold accessor
  infer_instance

instance lays_accessors : Lays (accessors rules) [] := by
  unfold accessors
  infer_instance

instance lays_propertyRest : Lays (propertyRest rules) [] := by
  unfold propertyRest
  infer_instance

instance lays_eventRest : Lays (eventRest rules) [] := by
  unfold eventRest
  infer_instance

instance lays_constructorRest : Lays (constructorRest rules) [] := by
  unfold constructorRest
  infer_instance

instance lays_destructorRest : Lays (destructorRest rules) [] := by
  unfold destructorRest
  infer_instance

instance forward_declaredOperator : Forward declaredOperator := by
  unfold declaredOperator
  refine .bind fun _ => .bind fun isWord => ?_
  split
  · infer_instance
  · refine .bind fun reading => ?_
    split <;> infer_instance

instance forward_interfaceName : Forward (interfaceName rules) := by
  unfold interfaceName
  infer_instance

instance lays_conversionRest : Lays (conversionRest rules) [] := by
  unfold conversionRest
  infer_instance

instance lays_memberRest : Lays (memberRest rules) [] := by
  unfold memberRest
  infer_instance

instance lays_typedMember : Lays (typedMember rules) [] := by
  unfold typedMember
  infer_instance

instance forward_seesRecord : Forward seesRecord := by
  unfold seesRecord
  infer_instance

/-- The attributes of a class count as enclosed by it. -/
instance lays_declaredType (line : Nat) (spans : List Span) (attributes : List Node) :
    Lays (declaredType rules line spans attributes) attributes := by
  unfold declaredType
  infer_instance

instance lays_declaredMember : Lays (declaredMember rules) [] := by
  unfold declaredMember
  infer_instance

instance forward_modifiers : Forward modifiers := by
  unfold modifiers
  infer_instance

instance lays_typeDeclaration : Lays (typeDeclaration rules) [] := by
  unfold typeDeclaration
  infer_instance

instance lays_memberDeclaration : Lays (memberDeclaration rules) [] := by
  unfold memberDeclaration
  infer_instance

instance lays_declarationPhrase : Lays (declarationPhrase rules) [] := by
  unfold declarationPhrase
  infer_instance

/-! ## Source texts -/

instance lays_globalAttributes : Lays (globalAttributes rules) [] := by
  unfold globalAttributes
  infer_instance

instance lays_item (bound : List Token) : Lays (item rules bound) [] := by
  induction bound with
  | nil => exact lays_failure
  | cons _ bound ih =>
      unfold item
      infer_instance

instance lays_sourceText : Lays (sourceText rules) [] := by
  unfold sourceText
  infer_instance

end ClassHarvest.CSharp.Grammar
