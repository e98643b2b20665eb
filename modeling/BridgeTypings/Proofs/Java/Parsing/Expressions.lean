import BridgeTypings.Java.Parser.Expression
import BridgeTypings.Proofs.Java.Parsing.Types

set_option synthInstance.maxSize 100000

namespace BridgeTypings.Java.Parser

open Text.Parser

instance finds_firstSymbol (symbols : List String) : FindsProper (firstSymbol symbols) := by
  induction symbols with
  | nil =>
      unfold firstSymbol
      infer_instance
  | cons s rest ih =>
      unfold firstSymbol
      infer_instance

instance finds_textBlockComment : FindsProper textBlockComment where
  found h := by
    simp only [textBlockComment, Option.ite_none_right_eq_some, Option.some.injEq] at h
    obtain ⟨-, rfl⟩ := h
    simp

variable (inner : Nested) [inner.Sound]

instance finds_arguments : FindsProper (arguments inner) := by
  unfold arguments
  infer_instance

instance finds_parenthesized : FindsProper (parenthesized inner) := by
  unfold parenthesized
  infer_instance

instance finds_arrayInitializer : FindsProper (arrayInitializer inner) := by
  unfold arrayInitializer
  infer_instance

instance finds_initializer : FindsProper (initializer inner) := by
  unfold initializer
  infer_instance

instance finds_interpolation : FindsProper (interpolation inner) := by
  unfold interpolation
  infer_instance

instance finds_stringLiteral : FindsProper (stringLiteral inner) := by
  unfold stringLiteral stringRest textBlockRest textBlockPiece quotedPiece
  infer_instance

instance finds_objectCreation : FindsProper (objectCreation inner) := by
  unfold objectCreation creationArguments
  infer_instance

instance finds_arrayCreation : FindsProper (arrayCreation inner) := by
  unfold arrayCreation sizedBrackets
  infer_instance

instance finds_referenceTarget : FindsProper (referenceTarget inner) := by
  unfold referenceTarget
  infer_instance

instance finds_memberName (object : Expression) (keywords : List String) :
    FindsProper (memberName inner object keywords) := by
  unfold memberName
  refine Finds.bind inferInstance .any fun n _ => Finds.bind inferInstance .any fun values _ => ?_
  cases values <;> infer_instance

instance finds_access (object : Expression) (keywords : List String) :
    FindsProper (access inner object keywords) := by
  unfold access genericCall
  infer_instance

instance finds_selector (left : Operand) : FindsProper (selector inner left) := by
  unfold selector
  infer_instance

instance finds_plainName : FindsProper (plainName inner) := by
  unfold plainName
  refine Finds.bind inferInstance .any fun n _ => Finds.bind inferInstance .any fun values _ => ?_
  cases values <;> infer_instance

instance finds_typeOperand : FindsProper (typeOperand inner) := by
  unfold typeOperand elaborateType
  infer_instance

instance finds_primary : FindsProper (primary inner) := by
  unfold primary primaryStart literal creation superAccess strictModifier
  infer_instance

instance finds_lambda (arrow : Bool) : FindsProper (lambda inner arrow) := by
  unfold lambda lambdaBody listedParameters bareParameter inferredParameter
  infer_instance

instance finds_cast (arrow : Bool) : FindsProper (cast inner arrow) := by
  unfold cast
  infer_instance

instance finds_recordPattern : FindsProper (recordPattern inner) := by
  unfold recordPattern patternComponent underscorePattern
  infer_instance

instance finds_typeTest : FindsProper (typeTest inner) := by
  unfold typeTest
  infer_instance

instance finds_switchLabel (arrow : Bool) : FindsProper (switchLabel inner arrow) := by
  unfold switchLabel caseLabel casePattern
  infer_instance

instance finds_switch : FindsProper (switch inner) := by
  unfold switch switchBlock switchRule switchRuleAmong switchGroup groupLabel
  infer_instance

instance finds_operand (arrow : Bool) : FindsProper (operand inner arrow) := by
  unfold operand
  infer_instance

instance finds_operation (arrow : Bool) (left : Operand) :
    FindsProper (operation inner arrow left) := by
  unfold operation operator
  infer_instance

instance finds_operations (arrow : Bool) (first : Operand) :
    FindsProper (operations inner arrow first) := by
  unfold operations
  infer_instance

instance finds_expression (arrow : Bool) : FindsProper (expression inner arrow) := by
  unfold expression
  infer_instance

end BridgeTypings.Java.Parser
