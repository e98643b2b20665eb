import BridgeTypings.Java.Parser.Source
import BridgeTypings.Proofs.Java.Parsing.Declarations

set_option synthInstance.maxSize 100000

namespace BridgeTypings.Java

open Text.Parser

namespace Parser

instance finds_importDeclaration : FindsProper importDeclaration := by
  unfold importDeclaration
  infer_instance

instance finds_jumpStatement : FindsProper jumpStatement := by
  unfold jumpStatement
  infer_instance

instance finds_moduleDirective : FindsProper moduleDirective := by
  unfold moduleDirective
  infer_instance

instance finds_strictModifier : FindsProper strictModifier := by
  unfold strictModifier
  infer_instance

section

variable (inner : Nested) [inner.Sound]

instance finds_annotatedKeyword (keywords : List String) :
    FindsProper (annotatedKeyword inner keywords) := by
  unfold annotatedKeyword
  infer_instance

instance finds_localVariables (annotatedKeywords modifiedKeywords keywords : List String) :
    FindsProper (localVariables inner annotatedKeywords modifiedKeywords keywords) := by
  unfold localVariables
  infer_instance

instance finds_forStatement : FindsProper (forStatement inner) := by
  unfold forStatement elementLoopHead countingLoopHead
  infer_instance

instance finds_tryStatement : FindsProper (tryStatement inner) := by
  unfold tryStatement resource catchClause finallyClause
  infer_instance

instance finds_packageDeclaration : FindsProper (packageDeclaration inner) := by
  unfold packageDeclaration leadingAnnotations
  infer_instance

instance finds_moduleDeclaration : FindsProper (moduleDeclaration inner) := by
  unfold moduleDeclaration leadingAnnotations
  infer_instance

instance finds_localType : FindsProper (localType inner) := by
  unfold localType
  have hrest : Yields Declared.Proper (typeRest inner .classType) := yields_typeRest .classType
  have htype := finds_reported (.skip (p := modifiers inner true) fun _ => hrest)
  infer_instance

instance finds_compoundStatement : FindsProper (compoundStatement inner) := by
  unfold compoundStatement ifStatement whileStatement doStatement assertStatement returnStatement
    valueStatement synchronizedStatement switchStatement labeledStatement
  infer_instance

instance finds_statement : FindsProper (statement inner) := by
  unfold statement statementForm noExpression
  infer_instance

instance finds_block : FindsProper (block inner) := by
  unfold block
  infer_instance

theorem yields_freeMethodRest {names : List AnnotationName} (hnames : ∀ n ∈ names, IsDotted n)
    (keywords : List String) : Yields Declared.Proper (freeMethodRest inner names keywords) :=
  .orElse (yields_genericMethod hnames) <|
    .bind (yields_bareType keywords) fun _ ht => .bind (yields_name ["_"]) fun _ hn =>
      yields_methodRest hnames ht hn

instance finds_freeMethodRest (names : List AnnotationName) (keywords : List String) :
    FindsProper (freeMethodRest inner names keywords) := by
  unfold freeMethodRest
  infer_instance

instance finds_freeMethod : FindsProper (freeMethod inner) := by
  unfold freeMethod
  refine Finds.bind (finds_reported ?_) .any fun _ _ => inferInstance
  refine .skip fun modified => ?_
  split
  · exact .skip fun _ => .skip fun _ => .bind (yields_modifiers inner true) fun _ hnames =>
      yields_freeMethodRest inner hnames _
  · exact yields_freeMethodRest inner (by simp) _

instance finds_source : FindsProper (source inner) := by
  unfold source sourceItem
  infer_instance

end

end Parser

namespace Nested

instance sound_none : Nested.none.Sound where
  findsType _ := finds_fail
  findsOperand _ := finds_fail
  findsExpression _ := finds_fail
  findsRecordPattern := finds_fail
  findsInitializer := finds_fail
  findsElementValue := finds_fail
  findsStatement := finds_fail
  findsBlock := finds_fail
  findsMembers _ := finds_fail
  type _ := .fail
  members _ := .fail

instance sound_around (inner : Nested) [inner.Sound] : inner.around.Sound where
  findsType keywords := Parser.finds_type inner keywords
  findsOperand arrow := Parser.finds_operand inner arrow
  findsExpression arrow := Parser.finds_expression inner arrow
  findsRecordPattern := Parser.finds_recordPattern inner
  findsInitializer := Parser.finds_initializer inner
  findsElementValue := Parser.finds_elementValue inner
  findsStatement := Parser.finds_statement inner
  findsBlock := Parser.finds_block inner
  findsMembers kind := Parser.finds_members inner kind
  type keywords := Parser.yields_type keywords
  members kind := Parser.yields_members kind

instance sound_levels (n : Nat) : (levels n).Sound := by
  induction n with
  | zero => exact sound_none
  | succ n ih => exact sound_around (levels n)

end Nested

theorem Source.proper_of_parse {text : String} {source : Source}
    (h : Source.parse text = some source) : ∀ d ∈ source.declarations, d.Proper := by
  obtain ⟨parsed, hparsed, rfl⟩ := Option.map_eq_some_iff.1 h
  exact Finds.found hparsed

namespace TypeDeclaration

theorem Proper.of_mem_preorder {d : TypeDeclaration} (h : d.Proper) :
    ∀ e ∈ d.preorder, e.Proper := by
  induction h with
  | @mk heading name members nested hheading hname hmembers hnested ih =>
      have hinside : ∀ e ∈ preorderAll nested, e.Proper := by
        clear hnested
        induction nested with
        | nil => simp [preorderAll]
        | cons d rest ihrest =>
            rw [preorderAll]
            exact List.forall_mem_append.2 ⟨ih d List.mem_cons_self,
              ihrest fun d hd => ih d (List.mem_cons_of_mem _ hd)⟩
      rw [preorder]
      exact List.forall_mem_cons.2 ⟨.mk hheading hname hmembers hnested, hinside⟩

theorem proper_of_mem_preorderAll {ds : List TypeDeclaration} (h : ∀ d ∈ ds, d.Proper) :
    ∀ e ∈ preorderAll ds, e.Proper := by
  induction ds with
  | nil => simp [preorderAll]
  | cons d rest ih =>
      rw [preorderAll]
      exact List.forall_mem_append.2 ⟨(h d List.mem_cons_self).of_mem_preorder,
        ih fun d hd => h d (List.mem_cons_of_mem _ hd)⟩

end TypeDeclaration

theorem Source.proper_of_mem_preorder {text : String} {source : Source}
    (h : Source.parse text = some source) : ∀ d ∈ source.preorder, d.Proper :=
  TypeDeclaration.proper_of_mem_preorderAll (Source.proper_of_parse h)

end BridgeTypings.Java
