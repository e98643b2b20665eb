import BridgeTypings.Java.Parser.Parameter
import BridgeTypings.Proofs.Java.Proper
import BridgeTypings.Proofs.Text.Parsing

set_option synthInstance.maxSize 100000

namespace BridgeTypings.Java

open Text.Parser

abbrev FindsProper {α : Type} (p : Parser α) : Prop :=
  Finds TypeDeclaration.Proper p

class Nested.Sound (inner : Nested) : Prop where
  findsType (keywords : List String) : FindsProper (inner.type keywords)
  findsOperand (arrow : Bool) : FindsProper (inner.operand arrow)
  findsExpression (arrow : Bool) : FindsProper (inner.expression arrow)
  findsRecordPattern : FindsProper inner.recordPattern
  findsInitializer : FindsProper inner.initializer
  findsElementValue : FindsProper inner.elementValue
  findsStatement : FindsProper inner.statement
  findsBlock : FindsProper inner.block
  findsMembers (kind : Body) : FindsProper (inner.members kind)
  type (keywords : List String) : Yields TypeSyntax.Proper (inner.type keywords)
  members (kind : Body) : Yields (fun ms => ∀ m ∈ ms, m.Proper) (inner.members kind)

attribute [instance] Nested.Sound.findsType Nested.Sound.findsOperand
  Nested.Sound.findsExpression Nested.Sound.findsRecordPattern Nested.Sound.findsInitializer
  Nested.Sound.findsElementValue Nested.Sound.findsStatement Nested.Sound.findsBlock
  Nested.Sound.findsMembers

namespace Parser

instance finds_gap : FindsProper gap where
  found h := by
    cases h
    simp

instance finds_word : FindsProper word where
  found h := by
    obtain ⟨w, -, rfl⟩ := Option.map_eq_some_iff.1 h
    simp

instance finds_symbol (text : String) : FindsProper (symbol text) := by
  unfold symbol
  infer_instance

instance finds_symbolBefore (text : String) (stops : List Char) :
    FindsProper (symbolBefore text stops) := by
  unfold symbolBefore
  infer_instance

instance finds_token (p : Text.Pattern) : FindsProper (token p) := by
  unfold token
  infer_instance

instance finds_keyword (text : String) : FindsProper (keyword text) := by
  unfold keyword
  infer_instance

instance finds_keywordOf (texts : List String) : FindsProper (keywordOf texts) := by
  unfold keywordOf
  infer_instance

instance finds_name (keywords : List String) : FindsProper (name keywords) := by
  unfold name
  infer_instance

section

variable {α : Type} {p : Parser α} [FindsProper p]

instance finds_spelled : FindsProper (spelled p) := by
  unfold spelled
  infer_instance

instance finds_commaSeparated : FindsProper (commaSeparated p) := by
  unfold commaSeparated
  infer_instance

instance finds_commaTerminated : FindsProper (commaTerminated p) := by
  unfold commaTerminated
  infer_instance

end

instance finds_comments : FindsProper comments := by
  unfold comments
  infer_instance

instance finds_qualifiedName (keywords : List String) : FindsProper (qualifiedName keywords) := by
  unfold qualifiedName
  infer_instance

theorem yields_word : Yields (fun w => isIdentifier w = true) word := by
  constructor
  intro cs a h
  obtain ⟨⟨w, rest⟩, hw, rfl⟩ := Option.map_eq_some_iff.1 h
  exact isIdentifier_of_word hw

theorem yields_name (keywords : List String) :
    Yields (fun w => isIdentifier w = true) (name keywords) :=
  .bind yields_word fun _ hw => .skip fun _ => .pure hw

theorem yields_keywordOf (texts : List String) : Yields (· ∈ texts) (keywordOf texts) := by
  refine .skip fun w => .bind .require fun _ hw => .pure ?_
  simpa using hw

section

variable {inner : Nested}

theorem yields_brackets : Yields (fun bs => ∀ b ∈ bs, b.Proper) (brackets inner) :=
  .many (.skip fun _ => .skip fun _ => .skip fun _ => .pure rfl)

theorem yields_declaredName (keywords : List String) :
    Yields Declarator.Proper (declaredName inner keywords) :=
  .bind (yields_name keywords) fun _ hname => .bind yields_brackets fun _ hpairs =>
    .pure ⟨hname, hpairs⟩

theorem yields_declarator (keywords : List String) :
    Yields Declarator.Proper (declarator inner keywords) :=
  .bind (yields_declaredName keywords) fun _ hd => .skip fun _ => .pure hd

theorem yields_declarators (keywords : List String) :
    Yields (fun ds => ∀ d ∈ ds, d.Proper) (declarators inner keywords) :=
  .bind (yields_declarator keywords) fun _ hfirst =>
    .bind (.many (.skip fun _ => yields_declarator [])) fun _ hrest =>
      .pure (List.forall_mem_cons.2 ⟨hfirst, hrest⟩)

theorem yields_receiver (keywords : List String) :
    Yields Parameter.Proper (receiver inner keywords) := by
  refine .skip fun t => ?_
  cases t <;> exact .skip fun _ => .skip fun _ => .pure trivial

end

section

variable (inner : Nested) [inner.Sound]

instance finds_body (kind : Body) : FindsProper (inner.body kind) := by
  unfold Nested.body
  infer_instance

instance finds_annotationArguments : FindsProper (annotationArguments inner) := by
  unfold annotationArguments elementPairs
  infer_instance

instance finds_annotationUse : FindsProper (annotationUse inner) := by
  unfold annotationUse
  infer_instance

instance finds_annotations : FindsProper (annotations inner) := by
  unfold annotations
  infer_instance

instance finds_elementValue : FindsProper (elementValue inner) := by
  unfold elementValue arrayElementValues
  infer_instance

instance finds_plainModifier : FindsProper plainModifier := by
  unfold plainModifier
  infer_instance

instance finds_modifiers (declaresTypes : Bool) : FindsProper (modifiers inner declaresTypes) := by
  unfold modifiers modifier
  infer_instance

instance finds_brackets : FindsProper (brackets inner) := by
  unfold brackets
  infer_instance

instance finds_typeArguments : FindsProper (typeArguments inner) := by
  unfold typeArguments typeArgument wildcardBound
  infer_instance

instance finds_firstSegment (keywords : List String) :
    FindsProper (firstSegment inner keywords) := by
  unfold firstSegment
  infer_instance

instance finds_laterSegment (keywords : List String) :
    FindsProper (laterSegment inner keywords) := by
  unfold laterSegment
  infer_instance

instance finds_simpleType (keywords : List String) : FindsProper (simpleType inner keywords) := by
  unfold simpleType
  infer_instance

instance finds_bareType (keywords : List String) : FindsProper (bareType inner keywords) := by
  unfold bareType
  refine Finds.bind inferInstance .any fun element _ => Finds.bind inferInstance .any fun pairs _ => ?_
  cases pairs <;> infer_instance

instance finds_modifiedType (keywords : List String) :
    FindsProper (modifiedType inner keywords) := by
  unfold modifiedType modifierStart
  infer_instance

instance finds_typeAmong (keywords annotatedKeywords : List String) :
    FindsProper (typeAmong inner keywords annotatedKeywords) := by
  unfold typeAmong
  refine Finds.bind inferInstance .any fun names _ => ?_
  rcases names with _ | ⟨a, _ | ⟨b, more⟩⟩ <;> infer_instance

instance finds_type (keywords : List String) : FindsProper (type inner keywords) := by
  unfold type
  infer_instance

instance finds_typeList : FindsProper (typeList inner) := by
  unfold typeList
  infer_instance

instance finds_typeParameters : FindsProper (typeParameters inner) := by
  unfold typeParameters typeParameter
  infer_instance

instance finds_declaredName (keywords : List String) :
    FindsProper (declaredName inner keywords) := by
  unfold declaredName
  infer_instance

instance finds_declarators (keywords : List String) :
    FindsProper (declarators inner keywords) := by
  unfold declarators declarator
  infer_instance

instance finds_receiver (keywords : List String) : FindsProper (receiver inner keywords) := by
  unfold receiver receiverNames
  refine Finds.bind inferInstance .any fun t _ => ?_
  cases t <;> infer_instance

instance finds_parameterList (keywords : List String) :
    FindsProper (parameterList inner keywords) := by
  unfold parameterList parameter declarator
  infer_instance

instance finds_formalParameters (keywords : List String) :
    FindsProper (formalParameters inner keywords) := by
  unfold formalParameters
  refine Finds.bind inferInstance .any fun _ _ => Finds.bind inferInstance .any fun self _ => ?_
  cases self <;> infer_instance

end

section

variable {inner : Nested} [inner.Sound]

theorem yields_wildcardBound : Yields TypeSyntax.Proper (wildcardBound inner) :=
  .skip fun _ => Nested.Sound.type []

theorem yields_typeArgument : Yields TypeSyntax.Proper (typeArgument inner) :=
  .orElse
    (.skip fun _ => .skip fun _ => .bind (.maybe yields_wildcardBound) fun _ hbound =>
      .pure (.wildcard hbound))
    (Nested.Sound.type [])

theorem yields_typeArguments :
    Yields (fun types => ∀ t ∈ types, t.Proper) (typeArguments inner) := by
  refine .skip fun _ => .bind (.maybe (.separated1 yields_typeArgument)) fun types htypes =>
    .skip fun _ => .pure ?_
  cases types with
  | none => simp
  | some types => exact htypes types rfl

theorem yields_firstSegment (keywords : List String) :
    Yields Segment.Proper (firstSegment inner keywords) :=
  .bind (yields_name keywords) fun _ hname => .bind (.maybe yields_typeArguments) fun _ htypes =>
    .pure ⟨hname, htypes⟩

theorem yields_laterSegment (keywords : List String) :
    Yields Segment.Proper (laterSegment inner keywords) :=
  .skip fun _ => .skip fun _ => .bind (yields_name keywords) fun _ hname =>
    .bind (.maybe yields_typeArguments) fun _ htypes => .pure ⟨hname, htypes⟩

theorem yields_simpleType (keywords : List String) :
    Yields TypeSyntax.Proper (simpleType inner keywords) := by
  refine .orElse (.bind (yields_keywordOf _) fun w hw => ?_)
    (.bind (yields_firstSegment _) fun first hfirst =>
      .bind (.many (yields_laterSegment [])) fun rest hrest => .pure (.of_segments hfirst hrest))
  split
  · exact .pure .void
  · next hvoid => exact .pure (.primitive ((List.mem_cons.1 hw).resolve_left hvoid))

theorem yields_bareType (keywords : List String) :
    Yields TypeSyntax.Proper (bareType inner keywords) := by
  refine .bind (yields_simpleType keywords) fun element helement =>
    .bind yields_brackets fun pairs hpairs => ?_
  cases pairs with
  | nil => exact .pure helement
  | cons b bs => exact .pure (.array helement hpairs)

theorem yields_modifiedType (keywords : List String) :
    Yields TypeSyntax.Proper (modifiedType inner keywords) := by
  refine .skip fun modified => ?_
  split
  · exact .skip fun _ => yields_bareType []
  · exact yields_bareType keywords

theorem yields_typeAmong (keywords annotatedKeywords : List String) :
    Yields TypeSyntax.Proper (typeAmong inner keywords annotatedKeywords) := by
  refine .skip fun names => ?_
  rcases names with _ | ⟨a, _ | ⟨b, more⟩⟩
  · exact yields_bareType keywords
  · exact .bind (yields_bareType annotatedKeywords) fun _ ht => .pure (.annotated ht)
  · exact .bind (yields_bareType []) fun _ ht => .pure (.annotated ht)

theorem yields_type (keywords : List String) : Yields TypeSyntax.Proper (type inner keywords) :=
  yields_typeAmong keywords []

theorem yields_typeList : Yields (fun types => ∀ t ∈ types, t.Proper) (typeList inner) :=
  .separated1 (yields_type [])

theorem yields_parameter (keywords : List String) :
    Yields Parameter.Proper (parameter inner keywords) :=
  .bind (yields_modifiedType keywords) fun _ ht =>
    .orElse
      (.skip fun _ => .skip fun _ => .bind (yields_declarator []) fun _ hd => .pure ⟨ht, hd⟩)
      (.bind (yields_declaredName []) fun _ hd => .pure ⟨ht, hd⟩)

theorem yields_parameterList (keywords : List String) :
    Yields (fun ps => ∀ p ∈ ps, p.Proper) (parameterList inner keywords) :=
  .bind (yields_parameter keywords) fun _ hfirst =>
    .bind (.many (.skip fun _ => yields_parameter [])) fun _ hrest =>
      .pure (List.forall_mem_cons.2 ⟨hfirst, hrest⟩)

theorem yields_formalParameters (keywords : List String) :
    Yields (fun ps => ∀ p ∈ ps, p.Proper) (formalParameters inner keywords) := by
  refine .skip fun _ => .bind (.maybe (yields_receiver keywords)) fun self hself => ?_
  have hclose (others : Option (List Parameter)) (hothers : ∀ ps ∈ others, ∀ p ∈ ps, p.Proper) :
      ∀ p ∈ self.toList ++ others.getD [], p.Proper := by
    intro p hp
    rcases List.mem_append.1 hp with hp | hp
    · exact hself p (by simpa using hp)
    · cases others with
      | none => cases hp
      | some ps => exact hothers ps rfl p hp
  cases self with
  | none =>
      exact .bind (.maybe (yields_parameterList keywords)) fun others hothers =>
        .skip fun _ => .pure (hclose others hothers)
  | some r =>
      refine .skip fun comma => ?_
      split
      · exact .bind (.maybe (yields_parameterList [])) fun others hothers =>
          .skip fun _ => .pure (hclose others hothers)
      · exact .bind (P := (· = none)) (.pure rfl) fun others hnone =>
          .skip fun _ => .pure (hclose others (by simp [hnone]))

end

end Parser

end BridgeTypings.Java
