import BridgeTypings.Java.Keyword
import BridgeTypings.Java.Lexical
import BridgeTypings.Java.Syntax
import BridgeTypings.Proofs.Java.Gaps

namespace BridgeTypings.Java

def isIdentifier (name : String) : Bool :=
  match name.toList with
  | [] => false
  | c :: cs => isNameStart c && cs.all isNameChar

theorem isNameChar_of_isNameStart {c : Char} (h : isNameStart c = true) : isNameChar c = true := by
  simp only [isNameStart, isNameChar, Bool.or_eq_true] at h ⊢
  rcases h with (h | h) | h
  · exact .inl (.inl (.inl (Text.isXidContinue_of_isXidStart h)))
  · exact .inl (.inl (.inr h))
  · exact .inl (.inr h)

theorem exists_toList_eq {name : String} (h : isIdentifier name = true) :
    ∃ c cs, name.toList = c :: cs ∧ isNameStart c = true ∧ ∀ d ∈ cs, isNameChar d = true := by
  unfold isIdentifier at h
  cases hchars : name.toList with
  | nil => simp [hchars] at h
  | cons c cs =>
      rw [hchars] at h
      simp only [Bool.and_eq_true, List.all_eq_true] at h
      exact ⟨c, cs, rfl, h.1, h.2⟩

theorem isNameChar_of_mem {name : String} (h : isIdentifier name = true) :
    ∀ c ∈ name.toList, isNameChar c = true := by
  obtain ⟨first, rest, hchars, hstart, hrest⟩ := exists_toList_eq h
  intro c hc
  rw [hchars] at hc
  rcases List.mem_cons.1 hc with rfl | hc
  · exact isNameChar_of_isNameStart hstart
  · exact hrest c hc

theorem isIdentifier_of_word {cs rest : List Char} {w : String} (h : word? cs = some (w, rest)) :
    isIdentifier w = true := by
  cases cs with
  | nil => cases h
  | cons c more =>
      simp only [word?] at h
      split at h
      · next hstart =>
          cases h
          simp [isIdentifier, hstart]
      · cases h

inductive DottedName : List Char → String → List Char → Prop
  | single {w : String} : isIdentifier w = true → DottedName w.toList w []
  | dotted {text before gap behind : List Char} {v w : String} :
      DottedName text v before → IsGap gap → IsGap behind → isIdentifier w = true →
      DottedName (text ++ gap ++ '.' :: (behind ++ w.toList)) w behind

def IsDotted (name : AnnotationName) : Prop :=
  ∃ last gap, DottedName name.toList last gap

def Brackets.Proper (b : Brackets) : Prop :=
  b.size = none

inductive TypeSyntax.Proper : TypeSyntax → Prop
  | void : Proper .void
  | primitive {name : String} : name ∈ Keyword.primitives → Proper (.primitive name)
  | dotted {first : Segment} {rest : List Segment} :
      (∀ s ∈ first :: rest, isIdentifier s.name = true) →
      (∀ s ∈ first :: rest, ∀ types ∈ s.arguments, ∀ t ∈ types, Proper t) →
      Proper (.dotted first rest)
  | array {element : TypeSyntax} {brackets : List Brackets} :
      Proper element → (∀ b ∈ brackets, b.Proper) → Proper (.array element brackets)
  | annotated {names : List AnnotationName} {type : TypeSyntax} :
      Proper type → Proper (.annotated names type)
  | wildcard {names : List AnnotationName} {bound : Option TypeSyntax} :
      (∀ t ∈ bound, Proper t) → Proper (.wildcard names bound)

structure Segment.Proper (s : Segment) : Prop where
  name : isIdentifier s.name = true
  arguments : ∀ types ∈ s.arguments, ∀ t ∈ types, t.Proper

theorem TypeSyntax.Proper.of_segments {first : Segment} {rest : List Segment}
    (hfirst : first.Proper) (hrest : ∀ s ∈ rest, s.Proper) :
    (TypeSyntax.dotted first rest).Proper :=
  .dotted (List.forall_mem_cons.2 ⟨hfirst.name, fun s hs => (hrest s hs).name⟩)
    (List.forall_mem_cons.2 ⟨hfirst.arguments, fun s hs => (hrest s hs).arguments⟩)

structure Declarator.Proper (d : Declarator) : Prop where
  name : isIdentifier d.name = true
  brackets : ∀ b ∈ d.brackets, b.Proper

structure Field.Proper (f : Field) : Prop where
  annotations : ∀ n ∈ f.annotations, IsDotted n
  type : f.type.Proper
  declarators : ∀ d ∈ f.declarators, d.Proper

def Parameter.Proper : Parameter → Prop
  | .formal t d => t.Proper ∧ d.Proper
  | .spread t d => t.Proper ∧ d.Proper
  | .receiver => True

structure Method.Proper (m : Method) : Prop where
  annotations : ∀ n ∈ m.annotations, IsDotted n
  returns : m.returns.Proper
  name : isIdentifier m.name = true
  parameters : ∀ p ∈ m.parameters, p.Proper
  brackets : ∀ b ∈ m.brackets, b.Proper

def Member.Proper : Member → Prop
  | .field f => f.Proper
  | .method m => m.Proper
  | .other => True

def Heading.types : Heading → List TypeSyntax
  | .classHeading superclass interfaces => superclass.toList ++ interfaces
  | .interfaceHeading parents => parents

inductive TypeDeclaration.Proper : TypeDeclaration → Prop
  | mk {heading : Heading} {name : String} {members : List Member}
      {nested : List TypeDeclaration} :
      (∀ t ∈ heading.types, t.Proper) → isIdentifier name = true → (∀ m ∈ members, m.Proper) →
      (∀ d ∈ nested, Proper d) → Proper (.mk heading name members nested)

theorem TypeDeclaration.Proper.members {d : TypeDeclaration} (h : d.Proper) :
    ∀ m ∈ d.members, m.Proper := by
  cases h with
  | mk _ _ hmembers _ => exact hmembers

end BridgeTypings.Java
