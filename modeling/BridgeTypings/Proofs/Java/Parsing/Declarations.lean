import BridgeTypings.Java.Parser.Declaration
import BridgeTypings.Proofs.Java.Parsing.Expressions
import BridgeTypings.Proofs.Java.Parsing.Names

set_option synthInstance.maxSize 100000

namespace BridgeTypings.Java.Parser

open Text.Parser

def Declared.Proper : Declared → Prop
  | .type heading n members =>
      (∀ t ∈ heading.types, t.Proper) ∧ isIdentifier n = true ∧ ∀ m ∈ members, m.Proper
  | .member m => m.Proper

theorem finds_reported {p : Parser Declared} [FindsProper p] (h : Yields Declared.Proper p) :
    FindsProper (reported p) := by
  unfold reported
  have hcapture := Yields.capture (F := TypeDeclaration.Proper) h
  refine Finds.bind finds_capture hcapture fun ⟨declared, nested⟩ hproper => ?_
  obtain ⟨hdeclared, hnested⟩ := hproper
  cases declared with
  | type heading n members =>
      obtain ⟨hheading, hname, hmembers⟩ := hdeclared
      have hreport : FindsProper (report [TypeDeclaration.mk heading n members nested]) :=
        finds_report (by simpa using .mk hheading hname hmembers hnested)
      infer_instance
  | member m =>
      have hreport : FindsProper (report nested) := finds_report hnested
      infer_instance

theorem yields_reported {p : Parser Declared} [FindsProper p] (h : Yields Declared.Proper p) :
    Yields Member.Proper (reported p) := by
  have hcapture := Yields.capture (F := TypeDeclaration.Proper) h
  refine .bind hcapture fun ⟨declared, nested⟩ hproper => ?_
  cases declared with
  | type heading n members => exact .skip fun _ => .pure trivial
  | member m => exact .skip fun _ => .pure hproper.1

variable (inner : Nested) [inner.Sound]

instance finds_interfaces : FindsProper (interfaces inner) := by
  unfold interfaces
  infer_instance

instance finds_permits : FindsProper (permits inner) := by
  unfold permits
  infer_instance

instance finds_throws : FindsProper (throws inner) := by
  unfold throws
  infer_instance

instance finds_typeRest (kind : Body) : FindsProper (typeRest inner kind) := by
  unfold typeRest classRest interfaceRest enumRest enumConstant recordRest annotationTypeRest
  infer_instance

instance finds_constructorMember : FindsProper (constructorMember inner) := by
  unfold constructorMember constructorBody constructorCall
  infer_instance

instance finds_compactConstructor : FindsProper (compactConstructor inner) := by
  unfold compactConstructor
  infer_instance

instance finds_methodRest (names : List AnnotationName) (returns : TypeSyntax) (n : String) :
    FindsProper (methodRest inner names returns n) := by
  unfold methodRest
  infer_instance

instance finds_elementRest : FindsProper (elementRest inner) := by
  unfold elementRest
  infer_instance

instance finds_genericMethod (names : List AnnotationName) :
    FindsProper (genericMethod inner names) := by
  unfold genericMethod
  infer_instance

instance finds_typedMember (kind : Body) (names : List AnnotationName) (keywords : List String) :
    FindsProper (typedMember inner kind names keywords) := by
  unfold typedMember
  infer_instance

instance finds_memberRest (kind : Body) (names : List AnnotationName) :
    FindsProper (memberRest inner kind names) := by
  unfold memberRest
  infer_instance

instance finds_classBlock : FindsProper (classBlock inner) := by
  unfold classBlock
  infer_instance

section

variable {inner}

theorem yields_body (kind : Body) : Yields (fun ms => ∀ m ∈ ms, m.Proper) (inner.body kind) :=
  .skip fun _ => .bind (Nested.Sound.members kind) fun _ hms => .skip fun _ => .pure hms

theorem yields_interfaces :
    Yields (fun types => ∀ t ∈ types, t.Proper) (interfaces inner) := by
  refine .bind (.maybe (.skip fun _ => yields_typeList)) fun types htypes => .pure ?_
  cases types with
  | none => simp
  | some types => exact htypes types rfl

theorem yields_classRest : Yields Declared.Proper (classRest inner) := by
  refine .bind yields_word fun n hn => .skip fun _ =>
    .bind (.maybe (.skip fun _ => yields_type [])) fun superclass hsuper =>
      .bind yields_interfaces fun types htypes => .skip fun _ =>
        .bind (yields_body .classType) fun members hmembers => .pure ⟨?_, hn, hmembers⟩
  intro t ht
  rcases List.mem_append.1 ht with ht | ht
  · exact hsuper t (by simpa using ht)
  · exact htypes t ht

theorem yields_interfaceRest : Yields Declared.Proper (interfaceRest inner) := by
  refine .bind yields_word fun n hn => .skip fun _ =>
    .bind (.maybe (.skip fun _ => yields_typeList)) fun parents hparents => .skip fun _ =>
      .bind (yields_body .interfaceType) fun members hmembers => .pure ⟨?_, hn, hmembers⟩
  cases parents with
  | none => simp [Heading.types]
  | some types => exact hparents types rfl

theorem yields_typeRest (kind : Body) : Yields Declared.Proper (typeRest inner kind) := by
  refine .orElse (.skip fun _ => yields_classRest) <|
    .orElse (.skip fun _ => yields_interfaceRest) <|
      .orElse (.skip fun _ => ?enum) <| .orElse (.skip fun _ => .skip fun _ => ?record) <|
        .skip fun _ => ?marker
  case enum =>
    exact .skip fun _ => .skip fun _ => .skip fun _ => .skip fun _ => .skip fun _ =>
      .skip fun _ => .pure trivial
  case record =>
    exact .skip fun _ => .skip fun _ => .skip fun _ => .skip fun _ => .skip fun _ => .pure trivial
  case marker => exact .skip fun _ => .skip fun _ => .pure trivial

theorem yields_methodRest {names : List AnnotationName} (hnames : ∀ n ∈ names, IsDotted n)
    {returns : TypeSyntax} {n : String} (hreturns : returns.Proper)
    (hn : isIdentifier n = true) : Yields Declared.Proper (methodRest inner names returns n) :=
  .bind (yields_formalParameters []) fun _ hparameters => .bind yields_brackets fun _ hpairs =>
    .skip fun _ => .skip fun _ => .pure ⟨hnames, hreturns, hn, hparameters, hpairs⟩

theorem yields_genericMethod {names : List AnnotationName} (hnames : ∀ n ∈ names, IsDotted n) :
    Yields Declared.Proper (genericMethod inner names) :=
  .skip fun _ => .skip fun _ => .bind (yields_bareType []) fun _ ht =>
    .bind yields_word fun _ hn => yields_methodRest hnames ht hn

theorem yields_typedMember (kind : Body) {names : List AnnotationName}
    (hnames : ∀ n ∈ names, IsDotted n) (keywords : List String) :
    Yields Declared.Proper (typedMember inner kind names keywords) := by
  refine .bind (yields_bareType keywords) fun t ht => .skip fun method => ?_
  split
  · refine .bind yields_word fun n hn => ?_
    split
    · exact .skip fun _ => .skip fun _ => .skip fun _ => .skip fun _ => .skip fun _ => .pure trivial
    · exact yields_methodRest hnames ht hn
  · exact .bind (yields_declarators []) fun _ hds => .skip fun _ => .pure ⟨hnames, ht, hds⟩

omit [inner.Sound] in
theorem yields_constructorMember : Yields Declared.Proper (constructorMember inner) :=
  .skip fun _ => .skip fun _ => .skip fun _ => .skip fun _ => .skip fun _ => .pure trivial

omit [inner.Sound] in
theorem yields_compactConstructor : Yields Declared.Proper (compactConstructor inner) :=
  .skip fun _ => .skip fun _ => .pure trivial

theorem yields_memberRest (kind : Body) {names : List AnnotationName}
    (hnames : ∀ n ∈ names, IsDotted n) :
    Yields Declared.Proper (memberRest inner kind names) := by
  refine .skip fun declares => ?_
  split
  · exact yields_typeRest kind
  split
  · exact .orElse yields_constructorMember <| .orElse yields_compactConstructor <|
      .orElse (yields_genericMethod hnames) (yields_typedMember kind hnames _)
  split
  · exact .orElse (yields_genericMethod hnames) (yields_typedMember kind hnames _)
  · exact yields_typedMember kind hnames _

theorem yields_memberForm (kind : Body) :
    Yields Declared.Proper
      ((do Text.Parser.require (kind = .classType); classBlock inner)
        <|> (do symbol ";"; return .member .other)
        <|> (do memberRest inner kind (← modifiers inner true))) :=
  .orElse (.skip fun _ => .skip fun _ => .skip fun _ => .pure trivial) <|
    .orElse (.skip fun _ => .pure trivial)
      (.bind (yields_modifiers inner true) fun _ hnames => yields_memberRest kind hnames)

theorem yields_members (kind : Body) :
    Yields (fun ms => ∀ m ∈ ms, m.Proper) (members inner kind) :=
  .many (yields_reported (yields_memberForm kind))

end

instance finds_members (kind : Body) : FindsProper (members inner kind) := by
  have hmember : FindsProper (member inner kind) := finds_reported (yields_memberForm kind)
  unfold members
  infer_instance

end BridgeTypings.Java.Parser
