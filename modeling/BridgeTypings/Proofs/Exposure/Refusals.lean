import BridgeTypings.Proofs.Exposure
import BridgeTypings.Proofs.Java.Void

namespace BridgeTypings.Exposure

open Java Outcome

def Item.HasVoid : Item → Prop
  | .field t _ => t.HasVoid
  | .method m => (m.returns ≠ .void ∧ m.returns.HasVoid) ∨
      ∃ p ∈ m.parameters.filterMap declared?, p.1.HasVoid

theorem failsIff_readReturn (m : Java.Method) :
    FailsIff voidError (m.returns ≠ .void ∧ m.returns.HasVoid) (readReturn m) := by
  unfold readReturn
  split
  · next hvoid => exact (FailsIff.ok none).congr (by simp [hvoid])
  · next hne => exact ((failsIff_read m.returns).map some).congr (and_iff_right hne).symm

theorem failsIff_readParameters (acc : OrderedMap Parameter) (parameters : List Java.Parameter) :
    FailsIff voidError (∃ p ∈ parameters.filterMap declared?, p.1.HasVoid)
      (readParameters acc parameters) := by
  rw [readParameters_eq]
  have hread (p : TypeSyntax × Declarator × Bool) :
      FailsIff voidError p.1.HasVoid (readParameter p) :=
    (failsIff_readDeclared p.1 p.2.1).map fun type => (p.2.1.name, Parameter.mk type p.2.2)
  exact (FailsIff.mapM fun p _ => hread p).map acc.insertAll

theorem Item.failsIff_read (i : Item) : FailsIff voidError i.HasVoid i.read := by
  cases i with
  | field t d => exact (failsIff_readDeclared t d).map fun type => (d.name, Attribute.field type)
  | method m =>
      have hmethod := (failsIff_readReturn m).bind fun returns =>
        (failsIff_readParameters .empty m.parameters).map (Method.mk returns)
      exact hmethod.map fun r => (m.name, Attribute.method r)

theorem failsIff_readHeading (heading : Heading) :
    FailsIff voidError (∃ t ∈ heading.types, t.HasVoid) (readHeading heading) := by
  rcases heading with ⟨_ | superclass, interfaces⟩ | parents
  · exact (failsIff_readTypes interfaces).map fun types => (Kind.classKind types, none)
  · have htypes := (Java.failsIff_read superclass).bind fun t =>
      (failsIff_readTypes interfaces).map fun types => (Kind.classKind types, some t)
    exact htypes.congr (by simp [Heading.types])
  · exact (failsIff_readTypes parents).map fun types => (Kind.interfaceKind, types.head?)

theorem failsIff_declaration (markers : Markers) (d : TypeDeclaration) :
    FailsIff voidError
      ((∃ t ∈ d.heading.types, t.HasVoid) ∨ ∃ i ∈ items markers d.members, i.HasVoid)
      (declaration markers d).result := by
  rw [result_declaration]
  exact (failsIff_readHeading d.heading).bind fun heading =>
    (FailsIff.mapM fun i _ => Item.failsIff_read i).map (Declaration.mk heading.1 heading.2)

inductive ReadsVoid (markers : Markers) (d : TypeDeclaration) : Prop
  | superclass {t : TypeSyntax} {interfaces : List TypeSyntax} :
      d.heading = .classHeading (some t) interfaces → t.HasVoid → ReadsVoid markers d
  | implemented {superclass : Option TypeSyntax} {interfaces : List TypeSyntax} {t : TypeSyntax} :
      d.heading = .classHeading superclass interfaces → t ∈ interfaces → t.HasVoid →
      ReadsVoid markers d
  | extended {parents : List TypeSyntax} {t : TypeSyntax} :
      d.heading = .interfaceHeading parents → t ∈ parents → t.HasVoid → ReadsVoid markers d
  | field {names : List AnnotationName} {t : TypeSyntax} {declarator : Declarator} :
      .field ⟨names, t, [declarator]⟩ ∈ d.members → isMarked names markers.field = true →
      t.HasVoid → ReadsVoid markers d
  | returned {m : Java.Method} :
      .method m ∈ d.members → isMarked m.annotations markers.method = true → m.returns ≠ .void →
      m.returns.HasVoid → ReadsVoid markers d
  | parameter {m : Java.Method} {t : TypeSyntax} {declarator : Declarator} :
      .method m ∈ d.members → isMarked m.annotations markers.method = true →
      .formal t declarator ∈ m.parameters ∨ .spread t declarator ∈ m.parameters → t.HasVoid →
      ReadsVoid markers d

theorem mem_items_field_iff {markers : Markers} {members : List Member} {t : TypeSyntax}
    {d : Declarator} :
    .field t d ∈ items markers members ↔
      ∃ names, .field ⟨names, t, [d]⟩ ∈ members ∧ isMarked names markers.field = true := by
  rw [items, List.mem_filterMap]
  constructor
  · rintro ⟨m, hm, hitem⟩
    unfold item? at hitem
    split at hitem
    · next names t' d' =>
        split at hitem
        · next hmarked =>
            cases hitem
            exact ⟨names, hm, hmarked⟩
        · cases hitem
    · split at hitem <;> cases hitem
    · cases hitem
  · rintro ⟨names, hm, hmarked⟩
    exact ⟨_, hm, by rw [item?, if_pos hmarked]⟩

theorem mem_items_method_iff {markers : Markers} {members : List Member} {s : Java.Method} :
    .method s ∈ items markers members ↔
      ∃ m, .method m ∈ members ∧ isMarked m.annotations markers.method = true ∧ signature m = s := by
  rw [items, List.mem_filterMap]
  constructor
  · rintro ⟨member, hmember, hitem⟩
    unfold item? at hitem
    split at hitem
    · split at hitem <;> cases hitem
    · next m =>
        split at hitem
        · next hmarked =>
            cases hitem
            exact ⟨m, hmember, hmarked, rfl⟩
        · cases hitem
    · cases hitem
  · rintro ⟨m, hm, hmarked, rfl⟩
    exact ⟨_, hm, by rw [item?, if_pos hmarked]⟩

theorem mem_declared_iff {parameters : List Java.Parameter} {t : TypeSyntax} :
    (∃ p ∈ parameters.filterMap declared?, p.1 = t) ↔
      ∃ d, .formal t d ∈ parameters ∨ .spread t d ∈ parameters := by
  simp only [List.mem_filterMap]
  constructor
  · rintro ⟨_, ⟨p, hp, hdeclared⟩, rfl⟩
    cases p with
    | formal t d =>
        cases hdeclared
        exact ⟨d, .inl hp⟩
    | spread t d =>
        cases hdeclared
        exact ⟨d, .inr hp⟩
    | receiver => cases hdeclared
  · rintro ⟨d, hp | hp⟩
    · exact ⟨_, ⟨_, hp, rfl⟩, rfl⟩
    · exact ⟨_, ⟨_, hp, rfl⟩, rfl⟩

theorem readsVoid_of_heading {markers : Markers} {d : TypeDeclaration} {t : TypeSyntax}
    (ht : t ∈ d.heading.types) (hvoid : t.HasVoid) : ReadsVoid markers d := by
  cases hheading : d.heading with
  | classHeading superclass interfaces =>
      rw [hheading, Heading.types, List.mem_append, Option.mem_toList] at ht
      rcases ht with ht | ht
      · rw [Option.mem_def.1 ht] at hheading
        exact .superclass hheading hvoid
      · exact .implemented hheading ht hvoid
  | interfaceHeading parents =>
      rw [hheading] at ht
      exact .extended hheading ht hvoid

theorem readsVoid_of_item {markers : Markers} {d : TypeDeclaration} {i : Item}
    (hi : i ∈ items markers d.members) (hvoid : i.HasVoid) : ReadsVoid markers d := by
  cases i with
  | field t declarator =>
      obtain ⟨names, hfield, hmarked⟩ := mem_items_field_iff.1 hi
      exact .field hfield hmarked hvoid
  | method s =>
      obtain ⟨m, hm, hmarked, rfl⟩ := mem_items_method_iff.1 hi
      rcases hvoid with ⟨hne, hreturns⟩ | ⟨p, hp, hparameter⟩
      · exact .returned hm hmarked hne hreturns
      · obtain ⟨declarator, hdeclared⟩ := mem_declared_iff.1 ⟨p, hp, rfl⟩
        exact .parameter hm hmarked hdeclared hparameter

theorem readsVoid_iff {markers : Markers} {d : TypeDeclaration} :
    ReadsVoid markers d ↔
      (∃ t ∈ d.heading.types, t.HasVoid) ∨ ∃ i ∈ items markers d.members, i.HasVoid := by
  constructor
  · intro h
    cases h with
    | superclass hheading hvoid => exact .inl ⟨_, by simp [hheading, Heading.types], hvoid⟩
    | implemented hheading ht hvoid => exact .inl ⟨_, by simp [hheading, Heading.types, ht], hvoid⟩
    | extended hheading ht hvoid => exact .inl ⟨_, by simp [hheading, Heading.types, ht], hvoid⟩
    | field hfield hmarked hvoid =>
        exact .inr ⟨_, mem_items_field_iff.2 ⟨_, hfield, hmarked⟩, hvoid⟩
    | returned hm hmarked hne hvoid =>
        exact .inr ⟨_, mem_items_method_iff.2 ⟨_, hm, hmarked, rfl⟩, .inl ⟨hne, hvoid⟩⟩
    | parameter hm hmarked hdeclared hvoid =>
        obtain ⟨p, hp, rfl⟩ := mem_declared_iff.2 ⟨_, hdeclared⟩
        exact .inr ⟨_, mem_items_method_iff.2 ⟨_, hm, hmarked, rfl⟩, .inr ⟨p, hp, hvoid⟩⟩
  · rintro (⟨t, ht, hvoid⟩ | ⟨i, hi, hvoid⟩)
    · exact readsVoid_of_heading ht hvoid
    · exact readsVoid_of_item hi hvoid

inductive Refuses (markers : Markers) (text : String) : Error → Prop
  | syntaxError : Source.parse text = none → Refuses markers text (.parse "")
  | noDeclaration {source : Source} :
      Source.parse text = some source → source.preorder = [] →
      Refuses markers text (.noDeclaration "")
  | void {source : Source} {first : TypeDeclaration} {others : List TypeDeclaration} :
      Source.parse text = some source → source.preorder = first :: others →
      ReadsVoid markers first → Refuses markers text (.unsupportedType "" "void")

theorem failsIff_collect {text : String} {source : Source} {first : TypeDeclaration}
    {others : List TypeDeclaration} (hparse : Source.parse text = some source)
    (hfirst : source.preorder = first :: others) (markers : Markers) :
    FailsIff voidError (ReadsVoid markers first) (collect text markers).result := by
  rw [result_collect hparse hfirst]
  exact ((failsIff_declaration markers first).congr readsVoid_iff.symm).map (Prod.mk first.name)

theorem result_collect_unparsed {text : String} (hparse : Source.parse text = none)
    (markers : Markers) : (collect text markers).result = .error (.parse "") := by
  unfold collect
  rw [hparse]
  rfl

theorem result_collect_undeclared {text : String} {source : Source}
    (hparse : Source.parse text = some source) (hnone : source.preorder = [])
    (markers : Markers) : (collect text markers).result = .error (.noDeclaration "") := by
  unfold collect
  simp only [hparse, hnone]
  rfl

theorem refuses_of_error {markers : Markers} {text : String} {e : Error}
    (h : (collect text markers).result = .error e) : Refuses markers text e := by
  cases hparse : Source.parse text with
  | none =>
      rw [result_collect_unparsed hparse] at h
      cases h
      exact .syntaxError hparse
  | some source =>
      cases hfirst : source.preorder with
      | nil =>
          rw [result_collect_undeclared hparse hfirst] at h
          cases h
          exact .noDeclaration hparse hfirst
      | cons first others =>
          obtain ⟨hvoid, rfl⟩ := (failsIff_collect hparse hfirst markers).error_iff.1 h
          exact .void hparse hfirst hvoid

end BridgeTypings.Exposure
