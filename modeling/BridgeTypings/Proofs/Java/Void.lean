import BridgeTypings.Java.TypeReading
import BridgeTypings.Proofs.Outcome

namespace BridgeTypings.Java

open Outcome

theorem TypeSyntax.ind {motive : TypeSyntax → Prop} (void : motive .void)
    (primitive : ∀ name, motive (.primitive name))
    (dotted : ∀ first rest,
      (∀ s ∈ first :: rest, ∀ types ∈ s.arguments, ∀ t ∈ types, motive t) →
      motive (.dotted first rest))
    (array : ∀ element brackets, motive element → motive (.array element brackets))
    (annotated : ∀ names type, motive type → motive (.annotated names type))
    (wildcard : ∀ names bound, (∀ t ∈ bound, motive t) → motive (.wildcard names bound))
    (t : TypeSyntax) : motive t := by
  refine TypeSyntax.rec (motive_1 := motive)
    (motive_2 := fun s => ∀ types ∈ s.arguments, ∀ t ∈ types, motive t)
    (motive_3 := fun ss => ∀ s ∈ ss, ∀ types ∈ s.arguments, ∀ t ∈ types, motive t)
    (motive_4 := fun bound => ∀ t ∈ bound, motive t)
    (motive_5 := fun types? => ∀ types ∈ types?, ∀ t ∈ types, motive t)
    (motive_6 := fun types => ∀ t ∈ types, motive t)
    void primitive ?_ array annotated wildcard ?_ ?_ ?_ ?_ ?_ ?_ ?_ ?_ ?_ t
  · intro first rest hfirst hrest
    exact dotted first rest (List.forall_mem_cons.2 ⟨hfirst, hrest⟩)
  · intro names name types? h
    exact h
  · exact nofun
  · intro s rest hs hrest
    exact List.forall_mem_cons.2 ⟨hs, hrest⟩
  · exact nofun
  · rintro t ht _ ⟨⟩
    exact ht
  · exact nofun
  · rintro types htypes _ ⟨⟩
    exact htypes
  · exact nofun
  · intro t rest ht hrest
    exact List.forall_mem_cons.2 ⟨ht, hrest⟩

inductive TypeSyntax.HasVoid : TypeSyntax → Prop
  | void : HasVoid .void
  | argument {first s : Segment} {rest : List Segment} {types : List TypeSyntax} {t : TypeSyntax} :
      s ∈ first :: rest → types ∈ s.arguments → t ∈ types → HasVoid t →
      HasVoid (.dotted first rest)
  | element {element : TypeSyntax} {brackets : List Brackets} :
      HasVoid element → HasVoid (.array element brackets)
  | annotated {names : List AnnotationName} {type : TypeSyntax} :
      HasVoid type → HasVoid (.annotated names type)
  | bound {names : List AnnotationName} {t : TypeSyntax} :
      HasVoid t → HasVoid (.wildcard names (some t))

def Segment.HasVoid (s : Segment) : Prop :=
  ∃ types ∈ s.arguments, ∃ t ∈ types, t.HasVoid

theorem hasVoid_dotted {first : Segment} {rest : List Segment} :
    (TypeSyntax.dotted first rest).HasVoid ↔ first.HasVoid ∨ ∃ s ∈ rest, s.HasVoid := by
  constructor
  · rintro (_ | ⟨hs, htypes, ht, hvoid⟩)
    rcases List.mem_cons.1 hs with rfl | hs
    · exact .inl ⟨_, htypes, _, ht, hvoid⟩
    · exact .inr ⟨_, hs, _, htypes, _, ht, hvoid⟩
  · rintro (⟨types, htypes, t, ht, hvoid⟩ | ⟨s, hs, types, htypes, t, ht, hvoid⟩)
    · exact .argument List.mem_cons_self htypes ht hvoid
    · exact .argument (List.mem_cons_of_mem _ hs) htypes ht hvoid

theorem not_hasVoid_primitive (name : String) : ¬ (TypeSyntax.primitive name).HasVoid :=
  nofun

theorem hasVoid_array {element : TypeSyntax} {brackets : List Brackets} :
    (TypeSyntax.array element brackets).HasVoid ↔ element.HasVoid := by
  constructor
  · rintro ⟨⟩
    assumption
  · exact .element

theorem hasVoid_annotated {names : List AnnotationName} {type : TypeSyntax} :
    (TypeSyntax.annotated names type).HasVoid ↔ type.HasVoid := by
  constructor
  · rintro ⟨⟩
    assumption
  · exact .annotated

theorem hasVoid_wildcard {names : List AnnotationName} {t : TypeSyntax} :
    (TypeSyntax.wildcard names (some t)).HasVoid ↔ t.HasVoid := by
  constructor
  · rintro ⟨⟩
    assumption
  · exact .bound

theorem readTypes_eq_mapM (types : List TypeSyntax) :
    readTypes types = types.mapM TypeSyntax.read := by
  induction types with
  | nil => rfl
  | cons t rest ih => rw [readTypes, List.mapM_cons, ih]

theorem readSegments_eq_mapM (segments : List Segment) :
    readSegments segments = segments.mapM Segment.read := by
  induction segments with
  | nil => rfl
  | cons s rest ih => rw [readSegments, List.mapM_cons, ih]

def voidError : Error :=
  .unsupportedType "" "void"

theorem failsIff_segment {s : Segment}
    (h : ∀ types ∈ s.arguments, ∀ t ∈ types, FailsIff voidError t.HasVoid t.read) :
    FailsIff voidError s.HasVoid s.read := by
  obtain ⟨names, name, arguments⟩ := s
  cases arguments with
  | none =>
      rw [Segment.read]
      exact (FailsIff.ok _).congr (by simp [Segment.HasVoid, Segment.arguments])
  | some types =>
      rw [Segment.read, readTypes_eq_mapM]
      have hread := FailsIff.mapM (h types rfl)
      exact (hread.map fun read => NamedSegment.mk name (some read)).congr
        (by simp [Segment.HasVoid, Segment.arguments])

theorem failsIff_read (t : TypeSyntax) : FailsIff voidError t.HasVoid t.read := by
  induction t using TypeSyntax.ind with
  | void => exact ⟨.void, rfl⟩
  | primitive name => exact not_hasVoid_primitive name
  | dotted first rest ih =>
      obtain ⟨hfirst, hrest⟩ := List.forall_mem_cons.1 ih
      rw [TypeSyntax.read, readSegments_eq_mapM]
      have hsegments := FailsIff.mapM fun s hs => failsIff_segment (hrest s hs)
      exact ((failsIff_segment hfirst).bind fun s => hsegments.map (NamedSegment.chain s)).congr
        hasVoid_dotted.symm
  | array element brackets ih =>
      rw [TypeSyntax.read]
      exact (ih.map fun t => t.withDimensions (dimensionsOf brackets)).congr hasVoid_array.symm
  | annotated names type ih =>
      rw [TypeSyntax.read]
      exact ih.congr hasVoid_annotated.symm
  | wildcard names bound ih =>
      cases bound with
      | none => exact nofun
      | some t =>
          rw [TypeSyntax.read]
          exact (ih t rfl).congr hasVoid_wildcard.symm

theorem failsIff_readTypes (types : List TypeSyntax) :
    FailsIff voidError (∃ t ∈ types, t.HasVoid) (readTypes types) := by
  rw [readTypes_eq_mapM]
  exact FailsIff.mapM fun t _ => failsIff_read t

theorem failsIff_readDeclared (type : TypeSyntax) (d : Declarator) :
    FailsIff voidError type.HasVoid (readDeclared type d) :=
  (failsIff_read type).map fun t => t.withDimensions (dimensionsOf d.brackets)

end BridgeTypings.Java
