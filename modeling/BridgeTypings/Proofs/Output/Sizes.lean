import BridgeTypings.Proofs.Java.Shape
import BridgeTypings.Proofs.Outcome
import BridgeTypings.Proofs.Output.Outline

namespace BridgeTypings

open Outcome

def Dimension.size? : Dimension → Option String
  | .unsized => none
  | .sized text => some text

theorem Dimension.mem_sizes_iff {ds : List Dimension} {text : String} :
    text ∈ ds.filterMap size? ↔ .sized text ∈ ds := by
  rw [List.mem_filterMap]
  constructor
  · rintro ⟨d, hd, hsize⟩
    cases d with
    | unsized => cases hsize
    | sized size =>
        cases hsize
        exact hd
  · intro h
    exact ⟨_, h, rfl⟩

namespace TypeExpr

def sizes (t : TypeExpr) : List String :=
  t.nodes.flatMap (fun s => s.dimensions.filterMap Dimension.size?)

theorem mem_sizes_iff {t : TypeExpr} {text : String} :
    text ∈ t.sizes ↔ ∃ s ∈ t.nodes, .sized text ∈ s.dimensions := by
  simp only [sizes, List.mem_flatMap, Dimension.mem_sizes_iff]

theorem sizes_named (name : String) (arguments : Option (List TypeExpr))
    (qualifier : Option TypeExpr) (dimensions : List Dimension) :
    (TypeExpr.named name arguments qualifier dimensions).sizes =
      arguments.toList.flatMap (List.flatMap sizes) ++ (qualifier.toList.flatMap sizes ++
        dimensions.filterMap Dimension.size?) := by
  have harguments (types : List TypeExpr) : types.flatMap sizes =
      (types.flatMap nodes).flatMap (fun s => s.dimensions.filterMap Dimension.size?) :=
    List.flatMap_assoc.symm
  cases arguments <;> cases qualifier <;>
    simp [sizes, nodes, clauseNodes, argumentNodes_eq, qualifierNodes, harguments,
      TypeExpr.dimensions]

theorem isUnsized_iff {t : TypeExpr} : t.IsUnsized ↔ t.sizes = [] := by
  rw [IsUnsized, everywhere_iff_nodes, List.eq_nil_iff_forall_not_mem]
  simp only [mem_sizes_iff]
  constructor
  · rintro h text ⟨s, hs, hsized⟩
    cases h s hs _ hsized
  · intro h s hs d hd
    cases d with
    | unsized => rfl
    | sized text => exact absurd ⟨s, hs, hd⟩ (h text)

end TypeExpr

namespace Renderer

variable (r : Renderer)

theorem renderTypes_eq (types : List TypeExpr) : r.renderTypes types = types.mapM r.renderType := by
  induction types with
  | nil => rfl
  | cons t rest ih => simp only [Renderer.renderTypes, List.mapM_cons, ih]

theorem failsFirst_renderDimensions (ds : List Dimension) :
    FailsFirst Error.sizedDimension (ds.filterMap Dimension.size?) (renderDimensions ds) := by
  induction ds with
  | nil => exact .ok _
  | cons d rest ih =>
      cases d with
      | unsized => exact ih.map ("[]" ++ ·)
      | sized text => exact ⟨text, rfl, rfl⟩

theorem failsFirst_renderType (t : TypeExpr) :
    FailsFirst Error.sizedDimension t.sizes (r.renderType t) := by
  induction t using TypeExpr.ind with
  | primitive name dimensions =>
      have hsizes : (TypeExpr.primitive name dimensions).sizes =
          dimensions.filterMap Dimension.size? := List.append_nil _
      rw [hsizes]
      exact (failsFirst_renderDimensions dimensions).map (r.spelling name ++ ·)
  | named name arguments qualifier dimensions iharguments ihqualifier =>
      have hclause : FailsFirst Error.sizedDimension
          (arguments.toList.flatMap (List.flatMap TypeExpr.sizes)) (r.renderClause arguments) := by
        cases arguments with
        | none => exact .ok _
        | some types =>
            rw [renderClause, renderTypes_eq, Option.toList_some, List.flatMap_singleton]
            exact (FailsFirst.mapM (iharguments types rfl)).map
              fun texts => "<" ++ ", ".intercalate texts ++ ">"
      have hqualifier : FailsFirst Error.sizedDimension
          (qualifier.toList.flatMap TypeExpr.sizes) (r.renderQualifier qualifier) := by
        cases qualifier with
        | none => exact .ok _
        | some q =>
            rw [renderQualifier, Option.toList_some, List.flatMap_singleton]
            exact (ihqualifier q rfl).map ("." ++ ·)
      rw [TypeExpr.sizes_named, renderType]
      exact hclause.bind fun clause => hqualifier.bind fun inner =>
        (failsFirst_renderDimensions dimensions).map (r.spelling name ++ clause ++ inner ++ ·)

theorem failsFirst_render (t? : Option TypeExpr) :
    FailsFirst Error.sizedDimension (t?.toList.flatMap TypeExpr.sizes) (r.render t?) := by
  cases t? with
  | none => exact .ok _
  | some t =>
      rw [Option.toList_some, List.flatMap_singleton]
      exact r.failsFirst_renderType t

end Renderer

namespace Emission

def rendered (declarations : Declarations) (entries : EntryPoints) : List TypeExpr :=
  declarations.entries.flatMap (fun e => e.2.types) ++ entries.entries.map Prod.snd

variable (r : Renderer) (declarations : Declarations)

theorem failsFirst_memberOutline (a : String × Attribute) :
    FailsFirst Error.sizedDimension (a.2.types.flatMap TypeExpr.sizes) (memberOutline r a) := by
  obtain ⟨name, item⟩ := a
  cases item with
  | field t =>
      rw [Attribute.types, List.flatMap_singleton]
      exact (r.failsFirst_renderType t).map (MemberOutline.field name)
  | method m =>
      have hparameter (p : String × Parameter) :
          FailsFirst Error.sizedDimension p.2.type.sizes (parameterOutline r p) :=
        (r.failsFirst_renderType p.2.type).map (ParameterOutline.mk p.1 p.2.variadic)
      have hparameters := FailsFirst.mapM (l := m.parameters.entries) fun p _ => hparameter p
      rw [Attribute.types, List.flatMap_append, List.flatMap_map]
      exact hparameters.bind fun parameters =>
        (r.failsFirst_render m.returns).map (MemberOutline.method name parameters)

theorem failsFirst_retained (types : List TypeExpr) :
    FailsFirst Error.sizedDimension (types.flatMap TypeExpr.sizes)
      (retained r declarations types) :=
  (FailsFirst.mapM fun t _ => r.failsFirst_renderType t).map (List.filter declarations.contains)

theorem failsFirst_declarationOutline (e : String × Declaration) :
    FailsFirst Error.sizedDimension (e.2.types.flatMap TypeExpr.sizes)
      (declarationOutline r declarations e) := by
  have hmembers := FailsFirst.mapM (l := e.2.attributes) fun a _ => failsFirst_memberOutline r a
  rw [Declaration.types, List.append_assoc, List.flatMap_append, List.flatMap_append,
    List.flatMap_assoc]
  exact (failsFirst_retained r declarations e.2.extends?.toList).bind fun parents =>
    (failsFirst_retained r declarations e.2.implements).bind fun implements =>
      hmembers.map (DeclarationOutline.mk e.2.kind.keyword e.1 parents implements)

theorem failsFirst_emit (entries : EntryPoints) :
    FailsFirst Error.sizedDimension ((rendered declarations entries).flatMap TypeExpr.sizes)
      (emit r declarations entries).result := by
  have hdeclarations := FailsFirst.mapM (l := declarations.entries)
    fun e _ => failsFirst_declarationOutline r declarations e
  have hentry (e : String × TypeExpr) :
      FailsFirst Error.sizedDimension e.2.sizes (entryOutline r e) :=
    (r.failsFirst_renderType e.2).map (EntryOutline.mk e.1)
  have hentries := FailsFirst.mapM (l := entries.entries) fun e _ => hentry e
  rw [result_emit, rendered, List.flatMap_append, List.flatMap_assoc, List.flatMap_map]
  exact (hdeclarations.bind fun described => hentries.map (Outline.mk described)).map Outline.text

theorem emit_ok {declarations : Declarations} {entries : EntryPoints}
    (hdeclarations : ∀ e ∈ declarations.entries, ∀ t ∈ e.2.types, t.IsUnsized)
    (hentries : ∀ e ∈ entries.entries, e.2.IsUnsized) :
    ∃ output, (emit r declarations entries).result = .ok output := by
  refine (failsFirst_emit r declarations entries).ok_iff.2
    (List.flatMap_eq_nil_iff.2 fun t ht => ?_)
  rw [← TypeExpr.isUnsized_iff]
  rcases List.mem_append.1 ht with ht | ht
  · obtain ⟨e, he, ht⟩ := List.mem_flatMap.1 ht
    exact hdeclarations e he t ht
  · obtain ⟨e, he, rfl⟩ := List.mem_map.1 ht
    exact hentries e he

theorem emit_sized_iff (entries : EntryPoints) :
    ((∃ e, (emit r declarations entries).result = .error e) ↔
        ∃ t ∈ rendered declarations entries, ∃ s ∈ t.nodes, ∃ text, .sized text ∈ s.dimensions) ∧
      ∀ e, (emit r declarations entries).result = .error e ↔ ∃ text,
        ((rendered declarations entries).flatMap TypeExpr.sizes).head? = some text ∧
          e = .sizedDimension text := by
  have hfails := failsFirst_emit r declarations entries
  refine ⟨?_, fun e => hfails.error_iff⟩
  constructor
  · rintro ⟨e, he⟩
    obtain ⟨text, hfirst, -⟩ := hfails.error_iff.1 he
    obtain ⟨t, ht, htext⟩ := List.mem_flatMap.1 (List.mem_of_mem_head? hfirst)
    obtain ⟨s, hs, hsized⟩ := TypeExpr.mem_sizes_iff.1 htext
    exact ⟨t, ht, s, hs, text, hsized⟩
  · rintro ⟨t, ht, s, hs, text, hsized⟩
    have htext := List.mem_flatMap.2 ⟨t, ht, TypeExpr.mem_sizes_iff.2 ⟨s, hs, hsized⟩⟩
    obtain ⟨first, hfirst⟩ := Option.isSome_iff_exists.1
      (List.isSome_head?.2 (List.ne_nil_of_mem htext))
    exact ⟨_, hfails.error_iff.2 ⟨first, hfirst, rfl⟩⟩

end Emission

end BridgeTypings
