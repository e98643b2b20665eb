import BridgeTypings.Declaration

namespace BridgeTypings

namespace TypeExpr

theorem ind {motive : TypeExpr → Prop}
    (primitive : ∀ name dimensions, motive (.primitive name dimensions))
    (named : ∀ name arguments qualifier dimensions,
      (∀ types ∈ arguments, ∀ t ∈ types, motive t) → (∀ t ∈ qualifier, motive t) →
      motive (.named name arguments qualifier dimensions))
    (t : TypeExpr) : motive t := by
  refine TypeExpr.rec (motive_1 := motive)
    (motive_2 := fun types? => ∀ types ∈ types?, ∀ t ∈ types, motive t)
    (motive_3 := fun qualifier => ∀ t ∈ qualifier, motive t)
    (motive_4 := fun types => ∀ t ∈ types, motive t)
    primitive named ?_ ?_ ?_ ?_ ?_ ?_ t
  · exact nofun
  · rintro types htypes _ ⟨⟩
    exact htypes
  · exact nofun
  · rintro t ht _ ⟨⟩
    exact ht
  · exact nofun
  · intro t rest ht hrest
    exact List.forall_mem_cons.2 ⟨ht, hrest⟩

mutual

def nodes : TypeExpr → List TypeExpr
  | .primitive name dimensions => [.primitive name dimensions]
  | .named name arguments qualifier dimensions =>
      clauseNodes arguments ++ qualifierNodes qualifier ++
        [.named name arguments qualifier dimensions]

def clauseNodes : Option (List TypeExpr) → List TypeExpr
  | none => []
  | some types => argumentNodes types

def argumentNodes : List TypeExpr → List TypeExpr
  | [] => []
  | t :: rest => nodes t ++ argumentNodes rest

def qualifierNodes : Option TypeExpr → List TypeExpr
  | none => []
  | some t => nodes t

end

def chain : TypeExpr → List TypeExpr
  | .primitive name dimensions => [.primitive name dimensions]
  | .named name arguments none dimensions => [.named name arguments none dimensions]
  | .named name arguments (some q) dimensions =>
      .named name arguments (some q) dimensions :: chain q

inductive Everywhere (P : TypeExpr → Prop) : TypeExpr → Prop
  | primitive {name : String} {dimensions : List Dimension} :
      P (.primitive name dimensions) → Everywhere P (.primitive name dimensions)
  | named {name : String} {arguments : Option (List TypeExpr)} {qualifier : Option TypeExpr}
      {dimensions : List Dimension} :
      P (.named name arguments qualifier dimensions) →
      (∀ types, arguments = some types → ∀ t ∈ types, Everywhere P t) →
      (∀ t, qualifier = some t → Everywhere P t) →
      Everywhere P (.named name arguments qualifier dimensions)

theorem Everywhere.here {P : TypeExpr → Prop} {t : TypeExpr} (h : t.Everywhere P) : P t := by
  cases h with
  | primitive h => exact h
  | named h _ _ => exact h

variable {P : TypeExpr → Prop}

theorem everywhere_named {name : String} {arguments : Option (List TypeExpr)}
    {qualifier : Option TypeExpr} {dimensions : List Dimension} :
    (named name arguments qualifier dimensions).Everywhere P ↔
      P (.named name arguments qualifier dimensions) ∧
        (∀ types ∈ arguments, ∀ t ∈ types, t.Everywhere P) ∧ ∀ t ∈ qualifier, t.Everywhere P := by
  constructor
  · rintro (_ | ⟨hhere, harguments, hqualifier⟩)
    exact ⟨hhere, harguments, hqualifier⟩
  · rintro ⟨hhere, harguments, hqualifier⟩
    exact .named hhere harguments hqualifier

theorem argumentNodes_eq (types : List TypeExpr) : argumentNodes types = types.flatMap nodes := by
  induction types with
  | nil => rfl
  | cons t rest ih => rw [argumentNodes, List.flatMap_cons, ih]

theorem mem_nodes_named {name : String} {arguments : Option (List TypeExpr)}
    {qualifier : Option TypeExpr} {dimensions : List Dimension} {s : TypeExpr} :
    s ∈ (named name arguments qualifier dimensions).nodes ↔
      (∃ types ∈ arguments, ∃ t ∈ types, s ∈ t.nodes) ∨ (∃ t ∈ qualifier, s ∈ t.nodes) ∨
        s = .named name arguments qualifier dimensions := by
  cases arguments <;> cases qualifier <;>
    simp [nodes, clauseNodes, argumentNodes_eq, qualifierNodes]

theorem mem_nodes_self (t : TypeExpr) : t ∈ t.nodes := by
  cases t with
  | primitive name dimensions => exact List.mem_singleton_self _
  | named name arguments qualifier dimensions => exact mem_nodes_named.2 (.inr (.inr rfl))

theorem nodes_subset_of_argument {name : String} {types : List TypeExpr}
    {arguments : Option (List TypeExpr)} {qualifier : Option TypeExpr} {dimensions : List Dimension}
    {t : TypeExpr} (htypes : types ∈ arguments) (ht : t ∈ types) :
    t.nodes ⊆ (named name arguments qualifier dimensions).nodes :=
  fun _ hs => mem_nodes_named.2 (.inl ⟨types, htypes, t, ht, hs⟩)

theorem nodes_subset_of_qualifier {name : String} {arguments : Option (List TypeExpr)}
    {qualifier : Option TypeExpr} {dimensions : List Dimension} {q : TypeExpr}
    (hq : q ∈ qualifier) : q.nodes ⊆ (named name arguments qualifier dimensions).nodes :=
  fun _ hs => mem_nodes_named.2 (.inr (.inl ⟨q, hq, hs⟩))

theorem everywhere_iff_nodes {t : TypeExpr} : t.Everywhere P ↔ ∀ s ∈ t.nodes, P s := by
  induction t using TypeExpr.ind with
  | primitive name dimensions =>
      rw [nodes, List.forall_mem_singleton]
      exact ⟨Everywhere.here, .primitive⟩
  | named name arguments qualifier dimensions iharguments ihqualifier =>
      rw [everywhere_named]
      constructor
      · rintro ⟨hhere, harguments, hqualifier⟩ s hs
        rcases mem_nodes_named.1 hs with ⟨types, htypes, t, ht, hs⟩ | ⟨q, hq, hs⟩ | rfl
        · exact (iharguments types htypes t ht).1 (harguments types htypes t ht) s hs
        · exact (ihqualifier q hq).1 (hqualifier q hq) s hs
        · exact hhere
      · intro h
        refine ⟨h _ (mem_nodes_self _), fun types htypes t ht => ?_,
          fun q hq => ?_⟩
        · exact (iharguments types htypes t ht).2 fun s hs =>
            h s (nodes_subset_of_argument htypes ht hs)
        · exact (ihqualifier q hq).2 fun s hs => h s (nodes_subset_of_qualifier hq hs)

end TypeExpr

def Attribute.types : Attribute → List TypeExpr
  | .field type => [type]
  | .method m => m.parameters.entries.map (fun p => p.2.type) ++ m.returns.toList

def Attribute.parameterNames : Attribute → List String
  | .field _ => []
  | .method m => m.parameters.keys

def Declaration.types (d : Declaration) : List TypeExpr :=
  d.extends?.toList ++ d.implements ++ d.attributes.flatMap (fun a => a.2.types)

end BridgeTypings
