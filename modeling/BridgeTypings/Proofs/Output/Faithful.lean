import BridgeTypings.Proofs.Output.TypeLayout

namespace BridgeTypings

open Emission Text

namespace TypeExpr

def IsRegular : TypeExpr → Prop
  | .primitive name ds => name ∈ Java.Keyword.primitives ∧ ∀ d ∈ ds, d = .unsized
  | .named name _ qualifier ds =>
      name ∉ Java.Keyword.primitives ∧ (∀ d ∈ ds, d = .unsized) ∧ ∀ q ∈ qualifier, q.dimensions = []

instance : DecidablePred IsRegular
  | .primitive name ds =>
      inferInstanceAs (Decidable (name ∈ Java.Keyword.primitives ∧ ∀ d ∈ ds, d = .unsized))
  | .named name _ qualifier ds =>
      inferInstanceAs (Decidable (name ∉ Java.Keyword.primitives ∧ (∀ d ∈ ds, d = .unsized) ∧
        ∀ q ∈ qualifier, q.dimensions = []))

theorem IsRegular.unsized {t : TypeExpr} (h : t.IsRegular) : ∀ d ∈ t.dimensions, d = .unsized := by
  cases t with
  | primitive name ds => exact h.2
  | named name arguments qualifier ds => exact h.2.1

theorem IsRegular.array {t : TypeExpr} (h : t.IsRegular) (n : Nat) : (t.array n).IsRegular := by
  have hdimensions (ds : List Dimension) (hds : ∀ d ∈ ds, d = .unsized) :
      ∀ d ∈ ds ++ List.replicate n .unsized, d = .unsized :=
    List.forall_mem_append.2 ⟨hds, fun d hd => List.eq_of_mem_replicate hd⟩
  cases t with
  | primitive name ds => exact ⟨h.1, hdimensions ds h.2⟩
  | named name arguments qualifier ds => exact ⟨h.1, hdimensions ds h.2.1, h.2.2⟩

theorem Shaped.regular {IsName : String → Prop} {t : TypeExpr} (h : t.Shaped IsName)
    (hname : ∀ name, IsName name → name ∉ Java.Keyword.primitives) : t.Everywhere IsRegular := by
  induction h with
  | @primitive name count hmem =>
      have hregular : (TypeExpr.primitive name []).IsRegular := ⟨hmem, nofun⟩
      exact (Everywhere.primitive hregular).array (hregular.array count)
  | @chain first rest count hnames _ _ ih =>
      have hnest : (Java.NamedSegment.chain.nest first rest).Everywhere IsRegular :=
        everywhere_nest (fun s hs _ hqualifier =>
          ⟨hname s.name (hnames s hs), nofun, fun q hq => (hqualifier q hq).2⟩) ih
      exact hnest.array (hnest.here.array count)

end TypeExpr

namespace Emission

open TypeExpr

theorem bracketsOf_inj {ds ds' : List Dimension} (hds : ∀ d ∈ ds, d = .unsized)
    (hds' : ∀ d ∈ ds', d = .unsized) (h : bracketsOf ds = bracketsOf ds') : ds = ds' :=
  map_inj_on h fun d hd d' hd' _ => (hds d hd).trans (hds' d' hd').symm

variable {r : Renderer}

theorem brackets_not_mem_clauseOf (arguments : Option (List TypeExpr)) :
    .brackets ∉ clauseOf (plainWord r) arguments := by
  cases arguments <;> simp [clauseOf]

theorem brackets_not_mem_asMember {t : TypeExpr} (h : t.Everywhere IsRegular)
    (hdimensions : t.dimensions = []) : .brackets ∉ (layoutOf (plainWord r) t).asMember := by
  induction h with
  | primitive =>
      obtain rfl := hdimensions
      simp [layoutOf, plainWord, Layout.extend, Layout.asMember, bracketsOf]
  | @named name arguments qualifier dimensions hregular _ _ _ ihqualifier =>
      obtain rfl : dimensions = [] := hdimensions
      have hmember : .brackets ∉ memberOf (plainWord r) qualifier := by
        cases qualifier with
        | none => simp [memberOf]
        | some q => exact ihqualifier q rfl (hregular.2.2 q rfl)
      simp [layoutOf, plainWord, Layout.extend, Layout.asMember, bracketsOf, hmember,
        brackets_not_mem_clauseOf]

theorem brackets_not_mem_memberOf {qualifier : Option TypeExpr}
    (h : ∀ q ∈ qualifier, q.Everywhere IsRegular ∧ q.dimensions = []) :
    .brackets ∉ memberOf (plainWord r) qualifier := by
  cases qualifier with
  | none => simp [memberOf]
  | some q => exact brackets_not_mem_asMember (h q rfl).1 (h q rfl).2

theorem behind_append_inj {arguments arguments' : Option (List TypeExpr)}
    {qualifier qualifier' : Option TypeExpr} {ds ds' : List Dimension}
    (hq : ∀ q ∈ qualifier, q.Everywhere IsRegular ∧ q.dimensions = [])
    (hq' : ∀ q ∈ qualifier', q.Everywhere IsRegular ∧ q.dimensions = [])
    (h : clauseOf (plainWord r) arguments ++ memberOf (plainWord r) qualifier ++ bracketsOf ds =
      clauseOf (plainWord r) arguments' ++ memberOf (plainWord r) qualifier' ++ bracketsOf ds') :
    clauseOf (plainWord r) arguments = clauseOf (plainWord r) arguments' ∧
      memberOf (plainWord r) qualifier = memberOf (plainWord r) qualifier' ∧
      bracketsOf ds = bracketsOf ds' := by
  have hfront {a : Option (List TypeExpr)} {q? : Option TypeExpr}
      (h : ∀ q ∈ q?, q.Everywhere IsRegular ∧ q.dimensions = []) :
      ∀ s ∈ clauseOf (plainWord r) a ++ memberOf (plainWord r) q?, ¬ s = .brackets := by
    rintro _ hs rfl
    rcases List.mem_append.1 hs with hs | hs
    · exact brackets_not_mem_clauseOf a hs
    · exact brackets_not_mem_memberOf h hs
  have hbrackets (ds : List Dimension) : ∀ s ∈ (bracketsOf ds).head?, s = .brackets := by
    cases ds <;> simp [bracketsOf]
  have hclause (a : Option (List TypeExpr)) :
      ∀ s ∈ clauseOf (plainWord r) a, ¬ ∃ w, s = .member w := by
    cases a <;> simp [clauseOf]
  obtain ⟨hnames, hds⟩ := append_inj_of_free (hfront hq) (hfront hq') (hbrackets ds)
    (hbrackets ds') h
  obtain ⟨hclauses, hmembers⟩ := append_inj_of_free (hclause arguments) (hclause arguments')
    (memberOf_head qualifier) (memberOf_head qualifier') hnames
  exact ⟨hclauses, hmembers, hds⟩

def SpelledApart (r : Renderer) (t t' : TypeExpr) : Prop :=
  ∀ s ∈ t.nodes, ∀ s' ∈ t'.nodes, r.spelling s.name = r.spelling s'.name → s.name = s'.name

theorem name_of_layoutOf_eq {t t' : TypeExpr} (hspelled : SpelledApart r t t')
    (h : layoutOf (plainWord r) t = layoutOf (plainWord r) t') : t.name = t'.name := by
  have hword (t : TypeExpr) :
      ∃ behind, layoutOf (plainWord r) t = .mk (r.spelling t.name) behind := by
    cases t <;> exact ⟨_, rfl⟩
  obtain ⟨behind, hlayout⟩ := hword t
  obtain ⟨behind', hlayout'⟩ := hword t'
  rw [hlayout, hlayout', Layout.mk.injEq] at h
  exact hspelled t (mem_nodes_self t) t' (mem_nodes_self t') h.1

instance (r : Renderer) (t t' : TypeExpr) : Decidable (SpelledApart r t t') :=
  inferInstanceAs (Decidable (∀ s ∈ t.nodes, ∀ s' ∈ t'.nodes,
    r.spelling s.name = r.spelling s'.name → s.name = s'.name))

theorem SpelledApart.mono {t t' u u' : TypeExpr} (h : SpelledApart r t t')
    (hu : u.nodes ⊆ t.nodes) (hu' : u'.nodes ⊆ t'.nodes) : SpelledApart r u u' :=
  fun s hs s' hs' => h s (hu hs) s' (hu' hs')

theorem clauseOf_inj {arguments arguments' : Option (List TypeExpr)}
    (h : clauseOf (plainWord r) arguments = clauseOf (plainWord r) arguments')
    (hinj : ∀ types ∈ arguments, ∀ types' ∈ arguments', ∀ t ∈ types, ∀ t' ∈ types',
      layoutOf (plainWord r) t = layoutOf (plainWord r) t' → t = t') : arguments = arguments' := by
  cases arguments with
  | none =>
      cases arguments' with
      | none => rfl
      | some types' => cases h
  | some types =>
      cases arguments' with
      | none => cases h
      | some types' =>
          simp only [clauseOf, layoutsOf_eq_map, List.cons.injEq, Suffix.clause.injEq,
            and_true] at h
          rw [map_inj_on h (hinj types rfl types' rfl)]

theorem memberOf_inj {qualifier qualifier' : Option TypeExpr}
    (h : memberOf (plainWord r) qualifier = memberOf (plainWord r) qualifier')
    (hinj : ∀ q ∈ qualifier, ∀ q' ∈ qualifier',
      layoutOf (plainWord r) q = layoutOf (plainWord r) q' → q = q') : qualifier = qualifier' := by
  cases qualifier with
  | none => exact (memberOf_eq_nil_iff.1 h.symm).symm
  | some q =>
      cases qualifier' with
      | none => exact memberOf_eq_nil_iff.1 h
      | some q' => rw [hinj q rfl q' rfl (Layout.asMember_inj h)]

theorem layoutOf_inj {t t' : TypeExpr} (ht : t.Everywhere IsRegular)
    (ht' : t'.Everywhere IsRegular) (hspelled : SpelledApart r t t')
    (h : layoutOf (plainWord r) t = layoutOf (plainWord r) t') : t = t' := by
  induction t using TypeExpr.ind generalizing t' with
  | primitive name ds =>
      obtain ⟨hmem, hds⟩ := ht.here
      cases t' with
      | primitive name' ds' =>
          obtain rfl : name = name' := name_of_layoutOf_eq hspelled h
          simp only [layoutOf, plainWord, Layout.extend, Layout.mk.injEq, List.nil_append,
            true_and] at h
          rw [bracketsOf_inj hds ht'.here.2 h]
      | named name' arguments' qualifier' ds' =>
          obtain rfl : name = name' := name_of_layoutOf_eq hspelled h
          exact absurd hmem ht'.here.1
  | named name arguments qualifier ds iharguments ihqualifier =>
      obtain ⟨⟨hmem, hds, hbare⟩, harguments, hqualifier⟩ := everywhere_named.1 ht
      cases t' with
      | primitive name' ds' =>
          obtain rfl : name = name' := name_of_layoutOf_eq hspelled h
          exact absurd ht'.here.1 hmem
      | named name' arguments' qualifier' ds' =>
          obtain rfl : name = name' := name_of_layoutOf_eq hspelled h
          obtain ⟨⟨-, hds', hbare'⟩, harguments', hqualifier'⟩ := everywhere_named.1 ht'
          simp only [layoutOf, plainWord, Layout.extend, Layout.mk.injEq, List.nil_append,
            true_and] at h
          obtain ⟨hclause, hmember, hbrackets⟩ := behind_append_inj
            (fun q hq => ⟨hqualifier q hq, hbare q hq⟩)
            (fun q hq => ⟨hqualifier' q hq, hbare' q hq⟩) h
          have hsameArguments : arguments = arguments' :=
            clauseOf_inj hclause fun types htypes types' htypes' u hu u' hu' =>
              iharguments types htypes u hu (harguments types htypes u hu)
                (harguments' types' htypes' u' hu') (hspelled.mono
                  (nodes_subset_of_argument htypes hu) (nodes_subset_of_argument htypes' hu'))
          have hsameQualifier : qualifier = qualifier' :=
            memberOf_inj hmember fun q hq q' hq' =>
              ihqualifier q hq (hqualifier q hq) (hqualifier' q' hq') (hspelled.mono
                (nodes_subset_of_qualifier hq) (nodes_subset_of_qualifier hq'))
          rw [hsameArguments, hsameQualifier, bracketsOf_inj hds hds' hbrackets]

theorem render_regular {t : TypeExpr} (ht : t.Everywhere IsRegular)
    (hwords : ∀ s ∈ t.nodes, IsWord (r.spelling s.name)) :
    r.render (some t) = .ok (layoutOf (plainWord r) t).text ∧
      (layoutOf (plainWord r) t).Worded := by
  have hunsized : t.IsUnsized :=
    everywhere_iff_nodes.2 fun s hs => (everywhere_iff_nodes.1 ht s hs).unsized
  have hlayout (name : String) (h : IsWord (r.spelling name)) : (plainWord r name).Worded :=
    Layout.worded_iff.2 ⟨h, nofun⟩
  exact ⟨renderType_eq (text_plainWord r) hunsized,
    worded_layoutOf (everywhere_iff_nodes.2 fun s hs => hlayout s.name (hwords s hs))⟩

theorem render_faithful {t t' : TypeExpr} (ht : t.Everywhere IsRegular)
    (ht' : t'.Everywhere IsRegular) (hwords : ∀ s ∈ t.nodes ++ t'.nodes, IsWord (r.spelling s.name))
    (hspelled : SpelledApart r t t') :
    ∃ text text', r.render (some t) = .ok text ∧ r.render (some t') = .ok text' ∧
      (text = text' ↔ t = t') := by
  obtain ⟨hwordsLeft, hwordsRight⟩ := List.forall_mem_append.1 hwords
  obtain ⟨htext, hworded⟩ := render_regular ht hwordsLeft
  obtain ⟨htext', hworded'⟩ := render_regular ht' hwordsRight
  refine ⟨_, _, htext, htext', fun heq => ?_, fun heq => by rw [heq]⟩
  exact layoutOf_inj ht ht' hspelled (Layout.text_inj hworded hworded' heq)

def innerType : TypeExpr :=
  .nested (.plain "Inner") (.plain "Outer")

theorem render_faithful_nested :
    (∃ text text',
      ({} : Renderer).render (some (.array (.generic "List" [innerType]) 1)) = .ok text ∧
      ({} : Renderer).render (some (.generic "List" [.array innerType 1])) = .ok text' ∧
      text ≠ text') ∧
    ∃ text text', ({} : Renderer).render (some (.plain "Foo")) = .ok text ∧
      ({} : Renderer).render (some (.generic "Foo" [])) = .ok text' ∧ text ≠ text' := by
  constructor
  · obtain ⟨text, text', htext, htext', hiff⟩ := @render_faithful {}
      (.array (.generic "List" [innerType]) 1) (.generic "List" [.array innerType 1])
      (everywhere_iff_nodes.2 (by decide)) (everywhere_iff_nodes.2 (by decide))
      (by decide +kernel) (by decide +kernel)
    exact ⟨text, text', htext, htext', mt hiff.1 nofun⟩
  · obtain ⟨text, text', htext, htext', hiff⟩ := @render_faithful {}
      (.plain "Foo") (.generic "Foo" [])
      (everywhere_iff_nodes.2 (by decide)) (everywhere_iff_nodes.2 (by decide))
      (by decide +kernel) (by decide +kernel)
    exact ⟨text, text', htext, htext', mt hiff.1 nofun⟩

end Emission

end BridgeTypings
