import BridgeTypings.Proofs.Output.Sizes

namespace BridgeTypings

open Outcome

namespace TypeExpr

theorem getLast?_chain_behind (name : String) (arguments : Option (List TypeExpr)) (q : TypeExpr)
    (dimensions : List Dimension) :
    (named name arguments (some q) dimensions).chain.getLast? = q.chain.getLast? := by
  have hne : q.chain ≠ [] := by
    fun_cases chain q <;> exact List.cons_ne_nil _ _
  rw [chain, List.getLast?_cons_of_ne_nil hne]

theorem nested_nested (a b c : TypeExpr) :
    nested c (nested b a) = nested (nested c b) a := by
  fun_induction nested b a with
  | case1 name ds => rfl
  | case2 name arguments ds => rw [nested, nested]
  | case3 name arguments q ds ih => rw [nested, nested, ih]

theorem nested_withDimensions (a b : TypeExpr) (ds : List Dimension) :
    nested b (a.withDimensions ds) = (nested b a).withDimensions ds := by
  fun_cases nested b a <;> simp only [withDimensions, nested]

theorem nested_of_primitive_end {a : TypeExpr}
    (h : ∀ s ∈ a.chain.getLast?, s.isReference = false) (b : TypeExpr) : nested b a = a := by
  fun_induction nested b a with
  | case1 name ds => rfl
  | case2 name arguments ds => cases h _ rfl
  | case3 name arguments q ds ih =>
      rw [getLast?_chain_behind] at h
      rw [ih h]

def rank (t : TypeExpr) : Nat :=
  (t.chain.flatMap dimensions).length

end TypeExpr

namespace Renderer

open TypeExpr

def brackets : Nat → String
  | 0 => ""
  | n + 1 => "[]" ++ brackets n

theorem brackets_add (m n : Nat) : brackets (m + n) = brackets m ++ brackets n := by
  induction m with
  | zero => rw [Nat.zero_add, brackets, String.empty_append]
  | succ m ih => rw [Nat.succ_add, brackets, brackets, ih, String.append_assoc]

theorem renderDimensions_unsized {ds : List Dimension} (h : ∀ d ∈ ds, d = .unsized) :
    renderDimensions ds = .ok (brackets ds.length) := by
  induction ds with
  | nil => rfl
  | cons d rest ih =>
      obtain ⟨rfl, hrest⟩ := List.forall_mem_cons.1 h
      rw [renderDimensions, ih hrest]
      rfl

theorem renderDimensions_append {ds es : List Dimension} {text text' : String}
    (h : renderDimensions ds = .ok text) (h' : renderDimensions es = .ok text') :
    renderDimensions (ds ++ es) = .ok (text ++ text') := by
  induction ds generalizing text with
  | nil =>
      cases h
      rw [List.nil_append, h', String.empty_append]
  | cons d rest ih =>
      cases d with
      | sized size => cases h
      | unsized =>
          obtain ⟨more, hmore, heq⟩ := bind_eq_ok.1 h
          cases heq
          rw [List.cons_append, renderDimensions, ih hmore, String.append_assoc]
          rfl

variable {r : Renderer}

theorem renderType_named {name clause inner text : String} {arguments : Option (List TypeExpr)}
    {qualifier : Option TypeExpr} {ds : List Dimension} (hclause : r.renderClause arguments = .ok clause)
    (hinner : r.renderQualifier qualifier = .ok inner) (htext : renderDimensions ds = .ok text) :
    r.renderType (.named name arguments qualifier ds) =
      .ok (r.spelling name ++ clause ++ inner ++ text) := by
  rw [renderType, hclause, hinner, htext]
  rfl

theorem renderQualifier_some {q : TypeExpr} {text : String} (h : r.renderType q = .ok text) :
    r.renderQualifier (some q) = .ok ("." ++ text) := by
  rw [renderQualifier, h]
  rfl

theorem renderType_array {t : TypeExpr} {text : String} (h : r.renderType t = .ok text) (n : Nat) :
    r.renderType (t.array n) = .ok (text ++ brackets n) := by
  have hadded : renderDimensions (List.replicate n .unsized) = .ok (brackets n) := by
    rw [renderDimensions_unsized fun d => List.eq_of_mem_replicate, List.length_replicate]
  cases t with
  | primitive name ds =>
      rw [renderType] at h
      obtain ⟨own, hown, heq⟩ := bind_eq_ok.1 h
      cases heq
      rw [TypeExpr.array, withDimensions, renderType, renderDimensions_append hown hadded,
        String.append_assoc]
      rfl
  | named name arguments qualifier ds =>
      rw [renderType] at h
      obtain ⟨clause, hclause, h⟩ := bind_eq_ok.1 h
      obtain ⟨inner, hinner, h⟩ := bind_eq_ok.1 h
      obtain ⟨own, hown, heq⟩ := bind_eq_ok.1 h
      cases heq
      rw [TypeExpr.array, withDimensions,
        renderType_named hclause hinner (renderDimensions_append hown hadded)]
      simp only [String.append_assoc]

theorem exists_renderType (r : Renderer) {t : TypeExpr} (h : t.IsUnsized) :
    ∃ text, r.renderType t = .ok text :=
  (r.failsFirst_renderType t).ok_iff.2 (isUnsized_iff.1 h)

theorem exists_renderClause (r : Renderer) {arguments : Option (List TypeExpr)}
    (h : ∀ types ∈ arguments, ∀ t ∈ types, t.IsUnsized) :
    ∃ clause, r.renderClause arguments = .ok clause := by
  cases arguments with
  | none => exact ⟨"", rfl⟩
  | some types =>
      obtain ⟨texts, htexts⟩ := mapM_ok fun t ht => r.exists_renderType (h types rfl t ht)
      rw [renderClause, renderTypes_eq, htexts]
      exact ⟨_, rfl⟩

theorem renderType_nested {a b : TypeExpr} {inner : String}
    (hend : ∀ s ∈ a.chain.getLast?, s.isReference = true) (ha : a.IsUnsized)
    (hb : r.renderType b = .ok inner) :
    ∃ front, r.renderType a = .ok (front ++ brackets a.rank) ∧
      r.renderType (nested b a) = .ok (front ++ "." ++ inner ++ brackets a.rank) := by
  fun_induction nested b a with
  | case1 name ds => cases hend _ rfl
  | case2 name arguments ds =>
      obtain ⟨hown, harguments, -⟩ := everywhere_named.1 ha
      obtain ⟨clause, hclause⟩ := r.exists_renderClause harguments
      have hbrackets : renderDimensions ds = .ok (brackets ds.length) := renderDimensions_unsized hown
      have hnone : r.renderQualifier none = .ok "" := by rw [renderQualifier]
      have hrank : (named name arguments none ds).rank = ds.length := by
        simp [rank, chain, dimensions]
      refine ⟨r.spelling name ++ clause, ?_, ?_⟩
      · rw [renderType_named hclause hnone hbrackets, hrank, String.append_empty]
      · rw [renderType_named hclause (renderQualifier_some hb) hbrackets, hrank]
        simp only [String.append_assoc]
  | case3 name arguments q ds ih =>
      obtain ⟨hown, harguments, hqualifier⟩ := everywhere_named.1 ha
      obtain ⟨clause, hclause⟩ := r.exists_renderClause harguments
      have hbrackets : renderDimensions ds = .ok (brackets ds.length) := renderDimensions_unsized hown
      rw [getLast?_chain_behind] at hend
      obtain ⟨front, hq, hnested⟩ := ih hend (hqualifier q rfl)
      have hrank : (named name arguments (some q) ds).rank = q.rank + ds.length := by
        simp [rank, chain, dimensions, Nat.add_comm]
      refine ⟨r.spelling name ++ clause ++ "." ++ front, ?_, ?_⟩
      · rw [renderType_named hclause (renderQualifier_some hq) hbrackets, hrank, brackets_add]
        simp only [String.append_assoc]
      · rw [renderType_named hclause (renderQualifier_some hnested) hbrackets, hrank, brackets_add]
        simp only [String.append_assoc]

theorem nested_laws :
    (∀ a b c : TypeExpr, nested c (nested b a) = nested (nested c b) a) ∧
      (∀ (a b : TypeExpr) (d : Dimension),
        nested b (a.withDimension d) = (nested b a).withDimension d) ∧
      (∀ (a b : TypeExpr) (n : Nat), nested b (a.array n) = (nested b a).array n) ∧
      (∀ a : TypeExpr, (∀ s ∈ a.chain.getLast?, s.isReference = false) →
        ∀ b, nested b a = a) ∧
      (∀ (r : Renderer) (a b : TypeExpr), (∀ s ∈ a.chain.getLast?, s.isReference = true) →
        a.IsUnsized → b.IsUnsized → ∃ front inner, r.render (some b) = .ok inner ∧
          r.render (some a) = .ok (front ++ brackets a.rank) ∧
          r.render (some (nested b a)) = .ok (front ++ "." ++ inner ++ brackets a.rank)) ∧
      ∀ (r : Renderer) (a : TypeExpr) (n : Nat) (text : String), r.render (some a) = .ok text →
        r.render (some (a.array n)) = .ok (text ++ brackets n) := by
  refine ⟨nested_nested, fun a b d => nested_withDimensions a b [d],
    fun a b n => nested_withDimensions a b _, fun a h b => nested_of_primitive_end h b, ?_,
    fun r a n text h => renderType_array h n⟩
  intro r a b hend ha hb
  obtain ⟨inner, hinner⟩ := r.exists_renderType hb
  obtain ⟨front, hfront, hnested⟩ := renderType_nested hend ha hinner
  exact ⟨front, inner, hinner, hfront, hnested⟩

def griddedType : TypeExpr :=
  .named "A" (some [.primitive "int" [.unsized]]) (some (.named "B" none none [.unsized])) [.unsized]

def cellType : TypeExpr :=
  .named "C" none (some (.primitive "int" [])) [.unsized]

theorem nested_laws_gridded :
    (∃ front inner, ({} : Renderer).render (some cellType) = .ok inner ∧
      ({} : Renderer).render (some griddedType) = .ok (front ++ brackets 2) ∧
      ({} : Renderer).render (some (nested cellType griddedType)) =
        .ok (front ++ "." ++ inner ++ brackets 2)) ∧
    nested griddedType (nested cellType griddedType) = nested cellType griddedType ∧
    ({} : Renderer).render (some (griddedType.array 1)) = .ok ("A<int[]>.B[][]" ++ brackets 1) := by
  obtain ⟨-, -, -, hprimitive, hinsert, harray⟩ := nested_laws
  have hgridded : griddedType.IsUnsized := isUnsized_iff.2 rfl
  have hcell : cellType.IsUnsized := isUnsized_iff.2 rfl
  refine ⟨hinsert {} griddedType cellType ?_ hgridded hcell, hprimitive _ ?_ _,
    harray {} griddedType 1 _ (eq_ok_of_toOption (by decide +kernel))⟩
  · rintro s ⟨⟩
    rfl
  · rintro s ⟨⟩
    rfl

end Renderer

end BridgeTypings
