import BridgeTypings.Proofs.Java.Shape
import BridgeTypings.Proofs.Output.Layout
import BridgeTypings.Rendering

namespace BridgeTypings.Emission

namespace Layout

def extend : Layout → List Suffix → Layout
  | .mk word behind, more => .mk word (behind ++ more)

def asMember : Layout → List Suffix
  | .mk word behind => .member word :: behind

theorem text_extend (l : Layout) (more : List Suffix) :
    (l.extend more).text = l.text ++ suffixesText more := by
  cases l with
  | mk word behind => rw [extend, text, text, suffixesText_append, String.append_assoc]

theorem extend_extend (l : Layout) (ss ss' : List Suffix) :
    (l.extend ss).extend ss' = l.extend (ss ++ ss') := by
  cases l with
  | mk word behind => rw [extend, extend, extend, List.append_assoc]

theorem suffixesText_asMember (l : Layout) : suffixesText l.asMember = "." ++ l.text := by
  cases l with
  | mk word behind => rw [asMember, suffixesText, text, Suffix.text, String.append_assoc]

theorem asMember_inj {l l' : Layout} (h : l.asMember = l'.asMember) : l = l' := by
  cases l
  cases l'
  simpa [asMember] using h

theorem Worded.extend {l : Layout} {more : List Suffix} (h : l.Worded)
    (hmore : ∀ s ∈ more, s.All Worded) : (l.extend more).Worded := by
  cases l with
  | mk word behind =>
      obtain ⟨hword, hbehind⟩ := worded_iff.1 h
      exact worded_iff.2 ⟨hword, List.forall_mem_append.2 ⟨hbehind, hmore⟩⟩

theorem Worded.asMember {l : Layout} (h : l.Worded) : ∀ s ∈ l.asMember, s.All Worded := by
  cases l with
  | mk word behind =>
      obtain ⟨hword, hbehind⟩ := worded_iff.1 h
      exact List.forall_mem_cons.2 ⟨hword, hbehind⟩

end Layout

def bracketsOf (ds : List Dimension) : List Suffix :=
  ds.map fun _ => .brackets

section

variable (word : String → Layout)

mutual

def layoutOf : TypeExpr → Layout
  | .primitive name ds => (word name).extend (bracketsOf ds)
  | .named name arguments qualifier ds =>
      (word name).extend (clauseOf arguments ++ memberOf qualifier ++ bracketsOf ds)

def clauseOf : Option (List TypeExpr) → List Suffix
  | none => []
  | some types => [.clause (layoutsOf types)]

def layoutsOf : List TypeExpr → List Layout
  | [] => []
  | t :: rest => layoutOf t :: layoutsOf rest

def memberOf : Option TypeExpr → List Suffix
  | none => []
  | some q => (layoutOf q).asMember

end

end

def plainWord (r : Renderer) (name : String) : Layout :=
  .mk (r.spelling name) []

theorem text_plainWord (r : Renderer) (name : String) :
    (plainWord r name).text = r.spelling name := by
  rw [plainWord, Layout.text, suffixesText, String.append_empty]

variable {word : String → Layout}

theorem memberOf_eq_nil_iff {qualifier : Option TypeExpr} :
    memberOf word qualifier = [] ↔ qualifier = none := by
  cases qualifier with
  | none => simp [memberOf]
  | some q =>
      rw [memberOf]
      cases layoutOf word q
      simp [Layout.asMember]

theorem memberOf_head (qualifier : Option TypeExpr) :
    ∀ s ∈ (memberOf word qualifier).head?, ∃ w, s = .member w := by
  cases qualifier with
  | none => simp [memberOf]
  | some q =>
      rw [memberOf]
      cases layoutOf word q
      simp [Layout.asMember]

theorem layoutsOf_eq_map (types : List TypeExpr) :
    layoutsOf word types = types.map (layoutOf word) := by
  induction types with
  | nil => rfl
  | cons t rest ih => rw [layoutsOf, List.map_cons, ih]

theorem renderDimensions_eq {ds : List Dimension} (h : ∀ d ∈ ds, d = .unsized) :
    Renderer.renderDimensions ds = .ok (suffixesText (bracketsOf ds)) := by
  induction ds with
  | nil => rfl
  | cons d rest ih =>
      obtain ⟨rfl, hrest⟩ := List.forall_mem_cons.1 h
      rw [Renderer.renderDimensions, ih hrest]
      rfl

section

variable {r : Renderer}

theorem renderTypes_ok {types : List TypeExpr}
    (h : ∀ t ∈ types, r.renderType t = .ok (layoutOf word t).text) :
    r.renderTypes types = .ok (layoutTexts (layoutsOf word types)) := by
  induction types with
  | nil => rfl
  | cons t rest ih =>
      obtain ⟨ht, hrest⟩ := List.forall_mem_cons.1 h
      rw [Renderer.renderTypes, ht, ih hrest]
      rfl

theorem renderType_eq (hspelling : ∀ name, (word name).text = r.spelling name) {t : TypeExpr}
    (ht : t.IsUnsized) : r.renderType t = .ok (layoutOf word t).text := by
  induction ht with
  | @primitive name dimensions hdimensions =>
      have hbrackets : Renderer.renderDimensions dimensions = _ := renderDimensions_eq hdimensions
      rw [Renderer.renderType, hbrackets, layoutOf, Layout.text_extend,
        hspelling]
      rfl
  | @named name arguments qualifier dimensions hdimensions _ _ iharguments ihqualifier =>
      have hbrackets : Renderer.renderDimensions dimensions = _ := renderDimensions_eq hdimensions
      have hclause : r.renderClause arguments = .ok (suffixesText (clauseOf word arguments)) := by
        cases arguments with
        | none => rfl
        | some types =>
            rw [Renderer.renderClause, renderTypes_ok (iharguments types rfl), clauseOf,
              suffixesText, suffixesText, Suffix.text, String.append_empty]
            rfl
      have hmember :
          r.renderQualifier qualifier = .ok (suffixesText (memberOf word qualifier)) := by
        cases qualifier with
        | none => rfl
        | some q =>
            rw [Renderer.renderQualifier, ihqualifier q rfl, memberOf, Layout.suffixesText_asMember]
            rfl
      rw [Renderer.renderType, hclause, hmember, hbrackets, layoutOf,
        Layout.text_extend, hspelling, suffixesText_append, suffixesText_append,
        ← String.append_assoc, ← String.append_assoc]
      rfl

end

theorem worded_layoutOf {t : TypeExpr} (h : t.Everywhere fun s => (word s.name).Worded) :
    (layoutOf word t).Worded := by
  have hbrackets (ds : List Dimension) : ∀ s ∈ bracketsOf ds, s.All Layout.Worded := by
    simp [bracketsOf, Suffix.All]
  induction h with
  | primitive hword => exact hword.extend (hbrackets _)
  | @named name arguments qualifier dimensions hword _ _ iharguments ihqualifier =>
      have hclause : ∀ s ∈ clauseOf word arguments, s.All Layout.Worded := by
        cases arguments with
        | none => exact nofun
        | some types =>
            rw [clauseOf, layoutsOf_eq_map, List.forall_mem_singleton]
            exact List.forall_mem_map.2 (iharguments types rfl)
      have hmember : ∀ s ∈ memberOf word qualifier, s.All Layout.Worded := by
        cases qualifier with
        | none => exact nofun
        | some q => exact (ihqualifier q rfl).asMember
      exact hword.extend (List.forall_mem_append.2
        ⟨List.forall_mem_append.2 ⟨hclause, hmember⟩, hbrackets dimensions⟩)

end BridgeTypings.Emission
