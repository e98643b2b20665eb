import BridgeTypings.Proofs.Output.Names

namespace BridgeTypings.Emission

open Outcome

structure HeaderOf (r : Renderer) (declarations : Declarations) (e : String × Declaration)
    (d : DeclarationOutline) : Prop where
  name : d.name = e.1
  keyword : d.keyword = e.2.kind.keyword
  parents : ∃ texts, e.2.extends?.toList.mapM r.renderType = .ok texts ∧
    d.parents = texts.filter declarations.contains
  implements : ∃ texts, e.2.implements.mapM r.renderType = .ok texts ∧
    d.implements = texts.filter declarations.contains

section

variable {r : Renderer} {declarations : Declarations} {entries : EntryPoints}

theorem exists_rendered {types : List TypeExpr} {texts : List String}
    (h : retained r declarations types = .ok texts) :
    ∃ rendered, types.mapM r.renderType = .ok rendered ∧
      texts = rendered.filter declarations.contains := by
  obtain ⟨rendered, hrendered, heq⟩ := bind_eq_ok.1 h
  cases heq
  exact ⟨rendered, hrendered, rfl⟩

theorem headerOf_declarationOutline {e : String × Declaration} {d : DeclarationOutline}
    (h : declarationOutline r declarations e = .ok d) : HeaderOf r declarations e d := by
  obtain ⟨parents, hparents, h⟩ := bind_eq_ok.1 h
  obtain ⟨implements, himplements, h⟩ := bind_eq_ok.1 h
  obtain ⟨members, -, heq⟩ := bind_eq_ok.1 h
  cases heq
  exact ⟨rfl, rfl, exists_rendered hparents, exists_rendered himplements⟩

theorem HeaderOf.declared {e : String × Declaration} {d : DeclarationOutline}
    (h : HeaderOf r declarations e d) :
    ∀ text ∈ d.parents ++ d.implements, text ∈ declarations.keys := by
  obtain ⟨_, -, hparents⟩ := h.parents
  obtain ⟨_, -, himplements⟩ := h.implements
  intro text htext
  rw [hparents, himplements, ← List.filter_append] at htext
  simpa [OrderedMap.contains] using (List.mem_filter.1 htext).2

theorem HeaderOf.mem_implements_iff {e : String × Declaration} {d : DeclarationOutline}
    (h : HeaderOf r declarations e d) {t : TypeExpr} (ht : t ∈ e.2.implements) :
    ∃ text, r.renderType t = .ok text ∧ (text ∈ d.implements ↔ text ∈ declarations.keys) := by
  obtain ⟨texts, hrendered, himplements⟩ := h.implements
  obtain ⟨text, hmem, htext⟩ := exists_of_mem_left (forall₂_of_mapM_ok hrendered) ht
  refine ⟨text, htext, ?_⟩
  simp [himplements, List.mem_filter, hmem, OrderedMap.contains]

theorem HeaderOf.parents_ne_nil_iff {e : String × Declaration} {d : DeclarationOutline}
    (h : HeaderOf r declarations e d) {t : TypeExpr} (ht : e.2.extends? = some t) :
    ∃ text, r.renderType t = .ok text ∧ (d.parents ≠ [] ↔ text ∈ declarations.keys) := by
  obtain ⟨texts, hrendered, hparents⟩ := h.parents
  rw [ht] at hrendered
  obtain ⟨text, htext, hrendered⟩ := bind_eq_ok.1 hrendered
  cases hrendered
  refine ⟨text, htext, ?_⟩
  simp [hparents, OrderedMap.contains]

theorem headers_of_outline {o : Outline} (h : outline r declarations entries = .ok o) :
    List.Forall₂ (HeaderOf r declarations) declarations.entries o.declarations := by
  obtain ⟨described, hdescribed, h⟩ := bind_eq_ok.1 h
  obtain ⟨bound, -, heq⟩ := bind_eq_ok.1 h
  cases heq
  exact (forall₂_of_mapM_ok hdescribed).imp fun e d => headerOf_declarationOutline

theorem names_of_headers {items : List (String × Declaration)} {ds : List DeclarationOutline}
    (h : List.Forall₂ (HeaderOf r declarations) items ds) :
    ds.map DeclarationOutline.name = items.map Prod.fst := by
  induction h with
  | nil => rfl
  | cons hfirst _ ih => rw [List.map_cons, List.map_cons, hfirst.name, ih]

end

def HeadersFollow (rule : String → Option (List TypeExpr) → Prop → Prop)
    (declarations : Declarations) (o : Outline) : Prop :=
  List.Forall₂
    (fun e d => d.name = e.1 ∧
      (∀ name arguments, e.2.extends? = some (.named name arguments none []) →
        rule name arguments (d.parents ≠ [])) ∧
      ∀ name arguments, .named name arguments none [] ∈ e.2.implements →
        ∃ text, ({} : Renderer).renderType (.named name arguments none []) = .ok text ∧
          rule name arguments (text ∈ d.implements))
    declarations.entries o.declarations

def ByName (declarations : Declarations) (name : String) (_ : Option (List TypeExpr))
    (shown : Prop) : Prop :=
  shown ↔ name ∈ declarations.keys

structure ByText (declarations : Declarations) (name : String)
    (arguments : Option (List TypeExpr)) (shown : Prop) : Prop where
  whole : ∃ text, ({} : Renderer).renderType (.named name arguments none []) = .ok text ∧
    (shown ↔ text ∈ declarations.keys)
  plain : arguments = none → builtinNames.lookup name = none → ByName declarations name none shown
  mapped : arguments = none → ∀ text, builtinNames.lookup name = some text →
    (shown ↔ text ∈ declarations.keys)
  generic : arguments ≠ none → (∀ key ∈ declarations.keys, IsPlain key) → ¬ shown

theorem renderType_plain (r : Renderer) (name : String) :
    r.renderType (.named name none none []) = .ok (r.spelling name) := by
  simp [Renderer.renderType, Renderer.renderClause, Renderer.renderQualifier,
    Renderer.renderDimensions, bind, Except.bind, pure, Except.pure]

theorem not_isPlain_generic {r : Renderer} {name text : String} {types : List TypeExpr}
    (h : r.renderType (.named name (some types) none []) = .ok text) : ¬ IsPlain text := by
  rw [Renderer.renderType] at h
  obtain ⟨clause, hclause, h⟩ := bind_eq_ok.1 h
  obtain ⟨inner, -, h⟩ := bind_eq_ok.1 h
  obtain ⟨brackets, -, h⟩ := bind_eq_ok.1 h
  obtain ⟨texts, -, hclause⟩ := bind_eq_ok.1 hclause
  cases hclause
  cases h
  intro hplain
  exact hplain '<' (by simp) (by decide)

theorem byText {declarations : Declarations} {name text : String}
    {arguments : Option (List TypeExpr)} {shown : Prop}
    (htext : ({} : Renderer).renderType (.named name arguments none []) = .ok text)
    (hshown : shown ↔ text ∈ declarations.keys) : ByText declarations name arguments shown where
  whole := ⟨text, htext, hshown⟩
  plain := by
    rintro rfl hmapping
    rw [renderType_plain, Renderer.spelling, Renderer.builtin_get?, hmapping] at htext
    cases htext
    exact hshown
  mapped := by
    rintro rfl mapped hmapping
    rw [renderType_plain, Renderer.spelling, Renderer.builtin_get?, hmapping] at htext
    cases htext
    exact hshown
  generic := by
    intro harguments hkeys hkept
    obtain ⟨types, rfl⟩ := Option.ne_none_iff_exists'.1 harguments
    exact not_isPlain_generic htext (hkeys text (hshown.1 hkept))

def specialised : Declarations :=
  ⟨[("Base", ⟨.classKind [], none, []⟩),
    ("Child", ⟨.classKind [.plain "Named", .plain "Lost"],
      some (.generic "Base" [.plain "String"]), []⟩),
    ("Named", ⟨.interfaceKind, none, []⟩)], by simp⟩

theorem specialised_not_byName :
    ∃ o, outline {} specialised .empty = .ok o ∧
      (emit {} specialised .empty).result = .ok o.text ∧
      o.text = "declare class Base \x7b\n\x7d\ndeclare class Child implements Named \x7b\n\x7d\n" ++
        "declare interface Named \x7b\n\x7d\n" ∧
      ¬ HeadersFollow (ByName specialised) specialised o := by
  have houtline : outline {} specialised .empty =
      .ok ⟨[⟨"class", "Base", [], [], []⟩, ⟨"class", "Child", [], ["Named"], []⟩,
        ⟨"interface", "Named", [], [], []⟩], []⟩ := rfl
  refine ⟨_, houtline, by rw [result_emit, houtline]; rfl, by decide +kernel, ?_⟩
  intro hfollow
  -- the second header is that of the class with the specialised parent
  rcases hfollow with _ | ⟨-, _ | ⟨⟨-, hparent, -⟩, -⟩⟩
  exact (hparent "Base" _ rfl).2 (by decide) rfl

theorem headersFollow_byText {declarations : Declarations} {entries : EntryPoints} {output : String}
    (h : (emit {} declarations entries).result = .ok output) :
    ∃ o, outline {} declarations entries = .ok o ∧ output = o.text ∧
      HeadersFollow (ByText declarations) declarations o := by
  rw [result_emit] at h
  obtain ⟨o, ho, htext⟩ := map_eq_ok.1 h
  refine ⟨o, ho, htext.symm, ?_⟩
  refine (headers_of_outline ho).imp fun e d hd => ⟨hd.name, ?_, ?_⟩
  · intro name arguments hextends
    obtain ⟨text, htext, hshown⟩ := hd.parents_ne_nil_iff hextends
    exact byText htext hshown
  · intro name arguments himplements
    obtain ⟨text, htext, hshown⟩ := hd.mem_implements_iff himplements
    exact ⟨text, htext, byText htext hshown⟩

theorem specialised_byText :
    ∃ o, outline {} specialised .empty = .ok o ∧
      HeadersFollow (ByText specialised) specialised o := by
  have hemit : (emit {} specialised .empty).result = .ok
      ("declare class Base \x7b\n\x7d\ndeclare class Child implements Named \x7b\n\x7d\n" ++
        "declare interface Named \x7b\n\x7d\n") := eq_ok_of_toOption (by decide +kernel)
  obtain ⟨o, houtline, -, hfollow⟩ := headersFollow_byText hemit
  exact ⟨o, houtline, hfollow⟩

end BridgeTypings.Emission
