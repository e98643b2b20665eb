import BridgeTypings.Proofs.Java.Proper
import BridgeTypings.Proofs.OrderedMap
import BridgeTypings.Proofs.Outcome
import BridgeTypings.Proofs.Output.Determination
import BridgeTypings.Proofs.Output.Sizes

namespace BridgeTypings.Emission

open Outcome

theorem isPlain_of_identifier {name : String} (h : Java.isIdentifier name = true) :
    IsPlain name := by
  have hall : delimiters.all (fun c => !Java.isNameChar c) = true := by decide
  have hnone : ∀ c ∈ delimiters, Java.isNameChar c = false := by simpa using hall
  intro c hc hmem
  exact absurd (Java.isNameChar_of_mem h c hc) (by simp [hnone c hmem])

def IsMappedText (text : String) : Prop :=
  ∀ c ∈ text.toList, c = '<' ∨ c = '>' ∨ c ∉ delimiters

instance (text : String) : Decidable (IsMappedText text) :=
  List.decidableBAll (fun c => c = '<' ∨ c = '>' ∨ c ∉ delimiters) text.toList

structure PlainNames (r : Renderer) (declarations : Declarations) (entries : EntryPoints) :
    Prop where
  mapped : ∀ e ∈ r.names.entries, IsMappedText e.2
  declared : ∀ e ∈ declarations.entries, IsPlain e.1
  members : ∀ e ∈ declarations.entries, ∀ a ∈ e.2.attributes, IsPlain a.1
  parameters : ∀ e ∈ declarations.entries, ∀ a ∈ e.2.attributes, ∀ p ∈ a.2.parameterNames,
    IsPlain p
  types : ∀ e ∈ declarations.entries, ∀ t ∈ e.2.types, t.Everywhere (fun t => IsPlain t.name)
  bindings : ∀ e ∈ entries.entries, IsPlain e.1
  bindingTypes : ∀ e ∈ entries.entries, e.2.Everywhere (fun t => IsPlain t.name)

theorem isTypeText_append {a b : String} (ha : IsTypeText a) (hb : IsTypeText b) :
    IsTypeText (a ++ b) := by
  intro c hc
  rw [String.toList_append, List.mem_append] at hc
  rcases hc with hc | hc
  · exact ha c hc
  · exact hb c hc

theorem isTypeText_list {words : List String} (h : ∀ w ∈ words, IsTypeText w) :
    IsTypeText (", ".intercalate words) := by
  induction words with
  | nil => simp [IsTypeText]
  | cons w rest ih =>
      have hw := h w List.mem_cons_self
      have hrest := ih (fun x hx => h x (List.mem_cons_of_mem _ hx))
      cases rest with
      | nil => simpa using hw
      | cons v more =>
          rw [String.intercalate_cons_cons]
          exact isTypeText_append (isTypeText_append hw (by decide)) hrest

variable {r : Renderer}

theorem isTypeText_spelling (hr : ∀ e ∈ r.names.entries, IsMappedText e.2) {name : String}
    (h : IsPlain name) : IsTypeText (r.spelling name) := by
  have hdelimiters : ∀ c ∈ ['\n', ':', '(', ')'], c ∈ delimiters := by simp [delimiters]
  unfold Renderer.spelling
  cases hget : r.names.get? name with
  | none => exact name_free h hdelimiters
  | some text =>
      intro c hc hmem
      rcases OrderedMap.forall_of_get? hr hget c hc with rfl | rfl | hc
      · exact absurd hmem (by decide)
      · exact absurd hmem (by decide)
      · exact hc (hdelimiters c hmem)

theorem isTypeText_renderDimensions {ds : List Dimension} {text : String}
    (h : Renderer.renderDimensions ds = .ok text) : IsTypeText text := by
  induction ds generalizing text with
  | nil =>
      cases h
      decide
  | cons d rest ih =>
      cases d with
      | unsized =>
          obtain ⟨brackets, hbrackets, h⟩ := bind_eq_ok.1 h
          cases h
          exact isTypeText_append (by decide) (ih hbrackets)
      | sized size => cases h

theorem isTypeText_renderType (hr : ∀ e ∈ r.names.entries, IsMappedText e.2) {t : TypeExpr}
    (ht : t.Everywhere (fun t => IsPlain t.name)) {text : String}
    (h : r.renderType t = .ok text) : IsTypeText text := by
  induction ht generalizing text with
  | primitive hname =>
      obtain ⟨brackets, hbrackets, h⟩ := bind_eq_ok.1 h
      cases h
      exact isTypeText_append (isTypeText_spelling hr hname) (isTypeText_renderDimensions hbrackets)
  | @named name arguments qualifier dimensions hname _ _ iharguments ihqualifier =>
      rw [Renderer.renderType] at h
      obtain ⟨clause, hclause, h⟩ := bind_eq_ok.1 h
      obtain ⟨inner, hinner, h⟩ := bind_eq_ok.1 h
      obtain ⟨brackets, hbrackets, h⟩ := bind_eq_ok.1 h
      cases h
      have hclauseText : IsTypeText clause := by
        cases arguments with
        | none =>
            cases hclause
            decide
        | some types =>
            obtain ⟨texts, htexts, hclause⟩ := bind_eq_ok.1 hclause
            cases hclause
            refine isTypeText_append (isTypeText_append (by decide) (isTypeText_list ?_)) (by decide)
            intro w hw
            obtain ⟨a, ha, hrender⟩ := mem_of_mapM_ok (r.renderTypes_eq types ▸ htexts) hw
            exact iharguments types rfl a ha hrender
      have hinnerText : IsTypeText inner := by
        cases qualifier with
        | none =>
            cases hinner
            decide
        | some q =>
            obtain ⟨text, htext, hinner⟩ := bind_eq_ok.1 hinner
            cases hinner
            exact isTypeText_append (by decide) (ihqualifier q rfl htext)
      exact isTypeText_append (isTypeText_append (isTypeText_append
        (isTypeText_spelling hr hname) hclauseText) hinnerText)
        (isTypeText_renderDimensions hbrackets)

theorem isTypeText_render (hr : ∀ e ∈ r.names.entries, IsMappedText e.2) {t? : Option TypeExpr}
    (ht : ∀ t ∈ t?, t.Everywhere (fun t => IsPlain t.name)) {text : String}
    (h : r.render t? = .ok text) : IsTypeText text := by
  cases t? with
  | none =>
      cases h
      decide
  | some t => exact isTypeText_renderType hr (ht t rfl) h

section

variable {declarations : Declarations} {entries : EntryPoints}

theorem isPlain_retained (h : PlainNames r declarations entries) {types : List TypeExpr}
    {texts : List String} (hretained : retained r declarations types = .ok texts) :
    ∀ text ∈ texts, IsPlain text := by
  intro text htext
  obtain ⟨rendered, -, heq⟩ := bind_eq_ok.1 hretained
  cases heq
  have hkey : text ∈ declarations.keys := by
    simpa [OrderedMap.contains] using (List.mem_filter.1 htext).2
  obtain ⟨e, he, rfl⟩ := List.mem_map.1 hkey
  exact h.declared e he

theorem plain_parameterOutline (hr : ∀ e ∈ r.names.entries, IsMappedText e.2)
    {p : String × Parameter} (hname : IsPlain p.1)
    (htype : p.2.type.Everywhere (fun t => IsPlain t.name)) {o : ParameterOutline}
    (ho : parameterOutline r p = .ok o) : o.Plain := by
  obtain ⟨text, htext, heq⟩ := bind_eq_ok.1 ho
  cases heq
  exact ⟨hname, isTypeText_renderType hr htype htext⟩

theorem plain_memberOutline (h : PlainNames r declarations entries) {e : String × Declaration}
    (he : e ∈ declarations.entries) {a : String × Attribute} (ha : a ∈ e.2.attributes)
    {o : MemberOutline} (ho : memberOutline r a = .ok o) : o.Plain := by
  have hname := h.members e he a ha
  have hparameters := h.parameters e he a ha
  have htypes : ∀ t ∈ a.2.types, t.Everywhere (fun t => IsPlain t.name) := fun t ht =>
    h.types e he t (List.mem_append_right _ (List.mem_flatMap.2 ⟨a, ha, ht⟩))
  obtain ⟨name, item⟩ := a
  cases item with
  | field t =>
      obtain ⟨text, htext, heq⟩ := bind_eq_ok.1 ho
      cases heq
      exact ⟨hname, isTypeText_renderType h.mapped (htypes t (by simp [Attribute.types])) htext⟩
  | method m =>
      obtain ⟨parameters, hmap, ho⟩ := bind_eq_ok.1 ho
      obtain ⟨returns, hreturns, heq⟩ := bind_eq_ok.1 ho
      cases heq
      refine ⟨hname, fun p hp => ?_, isTypeText_render h.mapped (fun t ht => htypes t ?_) hreturns⟩
      · obtain ⟨q, hq, hval⟩ := mem_of_mapM_ok hmap hp
        exact plain_parameterOutline h.mapped (hparameters q.1 (List.mem_map_of_mem hq))
          (htypes q.2.type (List.mem_append_left _ (List.mem_map_of_mem hq))) hval
      · exact List.mem_append_right _ (by simpa using ht)

theorem isPlain_keyword (kind : Kind) : IsPlain kind.keyword := by
  cases kind with
  | classKind types => exact (by decide : IsPlain "class")
  | interfaceKind => exact (by decide : IsPlain "interface")

theorem plain_declarationOutline (h : PlainNames r declarations entries)
    {e : String × Declaration} (he : e ∈ declarations.entries) {o : DeclarationOutline}
    (ho : declarationOutline r declarations e = .ok o) : o.Plain := by
  obtain ⟨parents, hparents, ho⟩ := bind_eq_ok.1 ho
  obtain ⟨implements, himplements, ho⟩ := bind_eq_ok.1 ho
  obtain ⟨members, hmembers, heq⟩ := bind_eq_ok.1 ho
  cases heq
  refine ⟨isPlain_keyword e.2.kind, h.declared e he, isPlain_retained h hparents,
    isPlain_retained h himplements, fun m hm => ?_⟩
  obtain ⟨a, ha, hval⟩ := mem_of_mapM_ok hmembers hm
  exact plain_memberOutline h he ha hval

theorem plain_outline (h : PlainNames r declarations entries) {o : Outline}
    (ho : outline r declarations entries = .ok o) : o.Plain := by
  obtain ⟨described, hdescribed, ho⟩ := bind_eq_ok.1 ho
  obtain ⟨bound, hbound, heq⟩ := bind_eq_ok.1 ho
  cases heq
  constructor
  · intro d hd
    obtain ⟨e, he, hval⟩ := mem_of_mapM_ok hdescribed hd
    exact plain_declarationOutline h he hval
  · intro b hb
    obtain ⟨e, he, hval⟩ := mem_of_mapM_ok hbound hb
    obtain ⟨text, htext, heq⟩ := bind_eq_ok.1 hval
    cases heq
    exact ⟨h.bindings e he, isTypeText_renderType h.mapped (h.bindingTypes e he) htext⟩

end

theorem outline_of_emit_eq {declarations declarations' : Declarations}
    {entries entries' : EntryPoints} {text : String}
    (hnames : PlainNames r declarations entries) (hnames' : PlainNames r declarations' entries')
    (h : (emit r declarations entries).result = .ok text)
    (h' : (emit r declarations' entries').result = .ok text) :
    ∃ o, outline r declarations entries = .ok o ∧ outline r declarations' entries' = .ok o := by
  rw [result_emit] at h h'
  obtain ⟨o, ho, htext⟩ := map_eq_ok.1 h
  obtain ⟨o', ho', htext'⟩ := map_eq_ok.1 h'
  have heq : o = o' := Outline.text_inj (plain_outline hnames ho) (plain_outline hnames' ho')
    (htext.trans htext'.symm)
  exact ⟨o, ho, heq ▸ ho'⟩

def guild (parent? : Option TypeExpr) (value : String) : Declarations :=
  ⟨[("Guild", ⟨.classKind [.plain "Named"], parent?,
      [("rank", .method ⟨none, ⟨[("titles", ⟨.plain "String", true⟩),
          ("ranks", ⟨.generic "Map" [.plain "String", .plain value], false⟩)], by simp⟩⟩),
        ("members", .field (.array (.plain "Player") 1))]⟩),
    ("Named", ⟨.interfaceKind, none, []⟩)], by simp⟩

def guildEntries : EntryPoints :=
  ⟨[("guild", .plain "Guild")], by simp⟩

theorem guild_plainNames {parent? : Option TypeExpr} {value : String}
    (hparent : ∀ t ∈ parent?, t.Everywhere (fun t => IsPlain t.name)) (hvalue : IsPlain value) :
    PlainNames {} (guild parent? value) guildEntries where
  mapped := by decide +kernel
  declared := by
    simp only [guild, List.forall_mem_cons]
    exact ⟨by decide, by decide, by simp⟩
  members := by
    simp only [guild, List.forall_mem_cons]
    exact ⟨⟨by decide, by decide, by simp⟩, by simp⟩
  parameters := by
    simp only [guild, List.forall_mem_cons, Attribute.parameterNames, OrderedMap.keys,
      List.map_cons]
    exact ⟨⟨⟨by decide, by decide, by simp⟩, by simp, by simp⟩, by simp⟩
  types := by
    have hnames : IsPlain "Named" ∧ IsPlain "String" ∧ IsPlain "Map" ∧ IsPlain "Player" := by
      decide
    simp only [guild, List.forall_mem_cons, Declaration.types, Declaration.implements,
      Kind.implements, Attribute.types, List.forall_mem_append, List.flatMap_cons, List.flatMap_nil,
      List.map_cons, List.map_nil, TypeExpr.plain, TypeExpr.generic, TypeExpr.array,
      TypeExpr.withDimensions, TypeExpr.everywhere_named, Option.mem_toList]
    simpa [TypeExpr.everywhere_named, TypeExpr.name, hnames, hvalue] using hparent
  bindings := by
    simp only [guildEntries, List.forall_mem_cons]
    exact ⟨by decide, by simp⟩
  bindingTypes := by
    have hname : IsPlain "Guild" := by decide
    simpa [guildEntries, TypeExpr.plain, TypeExpr.everywhere_named, TypeExpr.name] using hname

theorem outline_guild :
    ∃ o, outline {} (guild (some (.plain "Group")) "Object") guildEntries = .ok o ∧
      outline {} (guild none "any") guildEntries = .ok o := by
  have hplain : ∀ t ∈ some (TypeExpr.plain "Group"), t.Everywhere (fun t => IsPlain t.name) := by
    have hname : IsPlain "Group" := by decide
    simpa [TypeExpr.plain, TypeExpr.everywhere_named, TypeExpr.name] using hname
  exact outline_of_emit_eq (guild_plainNames hplain (by decide))
    (guild_plainNames (by simp) (by decide))
    (eq_ok_of_toOption (a := "declare class Guild implements Named \x7b\n" ++
      "  rank(...titles: string[], ranks: Map<string, any>): void;\n  members: Player[];\n\x7d\n" ++
      "declare interface Named \x7b\n\x7d\nexport var guild: Guild;\n") (by decide +kernel))
    (eq_ok_of_toOption (by decide +kernel))

end BridgeTypings.Emission
