import BridgeTypings.Proofs.Output.Unambiguity

namespace BridgeTypings.Emission

open Text

theorem MemberOutline.line_ne_close (m : MemberOutline) : m.line ≠ "\x7d" := by
  intro h
  have hlist := congrArg String.toList h
  cases m with
  | field name type => simp [toList_line_field] at hlist
  | method name parameters returns => simp [toList_line_method] at hlist

namespace DeclarationOutline

theorem eq_of_header {d d' : DeclarationOutline} (h : d.Plain) (h' : d'.Plain)
    (heq : header d.keyword d.name d.parents d.implements =
      header d'.keyword d'.name d'.parents d'.implements)
    (hmembers : d.members = d'.members) : d = d' := by
  have hstops : ∀ c ∈ [' '], c ∈ delimiters := by simp [delimiters]
  have hlist := congrArg String.toList heq
  rw [toList_header, toList_header] at hlist
  obtain ⟨hkeyword, -, hbehind⟩ := append_cons_inj (name_free h.keyword hstops)
    (name_free h'.keyword hstops) (by simp) (by simp) (List.append_cancel_left hlist)
  obtain ⟨hname, -, hend⟩ := append_cons_inj (name_free h.name hstops) (name_free h'.name hstops)
    (by simp) (by simp) hbehind
  obtain ⟨hparents, himplements⟩ :=
    headerEnd_inj h.parents h'.parents h.implements h'.implements hend
  cases d
  cases d'
  simp_all [String.toList_inj]

theorem lines_append_inj {d d' : DeclarationOutline} {rest rest' : List String} (h : d.Plain)
    (h' : d'.Plain) (heq : d.lines ++ rest = d'.lines ++ rest') : d = d' ∧ rest = rest' := by
  simp only [lines, List.cons_append, List.append_assoc, List.nil_append, List.cons.injEq] at heq
  obtain ⟨hheader, hbody⟩ := heq
  have hopen (ms : List MemberOutline) : ∀ line ∈ ms.map MemberOutline.line, ¬ line = "\x7d" := by
    intro line hline
    obtain ⟨m, -, rfl⟩ := List.mem_map.1 hline
    exact m.line_ne_close
  obtain ⟨hlines, -, hrest⟩ := append_cons_inj (hopen d.members) (hopen d'.members) rfl rfl hbody
  have hmembers : d.members = d'.members := map_inj_on hlines
    (fun m hm m' hm' => MemberOutline.line_inj (h.members m hm) (h'.members m' hm'))
  exact ⟨eq_of_header h h' hheader hmembers, hrest⟩

end DeclarationOutline

theorem header_ne_entry (keyword name : String) (parents implements : List String)
    (e : EntryOutline) : header keyword name parents implements ≠ e.line := by
  intro h
  have hlist := congrArg String.toList h
  simp [toList_header, EntryOutline.line] at hlist

theorem blocks_inj {ds ds' : List DeclarationOutline} {es es' : List EntryOutline}
    (h : ∀ d ∈ ds, d.Plain) (h' : ∀ d ∈ ds', d.Plain)
    (heq : ds.flatMap DeclarationOutline.lines ++ es.map EntryOutline.line =
      ds'.flatMap DeclarationOutline.lines ++ es'.map EntryOutline.line) :
    ds = ds' ∧ es.map EntryOutline.line = es'.map EntryOutline.line := by
  induction ds generalizing ds' with
  | nil =>
      cases ds' with
      | nil => exact ⟨rfl, heq⟩
      | cons d' rest' =>
          cases es with
          | nil => simp [DeclarationOutline.lines] at heq
          | cons e more =>
              obtain ⟨hfirst, -⟩ := List.cons.inj heq
              exact absurd hfirst.symm (header_ne_entry _ _ _ _ e)
  | cons d rest ih =>
      cases ds' with
      | nil =>
          cases es' with
          | nil => simp [DeclarationOutline.lines] at heq
          | cons e more =>
              obtain ⟨hfirst, -⟩ := List.cons.inj heq
              exact absurd hfirst (header_ne_entry _ _ _ _ e)
      | cons d' rest' =>
          simp only [List.flatMap_cons, List.append_assoc] at heq
          obtain ⟨rfl, hlater⟩ := DeclarationOutline.lines_append_inj
            (h d List.mem_cons_self) (h' d' List.mem_cons_self) heq
          obtain ⟨rfl, hentries⟩ := ih (fun x hx => h x (List.mem_cons_of_mem _ hx))
            (fun x hx => h' x (List.mem_cons_of_mem _ hx)) hlater
          exact ⟨rfl, hentries⟩

theorem Outline.lines_inj {o o' : Outline} (h : o.Plain) (h' : o'.Plain)
    (heq : o.lines = o'.lines) : o = o' := by
  obtain ⟨hblocks, hlines⟩ := blocks_inj h.declarations h'.declarations heq
  have hentries : o.entries = o'.entries := map_inj_on hlines
    (fun e he e' he' => EntryOutline.line_inj (h.entries e he) (h'.entries e' he'))
  cases o
  cases o'
  simp_all

def OneLine (text : String) : Prop :=
  '\n' ∉ text.toList

instance (text : String) : Decidable (OneLine text) :=
  inferInstanceAs (Decidable (¬ _))

theorem oneLine_append {a b : String} : OneLine (a ++ b) ↔ OneLine a ∧ OneLine b := by
  simp [OneLine]

theorem IsPlain.oneLine {name : String} (h : IsPlain name) : OneLine name :=
  fun hmem => h _ hmem (by decide)

theorem IsTypeText.oneLine {text : String} (h : IsTypeText text) : OneLine text :=
  fun hmem => h _ hmem (by decide)

theorem oneLine_list {words : List String} (h : ∀ w ∈ words, OneLine w) :
    OneLine (", ".intercalate words) := by
  induction words with
  | nil => simp [OneLine]
  | cons w rest ih =>
      have hw := h w List.mem_cons_self
      have hrest := ih (fun x hx => h x (List.mem_cons_of_mem _ hx))
      cases rest with
      | nil => simpa using hw
      | cons v more =>
          rw [String.intercalate_cons_cons, oneLine_append, oneLine_append]
          exact ⟨⟨hw, by decide⟩, hrest⟩

theorem ParameterOutline.oneLine_text {p : ParameterOutline} (h : p.Plain) : OneLine p.text := by
  have hname := h.name.oneLine
  have htype := h.type.oneLine
  unfold ParameterOutline.text
  split <;> simp only [oneLine_append, hname, htype, and_true] <;> decide

theorem MemberOutline.oneLine_line {m : MemberOutline} (h : m.Plain) : OneLine m.line := by
  cases m with
  | field name type =>
      have hname := h.1.oneLine
      have htype := h.2.oneLine
      simp only [MemberOutline.line, oneLine_append, hname, htype, and_true]
      decide
  | method name parameters returns =>
      obtain ⟨hplain, hparameters, hreturns⟩ := h
      have hname := hplain.oneLine
      have htype := hreturns.oneLine
      have htexts : OneLine (", ".intercalate (parameters.map ParameterOutline.text)) := by
        refine oneLine_list fun w hw => ?_
        obtain ⟨p, hp, rfl⟩ := List.mem_map.1 hw
        exact ParameterOutline.oneLine_text (hparameters p hp)
      simp only [MemberOutline.line, oneLine_append, hname, htype, htexts, and_true]
      decide

theorem DeclarationOutline.oneLine_header {d : DeclarationOutline} (h : d.Plain) :
    OneLine (header d.keyword d.name d.parents d.implements) := by
  have hkeyword := h.keyword.oneLine
  have hname := h.name.oneLine
  have hparents := oneLine_list fun w hw => (h.parents w hw).oneLine
  have himplements := oneLine_list fun w hw => (h.implements w hw).oneLine
  unfold header
  split <;> split <;>
    simp only [oneLine_append, hkeyword, hname, hparents, himplements, and_true] <;>
    decide

theorem EntryOutline.oneLine_line {e : EntryOutline} (h : e.Plain) : OneLine e.line := by
  have hname := h.name.oneLine
  have htype := h.type.oneLine
  simp only [EntryOutline.line, oneLine_append, hname, htype, and_true]
  decide

namespace Outline

theorem oneLine_lines {o : Outline} (h : o.Plain) : ∀ line ∈ o.lines, OneLine line := by
  intro line hline
  simp only [lines, List.mem_append, List.mem_flatMap, List.mem_map] at hline
  rcases hline with ⟨d, hd, hline⟩ | ⟨e, he, rfl⟩
  · have hplain := h.declarations d hd
    simp only [DeclarationOutline.lines, List.cons_append, List.mem_cons, List.mem_append,
      List.mem_map, List.not_mem_nil, or_false] at hline
    rcases hline with rfl | ⟨m, hm, rfl⟩ | rfl
    · exact DeclarationOutline.oneLine_header hplain
    · exact MemberOutline.oneLine_line (hplain.members m hm)
    · decide
  · exact EntryOutline.oneLine_line (h.entries e he)

theorem text_inj {o o' : Outline} (h : o.Plain) (h' : o'.Plain) (heq : o.text = o'.text) :
    o = o' := by
  have hchars (p : Outline) :
      p.text.toList = (p.lines.map String.toList).flatMap (· ++ ['\n']) := by
    simp [text, String.toList_join, List.flatMap_map]
  have hfeeds {p : Outline} (hp : p.Plain) : ∀ line ∈ p.lines.map String.toList, '\n' ∉ line := by
    intro line hline
    obtain ⟨s, hs, rfl⟩ := List.mem_map.1 hline
    exact oneLine_lines hp s hs
  have hclosed := closed_lines_inj (hfeeds h) (hfeeds h')
    (by rw [← hchars, ← hchars, heq])
  exact lines_inj h h' ((List.map_inj_right (fun _ _ => String.toList_inj.1)).1 hclosed)

end Outline

end BridgeTypings.Emission
