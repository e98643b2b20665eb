import BridgeTypings.Proofs.Output.Unambiguity

namespace BridgeTypings.Emission

open Text

structure IsWord (text : String) : Prop where
  nonempty : text ≠ ""
  plain : IsPlain text

instance (text : String) : Decidable (IsWord text) :=
  decidable_of_iff (text ≠ "" ∧ IsPlain text) ⟨fun h => ⟨h.1, h.2⟩, fun h => ⟨h.nonempty, h.plain⟩⟩

mutual

inductive Layout where
  | mk (word : String) (behind : List Suffix)

inductive Suffix where
  | clause (arguments : List Layout)
  | member (word : String)
  | brackets

end

mutual

def Layout.text : Layout → String
  | .mk word behind => word ++ suffixesText behind

def Suffix.text : Suffix → String
  | .clause arguments => "<" ++ ", ".intercalate (layoutTexts arguments) ++ ">"
  | .member word => "." ++ word
  | .brackets => "[]"

def layoutTexts : List Layout → List String
  | [] => []
  | l :: rest => l.text :: layoutTexts rest

def suffixesText : List Suffix → String
  | [] => ""
  | s :: rest => s.text ++ suffixesText rest

end

theorem layoutTexts_eq_map (ls : List Layout) : layoutTexts ls = ls.map Layout.text := by
  induction ls with
  | nil => rfl
  | cons l rest ih => rw [layoutTexts, List.map_cons, ih]

theorem suffixesText_append (ss ss' : List Suffix) :
    suffixesText (ss ++ ss') = suffixesText ss ++ suffixesText ss' := by
  induction ss with
  | nil => simp [suffixesText]
  | cons s rest ih => rw [List.cons_append, suffixesText, ih, suffixesText, String.append_assoc]

inductive Layout.Worded : Layout → Prop
  | mk {word : String} {behind : List Suffix} :
      IsWord word → (∀ w, .member w ∈ behind → IsWord w) →
      (∀ arguments, .clause arguments ∈ behind → ∀ l ∈ arguments, Worded l) →
      Worded (.mk word behind)

def Closes (rest : List Char) : Prop :=
  ∀ c ∈ rest.head?, c = ',' ∨ c = '>'

def Delimited (rest : List Char) : Prop :=
  ∀ c ∈ rest.head?, c ∈ delimiters

def Layout.Determined (l : Layout) : Prop :=
  ∀ l' rest rest', l'.Worded → Closes rest → Closes rest' →
    l.text.toList ++ rest = l'.text.toList ++ rest' → l = l' ∧ rest = rest'

def Suffix.All (P : Layout → Prop) : Suffix → Prop
  | .clause arguments => ∀ l ∈ arguments, P l
  | .member word => IsWord word
  | .brackets => True

theorem Layout.worded_iff {word : String} {behind : List Suffix} :
    (Layout.mk word behind).Worded ↔ IsWord word ∧ ∀ s ∈ behind, s.All Layout.Worded := by
  constructor
  · rintro ⟨hword, hmembers, harguments⟩
    refine ⟨hword, fun s hs => ?_⟩
    cases s with
    | clause arguments => exact harguments arguments hs
    | member w => exact hmembers w hs
    | brackets => trivial
  · rintro ⟨hword, hbehind⟩
    exact .mk hword (fun w hw => hbehind (.member w) hw)
      fun arguments hclause => hbehind (.clause arguments) hclause

theorem Closes.delimited {rest : List Char} (h : Closes rest) : Delimited rest := by
  intro c hc
  rcases h c hc with rfl | rfl <;> decide

theorem word_append_inj {w w' : String} {rest rest' : List Char} (hw : IsPlain w) (hw' : IsPlain w')
    (hrest : Delimited rest) (hrest' : Delimited rest')
    (heq : w.toList ++ rest = w'.toList ++ rest') : w = w' ∧ rest = rest' := by
  obtain ⟨hword, htail⟩ := append_inj_of_free hw hw' hrest hrest' heq
  exact ⟨String.toList_inj.1 hword, htail⟩

theorem Layout.Worded.front {l : Layout} (h : l.Worded) :
    ∃ c cs, l.text.toList = c :: cs ∧ c ∉ delimiters := by
  cases h with
  | @mk word behind hword _ _ =>
      obtain ⟨c, cs, hchars⟩ := List.exists_cons_of_ne_nil
        (fun hnil => hword.nonempty (String.toList_eq_nil_iff.1 hnil))
      refine ⟨c, cs ++ (suffixesText behind).toList, ?_, hword.plain c ?_⟩
      · rw [Layout.text, String.toList_append, hchars, List.cons_append]
      · rw [hchars]
        exact List.mem_cons_self

def furtherArguments (ls : List Layout) : List Char :=
  ls.flatMap (fun l => ',' :: ' ' :: l.text.toList)

theorem toList_clause (ls : List Layout) :
    (Suffix.clause ls).text.toList =
      '<' :: ((", ".intercalate (ls.map Layout.text)).toList ++ ['>']) := by
  rw [Suffix.text, layoutTexts_eq_map]
  simp

theorem toList_arguments_cons (l : Layout) (rest : List Layout) :
    (", ".intercalate ((l :: rest).map Layout.text)).toList =
      l.text.toList ++ furtherArguments rest := by
  rw [List.map_cons, toList_commas_cons, List.flatMap_map, furtherArguments]

theorem closes_further (ls : List Layout) (rest : List Char) :
    Closes (furtherArguments ls ++ '>' :: rest) := by
  cases ls <;> simp [Closes, furtherArguments]

theorem further_append_inj {ls ls' : List Layout} {rest rest' : List Char}
    (h : ∀ l ∈ ls, l.Determined) (h' : ∀ l ∈ ls', l.Worded)
    (heq : furtherArguments ls ++ '>' :: rest = furtherArguments ls' ++ '>' :: rest') :
    ls = ls' ∧ rest = rest' := by
  induction ls generalizing ls' with
  | nil =>
      cases ls' with
      | nil => simpa [furtherArguments] using heq
      | cons l' more' => simp [furtherArguments] at heq
  | cons l more ih =>
      cases ls' with
      | nil => simp [furtherArguments] at heq
      | cons l' more' =>
          have hsplit (a : Layout) (as : List Layout) (cs : List Char) :
              furtherArguments (a :: as) ++ '>' :: cs =
                ',' :: ' ' :: (a.text.toList ++ (furtherArguments as ++ '>' :: cs)) := by
            simp [furtherArguments]
          rw [hsplit, hsplit] at heq
          obtain ⟨rfl, hmore⟩ := h l List.mem_cons_self l' _ _ (h' l' List.mem_cons_self)
            (closes_further more rest) (closes_further more' rest')
            (List.cons.inj (List.cons.inj heq).2).2
          obtain ⟨rfl, hrest⟩ := ih (fun a ha => h a (List.mem_cons_of_mem _ ha))
            (fun a ha => h' a (List.mem_cons_of_mem _ ha)) hmore
          exact ⟨rfl, hrest⟩

theorem arguments_append_inj {ls ls' : List Layout} {rest rest' : List Char}
    (h : ∀ l ∈ ls, l.Worded ∧ l.Determined) (h' : ∀ l ∈ ls', l.Worded)
    (heq : (", ".intercalate (ls.map Layout.text)).toList ++ '>' :: rest =
      (", ".intercalate (ls'.map Layout.text)).toList ++ '>' :: rest') :
    ls = ls' ∧ rest = rest' := by
  -- no argument begins with the end of the clause
  have hfront {l : Layout} (hl : l.Worded) {more cs : List Char} :
      l.text.toList ++ more ≠ '>' :: cs := by
    obtain ⟨c, front, hchars, hc⟩ := hl.front
    rw [hchars]
    rintro ⟨⟩
    exact hc (by decide)
  cases ls with
  | nil =>
      cases ls' with
      | nil => simpa using heq
      | cons l' more' =>
          rw [toList_arguments_cons, List.append_assoc] at heq
          exact absurd heq.symm (hfront (h' l' List.mem_cons_self))
  | cons l more =>
      obtain ⟨⟨hworded, hdetermined⟩, hmore⟩ := List.forall_mem_cons.1 h
      cases ls' with
      | nil =>
          rw [toList_arguments_cons, List.append_assoc] at heq
          exact absurd heq (hfront hworded)
      | cons l' more' =>
          rw [toList_arguments_cons, toList_arguments_cons, List.append_assoc,
            List.append_assoc] at heq
          obtain ⟨rfl, hfurther⟩ := hdetermined l' _ _ (h' l' List.mem_cons_self)
            (closes_further more rest) (closes_further more' rest') heq
          obtain ⟨rfl, hrest⟩ := further_append_inj (fun a ha => (hmore a ha).2)
            (fun a ha => h' a (List.mem_cons_of_mem _ ha)) hfurther
          exact ⟨rfl, hrest⟩

theorem suffix_append_inj {s s' : Suffix} {rest rest' : List Char}
    (h : s.All fun l => l.Worded ∧ l.Determined) (h' : s'.All Layout.Worded)
    (hrest : Delimited rest) (hrest' : Delimited rest')
    (heq : s.text.toList ++ rest = s'.text.toList ++ rest') : s = s' ∧ rest = rest' := by
  cases s with
  | clause ls =>
      rw [toList_clause] at heq
      cases s' with
      | clause ls' =>
          rw [toList_clause] at heq
          simp only [List.cons_append, List.append_assoc, List.cons.injEq, true_and,
            List.nil_append] at heq
          obtain ⟨rfl, htail⟩ := arguments_append_inj h h' heq
          exact ⟨rfl, htail⟩
      | member w' => simp [Suffix.text] at heq
      | brackets => simp [Suffix.text] at heq
  | member w =>
      cases s' with
      | clause ls' =>
          rw [toList_clause] at heq
          simp [Suffix.text] at heq
      | member w' =>
          simp only [Suffix.text, String.toList_append, List.append_assoc] at heq
          obtain ⟨rfl, htail⟩ := word_append_inj h.plain h'.plain hrest hrest'
            (List.append_cancel_left heq)
          exact ⟨rfl, htail⟩
      | brackets => simp [Suffix.text] at heq
  | brackets =>
      cases s' with
      | clause ls' =>
          rw [toList_clause] at heq
          simp [Suffix.text] at heq
      | member w' => simp [Suffix.text] at heq
      | brackets => exact ⟨rfl, List.append_cancel_left heq⟩

theorem Suffix.front (s : Suffix) : ∃ c cs, s.text.toList = c :: cs ∧ c ∈ ['<', '.', '['] := by
  cases s with
  | clause ls => exact ⟨_, _, toList_clause ls, by decide⟩
  | member w => exact ⟨'.', w.toList, by simp [Suffix.text], by decide⟩
  | brackets => exact ⟨'[', [']'], rfl, by decide⟩

theorem delimited_suffixes (ss : List Suffix) {rest : List Char} (h : Closes rest) :
    Delimited ((suffixesText ss).toList ++ rest) := by
  cases ss with
  | nil => exact h.delimited
  | cons s more =>
      obtain ⟨c, cs, hchars, hc⟩ := s.front
      rw [suffixesText, String.toList_append, hchars]
      have hdelimiters : ∀ c ∈ ['<', '.', '['], c ∈ delimiters := by simp [delimiters]
      rintro _ ⟨⟩
      exact hdelimiters c hc

theorem suffixes_append_inj {ss ss' : List Suffix} {rest rest' : List Char}
    (h : ∀ s ∈ ss, s.All fun l => l.Worded ∧ l.Determined) (h' : ∀ s ∈ ss', s.All Layout.Worded)
    (hrest : Closes rest) (hrest' : Closes rest')
    (heq : (suffixesText ss).toList ++ rest = (suffixesText ss').toList ++ rest') :
    ss = ss' ∧ rest = rest' := by
  -- a suffix does not begin as what closes a type does
  have hfront (s : Suffix) {more cs : List Char} (hcs : Closes cs) :
      s.text.toList ++ more ≠ cs := by
    obtain ⟨c, front, hchars, hc⟩ := s.front
    rw [hchars]
    rintro rfl
    rcases hcs c rfl with rfl | rfl <;> simp at hc
  induction ss generalizing ss' with
  | nil =>
      cases ss' with
      | nil => exact ⟨rfl, heq⟩
      | cons s' more' =>
          rw [suffixesText, suffixesText, String.toList_append, List.append_assoc] at heq
          exact absurd heq.symm (hfront s' hrest)
  | cons s more ih =>
      cases ss' with
      | nil =>
          rw [suffixesText, suffixesText, String.toList_append, List.append_assoc] at heq
          exact absurd heq (hfront s hrest')
      | cons s' more' =>
          rw [suffixesText, suffixesText, String.toList_append, String.toList_append,
            List.append_assoc, List.append_assoc] at heq
          obtain ⟨rfl, hmore⟩ := suffix_append_inj (h s List.mem_cons_self)
            (h' s' List.mem_cons_self) (delimited_suffixes more hrest)
            (delimited_suffixes more' hrest') heq
          obtain ⟨rfl, htail⟩ := ih (fun a ha => h a (List.mem_cons_of_mem _ ha))
            (fun a ha => h' a (List.mem_cons_of_mem _ ha)) hmore
          exact ⟨rfl, htail⟩

namespace Layout

theorem Worded.determined {l : Layout} (h : l.Worded) : l.Determined := by
  induction h with
  | @mk word behind hword hmembers harguments ih =>
      rintro ⟨word', behind'⟩ rest rest' h' hrest hrest' heq
      have hsuffixes : ∀ s ∈ behind, s.All fun l => l.Worded ∧ l.Determined := by
        intro s hs
        cases s with
        | clause ls => exact fun l hl => ⟨harguments ls hs l hl, ih ls hs l hl⟩
        | member w => exact hmembers w hs
        | brackets => trivial
      rw [text, text, String.toList_append, String.toList_append, List.append_assoc,
        List.append_assoc] at heq
      obtain ⟨hword', hsuffixes'⟩ := worded_iff.1 h'
      obtain ⟨rfl, hbehind⟩ := word_append_inj hword.plain hword'.plain
        (delimited_suffixes behind hrest) (delimited_suffixes behind' hrest') heq
      obtain ⟨rfl, htail⟩ := suffixes_append_inj hsuffixes hsuffixes' hrest hrest' hbehind
      exact ⟨rfl, htail⟩

theorem text_inj {l l' : Layout} (h : l.Worded) (h' : l'.Worded) (heq : l.text = l'.text) :
    l = l' := by
  have hnothing : Closes [] := nofun
  obtain ⟨hlayout, -⟩ := h.determined l' [] [] h' hnothing hnothing (by rw [heq])
  exact hlayout

end Layout

end BridgeTypings.Emission
