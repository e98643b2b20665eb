namespace BridgeTypings.Text

variable {α : Type}

theorem append_inj_of_free {stop : α → Prop} {front front' behind behind' : List α}
    (hfront : ∀ a ∈ front, ¬ stop a) (hfront' : ∀ a ∈ front', ¬ stop a)
    (hbehind : ∀ a ∈ behind.head?, stop a) (hbehind' : ∀ a ∈ behind'.head?, stop a)
    (h : front ++ behind = front' ++ behind') : front = front' ∧ behind = behind' := by
  induction front generalizing front' with
  | nil =>
      cases front' with
      | nil => exact ⟨rfl, h⟩
      | cons a rest =>
          obtain rfl : behind = a :: (rest ++ behind') := h
          exact absurd (hbehind a rfl) (hfront' a List.mem_cons_self)
  | cons a rest ih =>
      cases front' with
      | nil =>
          obtain rfl : a :: (rest ++ behind) = behind' := h
          exact absurd (hbehind' a rfl) (hfront a List.mem_cons_self)
      | cons b rest' =>
          obtain ⟨rfl, htail⟩ := List.cons.inj h
          obtain ⟨rfl, hrest⟩ := ih (fun x hx => hfront x (List.mem_cons_of_mem _ hx))
            (fun x hx => hfront' x (List.mem_cons_of_mem _ hx)) htail
          exact ⟨rfl, hrest⟩

theorem append_cons_inj {stop : α → Prop} {front front' behind behind' : List α} {c c' : α}
    (hfront : ∀ a ∈ front, ¬ stop a) (hfront' : ∀ a ∈ front', ¬ stop a)
    (hc : stop c) (hc' : stop c') (h : front ++ c :: behind = front' ++ c' :: behind') :
    front = front' ∧ c = c' ∧ behind = behind' := by
  obtain ⟨hfronts, hbehind⟩ := append_inj_of_free hfront hfront' (by simpa using hc)
    (by simpa using hc') h
  exact ⟨hfronts, List.cons.inj hbehind⟩

theorem append_cons_inj_last {stop : α → Prop} {front front' behind behind' : List α} {c c' : α}
    (hbehind : ∀ a ∈ behind, ¬ stop a) (hbehind' : ∀ a ∈ behind', ¬ stop a)
    (hc : stop c) (hc' : stop c') (h : front ++ c :: behind = front' ++ c' :: behind') :
    front = front' ∧ c = c' ∧ behind = behind' := by
  have hreverse : behind.reverse ++ c :: front.reverse = behind'.reverse ++ c' :: front'.reverse := by
    simpa using congrArg List.reverse h
  obtain ⟨hb, hcc, hf⟩ := append_cons_inj (fun a ha => hbehind a (List.mem_reverse.1 ha))
    (fun a ha => hbehind' a (List.mem_reverse.1 ha)) hc hc' hreverse
  exact ⟨List.reverse_inj.1 hf, hcc, List.reverse_inj.1 hb⟩

theorem map_inj_on {β : Type} {f : α → β} {l l' : List α} (h : l.map f = l'.map f)
    (hinj : ∀ a ∈ l, ∀ a' ∈ l', f a = f a' → a = a') : l = l' := by
  induction l generalizing l' with
  | nil => simpa using h.symm
  | cons a rest ih =>
      cases l' with
      | nil => simp at h
      | cons a' rest' =>
          simp only [List.map_cons, List.cons.injEq] at h
          rw [hinj a List.mem_cons_self a' List.mem_cons_self h.1,
            ih h.2 (fun x hx y hy =>
              hinj x (List.mem_cons_of_mem _ hx) y (List.mem_cons_of_mem _ hy))]

theorem exists_map_eq {β : Type} {f : α → β} {P : α → Prop} {l' : List β}
    (h : ∀ b ∈ l', ∃ a, P a ∧ f a = b) : ∃ l : List α, (∀ a ∈ l, P a) ∧ l.map f = l' := by
  induction l' with
  | nil => exact ⟨[], nofun, rfl⟩
  | cons b rest ih =>
      obtain ⟨⟨a, ha, rfl⟩, hrest⟩ := List.forall_mem_cons.1 h
      obtain ⟨l, hl, rfl⟩ := ih hrest
      exact ⟨a :: l, List.forall_mem_cons.2 ⟨ha, hl⟩, rfl⟩

theorem closed_lines_inj {close : α} {lines lines' : List (List α)}
    (h : ∀ line ∈ lines, close ∉ line) (h' : ∀ line ∈ lines', close ∉ line)
    (heq : lines.flatMap (· ++ [close]) = lines'.flatMap (· ++ [close])) : lines = lines' := by
  induction lines generalizing lines' with
  | nil =>
      cases lines' with
      | nil => rfl
      | cons line rest => simp at heq
  | cons line rest ih =>
      cases lines' with
      | nil => simp at heq
      | cons line' rest' =>
          simp only [List.flatMap_cons, List.append_assoc, List.singleton_append] at heq
          have hline : ∀ a ∈ line, ¬ a = close := fun a ha he => h _ List.mem_cons_self (he ▸ ha)
          have hline' : ∀ a ∈ line', ¬ a = close := fun a ha he => h' _ List.mem_cons_self (he ▸ ha)
          obtain ⟨rfl, -, hrest⟩ := append_cons_inj hline hline' rfl rfl heq
          rw [ih (fun l hl => h l (List.mem_cons_of_mem _ hl))
            (fun l hl => h' l (List.mem_cons_of_mem _ hl)) hrest]

theorem toList_commas_cons (word : String) (rest : List String) :
    (", ".intercalate (word :: rest)).toList =
      word.toList ++ rest.flatMap (fun w => ',' :: ' ' :: w.toList) := by
  induction rest generalizing word with
  | nil => simp
  | cons second more ih =>
      rw [String.intercalate_cons_cons, String.toList_append, String.toList_append, ih,
        List.flatMap_cons]
      simp

theorem comma_list_inj {words words' : List (List Char)} {behind behind' : List Char}
    (hne : words ≠ []) (hne' : words' ≠ [])
    (h : ∀ w ∈ words, ∀ c ∈ w, ¬ (c = ',' ∨ c = ' ')) (h' : ∀ w ∈ words', ∀ c ∈ w, ¬ (c = ',' ∨ c = ' '))
    (heq : [',', ' '].intercalate words ++ ' ' :: behind =
      [',', ' '].intercalate words' ++ ' ' :: behind') :
    words = words' ∧ behind = behind' := by
  induction words generalizing words' with
  | nil => exact absurd rfl hne
  | cons w rest ih =>
      obtain ⟨w', rest', rfl⟩ := List.exists_cons_of_ne_nil hne'
      have hw := h w List.mem_cons_self
      have hw' := h' w' List.mem_cons_self
      cases rest with
      | nil =>
          cases rest' with
          | nil =>
              simp only [List.intercalate_singleton] at heq
              obtain ⟨rfl, -, hbehind⟩ := append_cons_inj hw hw' (.inr rfl) (.inr rfl) heq
              exact ⟨rfl, hbehind⟩
          | cons v' more' =>
              simp only [List.intercalate_singleton, List.intercalate_cons_cons, List.append_assoc,
                List.cons_append, List.nil_append] at heq
              obtain ⟨-, hc, -⟩ := append_cons_inj hw hw' (.inr rfl) (.inl rfl) heq
              exact absurd hc (by decide)
      | cons v more =>
          cases rest' with
          | nil =>
              simp only [List.intercalate_singleton, List.intercalate_cons_cons, List.append_assoc,
                List.cons_append, List.nil_append] at heq
              obtain ⟨-, hc, -⟩ := append_cons_inj hw hw' (.inl rfl) (.inr rfl) heq
              exact absurd hc (by decide)
          | cons v' more' =>
              simp only [List.intercalate_cons_cons, List.append_assoc, List.cons_append,
                List.nil_append] at heq
              obtain ⟨rfl, -, htail⟩ := append_cons_inj hw hw' (.inl rfl) (.inl rfl) heq
              obtain ⟨hrest, hbehind⟩ := ih (by simp) (by simp)
                (fun x hx => h x (List.mem_cons_of_mem _ hx))
                (fun x hx => h' x (List.mem_cons_of_mem _ hx)) (List.cons.inj htail).2
              exact ⟨by rw [hrest], hbehind⟩

end BridgeTypings.Text
