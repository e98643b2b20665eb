import BridgeTypings.Proofs.Output.Outline
import BridgeTypings.Proofs.Text.Splitting
import BridgeTypings.Proofs.Types

namespace BridgeTypings.Emission

open Text

def delimiters : List Char :=
  ['\n', ' ', ',', '.', ':', ';', '(', ')', '[', ']', '<', '>', '\x7b', '\x7d']

def IsPlain (name : String) : Prop :=
  ∀ c ∈ name.toList, c ∉ delimiters

instance (name : String) : Decidable (IsPlain name) :=
  List.decidableBAll (fun c => c ∉ delimiters) name.toList

def IsTypeText (text : String) : Prop :=
  ∀ c ∈ text.toList, c ∉ ['\n', ':', '(', ')']

instance (text : String) : Decidable (IsTypeText text) :=
  List.decidableBAll (fun c => c ∉ ['\n', ':', '(', ')']) text.toList

structure ParameterOutline.Plain (p : ParameterOutline) : Prop where
  name : IsPlain p.name
  type : IsTypeText p.type

def MemberOutline.Plain : MemberOutline → Prop
  | .field name type => IsPlain name ∧ IsTypeText type
  | .method name parameters returns =>
      IsPlain name ∧ (∀ p ∈ parameters, p.Plain) ∧ IsTypeText returns

structure DeclarationOutline.Plain (d : DeclarationOutline) : Prop where
  keyword : IsPlain d.keyword
  name : IsPlain d.name
  parents : ∀ t ∈ d.parents, IsPlain t
  implements : ∀ t ∈ d.implements, IsPlain t
  members : ∀ m ∈ d.members, m.Plain

structure EntryOutline.Plain (e : EntryOutline) : Prop where
  name : IsPlain e.name
  type : IsTypeText e.type

structure Outline.Plain (o : Outline) : Prop where
  declarations : ∀ d ∈ o.declarations, d.Plain
  entries : ∀ e ∈ o.entries, e.Plain

namespace ParameterOutline

def head (p : ParameterOutline) : List Char :=
  (if p.variadic then ['.', '.', '.'] else []) ++ p.name.toList

def tail (p : ParameterOutline) : List Char :=
  p.type.toList ++ (if p.variadic then ['[', ']'] else [])

theorem toList_text (p : ParameterOutline) : p.text.toList = p.head ++ ':' :: ' ' :: p.tail := by
  unfold text head tail
  cases p.variadic <;> simp

theorem eq_of_head_tail {p q : ParameterOutline} (hp : p.Plain) (hq : q.Plain)
    (hhead : p.head = q.head) (htail : p.tail = q.tail) : p = q := by
  obtain ⟨name, variadic, type⟩ := p
  obtain ⟨name', variadic', type'⟩ := q
  have hdot : ¬ name.toList = '.' :: '.' :: '.' :: name'.toList := fun he =>
    hp.name '.' (by simp [he]) (by decide)
  have hdot' : ¬ '.' :: '.' :: '.' :: name.toList = name'.toList := fun he =>
    hq.name '.' (by simp [← he]) (by decide)
  cases variadic <;> cases variadic' <;>
    simp_all [head, tail, String.toList_inj]

theorem head_free {p : ParameterOutline} (hp : p.Plain) :
    ∀ c ∈ p.head, c ∉ [',', ':', ')'] := by
  intro c hc
  rcases List.mem_append.1 hc with hdots | hname
  · cases hvariadic : p.variadic <;> simp_all
  · have hplain := hp.name c hname
    simp only [delimiters, List.mem_cons, List.not_mem_nil, or_false, not_or] at hplain ⊢
    exact ⟨hplain.2.2.1, hplain.2.2.2.2.1, hplain.2.2.2.2.2.2.2.1⟩

theorem tail_free {p : ParameterOutline} (hp : p.Plain) : ∀ c ∈ p.tail, c ∉ [':', ')'] := by
  intro c hc
  rcases List.mem_append.1 hc with htype | hbrackets
  · have hplain := hp.type c htype
    simp only [List.mem_cons, List.not_mem_nil, or_false, not_or] at hplain ⊢
    exact ⟨hplain.2.1, hplain.2.2.2⟩
  · cases hvariadic : p.variadic <;> simp_all
    rcases hbrackets with rfl | rfl <;> decide

end ParameterOutline

def furtherParameters (parameters : List ParameterOutline) : List Char :=
  parameters.flatMap (fun p => ',' :: ' ' :: p.text.toList)

theorem further_cons_split (type behind : List Char) (p : ParameterOutline)
    (rest : List ParameterOutline) :
    type ++ furtherParameters (p :: rest) ++ ')' :: behind =
      (type ++ ',' :: ' ' :: p.head) ++
        ':' :: ' ' :: (p.tail ++ furtherParameters rest ++ ')' :: behind) := by
  simp [furtherParameters, ParameterOutline.toList_text]

theorem toList_parameters_cons (p : ParameterOutline) (rest : List ParameterOutline)
    (behind : List Char) :
    (", ".intercalate ((p :: rest).map ParameterOutline.text)).toList ++ ')' :: behind =
      p.head ++ ':' :: ' ' :: (p.tail ++ furtherParameters rest ++ ')' :: behind) := by
  rw [List.map_cons, toList_commas_cons, List.flatMap_map, ParameterOutline.toList_text]
  simp [furtherParameters]

theorem nothing_free : ∀ c ∈ ([] : List Char), c ∉ [':', ')'] := by
  simp

theorem head_stop_free {p : ParameterOutline} (hp : p.Plain) :
    ∀ c ∈ p.head, c ∉ [':', ')'] := fun c hc hmem =>
  ParameterOutline.head_free hp c hc (List.mem_cons_of_mem _ hmem)

theorem front_free {type : List Char} {p : ParameterOutline} (htype : ∀ c ∈ type, c ∉ [':', ')'])
    (hp : p.Plain) : ∀ c ∈ type ++ ',' :: ' ' :: p.head, c ∉ [':', ')'] := by
  intro c hc
  simp only [List.mem_append, List.mem_cons] at hc
  rcases hc with hc | rfl | rfl | hc
  · exact htype c hc
  · decide
  · decide
  · exact head_stop_free hp c hc

theorem blank_head_free {p : ParameterOutline} (hp : p.Plain) :
    ∀ c ∈ ' ' :: p.head, c ∉ [','] := by
  intro c hc
  rcases List.mem_cons.1 hc with rfl | hc
  · decide
  · intro hcomma
    exact ParameterOutline.head_free hp c hc (by simp_all)

theorem further_inj {parameters parameters' : List ParameterOutline}
    {type type' behind behind' : List Char}
    (h : ∀ p ∈ parameters, p.Plain) (h' : ∀ p ∈ parameters', p.Plain)
    (htype : ∀ c ∈ type, c ∉ [':', ')']) (htype' : ∀ c ∈ type', c ∉ [':', ')'])
    (heq : type ++ furtherParameters parameters ++ ')' :: behind =
      type' ++ furtherParameters parameters' ++ ')' :: behind') :
    type = type' ∧ parameters = parameters' ∧ behind = behind' := by
  induction parameters generalizing parameters' type type' with
  | nil =>
      cases parameters' with
      | nil =>
          simp only [furtherParameters, List.flatMap_nil, List.append_nil] at heq
          obtain ⟨rfl, -, rfl⟩ := append_cons_inj htype htype' (by simp) (by simp) heq
          exact ⟨rfl, rfl, rfl⟩
      | cons q rest' =>
          rw [further_cons_split] at heq
          simp only [furtherParameters, List.flatMap_nil, List.append_nil] at heq
          have hfront' := front_free htype' (h' q List.mem_cons_self)
          obtain ⟨-, hc, -⟩ := append_cons_inj htype hfront' (by simp) (by simp) heq
          exact absurd hc (by decide)
  | cons p rest ih =>
      have hp := h p List.mem_cons_self
      have hfront := front_free htype hp
      cases parameters' with
      | nil =>
          rw [further_cons_split] at heq
          simp only [furtherParameters, List.flatMap_nil, List.append_nil] at heq
          obtain ⟨-, hc, -⟩ := append_cons_inj hfront htype' (by simp) (by simp) heq
          exact absurd hc (by decide)
      | cons q rest' =>
          have hq := h' q List.mem_cons_self
          rw [further_cons_split, further_cons_split] at heq
          obtain ⟨hhead, -, hrest⟩ :=
            append_cons_inj hfront (front_free htype' hq) (by simp) (by simp) heq
          -- the last comma before the colon is the separator: no head has one
          obtain ⟨rfl, -, hheads⟩ := append_cons_inj_last (blank_head_free hp) (blank_head_free hq)
            (by simp) (by simp) hhead
          obtain ⟨htail, rfl, rfl⟩ := ih (fun x hx => h x (List.mem_cons_of_mem _ hx))
            (fun x hx => h' x (List.mem_cons_of_mem _ hx)) (ParameterOutline.tail_free hp)
            (ParameterOutline.tail_free hq) (List.cons.inj hrest).2
          rw [ParameterOutline.eq_of_head_tail hp hq (List.cons.inj hheads).2 htail]
          exact ⟨rfl, rfl, rfl⟩

theorem parameters_inj {parameters parameters' : List ParameterOutline}
    {behind behind' : List Char}
    (h : ∀ p ∈ parameters, p.Plain) (h' : ∀ p ∈ parameters', p.Plain)
    (heq : (", ".intercalate (parameters.map ParameterOutline.text)).toList ++ ')' :: behind =
      (", ".intercalate (parameters'.map ParameterOutline.text)).toList ++ ')' :: behind') :
    parameters = parameters' ∧ behind = behind' := by
  cases parameters with
  | nil =>
      cases parameters' with
      | nil => simpa using heq
      | cons q rest' =>
          have hq := h' q List.mem_cons_self
          rw [toList_parameters_cons] at heq
          obtain ⟨-, hc, -⟩ :=
            append_cons_inj nothing_free (head_stop_free hq) (by simp) (by simp) heq
          exact absurd hc (by decide)
  | cons p rest =>
      have hp := h p List.mem_cons_self
      cases parameters' with
      | nil =>
          rw [toList_parameters_cons] at heq
          obtain ⟨-, hc, -⟩ :=
            append_cons_inj (head_stop_free hp) nothing_free (by simp) (by simp) heq
          exact absurd hc (by decide)
      | cons q rest' =>
          have hq := h' q List.mem_cons_self
          rw [toList_parameters_cons, toList_parameters_cons] at heq
          obtain ⟨hhead, -, hrest⟩ :=
            append_cons_inj (head_stop_free hp) (head_stop_free hq) (by simp) (by simp) heq
          obtain ⟨htail, rfl, rfl⟩ := further_inj (fun x hx => h x (List.mem_cons_of_mem _ hx))
            (fun x hx => h' x (List.mem_cons_of_mem _ hx)) (ParameterOutline.tail_free hp)
            (ParameterOutline.tail_free hq) (List.cons.inj hrest).2
          rw [ParameterOutline.eq_of_head_tail hp hq hhead htail]
          exact ⟨rfl, rfl⟩

theorem name_free {name : String} (h : IsPlain name) {stops : List Char}
    (hstops : ∀ c ∈ stops, c ∈ delimiters) : ∀ c ∈ name.toList, c ∉ stops :=
  fun c hc hmem => h c hc (hstops c hmem)

namespace MemberOutline

theorem toList_line_field (name type : String) :
    (line (.field name type)).toList = ' ' :: ' ' :: (name.toList ++ ':' :: ' ' ::
      (type.toList ++ [';'])) := by
  simp [line]

theorem toList_line_method (name : String) (parameters : List ParameterOutline)
    (returns : String) :
    (line (.method name parameters returns)).toList = ' ' :: ' ' :: (name.toList ++ '(' ::
      ((", ".intercalate (parameters.map ParameterOutline.text)).toList ++ ')' :: ':' :: ' ' ::
        (returns.toList ++ [';']))) := by
  simp [line]

theorem line_inj {m m' : MemberOutline} (h : m.Plain) (h' : m'.Plain) (heq : m.line = m'.line) :
    m = m' := by
  have hlist := congrArg String.toList heq
  have hstops : ∀ c ∈ [':', '('], c ∈ delimiters := by simp [delimiters]
  cases m with
  | field name type =>
      cases m' with
      | field name' type' =>
          simp only [toList_line_field, List.cons.injEq, true_and] at hlist
          obtain ⟨hname, -, htype⟩ := append_cons_inj (name_free h.1 hstops)
            (name_free h'.1 hstops) (by simp) (by simp) hlist
          rw [String.toList_inj.1 hname,
            String.toList_inj.1 (List.append_cancel_right (List.cons.inj htype).2)]
      | method name' parameters' returns' =>
          simp only [toList_line_field, toList_line_method, List.cons.injEq, true_and] at hlist
          obtain ⟨-, hc, -⟩ := append_cons_inj (name_free h.1 hstops)
            (name_free h'.1 hstops) (by simp) (by simp) hlist
          exact absurd hc (by decide)
  | method name parameters returns =>
      cases m' with
      | field name' type' =>
          simp only [toList_line_field, toList_line_method, List.cons.injEq, true_and] at hlist
          obtain ⟨-, hc, -⟩ := append_cons_inj (name_free h.1 hstops)
            (name_free h'.1 hstops) (by simp) (by simp) hlist
          exact absurd hc (by decide)
      | method name' parameters' returns' =>
          simp only [toList_line_method, List.cons.injEq, true_and] at hlist
          obtain ⟨hname, -, hrest⟩ := append_cons_inj (name_free h.1 hstops)
            (name_free h'.1 hstops) (by simp) (by simp) hlist
          obtain ⟨hparameters, hreturns⟩ := parameters_inj h.2.1 h'.2.1 hrest
          have htype := (List.cons.inj (List.cons.inj hreturns).2).2
          rw [String.toList_inj.1 hname, hparameters,
            String.toList_inj.1 (List.append_cancel_right htype)]

end MemberOutline

theorem EntryOutline.line_inj {e e' : EntryOutline} (h : e.Plain) (h' : e'.Plain)
    (heq : e.line = e'.line) : e = e' := by
  obtain ⟨name, type⟩ := e
  obtain ⟨name', type'⟩ := e'
  have hstops : ∀ c ∈ [':'], c ∈ delimiters := by simp [delimiters]
  have hline (n t : String) : (EntryOutline.line ⟨n, t⟩).toList =
      "export var ".toList ++ (n.toList ++ ':' :: ' ' :: (t.toList ++ [';'])) := by
    simp [EntryOutline.line]
  have hlist := congrArg String.toList heq
  rw [hline, hline] at hlist
  obtain ⟨hname, -, htype⟩ := append_cons_inj (name_free h.name hstops) (name_free h'.name hstops)
    (by simp) (by simp) (List.append_cancel_left hlist)
  obtain rfl : name = name' := String.toList_inj.1 hname
  obtain rfl : type = type' :=
    String.toList_inj.1 (List.append_cancel_right (List.cons.inj htype).2)
  rfl

def implementsEnd (implements : List String) : List Char :=
  if implements.isEmpty then ['\x7b']
  else "implements ".toList ++
    ([',', ' '].intercalate (implements.map String.toList) ++ [' ', '\x7b'])

def headerEnd (parents implements : List String) : List Char :=
  if parents.isEmpty then implementsEnd implements
  else "extends ".toList ++
    ([',', ' '].intercalate (parents.map String.toList) ++ ' ' :: implementsEnd implements)

theorem toList_header (keyword name : String) (parents implements : List String) :
    (header keyword name parents implements).toList = "declare ".toList ++
      (keyword.toList ++ ' ' :: (name.toList ++ ' ' :: headerEnd parents implements)) := by
  unfold header headerEnd implementsEnd
  cases hp : parents.isEmpty <;> cases hi : implements.isEmpty <;>
    simp [String.toList_intercalate]

theorem words_free {words : List String} (h : ∀ w ∈ words, IsPlain w) :
    ∀ w ∈ words.map String.toList, ∀ c ∈ w, ¬ (c = ',' ∨ c = ' ') := by
  intro w hw c hc hstop
  obtain ⟨text, htext, rfl⟩ := List.mem_map.1 hw
  rcases hstop with rfl | rfl
  · exact h text htext _ hc (by decide)
  · exact h text htext _ hc (by decide)

theorem implementsEnd_inj {words words' : List String} (h : ∀ w ∈ words, IsPlain w)
    (h' : ∀ w ∈ words', IsPlain w) (heq : implementsEnd words = implementsEnd words') :
    words = words' := by
  cases words with
  | nil =>
      cases words' with
      | nil => rfl
      | cons w' rest' => simp [implementsEnd] at heq
  | cons w rest =>
      cases words' with
      | nil => simp [implementsEnd] at heq
      | cons w' rest' =>
          simp only [implementsEnd, List.isEmpty_cons, Bool.false_eq_true, if_false] at heq
          obtain ⟨hwords, -⟩ := comma_list_inj (by simp) (by simp) (words_free h) (words_free h')
            (List.append_cancel_left heq)
          exact (List.map_inj_right (fun _ _ => String.toList_inj.1)).1 hwords

theorem headerEnd_inj {parents parents' implements implements' : List String}
    (hp : ∀ w ∈ parents, IsPlain w) (hp' : ∀ w ∈ parents', IsPlain w)
    (hi : ∀ w ∈ implements, IsPlain w) (hi' : ∀ w ∈ implements', IsPlain w)
    (heq : headerEnd parents implements = headerEnd parents' implements') :
    parents = parents' ∧ implements = implements' := by
  have hfirst (words : List String) (rest : List Char) :
      implementsEnd words ≠ 'e' :: rest := by
    unfold implementsEnd
    split <;> simp
  cases parents with
  | nil =>
      cases parents' with
      | nil => exact ⟨rfl, implementsEnd_inj hi hi' heq⟩
      | cons w' rest' => exact absurd heq (hfirst _ _)
  | cons w rest =>
      cases parents' with
      | nil => exact absurd heq.symm (hfirst _ _)
      | cons w' rest' =>
          simp only [headerEnd, List.isEmpty_cons, Bool.false_eq_true, if_false] at heq
          obtain ⟨hwords, hend⟩ := comma_list_inj (by simp) (by simp) (words_free hp)
            (words_free hp') (List.append_cancel_left heq)
          exact ⟨(List.map_inj_right (fun _ _ => String.toList_inj.1)).1 hwords,
            implementsEnd_inj hi hi' hend⟩

end BridgeTypings.Emission
