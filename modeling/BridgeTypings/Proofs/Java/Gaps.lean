import BridgeTypings.Java.Lexical

namespace BridgeTypings.Java

def IsCommentBody (text : List Char) : Prop :=
  ∀ front rest, text ≠ front ++ '*' :: '/' :: rest

inductive IsGap : List Char → Prop
  | nil : IsGap []
  | blank {c : Char} {cs : List Char} : isBlank c = true → IsGap cs → IsGap (c :: cs)
  | line {text cs : List Char} :
      '\n' ∉ text → IsGap cs → IsGap ('/' :: '/' :: text ++ '\n' :: cs)
  | block {text cs : List Char} :
      IsCommentBody text → IsGap cs → IsGap ('/' :: '*' :: text ++ '*' :: '/' :: cs)

theorem skip_blank {c : Char} (h : isBlank c = true) (cs : List Char) :
    Gap.skip .between (c :: cs) = Gap.skip .between cs := by
  have hslash : c ≠ '/' := by
    rintro rfl
    exact absurd h (by decide)
  rw [Gap.skip, if_pos h]
  · rintro _ rfl
    exact absurd rfl hslash
  · rintro _ rfl
    exact absurd rfl hslash

theorem skip_line {text : List Char} (h : '\n' ∉ text) (cs : List Char) :
    Gap.skip .line (text ++ '\n' :: cs) = Gap.skip .between cs := by
  induction text with
  | nil => rfl
  | cons c text ih =>
      rw [List.mem_cons, not_or] at h
      rw [List.cons_append, Gap.skip, ih h.2]
      rintro rfl
      exact h.1 rfl

def star (starred : Bool) : List Char :=
  if starred then ['*'] else []

theorem IsCommentBody.tail {starred : Bool} {c : Char} {text : List Char}
    (h : IsCommentBody (star starred ++ c :: text)) : IsCommentBody (star (c == '*') ++ text) := by
  intro front rest heq
  by_cases hc : c = '*'
  · subst hc
    change '*' :: text = _ at heq
    exact h (star starred ++ front) rest (by rw [heq, List.append_assoc])
  · rw [beq_eq_false_iff_ne.2 hc] at heq
    change text = _ at heq
    exact h (star starred ++ c :: front) rest (by rw [heq, List.append_assoc, List.cons_append])

theorem skip_block {starred : Bool} {text : List Char} (h : IsCommentBody (star starred ++ text))
    (opening cs : List Char) :
    Gap.skip (.block opening starred) (text ++ '*' :: '/' :: cs) = Gap.skip .between cs := by
  induction text generalizing starred with
  | nil => cases starred <;> rfl
  | cons c text ih =>
      have hopen : (starred && c == '/') = false := by
        cases starred with
        | false => rfl
        | true =>
            rw [Bool.true_and, beq_eq_false_iff_ne]
            rintro rfl
            exact h [] text rfl
      rw [List.cons_append, Gap.skip, if_neg (by simp [hopen]), ih h.tail]

theorem skipGap_append {gap : List Char} (h : IsGap gap) (cs : List Char) :
    skipGap (gap ++ cs) = skipGap cs := by
  unfold skipGap
  induction h with
  | nil => rfl
  | blank hblank _ ih => rw [List.cons_append, skip_blank hblank, ih]
  | @line text gap htext _ ih =>
      rw [← ih, ← skip_line htext (gap ++ cs), List.append_assoc]
      rfl
  | @block text gap htext _ ih =>
      rw [← ih, ← @skip_block false _ htext ('/' :: '*' :: (text ++ '*' :: '/' :: (gap ++ cs))) (gap ++ cs),
        List.append_assoc]
      rfl

theorem isCommentBody_nil : IsCommentBody [] := by
  rintro (_ | _) rest heq <;> cases heq

theorem IsCommentBody.cons {c : Char} {text : List Char} (h : IsCommentBody text)
    (hopen : c = '*' → text.head? ≠ some '/') : IsCommentBody (c :: text) := by
  intro front rest heq
  cases front with
  | nil =>
      obtain ⟨hc, hslash⟩ := List.cons.inj heq
      exact hopen hc (by rw [hslash]; rfl)
  | cons d front => exact h front rest (List.cons.inj heq).2

def Gap.Leaves : Gap → List Char → List Char → Prop
  | .between, cs, rest => ∃ gap, IsGap gap ∧ cs = gap ++ rest
  | .line, cs, rest => ∃ text gap, '\n' ∉ text ∧ IsGap gap ∧ cs = text ++ '\n' :: (gap ++ rest)
  | .block opening starred, cs, rest => rest = opening ∨ ∃ text gap, IsCommentBody text ∧
      IsGap gap ∧ star starred ++ cs = text ++ '*' :: '/' :: (gap ++ rest)

theorem leaves_block_cons {opening cs rest : List Char} {starred : Bool} {c : Char}
    (hopen : ¬ (starred && c == '/') = true)
    (h : (Gap.block opening (c == '*')).Leaves cs rest) :
    (Gap.block opening starred).Leaves (c :: cs) rest := by
  rcases h with h | ⟨text, gap, htext, hgap, hcs⟩
  · exact .inl h
  by_cases hc : c = '*'
  · subst hc
    change '*' :: cs = _ at hcs
    cases starred with
    | false => exact .inr ⟨text, gap, htext, hgap, hcs⟩
    | true =>
        refine .inr ⟨'*' :: text, gap, htext.cons fun _ hhead => ?_, hgap, ?_⟩
        · cases text with
          | nil => cases hhead
          | cons d text =>
              cases (List.cons.inj hcs).1
              cases hhead
        · rw [List.cons_append, ← hcs]
          rfl
  · rw [beq_eq_false_iff_ne.2 hc] at hcs
    change cs = _ at hcs
    have hbody : IsCommentBody (c :: text) := htext.cons fun h => absurd h hc
    cases starred with
    | false => exact .inr ⟨c :: text, gap, hbody, hgap, by rw [List.cons_append, ← hcs]; rfl⟩
    | true =>
        refine .inr ⟨'*' :: c :: text, gap, hbody.cons fun _ hhead => ?_, hgap, ?_⟩
        · rw [List.head?_cons, Option.some.injEq] at hhead
          exact hopen (by rw [hhead]; rfl)
        · rw [List.cons_append, List.cons_append, ← hcs]
          rfl

theorem leaves_skip (s : Gap) (cs : List Char) (h : s.skip cs ≠ []) : s.Leaves cs (s.skip cs) := by
  fun_induction Gap.skip s cs with
  | case1 => exact absurd rfl h
  | case2 cs ih =>
      obtain ⟨text, gap, htext, hgap, hcs⟩ := ih h
      refine ⟨_, .line htext hgap, ?_⟩
      rw [List.cons_append, List.cons_append, List.cons_append, List.cons_append, List.append_assoc]
      exact congrArg (fun cs => '/' :: '/' :: cs) hcs
  | case3 cs ih =>
      rcases ih h with hopen | ⟨text, gap, htext, hgap, hcs⟩
      · exact ⟨[], .nil, hopen.symm⟩
      · refine ⟨_, .block htext hgap, ?_⟩
        rw [List.cons_append, List.cons_append, List.cons_append, List.cons_append, List.append_assoc]
        exact congrArg (fun cs => '/' :: '*' :: cs) hcs
  | case4 c cs _ _ hblank ih =>
      obtain ⟨gap, hgap, hcs⟩ := ih h
      exact ⟨c :: gap, .blank hblank hgap, by rw [List.cons_append, ← hcs]⟩
  | case5 => exact ⟨[], .nil, rfl⟩
  | case6 => exact absurd rfl h
  | case7 cs ih =>
      obtain ⟨gap, hgap, hcs⟩ := ih h
      exact ⟨[], gap, List.not_mem_nil, hgap, by rw [← hcs]; rfl⟩
  | case8 c cs hfeed ih =>
      obtain ⟨text, gap, htext, hgap, hcs⟩ := ih h
      refine ⟨c :: text, gap, ?_, hgap, by rw [List.cons_append, ← hcs]⟩
      rw [List.mem_cons, not_or]
      exact ⟨fun hc => hfeed hc.symm, htext⟩
  | case9 => exact .inl rfl
  | case10 opening starred c cs hclose ih =>
      obtain ⟨gap, hgap, hcs⟩ := ih h
      rw [Bool.and_eq_true, beq_iff_eq] at hclose
      obtain ⟨rfl, rfl⟩ := hclose
      refine .inr ⟨[], gap, isCommentBody_nil, hgap, ?_⟩
      rw [← hcs]
      rfl
  | case11 opening starred c cs hopen ih => exact leaves_block_cons hopen (ih h)

theorem exists_gap {cs : List Char} (h : skipGap cs ≠ []) :
    ∃ gap, IsGap gap ∧ cs = gap ++ skipGap cs :=
  leaves_skip .between cs h

theorem skipGap_skipGap (cs : List Char) : skipGap (skipGap cs) = skipGap cs := by
  by_cases h : skipGap cs = []
  · rw [h]
    rfl
  · obtain ⟨gap, hgap, hcs⟩ := exists_gap h
    exact (skipGap_append hgap _).symm.trans (congrArg skipGap hcs.symm)

end BridgeTypings.Java
