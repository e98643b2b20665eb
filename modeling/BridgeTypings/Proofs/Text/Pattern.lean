import BridgeTypings.Text.Pattern

namespace BridgeTypings.Text

namespace Pattern

inductive Matches : Pattern → List Char → Prop
  | empty : Matches .empty []
  | one {f : Char → Bool} {c : Char} : f c = true → Matches (.one f) [c]
  | seq {p q : Pattern} {s t : List Char} : Matches p s → Matches q t → Matches (.seq p q) (s ++ t)
  | left {p q : Pattern} {s : List Char} : Matches p s → Matches (.alt p q) s
  | right {p q : Pattern} {s : List Char} : Matches q s → Matches (.alt p q) s
  | done {p : Pattern} : Matches (.star p) []
  | more {p : Pattern} {s t : List Char} : Matches p s → Matches (.star p) t →
      Matches (.star p) (s ++ t)

variable {p q : Pattern} {c : Char} {s : List Char}

theorem not_matches_never : ¬ Matches .never s := by
  intro h
  cases h

theorem matches_empty_iff : Matches .empty s ↔ s = [] := by
  constructor
  · intro h
    cases h
    rfl
  · rintro rfl
    exact .empty

theorem matches_one_cons_iff {f : Char → Bool} :
    Matches (.one f) (c :: s) ↔ f c = true ∧ s = [] := by
  constructor
  · intro h
    cases h with
    | one hf => exact ⟨hf, rfl⟩
  · rintro ⟨hf, rfl⟩
    exact .one hf

theorem matches_alt_iff : Matches (.alt p q) s ↔ Matches p s ∨ Matches q s := by
  constructor
  · intro h
    cases h with
    | left h => exact .inl h
    | right h => exact .inr h
  · rintro (h | h)
    · exact .left h
    · exact .right h

theorem matches_seq_iff :
    Matches (.seq p q) s ↔ ∃ front rest, s = front ++ rest ∧ Matches p front ∧ Matches q rest := by
  constructor
  · intro h
    cases h with
    | seq hp hq => exact ⟨_, _, rfl, hp, hq⟩
  · rintro ⟨front, rest, rfl, hp, hq⟩
    exact .seq hp hq

theorem matches_seq_cons_iff :
    Matches (.seq p q) (c :: s) ↔
      (∃ front rest, s = front ++ rest ∧ Matches p (c :: front) ∧ Matches q rest) ∨
        (Matches p [] ∧ Matches q (c :: s)) := by
  rw [matches_seq_iff]
  constructor
  · rintro ⟨front, rest, heq, hp, hq⟩
    cases front with
    | nil =>
        rw [List.nil_append] at heq
        exact .inr ⟨hp, heq ▸ hq⟩
    | cons d front =>
        obtain ⟨rfl, rfl⟩ := List.cons.inj heq
        exact .inl ⟨front, rest, rfl, hp, hq⟩
  · rintro (⟨front, rest, rfl, hp, hq⟩ | ⟨hp, hq⟩)
    · exact ⟨c :: front, rest, rfl, hp, hq⟩
    · exact ⟨[], c :: s, rfl, hp, hq⟩

theorem Matches.star_cons (h : Matches (.star p) (c :: s)) :
    ∃ front rest, s = front ++ rest ∧ Matches p (c :: front) ∧ Matches (.star p) rest := by
  generalize hr : Pattern.star p = r at h
  generalize ht : c :: s = t at h
  induction h generalizing s with
  | done => cases ht
  | @more p' front rest hfront hrest _ ih =>
      cases hr
      cases front with
      -- a round over no character is dropped, and the text stands in the rounds behind it
      | nil => exact ih rfl ht
      | cons d front =>
          obtain ⟨rfl, rfl⟩ := List.cons.inj ht
          exact ⟨front, rest, rfl, hfront, hrest⟩
  | empty | one | seq | left | right => cases hr

theorem matches_star_cons_iff :
    Matches (.star p) (c :: s) ↔
      ∃ front rest, s = front ++ rest ∧ Matches p (c :: front) ∧ Matches (.star p) rest := by
  constructor
  · exact Matches.star_cons
  · rintro ⟨front, rest, rfl, hp, hstar⟩
    exact .more hp hstar

theorem nullable_iff (p : Pattern) : p.nullable = true ↔ Matches p [] := by
  induction p with
  | never => simp [nullable, not_matches_never]
  | empty => simp [nullable, matches_empty_iff]
  | one f => exact iff_of_false Bool.false_ne_true nofun
  | seq p q ihp ihq =>
      rw [nullable, Bool.and_eq_true, ihp, ihq, matches_seq_iff]
      constructor
      · rintro ⟨hp, hq⟩
        exact ⟨[], [], rfl, hp, hq⟩
      · rintro ⟨front, rest, heq, hp, hq⟩
        obtain ⟨rfl, rfl⟩ := List.append_eq_nil_iff.1 heq.symm
        exact ⟨hp, hq⟩
  | alt p q ihp ihq => rw [nullable, Bool.or_eq_true, ihp, ihq, matches_alt_iff]
  | star p => exact ⟨fun _ => .done, fun _ => rfl⟩

theorem matches_followedBy_iff : Matches (p.followedBy q) s ↔ Matches (.seq p q) s := by
  cases p with
  | never => simp [followedBy, matches_seq_iff, not_matches_never]
  | empty =>
      rw [followedBy, matches_seq_iff]
      constructor
      · intro h
        exact ⟨[], s, rfl, .empty, h⟩
      · rintro ⟨front, rest, rfl, hfront, hrest⟩
        rw [matches_empty_iff.1 hfront]
        exact hrest
  | _ => rfl

theorem matches_orElse_iff : Matches (p.orElse q) s ↔ Matches p s ∨ Matches q s := by
  unfold orElse
  split
  · simp [not_matches_never]
  · simp [not_matches_never]
  · exact matches_alt_iff

theorem matches_derivative_iff (p : Pattern) :
    Matches (p.derivative c) s ↔ Matches p (c :: s) := by
  induction p generalizing s with
  | never => simp [derivative, not_matches_never]
  | empty => simp [derivative, not_matches_never, matches_empty_iff]
  | one f =>
      rw [derivative, matches_one_cons_iff]
      split
      · next hc => rw [matches_empty_iff, and_iff_right hc]
      · next hc => exact iff_of_false not_matches_never (fun h => hc h.1)
  | seq p q ihp ihq =>
      have hfirst : Matches ((p.derivative c).followedBy q) s ↔
          ∃ front rest, s = front ++ rest ∧ Matches p (c :: front) ∧ Matches q rest := by
        simp only [matches_followedBy_iff, matches_seq_iff, ihp]
      rw [derivative, matches_seq_cons_iff, ← nullable_iff]
      split
      · next hnull => rw [matches_orElse_iff, hfirst, ihq, and_iff_right hnull]
      · next hnull => rw [hfirst, or_iff_left (fun h => hnull h.1)]
  | alt p q ihp ihq => rw [derivative, matches_orElse_iff, ihp, ihq, matches_alt_iff]
  | star p ih =>
      simp only [derivative, matches_followedBy_iff, matches_seq_iff, ih, matches_star_cons_iff]

theorem longest_never (cs : List Char) : never.longest cs = none := by
  cases cs <;> rfl

theorem longest_nil (p : Pattern) : p.longest [] = if p.nullable then some [] else none := rfl

theorem longest_cons (p : Pattern) (c : Char) (cs : List Char) :
    p.longest (c :: cs) =
      ((p.derivative c).longest cs).or (if p.nullable then some (c :: cs) else none) := by
  rw [longest]
  split
  · next hd => rw [hd, longest_never, Option.none_or]
  · cases (p.derivative c).longest cs <;> rfl

theorem exists_front_of_longest {cs rest : List Char} (h : p.longest cs = some rest) :
    ∃ front, front ++ rest = cs ∧ Matches p front := by
  induction cs generalizing p with
  | nil =>
      rw [longest_nil, Option.ite_none_right_eq_some] at h
      obtain ⟨hnull, ⟨⟩⟩ := h
      exact ⟨[], rfl, (nullable_iff p).1 hnull⟩
  | cons c cs ih =>
      rw [longest_cons, Option.or_eq_some_iff, Option.ite_none_right_eq_some] at h
      rcases h with hd | ⟨-, hnull, ⟨⟩⟩
      · obtain ⟨front, rfl, hfront⟩ := ih hd
        exact ⟨c :: front, rfl, (matches_derivative_iff p).1 hfront⟩
      · exact ⟨[], rfl, (nullable_iff p).1 hnull⟩

theorem exists_longest_of_matches {front : List Char} (h : Matches p front) (cs : List Char) :
    ∃ rest, p.longest (front ++ cs) = some rest ∧ rest <:+ cs := by
  induction front generalizing p with
  | nil =>
      have hnull := (nullable_iff p).2 h
      cases cs with
      | nil => exact ⟨[], by rw [List.nil_append, longest_nil, if_pos hnull], List.suffix_rfl⟩
      | cons c cs =>
          rw [List.nil_append, longest_cons, if_pos hnull]
          cases hd : (p.derivative c).longest cs with
          | none => exact ⟨c :: cs, rfl, List.suffix_rfl⟩
          | some rest =>
              obtain ⟨front, rfl, -⟩ := exists_front_of_longest hd
              exact ⟨rest, rfl, c :: front, rfl⟩
  | cons c front ih =>
      obtain ⟨rest, hrest, hsuffix⟩ := ih ((matches_derivative_iff p).2 h)
      exact ⟨rest, by rw [List.cons_append, longest_cons, hrest, Option.some_or], hsuffix⟩

theorem longest_eq_none_iff {cs : List Char} :
    p.longest cs = none ↔ ∀ front, front <+: cs → ¬ Matches p front := by
  constructor
  · rintro h front ⟨rest, rfl⟩ hfront
    obtain ⟨later, hlater, -⟩ := exists_longest_of_matches hfront rest
    rw [h] at hlater
    cases hlater
  · intro h
    cases hlongest : p.longest cs with
    | none => rfl
    | some rest =>
        obtain ⟨front, hcs, hfront⟩ := exists_front_of_longest hlongest
        exact absurd hfront (h front ⟨rest, hcs⟩)

theorem longest_eq_some_iff {cs rest : List Char} :
    p.longest cs = some rest ↔
      ∃ front, front ++ rest = cs ∧ Matches p front ∧
        ∀ other, other <+: cs → Matches p other → other <+: front := by
  constructor
  · intro h
    obtain ⟨front, hcs, hfront⟩ := exists_front_of_longest h
    refine ⟨front, hcs, hfront, ?_⟩
    rintro other ⟨behind, hother⟩ hmatches
    obtain ⟨later, hlater, extra, rfl⟩ := exists_longest_of_matches hmatches behind
    rw [hother, h] at hlater
    cases hlater
    rw [← hcs, ← List.append_assoc] at hother
    exact ⟨extra, List.append_cancel_right hother⟩
  · rintro ⟨front, rfl, hfront, hlongest⟩
    obtain ⟨later, hlater, extra, rfl⟩ := exists_longest_of_matches hfront rest
    obtain ⟨other, hother, hmatches⟩ := exists_front_of_longest hlater
    obtain ⟨more, hmore⟩ := hlongest other ⟨later, hother⟩ hmatches
    rw [← List.append_assoc] at hother
    rw [List.append_cancel_right hother, List.append_assoc, List.append_right_eq_self,
      List.append_eq_nil_iff] at hmore
    rw [hlater, hmore.1, List.nil_append]

end Pattern

end BridgeTypings.Text
