import BridgeTypings.Proofs.Java.StringLiteral.Scanning

namespace BridgeTypings.Java.StringLiteral

open Text

theorem eq_quoted_of_inside {cs text : List Char} (h : inside cs = some text) :
    cs = '"' :: (text ++ ['"']) := by
  unfold inside at h
  split at h
  · cases h
  · next rest _ =>
      split at h
      · next hlast =>
          cases h
          obtain ⟨front, rfl⟩ := List.getLast?_eq_some_iff.1 hlast
          rw [List.dropLast_concat]
      · cases h
  · cases h

theorem inside_quoted {text : List Char} (h : text.head? ≠ some '"') :
    inside ('"' :: (text ++ ['"'])) = some text := by
  unfold inside
  split
  · next rest heq =>
      cases text with
      | nil => cases heq
      | cons c text =>
          obtain ⟨rfl, -⟩ := List.cons.inj (List.cons.inj heq).2
          exact absurd rfl h
  · next rest _ heq =>
      obtain rfl := (List.cons.inj heq).2
      rw [if_pos List.getLast?_concat, List.dropLast_concat]
  · next hnone => exact absurd rfl (hnone _)

theorem items_head {text : List Char} {us : List Nat} (h : Items text us) :
    text.head? ≠ some '"' := by
  cases text with
  | nil => exact nofun
  | cons c text =>
      rintro ⟨⟩
      exact not_continues_none (items_cons_iff_continues.1 h)

inductive Reaches : List Char → Scan → Prop
  | start : Reaches [] .plain
  | step {front : List Char} {s s' : Scan} {c : Char} {us : List Nat} :
      Reaches front s → step s c = some (us, s') → Reaches (front ++ [c]) s'

def Converts : Scan → List Nat → Prop
  | .hex _ _, us => ∀ u ∈ us, u < 0x10000
  | .octal _ _, us => ∀ u ∈ us.head?, u.isValidChar
  | _, _ => True

theorem Reaches.inRange {front : List Char} {s : Scan} (h : Reaches front s) : s.InRange := by
  induction h with
  | start => trivial
  | step _ hstep ih => exact step_inRange ih hstep

theorem converts_step {s s' : Scan} {c : Char} {us : List Nat} (hs : s.InRange)
    (h : step s c = some (us, s')) : Converts s us := by
  cases s with
  | plain => trivial
  | escape => trivial
  | marks => trivial
  | hex n count =>
      obtain ⟨d, hdigit, hd⟩ := Option.map_eq_some_iff.1 h
      have hdigit := (hexDigit?_eq_some_iff.1 hdigit).lt
      split at hd
      · next hlast =>
          cases hd
          obtain rfl : count = 1 := by have := hs.1; omega
          have hrange := hs.2
          intro u hu
          obtain rfl := List.mem_singleton.1 hu
          omega
      · cases hd
        rintro u ⟨⟩
  | octal n count =>
      have hlt := octal_lt hs
      simp only [step] at h
      split at h
      · next d hdigit =>
          have hdigit := (octalDigit?_eq_some_iff.1 hdigit).lt
          split at h
          · next hlast =>
              cases h
              obtain rfl : count = 1 := by have := hs.1; omega
              have hrange := hs.2
              rintro u ⟨⟩
              exact .inl (by omega)
          · cases h
            rintro u ⟨⟩
      · obtain ⟨r, -, hd⟩ := Option.map_eq_some_iff.1 h
        cases hd
        rintro u ⟨⟩
        exact .inl (by omega)

theorem converts_finish {s : Scan} {us : List Nat} (hs : s.InRange) (h : finish s = some us) :
    Converts s us := by
  cases s with
  | octal n count =>
      have hlt := octal_lt hs
      cases h
      rintro u ⟨⟩
      exact .inl (by omega)
  | plain => trivial
  | escape => trivial
  | marks => trivial
  | hex => cases h

theorem decode_iff_items (raw value : String) :
    (decode raw = some value ↔ ∃ text us, raw.toList = '"' :: (text ++ ['"']) ∧ Items text us ∧
      us = value.toList.flatMap Utf16.units) ∧
    ∀ front s, Reaches front s → (∀ c us s', step s c = some (us, s') → Converts s us) ∧
      ∀ us, finish s = some us → Converts s us := by
  refine ⟨?_, fun front s h => ⟨fun c us s' => converts_step h.inRange,
    fun us => converts_finish h.inRange⟩⟩
  have hscan {text : List Char} {us : List Nat} : scan .plain text = some us ↔ Items text us :=
    @scan_eq_some_iff .plain trivial text us
  constructor
  · intro h
    obtain ⟨text, hinside, h⟩ := Option.bind_eq_some_iff.1 h
    obtain ⟨us, hus, h⟩ := Option.bind_eq_some_iff.1 h
    obtain ⟨cs, hcs, h⟩ := Option.bind_eq_some_iff.1 h
    have hitems := hscan.1 hus
    cases h
    rw [String.toList_ofList]
    exact ⟨text, us, eq_quoted_of_inside hinside, hitems,
      (Utf16.decode_eq_some_iff (lt_of_mem_items hitems)).1 hcs⟩
  · rintro ⟨text, us, hraw, hitems, hus⟩
    have hcs := (Utf16.decode_eq_some_iff (lt_of_mem_items hitems)).2 hus
    unfold decode
    rw [hraw, inside_quoted (items_head hitems)]
    simp [hscan.2 hitems, hcs]

theorem decode_joinedHalves :
    (∃ text us, "\"\\377\\uD83D\\uuDe00\\479\"".toList = '"' :: (text ++ ['"']) ∧ Items text us ∧
      us = "ÿ😀'9".toList.flatMap Utf16.units) ∧
    Reaches ['\\', '3', '7'] (.octal 31 1) ∧ step (.octal 31 1) '7' = some ([255], .plain) ∧
      Converts (.octal 31 1) [255] := by
  have hdecode : decode "\"\\377\\uD83D\\uuDe00\\479\"" = some "ÿ😀'9" := by
    decide +kernel
  have hescape : Reaches ['\\'] .escape := .step .start rfl
  have hfirst : Reaches ['\\', '3'] (.octal 3 2) := .step hescape rfl
  have hreaches : Reaches ['\\', '3', '7'] (.octal 31 1) := .step hfirst rfl
  obtain ⟨hitems, hconverts⟩ := decode_iff_items "\"\\377\\uD83D\\uuDe00\\479\"" "ÿ😀'9"
  exact ⟨hitems.1 hdecode, hreaches, rfl, (hconverts _ _ hreaches).1 '7' [255] .plain rfl⟩

end BridgeTypings.Java.StringLiteral
