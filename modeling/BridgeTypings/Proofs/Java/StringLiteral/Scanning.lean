import BridgeTypings.Proofs.Java.StringLiteral.Items

namespace BridgeTypings.Java.StringLiteral

open Text

def Scan.InRange : Scan → Prop
  | .hex value digits => 0 < digits ∧ (value + 1) * 16 ^ digits ≤ 0x10000
  | .octal value digits => 0 < digits ∧ (value + 1) * 8 ^ digits ≤ 0o400
  | _ => True

theorem inRange_plainStep {c : Char} {us : List Nat} {s : Scan} (h : plainStep c = some (us, s)) :
    s.InRange := by
  unfold plainStep at h
  split at h
  · cases h
  split at h <;> cases h <;> trivial

theorem step_inRange {s s' : Scan} {c : Char} {us : List Nat} (hs : s.InRange)
    (h : step s c = some (us, s')) : s'.InRange := by
  cases s with
  | plain => exact inRange_plainStep h
  | escape =>
      simp only [step] at h
      split at h
      · cases h
        trivial
      split at h
      · cases h
        trivial
      · next d _ hdigit =>
          cases h
          obtain ⟨-, hbound⟩ := octalLimit_of_isDigit (octalDigit?_eq_some_iff.1 hdigit)
          exact ⟨by split <;> omega, hbound⟩
      · cases h
  | marks =>
      simp only [step] at h
      split at h
      · cases h
        trivial
      · obtain ⟨d, hdigit, hd⟩ := Option.map_eq_some_iff.1 h
        cases hd
        have hd := (hexDigit?_eq_some_iff.1 hdigit).lt
        exact ⟨by omega, by omega⟩
  | hex value digits =>
      obtain ⟨d, hdigit, hd⟩ := Option.map_eq_some_iff.1 h
      have hdigit := (hexDigit?_eq_some_iff.1 hdigit).lt
      split at hd
      · cases hd
        trivial
      · next hmore =>
          cases hd
          obtain ⟨digits, rfl⟩ : ∃ n, digits = n + 1 := ⟨digits - 1, by omega⟩
          exact ⟨by omega, digit_bound hdigit hs.2⟩
  | octal value digits =>
      simp only [step] at h
      split at h
      · next d hdigit =>
          have hdigit := (octalDigit?_eq_some_iff.1 hdigit).lt
          split at h
          · cases h
            trivial
          · cases h
            obtain ⟨digits, rfl⟩ : ∃ n, digits = n + 1 := ⟨digits - 1, by omega⟩
            exact ⟨by omega, digit_bound hdigit hs.2⟩
      · obtain ⟨r, hr, hd⟩ := Option.map_eq_some_iff.1 h
        cases hd
        exact inRange_plainStep hr

theorem octal_lt {n count : Nat} (hs : (Scan.octal n count).InRange) : n < 0o400 := by
  have hpow : 0 < 8 ^ count := Nat.pow_pos (by decide)
  have hle := Nat.le_mul_of_pos_right (n + 1) hpow
  have := hs.2
  omega

def Language : Scan → List Char → List Nat → Prop
  | .plain, cs, us => Items cs us
  | .escape, cs, us => Items ('\\' :: cs) us
  | .marks, cs, us => ∃ marks digits value rest vs,
      cs = List.replicate marks 'u' ++ (digits ++ rest) ∧ digits.length = 4 ∧
        Number 16 0 digits value ∧ Items rest vs ∧ us = value :: vs
  | .hex n count, cs, us => ∃ digits value rest vs, cs = digits ++ rest ∧ digits.length = count ∧
      Number 16 n digits value ∧ Items rest vs ∧ us = value :: vs
  | .octal n count, cs, us => ∃ digits value rest vs, cs = digits ++ rest ∧
      IsLongest digits.length count rest ∧ Number 8 n digits value ∧ Items rest vs ∧
        us = Utf16.units (Char.ofNat value) ++ vs

theorem items_backslash_iff {cs : List Char} {us : List Nat} :
    Items ('\\' :: cs) us ↔
      (∃ c value rest vs, cs = c :: rest ∧ (c, value) ∈ escapes ∧ Items rest vs ∧
        us = Utf16.units value ++ vs) ∨
      (∃ first more value rest vs, cs = first :: more ++ rest ∧ Number 8 0 (first :: more) value ∧
        IsLongest (first :: more).length (octalLimit first) rest ∧ Items rest vs ∧
          us = Utf16.units (Char.ofNat value) ++ vs) ∨
      ∃ rest, cs = 'u' :: rest ∧ Language .marks rest us := by
  constructor
  · intro h
    generalize htext : '\\' :: cs = text at h
    cases h with
    | nil => cases htext
    | @cons text rest us vs hitem hrest =>
        cases hitem with
        | character hplain =>
            cases htext
            exact absurd hplain (by decide)
        | @escape c value hmem =>
            cases htext
            exact .inl ⟨c, value, rest, vs, rfl, hmem, hrest, rfl⟩
        | @octal first more value hnumber hlongest =>
            cases htext
            exact .inr (.inl ⟨first, more, value, rest, vs, rfl, hnumber, hlongest, hrest, rfl⟩)
        | @unicode marks value digits hlength hnumber =>
            cases htext
            exact .inr (.inr ⟨_, rfl, marks, digits, value, rest, vs, by simp, hlength, hnumber,
              hrest, rfl⟩)
  · rintro (⟨c, value, rest, vs, rfl, hmem, hrest, rfl⟩ |
      ⟨first, more, value, rest, vs, rfl, hnumber, hlongest, hrest, rfl⟩ |
      ⟨rest, rfl, marks, digits, value, rest, vs, rfl, hlength, hnumber, hrest, rfl⟩)
    · exact .cons (.escape hmem) hrest
    · exact .cons (.octal hnumber hlongest) hrest
    · have hitem := Items.cons (@Item.unicode rest marks value digits hlength hnumber) hrest
      simpa [List.replicate_succ] using hitem

theorem finish_eq_some_iff {s : Scan} (hs : s.InRange) {us : List Nat} :
    finish s = some us ↔ Language s [] us := by
  cases s with
  | plain =>
      rw [Language, items_nil_iff]
      exact ⟨fun h => (Option.some.inj h).symm, fun h => congrArg some h.symm⟩
  | escape =>
      rw [Language, items_backslash_iff]
      constructor
      · nofun
      · rintro (⟨_, _, _, _, ⟨⟩, -⟩ | ⟨_, _, _, _, _, ⟨⟩, -⟩ | ⟨_, ⟨⟩, -⟩)
  | marks =>
      constructor
      · nofun
      · rintro ⟨marks, digits, value, rest, vs, hcs, hlength, -⟩
        have := congrArg List.length hcs
        simp only [List.length_nil, List.length_append] at this
        omega
  | hex n count =>
      constructor
      · nofun
      · rintro ⟨digits, value, rest, vs, hcs, hlength, -⟩
        have := congrArg List.length hcs
        simp only [List.length_nil, List.length_append] at this
        have := hs.1
        omega
  | octal n count =>
      have hunits : Utf16.units (Char.ofNat n) = [n] := by
        have := octal_lt hs
        exact Utf16.units_ofNat (by omega)
      constructor
      · intro h
        cases h
        refine ⟨[], n, [], [], rfl, ⟨Nat.zero_le _, .inr nofun⟩, .nil, .nil, ?_⟩
        rw [hunits, List.append_nil]
      · rintro ⟨digits, value, rest, vs, hcs, -, hnumber, hrest, rfl⟩
        obtain ⟨rfl, rfl⟩ := List.append_eq_nil_iff.1 hcs.symm
        rw [number_nil_iff.1 hnumber, items_nil_iff.1 hrest, List.append_nil, hunits]
        rfl

theorem plainStep_character {c : Char} (h : c ∉ ['"', '\\', '\n', '\r']) :
    plainStep c = some (Utf16.units c, .plain) := by
  simp only [List.mem_cons, List.not_mem_nil, or_false, not_or] at h
  obtain ⟨hquote, hslash, hfeed, hreturn⟩ := h
  simp [plainStep, hquote, hslash, hfeed, hreturn]

def Continues (next : Option (List Nat × Scan)) (cs : List Char) (us : List Nat) : Prop :=
  ∃ vs s ws, next = some (vs, s) ∧ Language s cs ws ∧ us = vs ++ ws

theorem not_continues_none {cs : List Char} {us : List Nat} : ¬ Continues none cs us :=
  nofun

theorem continues_some_iff {vs : List Nat} {s : Scan} {cs : List Char} {us : List Nat} :
    Continues (some (vs, s)) cs us ↔ ∃ ws, Language s cs ws ∧ us = vs ++ ws := by
  constructor
  · rintro ⟨_, _, ws, ⟨⟩, hws, rfl⟩
    exact ⟨ws, hws, rfl⟩
  · rintro ⟨ws, hws, rfl⟩
    exact ⟨vs, s, ws, rfl, hws, rfl⟩

theorem continues_silent_iff {s : Scan} {cs : List Char} {us : List Nat} :
    Continues (some ([], s)) cs us ↔ Language s cs us := by
  rw [continues_some_iff]
  constructor
  · rintro ⟨ws, hws, rfl⟩
    exact hws
  · intro h
    exact ⟨us, h, rfl⟩

theorem items_cons_iff_continues {c : Char} {cs : List Char} {us : List Nat} :
    Items (c :: cs) us ↔ Continues (plainStep c) cs us := by
  by_cases hslash : c = '\\'
  · rw [hslash, show plainStep '\\' = some ([], .escape) from rfl, continues_silent_iff]
    rfl
  rw [items_cons_iff hslash]
  by_cases hplain : c ∉ ['"', '\\', '\n', '\r']
  · rw [plainStep_character hplain, continues_some_iff]
    exact and_iff_right hplain
  · have hnone : plainStep c = none := by
      simp only [List.mem_cons, List.not_mem_nil, or_false, not_not] at hplain
      rcases hplain with rfl | rfl | rfl | rfl
      · rfl
      · exact absurd rfl hslash
      · rfl
      · rfl
    rw [hnone]
    exact iff_of_false (fun h => hplain h.1) not_continues_none

section

variable {n count d : Nat} {c : Char} {cs : List Char} {us : List Nat}

theorem language_hex_cons (hd : IsDigit 16 c d) :
    Language (.hex n (count + 1)) (c :: cs) us ↔ Language (.hex (n * 16 + d) count) cs us := by
  constructor
  · rintro ⟨digits, value, rest, vs, hcs, hlength, hnumber, hrest, rfl⟩
    cases digits with
    | nil => cases hlength
    | cons c' digits =>
        cases hcs
        obtain ⟨e, he, hnumber⟩ := number_cons_iff.1 hnumber
        obtain rfl := he.unique (.inr rfl) hd
        exact ⟨digits, value, rest, vs, rfl, Nat.succ.inj hlength, hnumber, hrest, rfl⟩
  · rintro ⟨digits, value, rest, vs, rfl, rfl, hnumber, hrest, rfl⟩
    exact ⟨c :: digits, value, rest, vs, rfl, rfl, .cons hd hnumber, hrest, rfl⟩

theorem language_hex_zero : Language (.hex n 0) cs us ↔ ∃ vs, Items cs vs ∧ us = n :: vs := by
  constructor
  · rintro ⟨digits, value, rest, vs, rfl, hlength, hnumber, hrest, rfl⟩
    obtain rfl := List.length_eq_zero_iff.1 hlength
    exact ⟨vs, hrest, by rw [number_nil_iff.1 hnumber]⟩
  · rintro ⟨vs, hrest, rfl⟩
    exact ⟨[], n, cs, vs, rfl, rfl, .nil, hrest, rfl⟩

theorem language_hex_cons_iff (hs : (Scan.hex n count).InRange) :
    Language (.hex n count) (c :: cs) us ↔ Continues (step (.hex n count) c) cs us := by
  obtain ⟨count, rfl⟩ : ∃ k, count = k + 1 := ⟨count - 1, by have := hs.1; omega⟩
  simp only [step]
  cases hdigit : hexDigit? c with
  | none =>
      refine iff_of_false ?_ not_continues_none
      rintro ⟨digits, value, rest, vs, hcs, hlength, hnumber, -⟩
      cases digits with
      | nil => cases hlength
      | cons c' digits =>
          cases hcs
          obtain ⟨d, hd, -⟩ := number_cons_iff.1 hnumber
          rw [hexDigit?_eq_some_iff.2 hd] at hdigit
          cases hdigit
  | some d =>
      rw [language_hex_cons (hexDigit?_eq_some_iff.1 hdigit), Option.map_some]
      cases count with
      | zero =>
          rw [if_pos (by omega), continues_some_iff, language_hex_zero]
          rfl
      | succ count =>
          rw [if_neg (by omega), continues_silent_iff]
          rfl

theorem language_marks_iff_hex (hc : c ≠ 'u') :
    Language .marks (c :: cs) us ↔ Language (.hex 0 4) (c :: cs) us := by
  constructor
  · rintro ⟨marks, digits, value, rest, vs, hcs, hlength, hnumber, hrest, rfl⟩
    cases marks with
    | zero => exact ⟨digits, value, rest, vs, hcs, hlength, hnumber, hrest, rfl⟩
    | succ marks =>
        cases hcs
        exact absurd rfl hc
  · rintro ⟨digits, value, rest, vs, hcs, hlength, hnumber, hrest, rfl⟩
    exact ⟨0, digits, value, rest, vs, hcs, hlength, hnumber, hrest, rfl⟩

theorem language_marks_mark : Language .marks ('u' :: cs) us ↔ Language .marks cs us := by
  constructor
  · rintro ⟨marks, digits, value, rest, vs, hcs, hlength, hnumber, hrest, rfl⟩
    cases marks with
    | zero =>
        cases digits with
        | nil => cases hlength
        | cons c' digits =>
            cases hcs
            obtain ⟨d, hd, -⟩ := number_cons_iff.1 hnumber
            exact absurd (hexDigit?_eq_some_iff.2 hd) nofun
    | succ marks =>
        cases hcs
        exact ⟨marks, digits, value, rest, vs, rfl, hlength, hnumber, hrest, rfl⟩
  · rintro ⟨marks, digits, value, rest, vs, rfl, hlength, hnumber, hrest, rfl⟩
    exact ⟨marks + 1, digits, value, rest, vs, rfl, hlength, hnumber, hrest, rfl⟩

theorem language_marks_cons_iff :
    Language .marks (c :: cs) us ↔ Continues (step .marks c) cs us := by
  by_cases hc : c = 'u'
  · rw [hc, show step .marks 'u' = some ([], .marks) from rfl, continues_silent_iff,
      language_marks_mark]
  · have hstep : step .marks c = step (.hex 0 4) c := by
      simp [step, hc]
    rw [language_marks_iff_hex hc, hstep]
    exact language_hex_cons_iff ⟨by omega, by omega⟩

theorem language_octal_cons (hd : IsDigit 8 c d) :
    Language (.octal n (count + 1)) (c :: cs) us ↔ Language (.octal (n * 8 + d) count) cs us := by
  constructor
  · rintro ⟨digits, value, rest, vs, hcs, hlongest, hnumber, hrest, rfl⟩
    cases digits with
    | nil =>
        obtain rfl : c :: cs = rest := hcs
        rcases hlongest.2 with hzero | hnone
        · cases hzero
        · exact absurd hd (hnone c rfl d)
    | cons c' digits =>
        cases hcs
        obtain ⟨e, he, hnumber⟩ := number_cons_iff.1 hnumber
        obtain rfl := he.unique (.inl rfl) hd
        exact ⟨digits, value, rest, vs, rfl, isLongest_succ.1 hlongest, hnumber, hrest, rfl⟩
  · rintro ⟨digits, value, rest, vs, rfl, hlongest, hnumber, hrest, rfl⟩
    exact ⟨c :: digits, value, rest, vs, rfl, isLongest_succ.2 hlongest, .cons hd hnumber, hrest,
      rfl⟩

theorem language_octal_end (h : count = 0 ∨ ∀ c ∈ cs.head?, ∀ d, ¬ IsDigit 8 c d) :
    Language (.octal n count) cs us ↔
      ∃ vs, Items cs vs ∧ us = Utf16.units (Char.ofNat n) ++ vs := by
  constructor
  · rintro ⟨digits, value, rest, vs, rfl, hlongest, hnumber, hrest, rfl⟩
    cases digits with
    | nil => exact ⟨vs, hrest, by rw [number_nil_iff.1 hnumber]⟩
    | cons c digits =>
        obtain ⟨d, hd, -⟩ := number_cons_iff.1 hnumber
        rcases h with rfl | hnone
        · exact absurd hlongest.1 (Nat.not_succ_le_zero _)
        · exact absurd hd (hnone c rfl d)
  · rintro ⟨vs, hrest, rfl⟩
    exact ⟨[], n, cs, vs, rfl, ⟨Nat.zero_le _, h.imp_left Eq.symm⟩, .nil, hrest, rfl⟩

theorem language_octal_cons_iff (hs : (Scan.octal n count).InRange) :
    Language (.octal n count) (c :: cs) us ↔ Continues (step (.octal n count) c) cs us := by
  have hlt := octal_lt hs
  obtain ⟨count, rfl⟩ : ∃ k, count = k + 1 := ⟨count - 1, by have := hs.1; omega⟩
  simp only [step]
  cases hdigit : octalDigit? c with
  | none =>
      have hnone : ∀ c' ∈ (c :: cs).head?, ∀ d, ¬ IsDigit 8 c' d := by
        rintro _ ⟨⟩ d hd
        rw [octalDigit?_eq_some_iff.2 hd] at hdigit
        cases hdigit
      rw [language_octal_end (.inr hnone), Utf16.units_ofNat (by omega)]
      simp only [items_cons_iff_continues]
      constructor
      · rintro ⟨_, ⟨vs, s, ws, hstep, hws, rfl⟩, rfl⟩
        exact ⟨n :: vs, s, ws, by rw [hstep]; rfl, hws, rfl⟩
      · rintro ⟨_, _, ws, hstep, hws, rfl⟩
        obtain ⟨⟨vs, s⟩, hplain, hnext⟩ := Option.map_eq_some_iff.1 hstep
        cases hnext
        exact ⟨_, ⟨vs, s, ws, hplain, hws, rfl⟩, rfl⟩
  | some d =>
      have hd := octalDigit?_eq_some_iff.1 hdigit
      rw [language_octal_cons hd]
      dsimp only
      cases count with
      | zero =>
          have hrange := hs.2
          have hdigit := hd.lt
          rw [if_pos (by omega), continues_some_iff, language_octal_end (.inl rfl),
            Utf16.units_ofNat (by omega)]
          rfl
      | succ count =>
          rw [if_neg (by omega), continues_silent_iff]
          rfl

theorem items_escape_cons_iff :
    Items ('\\' :: c :: cs) us ↔
      (∃ value vs, (c, value) ∈ escapes ∧ Items cs vs ∧ us = Utf16.units value ++ vs) ∨
      (∃ d, IsDigit 8 c d ∧ Language (.octal d (if c ≤ '3' then 2 else 1)) cs us) ∨
      c = 'u' ∧ Language .marks cs us := by
  rw [items_backslash_iff]
  refine or_congr ?_ (or_congr ?_ ?_)
  · constructor
    · rintro ⟨_, value, _, vs, ⟨⟩, hmem, hrest, rfl⟩
      exact ⟨value, vs, hmem, hrest, rfl⟩
    · rintro ⟨value, vs, hmem, hrest, rfl⟩
      exact ⟨c, value, cs, vs, rfl, hmem, hrest, rfl⟩
  · constructor
    · rintro ⟨_, more, value, rest, vs, ⟨⟩, hnumber, hlongest, hrest, rfl⟩
      obtain ⟨d, hd, hnumber⟩ := number_cons_iff.1 hnumber
      rw [(octalLimit_of_isDigit hd).1, List.length_cons, isLongest_succ] at hlongest
      rw [Nat.zero_mul, Nat.zero_add] at hnumber
      exact ⟨d, hd, more, value, rest, vs, rfl, hlongest, hnumber, hrest, rfl⟩
    · rintro ⟨d, hd, more, value, rest, vs, rfl, hlongest, hnumber, hrest, rfl⟩
      refine ⟨c, more, value, rest, vs, rfl, .cons hd ?_, ?_, hrest, rfl⟩
      · rwa [Nat.zero_mul, Nat.zero_add]
      · rwa [(octalLimit_of_isDigit hd).1, List.length_cons, isLongest_succ]
  · constructor
    · rintro ⟨_, ⟨⟩, h⟩
      exact ⟨rfl, h⟩
    · rintro ⟨rfl, h⟩
      exact ⟨cs, rfl, h⟩

theorem language_escape_cons_iff :
    Items ('\\' :: c :: cs) us ↔ Continues (step .escape c) cs us := by
  rw [items_escape_cons_iff]
  by_cases hu : c = 'u'
  · subst hu
    have hdigit (d : Nat) : ¬ IsDigit 8 'u' d := fun hd =>
      absurd (octalDigit?_eq_some_iff.2 hd) nofun
    rw [show step .escape 'u' = some ([], .marks) from rfl, continues_silent_iff]
    simp [not_mem_escapes (show simpleEscape? 'u' = none from rfl), hdigit]
  cases hsimple : simpleEscape? c with
  | some u =>
      have hstep : step .escape c = some ([u], .plain) := by
        simp [step, hu, hsimple]
      have hdigit (d : Nat) : ¬ IsDigit 8 c d := fun hd => by
        rw [simpleEscape?_of_isDigit hd] at hsimple
        cases hsimple
      have hunits (value : Char) (hmem : (c, value) ∈ escapes) : Utf16.units value = [u] := by
        have hvalue := units_of_mem_escapes hmem
        rw [simpleEscape?_eq_some_iff.2 ⟨value, hmem, hvalue⟩] at hsimple
        rw [hvalue, Option.some.inj hsimple]
      rw [hstep, continues_some_iff]
      constructor
      · rintro (⟨value, vs, hmem, hrest, rfl⟩ | ⟨d, hd, -⟩ | ⟨rfl, -⟩)
        · exact ⟨vs, hrest, by rw [hunits value hmem]⟩
        · exact absurd hd (hdigit d)
        · exact absurd rfl hu
      · rintro ⟨vs, hrest, rfl⟩
        obtain ⟨value, hmem, hvalue⟩ := simpleEscape?_eq_some_iff.1 hsimple
        exact .inl ⟨value, vs, hmem, hrest, by rw [hvalue]⟩
  | none =>
      cases hdigit : octalDigit? c with
      | some d =>
          have hstep : step .escape c = some ([], .octal d (if c ≤ '3' then 2 else 1)) := by
            simp [step, hu, hsimple, hdigit]
          have hd := octalDigit?_eq_some_iff.1 hdigit
          rw [hstep, continues_silent_iff]
          constructor
          · rintro (⟨value, -, hmem, -⟩ | ⟨e, he, h⟩ | ⟨rfl, -⟩)
            · exact absurd hmem (not_mem_escapes hsimple value)
            · rwa [← he.unique (.inl rfl) hd]
            · exact absurd rfl hu
          · exact fun h => .inr (.inl ⟨d, hd, h⟩)
      | none =>
          have hstep : step .escape c = none := by
            simp [step, hu, hsimple, hdigit]
          rw [hstep]
          refine iff_of_false ?_ not_continues_none
          rintro (⟨value, -, hmem, -⟩ | ⟨d, hd, -⟩ | ⟨rfl, -⟩)
          · exact not_mem_escapes hsimple value hmem
          · rw [octalDigit?_eq_some_iff.2 hd] at hdigit
            cases hdigit
          · exact hu rfl

end

theorem language_cons_iff {s : Scan} (hs : s.InRange) {c : Char} {cs : List Char} {us : List Nat} :
    Language s (c :: cs) us ↔ Continues (step s c) cs us := by
  cases s with
  | plain => exact items_cons_iff_continues
  | escape => exact language_escape_cons_iff
  | marks => exact language_marks_cons_iff
  | hex => exact language_hex_cons_iff hs
  | octal => exact language_octal_cons_iff hs

theorem scan_eq_some_iff {s : Scan} (hs : s.InRange) {cs : List Char} {us : List Nat} :
    scan s cs = some us ↔ Language s cs us := by
  induction cs generalizing s us with
  | nil => exact finish_eq_some_iff hs
  | cons c cs ih =>
      rw [language_cons_iff hs, scan]
      cases hstep : step s c with
      | none => exact iff_of_false nofun not_continues_none
      | some next =>
          obtain ⟨vs, s'⟩ := next
          rw [continues_some_iff, Option.map_eq_some_iff]
          simp only [ih (step_inRange hs hstep), eq_comm]

end BridgeTypings.Java.StringLiteral
