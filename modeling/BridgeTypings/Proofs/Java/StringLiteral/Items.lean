import BridgeTypings.Proofs.Java.StringLiteral.Digits
import BridgeTypings.Proofs.Text.Utf16

namespace BridgeTypings.Java.StringLiteral

open Text

def escapes : List (Char × Char) :=
  [('b', '\x08'), ('t', '\t'), ('n', '\n'), ('f', '\x0c'), ('r', '\r'), ('s', ' '), ('"', '"'),
    ('\'', '\''), ('\\', '\\')]

def octalLimit (first : Char) : Nat :=
  if first ∈ ['0', '1', '2', '3'] then 3 else 2

def IsLongest (digits limit : Nat) (rest : List Char) : Prop :=
  digits ≤ limit ∧ (digits = limit ∨ ∀ c ∈ rest.head?, ∀ d, ¬ IsDigit 8 c d)

inductive Item (rest : List Char) : List Char → List Nat → Prop
  | character {c : Char} : c ∉ ['"', '\\', '\n', '\r'] → Item rest [c] (Utf16.units c)
  | escape {c value : Char} : (c, value) ∈ escapes → Item rest ['\\', c] (Utf16.units value)
  | octal {first : Char} {more : List Char} {value : Nat} :
      Number 8 0 (first :: more) value →
      IsLongest (first :: more).length (octalLimit first) rest →
      Item rest ('\\' :: first :: more) (Utf16.units (Char.ofNat value))
  | unicode {marks value : Nat} {digits : List Char} :
      digits.length = 4 → Number 16 0 digits value →
      Item rest ('\\' :: List.replicate (marks + 1) 'u' ++ digits) [value]

inductive Items : List Char → List Nat → Prop
  | nil : Items [] []
  | cons {text rest : List Char} {us vs : List Nat} :
      Item rest text us → Items rest vs → Items (text ++ rest) (us ++ vs)

theorem octalLimit_of_isDigit {c : Char} {d : Nat} (h : IsDigit 8 c d) :
    octalLimit c = (if c ≤ '3' then 2 else 1) + 1 ∧
      (d + 1) * 8 ^ (if c ≤ '3' then 2 else 1) ≤ 0o400 := by
  obtain ⟨hd, hc⟩ := h
  interval_cases d <;> rcases hc with rfl | rfl <;> decide

theorem isLongest_succ {digits limit : Nat} {rest : List Char} :
    IsLongest (digits + 1) (limit + 1) rest ↔ IsLongest digits limit rest := by
  simp [IsLongest]

theorem simpleEscape?_eq_some_iff {c : Char} {u : Nat} :
    simpleEscape? c = some u ↔ ∃ value, (c, value) ∈ escapes ∧ Utf16.units value = [u] := by
  constructor
  · intro h
    refine ⟨Char.ofNat u, ?_⟩
    unfold simpleEscape? at h
    split at h <;> cases h <;> exact ⟨by decide, rfl⟩
  · rintro ⟨value, hmem, hunits⟩
    simp only [escapes, List.mem_cons, Prod.mk.injEq, List.not_mem_nil, or_false] at hmem
    rcases hmem with ⟨rfl, rfl⟩ | ⟨rfl, rfl⟩ | ⟨rfl, rfl⟩ | ⟨rfl, rfl⟩ | ⟨rfl, rfl⟩ | ⟨rfl, rfl⟩ |
      ⟨rfl, rfl⟩ | ⟨rfl, rfl⟩ | ⟨rfl, rfl⟩ <;>
      exact congrArg some (List.singleton_inj.1 hunits)

theorem units_of_mem_escapes {c value : Char} (h : (c, value) ∈ escapes) :
    Utf16.units value = [value.toNat] :=
  (by decide : ∀ e ∈ escapes, Utf16.units e.2 = [e.2.toNat]) _ h

theorem not_mem_escapes {c : Char} (h : simpleEscape? c = none) (value : Char) : (c, value) ∉ escapes := by
  intro hmem
  rw [simpleEscape?_eq_some_iff.2 ⟨value, hmem, units_of_mem_escapes hmem⟩] at h
  cases h

theorem simpleEscape?_of_isDigit {c : Char} {d : Nat} (h : IsDigit 8 c d) : simpleEscape? c = none := by
  obtain ⟨hd, hc⟩ := h
  interval_cases d <;> rcases hc with rfl | rfl <;> rfl

theorem items_nil_iff {us : List Nat} : Items [] us ↔ us = [] := by
  constructor
  · intro h
    generalize hcs : ([] : List Char) = cs at h
    cases h with
    | nil => rfl
    | cons hitem _ => cases hitem <;> cases hcs
  · rintro rfl
    exact .nil

theorem items_cons_iff {c : Char} (hc : c ≠ '\\') {cs : List Char} {us : List Nat} :
    Items (c :: cs) us ↔ c ∉ ['"', '\\', '\n', '\r'] ∧ ∃ vs, Items cs vs ∧ us = Utf16.units c ++ vs := by
  constructor
  · intro h
    generalize htext : c :: cs = text at h
    cases h with
    | nil => cases htext
    | @cons text rest us vs hitem hrest =>
        cases hitem with
        | character hplain =>
            cases htext
            exact ⟨hplain, vs, hrest, rfl⟩
        | escape => exact absurd (List.cons.inj htext).1 hc
        | octal => exact absurd (List.cons.inj htext).1 hc
        | unicode => exact absurd (List.cons.inj htext).1 hc
  · rintro ⟨hplain, vs, hrest, rfl⟩
    exact .cons (.character hplain) hrest

theorem lt_of_mem_items {cs : List Char} {us : List Nat} (h : Items cs us) :
    ∀ u ∈ us, u < 0x10000 := by
  induction h with
  | nil => exact nofun
  | cons hitem _ ih =>
      refine List.forall_mem_append.2 ⟨fun u hu => ?_, ih⟩
      cases hitem with
      | character => exact Utf16.lt_of_mem_units hu
      | escape => exact Utf16.lt_of_mem_units hu
      | octal => exact Utf16.lt_of_mem_units hu
      | unicode hlength hnumber =>
          have hlt := hnumber.lt_pow
          rw [hlength] at hlt
          obtain rfl := List.mem_singleton.1 hu
          simpa using hlt

end BridgeTypings.Java.StringLiteral
