import BridgeTypings.Proofs.Java.StringLiteral.Items
import BridgeTypings.Proofs.Text.Splitting

namespace BridgeTypings.Java.StringLiteral

open Text

inductive Symbol where
  | written (c : Char)
  | escaped (unit : Nat)
deriving DecidableEq, Repr

def Symbol.units : Symbol → List Nat
  | .written c => Utf16.units c
  | .escaped unit => [unit]

/--
A text and its symbols, behind an even or an odd number of backslashes. Only an even number lets a
backslash begin a unicode escape, and then an escape has to follow if there is a mark.
-/
inductive Translates : Bool → List Char → List Symbol → Prop
  | nil {odd : Bool} : Translates odd [] []
  | unicode {marks value : Nat} {digits rest : List Char} {symbols : List Symbol} :
      digits.length = 4 → Number 16 0 digits value → Translates false rest symbols →
      Translates false ('\\' :: List.replicate (marks + 1) 'u' ++ digits ++ rest)
        (.escaped value :: symbols)
  | written {odd : Bool} {c : Char} {rest : List Char} {symbols : List Symbol} :
      ¬ (odd = false ∧ c = '\\' ∧ rest.head? = some 'u') →
      Translates (!odd && c == '\\') rest symbols →
      Translates odd (c :: rest) (.written c :: symbols)

section

variable {odd : Bool} {c : Char} {text rest : List Char} {symbols : List Symbol}

theorem translates_nil_symbols_iff : Translates odd text [] ↔ text = [] := by
  constructor
  · rintro ⟨⟩
    rfl
  · rintro rfl
    exact .nil

theorem Translates.eq_nil (h : Translates odd [] symbols) : symbols = [] := by
  generalize htext : ([] : List Char) = text at h
  cases h with
  | nil => rfl
  | unicode => cases htext
  | written => cases htext

theorem translates_escaped_iff {value : Nat} :
    Translates odd text (.escaped value :: symbols) ↔ odd = false ∧ ∃ marks digits rest,
      text = '\\' :: List.replicate (marks + 1) 'u' ++ digits ++ rest ∧ digits.length = 4 ∧
        Number 16 0 digits value ∧ Translates false rest symbols := by
  constructor
  · rintro (_ | ⟨hlength, hnumber, hrest⟩ | _)
    exact ⟨rfl, _, _, _, rfl, hlength, hnumber, hrest⟩
  · rintro ⟨rfl, marks, digits, rest, rfl, hlength, hnumber, hrest⟩
    exact .unicode hlength hnumber hrest

theorem translates_written_iff :
    Translates odd text (.written c :: symbols) ↔ ∃ rest, text = c :: rest ∧
      ¬ (odd = false ∧ c = '\\' ∧ rest.head? = some 'u') ∧
        Translates (!odd && c == '\\') rest symbols := by
  constructor
  · rintro (_ | _ | ⟨hplain, hrest⟩)
    exact ⟨_, rfl, hplain, hrest⟩
  · rintro ⟨rest, rfl, hplain, hrest⟩
    exact .written hplain hrest

theorem Translates.of_backslash (h : Translates false text (.written '\\' :: symbols)) :
    ∃ rest, text = '\\' :: rest ∧ Translates true rest symbols := by
  obtain ⟨rest, rfl, -, hrest⟩ := translates_written_iff.1 h
  exact ⟨rest, rfl, hrest⟩

theorem Translates.of_odd (h : Translates true text (.written c :: symbols)) :
    ∃ rest, text = c :: rest ∧ Translates false rest symbols := by
  obtain ⟨rest, rfl, -, hrest⟩ := translates_written_iff.1 h
  exact ⟨rest, rfl, hrest⟩

theorem Translates.of_ne (hc : c ≠ '\\') (h : Translates false text (.written c :: symbols)) :
    ∃ rest, text = c :: rest ∧ Translates false rest symbols := by
  obtain ⟨rest, rfl, -, hrest⟩ := translates_written_iff.1 h
  rw [beq_false_of_ne hc, Bool.and_false] at hrest
  exact ⟨rest, rfl, hrest⟩

theorem Translates.of_append {front : List Char} (hfront : ∀ c ∈ front, c ≠ '\\')
    (h : Translates false text (front.map .written ++ symbols)) :
    ∃ rest, text = front ++ rest ∧ Translates false rest symbols := by
  induction front generalizing text with
  | nil => exact ⟨text, rfl, h⟩
  | cons c front ih =>
      obtain ⟨hc, hfront⟩ := List.forall_mem_cons.1 hfront
      obtain ⟨tail, rfl, htail⟩ := h.of_ne hc
      obtain ⟨rest, rfl, hrest⟩ := ih hfront htail
      exact ⟨rest, rfl, hrest⟩

theorem Translates.cons (h : Translates odd (c :: rest) symbols)
    (hplain : ¬ (odd = false ∧ c = '\\' ∧ rest.head? = some 'u')) :
    ∃ more, symbols = .written c :: more ∧ Translates (!odd && c == '\\') rest more := by
  generalize htext : c :: rest = text at h
  cases h with
  | nil => cases htext
  | unicode =>
      cases htext
      exact absurd ⟨rfl, rfl, rfl⟩ hplain
  | written _ hrest =>
      cases htext
      exact ⟨_, rfl, hrest⟩

theorem Translates.cons_backslash (h : Translates false ('\\' :: rest) symbols)
    (hmark : rest.head? ≠ some 'u') :
    ∃ more, symbols = .written '\\' :: more ∧ Translates true rest more :=
  h.cons (fun hplain => hmark hplain.2.2)

theorem Translates.cons_of_odd (h : Translates true (c :: rest) symbols) :
    ∃ more, symbols = .written c :: more ∧ Translates false rest more :=
  h.cons nofun

theorem Translates.cons_of_ne (hc : c ≠ '\\') (h : Translates false (c :: rest) symbols) :
    ∃ more, symbols = .written c :: more ∧ Translates false rest more := by
  simpa [beq_false_of_ne hc] using h.cons (fun hmark => hc hmark.2.1)

theorem Translates.append {front : List Char} (hfront : ∀ c ∈ front, c ≠ '\\')
    (h : Translates false (front ++ rest) symbols) :
    ∃ more, symbols = front.map .written ++ more ∧ Translates false rest more := by
  induction front generalizing symbols with
  | nil => exact ⟨symbols, rfl, h⟩
  | cons c front ih =>
      obtain ⟨hc, hfront⟩ := List.forall_mem_cons.1 hfront
      obtain ⟨tail, rfl, htail⟩ := h.cons_of_ne hc
      obtain ⟨more, rfl, hmore⟩ := ih hfront htail
      exact ⟨more, rfl, hmore⟩

theorem not_isDigit_mark (d : Nat) : ¬ IsDigit 16 'u' d := fun hd =>
  absurd (hexDigit?_eq_some_iff.2 hd) nofun

theorem head_digits_append {value : Nat} {digits : List Char} (hlength : digits.length = 4)
    (hnumber : Number 16 0 digits value) : ∀ c ∈ (digits ++ rest).head?, c ≠ 'u' := by
  cases hnumber with
  | nil => cases hlength
  | cons hd _ =>
      rintro _ ⟨⟩ rfl
      exact not_isDigit_mark _ hd

theorem Translates.unicode_inv {marks value : Nat} {digits : List Char}
    (h : Translates false ('\\' :: List.replicate (marks + 1) 'u' ++ digits ++ rest) symbols)
    (hlength : digits.length = 4) (hnumber : Number 16 0 digits value) :
    ∃ more, symbols = .escaped value :: more ∧ Translates false rest more := by
  generalize htext : '\\' :: List.replicate (marks + 1) 'u' ++ digits ++ rest = text at h
  cases h with
  | nil => cases htext
  | @unicode marks' value' digits' rest' more hlength' hnumber' hrest =>
      simp only [List.cons_append, List.append_assoc, List.cons.injEq, true_and] at htext
      have hmarks (n : Nat) : ∀ c ∈ List.replicate n 'u', ¬ c ≠ 'u' :=
        fun c hc => not_not.2 (List.eq_of_mem_replicate hc)
      obtain ⟨-, htail⟩ := append_inj_of_free (hmarks _) (hmarks _)
        (head_digits_append hlength hnumber) (head_digits_append hlength' hnumber') htext
      obtain ⟨rfl, rfl⟩ := List.append_inj htail (hlength.trans hlength'.symm)
      rw [hnumber.unique (.inr rfl) hnumber']
      exact ⟨more, rfl, hrest⟩
  | written hplain =>
      cases htext
      exact absurd ⟨rfl, rfl, rfl⟩ hplain

theorem Translates.split {front behind : List Symbol} (h : Translates odd text (front ++ behind)) :
    ∃ first last odd', text = first ++ last ∧ Translates odd first front ∧
      Translates odd' last behind := by
  induction front generalizing odd text with
  | nil => exact ⟨[], text, odd, rfl, .nil, h⟩
  | cons symbol front ih =>
      cases symbol with
      | written c =>
          obtain ⟨rest, rfl, hplain, hrest⟩ := translates_written_iff.1 h
          obtain ⟨first, last, odd', rfl, hfirst, hlast⟩ := ih hrest
          -- A mark in front of the first part alone is one in front of the whole text.
          refine ⟨c :: first, last, odd', rfl, .written (fun hmark => hplain ?_) hfirst, hlast⟩
          exact ⟨hmark.1, hmark.2.1, by rw [List.head?_append, hmark.2.2]; rfl⟩
      | escaped value =>
          obtain ⟨rfl, marks, digits, rest, rfl, hlength, hnumber, hrest⟩ :=
            translates_escaped_iff.1 h
          obtain ⟨first, last, odd', rfl, hfirst, hlast⟩ := ih hrest
          exact ⟨_, last, odd', (List.append_assoc ..).symm, .unicode hlength hnumber hfirst, hlast⟩

theorem Translates.getLast? (h : Translates odd text symbols) (hc : ∀ d, ¬ IsDigit 16 c d)
    (hlast : text.getLast? = some c) : symbols.getLast? = some (.written c) := by
  induction h with
  | nil => cases hlast
  | @unicode marks value digits rest symbols hlength hnumber hrest ih =>
      have hdigits : c ∉ digits := by
        intro hmem
        obtain ⟨d, hd⟩ := hnumber.isDigit_of_mem c hmem
        exact hc d hd
      rw [List.getLast?_append, List.getLast?_append] at hlast
      cases hrest : rest.getLast? with
      | some c' =>
          rw [hrest, Option.some_or] at hlast
          rw [List.getLast?_cons, ih (hrest.trans hlast)]
          rfl
      | none =>
          have hne : digits ≠ [] := List.ne_nil_of_length_eq_add_one hlength
          rw [hrest, Option.none_or, List.getLast?_eq_some_getLast hne, Option.some_or] at hlast
          exact absurd (Option.some.inj hlast ▸ List.getLast_mem hne) hdigits
  | @written odd c' rest symbols _ hrest ih =>
      cases rest with
      | nil =>
          cases hlast
          rw [hrest.eq_nil]
          rfl
      | cons c'' rest =>
          rw [List.getLast?_cons_cons] at hlast
          rw [List.getLast?_cons, ih hlast]
          rfl

end

end BridgeTypings.Java.StringLiteral
