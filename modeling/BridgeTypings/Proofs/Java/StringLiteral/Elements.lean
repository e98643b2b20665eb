import BridgeTypings.Proofs.Java.StringLiteral.Translation
import BridgeTypings.Proofs.Outcome

namespace BridgeTypings.Java.StringLiteral

open Text

inductive Symbol.Stands : Symbol → Char → Prop
  | written {c : Char} : Stands (.written c) c
  | escaped {c : Char} : Stands (.escaped c.toNat) c

def Symbol.Writes (s : Symbol) (c : Char) : Prop :=
  s = .written c

def Symbol.IsWritten (s : Symbol) : Prop :=
  ∃ c, s.Writes c

/--
The symbols between the quotes, their units, and those among them that make up escapes, when `Is`
says which characters a symbol can be taken for.
-/
inductive Elements (Is : Symbol → Char → Prop) : List Symbol → List Nat → List Symbol → Prop
  | nil : Elements Is [] [] []
  | character {s : Symbol} {rest parts : List Symbol} {us : List Nat} :
      (∀ c ∈ ['"', '\\', '\n', '\r'], ¬ Is s c) → Elements Is rest us parts →
      Elements Is (s :: rest) (s.units ++ us) parts
  | escape {backslash s : Symbol} {c value : Char} {rest parts : List Symbol} {us : List Nat} :
      Is backslash '\\' → Is s c → (c, value) ∈ escapes → Elements Is rest us parts →
      Elements Is (backslash :: s :: rest) (Utf16.units value ++ us) (backslash :: s :: parts)
  | octal {backslash : Symbol} {digits rest parts : List Symbol} {first : Char} {more : List Char}
      {value : Nat} {us : List Nat} :
      Is backslash '\\' → List.Forall₂ Is digits (first :: more) →
      Number 8 0 (first :: more) value → digits.length ≤ octalLimit first →
      (digits.length = octalLimit first ∨ ∀ s ∈ rest.head?, ∀ c d, Is s c → ¬ IsDigit 8 c d) →
      Elements Is rest us parts →
      Elements Is (backslash :: (digits ++ rest)) (Utf16.units (Char.ofNat value) ++ us)
        (backslash :: (digits ++ parts))

section

variable {s : Symbol} {c : Char} {text : List Char} {symbols rest parts : List Symbol}
  {us : List Nat}

theorem Symbol.Writes.stands (h : s.Writes c) : s.Stands c := by
  obtain rfl := h
  exact .written

theorem Symbol.Stands.writes (h : s.Stands c) (hs : s.IsWritten) : s.Writes c := by
  obtain ⟨c', rfl⟩ := hs
  cases h
  rfl

theorem Symbol.Stands.writes_of_ne (h : s.Stands c) (hs : s ≠ .escaped c.toNat) : s.Writes c := by
  cases h with
  | written => rfl
  | escaped => exact absurd rfl hs

theorem Symbol.Stands.units (h : s.Stands c) (hc : c.toNat < 0x10000) : s.units = [c.toNat] := by
  cases h with
  | written => exact Utf16.units_of_lt hc
  | escaped => rfl

theorem forall₂_writes_iff {cs : List Char} :
    List.Forall₂ Symbol.Writes symbols cs ↔ symbols = cs.map .written := by
  rw [← List.forall₂_eq_eq_eq, List.forall₂_map_right_iff]
  rfl

theorem forall₂_writes {cs : List Char} (h : List.Forall₂ Symbol.Stands symbols cs)
    (hsymbols : ∀ s ∈ symbols, s.IsWritten) : List.Forall₂ Symbol.Writes symbols cs := by
  induction h with
  | nil => exact .nil
  | cons hs _ ih =>
      obtain ⟨hwritten, hrest⟩ := List.forall_mem_cons.1 hsymbols
      exact .cons (hs.writes hwritten) (ih hrest)

theorem ne_backslash_of_character (h : c ∉ ['"', '\\', '\n', '\r']) : c ≠ '\\' := by
  rintro rfl
  exact absurd h (by decide)

theorem ne_backslash_of_isDigit {d : Nat} (h : IsDigit 8 c d) : c ≠ '\\' := by
  rintro rfl
  exact absurd (octalDigit?_eq_some_iff.2 h) nofun

theorem toNat_lt_of_isDigit {d : Nat} (h : IsDigit 8 c d) : c.toNat < 0x10000 := by
  obtain ⟨hd, hc⟩ := h
  interval_cases d <;> rcases hc with rfl | rfl <;> decide

theorem ne_backslash_of_number {n value : Nat} {digits : List Char}
    (h : Number 8 n digits value) : ∀ c ∈ digits, c ≠ '\\' := by
  intro c hc
  obtain ⟨d, hd⟩ := h.isDigit_of_mem c hc
  exact ne_backslash_of_isDigit hd

theorem Translates.head_digit_iff (h : Translates false text symbols) :
    (∀ c ∈ text.head?, ∀ d, ¬ IsDigit 8 c d) ↔
      ∀ s ∈ symbols.head?, ∀ c d, s.Writes c → ¬ IsDigit 8 c d := by
  constructor
  · rintro hnone s hs c d rfl hd
    obtain ⟨more, rfl⟩ := List.head?_eq_some_iff.1 hs
    obtain ⟨rest, rfl, -⟩ := translates_written_iff.1 h
    exact hnone c rfl d hd
  · intro hnone c hc d hd
    obtain ⟨rest, rfl⟩ := List.head?_eq_some_iff.1 hc
    obtain ⟨more, rfl, -⟩ := h.cons (fun hmark => ne_backslash_of_isDigit hd hmark.2.1)
    exact hnone (.written c) rfl c d rfl hd

theorem Elements.writes (h : Elements Symbol.Stands symbols us parts)
    (hparts : ∀ s ∈ parts, s.IsWritten) : Elements Symbol.Writes symbols us parts := by
  induction h with
  | nil => exact .nil
  | character hs _ ih => exact .character (fun c hc hw => hs c hc hw.stands) (ih hparts)
  | escape hslash hs hmem _ ih =>
      simp only [List.forall_mem_cons] at hparts
      obtain ⟨hpslash, hps, hparts⟩ := hparts
      exact .escape (hslash.writes hpslash) (hs.writes hps) hmem (ih hparts)
  | octal hslash hdigits hnumber hlimit hlongest _ ih =>
      obtain ⟨hpslash, hparts⟩ := List.forall_mem_cons.1 hparts
      obtain ⟨hpdigits, hparts⟩ := List.forall_mem_append.1 hparts
      have hend := hlongest.imp_right
        (fun hnone s hs c d (hc : s.Writes c) => hnone s hs c d hc.stands)
      exact .octal (hslash.writes hpslash) (forall₂_writes hdigits hpdigits) hnumber hlimit hend
        (ih hparts)

theorem items_of_elements (h : Elements Symbol.Writes symbols us parts)
    (ht : Translates false text symbols) : Items text us := by
  induction h generalizing text with
  | nil =>
      rw [translates_nil_symbols_iff.1 ht]
      exact .nil
  | @character s rest parts us hs _ ih =>
      cases s with
      | written c =>
          have hplain : c ∉ ['"', '\\', '\n', '\r'] := fun hc => hs c hc rfl
          obtain ⟨tail, rfl, htail⟩ := ht.of_ne (ne_backslash_of_character hplain)
          exact .cons (.character hplain) (ih htail)
      | escaped value =>
          obtain ⟨-, marks, digits, tail, rfl, hlength, hnumber, htail⟩ :=
            translates_escaped_iff.1 ht
          exact .cons (.unicode hlength hnumber) (ih htail)
  | escape hslash hs hmem _ ih =>
      obtain rfl := hslash
      obtain rfl := hs
      obtain ⟨behind, rfl, hbehind⟩ := ht.of_backslash
      obtain ⟨tail, rfl, htail⟩ := hbehind.of_odd
      exact .cons (.escape hmem) (ih htail)
  | @octal _ _ rest parts first more value us hslash hdigits hnumber hlimit hlongest _ ih =>
      obtain rfl := hslash
      obtain rfl := forall₂_writes_iff.1 hdigits
      obtain ⟨-, hfree⟩ := List.forall_mem_cons.1 (ne_backslash_of_number hnumber)
      obtain ⟨behind, rfl, hbehind⟩ := ht.of_backslash
      obtain ⟨behindFirst, rfl, hmore⟩ := hbehind.of_odd
      obtain ⟨tail, rfl, htail⟩ := hmore.of_append hfree
      rw [List.length_map] at hlimit hlongest
      exact .cons (.octal hnumber ⟨hlimit, hlongest.imp_right htail.head_digit_iff.2⟩) (ih htail)

theorem Items.elements (h : Items text us) (ht : Translates false text symbols) :
    ∃ parts, Elements Symbol.Writes symbols us parts := by
  induction h generalizing symbols with
  | nil =>
      rw [ht.eq_nil]
      exact ⟨[], .nil⟩
  | @cons text rest us vs hitem hrest ih =>
      cases hitem with
      | @character c hplain =>
          obtain ⟨more, rfl, hmore⟩ := ht.cons_of_ne (ne_backslash_of_character hplain)
          obtain ⟨parts, hparts⟩ := ih hmore
          refine ⟨parts, .character ?_ hparts⟩
          rintro c' hc' ⟨⟩
          exact hplain hc'
      | @escape c value hmem =>
          have hmark : (c :: rest).head? ≠ some 'u' := by
            rintro ⟨⟩
            exact not_mem_escapes rfl value hmem
          obtain ⟨behind, rfl, hbehind⟩ := ht.cons_backslash hmark
          obtain ⟨more, rfl, hmore⟩ := hbehind.cons_of_odd
          obtain ⟨parts, hparts⟩ := ih hmore
          exact ⟨_, .escape rfl rfl hmem hparts⟩
      | @octal first digits value hnumber hlongest =>
          obtain ⟨⟨d, hd⟩, -⟩ := List.forall_mem_cons.1 hnumber.isDigit_of_mem
          obtain ⟨-, hfree⟩ := List.forall_mem_cons.1 (ne_backslash_of_number hnumber)
          have hmark : (first :: digits ++ rest).head? ≠ some 'u' := by
            rintro ⟨⟩
            exact absurd (octalDigit?_eq_some_iff.2 hd) nofun
          obtain ⟨behind, rfl, hbehind⟩ := ht.cons_backslash hmark
          obtain ⟨behindFirst, rfl, hdigits⟩ := hbehind.cons_of_odd
          obtain ⟨more, rfl, hmore⟩ := hdigits.append hfree
          obtain ⟨parts, hparts⟩ := ih hmore
          have hend := hlongest.2.imp_right hmore.head_digit_iff.1
          have hdigits : List.Forall₂ Symbol.Writes ((first :: digits).map .written)
              (first :: digits) := forall₂_writes_iff.2 rfl
          rw [← List.length_map Symbol.written] at hend
          exact ⟨_, .octal rfl hdigits hnumber (by simpa using hlongest.1) hend hparts⟩
      | unicode hlength hnumber =>
          obtain ⟨more, rfl, hmore⟩ := ht.unicode_inv hlength hnumber
          obtain ⟨parts, hparts⟩ := ih hmore
          exact ⟨parts, .character nofun hparts⟩

theorem escape_unit {value : Char} (h : (c, value) ∈ escapes) : (Utf16.units value).length = 1 := by
  rw [units_of_mem_escapes h]
  rfl

theorem octal_unit {first : Char} {more : List Char} {value : Nat}
    (h : Number 8 0 (first :: more) value) (hlimit : (first :: more).length ≤ octalLimit first) :
    (Utf16.units (Char.ofNat value)).length = 1 := by
  obtain ⟨d, hd, hmore⟩ := number_cons_iff.1 h
  obtain ⟨hlength, hbound⟩ := octalLimit_of_isDigit hd
  have hlt := hmore.lt_pow
  have hpow : 8 ^ more.length ≤ 8 ^ (if first ≤ '3' then 2 else 1) :=
    Nat.pow_le_pow_right (by decide) (by simpa [hlength] using hlimit)
  have hvalue := Nat.mul_le_mul_left (d + 1) hpow
  rw [Nat.zero_mul, Nat.zero_add] at hlt
  rw [Utf16.units_ofNat (by omega)]
  rfl

theorem not_number_of_mem_escapes {n m : Nat} {value : Char} {more : List Char}
    (h : (c, value) ∈ escapes) : ¬ Number 8 n (c :: more) m := by
  intro hnumber
  obtain ⟨d, hd, -⟩ := number_cons_iff.1 hnumber
  exact not_mem_escapes (simpleEscape?_of_isDigit hd) value h

theorem Elements.of_character (h : Elements Symbol.Writes (s :: rest) us parts)
    (hs : ¬ s.Writes '\\') : ∃ vs, us = s.units ++ vs ∧ Elements Symbol.Writes rest vs parts := by
  cases h with
  | character _ hrest => exact ⟨_, rfl, hrest⟩
  | escape hslash => exact absurd hslash hs
  | octal hslash => exact absurd hslash hs

theorem Elements.of_backslash (h : Elements Symbol.Writes (.written '\\' :: rest) us parts) :
    ∃ c more behind vs parts', rest = .written c :: (more.map .written ++ behind) ∧
      us.length = 1 + vs.length ∧ Elements Symbol.Writes behind vs parts' ∧
        ((more = [] ∧ ∃ value, (c, value) ∈ escapes) ∨
          ((∃ value, Number 8 0 (c :: more) value) ∧ (c :: more).length ≤ octalLimit c)) := by
  generalize hsymbols : .written '\\' :: rest = symbols at h
  cases h with
  | nil => cases hsymbols
  | character hs =>
      cases hsymbols
      exact absurd rfl (hs '\\' (by decide))
  | @escape _ _ c value behind parts' vs _ hs hmem hrest =>
      cases hsymbols
      obtain rfl := hs
      have hlength : (Utf16.units value ++ vs).length = 1 + vs.length := by
        rw [List.length_append, escape_unit hmem]
      exact ⟨c, [], behind, vs, parts', rfl, hlength, hrest, .inl ⟨rfl, value, hmem⟩⟩
  | @octal _ _ behind parts' first more value vs _ hdigits hnumber hlimit _ hrest =>
      cases hsymbols
      obtain rfl := forall₂_writes_iff.1 hdigits
      rw [List.length_map] at hlimit
      have hlength : (Utf16.units (Char.ofNat value) ++ vs).length = 1 + vs.length := by
        rw [List.length_append, octal_unit hnumber hlimit]
      exact ⟨first, more, behind, vs, parts', rfl, hlength, hrest, .inr ⟨⟨value, hnumber⟩, hlimit⟩⟩

theorem Elements.of_digits {digits : List Symbol}
    (h : Elements Symbol.Writes (digits ++ rest) us parts)
    (hdigits : ∀ s ∈ digits, ∃ c d, s.Stands c ∧ IsDigit 8 c d) :
    ∃ vs parts', us.length = digits.length + vs.length ∧ Elements Symbol.Writes rest vs parts' := by
  induction digits generalizing us with
  | nil => exact ⟨us, parts, (Nat.zero_add _).symm, h⟩
  | cons s digits ih =>
      obtain ⟨⟨c, d, hs, hd⟩, hdigits⟩ := List.forall_mem_cons.1 hdigits
      have hslash : ¬ s.Writes '\\' := by
        rintro rfl
        cases hs
        exact ne_backslash_of_isDigit hd rfl
      obtain ⟨ws, rfl, hws⟩ := h.of_character hslash
      obtain ⟨vs, parts', hlength, hvs⟩ := ih hws hdigits
      refine ⟨vs, parts', ?_, hvs⟩
      rw [List.length_append, hs.units (toNat_lt_of_isDigit hd), hlength, List.length_singleton,
        List.length_cons]
      omega

theorem stands_of_number {digits : List Symbol} {cs : List Char} {n value : Nat}
    (h : List.Forall₂ Symbol.Stands digits cs) (hnumber : Number 8 n cs value) :
    ∀ s ∈ digits, ∃ c d, s.Stands c ∧ IsDigit 8 c d := by
  intro s hs
  obtain ⟨c, hc, hstands⟩ := Outcome.exists_of_mem_left h hs
  obtain ⟨d, hd⟩ := hnumber.isDigit_of_mem c hc
  exact ⟨c, d, hstands, hd⟩

theorem exists_extra_digits {digits behind : List Symbol} {taken : List Char} {n value limit : Nat}
    (h : digits ++ rest = taken.map .written ++ behind) (hnumber : Number 8 n taken value)
    (hlimit : taken.length ≤ limit)
    (hlongest : digits.length = limit ∨ ∀ s ∈ rest.head?, ∀ c d, s.Stands c → ¬ IsDigit 8 c d) :
    ∃ extra, digits = taken.map .written ++ extra ∧ behind = extra ++ rest := by
  rcases List.append_eq_append_iff.1 h with ⟨missing, htaken, hrest⟩ | ⟨extra, hdigits, hbehind⟩
  · cases missing with
    | nil => exact ⟨[], by simpa using htaken.symm, hrest.symm⟩
    | cons s missing =>
        have hmem : s ∈ taken.map Symbol.written := by simp [htaken]
        obtain ⟨c, hc, rfl⟩ := List.mem_map.1 hmem
        obtain ⟨d, hd⟩ := hnumber.isDigit_of_mem c hc
        rcases hlongest with hfull | hnone
        · have hlength := congrArg List.length htaken
          simp only [List.length_map, List.length_append, List.length_cons] at hlength
          omega
        · exact absurd hd (hnone (.written c) (by rw [hrest]; rfl) c d .written)
  · exact ⟨extra, hdigits, hbehind⟩

theorem Elements.length_le {parts' : List Symbol} {us' : List Nat}
    (h : Elements Symbol.Stands symbols us parts) (h' : Elements Symbol.Writes symbols us' parts')
    (hslash : .escaped 92 ∉ symbols) :
    us.length ≤ us'.length ∧ (us.length = us'.length → ∀ s ∈ parts, s.IsWritten) := by
  induction h generalizing us' parts' with
  | nil => exact ⟨Nat.zero_le _, fun _ => nofun⟩
  | @character s rest parts us hs _ ih =>
      obtain ⟨vs, rfl, hrest⟩ := h'.of_character fun hw => hs '\\' (by decide) hw.stands
      obtain ⟨hle, heq⟩ := ih hrest fun hmem => hslash (List.mem_cons_of_mem _ hmem)
      simp only [List.length_append, Nat.add_le_add_iff_left, Nat.add_left_cancel_iff]
      exact ⟨hle, heq⟩
  | @escape backslash s c value rest parts us hbackslash hs hmem _ ih =>
      simp only [List.mem_cons, not_or] at hslash
      obtain ⟨hfirst, -, hslash⟩ := hslash
      obtain rfl := hbackslash.writes_of_ne (Ne.symm hfirst)
      obtain ⟨c', more, behind, vs, parts', hsymbols, hlength, hbehind, hkind⟩ := h'.of_backslash
      obtain ⟨rfl, rfl⟩ := List.cons.inj hsymbols
      cases hs
      rcases hkind with ⟨rfl, -⟩ | ⟨⟨octal, hnumber⟩, -⟩
      · obtain ⟨hle, heq⟩ := ih hbehind hslash
        rw [List.length_append, escape_unit hmem, hlength, Nat.add_le_add_iff_left,
          Nat.add_left_cancel_iff]
        refine ⟨hle, fun h => ?_⟩
        have hrest := heq h
        exact List.forall_mem_cons.2 ⟨⟨'\\', rfl⟩, List.forall_mem_cons.2 ⟨⟨c, rfl⟩, hrest⟩⟩
      · exact absurd hnumber (not_number_of_mem_escapes hmem)
  | @octal backslash digits rest parts first more value us hbackslash hdigits hnumber hlimit
      hlongest _ ih =>
      simp only [List.mem_cons, List.mem_append, not_or] at hslash
      obtain ⟨hfirst, -, hslash⟩ := hslash
      obtain rfl := hbackslash.writes_of_ne (Ne.symm hfirst)
      obtain ⟨c', taken, behind, vs, parts', hsymbols, hlength, hbehind, hkind⟩ := h'.of_backslash
      cases hdigits with
      | @cons s _ digits _ hs hmore =>
          obtain ⟨rfl, -⟩ := List.cons.inj hsymbols
          cases hs
          rcases hkind with ⟨-, escaped, hmem⟩ | ⟨⟨octal, hoctal⟩, htakes⟩
          · exact absurd hnumber (not_number_of_mem_escapes hmem)
          obtain ⟨extra, hextra, rfl⟩ := exists_extra_digits hsymbols hoctal htakes hlongest
          obtain rfl := (List.cons.inj hextra).2
          obtain ⟨d, -, hmoreNumber⟩ := number_cons_iff.1 hnumber
          have hdigits := stands_of_number hmore hmoreNumber
          obtain ⟨ws, parts', hextraLength, hws⟩ :=
            hbehind.of_digits fun s hs => hdigits s (List.mem_append_right _ hs)
          obtain ⟨hle, heq⟩ := ih hws hslash
          have hvalue := octal_unit hnumber (by simpa [← hmore.length_eq] using hlimit)
          rw [List.length_append, hvalue, hlength, hextraLength]
          refine ⟨by omega, fun h => ?_⟩
          obtain rfl : extra = [] := List.length_eq_zero_iff.1 (by omega)
          have hwritten : ∀ s ∈ taken.map Symbol.written ++ [], s.IsWritten := by
            rw [List.append_nil, List.forall_mem_map]
            exact fun c _ => ⟨c, rfl⟩
          have hparts := List.forall_mem_append.2 ⟨hwritten, heq (by omega)⟩
          exact List.forall_mem_cons.2 ⟨⟨'\\', rfl⟩, List.forall_mem_cons.2 ⟨⟨first, rfl⟩, hparts⟩⟩

end

end BridgeTypings.Java.StringLiteral
