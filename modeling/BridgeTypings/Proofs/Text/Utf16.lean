import BridgeTypings.Text.Utf16

namespace BridgeTypings.Text.Utf16

theorem toNat_ofNat {n : Nat} (h : n.isValidChar) : (Char.ofNat n).toNat = n := by
  rw [Char.ofNat, dif_pos h]
  rfl

theorem not_surrogate (c : Char) : c.toNat < 0xD800 ∨ 0xE000 ≤ c.toNat ∧ c.toNat < 0x110000 := by
  rcases c.valid with h | ⟨h, h'⟩
  · exact .inl h
  · exact .inr ⟨by change 0xE000 ≤ c.val.toNat; omega, h'⟩

theorem units_of_lt {c : Char} (h : c.toNat < 0x10000) : units c = [c.toNat] :=
  if_pos h

theorem units_ofNat {n : Nat} (h : n < 0xD800) : units (Char.ofNat n) = [n] := by
  have hn := toNat_ofNat (.inl h)
  rw [units_of_lt (by omega), hn]

theorem lt_of_mem_units {c : Char} {u : Nat} (h : u ∈ units c) : u < 0x10000 := by
  have hc := not_surrogate c
  unfold units at h
  split at h
  · simp only [List.mem_singleton] at h
    omega
  · simp only [List.mem_cons, List.not_mem_nil, or_false] at h
    omega

section

variable {u v : Nat}

theorem decode_cons (hhigh : isHigh u = false) (hlow : isLow u = false) (us : List Nat) :
    decode (u :: us) = (decode us).map (Char.ofNat u :: ·) := by
  cases us with
  | nil => simp [decode, hhigh, hlow]
  | cons v us => simp [decode, hhigh, hlow]

theorem decode_pair (hhigh : isHigh u = true) (hlow : isLow v = true) (us : List Nat) :
    decode (u :: v :: us) = (decode us).map (pair u v :: ·) := by
  simp [decode, hhigh, hlow]

theorem isHigh_iff : isHigh u = true ↔ 0xD800 ≤ u ∧ u < 0xDC00 := by
  simp [isHigh]

theorem isLow_iff : isLow u = true ↔ 0xDC00 ≤ u ∧ u < 0xE000 := by
  simp [isLow]

end

theorem decode_units (c : Char) (us : List Nat) :
    decode (units c ++ us) = (decode us).map (c :: ·) := by
  have hc := not_surrogate c
  by_cases hplane : c.toNat < 0x10000
  · have hhigh : isHigh c.toNat = false := by
      rw [Bool.eq_false_iff, Ne, isHigh_iff]
      omega
    have hlow : isLow c.toNat = false := by
      rw [Bool.eq_false_iff, Ne, isLow_iff]
      omega
    rw [units_of_lt hplane, List.singleton_append, decode_cons hhigh hlow, Char.ofNat_toNat]
  · have hpair : pair (0xD800 + (c.toNat - 0x10000) / 0x400)
        (0xDC00 + (c.toNat - 0x10000) % 0x400) = c := by
      unfold pair
      rw [show 0x10000 + (0xD800 + (c.toNat - 0x10000) / 0x400 - 0xD800) * 0x400 +
        (0xDC00 + (c.toNat - 0x10000) % 0x400 - 0xDC00) = c.toNat by omega, Char.ofNat_toNat]
    have hhigh : isHigh (0xD800 + (c.toNat - 0x10000) / 0x400) = true := by
      rw [isHigh_iff]
      omega
    have hlow : isLow (0xDC00 + (c.toNat - 0x10000) % 0x400) = true := by
      rw [isLow_iff]
      omega
    unfold units
    rw [if_neg hplane, List.cons_append, List.singleton_append, decode_pair hhigh hlow, hpair]

theorem decode_flatMap_units (cs : List Char) : decode (cs.flatMap units) = some cs := by
  induction cs with
  | nil => rfl
  | cons c cs ih => rw [List.flatMap_cons, decode_units, ih, Option.map_some]

theorem units_pair {u v : Nat} (hhigh : isHigh u = true) (hlow : isLow v = true) :
    units (pair u v) = [u, v] := by
  rw [isHigh_iff] at hhigh
  rw [isLow_iff] at hlow
  have hvalue : (pair u v).toNat = 0x10000 + (u - 0xD800) * 0x400 + (v - 0xDC00) :=
    toNat_ofNat (.inr (by omega))
  have hfirst : 0xD800 + ((pair u v).toNat - 0x10000) / 0x400 = u := by omega
  have hsecond : 0xDC00 + ((pair u v).toNat - 0x10000) % 0x400 = v := by omega
  unfold units
  rw [if_neg (by omega), hfirst, hsecond]

theorem units_plain {u : Nat} (hu : u < 0x10000) (hhigh : isHigh u = false)
    (hlow : isLow u = false) : units (Char.ofNat u) = [u] := by
  rw [Bool.eq_false_iff, Ne, isHigh_iff] at hhigh
  rw [Bool.eq_false_iff, Ne, isLow_iff] at hlow
  have hvalue : (Char.ofNat u).toNat = u := toNat_ofNat (by unfold Nat.isValidChar; omega)
  rw [units_of_lt (by omega), hvalue]

theorem eq_flatMap_units {us : List Nat} {cs : List Char} (hus : ∀ u ∈ us, u < 0x10000)
    (h : decode us = some cs) : us = cs.flatMap units := by
  fun_induction decode us generalizing cs with
  | case1 =>
      cases h
      rfl
  | case2 => cases h
  | case3 u hsurrogate =>
      cases h
      simp only [Bool.or_eq_true, not_or, Bool.not_eq_true] at hsurrogate
      simp [units_plain (hus u List.mem_cons_self) hsurrogate.1 hsurrogate.2]
  | case4 u v rest hhigh hlow ih =>
      obtain ⟨more, hmore, rfl⟩ := Option.map_eq_some_iff.1 h
      have hrest := ih (fun w hw => hus w (by simp [hw])) hmore
      rw [List.flatMap_cons, units_pair hhigh hlow, ← hrest]
      rfl
  | case5 => cases h
  | case6 => cases h
  | case7 u v rest hhigh hlow ih =>
      obtain ⟨more, hmore, rfl⟩ := Option.map_eq_some_iff.1 h
      have hrest := ih (fun w hw => hus w (List.mem_cons_of_mem _ hw)) hmore
      have hunits := units_plain (hus u List.mem_cons_self) (by simpa using hhigh)
        (by simpa using hlow)
      rw [List.flatMap_cons, hunits, ← hrest]
      rfl

theorem decode_eq_some_iff {us : List Nat} {cs : List Char} (hus : ∀ u ∈ us, u < 0x10000) :
    decode us = some cs ↔ us = cs.flatMap units :=
  ⟨eq_flatMap_units hus, fun h => h ▸ decode_flatMap_units cs⟩

end BridgeTypings.Text.Utf16
