import BridgeTypings.Java.StringLiteral
import Mathlib.Tactic.IntervalCases

namespace BridgeTypings.Java.StringLiteral

def IsDigit (base : Nat) (c : Char) (d : Nat) : Prop :=
  d < base ∧ (c = d.digitChar ∨ c = d.digitChar.toUpper)

inductive Number (base : Nat) : Nat → List Char → Nat → Prop
  | nil {n : Nat} : Number base n [] n
  | cons {n d m : Nat} {c : Char} {cs : List Char} :
      IsDigit base c d → Number base (n * base + d) cs m → Number base n (c :: cs) m

theorem of_between {P : Char → Prop} {low high c : Char}
    (h : ∀ n, low.toNat ≤ n → n ≤ high.toNat → P (Char.ofNat n))
    (hc : (decide (low ≤ c) && decide (c ≤ high)) = true) : P c := by
  simp only [Bool.and_eq_true, decide_eq_true_eq] at hc
  have hcode := h c.toNat hc.1 hc.2
  rwa [Char.ofNat_toNat] at hcode

theorem octalDigit?_eq_some_iff {c : Char} {d : Nat} : octalDigit? c = some d ↔ IsDigit 8 c d := by
  constructor
  · intro h
    simp only [octalDigit?, Option.ite_none_right_eq_some, Option.some.injEq] at h
    obtain ⟨hrange, rfl⟩ := h
    refine of_between (P := fun c => IsDigit 8 c (c.toNat - '0'.toNat)) (fun n hlow hhigh => ?_) hrange
    change 48 ≤ n at hlow
    change n ≤ 55 at hhigh
    interval_cases n <;> exact ⟨by decide, .inl rfl⟩
  · rintro ⟨hd, hc⟩
    interval_cases d <;> rcases hc with rfl | rfl <;> rfl

theorem hexDigit?_eq_some_iff {c : Char} {d : Nat} : hexDigit? c = some d ↔ IsDigit 16 c d := by
  constructor
  · intro h
    unfold hexDigit? at h
    split at h
    · next hrange =>
        obtain rfl := Option.some.inj h
        refine of_between (P := fun c => IsDigit 16 c (c.toNat - '0'.toNat)) (fun n hlow hhigh => ?_)
          hrange
        change 48 ≤ n at hlow
        change n ≤ 57 at hhigh
        interval_cases n <;> exact ⟨by decide, .inl rfl⟩
    split at h
    · next hrange =>
        obtain rfl := Option.some.inj h
        refine of_between (P := fun c => IsDigit 16 c (c.toNat - 'a'.toNat + 10))
          (fun n hlow hhigh => ?_) hrange
        change 97 ≤ n at hlow
        change n ≤ 102 at hhigh
        interval_cases n <;> exact ⟨by decide, .inl rfl⟩
    split at h
    · next hrange =>
        obtain rfl := Option.some.inj h
        refine of_between (P := fun c => IsDigit 16 c (c.toNat - 'A'.toNat + 10))
          (fun n hlow hhigh => ?_) hrange
        change 65 ≤ n at hlow
        change n ≤ 70 at hhigh
        interval_cases n <;> exact ⟨by decide, .inr rfl⟩
    · cases h
  · rintro ⟨hd, hc⟩
    interval_cases d <;> rcases hc with rfl | rfl <;> rfl

theorem IsDigit.lt {base d : Nat} {c : Char} (h : IsDigit base c d) : d < base :=
  h.1

theorem IsDigit.unique {base d e : Nat} {c : Char} (hbase : base = 8 ∨ base = 16)
    (hd : IsDigit base c d) (he : IsDigit base c e) : d = e := by
  rcases hbase with rfl | rfl
  · exact Option.some.inj ((octalDigit?_eq_some_iff.2 hd).symm.trans (octalDigit?_eq_some_iff.2 he))
  · exact Option.some.inj ((hexDigit?_eq_some_iff.2 hd).symm.trans (hexDigit?_eq_some_iff.2 he))

theorem number_nil_iff {base n m : Nat} : Number base n [] m ↔ m = n := by
  constructor
  · rintro ⟨⟩
    rfl
  · rintro rfl
    exact .nil

theorem number_cons_iff {base n m : Nat} {c : Char} {cs : List Char} :
    Number base n (c :: cs) m ↔ ∃ d, IsDigit base c d ∧ Number base (n * base + d) cs m := by
  constructor
  · rintro (_ | ⟨hd, hcs⟩)
    exact ⟨_, hd, hcs⟩
  · rintro ⟨d, hd, hcs⟩
    exact .cons hd hcs

theorem digit_bound {base value d digits bound : Nat} (hd : d < base)
    (h : (value + 1) * base ^ (digits + 1) ≤ bound) :
    (value * base + d + 1) * base ^ digits ≤ bound := by
  have hle : value * base + d + 1 ≤ (value + 1) * base := by
    rw [Nat.add_mul]
    omega
  calc (value * base + d + 1) * base ^ digits ≤ (value + 1) * base * base ^ digits :=
        Nat.mul_le_mul_right _ hle
    _ = (value + 1) * base ^ (digits + 1) := by rw [Nat.pow_succ', Nat.mul_assoc]
    _ ≤ bound := h

theorem Number.lt_pow {base n m : Nat} {cs : List Char} (h : Number base n cs m) :
    m < (n + 1) * base ^ cs.length := by
  induction h with
  | nil => simp
  | @cons n d m c cs hd _ ih =>
      have hle : (n * base + d + 1) * base ^ cs.length ≤ (n + 1) * base ^ (cs.length + 1) :=
        digit_bound hd.lt (Nat.le_refl _)
      rw [List.length_cons]
      omega

theorem Number.unique {base n m m' : Nat} {cs : List Char} (hbase : base = 8 ∨ base = 16)
    (h : Number base n cs m) (h' : Number base n cs m') : m = m' := by
  induction h with
  | nil => exact (number_nil_iff.1 h').symm
  | cons hd _ ih =>
      obtain ⟨e, he, hrest⟩ := number_cons_iff.1 h'
      rw [hd.unique hbase he] at ih
      exact ih hrest

theorem Number.isDigit_of_mem {base n m : Nat} {cs : List Char} (h : Number base n cs m) :
    ∀ c ∈ cs, ∃ d, IsDigit base c d := by
  induction h with
  | nil => exact nofun
  | cons hd _ ih => exact List.forall_mem_cons.2 ⟨⟨_, hd⟩, ih⟩

end BridgeTypings.Java.StringLiteral
