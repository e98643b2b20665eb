import BridgeTypings.Event
import Mathlib.Data.List.Forall2

namespace BridgeTypings.Outcome

variable {ε α β : Type}

theorem bind_eq_ok {x : Except ε α} {f : α → Except ε β} {b : β} :
    x >>= f = .ok b ↔ ∃ a, x = .ok a ∧ f a = .ok b := by
  cases x with
  | error e => simp [bind, Except.bind]
  | ok a => simp [bind, Except.bind]

theorem bind_eq_error {x : Except ε α} {f : α → Except ε β} {e : ε} :
    x >>= f = .error e ↔ x = .error e ∨ ∃ a, x = .ok a ∧ f a = .error e := by
  cases x with
  | error e' => simp [bind, Except.bind]
  | ok a => simp [bind, Except.bind]

theorem mapError_eq_error {ε' : Type} {x : Except ε α} {f : ε → ε'} {e : ε'} :
    x.mapError f = .error e ↔ ∃ e', x = .error e' ∧ f e' = e := by
  cases x <;> simp [Except.mapError]

theorem map_eq_ok {x : Except ε α} {f : α → β} {b : β} :
    x.map f = .ok b ↔ ∃ a, x = .ok a ∧ f a = b := by
  cases x with
  | error e => simp [Except.map]
  | ok a => simp [Except.map]

theorem mapError_eq_ok {ε' : Type} {x : Except ε α} {f : ε → ε'} {a : α} :
    x.mapError f = .ok a ↔ x = .ok a := by
  cases x <;> simp [Except.mapError]

theorem eq_ok_of_toOption {x : Except ε α} {a : α} (h : x.toOption = some a) : x = .ok a := by
  cases x with
  | error e => cases h
  | ok b => rw [Option.some.inj h]

theorem exists_ok_of_toOption {x : Except ε α} {f : α → β} {b : β} (h : x.toOption.map f = some b) :
    ∃ a, x = .ok a ∧ f a = b := by
  cases x with
  | error e => cases h
  | ok a => exact ⟨a, rfl, Option.some.inj h⟩

def failure? : Except ε α → Option ε
  | .error e => some e
  | .ok _ => none

theorem eq_error_of_failure? {x : Except ε α} {e : ε} (h : failure? x = some e) :
    x = .error e := by
  cases x with
  | error e' => rw [Option.some.inj h]
  | ok a => cases h

theorem forall₂_of_mapM_ok {f : α → Except ε β} {l : List α} {l' : List β}
    (h : l.mapM f = .ok l') : List.Forall₂ (fun a b => f a = .ok b) l l' := by
  induction l generalizing l' with
  | nil =>
      cases h
      exact .nil
  | cons a rest ih =>
      rw [List.mapM_cons] at h
      obtain ⟨first, hfirst, h⟩ := bind_eq_ok.1 h
      obtain ⟨later, hlater, h⟩ := bind_eq_ok.1 h
      cases h
      exact .cons hfirst (ih hlater)

theorem mapM_ok_of_forall₂ {f : α → Except ε β} {l : List α} {l' : List β}
    (h : List.Forall₂ (fun a b => f a = .ok b) l l') : l.mapM f = .ok l' := by
  induction h with
  | nil => rfl
  | cons hfirst _ ih =>
      rw [List.mapM_cons, hfirst, ih]
      rfl

theorem exists_of_mem_right {R : α → β → Prop} {l : List α} {l' : List β}
    (h : List.Forall₂ R l l') {b : β} (hb : b ∈ l') : ∃ a ∈ l, R a b := by
  induction h with
  | nil => cases hb
  | @cons a b' rest rest' hfirst _ ih =>
      rcases List.mem_cons.1 hb with rfl | hb
      · exact ⟨a, List.mem_cons_self, hfirst⟩
      · obtain ⟨a', ha', hrelated⟩ := ih hb
        exact ⟨a', List.mem_cons_of_mem _ ha', hrelated⟩

theorem exists_of_mem_left {R : α → β → Prop} {l : List α} {l' : List β}
    (h : List.Forall₂ R l l') {a : α} (ha : a ∈ l) : ∃ b ∈ l', R a b :=
  exists_of_mem_right (R := fun b a => R a b) h.flip ha

theorem sublistForall₂_of_forall₂ {γ : Type} {R : α → β → Prop} {S : α → γ → Prop}
    {T : β → γ → Prop} {l l' : List α} (h : l.Sublist l') {bs : List β} {cs : List γ}
    (hR : List.Forall₂ R l bs) (hS : List.Forall₂ S l' cs)
    (hT : ∀ a b c, R a b → S a c → T b c) : List.SublistForall₂ T bs cs := by
  induction h generalizing bs cs with
  | slnil =>
      cases hR
      exact .nil
  | cons a _ ih =>
      cases hS with
      | cons _ hS => exact .cons_right (ih hR hS)
  | cons_cons a _ ih =>
      cases hR with
      | cons hfirst hR =>
          cases hS with
          | cons hfirst' hS => exact .cons (hT _ _ _ hfirst hfirst') (ih hR hS)

theorem mem_of_mapM_ok {f : α → Except ε β} {l : List α} {l' : List β} (h : l.mapM f = .ok l')
    {b : β} (hb : b ∈ l') : ∃ a ∈ l, f a = .ok b :=
  exists_of_mem_right (forall₂_of_mapM_ok h) hb

theorem mapM_ok {f : α → Except ε β} {l : List α} (h : ∀ a ∈ l, ∃ b, f a = .ok b) :
    ∃ l', l.mapM f = .ok l' := by
  induction l with
  | nil => exact ⟨[], rfl⟩
  | cons a rest ih =>
      obtain ⟨b, hb⟩ := h a List.mem_cons_self
      obtain ⟨later, hlater⟩ := ih fun a ha => h a (List.mem_cons_of_mem _ ha)
      rw [List.mapM_cons]
      exact ⟨b :: later, bind_eq_ok.2 ⟨b, hb, bind_eq_ok.2 ⟨later, hlater, rfl⟩⟩⟩

def IsFirst (P : α → Prop) (l : List α) (a : α) : Prop :=
  ∃ front behind, l = front ++ a :: behind ∧ (∀ b ∈ front, ¬ P b) ∧ P a

theorem isFirst_cons {P : α → Prop} {first a : α} {rest : List α} :
    IsFirst P (first :: rest) a ↔ (first = a ∧ P a) ∨ (¬ P first ∧ IsFirst P rest a) := by
  constructor
  · rintro ⟨front, behind, hsplit, hfront, ha⟩
    cases front with
    | nil => exact .inl ⟨(List.cons.inj hsplit).1, ha⟩
    | cons b front =>
        obtain ⟨rfl, rfl⟩ := List.cons.inj hsplit
        obtain ⟨hb, hfront⟩ := List.forall_mem_cons.1 hfront
        exact .inr ⟨hb, front, behind, rfl, hfront, ha⟩
  · rintro (⟨rfl, ha⟩ | ⟨hfirst, front, behind, rfl, hfront, ha⟩)
    · exact ⟨[], rest, rfl, nofun, ha⟩
    · exact ⟨first :: front, behind, rfl, List.forall_mem_cons.2 ⟨hfirst, hfront⟩, ha⟩

theorem exists_isFirst {P : α → Prop} {l : List α} (h : ∃ a ∈ l, P a) : ∃ a, IsFirst P l a := by
  induction l with
  | nil =>
      obtain ⟨a, ha, -⟩ := h
      cases ha
  | cons first rest ih =>
      by_cases hfirst : P first
      · exact ⟨first, isFirst_cons.2 (.inl ⟨rfl, hfirst⟩)⟩
      · obtain ⟨a, ha, hP⟩ := h
        rcases List.mem_cons.1 ha with rfl | ha
        · exact absurd hP hfirst
        · obtain ⟨b, hb⟩ := ih ⟨a, ha, hP⟩
          exact ⟨b, isFirst_cons.2 (.inr ⟨hfirst, hb⟩)⟩

theorem find?_eq_some_iff_isFirst {p : α → Bool} {l : List α} {a : α} :
    l.find? p = some a ↔ IsFirst (fun b => p b = true) l a := by
  rw [List.find?_eq_some_iff_append]
  constructor
  · rintro ⟨ha, front, behind, hsplit, hfront⟩
    exact ⟨front, behind, hsplit, fun b hb => by simpa using hfront b hb, ha⟩
  · rintro ⟨front, behind, hsplit, hfront, ha⟩
    exact ⟨ha, front, behind, hsplit, fun b hb => by simpa using hfront b hb⟩

theorem mapM_eq_error_iff {f : α → Except ε β} {l : List α} {e : ε} :
    l.mapM f = .error e ↔ ∃ a, IsFirst (fun b => ∃ e', f b = .error e') l a ∧ f a = .error e := by
  induction l with
  | nil =>
      constructor
      · intro h
        cases h
      · rintro ⟨a, ⟨front, behind, hsplit, -⟩, -⟩
        simp at hsplit
  | cons first rest ih =>
      rw [List.mapM_cons, bind_eq_error]
      constructor
      · rintro (hfirst | ⟨b, hfirst, hrest⟩)
        · exact ⟨first, isFirst_cons.2 (.inl ⟨rfl, e, hfirst⟩), hfirst⟩
        · rcases bind_eq_error.1 hrest with hrest | ⟨_, -, hpure⟩
          · obtain ⟨a, ha, hfails⟩ := ih.1 hrest
            exact ⟨a, isFirst_cons.2 (.inr ⟨by simp [hfirst], ha⟩), hfails⟩
          · cases hpure
      · rintro ⟨a, ha, hfails⟩
        rcases isFirst_cons.1 ha with ⟨rfl, -⟩ | ⟨hfirst, ha⟩
        · exact .inl hfails
        · cases hb : f first with
          | error e' => exact absurd ⟨e', hb⟩ hfirst
          | ok b => exact .inr ⟨b, rfl, bind_eq_error.2 (.inl (ih.2 ⟨a, ha, hfails⟩))⟩

def Meets (E : ε → Prop) (P : α → Prop) : Except ε α → Prop
  | .ok a => P a
  | .error e => E e

namespace Meets

variable {E : ε → Prop} {P : α → Prop} {Q : β → Prop} {x : Except ε α}

theorem ok {a : α} (h : Meets E P x) (hx : x = .ok a) : P a := by
  rw [hx] at h
  exact h

theorem error {e : ε} (h : Meets E P x) (hx : x = .error e) : E e := by
  rw [hx] at h
  exact h

theorem of_ok (h : ∀ a, x = .ok a → P a) : Meets (fun _ => True) P x := by
  cases x with
  | error e => trivial
  | ok a => exact h a rfl

theorem mono {P' : α → Prop} (h : Meets E P x) (hP : ∀ a, P a → P' a) : Meets E P' x := by
  cases x with
  | error e => exact h
  | ok a => exact hP a h

theorem bind {f : α → Except ε β} (h : Meets E P x) (hf : ∀ a, P a → Meets E Q (f a)) :
    Meets E Q (x >>= f) := by
  cases x with
  | error e => exact h
  | ok a => exact hf a h

theorem mapError {ε' : Type} {E' : ε' → Prop} {g : ε → ε'} (h : Meets E P x)
    (hg : ∀ e, E e → E' (g e)) : Meets E' P (x.mapError g) := by
  cases x with
  | error e => exact hg e h
  | ok a => exact h

theorem mapM {f : α → Except ε β} {l : List α} (h : ∀ a ∈ l, Meets E Q (f a)) :
    Meets E (fun l' => ∀ b ∈ l', Q b) (l.mapM f) := by
  induction l with
  | nil => exact fun _ => nofun
  | cons a rest ih =>
      rw [List.mapM_cons]
      refine (h a List.mem_cons_self).bind fun first hfirst => ?_
      refine (ih fun a ha => h a (List.mem_cons_of_mem _ ha)).bind fun later hlater => ?_
      exact List.forall_mem_cons.2 ⟨hfirst, hlater⟩

end Meets

def FailsIff (e : ε) (P : Prop) (x : Except ε α) : Prop :=
  Meets (fun e' => P ∧ e' = e) (fun _ => ¬ P) x

namespace FailsIff

variable {e : ε} {P Q : Prop} {x : Except ε α}

theorem error_iff (h : FailsIff e P x) {e' : ε} : x = .error e' ↔ P ∧ e' = e := by
  cases x with
  | error _ =>
      obtain ⟨hP, rfl⟩ := h
      simpa [hP] using eq_comm
  | ok _ =>
      have hP : ¬ P := h
      simp [hP]

theorem ok_iff (h : FailsIff e P x) : (∃ a, x = .ok a) ↔ ¬ P := by
  cases x with
  | error _ => simp [h.1]
  | ok a => exact ⟨fun _ => h, fun _ => ⟨a, rfl⟩⟩

theorem ok (a : α) : FailsIff e False (.ok a) :=
  not_false

theorem congr (h : FailsIff e P x) (hPQ : P ↔ Q) : FailsIff e Q x :=
  propext hPQ ▸ h

theorem bind {f : α → Except ε β} (h : FailsIff e P x) (hf : ∀ a, FailsIff e Q (f a)) :
    FailsIff e (P ∨ Q) (x >>= f) := by
  cases x with
  | error _ => exact ⟨.inl h.1, h.2⟩
  | ok a => exact (hf a).congr (or_iff_right h).symm

theorem map (h : FailsIff e P x) (f : α → β) : FailsIff e P (x >>= fun a => pure (f a)) :=
  (h.bind fun a => ok (f a)).congr (or_iff_left not_false)

theorem mapM {f : α → Except ε β} {R : α → Prop} {l : List α}
    (h : ∀ a ∈ l, FailsIff e (R a) (f a)) : FailsIff e (∃ a ∈ l, R a) (l.mapM f) := by
  induction l with
  | nil => exact (ok _).congr (by simp)
  | cons a rest ih =>
      obtain ⟨hfirst, hrest⟩ := List.forall_mem_cons.1 h
      rw [List.mapM_cons]
      exact (hfirst.bind fun b => (ih hrest).map (b :: ·)).congr (by simp)

end FailsIff

def FailsFirst {σ : Type} (error : σ → ε) (reasons : List σ) (x : Except ε α) : Prop :=
  Meets (fun e => ∃ s, reasons.head? = some s ∧ e = error s) (fun _ => reasons = []) x

namespace FailsFirst

variable {σ : Type} {error : σ → ε} {reasons reasons' : List σ} {x : Except ε α}

theorem error_iff (h : FailsFirst error reasons x) {e : ε} :
    x = .error e ↔ ∃ s, reasons.head? = some s ∧ e = error s := by
  cases x with
  | error e' =>
      obtain ⟨s, hs, rfl⟩ := h
      simpa [hs] using eq_comm
  | ok a =>
      obtain rfl : reasons = [] := h
      simp

theorem ok_iff (h : FailsFirst error reasons x) : (∃ a, x = .ok a) ↔ reasons = [] := by
  cases x with
  | error e =>
      obtain ⟨s, hs, -⟩ := h
      constructor
      · rintro ⟨a, ha⟩
        cases ha
      · rintro rfl
        cases hs
  | ok a => exact ⟨fun _ => h, fun _ => ⟨a, rfl⟩⟩

theorem ok (a : α) : FailsFirst error [] (.ok a) :=
  rfl

theorem bind {f : α → Except ε β} (h : FailsFirst error reasons x)
    (hf : ∀ a, FailsFirst error reasons' (f a)) :
    FailsFirst error (reasons ++ reasons') (x >>= f) := by
  cases x with
  | error e =>
      obtain ⟨s, hs, rfl⟩ := h
      exact ⟨s, by rw [List.head?_append, hs, Option.some_or], rfl⟩
  | ok a =>
      obtain rfl : reasons = [] := h
      exact hf a

theorem map (h : FailsFirst error reasons x) (f : α → β) :
    FailsFirst error reasons (x >>= fun a => pure (f a)) :=
  List.append_nil reasons ▸ h.bind fun a => ok (f a)

theorem mapM {f : α → Except ε β} {g : α → List σ} {l : List α}
    (h : ∀ a ∈ l, FailsFirst error (g a) (f a)) :
    FailsFirst error (l.flatMap g) (l.mapM f) := by
  induction l with
  | nil => exact ok _
  | cons a rest ih =>
      obtain ⟨hfirst, hrest⟩ := List.forall_mem_cons.1 h
      rw [List.mapM_cons, List.flatMap_cons]
      exact hfirst.bind fun b => (ih hrest).map (b :: ·)

end FailsFirst

theorem run_bind_eq_ok {x : Run α} {f : α → Run β} {b : β} :
    (x >>= f).result = .ok b ↔ ∃ a, x.result = .ok a ∧ (f a).result = .ok b := by
  rw [Run.result_bind]
  exact bind_eq_ok

theorem run_bind_eq_error {x : Run α} {f : α → Run β} {e : Error} :
    (x >>= f).result = .error e ↔
      x.result = .error e ∨ ∃ a, x.result = .ok a ∧ (f a).result = .error e := by
  rw [Run.result_bind]
  exact bind_eq_error

theorem meets_run_bind {E : Error → Prop} {P : α → Prop} {Q : β → Prop} {x : Run α}
    {f : α → Run β} (h : Meets E P x.result) (hf : ∀ a, P a → Meets E Q (f a).result) :
    Meets E Q (x >>= f).result := by
  rw [Run.result_bind]
  exact h.bind hf

end BridgeTypings.Outcome
