import BridgeTypings.Text.Parser

namespace BridgeTypings.Text.Parser

variable {ι α β : Type}

theorem bind_eq_some {p : Parser ι α} {f : α → Parser ι β} {cs : List Char} {b : Parsed ι β} :
    (p >>= f) cs = some b ↔ ∃ a b', p cs = some a ∧ f a.value a.rest = some b' ∧
      b = ⟨b'.value, a.found ++ b'.found, b'.rest⟩ := by
  simp only [Bind.bind, Parser.bind]
  constructor
  · intro h
    split at h
    · cases h
    · next a ha =>
        split at h
        · cases h
        · next b' hb =>
            cases h
            exact ⟨a, b', ha, hb, rfl⟩
  · rintro ⟨a, b', ha, hb, rfl⟩
    simp only [ha, hb]

theorem orElse_eq_some {p : Parser ι α} {q : Unit → Parser ι α} {cs : List Char}
    {a : Parsed ι α} : (HOrElse.hOrElse p q : Parser ι α) cs = some a ↔
      p cs = some a ∨ p cs = none ∧ q () cs = some a := by
  change Parser.orElse p q cs = some a ↔ _
  unfold Parser.orElse
  cases p cs with
  | none => simp
  | some b => simp

structure Yields (P : α → Prop) (p : Parser ι α) : Prop where
  value {cs : List Char} {a : Parsed ι α} : p cs = some a → P a.value

namespace Yields

variable {P : α → Prop} {Q : β → Prop} {p : Parser ι α} {f : α → Parser ι β}

theorem mono {P' : α → Prop} (h : Yields P p) (hP : ∀ a, P a → P' a) : Yields P' p :=
  ⟨fun ha => hP _ (h.value ha)⟩

theorem any : Yields (fun _ => True) p :=
  ⟨fun _ => trivial⟩

theorem pure {a : α} (h : P a) : Yields P (Pure.pure a : Parser ι α) := by
  constructor
  intro cs b hb
  cases hb
  exact h

theorem fail : Yields P (Parser.fail : Parser ι α) :=
  ⟨nofun⟩

theorem bind (hp : Yields P p) (hf : ∀ a, P a → Yields Q (f a)) : Yields Q (p >>= f) := by
  constructor
  intro cs b h
  obtain ⟨a, b', ha, hb, rfl⟩ := bind_eq_some.1 h
  have hvalue := (hf a.value (hp.value ha)).value hb
  exact hvalue

theorem skip (hf : ∀ a, Yields Q (f a)) : Yields Q (p >>= f) :=
  bind any (fun a _ => hf a)

theorem require {b : Bool} : Yields (fun _ => b = true) (Parser.require b : Parser ι Unit) := by
  constructor
  intro cs a h
  unfold Parser.require at h
  split at h
  · assumption
  · cases h

theorem ofOption {o : Option α} : Yields (fun a => o = some a) (Parser.ofOption o : Parser ι α) := by
  cases o with
  | none => exact fail
  | some a => exact pure rfl

theorem orElse (hp : Yields P p) {q : Unit → Parser ι α} (hq : Yields P (q ())) :
    Yields P (HOrElse.hOrElse p q) := by
  constructor
  intro cs a h
  rcases orElse_eq_some.1 h with ha | ⟨-, ha⟩
  · exact hp.value ha
  · exact hq.value ha

theorem maybe (h : Yields P p) : Yields (fun o => ∀ a ∈ o, P a) (Parser.maybe p) := by
  refine orElse (bind h fun a ha => pure ?_) (pure ?_)
  · simpa using ha
  · simp

theorem repeated (h : Yields P p) (limit : Nat) :
    Yields (fun l => ∀ a ∈ l, P a) (Parser.repeated p limit) := by
  induction limit with
  | zero => exact pure (by simp)
  | succ limit ih =>
      refine orElse (bind h fun a ha => bind ih fun rest hrest => pure ?_) (pure ?_)
      · exact List.forall_mem_cons.2 ⟨ha, hrest⟩
      · simp

theorem many (h : Yields P p) : Yields (fun l => ∀ a ∈ l, P a) (Parser.many p) :=
  ⟨fun hl => (repeated h _).value hl⟩

theorem separated1 (h : Yields P p) {separator : Parser ι Unit} :
    Yields (fun l => ∀ a ∈ l, P a) (Parser.separated1 p separator) := by
  refine bind h fun a ha => bind (many (skip fun _ => h)) fun rest hrest => pure ?_
  exact List.forall_mem_cons.2 ⟨ha, hrest⟩

theorem iterated {step : α → Parser ι α} (hstep : ∀ a, P a → Yields P (step a)) (limit : Nat)
    {a : α} (ha : P a) : Yields P (Parser.iterated step limit a) := by
  induction limit generalizing a with
  | zero => exact pure ha
  | succ limit ih => exact orElse (bind (hstep a ha) fun b hb => ih hb) (pure ha)

theorem extended {step : α → Parser ι α} (hstep : ∀ a, P a → Yields P (step a)) {a : α}
    (ha : P a) : Yields P (Parser.extended step a) :=
  ⟨fun hb => (iterated hstep _ ha).value hb⟩

end Yields

class Finds (F : ι → Prop) (p : Parser ι α) : Prop where
  found {cs : List Char} {a : Parsed ι α} : p cs = some a → ∀ i ∈ a.found, F i

section

variable {F : ι → Prop} {p : Parser ι α}

instance finds_pure (a : α) : Finds F (pure a : Parser ι α) where
  found h := by
    cases h
    simp

instance finds_fail : Finds F (fail : Parser ι α) where
  found := nofun

theorem Finds.bind {P : α → Prop} (hp : Finds F p) (hvalue : Yields P p) {f : α → Parser ι β}
    (hf : ∀ a, P a → Finds F (f a)) : Finds F (p >>= f) where
  found {cs b} h := by
    obtain ⟨a, b', ha, hb, rfl⟩ := bind_eq_some.1 h
    intro i hi
    rcases List.mem_append.1 hi with hi | hi
    · exact hp.found ha i hi
    · exact (hf a.value (hvalue.value ha)).found hb i hi

instance finds_bind [hp : Finds F p] {f : α → Parser ι β} [hf : ∀ a, Finds F (f a)] :
    Finds F (p >>= f) :=
  hp.bind .any fun a _ => hf a

instance finds_map [Finds F p] (f : α → β) : Finds F (f <$> p) :=
  inferInstanceAs (Finds F (p >>= fun a => pure (f a)))

instance finds_orElse [hp : Finds F p] {q : Unit → Parser ι α} [hq : Finds F (q ())] :
    Finds F (HOrElse.hOrElse p q) where
  found {cs a} h := by
    rcases orElse_eq_some.1 h with ha | ⟨-, ha⟩
    · exact hp.found ha
    · exact hq.found ha

instance finds_ite {c : Prop} [Decidable c] [hp : Finds F p] {q : Parser ι α} [hq : Finds F q] :
    Finds F (if c then p else q) := by
  split
  · exact hp
  · exact hq

instance finds_require (b : Bool) : Finds F (require b) := by
  unfold require
  infer_instance

instance finds_maybe [Finds F p] : Finds F (maybe p) := by
  unfold maybe
  infer_instance

instance finds_ahead : Finds F (ahead p) where
  found h := by
    cases h
    simp

instance finds_repeated [Finds F p] (limit : Nat) : Finds F (repeated p limit) := by
  induction limit with
  | zero =>
      unfold repeated
      infer_instance
  | succ limit ih =>
      unfold repeated
      infer_instance

instance finds_many [Finds F p] : Finds F (many p) where
  found h := (finds_repeated _).found h

instance finds_many1 [Finds F p] : Finds F (many1 p) := by
  unfold many1
  infer_instance

instance finds_separated1 [Finds F p] {separator : Parser ι Unit} [Finds F separator] :
    Finds F (separated1 p separator) := by
  unfold separated1
  infer_instance

instance finds_iterated {step : α → Parser ι α} [∀ a, Finds F (step a)] (limit : Nat) (a : α) :
    Finds F (iterated step limit a) := by
  induction limit generalizing a with
  | zero =>
      unfold iterated
      infer_instance
  | succ limit ih =>
      unfold iterated
      infer_instance

instance finds_extended {step : α → Parser ι α} [∀ a, Finds F (step a)] (a : α) :
    Finds F (extended step a) where
  found h := (finds_iterated _ a).found h

instance finds_exact (text : String) : Finds F (exact text) where
  found h := by
    obtain ⟨rest, -, rfl⟩ := Option.map_eq_some_iff.1 h
    simp

instance finds_pattern (q : Pattern) : Finds F (pattern q) where
  found h := by
    obtain ⟨rest, -, rfl⟩ := Option.map_eq_some_iff.1 h
    simp

instance finds_one (test : Char → Bool) : Finds F (one test) where
  found {cs a} h := by
    cases cs with
    | nil => cases h
    | cons c cs =>
        simp only [one] at h
        split at h
        · cases h
          simp
        · cases h

instance finds_withText [hp : Finds F p] : Finds F (withText p) where
  found {cs a} h := by
    simp only [withText] at h
    split at h
    · cases h
    · next b hb =>
        cases h
        exact hp.found hb

instance finds_atEnd : Finds F (atEnd : Parser ι Unit) where
  found {cs a} h := by
    cases cs with
    | nil =>
        cases h
        simp
    | cons c cs => cases h

end

theorem Yields.capture {F : ι → Prop} {P : α → Prop} {p : Parser ι α} [hF : Finds F p] (h : Yields P p) :
    Yields (fun r => P r.1 ∧ ∀ i ∈ r.2, F i) (Parser.capture p) := by
  constructor
  intro cs a hcapture
  simp only [Parser.capture] at hcapture
  split at hcapture
  · cases hcapture
  · next b hb =>
      cases hcapture
      exact ⟨h.value hb, hF.found hb⟩

theorem finds_capture {F : ι → Prop} {p : Parser ι α} : Finds F (capture p) where
  found {cs a} h := by
    simp only [capture] at h
    split at h
    · cases h
    · cases h
      simp

theorem finds_report {F : ι → Prop} {items : List ι} (h : ∀ i ∈ items, F i) :
    Finds F (report items) where
  found hr := by
    cases hr
    exact h

end BridgeTypings.Text.Parser
