import BridgeTypings.Text.Parser

namespace BridgeTypings.Text.Parser

variable {ι α β : Type}

def Reads (p : Parser ι α) (cs : List Char) (a : α) (rest : List Char) : Prop :=
  p cs = some ⟨a, [], rest⟩

section

variable {p q : Parser ι α} {f : α → Parser ι β} {cs mid rest : List Char} {a : α} {b : β}

theorem reads_pure (a : α) (cs : List Char) : Reads (pure a : Parser ι α) cs a cs :=
  rfl

theorem Reads.bind_eq (h : Reads p cs a mid) : (p >>= f) cs = f a mid := by
  simp only [Bind.bind, Parser.bind, show p cs = _ from h]
  cases f a mid <;> rfl

theorem Reads.bind (h : Reads p cs a mid) (hf : Reads (f a) mid b rest) :
    Reads (p >>= f) cs b rest :=
  h.bind_eq.trans hf

theorem Reads.bind_none (h : Reads p cs a mid) (hf : f a mid = none) : (p >>= f) cs = none :=
  h.bind_eq.trans hf

theorem reports_bind {found : List ι} (h : p cs = some ⟨a, found, mid⟩)
    (hf : Reads (f a) mid b rest) : (p >>= f) cs = some ⟨b, found, rest⟩ := by
  simp only [Bind.bind, Parser.bind, h, show f a mid = _ from hf, List.append_nil]

theorem bind_none (h : p cs = none) : (p >>= f) cs = none := by
  simp only [Bind.bind, Parser.bind, h]

theorem orElse_none {q : Unit → Parser ι α} (h : p cs = none) :
    (HOrElse.hOrElse p q : Parser ι α) cs = q () cs := by
  change Parser.orElse p q cs = _
  simp only [Parser.orElse, h]

theorem orElse_some {q : Unit → Parser ι α} {r : Parsed ι α} (h : p cs = some r) :
    (HOrElse.hOrElse p q : Parser ι α) cs = some r := by
  change Parser.orElse p q cs = _
  simp only [Parser.orElse, h]

theorem Reads.orElse {q : Unit → Parser ι α} (h : Reads p cs a rest) :
    Reads (HOrElse.hOrElse p q) cs a rest :=
  orElse_some h

theorem reads_maybe_none (h : p cs = none) : Reads (maybe p) cs none cs :=
  orElse_none (bind_none h)

theorem Reads.maybe (h : Reads p cs a rest) : Reads (maybe p) cs (some a) rest :=
  (h.bind (reads_pure (some a) rest)).orElse

theorem reads_ahead (p : Parser ι α) (cs : List Char) : Reads (ahead p) cs (p cs).isSome cs :=
  rfl

theorem reads_require {c : Bool} (h : c = true) (cs : List Char) :
    Reads (require c : Parser ι Unit) cs () cs := by
  simp only [require, h, if_true]
  exact reads_pure () cs

theorem require_none {c : Bool} (h : c = false) (cs : List Char) :
    (require c : Parser ι Unit) cs = none := by
  simp only [require, h, Bool.false_eq_true, if_false]
  rfl

theorem Reads.withText {front : List Char} (h : Reads p (front ++ rest) a rest) :
    Reads (withText p) (front ++ rest) (a, String.ofList front) rest := by
  unfold Reads Parser.withText
  rw [show p (front ++ rest) = _ from h]
  simp

end

inductive ReadsAll (p : Parser ι α) : List Char → List α → List Char → Prop
  | nil {cs : List Char} : p cs = none → ReadsAll p cs [] cs
  | cons {cs mid rest : List Char} {a : α} {as : List α} :
      Reads p cs a mid → mid.length < cs.length → ReadsAll p mid as rest →
      ReadsAll p cs (a :: as) rest

section

variable {p : Parser ι α} {cs rest : List Char} {as : List α}

theorem ReadsAll.repeated (h : ReadsAll p cs as rest) {limit : Nat} (hlimit : cs.length ≤ limit) :
    Reads (repeated p limit) cs as rest := by
  induction h generalizing limit with
  | @nil cs hnone =>
      cases limit with
      | zero => exact reads_pure [] cs
      | succ limit => exact orElse_none (bind_none hnone)
  | @cons cs mid rest a as hread hshorter _ ih =>
      cases limit with
      | zero => omega
      | succ limit =>
          have hmid : mid.length ≤ limit := by omega
          exact (hread.bind ((ih hmid).bind (reads_pure (a :: as) rest))).orElse

theorem ReadsAll.many (h : ReadsAll p cs as rest) : Reads (many p) cs as rest :=
  h.repeated (Nat.le_refl _)

theorem reads_many_none (h : p cs = none) : Reads (Parser.many p) cs [] cs :=
  (ReadsAll.nil h).many

end

def Gets (p : Parser ι α) (cs : List Char) (a : α) (rest : List Char) : Prop :=
  ∃ found, p cs = some ⟨a, found, rest⟩

section

variable {p : Parser ι α} {f : α → Parser ι β} {cs mid rest : List Char} {a : α} {b : β}

theorem Reads.gets (h : Reads p cs a rest) : Gets p cs a rest :=
  ⟨[], h⟩

theorem Gets.bind (h : Gets p cs a mid) (hf : Gets (f a) mid b rest) :
    Gets (p >>= f) cs b rest := by
  obtain ⟨first, hfirst⟩ := h
  obtain ⟨later, hlater⟩ := hf
  exact ⟨first ++ later, by simp only [Bind.bind, Parser.bind, hfirst, hlater]⟩

theorem Gets.bind_none (h : Gets p cs a mid) (hf : f a mid = none) : (p >>= f) cs = none := by
  obtain ⟨found, hfound⟩ := h
  simp only [Bind.bind, Parser.bind, hfound, hf]

theorem Gets.orElse {q : Unit → Parser ι α} (h : Gets p cs a rest) :
    Gets (HOrElse.hOrElse p q) cs a rest := by
  obtain ⟨found, hfound⟩ := h
  exact ⟨found, orElse_some hfound⟩

theorem gets_orElse {q : Unit → Parser ι α} (hnone : p cs = none) (h : Gets (q ()) cs a rest) :
    Gets (HOrElse.hOrElse p q) cs a rest := by
  unfold Gets
  rw [orElse_none hnone]
  exact h

theorem Gets.maybe (h : Gets p cs a rest) : Gets (maybe p) cs (some a) rest :=
  (h.bind (reads_pure (some a) rest).gets).orElse

theorem Gets.withText {front : List Char} (h : Gets p (front ++ rest) a rest) :
    Gets (withText p) (front ++ rest) (a, String.ofList front) rest := by
  obtain ⟨found, hfound⟩ := h
  refine ⟨found, ?_⟩
  unfold Parser.withText
  rw [hfound]
  simp

inductive GetsAll (p : Parser ι α) : List Char → List α → List Char → Prop
  | nil {cs : List Char} : p cs = none → GetsAll p cs [] cs
  | cons {cs mid rest : List Char} {a : α} {as : List α} :
      Gets p cs a mid → mid.length < cs.length → GetsAll p mid as rest →
      GetsAll p cs (a :: as) rest

theorem GetsAll.repeated {as : List α} (h : GetsAll p cs as rest) {limit : Nat}
    (hlimit : cs.length ≤ limit) : Gets (repeated p limit) cs as rest := by
  induction h generalizing limit with
  | @nil cs hnone =>
      cases limit with
      | zero => exact (reads_pure [] cs).gets
      | succ limit => exact gets_orElse (Parser.bind_none hnone) (reads_pure [] cs).gets
  | @cons cs mid rest a as hget hshorter _ ih =>
      cases limit with
      | zero => omega
      | succ limit =>
          have hmid : mid.length ≤ limit := by omega
          exact (hget.bind ((ih hmid).bind (reads_pure (a :: as) rest).gets)).orElse

theorem GetsAll.many {as : List α} (h : GetsAll p cs as rest) : Gets (many p) cs as rest :=
  h.repeated (Nat.le_refl _)

end

end BridgeTypings.Text.Parser
