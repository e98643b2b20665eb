import BridgeTypings.Java.Parser.Type
import BridgeTypings.Proofs.Java.Proper
import BridgeTypings.Proofs.Text.Pattern
import BridgeTypings.Proofs.Text.Reading

namespace BridgeTypings.Java

open Text.Parser

def front (cs : List Char) : Option Char :=
  (skipGap cs).head?

theorem isNameChar_of_isBlank {c : Char} (h : isBlank c = true) : isNameChar c = false := by
  simp only [isBlank, Bool.or_eq_true, beq_iff_eq, Bool.and_eq_true, decide_eq_true_eq] at h
  rcases h with rfl | h
  · decide
  · have hcode : c.toNat = 9 ∨ c.toNat = 10 ∨ c.toNat = 11 ∨ c.toNat = 12 ∨ c.toNat = 13 := by
      omega
    rw [← Char.ofNat_toNat c]
    rcases hcode with h | h | h | h | h <;> rw [h] <;> decide

theorem skipGap_cons {c : Char} (hblank : isBlank c = false) (hslash : c ≠ '/')
    (cs : List Char) : skipGap (c :: cs) = c :: cs := by
  unfold skipGap
  rw [Gap.skip]
  · simp [hblank]
  · intro more hc
    exact absurd hc hslash
  · intro more hc
    exact absurd hc hslash

structure IsMark (c : Char) : Prop where
  blank : isBlank c = false
  slash : c ≠ '/'
  name : isNameChar c = false

instance (c : Char) : Decidable (IsMark c) :=
  decidable_of_iff (isBlank c = false ∧ c ≠ '/' ∧ isNameChar c = false)
    ⟨fun h => ⟨h.1, h.2.1, h.2.2⟩, fun h => ⟨h.blank, h.slash, h.name⟩⟩

theorem skipGap_mark {c : Char} (h : IsMark c) (cs : List Char) : skipGap (c :: cs) = c :: cs :=
  skipGap_cons h.blank h.slash cs

theorem front_mark {c : Char} (h : IsMark c) (cs : List Char) : front (c :: cs) = some c := by
  rw [front, skipGap_mark h]
  rfl

theorem front_ne {cs : List Char} {c d : Char} (h : front cs = some c) (hne : c ≠ d) :
    front cs ≠ some d :=
  fun heq => hne (Option.some.inj (h.symm.trans heq))

theorem front_ne_of_start {cs : List Char} (h : ∃ c, front cs = some c ∧ isNameStart c = true)
    {d : Char} (hd : isNameStart d = false) : front cs ≠ some d := by
  obtain ⟨c, hc, hstart⟩ := h
  refine front_ne hc ?_
  rintro rfl
  rw [hstart] at hd
  cases hd

theorem notStart_of_front {cs : List Char} {c : Char} (h : front cs = some c)
    (hc : isNameStart c = false) : ∀ d ∈ front cs, isNameStart d = false := by
  rw [h]
  rintro d ⟨⟩
  exact hc

theorem skipGap_blank (cs : List Char) : skipGap (' ' :: cs) = skipGap cs :=
  skip_blank (by decide) cs

theorem skipGap_name {c : Char} (h : isNameChar c = true) (cs : List Char) :
    skipGap (c :: cs) = c :: cs := by
  refine skipGap_cons ?_ ?_ cs
  · cases hblank : isBlank c with
    | false => rfl
    | true => rw [isNameChar_of_isBlank hblank] at h; cases h
  · rintro rfl
    exact absurd h (by decide)

theorem skipGap_identifier {name : String} (h : isIdentifier name = true) (rest : List Char) :
    skipGap (name.toList ++ rest) = name.toList ++ rest := by
  obtain ⟨c, more, hchars, hstart, -⟩ := exists_toList_eq h
  rw [hchars]
  exact skipGap_name (isNameChar_of_isNameStart hstart) _

namespace Parser

variable {cs rest : List Char}

theorem reads_word {name : String} (hname : isIdentifier name = true)
    (hcs : skipGap cs = name.toList ++ rest) (hrest : ∀ c ∈ rest.head?, isNameChar c = false) :
    Reads word cs name rest := by
  obtain ⟨c, more, hchars, hstart, hmore⟩ := exists_toList_eq hname
  have htake : (more ++ rest).takeWhile isNameChar = more := by
    rw [List.takeWhile_append_of_pos hmore]
    cases rest with
    | nil => simp
    | cons d rest => simp [hrest d rfl]
  have hdrop : (more ++ rest).dropWhile isNameChar = rest := by
    rw [List.dropWhile_append_of_pos hmore]
    cases rest with
    | nil => simp
    | cons d rest => simp [hrest d rfl]
  unfold Reads word
  rw [hcs, hchars]
  simp only [List.cons_append, word?, hstart, if_true, htake, hdrop, Option.map_some]
  rw [← hchars, String.ofList_toList]

theorem word_none (h : ∀ c ∈ front cs, isNameStart c = false) : word cs = none := by
  unfold word
  unfold front at h
  cases hskip : skipGap cs with
  | nil => rfl
  | cons c more => simp [word?, h c (by simp [hskip])]

theorem keywordOf_none_of_front {texts : List String}
    (h : ∀ c ∈ front cs, isNameStart c = false) : keywordOf texts cs = none :=
  bind_none (word_none h)

theorem keywordOf_none {w : String} {texts : List String} (h : Reads word cs w rest)
    (hnot : w ∉ texts) : keywordOf texts cs = none := by
  unfold keywordOf
  rw [h.bind_eq]
  exact bind_none (require_none (by simpa using hnot) rest)

theorem reads_keywordOf {w : String} {texts : List String} (h : Reads word cs w rest)
    (hmem : w ∈ texts) : Reads (keywordOf texts) cs w rest := by
  unfold keywordOf
  exact h.bind ((reads_require (by simpa using hmem) rest).bind (reads_pure w rest))

theorem name_none {w : String} {keywords : List String} (h : Reads word cs w rest)
    (hmem : w ∈ keywords) : name keywords cs = none := by
  unfold name
  rw [h.bind_eq]
  exact bind_none (require_none (by simpa using hmem) rest)

theorem reads_name {w : String} {keywords : List String} (h : Reads word cs w rest)
    (hnot : w ∉ keywords) : Reads (name keywords) cs w rest := by
  unfold name
  exact h.bind ((reads_require (by simpa using hnot) rest).bind (reads_pure w rest))

theorem reads_gap (cs : List Char) : Reads gap cs () (skipGap cs) :=
  rfl

theorem reads_exact (text : String) (rest : List Char) :
    Reads (exact text : Parser Unit) (text.toList ++ rest) () rest := by
  have hstrip (front : List Char) : stripFront front (front ++ rest) = some rest := by
    induction front with
    | nil => simp [stripFront]
    | cons c more ih => simp [stripFront, ih]
  simp [Reads, exact, hstrip]

theorem reads_symbol {text : String} (hcs : skipGap cs = text.toList ++ rest) :
    Reads (symbol text) cs () rest := by
  unfold symbol
  refine (reads_gap cs).bind ?_
  rw [hcs]
  exact reads_exact text rest

theorem reads_mark {text : String} {c : Char} (htext : text.toList = [c]) (hc : IsMark c)
    (rest : List Char) : Reads (symbol text) (c :: rest) () rest :=
  reads_symbol (by rw [skipGap_mark hc, htext]; rfl)

theorem eq_append_of_stripFront {front cs rest : List Char}
    (h : stripFront front cs = some rest) : cs = front ++ rest := by
  fun_induction stripFront front cs with
  | case1 cs => simpa using h
  | case2 => cases h
  | case3 c more rest' ih => rw [ih h, List.cons_append]
  | case4 => cases h

theorem symbol_eq_some {text : String} {r : Text.Parsed TypeDeclaration Unit}
    (h : symbol text cs = some r) : skipGap cs = text.toList ++ r.rest := by
  unfold symbol at h
  rw [(reads_gap cs).bind_eq] at h
  obtain ⟨rest, hrest, rfl⟩ := Option.map_eq_some_iff.1 h
  exact eq_append_of_stripFront hrest

theorem symbol_none {text : String} {c : Char} (htext : text.toList.head? = some c)
    (h : front cs ≠ some c) : symbol text cs = none := by
  unfold symbol
  rw [(reads_gap cs).bind_eq]
  obtain ⟨more, hmore⟩ := List.head?_eq_some_iff.1 htext
  unfold front at h
  cases hskip : skipGap cs with
  | nil => simp [exact, hmore, stripFront]
  | cons d rest =>
      have hne : ¬ c = d := fun he => h (by simp [hskip, he])
      simp [exact, hmore, stripFront, hne]

theorem token_eq_map (p : Text.Pattern) (cs : List Char) :
    token p cs = (p.longest (skipGap cs)).map (fun rest => ⟨(), [], rest⟩) := by
  unfold token
  rw [(reads_gap cs).bind_eq]
  rfl

theorem reads_token_iff {p : Text.Pattern} :
    Reads (token p) cs () rest ↔
      ∃ front, front ++ rest = skipGap cs ∧ p.Matches front ∧
        ∀ other, other <+: skipGap cs → p.Matches other → other <+: front := by
  rw [← Text.Pattern.longest_eq_some_iff, Reads, token_eq_map]
  cases p.longest (skipGap cs) <;> simp

theorem token_eq_none_iff {p : Text.Pattern} :
    token p cs = none ↔ ∀ front, front <+: skipGap cs → ¬ p.Matches front := by
  rw [← Text.Pattern.longest_eq_none_iff, token_eq_map, Option.map_eq_none_iff]

variable (inner : Nested)

theorem annotationUse_none (h : front cs ≠ some '@') : annotationUse inner cs = none :=
  bind_none (symbol_none rfl h)

theorem reads_annotations_none (h : front cs ≠ some '@') : Reads (annotations inner) cs [] cs :=
  reads_many_none (annotationUse_none inner h)

theorem typeArguments_none (h : front cs ≠ some '<') : typeArguments inner cs = none :=
  bind_none (symbol_none rfl h)

theorem typeParameters_none (h : front cs ≠ some '<') : typeParameters inner cs = none :=
  bind_none (symbol_none rfl h)

end Parser

end BridgeTypings.Java
