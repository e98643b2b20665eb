import BridgeTypings.Exposure
import BridgeTypings.Proofs.Java.Parsing.Sources

namespace BridgeTypings

open Java

namespace Java

def Member.annotations : Member → List AnnotationName
  | .field f => f.annotations
  | .method m => m.annotations
  | .other => []

theorem Member.Proper.isDotted {m : Member} (h : m.Proper) : ∀ n ∈ m.annotations, IsDotted n := by
  cases m with
  | field f => exact Field.Proper.annotations h
  | method m => exact Method.Proper.annotations h
  | other => exact nofun

def IsOutside (c : Char) : Prop :=
  isNameChar c = false ∧ c ≠ '.'

theorem endsOutside_append {front behind : List Char} {c : Char} (hc : IsOutside c)
    (h : ∀ d ∈ behind.getLast?, IsOutside d) :
    ∀ d ∈ (front ++ c :: behind).getLast?, IsOutside d := by
  rw [List.getLast?_append, List.getLast?_cons]
  cases hlast : behind.getLast? with
  | none =>
      rintro d ⟨⟩
      exact hc
  | some e =>
      rintro d ⟨⟩
      exact h e hlast

theorem IsGap.endsOutside {gap : List Char} (h : IsGap gap) :
    ∀ c ∈ gap.getLast?, IsOutside c := by
  induction h with
  | nil => exact nofun
  | @blank c cs hblank _ ih =>
      refine @endsOutside_append [] cs c ⟨isNameChar_of_isBlank hblank, ?_⟩ ih
      rintro rfl
      exact absurd hblank (by decide)
  | line _ _ ih => exact endsOutside_append ⟨by decide, by decide⟩ ih
  | block _ _ ih =>
      rw [List.append_cons]
      exact endsOutside_append ⟨by decide, by decide⟩ ih

theorem dot_not_mem {w : String} (h : isIdentifier w = true) : '.' ∉ w.toList :=
  fun hmem => absurd (isNameChar_of_mem h '.' hmem) (by decide)

end Java

namespace Exposure

theorem takeWhile_reverse {last : List Char} (h : '.' ∉ last) (rest : List Char) :
    (last.reverse ++ rest).takeWhile (· != '.') = last.reverse ++ rest.takeWhile (· != '.') := by
  refine List.takeWhile_append_of_pos fun d hd => ?_
  rw [bne_iff_ne]
  rintro rfl
  exact h (List.mem_reverse.1 hd)

theorem toList_lastPart {name : String} {front last : List Char} {c : Char} (hlast : '.' ∉ last)
    (hname : name.toList = front ++ c :: last) : (lastPart name).toList =
      (if c = '.' then [] else (front.reverse.takeWhile (· != '.')).reverse ++ [c]) ++ last := by
  have hreverse : name.toList.reverse = last.reverse ++ c :: front.reverse := by
    rw [hname, List.reverse_append, List.reverse_cons, List.append_assoc, List.singleton_append]
  rw [lastPart, String.toList_ofList, hreverse, takeWhile_reverse hlast, List.takeWhile_cons]
  by_cases hc : c = '.'
  · simp [hc]
  · simp [hc]

theorem lastPart_eq_self {name : String} (h : '.' ∉ name.toList) : lastPart name = name := by
  have hreverse := takeWhile_reverse h []
  rw [List.append_nil, List.takeWhile_nil, List.append_nil] at hreverse
  rw [lastPart, hreverse, List.reverse_reverse, String.ofList_toList]

theorem lastPart_eq_iff {name last marker : String} {gap : List Char}
    (h : DottedName name.toList last gap) (hmarker : isIdentifier marker = true) :
    lastPart name = marker ↔ last = marker ∧ gap = [] := by
  generalize htext : name.toList = text at h
  cases h with
  | single hlast =>
      rw [String.toList_inj.1 htext, lastPart_eq_self (dot_not_mem hlast)]
      simp
  | @dotted front before middle _ v _ hfront hmiddle hgap hlast =>
      have hdot := dot_not_mem hlast
      rcases List.eq_nil_or_concat gap with rfl | ⟨gap, c, rfl⟩
      · have hpart := toList_lastPart hdot htext
        rw [if_pos rfl, List.nil_append, String.toList_inj] at hpart
        rw [hpart]
        simp
      · rw [List.concat_eq_append] at hgap htext ⊢
        obtain ⟨hname, hne⟩ := hgap.endsOutside c (by simp)
        have hsplit : name.toList = (front ++ middle ++ '.' :: gap) ++ c :: last.toList := by
          simp [htext]
        have hpart := toList_lastPart hdot hsplit
        rw [if_neg hne] at hpart
        have hmem : c ∈ (lastPart name).toList := by simp [hpart]
        constructor
        · rintro rfl
          rw [isNameChar_of_mem hmarker c hmem] at hname
          cases hname
        · rintro ⟨-, hnil⟩
          exact absurd hnil (by simp)

theorem isMarked_iff_dotted {text : String} {source : Source}
    (hparse : Source.parse text = some source) {marker : String}
    (hmarker : isIdentifier marker = true) : ∀ d ∈ source.preorder, ∀ m ∈ d.members,
      (∀ n ∈ m.annotations, IsDotted n) ∧
        (isMarked m.annotations marker = true ↔
          ∃ n ∈ m.annotations, DottedName n.toList marker []) := by
  intro d hd m hm
  have hproper := (Source.proper_of_mem_preorder hparse d hd).members m hm
  refine ⟨hproper.isDotted, ?_⟩
  rw [isMarked, List.any_eq_true]
  constructor
  · rintro ⟨n, hn, hlast⟩
    obtain ⟨last, gap, hname⟩ := hproper.isDotted n hn
    obtain ⟨rfl, rfl⟩ := (lastPart_eq_iff hname hmarker).1 (beq_iff_eq.1 hlast)
    exact ⟨n, hn, hname⟩
  · rintro ⟨n, hn, hname⟩
    exact ⟨n, hn, beq_iff_eq.2 ((lastPart_eq_iff hname hmarker).2 ⟨rfl, rfl⟩)⟩

def annotationNames (source : Source) : List (List (List AnnotationName)) :=
  source.preorder.map fun d => d.members.map Member.annotations

theorem isMarked_iff_dotted_commented :
    ∃ source, Source.parse
        "class A { @io/*.*/.PhonkField(1) int x; @io./*.*/PhonkField T f(); }" = some source ∧
      annotationNames source = [[["io/*.*/.PhonkField"], ["io./*.*/PhonkField"]]] ∧
      isIdentifier "PhonkField" = true ∧ ∀ d ∈ source.preorder, ∀ m ∈ d.members,
        (∀ n ∈ m.annotations, IsDotted n) ∧
          (isMarked m.annotations "PhonkField" = true ↔
            ∃ n ∈ m.annotations, DottedName n.toList "PhonkField" []) := by
  obtain ⟨source, hparse, hnames⟩ := Option.map_eq_some_iff.1
    (show (Source.parse
        "class A \x7b @io/*.*/.PhonkField(1) int x; @io./*.*/PhonkField T f(); \x7d").map
      annotationNames = some [[["io/*.*/.PhonkField"], ["io./*.*/PhonkField"]]] by decide +kernel)
  have hmarker : isIdentifier "PhonkField" = true := by decide +kernel
  exact ⟨source, hparse, hnames, hmarker, isMarked_iff_dotted hparse hmarker⟩

theorem unmarked_behindGap :
    ∃ source d m n, Source.parse "class A { @a. PhonkField int x; }" = some source ∧
      d ∈ source.preorder ∧ m ∈ d.members ∧ m.annotations = [n] ∧
      DottedName n.toList "PhonkField" [' '] ∧ isMarked m.annotations "PhonkField" = false := by
  obtain ⟨source, hparse, hnames⟩ := Option.map_eq_some_iff.1
    (show (Source.parse "class A { @a. PhonkField int x; }").map annotationNames =
      some [[["a. PhonkField"]]] by decide +kernel)
  obtain ⟨d, hd, hmembers⟩ : ∃ d ∈ source.preorder, d.members.map Member.annotations =
      [["a. PhonkField"]] := List.mem_map.1 (by rw [← annotationNames, hnames]; simp)
  obtain ⟨m, hm, hname⟩ : ∃ m ∈ d.members, m.annotations = ["a. PhonkField"] :=
    List.mem_map.1 (by simp [hmembers])
  refine ⟨source, d, m, "a. PhonkField", hparse, hd, hm, hname, ?_, ?_⟩
  · have hfirst : DottedName "a".toList "a" [] := .single (by decide +kernel)
    have hgap : IsGap [' '] := .blank (by decide) .nil
    have hlast : isIdentifier "PhonkField" = true := by decide +kernel
    exact .dotted hfirst .nil hgap hlast
  · rw [hname]
    decide +kernel

end Exposure

end BridgeTypings
