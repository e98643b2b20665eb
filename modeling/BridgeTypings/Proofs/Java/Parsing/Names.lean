import BridgeTypings.Proofs.Java.Reading.Tokens
import BridgeTypings.Proofs.Text.Parsing

namespace BridgeTypings.Java

open Text.Parser

theorem eq_append_of_word {cs rest : List Char} {w : String} (h : word? cs = some (w, rest)) :
    cs = w.toList ++ rest := by
  cases cs with
  | nil => cases h
  | cons c more =>
      simp only [word?] at h
      split at h
      · cases h
        rw [String.toList_ofList, List.cons_append, List.takeWhile_append_dropWhile]
      · cases h

namespace Parser

variable {cs : List Char}

theorem word_eq_some {r : Text.Parsed TypeDeclaration String} (h : word cs = some r) :
    isIdentifier r.value = true ∧ skipGap cs = r.value.toList ++ r.rest := by
  obtain ⟨⟨w, rest⟩, hw, rfl⟩ := Option.map_eq_some_iff.1 h
  exact ⟨isIdentifier_of_word hw, eq_append_of_word hw⟩

theorem dottedName_append {text before : List Char} {v : String} (hname : DottedName text v before)
    {r : Text.Parsed TypeDeclaration String} (h : (do symbol "."; word : Parser String) cs = some r) :
    ∃ more w behind, cs = more ++ r.rest ∧ DottedName (text ++ more) w behind := by
  obtain ⟨dot, w, hdot, hw, rfl⟩ := bind_eq_some.1 h
  have hskip := symbol_eq_some hdot
  obtain ⟨hidentifier, hword⟩ := word_eq_some hw
  obtain ⟨c, name, hchars, -⟩ := exists_toList_eq hidentifier
  obtain ⟨gap, hgap, hcs⟩ := @exists_gap cs (by simp [hskip])
  obtain ⟨behind, hbehind, hrest⟩ := @exists_gap dot.rest (by simp [hword, hchars])
  refine ⟨gap ++ '.' :: (behind ++ w.value.toList), w.value, behind, ?_, ?_⟩
  · rw [hcs, hskip, hrest, hword]
    simp
  · rw [← List.append_assoc]
    exact .dotted hname hgap hbehind hidentifier

theorem dottedName_repeated (limit : Nat) {text before : List Char} {v : String}
    (hname : DottedName text v before) {r : Text.Parsed TypeDeclaration (List String)}
    (h : repeated (do symbol "."; word) limit cs = some r) :
    ∃ more w behind, cs = more ++ r.rest ∧ DottedName (text ++ more) w behind := by
  induction limit generalizing cs text before v r with
  | zero =>
      cases h
      exact ⟨[], v, before, rfl, by rwa [List.append_nil]⟩
  | succ limit ih =>
      rcases orElse_eq_some.1 h with h | ⟨-, h⟩
      · obtain ⟨a, tail, ha, htail, rfl⟩ := bind_eq_some.1 h
        obtain ⟨others, last, hothers, hlast, rfl⟩ := bind_eq_some.1 htail
        cases hlast
        obtain ⟨more, w, behind, hcs, hmore⟩ := dottedName_append hname ha
        obtain ⟨more', w', behind', hrest, hmore'⟩ := ih hmore hothers
        refine ⟨more ++ more', w', behind', ?_, by rwa [← List.append_assoc]⟩
        rw [hcs, hrest, List.append_assoc]
      · cases h
        exact ⟨[], v, before, rfl, by rwa [List.append_nil]⟩

theorem name_eq_some {keywords : List String} {r : Text.Parsed TypeDeclaration String}
    (h : name keywords cs = some r) :
    isIdentifier r.value = true ∧ skipGap cs = r.value.toList ++ r.rest := by
  obtain ⟨w, checked, hw, hchecked, rfl⟩ := bind_eq_some.1 h
  unfold require at hchecked
  split at hchecked
  · cases hchecked
    have hword := word_eq_some hw
    exact hword
  · cases hchecked

theorem dottedName_qualifiedName {keywords : List String} {r : Text.Parsed TypeDeclaration Unit}
    (h : qualifiedName keywords (skipGap cs) = some r) :
    ∃ text w behind, skipGap cs = text ++ r.rest ∧ DottedName text w behind := by
  obtain ⟨first, tail, hfirst, htail, rfl⟩ := bind_eq_some.1 h
  obtain ⟨others, last, hothers, hlast, rfl⟩ := bind_eq_some.1 htail
  cases hlast
  obtain ⟨hidentifier, hword⟩ := name_eq_some hfirst
  rw [skipGap_skipGap] at hword
  obtain ⟨more, w, behind, hmore, hname⟩ := dottedName_repeated _ (.single hidentifier) hothers
  exact ⟨_, w, behind, by rw [hword, hmore, List.append_assoc], hname⟩

theorem yields_annotationUse (inner : Nested) : Yields IsDotted (annotationUse inner) := by
  have hspelled : Yields (fun r => IsDotted r.2) (spelled (qualifiedName [])) := by
    constructor
    intro cs r h
    unfold spelled at h
    rw [(reads_gap cs).bind_eq] at h
    unfold withText at h
    split at h
    · cases h
    · next parsed hparsed =>
        cases h
        obtain ⟨text, w, behind, htext, hname⟩ := dottedName_qualifiedName hparsed
        refine ⟨w, behind, ?_⟩
        simpa [htext] using hname
  exact .skip fun _ => .bind hspelled fun _ hname => .skip fun _ => .pure hname

theorem yields_modifiers (inner : Nested) (declaresTypes : Bool) :
    Yields (fun names => ∀ n ∈ names, IsDotted n) (modifiers inner declaresTypes) := by
  have hmodifier : Yields (fun name => ∀ n ∈ name, IsDotted n) (modifier inner declaresTypes) := by
    refine .orElse (.skip fun _ => .pure nofun) ?_
    have huse : Yields (fun name => ∀ n ∈ name, IsDotted n)
        (do return some (← annotationUse inner) : Parser (Option AnnotationName)) :=
      .bind (yields_annotationUse inner) fun _ hname => .pure (by simpa using hname)
    split
    · exact .skip fun _ => .skip fun _ => huse
    · exact huse
  refine .bind (.many hmodifier) fun items hitems => .pure fun n hn => ?_
  obtain ⟨item, hitem, hn⟩ := List.mem_filterMap.1 hn
  exact hitems item hitem n hn

end Parser

end BridgeTypings.Java
