import BridgeTypings.Proofs.Java.Reading.Types

namespace BridgeTypings.Java.Parser

open Text.Parser TypeExpr

theorem ends_blank {marks rest : List Char} (h : ∀ c ∈ front rest, c ∉ marks) :
    Ends marks (' ' :: rest) where
  word := by
    rintro c ⟨⟩
    decide
  marks := by
    rw [front, skipGap_blank]
    exact h

def memberMarks : List Char := ['(', '\x7b', '-']

section

variable {t : TypeExpr} {cs rest : List Char}

theorem ends_behindName (arguments : Option (List TypeExpr)) (segments : List NamedSegment)
    (count : Nat) (hrest : Ends memberMarks rest) :
    Ends memberMarks (spellClause arguments ++ (segments.flatMap (fun s => '.' :: spellSegment s) ++
      ((List.replicate count ['[', ']']).flatten ++ rest))) := by
  rcases arguments with _ | _ | ⟨t, more⟩
  · rcases segments with _ | ⟨s, more⟩
    · cases count with
      | zero => exact hrest
      | succ count =>
          rw [List.replicate_succ, List.flatten_cons, List.append_assoc]
          exact ends_mark (by decide) (by decide) _
    · exact ends_mark (by decide) (by decide) _
  · exact ends_mark (by decide) (by decide) _
  · exact ends_mark (by decide) (by decide) _

structure BeginsType (cs : List Char) (w : String) (behind : List Char) : Prop where
  word : Reads word cs w behind
  start : ∃ c ∈ front cs, isNameStart c = true
  free : w ∈ Keyword.primitives ∨ w ∉ Keyword.ofLanguage
  ends : Ends memberMarks behind

theorem beginsType (h : t.Shaped IsJavaName) (hcs : skipGap cs = t.spell ++ rest)
    (hrest : Ends memberMarks rest) : ∃ w behind, BeginsType cs w behind := by
  cases h with
  | @primitive name count hname =>
      rw [spell_array] at hcs
      simp only [spell, List.flatMap_nil, List.append_nil, List.append_assoc] at hcs
      have hidentifier := isIdentifier_primitive hname
      have hends := ends_behindName none [] count hrest
      exact ⟨name, _, reads_word hidentifier hcs hends.word, front_of_name hidentifier hcs,
        .inl hname, hends⟩
  | @chain first segments count hnames =>
      obtain ⟨hname, -⟩ := List.forall_mem_cons.1 hnames
      rw [spell_array, spell_nest, spellSegment] at hcs
      simp only [List.append_assoc] at hcs
      have hends := ends_behindName first.arguments segments count hrest
      exact ⟨first.name, _, reads_word hname.identifier hcs hends.word,
        front_of_name hname.identifier hcs, .inr hname.free, hends⟩

end

namespace BeginsType

variable {cs behind : List Char} {w : String}

theorem front_ne (h : BeginsType cs w behind) {c : Char} (hc : isNameStart c = false) :
    front cs ≠ some c := by
  obtain ⟨d, hd, hstart⟩ := h.start
  intro heq
  obtain rfl : c = d := Option.some.inj (heq.symm.trans hd)
  rw [hstart] at hc
  cases hc

theorem not_mem (h : BeginsType cs w behind) {texts : List String}
    (hlanguage : ∀ k ∈ texts, k ∈ Keyword.ofLanguage)
    (hprimitives : ∀ k ∈ texts, k ∉ Keyword.primitives) : w ∉ texts := by
  intro hmem
  rcases h.free with hprimitive | hfree
  · exact hprimitives w hmem hprimitive
  · exact hfree (hlanguage w hmem)

theorem plainModifier_none (h : BeginsType cs w behind) : plainModifier cs = none := by
  have hkeyword : w ∉ Keyword.modifiers := h.not_mem (by decide) (by decide)
  unfold plainModifier
  rw [orElse_none (bind_none (keywordOf_none h.word hkeyword))]
  cases hsealed : symbol "non-sealed" cs with
  | none => rfl
  | some r =>
      have hword : Reads Parser.word cs "non" ("-sealed".toList ++ r.rest) := by
        unfold Reads Parser.word
        rw [symbol_eq_some hsealed]
        rfl
      obtain ⟨-, -, rfl⟩ := Text.Parsed.mk.inj (Option.some.inj (h.word.symm.trans hword))
      exact absurd (front_mark (by decide) _) (h.ends.front_ne (c := '-') (by decide))

end BeginsType

theorem block_none (n : Nat) {cs : List Char} (h : front cs ≠ some '\x7b') :
    (Nested.levels n).block cs = none := by
  cases n with
  | zero => rfl
  | succ n => exact bind_none (symbol_none rfl h)

theorem reads_annotationUse (inner : Nested) {marker : String} (hmarker : isIdentifier marker = true)
    {cs rest : List Char} (hcs : skipGap cs = '@' :: (marker.toList ++ rest))
    (hrest : Ends ['.', '('] rest) : Reads (annotationUse inner) cs marker rest := by
  have hskip := skipGap_identifier hmarker rest
  have hqualified : Reads (qualifiedName []) (marker.toList ++ rest) () rest :=
    (reads_name (reads_word hmarker hskip hrest.word) (by simp)).bind <|
      (reads_many_none (bind_none (symbol_none rfl (hrest.front_ne (c := '.') (by simp))))).bind
        (reads_pure () rest)
  have hspelled : Reads (spelled (qualifiedName [])) (marker.toList ++ rest) ((), marker) rest := by
    have htext := hqualified.withText
    rw [String.ofList_toList] at htext
    refine (reads_gap _).bind ?_
    rw [hskip]
    exact htext
  have harguments : annotationArguments inner rest = none :=
    bind_none (symbol_none rfl (hrest.front_ne (c := '(') (by simp)))
  exact (reads_symbol hcs).bind (hspelled.bind
    ((reads_maybe_none harguments).bind (reads_pure marker rest)))

theorem plainModifier_none_of_front {cs : List Char} (h : ∀ c ∈ front cs, isNameStart c = false) :
    plainModifier cs = none := by
  refine (orElse_none (bind_none (keywordOf_none_of_front h))).trans (symbol_none rfl fun hn => ?_)
  exact absurd (h 'n' hn) (by decide)

def markedField (behind : List Char) : List Char :=
  [' ', '@', 'P', 'h', 'o', 'n', 'k', 'F', 'i', 'e', 'l', 'd', ' '] ++ behind

theorem front_markedField (behind : List Char) : front (markedField behind) = some '@' :=
  rfl

theorem notStart_markedField (behind : List Char) :
    ∀ c ∈ front (markedField behind), isNameStart c = false := by
  rw [front_markedField]
  rintro c ⟨⟩
  decide

theorem modifier_none (inner : Nested) {cs : List Char} (hplain : plainModifier cs = none)
    (hat : front cs ≠ some '@') : modifier inner true cs = none := by
  have hinterface : symbol "@interface" cs = none := symbol_none rfl hat
  refine (orElse_none (bind_none hplain)).trans ?_
  rw [if_pos rfl]
  refine (reads_ahead _ cs).bind_none ((reads_require (by simp [hinterface]) cs).bind_none ?_)
  exact bind_none (annotationUse_none inner hat)

theorem reads_modifier (inner : Nested) {marker : String} {cs rest : List Char}
    (hplain : plainModifier cs = none) (hinterface : symbol "@interface" cs = none)
    (h : Reads (annotationUse inner) cs marker rest) :
    Reads (modifier inner true) cs (some marker) rest := by
  refine (orElse_none (bind_none hplain)).trans ?_
  rw [if_pos rfl]
  refine (reads_ahead _ cs).bind ((reads_require (by simp [hinterface]) cs).bind ?_)
  exact h.bind (reads_pure (some marker) rest)

theorem reads_modifiers (inner : Nested) {text behind : List Char} {w : String}
    (h : BeginsType (' ' :: text) w behind) :
    Reads (modifiers inner true) (markedField text) ["PhonkField"] (' ' :: text) := by
  have hplain : plainModifier (markedField text) = none :=
    plainModifier_none_of_front (notStart_markedField text)
  have hmarker : Reads (annotationUse inner) (markedField text) "PhonkField" (' ' :: text) := by
    refine reads_annotationUse inner (by decide) rfl (ends_blank fun c hc hmem => ?_)
    have hmark : isNameStart c = false := by
      obtain rfl | rfl : c = '.' ∨ c = '(' := by simpa using hmem
      · decide
      · decide
    have hne : front (' ' :: text) ≠ some c := h.front_ne hmark
    rw [front, skipGap_blank] at hne
    exact hne hc
  have hinterface : symbol "@interface" (markedField text) = none := rfl
  have hnone := modifier_none inner h.plainModifier_none (h.front_ne (c := '@') (by decide))
  exact (ReadsAll.many (.cons (reads_modifier inner hplain hinterface hmarker)
    (by simp [markedField]) (.nil hnone))).bind (reads_pure _ _)

section

variable {n : Nat} {cs behind : List Char} {w : String} (h : BeginsType cs w behind)

include h

theorem constructorMember_none (inner : Nested) : constructorMember inner cs = none := by
  have hparameters : typeParameters inner cs = none :=
    typeParameters_none inner (h.front_ne (by decide))
  have hbracket : formalParameters inner [] behind = none :=
    bind_none (symbol_none rfl (h.ends.front_ne (c := '(') (by decide)))
  refine (reads_maybe_none hparameters).bind_none ?_
  by_cases hmem : w ∈ Keyword.types ++ Keyword.declarations
  · exact bind_none (name_none h.word hmem)
  · exact (reads_name h.word hmem).bind_none (bind_none hbracket)

theorem compactConstructor_none : compactConstructor (Nested.levels n) cs = none := by
  have hblock : (Nested.levels n).block behind = none :=
    block_none n (h.ends.front_ne (by decide))
  by_cases hmem : w ∈ Keyword.types ++ Keyword.declarations
  · exact bind_none (name_none h.word hmem)
  · exact (reads_name h.word hmem).bind_none (bind_none hblock)

theorem genericMethod_none (inner : Nested) (names : List AnnotationName) :
    genericMethod inner names cs = none :=
  bind_none (typeParameters_none inner (h.front_ne (by decide)))

end

def fieldEnd : List Char := [' ', 'f', ';', ' ', '\x7d']

def fieldOf (s : TypeSyntax) : Member :=
  .field ⟨["PhonkField"], s, [⟨"f", []⟩]⟩

theorem ends_fieldEnd {marks : List Char} (h : 'f' ∉ marks) : Ends marks fieldEnd :=
  ends_blank (by rintro c ⟨⟩; exact h)

theorem skipGap_field {t : TypeExpr} (h : t.Shaped IsJavaName) :
    skipGap (' ' :: (t.spell ++ fieldEnd)) = t.spell ++ fieldEnd := by
  rw [skipGap_blank, skipGap_spell h]

theorem beginsType_field {t : TypeExpr} (h : t.Shaped IsJavaName) :
    ∃ w behind, BeginsType (' ' :: (t.spell ++ fieldEnd)) w behind :=
  beginsType h (skipGap_field h) (ends_fieldEnd (by decide))

theorem reads_typedMember {t : TypeExpr} (h : t.Shaped IsJavaName) {n : Nat} {keywords : List String}
    (hkeywords : ∀ k ∈ keywords, k ∈ Keyword.ofLanguage) (hn : t.spell.length ≤ n)
    (names : List AnnotationName) :
    ∃ s : TypeSyntax, s.read = .ok t ∧
      Reads (typedMember (Nested.levels n) .classType names keywords) (' ' :: (t.spell ++ fieldEnd))
        (.member (.field ⟨names, s, [⟨"f", []⟩]⟩)) [' ', '\x7d'] := by
  obtain ⟨s, hs, hreads⟩ := isReadBack h hkeywords hn (skipGap_field h) (ends_fieldEnd (by decide))
  have hdeclarators : Reads (declarators (Nested.levels n) []) fieldEnd [⟨"f", []⟩]
      [';', ' ', '\x7d'] := rfl
  refine ⟨s, hs, hreads.bind ((reads_ahead _ _).bind ?_)⟩
  exact hdeclarators.bind ((reads_mark rfl (by decide) _).bind (reads_pure _ _))

theorem reads_memberRest {t : TypeExpr} (h : t.Shaped IsJavaName) {n : Nat}
    (hn : t.spell.length ≤ n) (names : List AnnotationName) :
    ∃ s : TypeSyntax, s.read = .ok t ∧
      Reads (memberRest (Nested.levels n) .classType names) (' ' :: (t.spell ++ fieldEnd))
        (.member (.field ⟨names, s, [⟨"f", []⟩]⟩)) [' ', '\x7d'] := by
  obtain ⟨w, behind, hbegins⟩ := beginsType_field h
  have hlanguage : ∀ k ∈ Keyword.declarations, k ∈ Keyword.ofLanguage := by decide
  obtain ⟨s, hs, hreads⟩ := reads_typedMember h hlanguage hn names
  refine ⟨s, hs, ?_⟩
  have hkeyword : w ∉ Keyword.declarations := hbegins.not_mem (by decide) (by decide)
  have hdeclares : ((do let _ ← keywordOf (declarationWords .classType)) <|> symbol "@interface" :
      Parser Unit) (' ' :: (t.spell ++ fieldEnd)) = none :=
    (orElse_none (bind_none (keywordOf_none hbegins.word hkeyword))).trans
      (symbol_none rfl (hbegins.front_ne (by decide)))
  refine (reads_ahead _ _).bind ?_
  rw [hdeclares, if_neg (by decide), if_pos rfl]
  refine (orElse_none (constructorMember_none hbegins _)).trans ?_
  refine (orElse_none (compactConstructor_none hbegins)).trans ?_
  exact (orElse_none (genericMethod_none hbegins _ names)).trans hreads

theorem reads_reported {p : Parser Declared} {m : Member} {cs rest : List Char}
    (h : Reads p cs (.member m) rest) : Reads (reported p) cs m rest := by
  have hcapture : Reads (capture p) cs (.member m, []) rest := by
    simp only [Reads, capture, show p cs = _ from h]
  exact hcapture.bind rfl

theorem reported_type {p : Parser Declared} {heading : Heading} {name : String}
    {members : List Member} {cs rest : List Char}
    (h : Reads p cs (.type heading name members) rest) :
    reported p cs = some ⟨.other, [.mk heading name members []], rest⟩ := by
  have hcapture : Reads (capture p) cs (.type heading name members, []) rest := by
    simp only [Reads, capture, show p cs = _ from h]
  exact hcapture.bind_eq.trans rfl

theorem reads_member {t : TypeExpr} (h : t.Shaped IsJavaName) {n : Nat} (hn : t.spell.length ≤ n) :
    ∃ s : TypeSyntax, s.read = .ok t ∧
      Reads (member (Nested.levels n) .classType) (markedField (t.spell ++ fieldEnd))
        (fieldOf s) [' ', '\x7d'] := by
  obtain ⟨s, hs, hrest⟩ := reads_memberRest h hn ["PhonkField"]
  obtain ⟨w, behind, hbegins⟩ := beginsType_field h
  have hmodifiers := reads_modifiers (Nested.levels n) hbegins
  have hfront := front_markedField (t.spell ++ fieldEnd)
  have hword : word (markedField (t.spell ++ fieldEnd)) = none :=
    word_none (notStart_markedField _)
  have hblock : (Nested.levels n).block (markedField (t.spell ++ fieldEnd)) = none :=
    block_none n (by rw [hfront]; decide)
  have hclassBlock : classBlock (Nested.levels n) (markedField (t.spell ++ fieldEnd)) = none :=
    (reads_maybe_none (bind_none hword)).bind_none (bind_none hblock)
  refine ⟨s, hs, reads_reported ?_⟩
  refine (orElse_none ((reads_require (by decide) _).bind_none hclassBlock)).trans ?_
  refine (orElse_none (bind_none (symbol_none rfl (by rw [hfront]; decide)))).trans ?_
  exact hmodifiers.bind hrest

def markedClass (t : TypeExpr) : List Char :=
  [' ', 'X', ' ', '\x7b'] ++ markedField (t.spell ++ fieldEnd)

theorem member_none (n : Nat) :
    member (Nested.levels n) .classType [' ', '\x7d'] = none := by
  cases n with
  | zero => rfl
  | succ n => rfl

theorem reads_classBody {t : TypeExpr} (h : t.Shaped IsJavaName) {n : Nat}
    (hn : t.spell.length ≤ n) :
    ∃ s : TypeSyntax, s.read = .ok t ∧
      Reads ((Nested.levels (n + 1)).body .classType)
        (' ' :: '\x7b' :: markedField (t.spell ++ fieldEnd))
        [fieldOf s] [] := by
  obtain ⟨s, hs, hmember⟩ := reads_member h hn
  have hmembers : Reads (members (Nested.levels n) .classType)
      (markedField (t.spell ++ fieldEnd)) [fieldOf s]
      [' ', '\x7d'] :=
    ReadsAll.many (.cons hmember (by simp [markedField]) (.nil (member_none n)))
  refine ⟨s, hs, (reads_symbol ?_).bind (hmembers.bind ?_)⟩
  · rw [skipGap_blank, skipGap_mark (by decide)]
    rfl
  · exact (reads_symbol rfl).bind (reads_pure _ _)

section

variable (inner : Nested) {cs : List Char} (h : word cs = none)

include h

theorem keyword_none_of_word (text : String) : keyword text cs = none :=
  bind_none h

theorem reads_interfaces_none : Reads (interfaces inner) cs [] cs :=
  (reads_maybe_none (bind_none (keyword_none_of_word h "implements"))).bind (reads_pure _ _)

theorem reads_permits_none : Reads (permits inner) cs () cs :=
  (reads_maybe_none (bind_none (keyword_none_of_word h "permits"))).bind (reads_pure _ _)

end

theorem reads_classRest {t : TypeExpr} (h : t.Shaped IsJavaName) {n : Nat}
    (hn : t.spell.length ≤ n) :
    ∃ s : TypeSyntax, s.read = .ok t ∧
      Reads (classRest (Nested.levels (n + 1))) (markedClass t)
        (.type (.classHeading none []) "X" [fieldOf s]) [] := by
  obtain ⟨s, hs, hbody⟩ := reads_classBody h hn
  refine ⟨s, hs, ?_⟩
  have hname : Reads word (markedClass t) "X" (' ' :: '\x7b' :: markedField (t.spell ++ fieldEnd)) :=
    rfl
  have hparameters : typeParameters (Nested.levels (n + 1))
      (' ' :: '\x7b' :: markedField (t.spell ++ fieldEnd)) = none := rfl
  have hword : word (' ' :: '\x7b' :: markedField (t.spell ++ fieldEnd)) = none := rfl
  refine hname.bind ((reads_maybe_none hparameters).bind ?_)
  refine (reads_maybe_none (bind_none (keyword_none_of_word hword "extends"))).bind ?_
  refine (reads_interfaces_none _ hword).bind ((reads_permits_none _ hword).bind ?_)
  exact hbody.bind (reads_pure _ _)

end BridgeTypings.Java.Parser
