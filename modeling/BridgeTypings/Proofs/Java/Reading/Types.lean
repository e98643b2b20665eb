import BridgeTypings.Java.Parser.Source
import BridgeTypings.Proofs.Java.Reading.Tokens
import BridgeTypings.Proofs.Java.Spelling

namespace BridgeTypings.Java.Parser

open Text.Parser TypeExpr Outcome

structure Ends (marks : List Char) (rest : List Char) : Prop where
  word : ∀ c ∈ rest.head?, isNameChar c = false
  marks : ∀ c ∈ front rest, c ∉ marks

theorem Ends.front_ne {marks rest : List Char} (h : Ends marks rest) {c : Char} (hc : c ∈ marks) :
    front rest ≠ some c :=
  fun heq => h.marks c heq hc

theorem Ends.mono {marks marks' rest : List Char} (h : Ends marks rest)
    (hmarks : ∀ c ∈ marks', c ∈ marks) : Ends marks' rest :=
  ⟨h.word, fun c hc hmem => h.marks c hc (hmarks c hmem)⟩

theorem ends_mark {c : Char} {marks : List Char} (hc : IsMark c) (hmarks : c ∉ marks)
    (rest : List Char) : Ends marks (c :: rest) where
  word := by
    rintro d ⟨⟩
    exact hc.name
  marks := by
    rw [front_mark hc]
    rintro d ⟨⟩
    exact hmarks

def typeMarks : List Char := ['<', '.', '[', '@']

def IsReadBack (t : TypeExpr) : Prop :=
  ∀ {n : Nat} {keywords : List String} {cs rest : List Char},
    (∀ k ∈ keywords, k ∈ Keyword.ofLanguage) → t.spell.length ≤ n →
    skipGap cs = t.spell ++ rest → Ends typeMarks rest →
    ∃ s : TypeSyntax, s.read = .ok t ∧ Reads (bareType (Nested.levels n) keywords) cs s rest

theorem front_of_name {name : String} (h : isIdentifier name = true) {cs rest : List Char}
    (hcs : skipGap cs = name.toList ++ rest) : ∃ c ∈ front cs, isNameStart c = true := by
  obtain ⟨c, more, hchars, hstart, -⟩ := exists_toList_eq h
  rw [hchars] at hcs
  exact ⟨c, by simp [front, hcs], hstart⟩

theorem front_ne_of_name {name : String} (h : isIdentifier name = true) {cs rest : List Char}
    (hcs : skipGap cs = name.toList ++ rest) {c : Char} (hc : isNameStart c = false) :
    front cs ≠ some c := by
  obtain ⟨d, hd, hstart⟩ := front_of_name h hcs
  intro heq
  rw [Option.mem_def.1 hd] at heq
  cases heq
  rw [hstart] at hc
  cases hc

theorem isIdentifier_primitive {name : String} (h : name ∈ Keyword.primitives) :
    isIdentifier name = true := by
  revert name
  decide

theorem exists_spell_eq {t : TypeExpr} (h : t.Shaped IsJavaName) :
    ∃ name rest, isIdentifier name = true ∧ t.spell = String.toList name ++ rest := by
  cases h with
  | @primitive name count hname =>
      refine ⟨name, (List.replicate count ['[', ']']).flatten, isIdentifier_primitive hname, ?_⟩
      rw [spell_array]
      simp [spell]
  | @chain first rest count hnames =>
      refine ⟨first.name, spellClause first.arguments ++
        rest.flatMap (fun s => '.' :: spellSegment s) ++ (List.replicate count ['[', ']']).flatten,
        (hnames first List.mem_cons_self).identifier, ?_⟩
      simp [spell_array, spell_nest, spellSegment]

theorem simpleType_none (inner : Nested) (keywords : List String) {cs : List Char}
    (h : ∀ c ∈ front cs, isNameStart c = false) : simpleType inner keywords cs = none := by
  unfold simpleType
  rw [orElse_none]
  · exact bind_none (bind_none (bind_none (word_none h)))
  · exact bind_none (bind_none (word_none h))

theorem bareType_none (inner : Nested) (keywords : List String) {cs : List Char}
    (h : ∀ c ∈ front cs, isNameStart c = false) : bareType inner keywords cs = none :=
  bind_none (simpleType_none inner keywords h)

theorem type_none (n : Nat) {cs : List Char} (h : ∀ c ∈ front cs, isNameStart c = false)
    (hat : front cs ≠ some '@') : (Nested.levels n).type [] cs = none := by
  cases n with
  | zero => rfl
  | succ n =>
      change typeAmong (Nested.levels n) [] [] cs = none
      unfold typeAmong
      rw [(reads_annotations_none _ hat).bind_eq]
      exact bareType_none _ _ h

section

variable {n : Nat} {cs rest : List Char}

theorem reads_typeArgument {t : TypeExpr} (h : IsReadBack t) (hshape : t.Shaped IsJavaName)
    (hn : t.spell.length ≤ n) (hcs : skipGap cs = t.spell ++ rest) (hrest : Ends typeMarks rest) :
    ∃ s : TypeSyntax, s.read = .ok t ∧ Reads (typeArgument (Nested.levels (n + 1))) cs s rest := by
  obtain ⟨name, behind, hname, hspell⟩ := exists_spell_eq hshape
  rw [hspell, List.append_assoc] at hcs
  have hat : front cs ≠ some '@' := front_ne_of_name hname hcs (by decide)
  have hquestion : front cs ≠ some '?' := front_ne_of_name hname hcs (by decide)
  rw [← List.append_assoc, ← hspell] at hcs
  obtain ⟨s, hread, hs⟩ := @h n [] cs rest nofun hn hcs hrest
  refine ⟨s, hread, ?_⟩
  unfold typeArgument Reads
  rw [orElse_none]
  · change typeAmong (Nested.levels n) [] [] cs = _
    unfold typeAmong
    rw [(reads_annotations_none _ hat).bind_eq]
    exact hs
  · exact (reads_annotations_none _ hat).bind_none (bind_none (symbol_none rfl hquestion))

theorem skipGap_spell {t : TypeExpr} (h : t.Shaped IsJavaName) (rest : List Char) :
    skipGap (t.spell ++ rest) = t.spell ++ rest := by
  obtain ⟨name, behind, hname, hspell⟩ := exists_spell_eq h
  rw [hspell, List.append_assoc]
  exact skipGap_identifier hname _

theorem ends_further (types : List TypeExpr) (rest : List Char) :
    Ends typeMarks (spellFurther types ++ '>' :: rest) := by
  cases types with
  | nil => exact ends_mark (by decide) (by decide) rest
  | cons t more =>
      rw [spellFurther]
      exact ends_mark (by decide) (by decide) _

def AreReadBack (types : List TypeExpr) : Prop :=
  ∀ t ∈ types, t.Shaped IsJavaName ∧ IsReadBack t

theorem readsAll_further {types : List TypeExpr} (h : AreReadBack types)
    (hn : ∀ t ∈ types, t.spell.length ≤ n) (rest : List Char) :
    ∃ ss, readTypes ss = .ok types ∧
      ReadsAll (do symbol ","; typeArgument (Nested.levels (n + 1)))
        (spellFurther types ++ '>' :: rest) ss ('>' :: rest) := by
  induction types with
  | nil =>
      have hcomma : front ('>' :: rest) ≠ some ',' := by
        rw [front_mark (by decide)]
        decide
      exact ⟨[], rfl, .nil (bind_none (symbol_none rfl hcomma))⟩
  | cons t more ih =>
      obtain ⟨⟨hshape, hback⟩, hmore⟩ := List.forall_mem_cons.1 h
      obtain ⟨hlength, hlengths⟩ := List.forall_mem_cons.1 hn
      obtain ⟨ss, hss, hall⟩ := ih hmore hlengths
      have hskip : skipGap (' ' :: (t.spell ++ (spellFurther more ++ '>' :: rest))) =
          t.spell ++ (spellFurther more ++ '>' :: rest) := by
        rw [skipGap_blank, skipGap_spell hshape]
      obtain ⟨s, hs, hreads⟩ := reads_typeArgument hback hshape hlength hskip (ends_further more rest)
      have hcomma : Reads (symbol ",") (spellFurther (t :: more) ++ '>' :: rest) ()
          (' ' :: (t.spell ++ (spellFurther more ++ '>' :: rest))) := by
        simp only [spellFurther, List.cons_append, List.append_assoc]
        exact reads_mark rfl (by decide) _
      refine ⟨s :: ss, ?_, .cons (hcomma.bind hreads) ?_ hall⟩
      · rw [readTypes, hs, hss]
        rfl
      · simp only [spellFurther, List.length_append, List.length_cons]
        omega

theorem typeArgument_none (n : Nat) (rest : List Char) :
    typeArgument (Nested.levels (n + 1)) ('>' :: rest) = none := by
  have hfront : front ('>' :: rest) = some '>' := front_mark (by decide) rest
  have hat : front ('>' :: rest) ≠ some '@' := by
    rw [hfront]
    decide
  unfold typeArgument
  rw [orElse_none]
  · refine type_none (n + 1) ?_ hat
    rw [hfront]
    rintro c ⟨⟩
    decide
  · refine (reads_annotations_none _ hat).bind_none (bind_none (symbol_none rfl ?_))
    rw [hfront]
    decide

theorem reads_typeArguments {types : List TypeExpr} (h : AreReadBack types)
    (hn : (spellClause (some types)).length ≤ n) (rest : List Char) :
    ∃ ss, readTypes ss = .ok types ∧
      Reads (typeArguments (Nested.levels n)) (spellClause (some types) ++ rest) ss rest := by
  have hlength (t : TypeExpr) (ht : t ∈ types) : t.spell.length ≤ n - 1 := by
    have := length_spell_lt_clause ht
    omega
  cases n with
  | zero => cases types <;> simp [spellClause] at hn
  | succ n =>
      unfold typeArguments
      cases types with
      | nil =>
          have hnone : commaSeparated (typeArgument (Nested.levels (n + 1))) ('>' :: rest) = none :=
            bind_none (typeArgument_none n rest)
          refine ⟨[], rfl, (reads_mark rfl (by decide) _).bind ?_⟩
          refine (reads_maybe_none hnone).bind ((reads_mark rfl (by decide) _).bind ?_)
          exact reads_pure _ _
      | cons t more =>
          obtain ⟨⟨hshape, hback⟩, hmore⟩ := List.forall_mem_cons.1 h
          obtain ⟨ss, hss, hall⟩ := readsAll_further hmore
            (fun u hu => hlength u (List.mem_cons_of_mem _ hu)) rest
          obtain ⟨s, hs, hreads⟩ := reads_typeArgument hback hshape (hlength t List.mem_cons_self)
            (skipGap_spell hshape _) (ends_further more rest)
          refine ⟨s :: ss, ?_, ?_⟩
          · rw [readTypes, hs, hss]
            rfl
          · simp only [spellClause, List.cons_append, List.append_assoc, List.nil_append]
            refine (reads_mark rfl (by decide) _).bind ?_
            have hlist : Reads (commaSeparated (typeArgument (Nested.levels (n + 1))))
                (t.spell ++ (spellFurther more ++ '>' :: rest)) (s :: ss) ('>' :: rest) :=
              hreads.bind (hall.many.bind (reads_pure (s :: ss) _))
            exact hlist.maybe.bind ((reads_mark rfl (by decide) _).bind (reads_pure _ _))

theorem reads_clause {arguments : Option (List TypeExpr)} (h : ∀ types ∈ arguments, AreReadBack types)
    (hn : (spellClause arguments).length ≤ n) (hrest : Ends ['<'] rest) :
    ∃ a, (∀ names name, (Segment.mk names name a).read = .ok ⟨name, arguments⟩) ∧
      Reads (maybe (typeArguments (Nested.levels n))) (spellClause arguments ++ rest) a rest := by
  cases arguments with
  | none =>
      have hnone := typeArguments_none (Nested.levels n) (hrest.front_ne (c := '<') (by simp))
      exact ⟨none, fun _ _ => rfl, reads_maybe_none hnone⟩
  | some types =>
      obtain ⟨ss, hss, hreads⟩ := reads_typeArguments (h types rfl) hn rest
      refine ⟨some ss, fun names name => ?_, hreads.maybe⟩
      rw [Segment.read, hss]
      rfl

theorem nameEnds_clause {arguments : Option (List TypeExpr)} (hrest : Ends ['<'] rest) :
    ∀ c ∈ (spellClause arguments ++ rest).head?, isNameChar c = false := by
  rcases arguments with _ | _ | ⟨t, more⟩
  · exact hrest.word
  · rintro c ⟨⟩
    decide
  · rintro c ⟨⟩
    decide

variable {s : NamedSegment}

theorem reads_segmentName (hname : IsJavaName s.name)
    (hcs : skipGap cs = spellSegment s ++ rest) (hrest : Ends ['<'] rest) :
    Reads word cs s.name (spellClause s.arguments ++ rest) := by
  rw [spellSegment, List.append_assoc] at hcs
  exact reads_word hname.identifier hcs (nameEnds_clause hrest)

theorem reads_firstSegment (hname : IsJavaName s.name)
    (h : ∀ types ∈ s.arguments, AreReadBack types) {keywords : List String}
    (hkeywords : ∀ k ∈ keywords, k ∈ Keyword.ofLanguage)
    (hn : (spellClause s.arguments).length ≤ n) (hcs : skipGap cs = spellSegment s ++ rest)
    (hrest : Ends ['<'] rest) :
    ∃ r, r.read = .ok s ∧ Reads (firstSegment (Nested.levels n) keywords) cs r rest := by
  obtain ⟨a, ha, hclause⟩ := reads_clause h hn hrest
  have hword := reads_segmentName hname hcs hrest
  have hfree : s.name ∉ keywords := fun hmem => hname.free (hkeywords _ hmem)
  exact ⟨.mk [] s.name a, ha [] s.name,
    (reads_name hword hfree).bind (hclause.bind (reads_pure _ rest))⟩

theorem reads_laterSegment (hname : IsJavaName s.name)
    (h : ∀ types ∈ s.arguments, AreReadBack types) (hn : (spellClause s.arguments).length ≤ n)
    (hrest : Ends ['<'] rest) :
    ∃ r, r.read = .ok s ∧
      Reads (laterSegment (Nested.levels n) []) ('.' :: (spellSegment s ++ rest)) r rest := by
  obtain ⟨a, ha, hclause⟩ := reads_clause h hn hrest
  have hskip : skipGap (spellSegment s ++ rest) =
      s.name.toList ++ (spellClause s.arguments ++ rest) := by
    rw [spellSegment, List.append_assoc, skipGap_identifier hname.identifier]
  have hat : front (spellSegment s ++ rest) ≠ some '@' :=
    front_ne_of_name hname.identifier hskip (by decide)
  have hword := reads_word hname.identifier hskip (nameEnds_clause hrest)
  refine ⟨.mk [] s.name a, ha [] s.name, (reads_mark rfl (by decide) _).bind ?_⟩
  refine (reads_annotations_none _ hat).bind ?_
  exact (reads_name hword (by simp)).bind (hclause.bind (reads_pure _ rest))

theorem ends_later (segments : List NamedSegment) (hrest : Ends ['<', '.'] rest) :
    Ends ['<'] (segments.flatMap (fun s => '.' :: spellSegment s) ++ rest) := by
  cases segments with
  | nil => exact hrest.mono (by simp)
  | cons s more => exact ends_mark (by decide) (by decide) _

theorem readsAll_later {segments : List NamedSegment}
    (hnames : ∀ s ∈ segments, IsJavaName s.name)
    (h : ∀ s ∈ segments, ∀ types ∈ s.arguments, AreReadBack types)
    (hn : ∀ s ∈ segments, (spellClause s.arguments).length ≤ n) (hrest : Ends ['<', '.'] rest) :
    ∃ rs, readSegments rs = .ok segments ∧
      ReadsAll (laterSegment (Nested.levels n) [])
        (segments.flatMap (fun s => '.' :: spellSegment s) ++ rest) rs rest := by
  induction segments with
  | nil =>
      have hdot := hrest.front_ne (c := '.') (by simp)
      exact ⟨[], rfl, .nil (bind_none (symbol_none rfl hdot))⟩
  | cons s more ih =>
      obtain ⟨hname, hnames⟩ := List.forall_mem_cons.1 hnames
      obtain ⟨hback, h⟩ := List.forall_mem_cons.1 h
      obtain ⟨hlength, hn⟩ := List.forall_mem_cons.1 hn
      obtain ⟨rs, hrs, hall⟩ := ih hnames h hn
      obtain ⟨r, hr, hreads⟩ := reads_laterSegment hname hback hlength (ends_later more hrest)
      refine ⟨r :: rs, ?_, ?_⟩
      · rw [readSegments, hr, hrs]
        rfl
      · simp only [List.flatMap_cons, List.cons_append, List.append_assoc]
        refine .cons hreads ?_ hall
        simp only [List.length_cons, List.length_append]
        omega

theorem reads_brackets (inner : Nested) (count : Nat) (hrest : Ends ['[', '@'] rest) :
    Reads (brackets inner) ((List.replicate count ['[', ']']).flatten ++ rest)
      (List.replicate count ⟨[], none⟩) rest := by
  refine ReadsAll.many ?_
  induction count with
  | zero =>
      refine .nil ?_
      have hat := hrest.front_ne (c := '@') (by simp)
      have hopen := hrest.front_ne (c := '[') (by simp)
      exact (reads_annotations_none inner hat).bind_none (bind_none (symbol_none rfl hopen))
  | succ count ih =>
      rw [List.replicate_succ, List.replicate_succ, List.flatten_cons, List.append_assoc]
      refine .cons ?_ (by simp only [List.length_append, List.length_cons]; omega) ih
      have hat : front (['[', ']'] ++ ((List.replicate count ['[', ']']).flatten ++ rest)) ≠
          some '@' := by
        rw [List.cons_append, front_mark (by decide)]
        decide
      refine (reads_annotations_none inner hat).bind ((reads_mark rfl (by decide) _).bind ?_)
      exact (reads_mark rfl (by decide) _).bind (reads_pure _ _)

theorem reads_bareType_of {inner : Nested} {keywords : List String} {element : TypeSyntax}
    {t : TypeExpr} {count : Nat} (hread : element.read = .ok t)
    (h : Reads (simpleType inner keywords) cs element
      ((List.replicate count ['[', ']']).flatten ++ rest)) (hrest : Ends ['[', '@'] rest) :
    ∃ s : TypeSyntax, s.read = .ok (t.array count) ∧
      Reads (bareType inner keywords) cs s rest := by
  have hbrackets := reads_brackets inner count hrest
  cases count with
  | zero => exact ⟨element, by rw [array_zero, hread], h.bind (hbrackets.bind (reads_pure _ _))⟩
  | succ count =>
      refine ⟨.array element (List.replicate (count + 1) ⟨[], none⟩), ?_,
        h.bind (hbrackets.bind (reads_pure _ _))⟩
      have hproper : ∀ b ∈ List.replicate (count + 1) (Brackets.mk [] none), b.Proper := by
        intro b hb
        rw [List.eq_of_mem_replicate hb]
        rfl
      rw [TypeSyntax.read, hread, dimensionsOf_proper hproper, List.length_replicate]
      rfl

theorem ends_brackets (count : Nat) (hrest : Ends typeMarks rest) :
    Ends ['<', '.'] ((List.replicate count ['[', ']']).flatten ++ rest) := by
  cases count with
  | zero => exact hrest.mono (by simp [typeMarks])
  | succ count =>
      rw [List.replicate_succ, List.flatten_cons, List.append_assoc]
      exact ends_mark (by decide) (by decide) _

theorem chain_eq_nest {first : NamedSegment} {rest : List NamedSegment}
    (h : rest = [] ∨ first.isPackage = false) :
    NamedSegment.chain first rest = NamedSegment.chain.nest first rest := by
  cases rest with
  | nil => rfl
  | cons second rest =>
      have hpackage : first.isPackage = false := h.resolve_left (by simp)
      rw [NamedSegment.chain, hpackage]
      rfl

end

theorem isReadBack_primitive {name : String} (hname : name ∈ Keyword.primitives) (count : Nat) :
    IsReadBack ((TypeExpr.primitive name []).array count) := by
  intro n keywords cs rest _ _ hcs hrest
  rw [spell_array] at hcs
  simp only [spell, List.flatMap_nil, List.append_nil, List.append_assoc] at hcs
  have hends := ends_brackets count hrest
  have hword := reads_word (isIdentifier_primitive hname) hcs hends.word
  have hvoid : name ≠ "void" := by
    rintro rfl
    exact absurd hname (by decide)
  have hread : (TypeSyntax.primitive name).read = .ok (.primitive name []) := rfl
  refine reads_bareType_of hread ?_ (hrest.mono (by simp [typeMarks]))
  refine Reads.orElse ((reads_keywordOf hword (List.mem_cons_of_mem _ hname)).bind ?_)
  rw [if_neg hvoid]
  exact reads_pure _ _

theorem length_clause_le {first : NamedSegment} {segments : List NamedSegment} {n : Nat}
    (hn : (spellSegment first ++ segments.flatMap (fun s => '.' :: spellSegment s)).length ≤ n) :
    ∀ s ∈ first :: segments, (spellClause s.arguments).length ≤ n := by
  intro s hs
  rw [List.length_append] at hn
  rcases List.mem_cons.1 hs with rfl | hs
  · simp only [spellSegment, List.length_append] at hn
    omega
  · have hle := length_clause_le_chain hs
    omega

theorem isReadBack_chain {first : NamedSegment} {segments : List NamedSegment}
    (hnames : ∀ s ∈ first :: segments, IsJavaName s.name)
    (hback : ∀ s ∈ first :: segments, ∀ types ∈ s.arguments, AreReadBack types)
    (hfirst : segments = [] ∨ first.isPackage = false) (count : Nat) :
    IsReadBack ((NamedSegment.chain.nest first segments).array count) := by
  intro n keywords cs rest hkeywords hn hcs hrest
  rw [spell_array, spell_nest, List.append_assoc, List.append_assoc] at hcs
  rw [spell_array, spell_nest, List.length_append] at hn
  have hlength := length_clause_le (Nat.le_of_add_right_le hn)
  obtain ⟨hfirstName, hlaterNames⟩ := List.forall_mem_cons.1 hnames
  obtain ⟨hfirstBack, hlaterBack⟩ := List.forall_mem_cons.1 hback
  obtain ⟨hfirstLength, hlaterLength⟩ := List.forall_mem_cons.1 hlength
  have hends := ends_brackets count hrest
  have hwords : ∀ k ∈ Keyword.types ++ keywords, k ∈ Keyword.ofLanguage :=
    List.forall_mem_append.2 ⟨by decide, hkeywords⟩
  obtain ⟨r, hr, hreads⟩ := reads_firstSegment hfirstName hfirstBack hwords hfirstLength hcs
    (ends_later segments hends)
  obtain ⟨rs, hrs, hall⟩ := readsAll_later hlaterNames hlaterBack hlaterLength hends
  have hread : (TypeSyntax.dotted r rs).read = .ok (NamedSegment.chain.nest first segments) := by
    rw [TypeSyntax.read, hr, hrs, ← chain_eq_nest hfirst]
    rfl
  have hkeyword : first.name ∉ Keyword.types := fun hmem =>
    hfirstName.free (hwords _ (List.mem_append_left _ hmem))
  have hword := reads_segmentName hfirstName hcs (ends_later segments hends)
  refine reads_bareType_of hread ?_ (hrest.mono (by simp [typeMarks]))
  unfold simpleType Reads
  rw [orElse_none (bind_none (keywordOf_none hword hkeyword))]
  exact hreads.bind (hall.many.bind (reads_pure _ _))

theorem isReadBack {t : TypeExpr} (h : t.Shaped IsJavaName) : IsReadBack t := by
  induction h with
  | primitive count hname => exact isReadBack_primitive hname count
  | chain count hnames harguments hfirst ih =>
      refine isReadBack_chain hnames (fun s hs types htypes t ht => ?_) hfirst count
      exact ⟨harguments s hs types htypes t ht, ih s hs types htypes t ht⟩

end BridgeTypings.Java.Parser
