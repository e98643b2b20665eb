import BridgeTypings.Proofs.Java.Reading.Types
import BridgeTypings.Proofs.Java.Written

namespace BridgeTypings.Java

open Text.Parser

theorem IsGap.head? {gap : List Char} (h : IsGap gap) :
    ∀ c ∈ gap.head?, isNameChar c = false := by
  cases h with
  | nil => exact nofun
  | blank hblank _ =>
      rintro c ⟨⟩
      exact isNameChar_of_isBlank hblank
  | line =>
      rintro c ⟨⟩
      decide
  | block =>
      rintro c ⟨⟩
      decide

theorem IsGap.closed {gap : List Char} (h : IsGap gap) {c : Char} (hc : isNameChar c = false)
    (rest : List Char) : ∀ d ∈ (gap ++ c :: rest).head?, isNameChar d = false := by
  cases gap with
  | nil =>
      rintro d ⟨⟩
      exact hc
  | cons e gap =>
      rintro d ⟨⟩
      exact h.head? e rfl

theorem DottedName.head {text before : List Char} {v : String} (h : DottedName text v before) :
    ∃ c more, text = c :: more ∧ isNameStart c = true := by
  induction h with
  | single hw =>
      obtain ⟨c, more, hchars, hstart, -⟩ := exists_toList_eq hw
      exact ⟨c, more, hchars, hstart⟩
  | dotted _ _ _ _ ih =>
      obtain ⟨c, more, rfl, hstart⟩ := ih
      exact ⟨c, _, rfl, hstart⟩

theorem SymbolAt.skipGap_eq {text : String} {cs rest : List Char} (h : SymbolAt text cs rest)
    {c : Char} {more : List Char} (htext : text.toList = c :: more)
    (hc : isNameStart c = true ∨ IsMark c) : skipGap cs = text.toList ++ rest := by
  obtain ⟨gap, hgap, rfl⟩ := h
  rw [skipGap_append hgap, htext, List.cons_append]
  rcases hc with hc | hc
  · exact skipGap_name (isNameChar_of_isNameStart hc) _
  · exact skipGap_mark hc _

theorem SymbolAt.front_eq {text : String} {cs rest : List Char} (h : SymbolAt text cs rest)
    {c : Char} {more : List Char} (htext : text.toList = c :: more)
    (hc : isNameStart c = true ∨ IsMark c) : front cs = some c := by
  rw [front, h.skipGap_eq htext hc, htext]
  rfl

theorem WordAt.skipGap_eq {w : String} {cs rest : List Char} (h : WordAt w cs rest) :
    skipGap cs = w.toList ++ rest := by
  obtain ⟨c, more, hchars, hstart, -⟩ := exists_toList_eq h.identifier
  exact h.written.skipGap_eq hchars (.inl hstart)

theorem WordAt.front_eq {w : String} {cs rest : List Char} (h : WordAt w cs rest) :
    ∃ c, front cs = some c ∧ isNameStart c = true :=
  Parser.front_of_name h.identifier h.skipGap_eq

theorem WordAt.front_ne {w : String} {cs rest : List Char} (h : WordAt w cs rest) {c : Char}
    (hc : isNameStart c = false) : front cs ≠ some c :=
  front_ne_of_start h.front_eq hc

namespace Parser

variable {cs mid rest : List Char} {n : Nat}

theorem reads_mark_at {text : String} {c : Char} (htext : text.toList = [c]) (hc : IsMark c)
    (h : SymbolAt text cs rest) : Reads (symbol text) cs () rest :=
  reads_symbol (h.skipGap_eq htext (.inr hc))

theorem reads_word_at {w : String} (h : WordAt w cs rest) : Reads word cs w rest :=
  reads_word h.identifier h.skipGap_eq h.closed

theorem reads_qualifiedName {text before : List Char} {v : String} (h : DottedName text v before)
    {more : List Char} {names : List String} (hmore : ∀ c ∈ more.head?, isNameChar c = false)
    (hnames : ReadsAll (do symbol "."; word : Parser String) more names rest) :
    Reads (qualifiedName []) (text ++ more) () rest := by
  -- the last part goes first while the parser begins at the front, so that all behind stays open
  induction h generalizing more names with
  | single hw =>
      have hword := reads_word hw (skipGap_identifier hw more) hmore
      exact (reads_name hword (by simp)).bind (hnames.many.bind (reads_pure () rest))
  | @dotted text before gap behind v w _ hgap hbehind hw ih =>
      have hdot : SymbolAt "." (gap ++ '.' :: (behind ++ (w.toList ++ more)))
          (behind ++ (w.toList ++ more)) := ⟨gap, hgap, rfl⟩
      have hword : WordAt w (behind ++ (w.toList ++ more)) more :=
        ⟨hw, ⟨behind, hbehind, rfl⟩, hmore⟩
      have hpart : Reads (do symbol "."; word : Parser String)
          (gap ++ '.' :: (behind ++ (w.toList ++ more))) w more :=
        (reads_mark_at rfl (by decide) hdot).bind (reads_word_at hword)
      have hshorter : more.length < (gap ++ '.' :: (behind ++ (w.toList ++ more))).length := by
        simp only [List.length_append, List.length_cons]
        omega
      have hread := ih (hgap.closed (by decide) _) (.cons hpart hshorter hnames)
      simpa using hread

theorem reads_spelledName {name : AnnotationName} (h : NameAt name cs rest) :
    Reads (spelled (qualifiedName [])) cs ((), name) rest := by
  obtain ⟨last, before, hdotted⟩ := h.dotted
  obtain ⟨c, more, hchars, hstart⟩ := hdotted.head
  have hnone : (do symbol "."; word : Parser String) rest = none :=
    bind_none (symbol_none rfl h.ended)
  have hname := (reads_qualifiedName hdotted h.closed (.nil hnone)).withText
  rw [String.ofList_toList] at hname
  refine (reads_gap cs).bind ?_
  rw [h.written.skipGap_eq hchars (.inl hstart)]
  exact hname

theorem gets_annotationUse {name : AnnotationName} (h : AnnotationAt cs name rest)
    (hn : 2 * cs.length ≤ n) : Gets (annotationUse (Nested.levels n)) cs name rest := by
  cases h with
  | marker hat hname hopen =>
      have hat := reads_mark_at rfl (by decide) hat
      have hnone : annotationArguments (Nested.levels n) rest = none :=
        bind_none (symbol_none rfl hopen)
      exact (hat.bind ((reads_spelledName hname).bind
        ((reads_maybe_none hnone).bind (reads_pure name rest)))).gets
  | applied hat hname harguments =>
      have hlength := hat.length_le
      have hlength' := hname.written.length_le
      have hat := reads_mark_at rfl (by decide) hat
      have harguments := harguments.2 n (by omega)
      exact hat.gets.bind ((reads_spelledName hname).gets.bind
        (harguments.maybe.bind (reads_pure name rest).gets))

theorem getsAll_annotations {names : List AnnotationName} (h : AnnotationsAt cs names rest)
    (hn : 2 * cs.length ≤ n) (hrest : front rest ≠ some '@') :
    GetsAll (annotationUse (Nested.levels n)) cs names rest := by
  induction h with
  | nil => exact .nil (annotationUse_none _ hrest)
  | cons hfirst _ ih =>
      have hlength := hfirst.length_lt
      exact .cons (gets_annotationUse hfirst hn) hlength (ih (by omega) hrest)

theorem gets_annotations {names : List AnnotationName} (h : AnnotationsAt cs names rest)
    (hn : 2 * cs.length ≤ n) (hrest : front rest ≠ some '@') :
    Gets (annotations (Nested.levels n)) cs names rest :=
  (getsAll_annotations h hn hrest).many

theorem gets_brackets {bs : List Brackets} (h : BracketsAt cs bs rest) (hn : 2 * cs.length ≤ n)
    (hat : front rest ≠ some '@') (hopen : front rest ≠ some '[') :
    Gets (brackets (Nested.levels n)) cs bs rest := by
  refine GetsAll.many ?_
  induction h with
  | nil =>
      exact .nil ((reads_annotations_none _ hat).bind_none (bind_none (symbol_none rfl hopen)))
  | @cons cs mid more behind rest names bs hnames hleft hright _ ih =>
      have hlength := hnames.length_le
      have hlength' : 1 + more.length ≤ mid.length := hleft.length_le
      have hlength'' : 1 + behind.length ≤ more.length := hright.length_le
      have hfront : front mid ≠ some '@' :=
        front_ne (hleft.front_eq rfl (.inr (by decide))) (by decide)
      refine .cons ((gets_annotations hnames hn hfront).bind ?_) (by omega)
        (ih (by omega) hat hopen)
      have hpair : Reads (do symbol "["; symbol "]"; return ⟨names, none⟩ : Parser Brackets) mid
          ⟨names, none⟩ behind :=
        (reads_mark_at rfl (by decide) hleft).bind
          ((reads_mark_at rfl (by decide) hright).bind (reads_pure _ behind))
      exact hpair.gets

end Parser

theorem AnnotationAt.front_eq {cs rest : List Char} {name : AnnotationName}
    (h : AnnotationAt cs name rest) : front cs = some '@' := by
  cases h with
  | marker hat => exact hat.front_eq rfl (.inr (by decide))
  | applied hat => exact hat.front_eq rfl (.inr (by decide))

theorem BracketsAt.front_of_cons {cs rest : List Char} {b : Brackets} {bs : List Brackets}
    (h : BracketsAt cs (b :: bs) rest) : front cs = some '@' ∨ front cs = some '[' := by
  cases h with
  | cons hnames hleft =>
      cases hnames with
      | nil => exact .inr (hleft.front_eq rfl (.inr (by decide)))
      | cons hfirst => exact .inl hfirst.front_eq

theorem endsSegments_of_front {rest : List Char} {c : Char} (h : front rest = some c)
    (hclause : c ≠ '<') (hdot : c ≠ '.') : EndsSegments rest where
  clause := front_ne h hclause
  segment := by
    intro more hmore
    have hfront : front rest = some '.' := by
      rw [front, hmore]
      rfl
    exact absurd hfront (front_ne h hdot)

theorem stops_of_front {rest : List Char} {c : Char} (h : front rest = some c)
    (hc : c ∉ ['<', '.', '@', '[']) : Stops rest := by
  have hne {d : Char} (hd : d ∈ ['<', '.', '@', '[']) : c ≠ d := by
    rintro rfl
    exact hc hd
  exact ⟨endsSegments_of_front h (hne (by decide)) (hne (by decide)),
    front_ne h (hne (by decide)), front_ne h (hne (by decide))⟩

def BeginsName (cs : List Char) : Prop :=
  ∃ names mid c, AnnotationsAt cs names mid ∧ front mid = some c ∧ isNameStart c = true

structure AreRead (T : List Char → TypeSyntax → List Char → Prop) : Prop where
  length {cs rest : List Char} {t : TypeSyntax} : T cs t rest → rest.length ≤ cs.length
  begins {cs rest : List Char} {t : TypeSyntax} : T cs t rest → BeginsName cs
  gets {cs rest : List Char} {t : TypeSyntax} {n : Nat} : T cs t rest → 2 * cs.length < n →
    Stops rest → Gets ((Nested.levels n).type []) cs t rest

section

variable {T : List Char → TypeSyntax → List Char → Prop} {cs rest : List Char} {n : Nat}

theorem SimpleTypeAt.front_eq {keywords : List String} {t : TypeSyntax}
    (h : SimpleTypeAt T keywords cs t rest) : ∃ c, front cs = some c ∧ isNameStart c = true := by
  cases h with
  | void hword => exact hword.front_eq
  | primitive hword => exact hword.front_eq
  | dotted hword => exact hword.front_eq

theorem BareTypeAt.front_eq {keywords : List String} {t : TypeSyntax}
    (h : BareTypeAt T keywords cs t rest) : ∃ c, front cs = some c ∧ isNameStart c = true := by
  cases h with
  | simple h => exact h.front_eq
  | array h => exact h.front_eq

theorem TypeAt.begins {keywords : List String} {t : TypeSyntax} (h : TypeAt T keywords cs t rest) :
    BeginsName cs := by
  cases h with
  | bare h =>
      obtain ⟨c, hc, hstart⟩ := h.front_eq
      exact ⟨[], cs, c, .nil, hc, hstart⟩
  | annotated hfirst hnames h =>
      obtain ⟨c, hc, hstart⟩ := h.front_eq
      exact ⟨_, _, c, .cons hfirst hnames, hc, hstart⟩

namespace Parser

theorem wildcard_none {α : Type} (h : BeginsName cs) (hn : 2 * cs.length ≤ n)
    (p : List AnnotationName → Parser α) :
    (do
      let names ← annotations (Nested.levels n)
      symbol "?"
      p names : Parser α) cs = none := by
  obtain ⟨names, mid, c, hnames, hc, hstart⟩ := h
  have hne {d : Char} (hd : isNameStart d = false) : front mid ≠ some d :=
    front_ne_of_start ⟨c, hc, hstart⟩ hd
  exact (gets_annotations hnames hn (hne (by decide))).bind_none
    (bind_none (symbol_none rfl (hne (by decide))))

variable (hT : AreRead T)

include hT

theorem gets_typeArgument {t : TypeSyntax} (h : TypeArgumentAt T cs t rest)
    (hn : 2 * cs.length < n) (hrest : front rest = some ',' ∨ front rest = some '>') :
    Gets (typeArgument (Nested.levels n)) cs t rest := by
  have hstops : Stops rest := hrest.elim (fun h => stops_of_front h (by decide))
    fun h => stops_of_front h (by decide)
  have hnostart : ∀ c ∈ front rest, isNameStart c = false :=
    hrest.elim (fun h => notStart_of_front h (by decide)) fun h => notStart_of_front h (by decide)
  cases h with
  | type h =>
      -- the annotations are read twice: before a wildcard is missed and then with the type
      exact gets_orElse (wildcard_none (hT.begins h) (by omega) _) (hT.gets h hn hstops)
  | wildcard hnames hmark =>
      have hfront := hmark.front_eq rfl (.inr (by decide))
      have hnames := gets_annotations hnames (Nat.le_of_lt hn) (front_ne hfront (by decide))
      have hbound : wildcardBound (Nested.levels n) rest = none :=
        bind_none (keywordOf_none_of_front hnostart)
      refine (hnames.bind ?_).orElse
      exact ((reads_mark_at rfl (by decide) hmark).bind
        ((reads_maybe_none hbound).bind (reads_pure (TypeSyntax.wildcard _ none) rest))).gets
  | @bounded mid more behind _ names w t hnames hmark hword hw hbound =>
      have hfront := hmark.front_eq rfl (.inr (by decide))
      have hlength := hnames.length_le
      have hlength' := hmark.length_le
      have hlength'' := hword.length_lt
      have hnames := gets_annotations hnames (Nat.le_of_lt hn) (front_ne hfront (by decide))
      have hkeyword := reads_keywordOf (reads_word_at hword) hw
      have hbound : Gets (wildcardBound (Nested.levels n)) more t rest :=
        hkeyword.gets.bind (hT.gets hbound (by omega) hstops)
      refine (hnames.bind ?_).orElse
      exact (reads_mark_at rfl (by decide) hmark).gets.bind
        (hbound.maybe.bind (reads_pure (TypeSyntax.wildcard names (some t)) rest).gets)

theorem getsAll_further {types : List TypeSyntax} (h : FurtherAt T cs types rest)
    (hn : 2 * cs.length < n) (hrest : front rest = some '>') :
    (front cs = some ',' ∨ front cs = some '>') ∧
      GetsAll (do symbol ","; typeArgument (Nested.levels n)) cs types rest := by
  induction h with
  | nil =>
      exact ⟨.inr hrest, .nil (bind_none (symbol_none rfl (front_ne hrest (by decide))))⟩
  | @cons cs mid more rest t types hcomma hfirst _ ih =>
      have hlength : 1 + mid.length ≤ cs.length := hcomma.length_le
      have hlength' := hfirst.length_le hT.length
      obtain ⟨hfront, hall⟩ := ih (by omega) hrest
      refine ⟨.inl (hcomma.front_eq rfl (.inr (by decide))), .cons ?_ (by omega) hall⟩
      exact (reads_mark_at rfl (by decide) hcomma).gets.bind
        (gets_typeArgument hT hfirst (by omega) hfront)

omit hT in
theorem typeArgument_none_at (h : front cs = some '>') :
    typeArgument (Nested.levels n) cs = none := by
  have hat : front cs ≠ some '@' := front_ne h (by decide)
  unfold typeArgument
  rw [orElse_none]
  · exact type_none n (notStart_of_front h (by decide)) hat
  · exact (reads_annotations_none _ hat).bind_none
      (bind_none (symbol_none rfl (front_ne h (by decide))))

theorem gets_clause {types? : Option (List TypeSyntax)} (h : ClauseAt T cs types? rest)
    (hn : 2 * cs.length ≤ n) (hrest : types? = none → front rest ≠ some '<') :
    Gets (maybe (typeArguments (Nested.levels n))) cs types? rest := by
  cases h with
  | none => exact (reads_maybe_none (typeArguments_none _ (hrest rfl))).gets
  | empty hopen hclose =>
      have hnone : commaSeparated (typeArgument (Nested.levels n)) _ = none :=
        bind_none (typeArgument_none_at (hclose.front_eq rfl (.inr (by decide))))
      have hclause : Reads (typeArguments (Nested.levels n)) cs [] rest :=
        (reads_mark_at rfl (by decide) hopen).bind ((reads_maybe_none hnone).bind
          ((reads_mark_at rfl (by decide) hclose).bind (reads_pure _ rest)))
      exact hclause.gets.maybe
  | @arguments mid more behind _ t types hopen hfirst hfurther hclose =>
      have hlength : 1 + mid.length ≤ cs.length := hopen.length_le
      have hlength' := hfirst.length_le hT.length
      have hend := hclose.front_eq rfl (.inr (by decide))
      obtain ⟨hfront, hall⟩ := getsAll_further (n := n) hT hfurther (by omega) hend
      have hlist : Gets (commaSeparated (typeArgument (Nested.levels n))) mid (t :: types) behind :=
        (gets_typeArgument hT hfirst (by omega) hfront).bind
          (hall.many.bind (reads_pure _ behind).gets)
      have hclause : Gets (typeArguments (Nested.levels n)) cs (t :: types) rest :=
        (reads_mark_at rfl (by decide) hopen).gets.bind (hlist.maybe.bind
          ((reads_mark_at rfl (by decide) hclose).gets.bind (reads_pure _ rest).gets))
      exact hclause.maybe

omit hT in
theorem laterSegment_none (h : EndsSegments cs) : laterSegment (Nested.levels n) [] cs = none := by
  by_cases hdot : front cs = some '.'
  · obtain ⟨more, hmore⟩ := List.head?_eq_some_iff.1 hdot
    have hfront := h.segment more hmore
    have hname : name [] more = none := bind_none (word_none (notStart_of_front hfront (by decide)))
    exact (reads_symbol hmore).bind_none
      ((reads_annotations_none _ (front_ne hfront (by decide))).bind_none (bind_none hname))
  · exact bind_none (symbol_none rfl hdot)

omit hT in
theorem clause_ends {segments : List Segment} (h : SegmentsAt T cs segments rest)
    (hrest : EndsSegments rest) : front cs ≠ some '<' := by
  cases h with
  | nil => exact hrest.clause
  | cons hdot => exact front_ne (hdot.front_eq rfl (.inr (by decide))) (by decide)

theorem gets_segmentClause {types? : Option (List TypeSyntax)} {more : List Char}
    {segments : List Segment} (h : ClauseAt T cs types? more)
    (hmore : SegmentsAt T more segments rest) (hn : 2 * cs.length ≤ n)
    (hrest : EndsSegments rest) :
    Gets (maybe (typeArguments (Nested.levels n))) cs types? more :=
  gets_clause hT h hn fun _ => clause_ends hmore hrest

theorem getsAll_segments {segments : List Segment} (h : SegmentsAt T cs segments rest)
    (hn : 2 * cs.length ≤ n) (hrest : EndsSegments rest) :
    GetsAll (laterSegment (Nested.levels n) []) cs segments rest := by
  induction h with
  | nil => exact .nil (laterSegment_none hrest)
  | @cons cs mid more behind next rest names w types? segments hdot hnames hword hargs hmore ih =>
      have hlength : 1 + mid.length ≤ cs.length := hdot.length_le
      have hlength' := hnames.length_le
      have hlength'' := hword.length_lt
      have hnext := hargs.length_le hT.length
      have hnames := gets_annotations (n := n) hnames (by omega) (hword.front_ne (by decide))
      have hname := reads_name (reads_word_at hword) (List.not_mem_nil (a := w))
      have hclause := gets_segmentClause (n := n) hT hargs hmore (by omega) hrest
      refine .cons ?_ (by omega) (ih (by omega) hrest)
      exact (reads_mark_at rfl (by decide) hdot).gets.bind (hnames.bind (hname.gets.bind
        (hclause.bind (reads_pure (Segment.mk names w types?) next).gets)))

theorem gets_simpleType {keywords : List String} {t : TypeSyntax}
    (h : SimpleTypeAt T keywords cs t rest) (hn : 2 * cs.length ≤ n) (hrest : EndsSegments rest) :
    Gets (simpleType (Nested.levels n) keywords) cs t rest := by
  cases h with
  | void hword =>
      have hvoid : "void" ∈ Keyword.types := List.mem_cons_self
      have hkeyword := reads_keywordOf (reads_word_at hword) hvoid
      exact (hkeyword.bind (reads_pure TypeSyntax.void rest)).orElse.gets
  | @primitive _ w hword hw =>
      have hkeyword := reads_keywordOf (reads_word_at hword) (List.mem_cons_of_mem "void" hw)
      have hvoid : w ≠ "void" := by
        rintro rfl
        exact absurd hw (by decide)
      refine (hkeyword.bind ?_).orElse.gets
      rw [if_neg hvoid]
      exact reads_pure _ rest
  | @dotted mid more _ w types? segments hword hfree hargs hmore =>
      have hlength := hword.length_lt
      have hlength' := hargs.length_le hT.length
      have hnone := keywordOf_none (reads_word_at hword)
        fun hmem => hfree (List.mem_append_left keywords hmem)
      have hclause := gets_segmentClause (n := n) hT hargs hmore (by omega) hrest
      have hfirst : Gets (firstSegment (Nested.levels n) (Keyword.types ++ keywords)) cs
          (.mk [] w types?) more :=
        (reads_name (reads_word_at hword) hfree).gets.bind (hclause.bind (reads_pure _ more).gets)
      have hlater := (getsAll_segments (n := n) hT hmore (by omega) hrest).many
      exact gets_orElse (bind_none hnone) (hfirst.bind (hlater.bind (reads_pure _ rest).gets))

theorem gets_bareType {keywords : List String} {t : TypeSyntax}
    (h : BareTypeAt T keywords cs t rest) (hn : 2 * cs.length ≤ n) (hrest : Stops rest) :
    Gets (bareType (Nested.levels n) keywords) cs t rest := by
  cases h with
  | simple h =>
      have hlength := h.length_le hT.length
      have ht := gets_simpleType (n := n) hT h hn hrest.toEndsSegments
      have hnone := gets_brackets (n := n) .nil (by omega) hrest.annotation hrest.brackets
      exact ht.bind (hnone.bind (reads_pure t rest).gets)
  | @array mid _ element b bs helement hpairs =>
      have hlength := helement.length_le hT.length
      have hends : EndsSegments mid := hpairs.front_of_cons.elim
        (fun h => endsSegments_of_front h (by decide) (by decide))
        fun h => endsSegments_of_front h (by decide) (by decide)
      have helement := gets_simpleType (n := n) hT helement hn hends
      have hpairs := gets_brackets (n := n) hpairs (by omega) hrest.annotation hrest.brackets
      exact helement.bind (hpairs.bind (reads_pure _ rest).gets)

theorem gets_type {keywords : List String} {t : TypeSyntax} (h : TypeAt T keywords cs t rest)
    (hn : 2 * cs.length ≤ n) (hrest : Stops rest) :
    Gets (type (Nested.levels n) keywords) cs t rest := by
  unfold type typeAmong
  cases h with
  | bare h =>
      have hat := front_ne_of_start h.front_eq (d := '@') (by decide)
      exact (reads_annotations_none _ hat).gets.bind (gets_bareType hT h hn hrest)
  | @annotated mid more _ a names t hfirst hnames h =>
      have hlength := hfirst.length_lt
      have hlength' := hnames.length_le
      have hat := front_ne_of_start h.front_eq (d := '@') (by decide)
      have hall := gets_annotations (n := n) (.cons hfirst hnames) hn hat
      have hbare := gets_bareType (n := n) hT h (by omega) hrest
      refine hall.bind ?_
      cases names with
      | nil => exact hbare.bind (reads_pure _ rest).gets
      | cons b names => exact hbare.bind (reads_pure _ rest).gets

end Parser

theorem areRead_nested (depth : Nat) : AreRead (NestedTypeAt depth) := by
  induction depth with
  | zero => exact ⟨nofun, nofun, nofun⟩
  | succ depth ih =>
      -- a level of nesting goes with each clause, and so does the character that opens it
      refine ⟨TypeAt.length_le ih.length, TypeAt.begins, fun {cs rest t n} h hn hrest => ?_⟩
      cases n with
      | zero => omega
      | succ n => exact Parser.gets_type ih h (by omega) hrest

end

end BridgeTypings.Java
