import BridgeTypings.Proofs.Output.Names
import BridgeTypings.Proofs.Output.TypeLayout
import Mathlib.Data.List.Induction

namespace BridgeTypings

open Emission Java Text

/--
`T ::= NAME ("." NAME)* ("<" T (", " T)* ">")? ("[]")*`, where a name is an identifier as in the
sources.
-/
inductive TypeReference : String → Prop
  | name {names : List String} :
      names ≠ [] → (∀ n ∈ names, isIdentifier n = true) → TypeReference (".".intercalate names)
  | generic {names arguments : List String} :
      names ≠ [] → (∀ n ∈ names, isIdentifier n = true) →
      arguments ≠ [] → (∀ a ∈ arguments, TypeReference a) →
      TypeReference (".".intercalate names ++ ("<" ++ ", ".intercalate arguments ++ ">"))
  | array {text : String} : TypeReference text → TypeReference (text ++ "[]")

namespace TypeExpr

def IsExpressible : TypeExpr → Prop
  | .primitive _ _ => True
  | .named name arguments qualifier _ =>
      (∀ types ∈ arguments, types ≠ []) ∧ (arguments = none ∨ qualifier = none) ∧
        (name = "NativeArray" → arguments = none ∧ qualifier = none)

instance : DecidablePred IsExpressible
  | .primitive _ _ => isTrue trivial
  | .named name arguments qualifier _ =>
      inferInstanceAs (Decidable ((∀ types ∈ arguments, types ≠ []) ∧
        (arguments = none ∨ qualifier = none) ∧
        (name = "NativeArray" → arguments = none ∧ qualifier = none)))

end TypeExpr

namespace Emission

open TypeExpr

def Suffix.Before : Suffix → Suffix → Prop
  | .member _, _ => True
  | _, .brackets => True
  | _, _ => False

inductive Layout.IsReference : Layout → Prop
  | mk {word : String} {behind : List Suffix} :
      isIdentifier word = true → behind.Pairwise Suffix.Before →
      (∀ w, .member w ∈ behind → isIdentifier w = true) →
      (∀ arguments, .clause arguments ∈ behind → arguments ≠ []) →
      (∀ arguments, .clause arguments ∈ behind → ∀ l ∈ arguments, IsReference l) →
      IsReference (.mk word behind)

theorem isWord_of_identifier {name : String} (h : isIdentifier name = true) : IsWord name where
  nonempty := by
    rintro rfl
    exact absurd h (by decide)
  plain := isPlain_of_identifier h

def Suffix.Refers : Suffix → Prop
  | .clause arguments => arguments ≠ [] ∧ ∀ l ∈ arguments, l.IsReference
  | .member w => isIdentifier w = true
  | .brackets => True

namespace Layout

theorem isReference_iff {word : String} {behind : List Suffix} :
    (mk word behind).IsReference ↔ isIdentifier word = true ∧ behind.Pairwise Suffix.Before ∧
      ∀ s ∈ behind, s.Refers := by
  constructor
  · rintro ⟨hword, hpairwise, hmembers, hclauses, harguments⟩
    refine ⟨hword, hpairwise, fun s hs => ?_⟩
    cases s with
    | clause arguments => exact ⟨hclauses arguments hs, harguments arguments hs⟩
    | member w => exact hmembers w hs
    | brackets => trivial
  · rintro ⟨hword, hpairwise, hbehind⟩
    exact .mk hword hpairwise (fun w hw => hbehind (.member w) hw)
      (fun arguments hclause => (hbehind (.clause arguments) hclause).1)
      fun arguments hclause => (hbehind (.clause arguments) hclause).2

theorem IsReference.worded {l : Layout} (h : l.IsReference) : l.Worded := by
  induction h with
  | mk hword _ hmembers _ _ ih =>
      exact .mk (isWord_of_identifier hword) (fun w hw => isWord_of_identifier (hmembers w hw)) ih

theorem IsReference.concat {word : String} {behind : List Suffix} {s : Suffix}
    (h : (Layout.mk word behind).IsReference) (hbefore : ∀ s' ∈ behind, s'.Before s)
    (hs : s.Refers) : (Layout.mk word (behind ++ [s])).IsReference := by
  obtain ⟨hword, hpairwise, hbehind⟩ := isReference_iff.1 h
  refine isReference_iff.2 ⟨hword, List.pairwise_append.2 ⟨hpairwise, List.pairwise_singleton _ _,
    ?_⟩, List.forall_mem_append.2 ⟨hbehind, List.forall_mem_singleton.2 hs⟩⟩
  simpa using hbefore

theorem text_concat (word : String) (behind : List Suffix) (s : Suffix) :
    (mk word (behind ++ [s])).text = (mk word behind).text ++ s.text := by
  have htext := text_extend (.mk word behind) [s]
  rwa [suffixesText, suffixesText, String.append_empty] at htext

theorem text_members (first : String) (rest : List String) :
    (mk first (rest.map .member)).text = ".".intercalate (first :: rest) := by
  induction rest generalizing first with
  | nil => simp [text, suffixesText]
  | cons second rest ih =>
      rw [String.intercalate_cons_cons, ← ih second]
      simp [text, suffixesText, Suffix.text, String.append_assoc]

theorem isReference_members {first : String} {rest : List String}
    (h : ∀ n ∈ first :: rest, isIdentifier n = true) :
    (mk first (rest.map .member)).IsReference := by
  obtain ⟨hfirst, hrest⟩ := List.forall_mem_cons.1 h
  refine isReference_iff.2 ⟨hfirst, ?_, List.forall_mem_map.2 hrest⟩
  rw [List.pairwise_map]
  exact List.pairwise_of_forall fun _ _ => trivial

theorem exists_of_reference {text : String} (h : TypeReference text) :
    ∃ l : Layout, l.IsReference ∧ l.text = text := by
  induction h with
  | @name names hne hnames =>
      obtain ⟨first, rest, rfl⟩ := List.exists_cons_of_ne_nil hne
      exact ⟨_, isReference_members hnames, text_members first rest⟩
  | @generic names arguments hne hnames harguments _ ih =>
      obtain ⟨first, rest, rfl⟩ := List.exists_cons_of_ne_nil hne
      obtain ⟨ls, hls, rfl⟩ := exists_map_eq ih
      have hbefore : ∀ s ∈ rest.map Suffix.member, s.Before (.clause ls) :=
        List.forall_mem_map.2 fun _ _ => trivial
      refine ⟨_, (isReference_members hnames).concat hbefore ⟨by simpa using harguments, hls⟩, ?_⟩
      rw [text_concat, text_members, Suffix.text, layoutTexts_eq_map, String.append_assoc]
  | array _ ih =>
      obtain ⟨⟨word, behind⟩, hl, rfl⟩ := ih
      refine ⟨_, hl.concat (s := .brackets) (fun s _ => ?_) trivial, text_concat _ _ _⟩
      cases s <;> trivial

theorem exists_members {behind : List Suffix} {s : Suffix} (h : ∀ s' ∈ behind, s'.Before s)
    (hs : s ≠ .brackets) (hmembers : ∀ w, .member w ∈ behind → isIdentifier w = true) :
    ∃ names : List String, (∀ n ∈ names, isIdentifier n = true) ∧ names.map .member = behind := by
  refine exists_map_eq fun s' hs' => ?_
  have hbefore := h s' hs'
  cases s' with
  | member w => exact ⟨w, hmembers w hs', rfl⟩
  | clause arguments => cases s <;> simp [Suffix.Before] at hs hbefore
  | brackets => cases s <;> simp [Suffix.Before] at hs hbefore

theorem reference_of_suffixes {word : String} {behind : List Suffix}
    (hword : isIdentifier word = true) (hpairwise : behind.Pairwise Suffix.Before)
    (hmembers : ∀ w, .member w ∈ behind → isIdentifier w = true)
    (harguments : ∀ arguments, .clause arguments ∈ behind →
      arguments ≠ [] ∧ ∀ l ∈ arguments, TypeReference l.text) :
    TypeReference (mk word behind).text := by
  -- the last suffix says what the others can be
  induction behind using List.reverseRecOn with
  | nil =>
      rw [← List.map_nil (f := Suffix.member), text_members]
      exact .name (List.cons_ne_nil _ _) (by simpa using hword)
  | append_singleton front s ih =>
      obtain ⟨hfront, -, hbefore⟩ := List.pairwise_append.1 hpairwise
      simp only [List.forall_mem_singleton] at hbefore
      have hfrontMembers := fun w hw => hmembers w (List.mem_append_left _ hw)
      cases s with
      | clause ls =>
          obtain ⟨hne, hls⟩ := harguments ls (by simp)
          obtain ⟨names, hnames, rfl⟩ := exists_members hbefore (by simp) hfrontMembers
          rw [text_concat, text_members, Suffix.text, layoutTexts_eq_map, String.append_assoc]
          exact .generic (List.cons_ne_nil _ _) (List.forall_mem_cons.2 ⟨hword, hnames⟩)
            (by simpa using hne) (List.forall_mem_map.2 hls)
      | member w =>
          obtain ⟨names, hnames, rfl⟩ := exists_members hbefore (by simp) hfrontMembers
          have hlast : ∀ n ∈ names ++ [w], isIdentifier n = true :=
            List.forall_mem_append.2 ⟨hnames, by simpa using hmembers w (by simp)⟩
          rw [← List.map_singleton (f := Suffix.member), ← List.map_append, text_members]
          exact .name (List.cons_ne_nil _ _) (List.forall_mem_cons.2 ⟨hword, hlast⟩)
      | brackets =>
          rw [text_concat]
          exact .array (ih hfront hfrontMembers fun ls hls =>
            harguments ls (List.mem_append_left _ hls))

theorem IsReference.reference {l : Layout} (h : l.IsReference) : TypeReference l.text := by
  induction h with
  | mk hword hpairwise hmembers hclauses _ ih =>
      exact reference_of_suffixes hword hpairwise hmembers fun ls hls =>
        ⟨hclauses ls hls, ih ls hls⟩

theorem reference_iff {l : Layout} (h : l.Worded) : TypeReference l.text ↔ l.IsReference := by
  constructor
  · intro htext
    obtain ⟨l', hl', heq⟩ := exists_of_reference htext
    rwa [text_inj h hl'.worded heq.symm]
  · exact IsReference.reference

end Layout

def builtinWord (name : String) : Layout :=
  if name = "NativeArray" then .mk "Array" [.clause [.mk "any" []]] else plainWord {} name

theorem text_builtinWord (name : String) :
    (builtinWord name).text = ({} : Renderer).spelling name := by
  unfold builtinWord
  split
  · next h =>
      rw [h]
      decide +kernel
  · exact text_plainWord {} name

theorem isIdentifier_spelling {name : String} (h : isIdentifier name = true)
    (hne : name ≠ "NativeArray") : isIdentifier (({} : Renderer).spelling name) = true := by
  have hmapped : ∀ e ∈ ({} : Renderer).names.entries,
      e.1 = "NativeArray" ∨ isIdentifier e.2 = true := by decide +kernel
  unfold Renderer.spelling
  cases hget : ({} : Renderer).names.get? name with
  | none => exact h
  | some text => exact (hmapped _ (OrderedMap.mem_of_get? hget)).resolve_left hne

theorem before_brackets (s : Suffix) : s.Before .brackets := by
  cases s <;> trivial

theorem isReference_extend_brackets (l : Layout) (ds : List Dimension) :
    (l.extend (bracketsOf ds)).IsReference ↔ l.IsReference := by
  obtain ⟨word, behind⟩ := l
  have hlast : ∀ s ∈ behind, ∀ s' ∈ bracketsOf ds, s.Before s' := fun s _ =>
    List.forall_mem_map.2 fun _ _ => before_brackets s
  have hbrackets : (bracketsOf ds).Pairwise Suffix.Before :=
    List.pairwise_map.2 (List.pairwise_of_forall fun _ _ => before_brackets _)
  have hrefers : ∀ s ∈ bracketsOf ds, s.Refers := List.forall_mem_map.2 fun _ _ => trivial
  rw [Layout.extend, Layout.isReference_iff, Layout.isReference_iff, List.pairwise_append,
    List.forall_mem_append]
  constructor
  · rintro ⟨hword, ⟨hpairwise, -, -⟩, hbehind, -⟩
    exact ⟨hword, hpairwise, hbehind⟩
  · rintro ⟨hword, hpairwise, hbehind⟩
    exact ⟨hword, ⟨hpairwise, hbrackets, hlast⟩, hbehind, hrefers⟩

theorem isReference_asMember {word : String} (hword : isIdentifier word = true) (l : Layout) :
    (Layout.mk word l.asMember).IsReference ↔ l.IsReference := by
  obtain ⟨w, behind⟩ := l
  have hmember : ∀ s ∈ behind, (Suffix.member w).Before s := fun _ _ => trivial
  rw [Layout.asMember, Layout.isReference_iff, Layout.isReference_iff, List.pairwise_cons,
    List.forall_mem_cons]
  constructor
  · rintro ⟨-, ⟨-, hpairwise⟩, hw, hbehind⟩
    exact ⟨hw, hpairwise, hbehind⟩
  · rintro ⟨hw, hpairwise, hbehind⟩
    exact ⟨hword, ⟨hmember, hpairwise⟩, hw, hbehind⟩

theorem isReference_clause {word : String} (hword : isIdentifier word = true) (ls : List Layout)
    {behind : List Suffix} (hbehind : .brackets ∉ behind.head?) :
    (Layout.mk word (.clause ls :: behind)).IsReference ↔
      behind = [] ∧ ls ≠ [] ∧ ∀ l ∈ ls, l.IsReference := by
  rw [Layout.isReference_iff, List.pairwise_cons, List.forall_mem_cons]
  cases behind with
  | nil => simp [hword, Suffix.Refers]
  | cons s rest => cases s <;> simp [Suffix.Before] at hbehind ⊢

theorem brackets_not_mem_head {word : String → Layout} (arguments : Option (List TypeExpr))
    (qualifier : Option TypeExpr) :
    .brackets ∉ (clauseOf word arguments ++ memberOf word qualifier).head? := by
  cases arguments with
  | none =>
      intro h
      obtain ⟨w, hw⟩ := memberOf_head qualifier _ h
      cases hw
  | some types => simp [clauseOf]

theorem builtinWord_native : builtinWord "NativeArray" = .mk "Array" [.clause [.mk "any" []]] :=
  if_pos rfl

theorem builtinWord_of_ne {name : String} (h : name ≠ "NativeArray") :
    builtinWord name = .mk (({} : Renderer).spelling name) [] :=
  if_neg h

theorem isReference_word {word : String} (h : isIdentifier word = true) :
    (Layout.mk word []).IsReference :=
  Layout.isReference_iff.2 ⟨h, .nil, nofun⟩

theorem isReference_builtinWord {name : String} (h : isIdentifier name = true) :
    (builtinWord name).IsReference := by
  by_cases hnative : name = "NativeArray"
  · rw [hnative, builtinWord_native, isReference_clause (by decide) _ (by simp)]
    simpa using isReference_word (by decide)
  · rw [builtinWord_of_ne hnative]
    exact isReference_word (isIdentifier_spelling h hnative)

theorem isReference_named {name : String} {arguments : Option (List TypeExpr)}
    {qualifier : Option TypeExpr} {ds : List Dimension} (hname : isIdentifier name = true) :
    (layoutOf builtinWord (.named name arguments qualifier ds)).IsReference ↔
      IsExpressible (.named name arguments qualifier ds) ∧
        (∀ types ∈ arguments, ∀ t ∈ types, (layoutOf builtinWord t).IsReference) ∧
        ∀ q ∈ qualifier, (layoutOf builtinWord q).IsReference := by
  rw [layoutOf, ← Layout.extend_extend, isReference_extend_brackets]
  by_cases hnative : name = "NativeArray"
  · have hany : (Layout.mk "any" []).IsReference := isReference_word (by decide)
    rw [hnative, builtinWord_native, Layout.extend, List.singleton_append, isReference_clause
      (by decide) _ (brackets_not_mem_head arguments qualifier), List.append_eq_nil_iff,
      memberOf_eq_nil_iff]
    cases arguments <;> cases qualifier <;> simp [clauseOf, IsExpressible, hany]
  · have hidentifier := isIdentifier_spelling hname hnative
    rw [builtinWord_of_ne hnative, Layout.extend, List.nil_append]
    cases arguments with
    | none =>
        cases qualifier with
        | none => simp [clauseOf, memberOf, isReference_word hidentifier, IsExpressible]
        | some q =>
            simp [clauseOf, memberOf, isReference_asMember hidentifier, IsExpressible, hnative]
    | some types =>
        have hmember : .brackets ∉ (memberOf builtinWord qualifier).head? :=
          brackets_not_mem_head none qualifier
        rw [clauseOf, List.singleton_append, isReference_clause hidentifier _ hmember,
          memberOf_eq_nil_iff, layoutsOf_eq_map]
        cases qualifier <;> simp [IsExpressible, hnative]

theorem isReference_layoutOf_iff {t : TypeExpr}
    (h : t.Everywhere fun s => isIdentifier s.name = true) :
    (layoutOf builtinWord t).IsReference ↔ t.Everywhere IsExpressible := by
  induction t using TypeExpr.ind with
  | primitive name ds =>
      rw [layoutOf, isReference_extend_brackets]
      exact ⟨fun _ => .primitive trivial, fun _ => isReference_builtinWord h.here⟩
  | named name arguments qualifier ds iharguments ihqualifier =>
      obtain ⟨hhere, harguments, hqualifier⟩ := everywhere_named.1 h
      have hname : isIdentifier name = true := hhere
      rw [isReference_named hname, everywhere_named]
      refine and_congr_right' (and_congr ?_ ?_)
      · exact forall₄_congr fun types htypes t ht =>
          iharguments types htypes t ht (harguments types htypes t ht)
      · exact forall₂_congr fun q hq => ihqualifier q hq (hqualifier q hq)

theorem reference_layoutOf_iff {e : TypeExpr}
    (h : e.Everywhere fun s => isIdentifier s.name = true) :
    TypeReference (layoutOf builtinWord e).text ↔ e.Everywhere IsExpressible := by
  have hworded : (layoutOf builtinWord e).Worded :=
    worded_layoutOf (everywhere_iff_nodes.2 fun s hs =>
      (isReference_builtinWord (everywhere_iff_nodes.1 h s hs)).worded)
  rw [Layout.reference_iff hworded, isReference_layoutOf_iff h]

theorem read_reference_iff {t : TypeSyntax} (ht : t.Proper) {e : TypeExpr} (h : t.read = .ok e) :
    ∃ text, ({} : Renderer).render (some e) = .ok text ∧
      (TypeReference text ↔ e.Everywhere IsExpressible) := by
  have hread : IsReadType e := (meets_read ht).ok h
  have hprimitive : ∀ name ∈ Keyword.primitives, isIdentifier name = true := by decide
  have hnames : e.Everywhere fun s => isIdentifier s.name = true :=
    hread.everywhere_name hprimitive fun _ hname => hname
  exact ⟨_, renderType_eq text_builtinWord hread.isUnsized, reference_layoutOf_iff hnames⟩

def dottedType (name : String) (arguments : Option (List TypeSyntax)) (rest : List Segment) :
    TypeSyntax :=
  .dotted ⟨[], name, arguments⟩ rest

theorem proper_dottedType {name : String} {arguments : Option (List TypeSyntax)}
    {rest : List Segment} (hname : isIdentifier name = true)
    (harguments : ∀ types ∈ arguments, ∀ t ∈ types, t.Proper) (hrest : ∀ s ∈ rest, s.Proper) :
    (dottedType name arguments rest).Proper :=
  .of_segments ⟨hname, harguments⟩ hrest

def innerSegment : Segment :=
  ⟨[], "Inner", none⟩

theorem proper_innerSegment : innerSegment.Proper :=
  ⟨by decide, nofun⟩

/-- `Map<Outer.Inner, NativeArray[]>` -/
def mapType : TypeSyntax :=
  dottedType "Map" (some [dottedType "Outer" none [innerSegment],
    .array (dottedType "NativeArray" none []) [⟨[], none⟩]]) []

theorem mapType_reference :
    ∃ e text, mapType.read = .ok e ∧ ({} : Renderer).render (some e) = .ok text ∧
      TypeReference text := by
  have hproper : mapType.Proper := by
    refine proper_dottedType (by decide) ?_ nofun
    rintro _ ⟨⟩
    refine List.forall_mem_cons.2 ⟨proper_dottedType (by decide) nofun
      (List.forall_mem_singleton.2 proper_innerSegment), List.forall_mem_singleton.2 ?_⟩
    exact .array (proper_dottedType (by decide) nofun nofun) (List.forall_mem_singleton.2 rfl)
  have hread : mapType.read = .ok (.generic "Map"
      [.nested (.plain "Inner") (.plain "Outer"), .array (.plain "NativeArray") 1]) := rfl
  obtain ⟨text, htext, hiff⟩ := read_reference_iff hproper hread
  exact ⟨_, text, hread, htext, hiff.2 (everywhere_iff_nodes.2 (by decide))⟩

/-- `Outer<String>.Inner` -/
def outerType : TypeSyntax :=
  dottedType "Outer" (some [dottedType "String" none []]) [innerSegment]

theorem outerType_not_reference :
    outerType.Proper ∧ ∃ e, outerType.read = .ok e ∧
      e.Everywhere (fun s => ∀ name qualifier ds, s ≠ .named name (some []) qualifier ds) ∧
      ({} : Renderer).render (some e) = .ok "Outer<string>.Inner" ∧
      ¬ TypeReference "Outer<string>.Inner" := by
  have hproper : outerType.Proper := by
    refine proper_dottedType (by decide) ?_ (List.forall_mem_singleton.2 proper_innerSegment)
    rintro _ ⟨⟩
    exact List.forall_mem_singleton.2 (proper_dottedType (by decide) nofun nofun)
  have htext : (layoutOf builtinWord
      (.named "Outer" (some [.plain "String"]) (some (.plain "Inner")) [])).text =
      "Outer<string>.Inner" := by decide +kernel
  refine ⟨hproper, .named "Outer" (some [.plain "String"]) (some (.plain "Inner")) [], rfl, ?_,
    Outcome.eq_ok_of_toOption (by decide +kernel), ?_⟩
  · simp [everywhere_named, TypeExpr.plain]
  · rw [← htext, reference_layoutOf_iff (everywhere_iff_nodes.2 (by decide))]
    exact fun h => absurd h.here (by decide)

end Emission

end BridgeTypings
