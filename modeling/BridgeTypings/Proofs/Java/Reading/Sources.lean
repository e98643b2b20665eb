import BridgeTypings.Exposure
import BridgeTypings.Proofs.Java.Reading.Members

namespace BridgeTypings

open Java Java.Parser Text.Parser TypeExpr

namespace Java.Parser

def markedSource (t : TypeExpr) : List Char :=
  ['c', 'l', 'a', 's', 's'] ++ markedClass t

def classOf (s : TypeSyntax) : TypeDeclaration :=
  .mk (.classHeading none []) "X" [fieldOf s] []

theorem front_markedSource (t : TypeExpr) : front (markedSource t) = some 'c' :=
  rfl

theorem plainModifier_markedSource (t : TypeExpr) : plainModifier (markedSource t) = none :=
  rfl

theorem reads_class (t : TypeExpr) : Reads (keyword "class") (markedSource t) () (markedClass t) :=
  rfl

section

variable {t : TypeExpr} (h : t.Shaped IsJavaName) {n : Nat} (hn : t.spell.length ≤ n)

include h hn

theorem localType_markedSource : ∃ s : TypeSyntax, s.read = .ok t ∧
    localType (Nested.levels (n + 1)) (markedSource t) = some ⟨(), [classOf s], []⟩ := by
  obtain ⟨s, hs, hclass⟩ := reads_classRest h hn
  have hmodifiers : Reads (modifiers (Nested.levels (n + 1)) true) (markedSource t) []
      (markedSource t) :=
    (reads_many_none (modifier_none _ (plainModifier_markedSource t)
      (by rw [front_markedSource]; decide))).bind (reads_pure _ _)
  have htype : Reads (typeRest (Nested.levels (n + 1)) .classType) (markedSource t)
      (.type (.classHeading none []) "X" [fieldOf s]) [] :=
    ((reads_class t).bind hclass).orElse
  have hreported : reported (do
      let _ ← modifiers (Nested.levels (n + 1)) true
      typeRest (Nested.levels (n + 1)) .classType) (markedSource t) =
        some ⟨.other, [classOf s], []⟩ :=
    reported_type (hmodifiers.bind htype)
  exact ⟨s, hs, reports_bind hreported (reads_pure () [])⟩

theorem compoundStatement_markedSource : ∃ s : TypeSyntax, s.read = .ok t ∧
    compoundStatement (Nested.levels (n + 1)) (markedSource t) = some ⟨(), [classOf s], []⟩ := by
  obtain ⟨s, hs, htype⟩ := localType_markedSource h hn
  refine ⟨s, hs, ?_⟩
  unfold compoundStatement
  -- fourteen alternatives stand before the declaration of a type, and none begins with `class`
  iterate 14 refine (orElse_none rfl).trans ?_
  exact orElse_some htype

theorem sourceItem_markedSource : ∃ s : TypeSyntax, s.read = .ok t ∧
    sourceItem (Nested.levels (n + 2)) (markedSource t) = some ⟨(), [classOf s], []⟩ := by
  obtain ⟨s, hs, hcompound⟩ := compoundStatement_markedSource h hn
  have hsemicolon : symbol ";" (markedSource t) = none := rfl
  have hform : statementForm (Nested.levels (n + 1)) (markedSource t) =
      some ⟨.other, [classOf s], []⟩ :=
    (orElse_none (bind_none hsemicolon)).trans
      (orElse_some (reports_bind hcompound (reads_pure _ _)))
  have hspelled : spelled (statementForm (Nested.levels (n + 1))) (markedSource t) =
      some ⟨(.other, String.ofList (markedSource t)), [classOf s], []⟩ := by
    refine (reads_gap _).bind_eq.trans ?_
    rw [show skipGap (markedSource t) = markedSource t from rfl, withText, hform]
    simp
  have hstatement : (Nested.levels (n + 2)).statement (markedSource t) =
      some ⟨.other (String.ofList (markedSource t)), [classOf s], []⟩ :=
    reports_bind hspelled (reads_pure _ _)
  exact ⟨s, hs, orElse_some (reports_bind hstatement (reads_pure _ _))⟩

theorem source_markedSource : ∃ s : TypeSyntax, s.read = .ok t ∧
    source (Nested.levels (n + 2)) (markedSource t) = some ⟨(), [classOf s], []⟩ := by
  obtain ⟨s, hs, hitem⟩ := sourceItem_markedSource h hn
  refine ⟨s, hs, ?_⟩
  have hnone : sourceItem (Nested.levels (n + 2)) [] = none := rfl
  have hmany : many (sourceItem (Nested.levels (n + 2))) (markedSource t) =
      some ⟨[()], [classOf s], []⟩ := by
    have hrest : Reads (repeated (sourceItem (Nested.levels (n + 2)))
        (['l', 'a', 's', 's'] ++ markedClass t).length) [] [] [] :=
      ReadsAll.repeated (.nil hnone) (Nat.zero_le _)
    exact orElse_some (reports_bind hitem (hrest.bind (reads_pure _ _)))
  exact reports_bind hmany rfl

end

end Java.Parser

namespace Exposure

def fieldSource (t : TypeExpr) : String :=
  "class X \x7b @PhonkField " ++ t.spelling ++ " f; \x7d"

theorem toList_fieldSource (t : TypeExpr) : (fieldSource t).toList = markedSource t := by
  -- over variables: a rewrite among the texts themselves would compute them
  have happend {a b c : String} {as bs cs : List Char} (ha : a.toList = as) (hb : b.toList = bs)
      (hc : c.toList = cs) : (a ++ b ++ c).toList = as ++ bs ++ cs := by
    rw [String.toList_append, String.toList_append, ha, hb, hc]
  have hfront : "class X \x7b @PhonkField ".toList =
      ['c', 'l', 'a', 's', 's'] ++ [' ', 'X', ' ', '\x7b'] ++ markedField [] := by
    decide +kernel
  have hend : " f; \x7d".toList = fieldEnd := by
    decide +kernel
  refine (happend hfront t.toList_spelling hend).trans ?_
  simp only [markedSource, markedClass, markedField, List.cons_append,
    List.nil_append]

theorem parse_fieldSource {t : TypeExpr} (h : t.Shaped IsJavaName) :
    ∃ s : TypeSyntax, s.read = .ok t ∧ Source.parse (fieldSource t) = some ⟨[classOf s]⟩ := by
  have hmark : withoutMark (markedSource t) = markedSource t := rfl
  have hlength : t.spell.length ≤ 2 * (markedSource t).length := by
    simp only [markedSource, markedClass, markedField, List.length_append, List.length_cons]
    omega
  obtain ⟨s, hs, hsource⟩ := source_markedSource h hlength
  refine ⟨s, hs, ?_⟩
  unfold Source.parse
  simp only [toList_fieldSource, hmark, hsource]
  rfl

section

variable {s : TypeSyntax} {t : TypeExpr} (hs : s.read = .ok t)

include hs

theorem result_exposed_field :
    (exposed {} "X" (fieldOf s)).result = .ok (some ("f", .field t)) := by
  have hdeclared : readDeclared s ⟨"f", []⟩ = .ok t := by
    unfold readDeclared
    rw [hs]
    exact congrArg Except.ok (TypeExpr.withDimensions_nil t)
  have hmarked : isMarked ["PhonkField"] "PhonkField" = true := by
    decide +kernel
  unfold exposed fieldOf
  simp only [hmarked, if_true, hdeclared]
  rfl

theorem result_declaration_class :
    (declaration {} (classOf s)).result = .ok ⟨.classKind [], none, [("f", .field t)]⟩ := by
  have hattributes : (attributes {} "X" [fieldOf s]).result = .ok [("f", .field t)] := by
    rw [attributes, Run.result_bind, result_exposed_field hs]
    rfl
  change ((attributes {} "X" [_] >>= fun _ => _ : Run Declaration)).result = _
  rw [Run.result_bind, hattributes]
  rfl

end

theorem collect_fieldSource {t : TypeExpr} (h : t.Shaped IsJavaName) :
    (collect (fieldSource t) {}).result =
      .ok ("X", ⟨.classKind [], none, [("f", .field t)]⟩) := by
  obtain ⟨s, hs, hparse⟩ := parse_fieldSource h
  unfold collect
  rw [hparse]
  change ((declaration {} (classOf s) >>= fun d => _ : Run (String × Declaration))).result = _
  rw [Run.result_bind, result_declaration_class hs]
  rfl

def nestedEntry : TypeExpr :=
  let pair : TypeExpr := .generic "Pair" [.array (.primitive "int" []) 1, .plain "T"]
  let entry : TypeExpr := .generic "Entry" [.plain "V"]
  .array (.named "Map" (some [.plain "Text", .generic "List" [pair]]) (some entry) []) 2

theorem collect_nestedEntry : nestedEntry.Shaped IsJavaName ∧
    (collect ("class X \x7b @PhonkField Map<Text, List<Pair<int[], T>>>.Entry<V>[][] f; \x7d")
      {}).result = .ok ("X", ⟨.classKind [], none, [("f", .field nestedEntry)]⟩) := by
  have hnames : ∀ name ∈ ["Map", "Text", "List", "Pair", "T", "Entry", "V"], IsJavaName name := by
    decide +kernel
  simp only [List.forall_mem_cons] at hnames
  obtain ⟨hmap, htext, hlist, hpair, ht, hentry, hv, -⟩ := hnames
  have hint : (array (.primitive "int" []) 1).Shaped IsJavaName := .primitive 1 (by decide)
  have hpairs : (generic "Pair" [.array (.primitive "int" []) 1, .plain "T"]).Shaped IsJavaName :=
    shaped_generic hpair (by simpa using ⟨hint, shaped_plain ht⟩)
  have hlists : (generic "List" [_]).Shaped IsJavaName :=
    shaped_generic hlist (by simpa using hpairs)
  have hshaped : nestedEntry.Shaped IsJavaName := by
    refine @Shaped.chain _ ⟨"Map", some _⟩ [⟨"Entry", some _⟩] 2 ?_ ?_ (.inr rfl)
    · simp [hmap, hentry]
    · simpa using ⟨⟨shaped_plain htext, hlists⟩, shaped_plain hv⟩
  have hspelled : fieldSource nestedEntry =
      "class X \x7b @PhonkField Map<Text, List<Pair<int[], T>>>.Entry<V>[][] f; \x7d" := by
    decide +kernel
  have hcollect := collect_fieldSource hshaped
  rw [hspelled] at hcollect
  exact ⟨hshaped, hcollect⟩

end Exposure

end BridgeTypings
