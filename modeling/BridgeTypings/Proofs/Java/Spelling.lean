import BridgeTypings.Proofs.Java.Shape

namespace BridgeTypings

open Java

namespace Java

def Keyword.ofLanguage : List String :=
  ["abstract", "assert", "boolean", "break", "byte", "case", "catch", "char", "class", "const",
    "continue", "default", "do", "double", "else", "enum", "extends", "final", "finally", "float",
    "for", "goto", "if", "implements", "import", "instanceof", "int", "interface", "long", "native",
    "new", "package", "private", "protected", "public", "return", "short", "static", "strictfp",
    "super", "switch", "synchronized", "this", "throw", "throws", "transient", "try", "void",
    "volatile", "while", "_", "true", "false", "null", "exports", "module", "open", "opens",
    "permits", "provides", "record", "requires", "sealed", "to", "transitive", "uses", "var",
    "when", "with", "yield"]

structure IsJavaName (name : String) : Prop where
  identifier : isIdentifier name = true
  free : name ∉ Keyword.ofLanguage

instance (name : String) : Decidable (IsJavaName name) :=
  decidable_of_iff (isIdentifier name = true ∧ name ∉ Keyword.ofLanguage)
    ⟨fun h => ⟨h.1, h.2⟩, fun h => ⟨h.identifier, h.free⟩⟩

end Java

def Dimension.spell : Dimension → List Char
  | .unsized => ['[', ']']
  | .sized text => '[' :: text.toList ++ [']']

namespace TypeExpr

mutual

def spell : TypeExpr → List Char
  | .primitive name dimensions => name.toList ++ dimensions.flatMap Dimension.spell
  | .named name arguments qualifier dimensions =>
      name.toList ++ spellClause arguments ++ spellQualifier qualifier ++
        dimensions.flatMap Dimension.spell

def spellClause : Option (List TypeExpr) → List Char
  | none => []
  | some [] => ['<', '>']
  | some (t :: rest) => '<' :: spell t ++ spellFurther rest ++ ['>']

def spellFurther : List TypeExpr → List Char
  | [] => []
  | t :: rest => ',' :: ' ' :: spell t ++ spellFurther rest

def spellQualifier : Option TypeExpr → List Char
  | none => []
  | some t => '.' :: spell t

end

def spelling (t : TypeExpr) : String :=
  String.ofList t.spell

theorem toList_spelling (t : TypeExpr) : t.spelling.toList = t.spell :=
  String.toList_ofList

example : (array (.named "A" (some [plain "B", plain "C"]) (some (generic "D" [plain "E"])) []) 2).spelling =
    "A<B, C>.D<E>[][]" := by
  decide +kernel

theorem spell_array (t : TypeExpr) (count : Nat) :
    (t.array count).spell = t.spell ++ (List.replicate count ['[', ']']).flatten := by
  have hflat : (List.replicate count Dimension.unsized).flatMap Dimension.spell =
      (List.replicate count ['[', ']']).flatten := by
    rw [List.flatMap_def, List.map_replicate]
    rfl
  cases t with
  | primitive => simp [array, withDimensions, spell, hflat]
  | named => simp [array, withDimensions, spell, hflat]

def spellSegment (s : NamedSegment) : List Char :=
  s.name.toList ++ spellClause s.arguments

theorem spell_nest (first : NamedSegment) (rest : List NamedSegment) :
    (NamedSegment.chain.nest first rest).spell =
      spellSegment first ++ rest.flatMap (fun s => '.' :: spellSegment s) := by
  induction rest generalizing first with
  | nil => simp [NamedSegment.chain.nest, spell, spellQualifier, spellSegment]
  | cons second rest ih =>
      simp [NamedSegment.chain.nest, spell, spellQualifier, spellSegment, ih]

theorem length_spell_le_further {types : List TypeExpr} {t : TypeExpr} (h : t ∈ types) :
    t.spell.length ≤ (spellFurther types).length := by
  induction types with
  | nil => cases h
  | cons u rest ih =>
      simp only [spellFurther, List.cons_append, List.length_cons, List.length_append]
      rcases List.mem_cons.1 h with rfl | h
      · omega
      · have := ih h
        omega

theorem length_spell_lt_clause {types : List TypeExpr} {t : TypeExpr} (h : t ∈ types) :
    t.spell.length < (spellClause (some types)).length := by
  cases types with
  | nil => cases h
  | cons u rest =>
      simp only [spellClause, List.cons_append, List.length_cons, List.length_append]
      rcases List.mem_cons.1 h with rfl | h
      · omega
      · have := length_spell_le_further h
        omega

theorem length_clause_le_chain {segments : List NamedSegment} {s : NamedSegment}
    (h : s ∈ segments) : (spellClause s.arguments).length ≤
      (segments.flatMap (fun s => '.' :: spellSegment s)).length := by
  induction segments with
  | nil => cases h
  | cons u rest ih =>
      simp only [List.flatMap_cons, List.length_append, List.length_cons, spellSegment]
      rcases List.mem_cons.1 h with rfl | h
      · omega
      · have := ih h
        simp only [spellSegment] at this
        omega

end TypeExpr

end BridgeTypings
