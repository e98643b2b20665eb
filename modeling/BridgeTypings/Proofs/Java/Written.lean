import BridgeTypings.Java.Parser.Source
import BridgeTypings.Proofs.Java.Reading.Tokens

/-!
How types are written: the first text begins with what is named, the last is what stands behind it.
A gap can stand before each token, and annotations before a type, before a later segment, before a
pair of brackets and before a wildcard.
-/

namespace BridgeTypings.Java

open Text.Parser

def SymbolAt (text : String) (cs rest : List Char) : Prop :=
  ∃ gap, IsGap gap ∧ cs = gap ++ (text.toList ++ rest)

structure WordAt (w : String) (cs rest : List Char) : Prop where
  identifier : isIdentifier w = true
  written : SymbolAt w cs rest
  closed : ∀ c ∈ rest.head?, isNameChar c = false

structure NameAt (name : AnnotationName) (cs rest : List Char) : Prop where
  dotted : IsDotted name
  written : SymbolAt name cs rest
  closed : ∀ c ∈ rest.head?, isNameChar c = false
  ended : front rest ≠ some '.'

/--
What is read as the arguments of an annotation, at every level of nesting that suffices for a text
of this length.
-/
def ArgumentsAt (cs rest : List Char) : Prop :=
  (∃ text, cs = text ++ rest) ∧ ∀ n, 2 * cs.length ≤ n →
    Gets (Parser.annotationArguments (Nested.levels n)) cs () rest

inductive AnnotationAt : List Char → AnnotationName → List Char → Prop
  | marker {cs mid rest : List Char} {name : AnnotationName} :
      SymbolAt "@" cs mid → NameAt name mid rest → front rest ≠ some '(' → AnnotationAt cs name rest
  | applied {cs mid more rest : List Char} {name : AnnotationName} :
      SymbolAt "@" cs mid → NameAt name mid more → ArgumentsAt more rest → AnnotationAt cs name rest

inductive AnnotationsAt : List Char → List AnnotationName → List Char → Prop
  | nil {cs : List Char} : AnnotationsAt cs [] cs
  | cons {cs mid rest : List Char} {name : AnnotationName} {names : List AnnotationName} :
      AnnotationAt cs name mid → AnnotationsAt mid names rest →
      AnnotationsAt cs (name :: names) rest

inductive BracketsAt : List Char → List Brackets → List Char → Prop
  | nil {cs : List Char} : BracketsAt cs [] cs
  | cons {cs mid more behind rest : List Char} {names : List AnnotationName}
      {bs : List Brackets} :
      AnnotationsAt cs names mid → SymbolAt "[" mid more → SymbolAt "]" more behind →
      BracketsAt behind bs rest → BracketsAt cs (⟨names, none⟩ :: bs) rest

section

variable (T : List Char → TypeSyntax → List Char → Prop)

inductive TypeArgumentAt : List Char → TypeSyntax → List Char → Prop
  | type {cs rest : List Char} {t : TypeSyntax} : T cs t rest → TypeArgumentAt cs t rest
  | wildcard {cs mid rest : List Char} {names : List AnnotationName} :
      AnnotationsAt cs names mid → SymbolAt "?" mid rest →
      TypeArgumentAt cs (.wildcard names none) rest
  | bounded {cs mid more behind rest : List Char} {names : List AnnotationName} {w : String}
      {t : TypeSyntax} :
      AnnotationsAt cs names mid → SymbolAt "?" mid more → WordAt w more behind →
      w ∈ ["extends", "super"] → T behind t rest →
      TypeArgumentAt cs (.wildcard names (some t)) rest

inductive FurtherAt : List Char → List TypeSyntax → List Char → Prop
  | nil {cs : List Char} : FurtherAt cs [] cs
  | cons {cs mid more rest : List Char} {t : TypeSyntax} {types : List TypeSyntax} :
      SymbolAt "," cs mid → TypeArgumentAt T mid t more → FurtherAt more types rest →
      FurtherAt cs (t :: types) rest

inductive ClauseAt : List Char → Option (List TypeSyntax) → List Char → Prop
  | none {cs : List Char} : ClauseAt cs none cs
  | empty {cs mid rest : List Char} :
      SymbolAt "<" cs mid → SymbolAt ">" mid rest → ClauseAt cs (some []) rest
  | arguments {cs mid more behind rest : List Char} {t : TypeSyntax} {types : List TypeSyntax} :
      SymbolAt "<" cs mid → TypeArgumentAt T mid t more → FurtherAt T more types behind →
      SymbolAt ">" behind rest → ClauseAt cs (some (t :: types)) rest

inductive SegmentsAt : List Char → List Segment → List Char → Prop
  | nil {cs : List Char} : SegmentsAt cs [] cs
  | cons {cs mid more behind next rest : List Char} {names : List AnnotationName} {w : String}
      {types? : Option (List TypeSyntax)} {segments : List Segment} :
      SymbolAt "." cs mid → AnnotationsAt mid names more → WordAt w more behind →
      ClauseAt T behind types? next → SegmentsAt next segments rest →
      SegmentsAt cs (.mk names w types? :: segments) rest

inductive SimpleTypeAt (keywords : List String) : List Char → TypeSyntax → List Char → Prop
  | void {cs rest : List Char} : WordAt "void" cs rest → SimpleTypeAt keywords cs .void rest
  | primitive {cs rest : List Char} {w : String} :
      WordAt w cs rest → w ∈ Keyword.primitives → SimpleTypeAt keywords cs (.primitive w) rest
  | dotted {cs mid more rest : List Char} {w : String} {types? : Option (List TypeSyntax)}
      {segments : List Segment} :
      WordAt w cs mid → w ∉ Keyword.types ++ keywords → ClauseAt T mid types? more →
      SegmentsAt T more segments rest →
      SimpleTypeAt keywords cs (.dotted (.mk [] w types?) segments) rest

inductive BareTypeAt (keywords : List String) : List Char → TypeSyntax → List Char → Prop
  | simple {cs rest : List Char} {t : TypeSyntax} :
      SimpleTypeAt T keywords cs t rest → BareTypeAt keywords cs t rest
  | array {cs mid rest : List Char} {t : TypeSyntax} {b : Brackets} {bs : List Brackets} :
      SimpleTypeAt T keywords cs t mid → BracketsAt mid (b :: bs) rest →
      BareTypeAt keywords cs (.array t (b :: bs)) rest

inductive TypeAt (keywords : List String) : List Char → TypeSyntax → List Char → Prop
  | bare {cs rest : List Char} {t : TypeSyntax} :
      BareTypeAt T keywords cs t rest → TypeAt keywords cs t rest
  | annotated {cs mid more rest : List Char} {name : AnnotationName}
      {names : List AnnotationName} {t : TypeSyntax} :
      AnnotationAt cs name mid → AnnotationsAt mid names more → BareTypeAt T [] more t rest →
      TypeAt keywords cs (.annotated (name :: names) t) rest

end

def NestedTypeAt : Nat → List Char → TypeSyntax → List Char → Prop
  | 0 => fun _ _ _ => False
  | depth + 1 => TypeAt (NestedTypeAt depth) []

structure EndsSegments (rest : List Char) : Prop where
  clause : front rest ≠ some '<'
  segment : ∀ more, skipGap rest = '.' :: more → front more = some '.'

structure Stops (rest : List Char) : Prop extends EndsSegments rest where
  annotation : front rest ≠ some '@'
  brackets : front rest ≠ some '['

theorem SymbolAt.length_le {text : String} {cs rest : List Char} (h : SymbolAt text cs rest) :
    text.toList.length + rest.length ≤ cs.length := by
  obtain ⟨gap, -, rfl⟩ := h
  simp only [List.length_append]
  omega

theorem WordAt.length_lt {w : String} {cs rest : List Char} (h : WordAt w cs rest) :
    rest.length < cs.length := by
  have hlength := h.written.length_le
  obtain ⟨c, more, hchars, -⟩ := exists_toList_eq h.identifier
  rw [hchars, List.length_cons] at hlength
  omega

theorem ArgumentsAt.length_le {cs rest : List Char} (h : ArgumentsAt cs rest) :
    rest.length ≤ cs.length := by
  obtain ⟨⟨text, rfl⟩, -⟩ := h
  simp

theorem AnnotationAt.length_lt {cs rest : List Char} {name : AnnotationName}
    (h : AnnotationAt cs name rest) : rest.length < cs.length := by
  cases h with
  | marker hat hname =>
      have hat : 1 + _ ≤ _ := hat.length_le
      have hname := hname.written.length_le
      omega
  | applied hat hname harguments =>
      have hat : 1 + _ ≤ _ := hat.length_le
      have hname := hname.written.length_le
      have harguments := harguments.length_le
      omega

theorem AnnotationsAt.length_le {cs rest : List Char} {names : List AnnotationName}
    (h : AnnotationsAt cs names rest) : rest.length ≤ cs.length := by
  induction h with
  | nil => exact Nat.le_refl _
  | cons hfirst _ ih => exact Nat.le_trans ih (Nat.le_of_lt hfirst.length_lt)

theorem BracketsAt.length_le {cs rest : List Char} {bs : List Brackets}
    (h : BracketsAt cs bs rest) : rest.length ≤ cs.length := by
  induction h with
  | nil => exact Nat.le_refl _
  | cons hnames hopen hclose _ ih =>
      have hnames := hnames.length_le
      have hopen := hopen.length_le
      have hclose := hclose.length_le
      omega

section

variable {T : List Char → TypeSyntax → List Char → Prop} {cs rest : List Char}
  (hT : ∀ {cs t rest}, T cs t rest → rest.length ≤ cs.length)

include hT

theorem TypeArgumentAt.length_le {t : TypeSyntax} (h : TypeArgumentAt T cs t rest) :
    rest.length ≤ cs.length := by
  cases h with
  | type h => exact hT h
  | wildcard hnames hmark =>
      have hnames := hnames.length_le
      have hmark := hmark.length_le
      omega
  | bounded hnames hmark hword _ hbound =>
      have hnames := hnames.length_le
      have hmark := hmark.length_le
      have hword := hword.length_lt
      have hbound := hT hbound
      omega

theorem FurtherAt.length_le {types : List TypeSyntax} (h : FurtherAt T cs types rest) :
    rest.length ≤ cs.length := by
  induction h with
  | nil => exact Nat.le_refl _
  | cons hcomma hfirst _ ih =>
      have hcomma := hcomma.length_le
      have hfirst := hfirst.length_le hT
      omega

theorem ClauseAt.length_le {types? : Option (List TypeSyntax)} (h : ClauseAt T cs types? rest) :
    rest.length ≤ cs.length := by
  cases h with
  | none => exact Nat.le_refl _
  | empty hopen hclose =>
      have hopen := hopen.length_le
      have hclose := hclose.length_le
      omega
  | arguments hopen hfirst hfurther hclose =>
      have hopen := hopen.length_le
      have hfirst := hfirst.length_le hT
      have hfurther := hfurther.length_le hT
      have hclose := hclose.length_le
      omega

theorem SegmentsAt.length_le {segments : List Segment} (h : SegmentsAt T cs segments rest) :
    rest.length ≤ cs.length := by
  induction h with
  | nil => exact Nat.le_refl _
  | cons hdot hnames hword hclause _ ih =>
      have hdot := hdot.length_le
      have hnames := hnames.length_le
      have hword := hword.length_lt
      have hclause := hclause.length_le hT
      omega

theorem SimpleTypeAt.length_le {keywords : List String} {t : TypeSyntax}
    (h : SimpleTypeAt T keywords cs t rest) : rest.length ≤ cs.length := by
  cases h with
  | void hword => exact Nat.le_of_lt hword.length_lt
  | primitive hword => exact Nat.le_of_lt hword.length_lt
  | dotted hword _ hclause hsegments =>
      have hword := hword.length_lt
      have hclause := hclause.length_le hT
      have hsegments := hsegments.length_le hT
      omega

theorem BareTypeAt.length_le {keywords : List String} {t : TypeSyntax}
    (h : BareTypeAt T keywords cs t rest) : rest.length ≤ cs.length := by
  cases h with
  | simple h => exact h.length_le hT
  | array h hbrackets => exact Nat.le_trans hbrackets.length_le (h.length_le hT)

theorem TypeAt.length_le {keywords : List String} {t : TypeSyntax}
    (h : TypeAt T keywords cs t rest) : rest.length ≤ cs.length := by
  cases h with
  | bare h => exact h.length_le hT
  | annotated hfirst hnames h =>
      have hfirst := hfirst.length_lt
      have hnames := hnames.length_le
      have h := h.length_le hT
      omega

end

theorem NestedTypeAt.length_le (depth : Nat) {cs rest : List Char} {t : TypeSyntax}
    (h : NestedTypeAt depth cs t rest) : rest.length ≤ cs.length := by
  induction depth generalizing cs t rest with
  | zero => cases h
  | succ depth ih => exact TypeAt.length_le ih h

end BridgeTypings.Java
