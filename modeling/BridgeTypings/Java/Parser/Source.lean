import BridgeTypings.Java.Parser.Statement

/-!
The parsers of all levels of nesting are built from the innermost outwards; a text is never
nested deeper than twice its length.
-/

namespace BridgeTypings.Java

def Nested.none : Nested where
  type := fun _ => Text.Parser.fail
  operand := fun _ => Text.Parser.fail
  expression := fun _ => Text.Parser.fail
  recordPattern := Text.Parser.fail
  initializer := Text.Parser.fail
  elementValue := Text.Parser.fail
  statement := Text.Parser.fail
  block := Text.Parser.fail
  members := fun _ => Text.Parser.fail

def Nested.around (inner : Nested) : Nested where
  type := Parser.type inner
  operand := Parser.operand inner
  expression := Parser.expression inner
  recordPattern := Parser.recordPattern inner
  initializer := Parser.initializer inner
  elementValue := Parser.elementValue inner
  statement := Parser.statement inner
  block := Parser.block inner
  members := Parser.members inner

def Nested.levels : Nat → Nested
  | 0 => Nested.none
  | n + 1 => (Nested.levels n).around

namespace Parser

open Text.Parser

def freeMethodRest (inner : Nested) (names : List AnnotationName) (keywords : List String) :
    Parser Declared :=
  genericMethod inner names
    <|> (do
      let t ← bareType inner keywords
      methodRest inner names t (← name ["_"]))

def freeMethod (inner : Nested) : Parser Unit := do
  let _ ← reported (do
    if ← ahead modifierStart then
      require (!(← ahead (annotatedKeyword inner Keyword.annotated)))
      freeMethodRest inner (← modifiers inner true) Keyword.declarations
    else
      freeMethodRest inner [] Keyword.statements)

def sourceItem (inner : Nested) : Parser Unit :=
  (do let _ ← inner.statement) <|> freeMethod inner

def source (inner : Nested) : Parser Unit := do
  let _ ← many (sourceItem inner)
  gap
  atEnd

end Parser

structure Source where
  declarations : List TypeDeclaration

def Source.preorder (s : Source) : List TypeDeclaration :=
  TypeDeclaration.preorderAll s.declarations

def withoutMark : List Char → List Char
  | c :: cs => if c.toNat = 0xFEFF then cs else c :: cs
  | [] => []

def Source.parse (text : String) : Option Source :=
  let cs := withoutMark text.toList
  (Parser.source (Nested.levels (2 * cs.length + 2)) cs).map (fun p => ⟨p.found⟩)

end BridgeTypings.Java
