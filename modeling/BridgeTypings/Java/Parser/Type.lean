import BridgeTypings.Java.Keyword
import BridgeTypings.Java.Parser.Basic

namespace BridgeTypings.Java

inductive Body where
  | classType
  | interfaceType
  | annotationType
deriving DecidableEq

inductive OperandForm where
  | name
  | field
  | element
  | other
deriving DecidableEq

structure Operand where
  value : Expression
  form : OperandForm

/--
The parsers for the next level of nesting. A type takes the keywords that its first word cannot be;
an operand takes whether an arrow behind its last name makes that name the parameter of a lambda.
-/
structure Nested where
  type : List String → Parser TypeSyntax
  operand : Bool → Parser Operand
  expression : Bool → Parser Expression
  recordPattern : Parser Unit
  initializer : Parser Unit
  elementValue : Parser Unit
  statement : Parser Statement
  block : Parser (List Statement)
  members : Body → Parser (List Member)

def Nested.body (inner : Nested) (kind : Body) : Parser (List Member) := do
  Parser.symbol "\x7b"
  let ms ← inner.members kind
  Parser.symbol "\x7d"
  return ms

namespace Parser

open Text.Parser

def qualifiedName (keywords : List String) : Parser Unit := do
  let _ ← name keywords
  let _ ← many (do symbol "."; word)

def elementPairs (inner : Nested) : Parser Unit := do
  let _ ← name Keyword.expressions
  symbolBefore "=" ['=']
  inner.elementValue
  let _ ← many (do
    symbol ","
    let _ ← word
    symbol "="
    inner.elementValue)

def annotationArguments (inner : Nested) : Parser Unit := do
  symbol "("
  if ← ahead (do let _ ← name Keyword.expressions; symbolBefore "=" ['=']) then
    elementPairs inner
  else
    let _ ← maybe inner.elementValue
  symbol ")"

def annotationUse (inner : Nested) : Parser AnnotationName := do
  symbol "@"
  let (_, text) ← spelled (qualifiedName [])
  let _ ← maybe (annotationArguments inner)
  return text

def annotations (inner : Nested) : Parser (List AnnotationName) :=
  many (annotationUse inner)

def arrayElementValues (inner : Nested) : Parser Unit := do
  symbol "\x7b"
  let _ ← commaTerminated inner.elementValue
  symbol "\x7d"

def elementValue (inner : Nested) : Parser Unit :=
  arrayElementValues inner
    <|> (do
      let _ ← annotationUse inner
      require (← ahead (symbol "," <|> symbol ")" <|> symbol "\x7d" <|> symbol ";")))
    <|> (do let _ ← inner.expression true)

def plainModifier : Parser Unit :=
  (do let _ ← keywordOf Keyword.modifiers) <|> symbol "non-sealed"

def strictModifier : Parser Unit :=
  (do let _ ← keywordOf Keyword.strictModifiers) <|> symbol "non-sealed"

def modifierStart : Parser Unit :=
  plainModifier <|> symbol "@"

/--
A modifier, by its name if it is an annotation. Where annotation types can be declared, `@interface`
begins one and is no annotation.
-/
def modifier (inner : Nested) (declaresTypes : Bool) : Parser (Option AnnotationName) :=
  (do plainModifier; return none)
    <|> (do
      if declaresTypes then
        require (!(← ahead (symbol "@interface")))
      return some (← annotationUse inner))

def modifiers (inner : Nested) (declaresTypes : Bool) : Parser (List AnnotationName) := do
  let items ← many (modifier inner declaresTypes)
  return items.filterMap id

def brackets (inner : Nested) : Parser (List Brackets) :=
  many (do
    let names ← annotations inner
    symbol "["
    symbol "]"
    return ⟨names, none⟩)

def wildcardBound (inner : Nested) : Parser TypeSyntax := do
  let _ ← keywordOf ["extends", "super"]
  inner.type []

def typeArgument (inner : Nested) : Parser TypeSyntax :=
  (do
    let names ← annotations inner
    symbol "?"
    return .wildcard names (← maybe (wildcardBound inner)))
    <|> inner.type []

def typeArguments (inner : Nested) : Parser (List TypeSyntax) := do
  symbol "<"
  let arguments ← maybe (commaSeparated (typeArgument inner))
  symbol ">"
  return arguments.getD []

def firstSegment (inner : Nested) (keywords : List String) : Parser Segment := do
  let n ← name keywords
  return .mk [] n (← maybe (typeArguments inner))

def laterSegment (inner : Nested) (keywords : List String) : Parser Segment := do
  symbol "."
  let names ← annotations inner
  let n ← name keywords
  return .mk names n (← maybe (typeArguments inner))

def simpleType (inner : Nested) (keywords : List String) : Parser TypeSyntax :=
  (do
    let w ← keywordOf Keyword.types
    return if w = "void" then .void else .primitive w)
    <|> (do
      let first ← firstSegment inner (Keyword.types ++ keywords)
      return .dotted first (← many (laterSegment inner [])))

def bareType (inner : Nested) (keywords : List String) : Parser TypeSyntax := do
  let element ← simpleType inner keywords
  match ← brackets inner with
  | [] => return element
  | b :: bs => return .array element (b :: bs)

def modifiedType (inner : Nested) (keywords : List String) : Parser TypeSyntax := do
  if ← ahead modifierStart then
    let _ ← modifiers inner false
    bareType inner []
  else
    bareType inner keywords

def typeAmong (inner : Nested) (keywords annotatedKeywords : List String) : Parser TypeSyntax := do
  match ← annotations inner with
  | [] => bareType inner keywords
  | [a] => return .annotated [a] (← bareType inner annotatedKeywords)
  | names => return .annotated names (← bareType inner [])

def type (inner : Nested) (keywords : List String) : Parser TypeSyntax :=
  typeAmong inner keywords []

def typeList (inner : Nested) : Parser (List TypeSyntax) :=
  commaSeparated (type inner [])

def typeParameter (inner : Nested) : Parser Unit := do
  let _ ← annotations inner
  let _ ← word
  let _ ← maybe (do
    keyword "extends"
    let _ ← type inner []
    many (do symbol "&"; type inner []))

def typeParameters (inner : Nested) : Parser Unit := do
  symbol "<"
  let _ ← commaSeparated (typeParameter inner)
  symbol ">"

end Parser

end BridgeTypings.Java
