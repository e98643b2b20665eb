import BridgeTypings.Java.Parser.Expression

namespace BridgeTypings.Java.Parser

open Text.Parser

inductive Declared where
  | type (heading : Heading) (name : String) (members : List Member)
  | member (member : Member)

/--
Reports a class or interface with those inside it, or else those inside it alone. What remains as a
member is `other` for every type.
-/
def reported (p : Parser Declared) : Parser Member := do
  match ← capture p with
  | (.type heading n members, nested) =>
      report [.mk heading n members nested]
      return .other
  | (.member m, nested) =>
      report nested
      return m

def permits (inner : Nested) : Parser Unit := do
  let _ ← maybe (do keyword "permits"; typeList inner)

def interfaces (inner : Nested) : Parser (List TypeSyntax) := do
  let types ← maybe (do keyword "implements"; typeList inner)
  return types.getD []

def classRest (inner : Nested) : Parser Declared := do
  let n ← word
  let _ ← maybe (typeParameters inner)
  let superclass ← maybe (do keyword "extends"; type inner [])
  let types ← interfaces inner
  permits inner
  return .type (.classHeading superclass types) n (← inner.body .classType)

def interfaceRest (inner : Nested) : Parser Declared := do
  let n ← word
  let _ ← maybe (typeParameters inner)
  let parents ← maybe (do keyword "extends"; typeList inner)
  permits inner
  return .type (.interfaceHeading (parents.getD [])) n (← inner.body .interfaceType)

def enumConstant (inner : Nested) : Parser Unit := do
  let _ ← modifiers inner false
  let _ ← name Keyword.modifiers
  let _ ← maybe (arguments inner)
  let _ ← maybe (inner.body .classType)

def enumRest (inner : Nested) : Parser Declared := do
  let _ ← word
  let _ ← interfaces inner
  symbol "\x7b"
  let _ ← commaTerminated (enumConstant inner)
  let _ ← maybe (do symbol ";"; inner.members .classType)
  symbol "\x7d"
  return .member .other

def recordRest (inner : Nested) : Parser Declared := do
  let _ ← word
  let _ ← maybe (typeParameters inner)
  let _ ← formalParameters inner []
  let _ ← interfaces inner
  let _ ← inner.body .classType
  return .member .other

def annotationTypeRest (inner : Nested) : Parser Declared := do
  let _ ← word
  let _ ← inner.body .annotationType
  return .member .other

def throws (inner : Nested) : Parser Unit := do
  let _ ← maybe (do keyword "throws"; typeList inner)

def constructorCall (inner : Nested) : Parser Unit := do
  (do
    let _ ← maybe (typeArguments inner)
    let _ ← keywordOf ["this", "super"]
    let _ ← arguments inner)
    <|> (do
      require (!(← ahead (keywordOf Keyword.statementsOnly)))
      let _ ← primary inner
      symbol "."
      let _ ← maybe (typeArguments inner)
      keyword "super"
      let _ ← arguments inner)
  symbol ";"

def constructorBody (inner : Nested) : Parser Unit := do
  symbol "\x7b"
  let _ ← maybe (constructorCall inner)
  let _ ← many inner.statement
  symbol "\x7d"

def constructorMember (inner : Nested) : Parser Declared := do
  let parameters ← maybe (typeParameters inner)
  let _ ← name (Keyword.types ++ if parameters.isSome then [] else Keyword.declarations)
  let _ ← formalParameters inner []
  throws inner
  constructorBody inner
  return .member .other

def compactConstructor (inner : Nested) : Parser Declared := do
  let _ ← name (Keyword.types ++ Keyword.declarations)
  let _ ← inner.block
  return .member .other

def methodRest (inner : Nested) (names : List AnnotationName) (returns : TypeSyntax) (n : String) :
    Parser Declared := do
  let parameters ← formalParameters inner []
  let pairs ← brackets inner
  throws inner
  let body ← (do symbol ";"; return none) <|> some <$> inner.block
  return .member (.method ⟨names, returns, n, parameters, pairs, body⟩)

def elementRest (inner : Nested) : Parser Declared := do
  symbol "("
  symbol ")"
  let _ ← brackets inner
  let _ ← maybe (do keyword "default"; inner.elementValue)
  symbol ";"
  return .member .other

def genericMethod (inner : Nested) (names : List AnnotationName) : Parser Declared := do
  typeParameters inner
  let _ ← annotations inner
  let t ← bareType inner []
  methodRest inner names t (← word)

def typedMember (inner : Nested) (kind : Body) (names : List AnnotationName)
    (keywords : List String) : Parser Declared := do
  let t ← bareType inner keywords
  if ← ahead (do let _ ← name ["_"]; symbol "(") then
    let n ← word
    if kind = .annotationType then elementRest inner
    else methodRest inner names t n
  else
    let ds ← declarators inner []
    symbol ";"
    return .member (.field ⟨names, t, ds⟩)

def typeRest (inner : Nested) (kind : Body) : Parser Declared :=
  (do keyword "class"; classRest inner)
    <|> (do keyword "interface"; interfaceRest inner)
    <|> (do keyword "enum"; enumRest inner)
    <|> (do require (kind != .annotationType); keyword "record"; recordRest inner)
    <|> (do symbol "@interface"; annotationTypeRest inner)

def declarationWords (kind : Body) : List String :=
  if kind = .annotationType then Keyword.declarations.erase "record" else Keyword.declarations

def memberRest (inner : Nested) (kind : Body) (names : List AnnotationName) : Parser Declared := do
  let words := declarationWords kind
  if ← ahead ((do let _ ← keywordOf words) <|> symbol "@interface") then
    typeRest inner kind
  else if kind = .classType then
    constructorMember inner
      <|> compactConstructor inner
      <|> genericMethod inner names
      <|> typedMember inner kind names words
  else if kind = .interfaceType then
    genericMethod inner names <|> typedMember inner kind names words
  else
    typedMember inner kind names words

def classBlock (inner : Nested) : Parser Declared := do
  let _ ← maybe (keyword "static")
  let _ ← inner.block
  return .member .other

def member (inner : Nested) (kind : Body) : Parser Member :=
  reported
    ((do require (kind = .classType); classBlock inner)
      <|> (do symbol ";"; return .member .other)
      <|> (do memberRest inner kind (← modifiers inner true)))

def members (inner : Nested) (kind : Body) : Parser (List Member) :=
  many (member inner kind)

end BridgeTypings.Java.Parser
