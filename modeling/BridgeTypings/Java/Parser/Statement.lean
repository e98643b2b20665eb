import BridgeTypings.Java.Parser.Declaration

namespace BridgeTypings.Java.Parser

open Text.Parser

inductive StatementForm where
  | expression (value : Expression)
  | empty
  | other

def StatementForm.withText : StatementForm → String → Statement
  | .expression value, text => .expression value text
  | .empty, _ => .empty
  | .other, text => .other text

def annotatedKeyword (inner : Nested) (keywords : List String) : Parser Unit := do
  let _ ← annotationUse inner
  let _ ← keywordOf keywords

/--
Modifiers, type and declarators of local variables, with the closing semicolon. The keywords are
those that the type cannot begin with: behind a single annotation, behind modifiers, and without
them. A single name could also begin a test with `instanceof`.
-/
def localVariables (inner : Nested) (annotatedKeywords modifiedKeywords keywords : List String) :
    Parser Unit := do
  if ← ahead modifierStart then
    require (!(← ahead (annotatedKeyword inner annotatedKeywords)))
    let _ ← modifiers inner true
    let _ ← bareType inner modifiedKeywords
    let _ ← declarators inner []
  else
    let t ← bareType inner keywords
    let _ ← declarators inner (keywordsBehind t ["instanceof"])
  symbol ";"

def ifStatement (inner : Nested) : Parser Unit := do
  keyword "if"
  parenthesized inner
  let _ ← inner.statement
  let _ ← maybe (do keyword "else"; inner.statement)

def whileStatement (inner : Nested) : Parser Unit := do
  keyword "while"
  parenthesized inner
  let _ ← inner.statement

def doStatement (inner : Nested) : Parser Unit := do
  keyword "do"
  let _ ← inner.statement
  keyword "while"
  parenthesized inner
  symbol ";"

def elementLoopHead (inner : Nested) : Parser Unit := do
  let _ ← modifiedType inner (Keyword.expressions ++ Keyword.reserved)
  let _ ← declaredName inner []
  symbol ":"
  let _ ← inner.expression true

def countingLoopHead (inner : Nested) : Parser Unit := do
  localVariables inner [] [] (Keyword.expressions ++ Keyword.reserved)
    <|> (do
      require (!(← ahead strictModifier))
      let _ ← maybe (commaSeparated (inner.expression true))
      symbol ";")
  let _ ← maybe (inner.expression true)
  symbol ";"
  let _ ← maybe (commaSeparated (inner.expression true))

def forStatement (inner : Nested) : Parser Unit := do
  keyword "for"
  symbol "("
  (do elementLoopHead inner; symbol ")") <|> (do countingLoopHead inner; symbol ")")
  let _ ← inner.statement

def assertStatement (inner : Nested) : Parser Unit := do
  keyword "assert"
  let _ ← inner.expression true
  let _ ← maybe (do symbol ":"; inner.expression true)
  symbol ";"

def jumpStatement : Parser Unit := do
  let _ ← keywordOf ["break", "continue"]
  let _ ← maybe word
  symbol ";"

def returnStatement (inner : Nested) : Parser Unit := do
  keyword "return"
  let _ ← maybe (inner.expression true)
  symbol ";"

def valueStatement (inner : Nested) : Parser Unit := do
  let _ ← keywordOf ["throw", "yield"]
  let _ ← inner.expression true
  symbol ";"

def synchronizedStatement (inner : Nested) : Parser Unit := do
  keyword "synchronized"
  parenthesized inner
  let _ ← inner.block

def catchClause (inner : Nested) : Parser Unit := do
  keyword "catch"
  symbol "("
  let _ ← modifiers inner false
  let _ ← bareType inner []
  let _ ← many (do symbol "|"; bareType inner [])
  let _ ← declaredName inner []
  symbol ")"
  let _ ← inner.block

def finallyClause (inner : Nested) : Parser Unit := do
  keyword "finally"
  let _ ← inner.block

def isResourceName (o : Operand) : Bool :=
  match o.form, o.value with
  | .name, .name n => !Keyword.reserved.contains n
  | .field, _ => true
  | _, _ => false

def resource (inner : Nested) : Parser Unit :=
  (do
    let _ ← modifiedType inner (Keyword.expressions ++ Keyword.reserved)
    let _ ← declaredName inner []
    symbol "="
    let _ ← inner.expression true)
    <|> (do
      require (!(← ahead strictModifier))
      let o ← primary inner
      require (isResourceName o))

def tryStatement (inner : Nested) : Parser Unit := do
  keyword "try"
  let resources ← maybe (do
    symbol "("
    resource inner
    let _ ← many (do symbol ";"; resource inner)
    let _ ← maybe (symbol ";")
    symbol ")")
  let _ ← inner.block
  let catches ← many (catchClause inner)
  let last ← maybe (finallyClause inner)
  require (resources.isSome || !catches.isEmpty || last.isSome)

def importDeclaration : Parser Unit := do
  keyword "import"
  let _ ← maybe (keyword "static")
  qualifiedName ["static"]
  let _ ← maybe (do symbol "."; symbol "*")
  symbol ";"

def leadingAnnotations (inner : Nested) : Parser Unit := do
  require (!(← ahead (symbol "@interface")))
  let _ ← annotations inner

def packageDeclaration (inner : Nested) : Parser Unit := do
  leadingAnnotations inner
  keyword "package"
  qualifiedName []
  symbol ";"

def moduleDirective : Parser Unit := do
  (do
    keyword "requires"
    let _ ← many (keywordOf ["transitive", "static"])
    qualifiedName [])
    <|> (do
      let _ ← keywordOf ["exports", "opens"]
      qualifiedName []
      let _ ← maybe (do keyword "to"; commaSeparated (qualifiedName [])))
    <|> (do keyword "uses"; qualifiedName [])
    <|> (do
      keyword "provides"
      qualifiedName []
      keyword "with"
      let _ ← commaSeparated (qualifiedName []))
  symbol ";"

def moduleDeclaration (inner : Nested) : Parser Unit := do
  leadingAnnotations inner
  let _ ← maybe (keyword "open")
  keyword "module"
  qualifiedName ["instanceof"]
  symbol "\x7b"
  let _ ← many moduleDirective
  symbol "\x7d"

def localType (inner : Nested) : Parser Unit := do
  let _ ← reported (do
    let _ ← modifiers inner true
    typeRest inner .classType)

def switchStatement (inner : Nested) : Parser Unit := do
  let first ← switch inner
  let _ ← maybe (do
    let _ ← operations inner true first
    symbol ";")

def labeledStatement (inner : Nested) : Parser Unit := do
  let _ ← name Keyword.statements
  symbolBefore ":" [':']
  let _ ← inner.statement

def compoundStatement (inner : Nested) : Parser Unit :=
  (do let _ ← inner.block)
    <|> ifStatement inner
    <|> whileStatement inner
    <|> doStatement inner
    <|> forStatement inner
    <|> assertStatement inner
    <|> jumpStatement
    <|> returnStatement inner
    <|> valueStatement inner
    <|> synchronizedStatement inner
    <|> tryStatement inner
    <|> importDeclaration
    <|> packageDeclaration inner
    <|> moduleDeclaration inner
    <|> localType inner
    <|> switchStatement inner
    <|> labeledStatement inner
    <|> localVariables inner Keyword.annotated Keyword.declarations Keyword.statements

def noExpression (inner : Nested) : Parser Unit :=
  (do let _ ← keywordOf ("switch" :: Keyword.statementsOnly))
    <|> symbol "non-sealed"
    <|> symbol "@interface"
    <|> annotatedKeyword inner (Keyword.modifiers ++ Keyword.declarations ++ Keyword.annotated)

def statementForm (inner : Nested) : Parser StatementForm :=
  (do symbol ";"; return .empty)
    <|> (do compoundStatement inner; return .other)
    <|> (do
      require (!(← ahead (noExpression inner)))
      let e ← inner.expression true
      symbol ";"
      return .expression e)

def statement (inner : Nested) : Parser Statement := do
  let (form, text) ← spelled (statementForm inner)
  return form.withText text

def block (inner : Nested) : Parser (List Statement) := do
  symbol "\x7b"
  let items ← many (do
    let before ← comments
    return before.map .comment ++ [← statement inner])
  let last ← comments
  symbol "\x7d"
  return items.flatten ++ last.map .comment

end BridgeTypings.Java.Parser
