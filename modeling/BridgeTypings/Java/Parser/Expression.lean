import BridgeTypings.Java.Parser.Parameter

/-!
Operators are read from left to right without regard to their precedence: it decides how operands
group, and never whether the text is an expression.
-/

namespace BridgeTypings.Java.Parser

open Text.Parser

def operators : List String :=
  [">>>=", "<<=", ">>=", ">>>", "+=", "-=", "*=", "/=", "&=", "|=", "^=", "%=", "<<", ">>", ">=",
    "<=", "==", "!=", "&&", "||", "++", "--", "->", "::", "=", ">", "<", "+", "-", "*", "/", "&",
    "|", "^", "%", "?", ":"]

def assignments : List String :=
  ["=", "+=", "-=", "*=", "/=", "&=", "|=", "^=", "%=", "<<=", ">>=", ">>>="]

def binaries : List String :=
  [">", "<", ">=", "<=", "==", "!=", "&&", "||", "+", "-", "*", "/", "&", "|", "^", "%", "<<",
    ">>", ">>>"]

def signs : List String :=
  ["++", "--", "+", "-", "!", "~"]

def firstSymbol : List String → Parser String
  | [] => fail
  | s :: rest => (do symbol s; return s) <|> firstSymbol rest

def operator : Parser String :=
  firstSymbol operators

def parenthesized (inner : Nested) : Parser Unit := do
  symbol "("
  let _ ← inner.expression true
  symbol ")"

def arguments (inner : Nested) : Parser (List Expression) := do
  symbol "("
  let values ← maybe (commaSeparated (inner.expression true))
  symbol ")"
  return values.getD []

def arrayInitializer (inner : Nested) : Parser Unit := do
  symbol "\x7b"
  let _ ← commaTerminated inner.initializer
  symbol "\x7d"

def initializer (inner : Nested) : Parser Unit :=
  arrayInitializer inner <|> (do let _ ← inner.expression true)

def interpolation (inner : Nested) : Parser Unit := do
  exact "\\\x7b"
  let _ ← inner.expression true
  symbol "\x7d"

def isPlain (c : Char) : Bool :=
  c != '"' && c != '\\'

def stringRest (inner : Nested) : Parser Unit := do
  let _ ← many
    ((do let _ ← one isPlain) <|> interpolation inner <|> pattern Literal.escape)
  exact "\""

/--
A comment that is skipped inside a text block: it stands where a piece of the text begins, and a
quote or backslash in it ends that piece sooner than the comment ends.
-/
def textBlockComment : Parser Unit :=
  fun cs =>
    let start := cs.dropWhile isBlank
    let rest :=
      match start with
      | '/' :: '/' :: line => line.dropWhile (· != '\n')
      | '/' :: '*' :: _ => (commentsOf start).head?.elim start (fun c => start.drop c.length)
      | _ => start
    if rest.length < start.length && rest.length < (cs.dropWhile isPlain).length then
      some ⟨(), [], rest⟩
    else none

def quotedPiece : Parser Unit := do
  exact "\""
  let _ ← many ((do let _ ← one isPlain) <|> exact "\\\"")

def textBlockPiece (inner : Nested) : Parser Unit :=
  textBlockComment
    <|> (do let _ ← many1 (one isPlain))
    <|> interpolation inner
    <|> (do exact "\\"; let _ ← one (· != '\x7b'))
    <|> (do
      require (!(← ahead (exact "\"\"\"")))
      quotedPiece)

def textBlockRest (inner : Nested) : Parser Unit := do
  let _ ← many (textBlockPiece inner)
  exact "\"\"\""

def stringLiteral (inner : Nested) : Parser String := do
  let (_, text) ← spelled
    (do
      if ← ahead (symbol "\"\"\"") then
        symbol "\"\"\""
        textBlockRest inner
      else
        symbol "\""
        stringRest inner)
  return text

def sizedBrackets (inner : Nested) : Parser Unit := do
  let _ ← annotations inner
  symbol "["
  let _ ← inner.expression true
  symbol "]"

def creationArguments (inner : Nested) : Parser Unit := do
  let _ ← arguments inner
  let _ ← maybe (inner.body .classType)

def objectCreation (inner : Nested) : Parser Unit := do
  let _ ← annotations inner
  let _ ← maybe (typeArguments inner)
  let _ ← annotations inner
  let _ ← simpleType inner []
  creationArguments inner

def arrayCreation (inner : Nested) : Parser Unit := do
  let _ ← annotations inner
  let _ ← simpleType inner []
  (do
    let _ ← many1 (sizedBrackets inner)
    let _ ← brackets inner)
    <|> (do
      let pairs ← brackets inner
      require (!pairs.isEmpty)
      arrayInitializer inner)

def creation (inner : Nested) : Parser Operand := do
  keyword "new"
  objectCreation inner <|> arrayCreation inner
  return ⟨.other, .other⟩

def referenceTarget (inner : Nested) : Parser Operand := do
  symbol "::"
  let _ ← maybe (typeArguments inner)
  let _ ← word
  return ⟨.other, .other⟩

def memberName (inner : Nested) (object : Expression) (keywords : List String) :
    Parser Operand := do
  let n ← name keywords
  match ← maybe (arguments inner) with
  | some values => return ⟨.call (some object) n values, .other⟩
  | none => return ⟨.other, .field⟩

def genericCall (inner : Nested) (object : Expression) : Parser Operand := do
  let _ ← typeArguments inner
  let n ← name []
  return ⟨.call (some object) n (← arguments inner), .other⟩

/--
What can stand behind a dot after an expression or `super`. The keywords are those that a name
cannot be there; behind another `super` it can be any word.
-/
def access (inner : Nested) (object : Expression) (keywords : List String) : Parser Operand := do
  let further ← maybe (do keyword "super"; symbol ".")
  (do keyword "this"; return ⟨.other, .field⟩)
    <|> genericCall inner object
    <|> memberName inner object (if further.isSome then [] else keywords)

def selector (inner : Nested) (left : Operand) : Parser Operand :=
  (do
    symbol "."
    (do
      keyword "new"
      objectCreation inner
      return ⟨.other, .other⟩)
      <|> access inner left.value ["super", "new"]
      <|> (do
        let _ ← stringLiteral inner
        return ⟨.other, .other⟩))
    <|> (do
      symbol "["
      let _ ← inner.expression true
      symbol "]"
      return ⟨.other, .element⟩)
    <|> referenceTarget inner

def superAccess (inner : Nested) : Parser Operand := do
  keyword "super"
  (do symbol "."; access inner .other ["super"]) <|> referenceTarget inner

def isElaborate : Segment → Bool
  | .mk annotations _ arguments => !annotations.isEmpty || arguments.isSome

def elaborateType (inner : Nested) : Parser Unit :=
  (do
    let _ ← keywordOf Keyword.types
    let _ ← brackets inner)
    <|> (do
      let first ← firstSegment inner (Keyword.expressions ++ Keyword.reserved)
      let rest ← many (laterSegment inner ["class"])
      let pairs ← brackets inner
      require ((first :: rest).any isElaborate || !pairs.isEmpty))

def typeOperand (inner : Nested) : Parser Operand :=
  (do
    elaborateType inner
    referenceTarget inner
      <|> (do
        symbol "."
        keyword "class"
        return ⟨.other, .other⟩))
    <|> (do
      let _ ← many1 (annotationUse inner)
      let _ ← bareType inner []
      referenceTarget inner)

def literal (inner : Nested) : Parser Operand :=
  (do
    token Literal.number
    return ⟨.other, .other⟩)
    <|> (do
      token Literal.character
      return ⟨.other, .other⟩)
    <|> (do return ⟨.string (← stringLiteral inner), .other⟩)
    <|> (do
      let _ ← keywordOf ["true", "false", "null", "this"]
      return ⟨.other, .other⟩)

def plainName (inner : Nested) : Parser Operand := do
  let n ← name Keyword.expressions
  match ← maybe (arguments inner) with
  | some values => return ⟨.call none n values, .other⟩
  | none => return ⟨.name n, .name⟩

def primaryStart (inner : Nested) : Parser Operand :=
  literal inner
    <|> creation inner
    <|> superAccess inner
    <|> typeOperand inner
    <|> plainName inner
    <|> (do
      require (!(← ahead (do symbol "("; strictModifier)))
      parenthesized inner
      return ⟨.other, .other⟩)

def primary (inner : Nested) : Parser Operand := do
  extended (selector inner) (← primaryStart inner)

def lambdaBody (inner : Nested) (arrow : Bool) : Parser Operand :=
  (do
    let _ ← inner.block
    return ⟨.other, .other⟩)
    <|> (do
      let _ ← inner.expression arrow
      return ⟨.other, .other⟩)

def inferredParameter : Parser String :=
  name (Keyword.expressions ++ Keyword.strictModifiers)

def bareParameter : Parser Unit := do
  let _ ← name Keyword.expressions
    <|> (do
      symbol "("
      let n ← inferredParameter
      symbol ")"
      return n)

def listedParameters (inner : Nested) : Parser Unit :=
  (do
    symbol "("
    let _ ← inferredParameter
    let _ ← many1 (do symbol ","; word)
    symbol ")")
    <|> (do let _ ← formalParameters inner (Keyword.expressions ++ Keyword.reserved))

/-- A lambda. Without `arrow`, an arrow behind a single parameter is not its own. -/
def lambda (inner : Nested) (arrow : Bool) : Parser Operand := do
  (do require arrow; bareParameter; symbol "->")
    <|> (do listedParameters inner; symbol "->")
  lambdaBody inner arrow

def cast (inner : Nested) (arrow : Bool) : Parser Operand := do
  symbol "("
  let _ ← typeAmong inner (Keyword.expressions ++ Keyword.reserved ++ Keyword.modifiers)
    Keyword.modifiers
  let further ← many (do symbol "&"; type inner [])
  symbol ")"
  require (!(← ahead (do let _ ← many (firstSymbol signs); keyword "instanceof")))
  if further.isEmpty then inner.operand arrow
  else lambda inner arrow <|> primary inner

def underscorePattern : Parser Unit :=
  keyword "_"

def patternComponent (inner : Nested) : Parser Unit :=
  underscorePattern
    <|> inner.recordPattern
    <|> (do
      let _ ← bareType inner Keyword.reserved
      let _ ← word)

def isRecordName : TypeSyntax → Bool
  | .dotted (.mk _ _ none) [] => true
  | .dotted (.mk names n arguments) rest =>
      match (Segment.mk names n arguments :: rest).getLast? with
      | some (.mk _ _ (some _)) => !Keyword.reserved.contains n
      | _ => false
  | _ => false

def recordPattern (inner : Nested) : Parser Unit := do
  let t ← simpleType inner []
  require (isRecordName t)
  symbol "("
  let _ ← maybe (commaSeparated (patternComponent inner))
  symbol ")"

def typeTest (inner : Nested) : Parser Unit := do
  let _ ← maybe (keyword "final")
  recordPattern inner
    <|> (do
      let _ ← type inner Keyword.reserved
      let _ ← maybe (name ["instanceof"]))

def keywordsBehind (t : TypeSyntax) (keywords : List String) : List String :=
  match t with
  | .dotted (.mk _ _ none) [] => keywords
  | _ => []

def casePattern (inner : Nested) : Parser Unit := do
  (do
    require (!(← ahead (keywordOf Keyword.expressions)))
    recordPattern inner)
    <|> (do
      let t ← bareType inner (Keyword.expressions ++ Keyword.reserved)
      let _ ← name (keywordsBehind t ["instanceof", "when"]))
  require (← ahead (symbol "->" <|> symbol ":" <|> keyword "when"))

def caseLabel (inner : Nested) (arrow : Bool) : Parser Unit := do
  keyword "case"
  casePattern inner <|> (do let _ ← commaSeparated (inner.expression arrow))
  let _ ← maybe (do keyword "when"; inner.expression arrow)

def switchLabel (inner : Nested) (arrow : Bool) : Parser Unit :=
  caseLabel inner arrow <|> keyword "default"

def switchRuleAmong (inner : Nested) (arrow : Bool) : Parser Unit := do
  switchLabel inner arrow
  symbol "->"
  (do let _ ← inner.block)
    <|> (do
      let _ ← maybe (keyword "throw")
      let _ ← inner.expression true
      symbol ";")
  require (← ahead ((do let _ ← keywordOf ["case", "default"]) <|> symbol "\x7d"))

def switchRule (inner : Nested) : Parser Unit :=
  switchRuleAmong inner false <|> switchRuleAmong inner true

def groupLabel (inner : Nested) : Parser Unit :=
  (do switchLabel inner false; symbolBefore ":" [':'])
    <|> (do switchLabel inner true; symbolBefore ":" [':'])

def switchGroup (inner : Nested) : Parser Unit := do
  let _ ← many1 (groupLabel inner)
  let _ ← many (do
    require (!(← ahead (keyword "case")))
    inner.statement)

def switchBlock (inner : Nested) : Parser Unit := do
  symbol "\x7b"
  (do
    let _ ← many (switchRule inner)
    symbol "\x7d")
    <|> (do
      let _ ← many (switchGroup inner)
      symbol "\x7d")

def switch (inner : Nested) : Parser Operand := do
  keyword "switch"
  parenthesized inner
  switchBlock inner
  return ⟨.other, .other⟩

def operand (inner : Nested) (arrow : Bool) : Parser Operand :=
  (do
    let _ ← firstSymbol signs
    let o ← inner.operand arrow
    return ⟨.other, o.form⟩)
    <|> lambda inner arrow
    <|> (do
      let o ← cast inner arrow
      return ⟨.other, o.form⟩)
    <|> switch inner
    <|> primary inner

def operation (inner : Nested) (arrow : Bool) (left : Operand) : Parser Operand :=
  (do
    keyword "instanceof"
    typeTest inner
    return ⟨.other, .other⟩)
    <|> (do
      let op ← operator
      if assignments.contains op then
        require (left.form != .other)
        let o ← operand inner arrow
        return ⟨.other, o.form⟩
      else if binaries.contains op then
        let o ← operand inner arrow
        return ⟨.other, o.form⟩
      else if op == "?" then
        let _ ← inner.expression true
        symbol ":"
        let o ← operand inner arrow
        return ⟨.other, o.form⟩
      else
        require (op == "++" || op == "--")
        return ⟨.other, .other⟩)

def operations (inner : Nested) (arrow : Bool) (first : Operand) : Parser Operand :=
  extended (operation inner arrow) first

def expression (inner : Nested) (arrow : Bool) : Parser Expression := do
  let first ← operand inner arrow
  return (← operations inner arrow first).value

end BridgeTypings.Java.Parser
