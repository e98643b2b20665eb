import BridgeTypings.Java.Parser.Type

namespace BridgeTypings.Java.Parser

open Text.Parser

def declaredName (inner : Nested) (keywords : List String) : Parser Declarator := do
  let n ← name keywords
  return ⟨n, ← brackets inner⟩

def declarator (inner : Nested) (keywords : List String) : Parser Declarator := do
  let d ← declaredName inner keywords
  let _ ← maybe (do symbol "="; inner.initializer)
  return d

def declarators (inner : Nested) (keywords : List String) : Parser (List Declarator) := do
  let first ← declarator inner keywords
  let rest ← many (do symbol ","; declarator inner [])
  return first :: rest

def receiverNames (keywords : List String) : Parser Unit := do
  let _ ← maybe (do
    let _ ← name ("this" :: keywords)
    symbol "."
    many (do let _ ← name ["this"]; symbol "."))

/--
The parameter that stands for the object itself. Without annotations before it, its names stand
where the name of another parameter could.
-/
def receiver (inner : Nested) (keywords : List String) : Parser Parameter := do
  match ← typeAmong inner (Keyword.modifiers ++ keywords) Keyword.modifiers with
  | .annotated _ _ => receiverNames []
  | _ => receiverNames ("_" :: Keyword.reserved)
  keyword "this"
  return .receiver

def parameter (inner : Nested) (keywords : List String) : Parser Parameter := do
  let t ← modifiedType inner keywords
  (do
    symbol "..."
    let _ ← annotations inner
    return .spread t (← declarator inner []))
    <|> (do return .formal t (← declaredName inner []))

def parameterList (inner : Nested) (keywords : List String) : Parser (List Parameter) := do
  let first ← parameter inner keywords
  let rest ← many (do symbol ","; parameter inner [])
  return first :: rest

def formalParameters (inner : Nested) (keywords : List String) : Parser (List Parameter) := do
  symbol "("
  let self ← maybe (receiver inner keywords)
  let others ←
    match self with
    | none => maybe (parameterList inner keywords)
    | some _ => do
        let comma ← maybe (symbol ",")
        if comma.isSome then maybe (parameterList inner []) else pure none
  symbol ")"
  return self.toList ++ others.getD []

end BridgeTypings.Java.Parser
