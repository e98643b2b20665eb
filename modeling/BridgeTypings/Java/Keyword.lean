/-!
A word is a keyword only where the grammar can go on with it, so a list says which words a name in a
certain place cannot be.
-/

namespace BridgeTypings.Java.Keyword

def primitives : List String :=
  ["byte", "short", "int", "long", "char", "float", "double", "boolean"]

def types : List String :=
  "void" :: primitives

def expressions : List String :=
  types ++ ["true", "false", "null", "this", "super", "new", "switch"]

def reserved : List String :=
  ["open", "module", "record", "with", "sealed", "yield"]

def modifiers : List String :=
  ["public", "protected", "private", "abstract", "static", "final", "strictfp", "default",
    "synchronized", "native", "transient", "volatile", "sealed"]

def strictModifiers : List String :=
  modifiers.filter (fun w => !reserved.contains w)

def declarations : List String :=
  ["class", "interface", "enum", "record"]

def annotated : List String :=
  ["open", "module", "package"]

def statementsOnly : List String :=
  (modifiers ++ declarations).filter (fun w => !reserved.contains w) ++
    ["package", "import", "if", "while", "for", "assert", "do", "break", "continue", "return",
      "throw", "try"]

def statements : List String :=
  expressions ++ reserved ++ statementsOnly

end BridgeTypings.Java.Keyword
