import BridgeTypings.Event
import BridgeTypings.Rendering

namespace BridgeTypings.Emission

def keptSupertype (r : Renderer) (declarations : Declarations) (t : TypeExpr) :
    Run (Option String) := do
  let text ← .ofExcept (r.renderType t)
  if declarations.contains text then
    return some text
  else
    .report .debug "dropping supertype outside the scanned set" [("supertype", text)]
    return none

def keptSupertypes (r : Renderer) (declarations : Declarations) :
    List TypeExpr → Run (List String)
  | [] => return []
  | t :: rest => do
      let first ← keptSupertype r declarations t
      return first.toList ++ (← keptSupertypes r declarations rest)

def parameterText (r : Renderer) (name : String) (p : Parameter) : Except Error String := do
  let t ← r.renderType p.type
  return if p.variadic then "..." ++ name ++ ": " ++ t ++ "[]" else name ++ ": " ++ t

def parameterTexts (r : Renderer) : List (String × Parameter) → Except Error (List String)
  | [] => .ok []
  | (name, p) :: rest => do
      let first ← parameterText r name p
      return first :: (← parameterTexts r rest)

def signature (r : Renderer) (m : Method) : Except Error String := do
  let parameters ← parameterTexts r m.parameters.entries
  return "(" ++ ", ".intercalate parameters ++ "): " ++ (← r.render m.returns)

def attributeLine (r : Renderer) (name : String) : Attribute → Except Error String
  | .field t => do return "  " ++ name ++ ": " ++ (← r.renderType t) ++ ";"
  | .method m => do return "  " ++ name ++ (← signature r m) ++ ";"

def attributeLines (r : Renderer) : List (String × Attribute) → Except Error (List String)
  | [] => .ok []
  | (name, item) :: rest => do
      let first ← attributeLine r name item
      return first :: (← attributeLines r rest)

def header (keyword name : String) (parents implements : List String) : String :=
  "declare " ++ keyword ++ " " ++ name
    ++ (if parents.isEmpty then "" else " extends " ++ ", ".intercalate parents)
    ++ (if implements.isEmpty then "" else " implements " ++ ", ".intercalate implements)
    ++ " \x7b"

def declarationLines (r : Renderer) (declarations : Declarations) (name : String)
    (d : Declaration) : Run (List String) := do
  let parents ← keptSupertypes r declarations d.extends?.toList
  let implements ← keptSupertypes r declarations d.implements
  let lines ← .ofExcept (attributeLines r d.attributes)
  return header d.kind.keyword name parents implements :: lines ++ ["\x7d"]

def blocks (r : Renderer) (declarations : Declarations) :
    List (String × Declaration) → Run (List String)
  | [] => return []
  | (name, d) :: rest => do
      let first ← declarationLines r declarations name d
      return first ++ (← blocks r declarations rest)

def entryLines (r : Renderer) : List (String × TypeExpr) → Except Error (List String)
  | [] => .ok []
  | (name, t) :: rest => do
      let line := "export var " ++ name ++ ": " ++ (← r.renderType t) ++ ";"
      return line :: (← entryLines r rest)

def emit (r : Renderer) (declarations : Declarations) (entries : EntryPoints) : Run String := do
  let lines ← blocks r declarations declarations.entries
  let exports ← .ofExcept (entryLines r entries.entries)
  return String.join ((lines ++ exports).map (· ++ "\n"))

end BridgeTypings.Emission
