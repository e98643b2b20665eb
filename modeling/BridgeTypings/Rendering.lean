import BridgeTypings.Declaration
import BridgeTypings.Error

namespace BridgeTypings

def builtinNames : List (String × String) :=
  [("Boolean", "boolean"), ("NativeArray", "Array<any>"), ("NativeObject", "object"),
    ("Object", "any"), ("ReturnInterface", "Function"), ("String", "string")]

structure Renderer where
  names : OrderedMap String := .ofList builtinNames

namespace Renderer

def addNames (r : Renderer) (names : List (String × String)) : Renderer :=
  ⟨r.names.insertAll names⟩

def spelling (r : Renderer) (name : String) : String :=
  (r.names.get? name).getD name

theorem builtin_get? (name : String) :
    ({} : Renderer).names.get? name = builtinNames.lookup name := by
  have hentries : ({} : Renderer).names.entries = builtinNames := by decide +kernel
  rw [OrderedMap.get?, hentries]

def renderDimensions : List Dimension → Except Error String
  | [] => .ok ""
  | .unsized :: rest => do return "[]" ++ (← renderDimensions rest)
  | .sized text :: _ => .error (.sizedDimension text)

mutual

def renderType (r : Renderer) : TypeExpr → Except Error String
  | .primitive name ds => do return r.spelling name ++ (← renderDimensions ds)
  | .named name arguments qualifier ds => do
      let clause ← renderClause r arguments
      let inner ← renderQualifier r qualifier
      return r.spelling name ++ clause ++ inner ++ (← renderDimensions ds)

def renderClause (r : Renderer) : Option (List TypeExpr) → Except Error String
  | none => .ok ""
  | some arguments => do return "<" ++ ", ".intercalate (← renderTypes r arguments) ++ ">"

def renderTypes (r : Renderer) : List TypeExpr → Except Error (List String)
  | [] => .ok []
  | t :: rest => do
      let first ← renderType r t
      return first :: (← renderTypes r rest)

def renderQualifier (r : Renderer) : Option TypeExpr → Except Error String
  | none => .ok ""
  | some t => do return "." ++ (← renderType r t)

end

def render (r : Renderer) : Option TypeExpr → Except Error String
  | none => .ok "void"
  | some t => r.renderType t

end Renderer

end BridgeTypings
