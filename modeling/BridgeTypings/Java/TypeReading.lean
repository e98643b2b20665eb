import BridgeTypings.Error
import BridgeTypings.Java.Syntax
import BridgeTypings.TypeExpr

namespace BridgeTypings.Java

structure NamedSegment where
  name : String
  arguments : Option (List TypeExpr)

namespace NamedSegment

def startsLowercase (name : String) : Bool :=
  match name.toList with
  | [] => false
  | c :: _ => c.isLower

def isPackage (s : NamedSegment) : Bool :=
  s.arguments.isNone && startsLowercase s.name

def chain : NamedSegment → List NamedSegment → TypeExpr
  | s, [] => .named s.name s.arguments none []
  | s, t :: rest =>
      if s.isPackage then chain t rest
      else .named s.name s.arguments (some (nest t rest)) []
where
  nest : NamedSegment → List NamedSegment → TypeExpr
    | s, [] => .named s.name s.arguments none []
    | s, t :: rest => .named s.name s.arguments (some (nest t rest)) []

end NamedSegment

def Brackets.dimensions (b : Brackets) : List Dimension :=
  .unsized :: b.size.toList.map .sized

def dimensionsOf (brackets : List Brackets) : List Dimension :=
  brackets.flatMap Brackets.dimensions

mutual

def TypeSyntax.read : TypeSyntax → Except Error TypeExpr
  | .void => .error (.unsupportedType "" "void")
  | .primitive name => .ok (.primitive name [])
  | .dotted first rest => do
      let s ← first.read
      let ss ← readSegments rest
      return NamedSegment.chain s ss
  | .array element brackets => do
      return (← element.read).withDimensions (dimensionsOf brackets)
  | .annotated _ type => type.read
  | .wildcard _ none => .ok (.plain "Object")
  | .wildcard _ (some bound) => bound.read

def Segment.read : Segment → Except Error NamedSegment
  | .mk _ name none => .ok ⟨name, none⟩
  | .mk _ name (some arguments) => do
      return ⟨name, some (← readTypes arguments)⟩

def readSegments : List Segment → Except Error (List NamedSegment)
  | [] => .ok []
  | s :: rest => do
      let s ← s.read
      return s :: (← readSegments rest)

def readTypes : List TypeSyntax → Except Error (List TypeExpr)
  | [] => .ok []
  | t :: rest => do
      let t ← t.read
      return t :: (← readTypes rest)

end

def readDeclared (type : TypeSyntax) (d : Declarator) : Except Error TypeExpr := do
  return (← type.read).withDimensions (dimensionsOf d.brackets)

end BridgeTypings.Java
