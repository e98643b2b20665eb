import BridgeTypings.Declaration
import BridgeTypings.Event
import BridgeTypings.Java.Parser.Source
import BridgeTypings.Java.TypeReading

namespace BridgeTypings

structure Markers where
  field : String := "PhonkField"
  method : String := "PhonkMethod"
deriving DecidableEq, Repr

namespace Exposure

open Java

def lastPart (name : String) : String :=
  String.ofList (name.toList.reverse.takeWhile (· != '.')).reverse

def isMarked (names : List AnnotationName) (marker : String) : Bool :=
  names.any (fun n => lastPart n == marker)

/-- Brackets behind the parameters do not count. -/
def readReturn (m : Java.Method) : Except Error (Option TypeExpr) :=
  match m.returns with
  | .void => .ok none
  | t => do return some (← t.read)

def readParameters :
    OrderedMap Parameter → List Java.Parameter → Except Error (OrderedMap Parameter)
  | acc, [] => .ok acc
  | acc, .formal t d :: rest => do
      readParameters (acc.insert d.name ⟨← readDeclared t d, false⟩) rest
  | acc, .spread t d :: rest => do
      readParameters (acc.insert d.name ⟨← readDeclared t d, true⟩) rest
  | acc, .receiver :: rest => readParameters acc rest

def readMethod (m : Java.Method) : Except Error Method := do
  let returns ← readReturn m
  return ⟨returns, ← readParameters .empty m.parameters⟩

def exposed (markers : Markers) (owner : String) : Member → Run (Option (String × Attribute))
  | .field f =>
      if isMarked f.annotations markers.field then
        match f.declarators with
        | [d] => do return some (d.name, .field (← .ofExcept (readDeclared f.type d)))
        | _ => do
            .report .trace "skipping multi-declarator field" [("name", owner)]
            return none
      else return none
  | .method m =>
      if isMarked m.annotations markers.method then do
        return some (m.name, .method (← .ofExcept (readMethod m)))
      else return none
  | .other => return none

def attributes (markers : Markers) (owner : String) : List Member → Run (List (String × Attribute))
  | [] => return []
  | m :: rest => do
      let first ← exposed markers owner m
      let others ← attributes markers owner rest
      return first.toList ++ others

def readHeading : Heading → Except Error (Kind × Option TypeExpr)
  | .classHeading none interfaces => do return (.classKind (← readTypes interfaces), none)
  | .classHeading (some superclass) interfaces => do
      let t ← superclass.read
      return (.classKind (← readTypes interfaces), some t)
  | .interfaceHeading parents => do return (.interfaceKind, (← readTypes parents).head?)

def declaration (markers : Markers) (d : TypeDeclaration) : Run Declaration := do
  let (kind, parent) ← .ofExcept (readHeading d.heading)
  return ⟨kind, parent, ← attributes markers d.name d.members⟩

def collect (text : String) (markers : Markers) : Run (String × Declaration) :=
  match Source.parse text with
  | none => .fail (.parse "")
  | some source =>
      match source.preorder with
      | [] => .fail (.noDeclaration "")
      | d :: _ => do return (d.name, ← declaration markers d)

end Exposure

end BridgeTypings
