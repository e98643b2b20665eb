import BridgeTypings.Declaration
import BridgeTypings.Event
import BridgeTypings.Java.Parser.Source
import BridgeTypings.Java.StringLiteral
import BridgeTypings.Java.TypeReading

namespace BridgeTypings

structure RegistrationPattern where
  className : String := "AppRunner"
  initMethod : String := "initInterpreter"
  receiver : String := "interp"
  registerMethod : String := "addJavaObjectToJs"
deriving DecidableEq, Repr

namespace Registration

open Java

def referenceFields : OrderedMap TypeExpr → List Member → Except Error (OrderedMap TypeExpr)
  | acc, [] => .ok acc
  | acc, .field ⟨_, t, [d]⟩ :: rest => do
      let t ← readDeclared t d
      referenceFields (if t.isReference then acc.insert d.name t else acc) rest
  | acc, _ :: rest => referenceFields acc rest

def registrationCall? (pattern : RegistrationPattern) : Expression → Option (String × String)
  | .call (some (.name object)) method [.string literal, .name field] =>
      if object = pattern.receiver ∧ method = pattern.registerMethod then some (literal, field)
      else none
  | _ => none

def registration? (pattern : RegistrationPattern) : Statement → Run (Option (String × String))
  | .expression value _ =>
      match registrationCall? pattern value with
      | none => return none
      | some (literal, field) =>
          match StringLiteral.decode literal with
          | some binding => return some (binding, field)
          | none => do
              .report .warn "skipping registration with undecodable name" [("literal", literal)]
              return none
  | _ => return none

def noteOther : Statement → Run Unit
  | .expression _ text => .report .trace "not a registration" [("statement", text)]
  | .comment text => .report .trace "not a registration" [("statement", text)]
  | .other text => .report .trace "not a registration" [("statement", text)]
  | .empty => return ()

def register (pattern : RegistrationPattern) (fields : OrderedMap TypeExpr) :
    EntryPoints → List Statement → Run EntryPoints
  | acc, [] => return acc
  | acc, s :: rest => do
      match ← registration? pattern s with
      | none =>
          noteOther s
          register pattern fields acc rest
      | some (binding, field) =>
          match fields.get? field with
          | none => .fail (.unknownEntryField binding field)
          | some t => do
              .report .debug "entry point" [("binding", binding), ("field", field)]
              register pattern fields (acc.insert binding t) rest

def isRunner (pattern : RegistrationPattern) (d : TypeDeclaration) : Bool :=
  d.isClass && d.name == pattern.className

def findMethod (name : String) : List Member → Option Java.Method
  | [] => none
  | .method m :: rest => if m.name = name then some m else findMethod name rest
  | _ :: rest => findMethod name rest

def entryPoints (pattern : RegistrationPattern) (runner : TypeDeclaration) : Run EntryPoints := do
  let fields ← .ofExcept (referenceFields .empty runner.members)
  match findMethod pattern.initMethod runner.members with
  | none => .fail (.initMethodNotFound pattern.className pattern.initMethod)
  | some init => register pattern fields .empty (init.body.getD [])

def extract (text : String) (pattern : RegistrationPattern) : Run EntryPoints :=
  match Source.parse text with
  | none => .fail (.parse "")
  | some source =>
      match source.preorder.find? (isRunner pattern) with
      | none => .fail (.runnerClassNotFound pattern.className)
      | some runner => entryPoints pattern runner

end Registration

end BridgeTypings
