import BridgeTypings.Settings
import BridgeTypings.Text.Quoted
import BridgeTypings.Toml.Parser

namespace BridgeTypings.Settings.Schema

open Toml

def describe : Value → String
  | .string text => "string " ++ Text.quoted text
  | .integer n => "integer `" ++ toString n ++ "`"
  | .float f => "floating point `" ++ f.text ++ "`"
  | .boolean b => "boolean `" ++ (if b then "true" else "false") ++ "`"
  | .array _ => "sequence"
  | .datetime _ => "map"
  | .table _ => "map"

def wrongType {α : Type} (v : Value) (wanted : String) : Except ConfigProblem α :=
  .error (.wrongType (describe v) wanted)

structure Setting where
  key : String
  wanted : String := "a string"

def readString (wanted : String) : Value → Except ConfigProblem String
  | .string text => .ok text
  | v => wrongType v wanted

/-- A date or time counts as a table with this one key. -/
def datetimeKey : String :=
  "$__toml_private_datetime"

def readKeys (settings : List Setting) : Table → Except ConfigProblem (List (String × String))
  | [] => .ok []
  | (k, v) :: rest =>
      match settings.find? (fun s => s.key == k) with
      | none => .error (.unknownField k (settings.map Setting.key))
      | some s => do
          let text ← readString s.wanted v
          return (k, text) :: (← readKeys settings rest)

def readPlaces : List Setting → List Value → Except ConfigProblem (List (String × String))
  | s :: settings, v :: rest => do
      let text ← readString s.wanted v
      return (s.key, text) :: (← readPlaces settings rest)
  | _, _ => .ok []

def readSection (name : String) (settings : List Setting) :
    Value → Except ConfigProblem (List (String × String))
  | .table entries => readKeys settings entries
  | .array items => readPlaces settings items
  | .datetime _ => .error (.unknownField datetimeKey (settings.map Setting.key))
  | v => wrongType v ("struct " ++ name)

def runnerSettings : List Setting :=
  [⟨"path", "path string"⟩, ⟨"class", "a string"⟩, ⟨"init_method", "a string"⟩,
    ⟨"receiver", "a string"⟩, ⟨"register_method", "a string"⟩]

def apiSettings : List Setting :=
  [⟨"dir", "path string"⟩, ⟨"extension", "a string"⟩, ⟨"field_annotation", "a string"⟩,
    ⟨"method_annotation", "a string"⟩]

def readRunner (v : Value) : Except ConfigProblem RunnerSettings := do
  let given ← readSection "RunnerConfig" runnerSettings v
  return {
    path := given.lookup "path"
    className := given.lookup "class"
    initMethod := given.lookup "init_method"
    receiver := given.lookup "receiver"
    registerMethod := given.lookup "register_method" }

def readApi (v : Value) : Except ConfigProblem ApiSettings := do
  let given ← readSection "ApiConfig" apiSettings v
  return {
    dir := given.lookup "dir"
    extension := given.lookup "extension"
    fieldMarker := given.lookup "field_annotation"
    methodMarker := given.lookup "method_annotation" }

def readNames : Table → Except ConfigProblem (List (String × String))
  | [] => .ok []
  | (k, v) :: rest => do
      let text ← readString "a string" v
      return (k, text) :: (← readNames rest)

def readMap : Value → Except ConfigProblem (List (String × String))
  | .table entries => readNames entries
  | .datetime text => .ok [(datetimeKey, text)]
  | v => wrongType v "a map"

def readTypesTable : Table → Except ConfigProblem (List (String × String))
  | [] => .ok []
  | (k, v) :: rest =>
      if k = "map" then do
        let names ← readMap v
        return names ++ (← readTypesTable rest)
      else .error (.unknownField k ["map"])

def readTypes : Value → Except ConfigProblem (List (String × String))
  | .table entries => readTypesTable entries
  | .array [] => .ok []
  | .array (v :: _) => readMap v
  | .datetime _ => .error (.unknownField datetimeKey ["map"])
  | v => wrongType v "struct TypesConfig"

def readSections : Table → Settings → Except ConfigProblem Settings
  | [], s => .ok s
  | (k, v) :: rest, s =>
      if k = "runner" then do readSections rest { s with runner := ← readRunner v }
      else if k = "api" then do readSections rest { s with api := ← readApi v }
      else if k = "types" then do readSections rest { s with names := .ofList (← readTypes v) }
      else .error (.unknownField k ["runner", "api", "types"])

def read (text : String) : Except ConfigProblem Settings :=
  match Toml.parse text with
  | none => .error .malformed
  | some table => readSections table {}

end BridgeTypings.Settings.Schema
