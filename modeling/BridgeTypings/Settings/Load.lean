import BridgeTypings.Settings.Schema

namespace BridgeTypings.Settings

structure Environment where
  home : String
  configHome : Option String
deriving DecidableEq, Repr

def loadFile (fs : FileSystem) (path : String) : Except Error Settings :=
  match fs.read path with
  | .error cause => .error (.read path cause)
  | .ok text =>
      match Schema.read text with
      | .error problem => .error (.config path problem)
      | .ok settings => .ok settings

def globalPath? (env : Environment) : Option String :=
  let base :=
    match env.configHome with
    | some dir => some dir
    | none => if env.home = "" then none else some (Path.join env.home ".config")
  base.map (fun dir => Path.join (Path.join dir "phonk-typegen") "config.toml")

def projectPath (root : String) : String :=
  Path.join root ".phonk-typegen.toml"

def layer (fs : FileSystem) (settings : Settings) (path : String) : Run Settings :=
  if fs.isFile path then
    match loadFile fs path with
    | .ok later => do
        .report .debug "loaded config" [("path", path)]
        return settings.merge later
    | .error e => do
        .report .warn ("ignoring config: " ++ e.message) []
        return settings
  else return settings

def layers (fs : FileSystem) : Settings → List String → Run Settings
  | settings, [] => return settings
  | settings, path :: rest => do layers fs (← layer fs settings path) rest

def load (fs : FileSystem) (env : Environment) (root : String) : Run Settings :=
  layers fs {} ((globalPath? env).toList ++ [projectPath root])

end BridgeTypings.Settings
