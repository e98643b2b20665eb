import BridgeTypings.Generation
import BridgeTypings.Settings.Load

namespace BridgeTypings.CommandLine

structure Options where
  path : Option String := none
  config : Option String := none
  runner : Option String := none
  apiDir : Option String := none
  verbosity : Nat := 0
deriving DecidableEq, Repr

inductive Request where
  | run (options : Options)
  | version
  | help
  | misuse
deriving DecidableEq, Repr

inductive Setting where
  | config
  | runner
  | apiDir
deriving DecidableEq, Repr

def Options.set (o : Options) (which : Setting) (value : String) : Option Options :=
  if value = "" then none
  else
    match which with
    | .config => if o.config.isSome then none else some { o with config := some value }
    | .runner => if o.runner.isSome then none else some { o with runner := some value }
    | .apiDir => if o.apiDir.isSome then none else some { o with apiDir := some value }

def Options.setPath (o : Options) (value : String) : Option Options :=
  if value = "" || o.path.isSome then none else some { o with path := some value }

inductive Step where
  | go (options : Options)
  | needsValue (which : Setting) (options : Options)
  | stop (request : Request)

def Step.ofOption : Option Options → Step
  | some o => .go o
  | none => .stop .misuse

def longStep (o : Options) (text : List Char) : Step :=
  let name := String.ofList (text.takeWhile (· != '='))
  let value? :=
    match text.dropWhile (· != '=') with
    | [] => none
    | _ :: value => some (String.ofList value)
  let valued (which : Setting) : Step :=
    match value? with
    | none => .needsValue which o
    | some value => .ofOption (o.set which value)
  if name = "config" then valued .config
  else if name = "runner" then valued .runner
  else if name = "api-dir" then valued .apiDir
  else if value?.isSome then .stop .misuse
  else if name = "verbose" then .go { o with verbosity := o.verbosity + 1 }
  else if name = "version" then .stop .version
  else if name = "help" then .stop .help
  else .stop .misuse

def shortStep (o : Options) : List Char → Step
  | [] => .go o
  | 'v' :: rest => shortStep { o with verbosity := o.verbosity + 1 } rest
  | 'V' :: _ => .stop .version
  | 'h' :: _ => .stop .help
  | ['c'] => .needsValue .config o
  | 'c' :: '=' :: value => .ofOption (o.set .config (String.ofList value))
  | 'c' :: value => .ofOption (o.set .config (String.ofList value))
  | _ :: _ => .stop .misuse

def isDashed (arg : String) : Bool :=
  match arg.toList with
  | '-' :: _ :: _ => true
  | _ => false

def step (o : Options) (arg : String) : Step :=
  match arg.toList with
  | '-' :: '-' :: text => longStep o text
  | '-' :: c :: text => shortStep o (c :: text)
  | _ => .ofOption (o.setPath arg)

def parsePaths : Options → List String → Request
  | o, [] => if o.path.isSome then .run o else .misuse
  | o, arg :: rest =>
      match o.setPath arg with
      | none => .misuse
      | some o => parsePaths o rest

def parseFrom : Options → List String → Request
  | o, [] => if o.path.isSome then .run o else .misuse
  | o, arg :: rest =>
      if arg = "--" then parsePaths o rest
      else
        match step o arg with
        | .go o => parseFrom o rest
        | .stop request => request
        | .needsValue which o =>
            match rest with
            | [] => .misuse
            | value :: rest =>
                if isDashed value then .misuse
                else
                  match o.set which value with
                  | none => .misuse
                  | some o => parseFrom o rest

def parse (args : List String) : Request :=
  parseFrom {} args

def namedSettings (fs : FileSystem) (o : Options) : Except Error Settings :=
  match o.config with
  | none => .ok {}
  | some path => Settings.loadFile fs path

def Options.settings (o : Options) : Settings where
  runner := { path := o.runner }
  api := { dir := o.apiDir }

def settings (fs : FileSystem) (env : Settings.Environment) (o : Options) : Run Settings := do
  let base ← Settings.load fs env (o.path.getD "")
  let named ← .ofExcept (namedSettings fs o)
  return (base.merge named).merge o.settings

structure Outcome where
  exit : Nat
  stdout : String
  stderr : String
deriving DecidableEq, Repr

def report : Error → String
  | .read path cause => (Error.read path cause).message ++ ": " ++ cause.message
  | .walk path cause => (Error.walk path cause).message ++ ": " ++ cause.message
  | e => e.message

def failed (context : String) (e : Error) : Outcome :=
  ⟨1, "", "error: " ++ context ++ report e ++ "\n"⟩

def perform (fs : FileSystem) (env : Settings.Environment) (o : Options) : Outcome :=
  match (settings fs env o).result with
  | .error e => failed "" e
  | .ok s =>
      let path := o.path.getD ""
      match (Generation.run fs path s).result with
      | .error e => failed ("generating declarations for " ++ path ++ ": ") e
      | .ok g => ⟨0, g.output, ""⟩

def Options.level (o : Options) : Level :=
  match o.verbosity with
  | 0 => .warn
  | 1 => .info
  | 2 => .debug
  | _ => .trace

def eventLine (e : Event) : String :=
  e.level.name ++ " " ++ e.message ++ String.join (e.fields.map (fun f => " " ++ f.1 ++ "=" ++ f.2))

def log (fs : FileSystem) (env : Settings.Environment) (o : Options) : List String :=
  let run : Run Generation := do
    Generation.run fs (o.path.getD "") (← settings fs env o)
  (run.events.filter (fun e => o.level.rank ≤ e.level.rank)).map eventLine

def usage : String :=
  "Usage: phonk-typegen [OPTIONS] <PATH>\n"

def helpText : String :=
  "Generate TypeScript declarations for the PHONK scripting API\n\n" ++ usage ++
    "\nArguments:\n  <PATH>  Root of the PHONK checkout\n" ++
    "\nOptions:\n" ++
    "  -c, --config <FILE>  Extra config file, layered over the global and checkout config\n" ++
    "      --runner <FILE>  Runner source file, relative to the checkout root\n" ++
    "      --api-dir <DIR>  API source directory, relative to the checkout root\n" ++
    "  -v, --verbose...     More log output on stderr (-v info, -vv debug, -vvv trace)\n" ++
    "  -h, --help           Print help\n" ++
    "  -V, --version        Print version\n"

def run (fs : FileSystem) (env : Settings.Environment) (args : List String) : Outcome :=
  match parse args with
  | .misuse => ⟨2, "", usage⟩
  | .version => ⟨0, "phonk-typegen 0.1.0\n", ""⟩
  | .help => ⟨0, helpText, ""⟩
  | .run o => perform fs env o

end BridgeTypings.CommandLine
