namespace BridgeTypings

inductive ReadFailure where
  | notFound
  | notADirectory
  | isADirectory
  | tooManyLinks
  | notUtf8
deriving DecidableEq, Repr

def ReadFailure.message : ReadFailure → String
  | .notFound => "No such file or directory (os error 2)"
  | .notADirectory => "Not a directory (os error 20)"
  | .isADirectory => "Is a directory (os error 21)"
  | .tooManyLinks => "Too many levels of symbolic links (os error 40)"
  | .notUtf8 => "stream did not contain valid UTF-8"

inductive ConfigProblem where
  | malformed
  | unknownField (name : String) (expected : List String)
  | wrongType (found wanted : String)
deriving DecidableEq, Repr

namespace ConfigProblem

def quotedName (name : String) : String :=
  "`" ++ name ++ "`"

def alternatives : List String → String
  | [name] => quotedName name
  | names => "one of " ++ ", ".intercalate (names.map quotedName)

def message? : ConfigProblem → Option String
  | .malformed => none
  | .unknownField name expected =>
      some ("unknown field " ++ quotedName name ++ ", expected " ++ alternatives expected)
  | .wrongType found wanted => some ("invalid type: " ++ found ++ ", expected " ++ wanted)

end ConfigProblem

/-- An empty path stands for a text that came from no file. -/
inductive Error where
  | read (path : String) (cause : ReadFailure)
  | walk (path : String) (cause : ReadFailure)
  | parse (path : String)
  | config (path : String) (problem : ConfigProblem)
  | runnerClassNotFound (className : String)
  | initMethodNotFound (className method : String)
  | noDeclaration (path : String)
  | unknownEntryField (binding field : String)
  | sizedDimension (text : String)
  | unsupportedType (path text : String)
deriving DecidableEq, Repr

namespace Error

def inFile (path : String) : Error → Error
  | .parse _ => .parse path
  | .noDeclaration _ => .noDeclaration path
  | .unsupportedType _ text => .unsupportedType path text
  | e => e

def message : Error → String
  | .read path cause => "failed to read " ++ path ++ ": " ++ cause.message
  | .walk path cause => "IO error for operation on " ++ path ++ ": " ++ cause.message
  | .parse path => "failed to parse " ++ path ++ ": syntax error"
  | .config path _ => "invalid config " ++ path ++ ": TOML parse error"
  | .runnerClassNotFound c => "runner class `" ++ c ++ "` not found"
  | .initMethodNotFound c m => "method `" ++ m ++ "` not found in class `" ++ c ++ "`"
  | .noDeclaration path => "no class or interface declaration in " ++ path
  | .unknownEntryField b f =>
      "binding `" ++ b ++ "` registers `" ++ f ++ "`, which is not a reference-typed field"
  | .sizedDimension text => "sized array dimension `[" ++ text ++ "]` is not supported"
  | .unsupportedType path text =>
      "unsupported type syntax `" ++ text ++ "`" ++ (if path = "" then "" else " in " ++ path)

end Error

end BridgeTypings
