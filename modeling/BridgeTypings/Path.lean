namespace BridgeTypings.Path

def isAbsolute (path : String) : Bool :=
  path.toList.head? == some '/'

def join (base rest : String) : String :=
  if isAbsolute rest || base = "" then rest
  else if base.toList.getLast? = some '/' then base ++ rest
  else base ++ "/" ++ rest

def split : List Char → List (List Char)
  | [] => [[]]
  | c :: cs =>
      if c = '/' then [] :: split cs
      else
        match split cs with
        | [] => [[c]]
        | part :: parts => (c :: part) :: parts

def parts (path : String) : List String :=
  (split path.toList).map String.ofList

def fileName? (path : String) : Option String :=
  match ((parts path).filter (fun p => p != "" && p != ".")).getLast? with
  | none => none
  | some name => if name = ".." then none else some name

def nameExtension? (name : String) : Option String :=
  let cs := name.toList
  let after := (cs.reverse.takeWhile (· != '.')).reverse
  if after.length + 1 < cs.length then some (String.ofList after) else none

def extension? (path : String) : Option String :=
  (fileName? path).bind nameExtension?

end BridgeTypings.Path
