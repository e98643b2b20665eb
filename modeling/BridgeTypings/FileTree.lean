import BridgeTypings.Error
import BridgeTypings.Path

namespace BridgeTypings

inductive FileTree where
  | file (content : ByteArray)
  | directory (entries : List (String × FileTree))
  | link (target : String)
deriving Inhabited

namespace FileTree

abbrev Entries := List (String × FileTree)

def emptyDirectory : FileTree :=
  .directory []

def putOver : FileTree → FileTree → FileTree
  | .directory [], .directory entries => .directory entries
  | node, _ => node

def insert (node : FileTree) : List String → FileTree → FileTree
  | [], old => node.putOver old
  | name :: path, .directory entries =>
      match entries.lookup name with
      | none => .directory (entries ++ [(name, insert node path emptyDirectory)])
      | some child =>
          .directory
            (entries.map (fun e => if e.1 = name then (name, insert node path child) else e))
  | name :: path, _ => .directory [(name, insert node path emptyDirectory)]

structure Position where
  here : Entries
  above : List Entries

def Position.up (p : Position) : Position :=
  match p.above with
  | [] => p
  | parent :: others => ⟨parent, others⟩

inductive Arrival where
  | node (node : FileTree)
  | inside (position : Position)
  | link (position : Position) (target : String) (rest : List String)
  | failure (cause : ReadFailure)

def walk : Position → List String → Arrival
  | p, [] => .inside p
  | p, part :: rest =>
      if part = "" || part = "." then walk p rest
      else if part = ".." then walk p.up rest
      else
        match p.here.lookup part with
        | none => .failure .notFound
        | some (.link target) => .link p target rest
        | some (.directory entries) => walk ⟨entries, p.here :: p.above⟩ rest
        | some (.file content) =>
            if rest.isEmpty then .node (.file content) else .failure .notADirectory

end FileTree

structure FileSystem where
  root : FileTree.Entries
  directory : List String := []

namespace FileSystem

open FileTree

def top (fs : FileSystem) : Position :=
  ⟨fs.root, []⟩

def start (fs : FileSystem) : Position :=
  match walk fs.top fs.directory with
  | .inside p => p
  | _ => fs.top

def origin (fs : FileSystem) (current : Position) (path : String) : Position :=
  if Path.isAbsolute path then fs.top else current

/-- Walks along a path and at most so many links; a link at the end counts if `last` is set. -/
def follow (fs : FileSystem) (last : Bool) :
    Nat → Position → List String → Except ReadFailure FileTree
  | links, p, parts =>
      match walk p parts with
      | .node node => .ok node
      | .inside q => .ok (.directory q.here)
      | .failure cause => .error cause
      | .link q target rest =>
          if rest.isEmpty && !last then .ok (.link target)
          else
            match links with
            | 0 => .error .tooManyLinks
            | links + 1 =>
                if target = "" then .error .notFound
                else follow fs last links (fs.origin q target) (Path.parts target ++ rest)

def linkLimit : Nat := 40

def resolve (fs : FileSystem) (last : Bool) (path : String) : Except ReadFailure FileTree :=
  if path = "" then .error .notFound
  else fs.follow last linkLimit (fs.origin fs.start path) (Path.parts path)

def place (fs : FileSystem) (path : String) : List String :=
  let step (above : List String) (part : String) : List String :=
    if part = "" || part = "." then above
    else if part = ".." then above.tail
    else part :: above
  ((Path.parts path).foldl step
    (if Path.isAbsolute path then [] else fs.directory.reverse)).reverse

def insert (fs : FileSystem) (path : String) (node : FileTree) : FileSystem :=
  match FileTree.insert node (fs.place path) (.directory fs.root) with
  | .directory entries => { fs with root := entries }
  | _ => fs

def isFile (fs : FileSystem) (path : String) : Bool :=
  match fs.resolve true path with
  | .ok (.file _) => true
  | _ => false

def decode (content : ByteArray) : Except ReadFailure String :=
  match String.fromUTF8? content with
  | some text => .ok text
  | none => .error .notUtf8

def read (fs : FileSystem) (path : String) : Except ReadFailure String :=
  match fs.resolve true path with
  | .error cause => .error cause
  | .ok (.file content) => decode content
  | .ok _ => .error .isADirectory

def nameLE (a b : String) : Bool :=
  decide (a.toUTF8.toList ≤ b.toUTF8.toList)

mutual

def files (path : String) : FileTree → List (String × ByteArray)
  | .file content => [(path, content)]
  | .link _ => []
  | .directory entries =>
      ((filesIn path entries).mergeSort (fun a b => nameLE a.1 b.1)).flatMap Prod.snd

def filesIn (path : String) : List (String × FileTree) → List (String × List (String × ByteArray))
  | [] => []
  | (name, node) :: rest => (name, files (Path.join path name) node) :: filesIn path rest

end

def filesUnder (fs : FileSystem) (path : String) : Except Error (List (String × ByteArray)) :=
  match fs.resolve false path with
  | .error cause => .error (.walk path cause)
  | .ok (.link _) =>
      match fs.resolve true path with
      | .error cause => .error (.walk path cause)
      | .ok (.directory entries) => .ok (files path (.directory entries))
      | .ok _ => .ok []
  | .ok node => .ok (files path node)

end FileSystem

end BridgeTypings
