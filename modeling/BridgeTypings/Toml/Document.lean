import BridgeTypings.Toml.Value

namespace BridgeTypings.Toml

inductive Origin where
  | header
  | parent
  | dotted
deriving DecidableEq, Repr

inductive Node where
  | value (value : Value)
  | table (origin : Origin) (entries : List (String × Node))
  | tables (items : List (List (String × Node)))
deriving Inhabited

abbrev Entries := List (String × Node)

namespace Node

mutual

def toValue : Node → Value
  | .value v => v
  | .table _ entries => .table (entriesToValues entries)
  | .tables items => .array (itemsToValues items)

def entriesToValues : List (String × Node) → List (String × Value)
  | [] => []
  | (k, n) :: rest => (k, toValue n) :: entriesToValues rest

def itemsToValues : List (List (String × Node)) → List Value
  | [] => []
  | entries :: rest => .table (entriesToValues entries) :: itemsToValues rest

end

end Node

def replaceEntry (key : String) (node : Node) (entries : Entries) : Entries :=
  entries.map (fun e => if e.1 = key then (e.1, node) else e)

structure Place where
  origin : Origin
  entries : Entries

/-- Dotted keys do not pass through a table that a header opened; no path passes through a value. -/
def changeAt (dotted : Bool) (f : Place → Option Entries) :
    List String → Place → Option Entries
  | [], place => f place
  | k :: path, place =>
      match place.entries.lookup k with
      | none => do
          let origin := if dotted then .dotted else .parent
          let entries ← changeAt dotted f path ⟨origin, []⟩
          return place.entries ++ [(k, .table origin entries)]
      | some (.value _) => none
      | some (.table origin entries) =>
          if dotted && origin = .header then none
          else do
            let entries ← changeAt dotted f path ⟨origin, entries⟩
            return replaceEntry k (.table origin entries) place.entries
      | some (.tables items) =>
          match items.getLast? with
          | none => none
          | some last => do
              let last ← changeAt dotted f path ⟨.header, last⟩
              return replaceEntry k (.tables (items.dropLast ++ [last])) place.entries

def addEntry (key : String) (node : Node) (entries : Entries) : Option Entries :=
  if (entries.lookup key).isSome then none else some (entries ++ [(key, node)])

def addValue (path : List String) (key : String) (value : Value) (table : Place) :
    Option Entries :=
  changeAt true
    (fun place =>
      if (place.origin == .dotted) == path.isEmpty then none
      else addEntry key (.value value) place.entries)
    path table

structure Open where
  path : List String
  inArray : Bool
  entries : Entries

structure Document where
  root : Entries
  current : Option Open

namespace Document

def empty : Document :=
  ⟨[], none⟩

def close (d : Document) : Option Entries :=
  match d.current with
  | none => some d.root
  | some o =>
      changeAt false
        (fun parent =>
          let key := o.path.getLast?.getD ""
          if o.inArray then
            match parent.entries.lookup key with
            | some (.tables items) =>
                some (replaceEntry key (.tables (items ++ [o.entries])) parent.entries)
            | _ => none
          else addEntry key (.table .header o.entries) parent.entries)
        o.path.dropLast ⟨.header, d.root⟩

def find (key : String) : List String → Entries → Option Node
  | [], entries => entries.lookup key
  | k :: path, entries =>
      match entries.lookup k with
      | some (.table _ inner) => find key path inner
      | some (.tables items) => find key path (items.getLast?.getD [])
      | _ => none

def openTable (path : List String) (key : String) (d : Document) : Option Document := do
  let root ← d.close
  let taken :=
    match find key path root with
    | some (.table .parent entries) => entries
    | _ => []
  let root ← changeAt false
    (fun parent =>
      match parent.entries.lookup key with
      | none => some parent.entries
      | some (.table .parent _) => some (parent.entries.filter (fun e => e.1 != key))
      | some _ => none)
    path ⟨.header, root⟩
  return ⟨root, some ⟨path ++ [key], false, taken⟩⟩

def openArray (path : List String) (key : String) (d : Document) : Option Document := do
  let root ← d.close
  let root ← changeAt false
    (fun parent =>
      match parent.entries.lookup key with
      | none => some (parent.entries ++ [(key, .tables [])])
      | some (.tables _) => some parent.entries
      | some _ => none)
    path ⟨.header, root⟩
  return ⟨root, some ⟨path ++ [key], true, []⟩⟩

def add (path : List String) (key : String) (value : Value) (d : Document) : Option Document :=
  match d.current with
  | none => do return ⟨← addValue path key value ⟨.header, d.root⟩, none⟩
  | some o => do
      return ⟨d.root, some { o with entries := ← addValue path key value ⟨.header, o.entries⟩ }⟩

def toTable (d : Document) : Option Table := do
  return Node.entriesToValues (← d.close)

end Document

end BridgeTypings.Toml
