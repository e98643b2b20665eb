import BridgeTypings.OrderedMap
import BridgeTypings.TypeExpr

namespace BridgeTypings

structure Parameter where
  type : TypeExpr
  variadic : Bool
deriving Repr

structure Method where
  returns : Option TypeExpr
  parameters : OrderedMap Parameter
deriving Repr

inductive Attribute where
  | field (type : TypeExpr)
  | method (method : Method)
deriving Repr

inductive Kind where
  | classKind (implements : List TypeExpr)
  | interfaceKind
deriving Repr

namespace Kind

def keyword : Kind → String
  | .classKind _ => "class"
  | .interfaceKind => "interface"

def implements : Kind → List TypeExpr
  | .classKind types => types
  | .interfaceKind => []

end Kind

structure Declaration where
  kind : Kind
  extends? : Option TypeExpr
  attributes : List (String × Attribute)
deriving Repr

namespace Declaration

def implements (d : Declaration) : List TypeExpr :=
  d.kind.implements

def add (d : Declaration) (name : String) (item : Attribute) : Declaration :=
  { d with attributes := d.attributes ++ [(name, item)] }

def addField (d : Declaration) (name : String) (type : TypeExpr) : Declaration :=
  d.add name (.field type)

def addMethod (d : Declaration) (name : String) (method : Method) : Declaration :=
  d.add name (.method method)

end Declaration

abbrev Declarations := OrderedMap Declaration

abbrev EntryPoints := OrderedMap TypeExpr

end BridgeTypings
