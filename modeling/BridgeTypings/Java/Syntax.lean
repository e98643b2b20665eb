namespace BridgeTypings.Java

abbrev AnnotationName := String

/--
A pair of brackets behind a type or a declared name, with the text between them. Only in the
creation of an array is there one.
-/
structure Brackets where
  annotations : List AnnotationName
  size : Option String
deriving Repr

mutual

inductive TypeSyntax where
  | void
  | primitive (name : String)
  | dotted (first : Segment) (rest : List Segment)
  | array (element : TypeSyntax) (brackets : List Brackets)
  | annotated (annotations : List AnnotationName) (type : TypeSyntax)
  | wildcard (annotations : List AnnotationName) (bound : Option TypeSyntax)

inductive Segment where
  | mk (annotations : List AnnotationName) (name : String) (arguments : Option (List TypeSyntax))

end

def Segment.name : Segment → String
  | .mk _ n _ => n

def Segment.arguments : Segment → Option (List TypeSyntax)
  | .mk _ _ types => types

inductive Expression where
  | name (text : String)
  | string (literal : String)
  | call (object : Option Expression) (method : String) (arguments : List Expression)
  | other
deriving Repr, Inhabited

inductive Statement where
  | expression (value : Expression) (text : String)
  | comment (text : String)
  | empty
  | other (text : String)
deriving Repr, Inhabited

structure Declarator where
  name : String
  brackets : List Brackets
deriving Repr

structure Field where
  annotations : List AnnotationName
  type : TypeSyntax
  declarators : List Declarator

inductive Parameter where
  | formal (type : TypeSyntax) (declarator : Declarator)
  | spread (type : TypeSyntax) (declarator : Declarator)
  | receiver

structure Method where
  annotations : List AnnotationName
  returns : TypeSyntax
  name : String
  parameters : List Parameter
  brackets : List Brackets
  body : Option (List Statement)

inductive Member where
  | field (field : Field)
  | method (method : Method)
  | other

inductive Heading where
  | classHeading (superclass : Option TypeSyntax) (interfaces : List TypeSyntax)
  | interfaceHeading (parents : List TypeSyntax)

/--
`nested` holds the classes and interfaces declared anywhere inside that stand in no other of them, in
source order.
-/
inductive TypeDeclaration where
  | mk (heading : Heading) (name : String) (members : List Member) (nested : List TypeDeclaration)

namespace TypeDeclaration

def heading : TypeDeclaration → Heading
  | .mk h _ _ _ => h

def name : TypeDeclaration → String
  | .mk _ n _ _ => n

def members : TypeDeclaration → List Member
  | .mk _ _ ms _ => ms

def nested : TypeDeclaration → List TypeDeclaration
  | .mk _ _ _ ds => ds

def isClass (d : TypeDeclaration) : Bool :=
  match d.heading with
  | .classHeading _ _ => true
  | .interfaceHeading _ => false

mutual

def preorder : TypeDeclaration → List TypeDeclaration
  | .mk h n ms ds => .mk h n ms ds :: preorderAll ds

def preorderAll : List TypeDeclaration → List TypeDeclaration
  | [] => []
  | d :: ds => preorder d ++ preorderAll ds

end

end TypeDeclaration

end BridgeTypings.Java
