namespace BridgeTypings

inductive Dimension where
  | unsized
  | sized (text : String)
deriving DecidableEq, Repr

/--
A type as it occurs in a declaration. `A.B<C>[]` is the segment `A` whose qualifier is the segment
`B` with one argument; the dimension stands on `A`. No argument clause and an empty one differ.
-/
inductive TypeExpr where
  | primitive (name : String) (dimensions : List Dimension)
  | named (name : String) (arguments : Option (List TypeExpr)) (qualifier : Option TypeExpr)
      (dimensions : List Dimension)
deriving Repr, Inhabited

namespace TypeExpr

def plain (name : String) : TypeExpr :=
  .named name none none []

def generic (name : String) (arguments : List TypeExpr) : TypeExpr :=
  .named name (some arguments) none []

def name : TypeExpr → String
  | .primitive n _ => n
  | .named n _ _ _ => n

def dimensions : TypeExpr → List Dimension
  | .primitive _ ds => ds
  | .named _ _ _ ds => ds

def isReference : TypeExpr → Bool
  | .primitive _ _ => false
  | .named _ _ _ _ => true

def withDimensions : TypeExpr → List Dimension → TypeExpr
  | .primitive n ds, es => .primitive n (ds ++ es)
  | .named n args q ds, es => .named n args q (ds ++ es)

def withDimension (t : TypeExpr) (d : Dimension) : TypeExpr :=
  t.withDimensions [d]

def array (t : TypeExpr) (count : Nat) : TypeExpr :=
  t.withDimensions (List.replicate count .unsized)

def nested (inner : TypeExpr) : TypeExpr → TypeExpr
  | .primitive n ds => .primitive n ds
  | .named n args none ds => .named n args (some inner) ds
  | .named n args (some q) ds => .named n args (some (nested inner q)) ds

theorem dimensions_withDimensions (t : TypeExpr) (es : List Dimension) :
    (t.withDimensions es).dimensions = t.dimensions ++ es := by
  cases t <;> rfl

theorem withDimensions_nil (t : TypeExpr) : t.withDimensions [] = t := by
  cases t <;> simp [withDimensions]

theorem withDimensions_append (t : TypeExpr) (ds es : List Dimension) :
    t.withDimensions (ds ++ es) = (t.withDimensions ds).withDimensions es := by
  cases t <;> simp [withDimensions]

theorem isReference_withDimensions (t : TypeExpr) (es : List Dimension) :
    (t.withDimensions es).isReference = t.isReference := by
  cases t <;> rfl

end TypeExpr

end BridgeTypings
