import BridgeTypings.Number.Binary64

namespace BridgeTypings.Toml

inductive Float where
  | decimal (value : Number.Decimal)
  | infinity (negative : Bool)
  | nan
deriving Repr

inductive Value where
  | string (text : String)
  | integer (value : Int)
  | float (value : Float)
  | boolean (value : Bool)
  | datetime (text : String)
  | array (items : List Value)
  | table (entries : List (String × Value))
deriving Repr, Inhabited

abbrev Table := List (String × Value)

def Float.text : Float → String
  | .decimal d => d.shortText
  | .infinity negative => if negative then "-inf" else "inf"
  | .nan => "NaN"

end BridgeTypings.Toml
