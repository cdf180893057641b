import VolumeNode.Json.Number
import VolumeNode.Text.Quoted

/-!
# JSON values

An object keeps its members in the order of the text, repeated names included, since the first
fault in that order is the one reported.
-/

namespace VolumeNode

/-- A JSON value. -/
inductive Json where
  | null
  | bool (b : Bool)
  | number (n : Json.Number)
  | string (s : String)
  | array (items : List Json)
  | object (members : List (String × Json))

namespace Json

/-- What a value is called where another kind of value was expected. -/
def described : Json → String
  | .null => "null"
  | .bool true => "boolean `true`"
  | .bool false => "boolean `false`"
  | .number (.natural n) => "integer `" ++ toString n ++ "`"
  | .number (.negative n) => "integer `-" ++ toString n ++ "`"
  | .number (.float minus m) => "floating point `" ++ Number.floatText minus m ++ "`"
  | .string s => "string " ++ Text.quoted s
  | .array _ => "sequence"
  | .object _ => "map"

end Json

end VolumeNode
