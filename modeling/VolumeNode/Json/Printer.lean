import VolumeNode.Json.Value
import VolumeNode.Json.Text

/-!
# Writing JSON values

A value is written without blanks, an object in the order of its members.
-/

namespace VolumeNode.Json

/-- A number as it is written. -/
def Number.write : Number → List Char
  | .natural n => Nat.toDigits 10 n
  | .negative n => '-' :: Nat.toDigits 10 n
  | .float minus m => (Number.floatText minus m).toList

mutual

/-- The text of a value. -/
def write : Json → List Char
  | .null => ['n', 'u', 'l', 'l']
  | .bool true => ['t', 'r', 'u', 'e']
  | .bool false => ['f', 'a', 'l', 's', 'e']
  | .number n => n.write
  | .string s => writeString s
  | .array [] => ['[', ']']
  | .array (v :: items) => '[' :: write v ++ writeItems items
  | .object [] => ['\x7b', '\x7d']
  | .object ((name, v) :: members) =>
    '\x7b' :: writeString name ++ ':' :: write v ++ writeMembers members

/-- The items behind the first one, and the closing bracket. -/
def writeItems : List Json → List Char
  | [] => [']']
  | v :: items => ',' :: write v ++ writeItems items

/-- The members behind the first one, and the closing bracket. -/
def writeMembers : List (String × Json) → List Char
  | [] => ['\x7d']
  | (name, v) :: members => ',' :: writeString name ++ ':' :: write v ++ writeMembers members

end

/-- The text of a value. -/
def render (v : Json) : String :=
  String.ofList (write v)

end VolumeNode.Json
