import ChatArchive.Json.Number
import ChatArchive.Text.Quoted

namespace ChatArchive

namespace Json

-- What the reader found where a value of another shape was expected.
inductive Found where
  | bool (b : Bool)
  | unsigned (n : Nat)
  | signed (n : Int)
  | float (bits : UInt64)
  | str (s : String)
  | null
  | seq
  | map
  deriving Repr, DecidableEq

def floatText (bits : UInt64) : String :=
  let s := Binary64.display bits
  if s.toList.contains '.' then s else s ++ ".0"

-- The description of a found value, as it appears in a message.
def Found.describe : Found → String
  | .bool b => "boolean `" ++ toString b ++ "`"
  | .unsigned n => "integer `" ++ toString n ++ "`"
  | .signed n => "integer `" ++ toString n ++ "`"
  | .float bits => "floating point `" ++ floatText bits ++ "`"
  | .str s => "string " ++ Quoted.quote s
  | .null => "null"
  | .seq => "sequence"
  | .map => "map"

def Number.found : Number → Found
  | .nat n => .unsigned n
  | .neg n => .signed n
  | .float bits => .float bits

-- The list of allowed names: one, two joined by `or`, or more after `one of`.
def oneOf (names : List String) : String :=
  let tick (n : String) := "`" ++ n ++ "`"
  match names with
  | [a] => tick a
  | [a, b] => tick a ++ " or " ++ tick b
  | _ => "one of " ++ ", ".intercalate (names.map tick)

def invalidType (found : Found) (expected : String) : String :=
  "invalid type: " ++ found.describe ++ ", expected " ++ expected

def invalidValue (found : Found) (expected : String) : String :=
  "invalid value: " ++ found.describe ++ ", expected " ++ expected

def invalidLength (length : Nat) (expected : String) : String :=
  "invalid length " ++ toString length ++ ", expected " ++ expected

def unknownVariant (name : String) (variants : List String) : String :=
  if variants.isEmpty then "unknown variant `" ++ name ++ "`, there are no variants"
  else "unknown variant `" ++ name ++ "`, expected " ++ oneOf variants

def unknownField (name : String) (fields : List String) : String :=
  if fields.isEmpty then "unknown field `" ++ name ++ "`, there are no fields"
  else "unknown field `" ++ name ++ "`, expected " ++ oneOf fields

def missingField (name : String) : String := "missing field `" ++ name ++ "`"

def duplicateField (name : String) : String := "duplicate field `" ++ name ++ "`"

def withElements (expected : String) (count : Nat) : String :=
  expected ++ " with " ++ toString count ++ " element" ++ (if count == 1 then "" else "s")

def elementsInSequence (count : Nat) : String :=
  if count == 1 then "1 element in sequence" else toString count ++ " elements in sequence"

def variantIndex (count : Nat) : String := "variant index 0 <= i < " ++ toString count

end Json

end ChatArchive
