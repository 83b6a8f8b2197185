import ChatArchive.Json.Mismatch

namespace ChatArchive

namespace Json

-- A JSON value.
inductive Value where
  | null
  | bool (b : Bool)
  | num (n : Number)
  | str (s : String)
  | arr (items : List Value)
  | obj (members : List (String × Value))
  deriving Repr, Inhabited

-- What a value is, as mismatch messages describe it.
def Value.found : Value → Found
  | .null => .null
  | .bool b => .bool b
  | .num n => n.found
  | .str s => .str s
  | .arr _ => .seq
  | .obj _ => .map

def Value.int (n : Int) : Value := if n ≥ 0 then .num (.nat n.toNat) else .num (.neg n)

def Value.option (f : α → Value) : Option α → Value
  | some a => f a
  | none => .null

end Json

end ChatArchive
