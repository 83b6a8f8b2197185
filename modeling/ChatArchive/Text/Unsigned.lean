namespace ChatArchive

namespace Unsigned

-- Why a text is not an unsigned integer in range.
inductive Trouble where
  | empty
  | invalidDigit
  | tooLarge
  deriving Repr, DecidableEq

def Trouble.text : Trouble → String
  | .empty => "cannot parse integer from empty string"
  | .invalidDigit => "invalid digit found in string"
  | .tooLarge => "number too large to fit in target type"

-- Reads the digits of `cs` after the value `acc`, keeping it at most `max`.
def digits (max acc : Nat) : List Char → Except Trouble Nat
  | [] => .ok acc
  | c :: rest =>
    if c.isDigit then
      let v := acc * 10 + (c.toNat - '0'.toNat)
      if v > max then .error .tooLarge else digits max v rest
    else .error .invalidDigit

-- The value of a text as an unsigned integer at most `max`.
def parse (max : Nat) (s : String) : Except Trouble Nat :=
  match s.toList with
  | [] => .error .empty
  | ['+'] | ['-'] => .error .invalidDigit
  | '+' :: rest => digits max 0 rest
  | cs => digits max 0 cs

end Unsigned

end ChatArchive
