namespace ChatArchive

namespace Pem

-- Why a body is not base64.
inductive Base64Error where
  | invalidCharacter (b : UInt8)
  | prematurePadding
  | invalidTrailingPadding
  deriving Repr, DecidableEq

def Base64Error.text : Base64Error → String
  | .invalidCharacter b => "InvalidCharacter(" ++ toString b.toNat ++ ")"
  | .prematurePadding => "PrematurePadding"
  | .invalidTrailingPadding => "InvalidTrailingPadding"

-- The six-bit value of an alphabet byte.
def sextet? (c : UInt8) : Option Nat :=
  if 65 ≤ c && c ≤ 90 then some (c.toNat - 65)
  else if 97 ≤ c && c ≤ 122 then some (c.toNat - 71)
  else if 48 ≤ c && c ≤ 57 then some (c.toNat + 4)
  else if c == 43 then some 62
  else if c == 47 then some 63
  else none

def isSkipped (c : UInt8) : Bool := c == 32 || c == 9 || c == 10 || c == 13

-- The bytes of groups of four values, and of a short last group of two or three.
def bytesOf : List Nat → List UInt8
  | a :: b :: c :: d :: more =>
    let n := ((a * 64 + b) * 64 + c) * 64 + d
    (n / 65536).toUInt8 :: (n / 256 % 256).toUInt8 :: (n % 256).toUInt8 :: bytesOf more
  | [a, b, c] =>
    let n := (a * 64 + b) * 64 + c
    [(n / 1024).toUInt8, (n / 4 % 256).toUInt8]
  | [a, b] => [((a * 64 + b) / 16).toUInt8]
  | _ => []

-- The bytes of the last block, each character its value or nothing for padding.
def lastBlock (block : List (Option Nat)) : Except Base64Error (List UInt8) :=
  let values := block.filterMap id
  let pads := block.length - values.length
  -- padding closes the block
  let closed := (block.take values.length).all Option.isSome
  let fits := if pads == 0 then block.length != 1 && block.length != 5
    else pads ≤ 2 && (block.length == 4 || block.length == 8)
  if closed && fits then .ok (bytesOf values) else .error .invalidTrailingPadding

-- Decodes the rest of a body: `block` holds the characters of the open block, `out` the bytes
-- of the blocks before it.
def decodeFrom : List UInt8 → List (Option Nat) → List UInt8 → Except Base64Error (List UInt8)
  | [], block, out => (out ++ ·) <$> lastBlock block
  | c :: rest, block, out =>
    if isSkipped c then decodeFrom rest block out
    else
      let symbol? : Option (Option Nat) := if c == 61 then some none else some <$> sextet? c
      match symbol? with
      | none => .error (.invalidCharacter c)
      | some symbol =>
        if block.length == 8 then
          if block.any Option.isNone then .error .prematurePadding
          else decodeFrom rest [symbol] (out ++ bytesOf (block.filterMap id))
        else decodeFrom rest (block ++ [symbol]) out

def decode (body : List UInt8) : Except Base64Error (List UInt8) := decodeFrom body [] []

end Pem

end ChatArchive
