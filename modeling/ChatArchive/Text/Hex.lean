namespace ChatArchive

namespace Hex

def digit (n : Nat) : Char := if n < 10 then Char.ofNat (48 + n) else Char.ofNat (87 + n)

def encode (bytes : ByteArray) : String :=
  String.ofList (bytes.toList.flatMap fun b => [digit (b.toNat / 16), digit (b.toNat % 16)])

def value? (c : Char) : Option Nat :=
  if '0' ≤ c && c ≤ '9' then some (c.toNat - 48)
  else if 'a' ≤ c && c ≤ 'f' then some (c.toNat - 87)
  else if 'A' ≤ c && c ≤ 'F' then some (c.toNat - 55)
  else none

-- The bytes of pairs of hex digits.
def pairs : List Char → Option (List UInt8)
  | [] => some []
  | [_] => none
  | a :: b :: rest => do
    let hi ← value? a
    let lo ← value? b
    return (hi * 16 + lo).toUInt8 :: (← pairs rest)

def decode (text : String) : Option ByteArray := (fun l => ⟨l.toArray⟩) <$> pairs text.toList

end Hex

end ChatArchive
