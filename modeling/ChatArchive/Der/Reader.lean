namespace ChatArchive

namespace Der

def sequenceTag : UInt8 := 0x30
def integerTag : UInt8 := 0x02
def bitStringTag : UInt8 := 0x03
def octetStringTag : UInt8 := 0x04
def nullTag : UInt8 := 0x05
def oidTag : UInt8 := 0x06
def booleanTag : UInt8 := 0x01

def fieldTag (n : Nat) : UInt8 := (0xA0 + n).toUInt8

def lengthLimit : Nat := 65535

def natOf (bs : List UInt8) : Nat := bs.foldl (fun n b => n * 256 + b.toNat) 0

-- A length and the bytes after it, unless it is not in its shortest form or takes more than two
-- bytes.
def readLength : List UInt8 → Option (Nat × List UInt8)
  | [] => none
  | first :: rest =>
    if first < 128 then some (first.toNat, rest)
    else if first == 0x81 then
      match rest with
      | b :: more => if b < 128 then none else some (b.toNat, more)
      | [] => none
    else if first == 0x82 then
      match rest with
      | b1 :: b2 :: more =>
        let n := b1.toNat * 256 + b2.toNat
        if n < 256 then none else some (n, more)
      | _ => none
    else none

-- The first value of some bytes: its tag, its contents and the bytes after it.
def read? (s : List UInt8) : Option (UInt8 × List UInt8 × List UInt8) :=
  match s with
  | [] => none
  | tag :: rest =>
    if tag &&& 31 == 31 then none
    else do
      let (n, more) ← readLength rest
      if n ≥ lengthLimit || more.length < n then none
      else some (tag, more.take n, more.drop n)

def expect? (tag : UInt8) (s : List UInt8) : Option (List UInt8 × List UInt8) := do
  let (t, contents, rest) ← read? s
  if t == tag then some (contents, rest) else none

def startsWith (tag : UInt8) (s : List UInt8) : Bool := s.head? == some tag

def unsignedBytes? : List UInt8 → Option (List UInt8)
  | [] => none
  | [0] => some [0]
  | 0 :: b :: more => if b ≥ 128 then some (b :: more) else none
  | b :: more => if b ≥ 128 then none else some (b :: more)

def unsigned? (contents : List UInt8) : Option Nat := natOf <$> unsignedBytes? contents

def lengthBytes (n : Nat) : List UInt8 :=
  if n < 128 then [n.toUInt8]
  else if n < 256 then [0x81, n.toUInt8]
  else if n < 65536 then [0x82, (n / 256).toUInt8, (n % 256).toUInt8]
  else [0x83, (n / 65536).toUInt8, (n / 256 % 256).toUInt8, (n % 256).toUInt8]

def wrap (tag : UInt8) (contents : List UInt8) : List UInt8 :=
  tag :: lengthBytes contents.length ++ contents

def bytesOf (width n : Nat) : List UInt8 :=
  let rec go : Nat → Nat → List UInt8 → List UInt8
    | 0, _, acc => acc
    | fuel + 1, m, acc => if m == 0 && acc.length ≥ width then acc else go fuel (m / 256) ((m % 256).toUInt8 :: acc)
  go (width + n.log2 / 8 + 2) n []

def integerContents (n : Nat) : List UInt8 :=
  let bs := bytesOf 1 n
  match bs with
  | b :: _ => if b ≥ 128 then 0 :: bs else bs
  | [] => [0]

end Der

end ChatArchive
