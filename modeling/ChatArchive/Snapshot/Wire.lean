namespace ChatArchive

namespace Proto

-- How a field's value is laid out.
inductive WireType where
  | varint
  | fixed64
  | delimited
  | startGroup
  | endGroup
  | fixed32
  deriving Repr, DecidableEq

-- The name of a wire type, as faults show it.
def WireType.name : WireType → String
  | .varint => "Varint"
  | .fixed64 => "SixtyFourBit"
  | .delimited => "LengthDelimited"
  | .startGroup => "StartGroup"
  | .endGroup => "EndGroup"
  | .fixed32 => "ThirtyTwoBit"

-- The number a wire type is written with.
def WireType.code : WireType → Nat
  | .varint => 0
  | .fixed64 => 1
  | .delimited => 2
  | .startGroup => 3
  | .endGroup => 4
  | .fixed32 => 5

-- The wire type written with the number `n`.
def WireType.ofCode? : Nat → Option WireType
  | 0 => some .varint
  | 1 => some .fixed64
  | 2 => some .delimited
  | 3 => some .startGroup
  | 4 => some .endGroup
  | 5 => some .fixed32
  | _ => none

-- A decoding fault: what went wrong, and the fields it happened in, outermost first, as pairs of
-- message and field names.
structure Trouble where
  description : String
  within : List (String × String)
  deriving Repr, DecidableEq

def Trouble.bare (description : String) : Trouble := ⟨description, []⟩

def Trouble.render (t : Trouble) : String :=
  "failed to decode Protobuf message: "
    ++ String.join (t.within.map fun (m, f) => m ++ "." ++ f ++ ": ") ++ t.description

-- The outcome of a decoding step: a value and the index after it.
abbrev Decoded (α : Type) := Except Trouble (α × Nat)

-- Reads the rest of a varint from index `i`, its `count` bytes so far giving `acc`.
def varintFrom (bytes : ByteArray) (i count acc : Nat) : Nat → Decoded Nat
  | 0 => .error (.bare "invalid varint")
  | fuel + 1 =>
    match bytes[i]? with
    | none => .error (.bare "invalid varint")
    | some b =>
      let acc := acc + (b.toNat % 128) * Nat.pow 2 (7 * count)
      if b < 128 then
        if count == 9 && b ≥ 2 then .error (.bare "invalid varint")
        else .ok (acc % Nat.pow 2 64, i + 1)
      else varintFrom bytes (i + 1) (count + 1) acc fuel

def varint (bytes : ByteArray) (i : Nat) : Decoded Nat := varintFrom bytes i 0 0 10

-- Reads a key at index `i`: the field number and the wire type.
def key (bytes : ByteArray) (i : Nat) : Except Trouble ((Nat × WireType) × Nat) := do
  let (k, j) ← varint bytes i
  if k ≥ Nat.pow 2 32 then throw (.bare ("invalid key value: " ++ toString k))
  match WireType.ofCode? (k % 8) with
  | none => throw (.bare ("invalid wire type value: " ++ toString (k % 8)))
  | some w =>
    if k / 8 == 0 then throw (.bare "invalid tag value: 0")
    pure ((k / 8, w), j)

def expectWire (expected actual : WireType) : Except Trouble Unit :=
  if expected == actual then .ok ()
  else .error (.bare ("invalid wire type: " ++ actual.name ++ " (expected " ++ expected.name ++ ")"))

def advance (bytes : ByteArray) (i len : Nat) : Except Trouble Nat :=
  if len > bytes.size - i then .error (.bare "buffer underflow") else .ok (i + len)

def groupLimit : Nat := 100

mutual

-- Skips the value of a field of unknown number `tag`, from index `i`, with `depth` more
-- levels of groups allowed.
def skipField (bytes : ByteArray) (wire : WireType) (tag i depth : Nat) : Nat → Except Trouble Nat
  | 0 => .error (.bare "recursion limit reached")
  | fuel + 1 => do
    if depth == 0 then throw (.bare "recursion limit reached")
    match wire with
    | .varint => return (← varint bytes i).2
    | .fixed32 => advance bytes i 4
    | .fixed64 => advance bytes i 8
    | .delimited =>
      let (len, j) ← varint bytes i
      advance bytes j len
    | .startGroup => skipGroup bytes tag i depth fuel
    | .endGroup => throw (.bare "unexpected end group tag")

-- Skips the fields of a group up to its end key, which must carry the number `tag`.
def skipGroup (bytes : ByteArray) (tag i depth : Nat) : Nat → Except Trouble Nat
  | 0 => .error (.bare "recursion limit reached")
  | fuel + 1 => do
    let ((inner, wire), j) ← key bytes i
    match wire with
    | .endGroup => if inner != tag then throw (.bare "unexpected end group tag") else pure j
    | _ =>
      let k ← skipField bytes wire inner j (depth - 1) fuel
      skipGroup bytes tag k depth fuel

end

def delimited (bytes : ByteArray) (wire : WireType) (i : Nat) : Except Trouble (ByteArray × Nat) := do
  expectWire .delimited wire
  let (len, j) ← varint bytes i
  let k ← advance bytes j len
  pure (bytes.extract j k, k)

def string (bytes : ByteArray) (wire : WireType) (i : Nat) : Except Trouble (String × Nat) := do
  let (raw, j) ← delimited bytes wire i
  match String.fromUTF8? raw with
  | some s => pure (s, j)
  | none => throw (.bare "invalid string value: data is not UTF-8 encoded")

def varintValue (bytes : ByteArray) (wire : WireType) (i : Nat) : Except Trouble (Nat × Nat) := do
  expectWire .varint wire
  varint bytes i

def within (message field : String) (r : Except Trouble α) : Except Trouble α :=
  match r with
  | .ok a => .ok a
  | .error t => .error { t with within := (message, field) :: t.within }

def varintBytes (n : Nat) : List UInt8 :=
  let rec go (n : Nat) : Nat → List UInt8
    | 0 => []
    | fuel + 1 => if n < 128 then [n.toUInt8] else (n % 128 + 128).toUInt8 :: go (n / 128) fuel
  go (n % Nat.pow 2 64) 10

def keyBytes (tag : Nat) (w : WireType) : List UInt8 := varintBytes (tag * 8 + w.code)

def varintField (tag n : Nat) : List UInt8 :=
  if n == 0 then [] else keyBytes tag .varint ++ varintBytes n

def int64Field (tag : Nat) (n : Int) : List UInt8 :=
  varintField tag (if n ≥ 0 then n.toNat else (Int.pow 2 64 + n).toNat)

def stringEntry (tag : Nat) (s : String) : List UInt8 :=
  keyBytes tag .delimited ++ varintBytes s.utf8ByteSize ++ s.toUTF8.toList

def stringField (tag : Nat) (s : String) : List UInt8 :=
  if s.isEmpty then [] else stringEntry tag s

def toInt64 (n : Nat) : Int := if n < Nat.pow 2 63 then n else (n : Int) - Int.pow 2 64

end Proto

end ChatArchive
