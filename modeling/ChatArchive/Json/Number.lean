import ChatArchive.Text.Nearest
import ChatArchive.Json.Scan

namespace ChatArchive

namespace Json

-- A number as read from the text.
inductive Number where
  -- a non-negative integer below `2^64`
  | nat (n : Nat)
  -- a negative integer at or above `-2^63`
  | neg (n : Int)
  -- any other number, as the bits of a double
  | float (bits : UInt64)
  deriving Repr, DecidableEq

-- The outcome of a scanner: a fault at a byte index, or a value and the index after it.
abbrev Scanned (α : Type) := Except (Slip × Nat) (α × Nat)

def isDigit (b : UInt8) : Bool := 48 ≤ b && b ≤ 57

def digitValue (b : UInt8) : Nat := b.toNat - 48

def significandMax : Nat := 18446744073709551615

def exponentMax : Nat := 2147483647

def wouldPass (acc d bound : Nat) : Bool :=
  acc ≥ bound / 10 && (acc > bound / 10 || d > bound % 10)

-- Reads digits into `acc` from index `j` while the value stays within `bound`: the value, the
-- index of the first byte not taken, and whether a digit was left because it would pass the bound.
def gatherDigits (text : ByteArray) (bound : Nat) (j acc : Nat) : Nat × Nat × Bool :=
  if h : j < text.size then
    let c := text[j]
    if isDigit c then
      if wouldPass acc (digitValue c) bound then (acc, j, true)
      else gatherDigits text bound (j + 1) (acc * 10 + digitValue c)
    else (acc, j, false)
  else (acc, j, false)
termination_by text.size - j

def clampExponent (e : Int) : Int := max (-2147483648) (min 2147483647 e)

-- The double of `significand · 10^exponent`, by rounding the significand and then scaling by
-- doubles nearest to powers of ten, at most `10^308` at a time. `none` means out of range.
def scaleDecimal (f : UInt64) (exponent : Int) : Nat → Option UInt64
  | 0 => some f
  | fuel + 1 =>
    if exponent.natAbs ≤ 308 then
      if exponent ≥ 0 then Binary64.mul f (Binary64.pow10 exponent.natAbs)
      else Binary64.div f (Binary64.pow10 exponent.natAbs)
    else if f == 0 then some f
    else if exponent ≥ 0 then none
    else
      match Binary64.div f (Binary64.pow10 308) with
      | some g => scaleDecimal g (exponent + 308) fuel
      | none => none

def fromParts (positive : Bool) (significand : Nat) (exponent : Int) (j : Nat) : Scanned Number :=
  match scaleDecimal ((Binary64.nearest significand 1).getD 0) exponent 8 with
  | some f => .ok (.float (if positive then f else Binary64.negate f), j)
  | none => .error (.numberOutOfRange, j)

def integerValue (positive : Bool) (significand : Nat) : Number :=
  if positive then .nat significand
  else if significand == 0 then .float (Binary64.negate 0)
  else if significand ≤ Nat.pow 2 63 then .neg (-(significand : Int))
  else .float (Binary64.negate ((Binary64.nearest significand 1).getD 0))

-- The number `mantissa · 10^-scale`, read as the text reader would read an integer when
-- `scale` is zero, and otherwise as the double nearest to it.
def Number.ofDecimal (mantissa : Int) (scale : Nat) : Number :=
  if scale == 0 then
    if mantissa ≥ 0 then
      if mantissa.toNat ≤ significandMax then .nat mantissa.toNat
      else .float ((Binary64.nearest mantissa.toNat 1).getD 0)
    else integerValue false mantissa.natAbs
  else
    let f := (Binary64.nearest mantissa.natAbs (Nat.pow 10 scale)).getD 0
    .float (if mantissa < 0 then Binary64.negate f else f)

-- Reads the exponent part, from the `e` at index `k`.
def scanExponent (text : ByteArray) (positive : Bool) (significand : Nat) (start : Int)
    (k : Nat) : Scanned Number :=
  let k1 := k + 1
  let (upward, k2) : Bool × Nat :=
    match text[k1]? with
    | some 43 => (true, k1 + 1)
    | some 45 => (false, k1 + 1)
    | _ => (true, k1)
  match text[k2]? with
  | none => .error (.eofValue, k2)
  | some c =>
    if !isDigit c then .error (.invalidNumber, k2 + 1)
    else
      let (e, j, passed) := gatherDigits text exponentMax (k2 + 1) (digitValue c)
      if passed then
        -- an exponent this long makes the value infinite or zero
        if significand != 0 && upward then .error (.numberOutOfRange, j)
        else
          let zero : UInt64 := if positive then 0 else Binary64.negate 0
          .ok (.float zero, skipDigits text j)
      else
        let exponent := clampExponent (if upward then start + e else start - e)
        fromParts positive significand exponent j

-- Steps over the digits whose value no longer fits, from index `k`, then reads what follows.
def scanPastSignificand (text : ByteArray) (positive : Bool) (significand : Nat) (exponent : Int)
    (k : Nat) : Scanned Number :=
  let j := skipDigits text k
  match text[j]? with
  | some 101 | some 69 => scanExponent text positive significand exponent j
  | _ => fromParts positive significand exponent j

-- Reads the fraction part, from the `.` at index `j`.
def scanFraction (text : ByteArray) (positive : Bool) (significand : Nat) (start : Int)
    (j : Nat) : Scanned Number :=
  let (sig, k, passed) := gatherDigits text significandMax (j + 1) significand
  let exponent := start - ((k - (j + 1) : Nat) : Int)
  if passed then scanPastSignificand text positive sig exponent k
  else if k == j + 1 then
    -- at least one digit must follow the point
    match text[k]? with
    | some _ => .error (.invalidNumber, min text.size (k + 1))
    | none => .error (.eofValue, min text.size (k + 1))
  else
    match text[k]? with
    | some 101 | some 69 => scanExponent text positive sig exponent k
    | _ => fromParts positive sig exponent k

-- Reads what follows the integer digits that ended at index `j`.
def scanAfterInteger (text : ByteArray) (positive : Bool) (significand : Nat) (j : Nat) :
    Scanned Number :=
  match text[j]? with
  | some 46 => scanFraction text positive significand 0 j
  | some 101 | some 69 => scanExponent text positive significand 0 j
  | _ => .ok (integerValue positive significand, j)

-- Reads the integer digits whose value no longer fits, from index `j`, and what follows: they
-- only raise the exponent.
def scanLongInteger (text : ByteArray) (positive : Bool) (significand : Nat) (j : Nat) :
    Scanned Number :=
  let k := skipDigits text j
  let exponent : Int := ((k - j : Nat) : Int)
  match text[k]? with
  | some 46 => scanFraction text positive significand exponent k
  | some 101 | some 69 => scanExponent text positive significand exponent k
  | _ => fromParts positive significand exponent k

-- Reads a number from index `i`, its sign (when negative) already read.
def scanNumber (text : ByteArray) (positive : Bool) (i : Nat) : Scanned Number :=
  match text[i]? with
  | none => .error (.eofValue, i)
  | some c =>
    if c == 48 then
      match text[i + 1]? with
      | some d =>
        if isDigit d then .error (.invalidNumber, min text.size (i + 2))
        else scanAfterInteger text positive 0 (i + 1)
      | none => scanAfterInteger text positive 0 (i + 1)
    else if isDigit c then
      let (sig, j, passed) := gatherDigits text significandMax (i + 1) (digitValue c)
      if passed then scanLongInteger text positive sig j
      else scanAfterInteger text positive sig j
    else .error (.invalidNumber, i + 1)

-- Checks the exponent part of a skipped number, from the `e` at index `i`.
def skipExponent (text : ByteArray) (i : Nat) : Except (Slip × Nat) Nat :=
  let i1 := i + 1
  let i2 := match text[i1]? with
    | some 43 | some 45 => i1 + 1
    | _ => i1
  match text[i2]? with
  | some c => if isDigit c then .ok (skipDigits text (i2 + 1)) else .error (.invalidNumber, i2 + 1)
  | none => .error (.invalidNumber, i2)

-- Checks the fraction part of a skipped number, from the `.` at index `i`.
def skipFraction (text : ByteArray) (i : Nat) : Except (Slip × Nat) Nat :=
  let j := skipDigits text (i + 1)
  if j == i + 1 then .error (.invalidNumber, min text.size (j + 1))
  else
    match text[j]? with
    | some 101 | some 69 => skipExponent text j
    | _ => .ok j

-- Checks the shape of a skipped number from index `i`, its sign already read.
def skipNumber (text : ByteArray) (i : Nat) : Except (Slip × Nat) Nat :=
  let rest (j : Nat) : Except (Slip × Nat) Nat :=
    match text[j]? with
    | some 46 => skipFraction text j
    | some 101 | some 69 => skipExponent text j
    | _ => .ok j
  match text[i]? with
  | some 48 =>
    match text[i + 1]? with
    | some d => if isDigit d then .error (.invalidNumber, min text.size (i + 2)) else rest (i + 1)
    | none => rest (i + 1)
  | some c => if isDigit c then rest (skipDigits text (i + 1)) else .error (.invalidNumber, i + 1)
  | none => .error (.invalidNumber, i)

end Json

end ChatArchive
