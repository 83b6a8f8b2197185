import ChatArchive.Text.Shortest

namespace ChatArchive

namespace Binary64

def maxExponent : Int := 971

def minExponent : Int := -1074

-- `⌊log₂ (num / den)⌋` for positive `num` and `den`.
def floorLog2 (num den : Nat) : Int :=
  let guess : Int := (Nat.log2 num : Int) - (Nat.log2 den : Int)
  -- the quotient lies in [2^(guess-1), 2^(guess+1)); one comparison settles it
  let atLeast : Bool :=
    if guess ≥ 0 then den * Nat.pow 2 guess.toNat ≤ num else den ≤ num * Nat.pow 2 (-guess).toNat
  if atLeast then guess else guess - 1

-- `num / den` scaled by `2^-e`, rounded to the nearest integer, ties to even.
def roundScaled (num den : Nat) (e : Int) : Nat :=
  let (n, d) := if e ≥ 0 then (num, den * Nat.pow 2 e.toNat) else (num * Nat.pow 2 (-e).toNat, den)
  let q := n / d
  let r := n % d
  if 2 * r > d then q + 1
  else if 2 * r == d then (if q % 2 == 1 then q + 1 else q)
  else q

-- The bits of the double nearest to `num / den`, for `den > 0`; `none` when the value rounds
-- beyond the largest finite double.
def nearest (num den : Nat) : Option UInt64 :=
  if num == 0 then some 0
  else
    -- the exponent that puts the significand in [2^52, 2^53), or the subnormal one
    let e := max (floorLog2 num den - 52) minExponent
    let q := roundScaled num den e
    -- rounding up may reach 2^53, one more binade
    let (q, e) := if q == Nat.pow 2 53 then (Nat.pow 2 52, e + 1) else (q, e)
    if e > maxExponent then none
    else some (((e - minExponent).toNat * Nat.pow 2 52 + q).toUInt64)

def fraction (bits : UInt64) : Nat × Nat :=
  let p := parts bits
  if p.e ≥ 0 then (p.m * Nat.pow 2 p.e.toNat, 1) else (p.m, Nat.pow 2 (-p.e).toNat)

def mul (a b : UInt64) : Option UInt64 :=
  let (an, ad) := fraction a
  let (bn, bd) := fraction b
  nearest (an * bn) (ad * bd)

def div (a b : UInt64) : Option UInt64 :=
  let (an, ad) := fraction a
  let (bn, bd) := fraction b
  nearest (an * bd) (ad * bn)

def negate (bits : UInt64) : UInt64 := bits ||| 0x8000000000000000

def pow10 (k : Nat) : UInt64 := (nearest (Nat.pow 10 k) 1).getD 0

end Binary64

end ChatArchive
