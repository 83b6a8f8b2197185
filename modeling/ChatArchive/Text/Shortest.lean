namespace ChatArchive

namespace Binary64

-- The sign, the significand and the binary exponent of a finite double: the value is
-- `(-1)^sign · m · 2^e`.
structure Parts where
  negative : Bool
  m : Nat
  e : Int
  -- the significand is the least normal one, so the rounding interval reaches half as far
  -- below the double as above it
  lowerGapHalved : Bool
  deriving Repr

-- The parts of a double given by its bits (infinities and NaNs read as finite garbage; the
-- callers never pass them).
def parts (bits : UInt64) : Parts :=
  let n := bits.toNat
  let negative := n >= Nat.pow 2 63
  let biased : Nat := (n / Nat.pow 2 52) % 2048
  let fraction := n % Nat.pow 2 52
  if biased == 0 then ⟨negative, fraction, -1074, false⟩
  else ⟨negative, fraction + Nat.pow 2 52, (biased : Int) - 1075, fraction == 0⟩

-- The decimal exponent `k` with `10^(k-1) ≤ v < 10^k`, for `v = m · 2^e > 0`, found by
-- stepping from an estimate.
def decimalExponent (m : Nat) (e : Int) : Int :=
  -- v = num / den exactly
  let num := if e ≥ 0 then m * Nat.pow 2 e.toNat else m
  let den := if e ≥ 0 then 1 else Nat.pow 2 (-e).toNat
  -- the number of decimal digits of the integer part bounds the estimate from above
  let rec up (k : Nat) (fuel : Nat) : Nat :=
    match fuel with
    | 0 => k
    | fuel + 1 => if num < den * Nat.pow 10 k then k else up (k + 1) fuel
  let rec down (k : Nat) (fuel : Nat) : Nat :=
    match fuel with
    | 0 => k
    | fuel + 1 => if num * Nat.pow 10 (k + 1) < den then down (k + 1) fuel else k
  if num ≥ den then (up 1 400 : Int)
  else
    -- v < 1: find the least j with v ≥ 10^-(j+1), then k = -j
    -((down 0 400 : Nat) : Int)

-- The shortest digits of a positive double and the position of the decimal point: the value is
-- `0.d₁d₂…dₙ · 10^point`.
def shortestDigits (p : Parts) : List Nat × Int :=
  let m := p.m
  let e := p.e
  -- work over the common denominator 2^s with s ≥ 2 - e, so that v, and the ends of the
  -- rounding interval, are integers over it
  let s : Nat := (2 - e).toNat
  let scale : Nat := if e ≥ 2 then Nat.pow 2 (e.toNat - 2) else 1
  -- v = vn / 2^s, the interval is [lo, hi] / 2^s
  let vn := 4 * m * scale
  let hi := vn + 2 * scale
  let lo := if p.lowerGapHalved then vn - scale else vn - 2 * scale
  let inclusive := m % 2 == 0
  let k := decimalExponent m e
  let within (gn : Nat) (gexp : Int) : Bool :=
    -- the grid point g = gn · 10^gexp, compared with the ends over 2^s
    let (gl, gr) := if gexp ≥ 0 then (gn * Nat.pow 10 gexp.toNat * Nat.pow 2 s, 1) else (gn * Nat.pow 2 s, Nat.pow 10 (-gexp).toNat)
    -- g ∈ interval ⟺ lo·gr ≤ gl ≤ hi·gr (strict when the ends are excluded)
    if inclusive then lo * gr ≤ gl && gl ≤ hi * gr else lo * gr < gl && gl < hi * gr
  let distance (gn : Nat) (gexp : Int) : Nat × Nat :=
    -- |g - v| as a fraction num/den
    let (gl, gr) := if gexp ≥ 0 then (gn * Nat.pow 10 gexp.toNat * Nat.pow 2 s, 1) else (gn * Nat.pow 2 s, Nat.pow 10 (-gexp).toNat)
    let vl := vn * gr
    (if gl ≥ vl then gl - vl else vl - gl, gr)
  let pick (n : Nat) : Option (Nat × Int) :=
    -- grid of n significant digits: spacing 10^(k-n)
    let gexp : Int := k - n
    let (vnum, vden) := if gexp ≥ 0 then (vn, Nat.pow 2 s * Nat.pow 10 gexp.toNat) else (vn * Nat.pow 10 (-gexp).toNat, Nat.pow 2 s)
    let below := vnum / vden
    let above := below + 1
    let okBelow := below > 0 && within below gexp
    let okAbove := within above gexp
    match okBelow, okAbove with
    | true, true =>
      let (db, rb) := distance below gexp
      let (da, ra) := distance above gexp
      -- compare db/rb with da/ra; the nearer wins, a tie goes up
      if db * ra < da * rb then some (below, gexp) else some (above, gexp)
    | true, false => some (below, gexp)
    | false, true => some (above, gexp)
    | false, false => none
  let found := (List.range 17).findSome? fun i => pick (i + 1)
  let (gn, gexp) := found.getD (vn, -(s : Int))
  -- the digits of gn without trailing zeros, and the point
  let digits := (Nat.toDigits 10 gn).map (fun c => c.toNat - '0'.toNat)
  let trailing := (digits.reverse.takeWhile (· == 0)).length
  let kept := digits.take (digits.length - trailing)
  (kept, gexp + digits.length)

-- Positional text of `0.d₁…dₙ · 10^point`, with no exponent and no trailing `.0`.
def positional (digits : List Nat) (point : Int) : String :=
  let ds := String.ofList (digits.map fun d => Char.ofNat ('0'.toNat + d))
  if point ≤ 0 then "0." ++ String.ofList (List.replicate (-point).toNat '0') ++ ds
  else if point.toNat < digits.length then
    String.ofList ((ds.toList.take point.toNat) ++ ['.'] ++ (ds.toList.drop point.toNat))
  else ds ++ String.ofList (List.replicate (point.toNat - digits.length) '0')

-- The shortest positional text of a finite double: the fewest significant digits that read
-- back, the nearer of two candidates, and a minus sign on every negative value including `-0`.
def display (bits : UInt64) : String :=
  let p := parts bits
  let body := if p.m == 0 then "0" else
    let (digits, point) := shortestDigits p
    positional digits point
  if p.negative then "-" ++ body else body

end Binary64

end ChatArchive
