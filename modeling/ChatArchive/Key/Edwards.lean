import ChatArchive.Key.Sha512
import ChatArchive.Key.Curve

namespace ChatArchive

namespace Edwards

def prime : Nat := Nat.pow 2 255 - 19

def d : Nat := 37095705934669439343138083508754565189542113879843219016388785533085940283555

def baseX : Nat := 15112221349535400772501151409588531511454012693041857206046113283949847762202

def baseY : Nat := 46316835694926478169428394003475163141307993866256225615783033603165251855960

-- A point in extended coordinates.
structure Extended where
  x : Nat
  y : Nat
  z : Nat
  t : Nat

def sub (u v : Nat) : Nat := (u + prime - v % prime) % prime

def neutral : Extended := ⟨0, 1, 1, 0⟩

def base : Extended := ⟨baseX, baseY, 1, baseX * baseY % prime⟩

-- The sum of two points, which is also the double when they are equal.
def add (p q : Extended) : Extended :=
  let a := sub p.y p.x * sub q.y q.x % prime
  let b := (p.y + p.x) * (q.y + q.x) % prime
  let c := p.t * (2 * d % prime) % prime * q.t % prime
  let dd := 2 * p.z * q.z % prime
  let e := sub b a
  let f := sub dd c
  let g := (dd + c) % prime
  let h := (b + a) % prime
  ⟨e * f % prime, g * h % prime, f * g % prime, e * h % prime⟩

def scale (k : Nat) (p : Extended) : Extended :=
  ((List.range (k.log2 + 1)).reverse.map k.testBit).foldl
    (fun acc bit => let twice := add acc acc; if bit then add twice p else twice) neutral

-- The 32 bytes of a point.
def encode (p : Extended) : List UInt8 :=
  let zi := powMod p.z (prime - 2) prime
  let x := p.x * zi % prime
  let y := p.y * zi % prime
  let n := y + (x % 2) * Nat.pow 2 255
  (List.range 32).map fun i => (n / Nat.pow 2 (8 * i) % 256).toUInt8

def scalarOf (seed : List UInt8) : Nat :=
  let h := (Sha512.digest seed).take 32
  let n := h.foldr (fun b acc => acc * 256 + b.toNat) 0
  (n % Nat.pow 2 254 - n % 8) + Nat.pow 2 254

def publicKey (seed : List UInt8) : List UInt8 := encode (scale (scalarOf seed) base)

end Edwards

end ChatArchive
