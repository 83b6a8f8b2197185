namespace ChatArchive

-- A curve `y² = x³ + a·x + b` over the field of a prime, with a base point and its order.
structure Curve where
  prime : Nat
  a : Nat
  b : Nat
  order : Nat
  gx : Nat
  gy : Nat
  -- the contents of the curve's object identifier
  oid : List UInt8
  -- the bytes of one coordinate
  width : Nat
  deriving Repr, DecidableEq

-- A point in Jacobian coordinates; `z = 0` is the point at infinity.
structure Jacobian where
  x : Nat
  y : Nat
  z : Nat
  deriving Repr, DecidableEq

-- `b` to the power `e`, modulo `m`, by squaring.
def powMod (b e m : Nat) : Nat :=
  if h : e = 0 then 1 % m
  else
    let half := powMod (b * b % m) (e / 2) m
    if e % 2 == 1 then half * b % m else half
termination_by e
decreasing_by omega

namespace Curve

-- P-256.
def p256 : Curve where
  prime := 0xffffffff00000001000000000000000000000000ffffffffffffffffffffffff
  a := 0xffffffff00000001000000000000000000000000fffffffffffffffffffffffc
  b := 0x5ac635d8aa3a93e7b3ebbd55769886bc651d06b0cc53b0f63bce3c3e27d2604b
  order := 0xffffffff00000000ffffffffffffffffbce6faada7179e84f3b9cac2fc632551
  gx := 0x6b17d1f2e12c4247f8bce6e563a440f277037d812deb33a0f4a13945d898c296
  gy := 0x4fe342e2fe1a7f9b8ee7eb4a7c0f9e162bce33576b315ececbb6406837bf51f5
  oid := [0x2a, 0x86, 0x48, 0xce, 0x3d, 0x03, 0x01, 0x07]
  width := 32

-- P-384.
def p384 : Curve where
  prime := Nat.pow 2 384 - Nat.pow 2 128 - Nat.pow 2 96 + Nat.pow 2 32 - 1
  a := Nat.pow 2 384 - Nat.pow 2 128 - Nat.pow 2 96 + Nat.pow 2 32 - 4
  b := 0xb3312fa7e23ee7e4988e056be3f82d19181d9c6efe8141120314088f5013875ac656398d8a2ed19d2a85c8edd3ec2aef
  order := 0xffffffffffffffffffffffffffffffffffffffffffffffffc7634d81f4372ddf581a0db248b0a77aecec196accc52973
  gx := 0xaa87ca22be8b05378eb1c71ef320ad746e1d3b628ba79b9859f741e082542a385502f25dbf55296c3a545e3872760ab7
  gy := 0x3617de4a96262c6f5d9e98bf9292dc29f8f41dbd289a147ce9da3113b5f0b8c00a60b1ce1d7e819d7a431d7c90ea0e5f
  oid := [0x2b, 0x81, 0x04, 0x00, 0x22]
  width := 48

-- P-521.
def p521 : Curve where
  prime := Nat.pow 2 521 - 1
  a := Nat.pow 2 521 - 4
  b := 0x0051953eb9618e1c9a1f929a21a0b68540eea2da725b99b315f3b8b489918ef109e156193951ec7e937b1652c0bd3bb1bf073573df883d2c34f1ef451fd46b503f00
  order := 0x1fffffffffffffffffffffffffffffffffffffffffffffffffffffffffffffffffa51868783bf2f966b7fcc0148f709a5d03bb5c9b8899c47aebb6fb71e91386409
  gx := 0x00c6858e06b70404e9cd9e3ecb662395b4429c648139053fb521f828af606b4d3dbaa14b5e77efe75928fe1dc127a2ffa8de3348b3c1856a429bf97e7e31c2e5bd66
  gy := 0x011839296a789a3bc0045c8a5fb42c7d1bd998f54449579b446817afbd17273e662c97ee72995ef42640c550b9013fad0761353c7086a272c24088be94769fd16650
  oid := [0x2b, 0x81, 0x04, 0x00, 0x23]
  width := 66

def known : List Curve := [p256, p384, p521]

def ofOid? (oid : List UInt8) : Option Curve := known.find? (·.oid == oid)

def sub (c : Curve) (u v : Nat) : Nat := (u + c.prime - v % c.prime) % c.prime

def mul (c : Curve) (u v : Nat) : Nat := u * v % c.prime

def infinity : Jacobian := ⟨1, 1, 0⟩

def base (c : Curve) : Jacobian := ⟨c.gx, c.gy, 1⟩

-- Twice a point.
def double (c : Curve) (p : Jacobian) : Jacobian :=
  if p.z == 0 || p.y == 0 then infinity
  else
    let yy := c.mul p.y p.y
    let s := c.mul (4 * p.x % c.prime) yy
    let zz := c.mul p.z p.z
    let m := (3 * c.mul p.x p.x + c.mul c.a (c.mul zz zz)) % c.prime
    let x := c.sub (c.mul m m) (2 * s % c.prime)
    let y := c.sub (c.mul m (c.sub s x)) (8 * c.mul yy yy % c.prime)
    ⟨x, y, c.mul (2 * p.y % c.prime) p.z⟩

-- The sum of two points.
def add (c : Curve) (p q : Jacobian) : Jacobian :=
  if p.z == 0 then q
  else if q.z == 0 then p
  else
    let pz2 := c.mul p.z p.z
    let qz2 := c.mul q.z q.z
    let u1 := c.mul p.x qz2
    let u2 := c.mul q.x pz2
    let s1 := c.mul p.y (c.mul qz2 q.z)
    let s2 := c.mul q.y (c.mul pz2 p.z)
    if u1 == u2 then
      if s1 == s2 then c.double p else infinity
    else
      let h := c.sub u2 u1
      let r := c.sub s2 s1
      let hh := c.mul h h
      let hhh := c.mul hh h
      let v := c.mul u1 hh
      let x := c.sub (c.sub (c.mul r r) hhh) (2 * v % c.prime)
      let y := c.sub (c.mul r (c.sub v x)) (c.mul s1 hhh)
      ⟨x, y, c.mul h (c.mul p.z q.z)⟩

def scale (c : Curve) (k : Nat) (p : Jacobian) : Jacobian :=
  let bits := (List.range (k.log2 + 1)).reverse.map k.testBit
  bits.foldl (fun acc bit => let d := c.double acc; if bit then c.add d p else d) infinity

-- The affine coordinates of a point other than infinity.
def affine (c : Curve) (p : Jacobian) : Option (Nat × Nat) :=
  if p.z % c.prime == 0 then none
  else
    let zi := powMod p.z (c.prime - 2) c.prime
    let zi2 := c.mul zi zi
    some (c.mul p.x zi2, c.mul p.y (c.mul zi2 zi))

def onCurve (c : Curve) (x y : Nat) : Bool :=
  x < c.prime && y < c.prime &&
    c.mul y y == (c.mul x (c.mul x x) + c.mul c.a x + c.b) % c.prime

def publicPoint (c : Curve) (d : Nat) : Option (Nat × Nat) := c.affine (c.scale d c.base)

-- The point written in these bytes, uncompressed or compressed; it must lie on the curve.
def decodePoint (c : Curve) (bs : List UInt8) : Option (Nat × Nat) :=
  match bs with
  | 4 :: rest =>
    if rest.length != 2 * c.width then none
    else
      let x := (rest.take c.width).foldl (fun n b => n * 256 + b.toNat) 0
      let y := (rest.drop c.width).foldl (fun n b => n * 256 + b.toNat) 0
      if c.onCurve x y then some (x, y) else none
  | form :: rest =>
    if (form != 2 && form != 3) || rest.length != c.width then none
    else
      let x := rest.foldl (fun n b => n * 256 + b.toNat) 0
      if x ≥ c.prime then none
      else
        let rhs := (c.mul x (c.mul x x) + c.mul c.a x + c.b) % c.prime
        let root := powMod rhs ((c.prime + 1) / 4) c.prime
        if c.mul root root != rhs then none
        else
          let y := if root % 2 == (form - 2).toNat then root else c.sub 0 root
          some (x, y)
  | [] => none

end Curve

end ChatArchive
