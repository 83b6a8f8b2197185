import ChatArchive.Der.Reader
import ChatArchive.Key.Curve
import ChatArchive.Key.Edwards

namespace ChatArchive

namespace Key

open Der

-- How a private key is framed.
inductive Framing where
  | pkcs8
  | sec1
  | pkcs1
  deriving Repr, DecidableEq

def ecPublicKeyOid : List UInt8 := [0x2a, 0x86, 0x48, 0xce, 0x3d, 0x02, 0x01]

def rsaEncryptionOid : List UInt8 := [0x2a, 0x86, 0x48, 0x86, 0xf7, 0x0d, 0x01, 0x01, 0x01]

def ed25519Oid : List UInt8 := [0x2b, 0x65, 0x70]

def smallUnsigned? (contents : List UInt8) : Option Nat := do
  let bs ← unsignedBytes? contents
  if bs.length > 8 then none else some (natOf bs)

def publicKeyInfo (algorithm : List UInt8) (key : List UInt8) : List UInt8 :=
  wrap sequenceTag algorithm ++ wrap bitStringTag (0 :: key)

def curveKeyInfo (c : Curve) (x y : Nat) : List UInt8 :=
  publicKeyInfo (wrap oidTag ecPublicKeyOid ++ wrap oidTag c.oid)
    (4 :: bytesOf c.width x ++ bytesOf c.width y)

def curveOfParameters? (params : List UInt8) : Option Curve := do
  let (oid, rest) ← expect? oidTag params
  if !rest.isEmpty then none
  Curve.ofOid? oid

-- Reads an elliptic-curve key, on `group` when the framing gives one; gives its curve and public
-- point.
def readCurveKey (group : Option Curve) (der : List UInt8) : Option (Curve × Nat × Nat) := do
  let (body, _) ← expect? sequenceTag der
  let (version, r) ← expect? integerTag body
  if smallUnsigned? version != some 1 then none
  let (secret, r) ← expect? octetStringTag r
  let (curve, r) ← if startsWith (fieldTag 0) r then do
      let (params, r) ← expect? (fieldTag 0) r
      let c ← curveOfParameters? params
      if let some g := group then
        if g != c then none
      pure (c, r)
    else do
      let g ← group
      pure (g, r)
  let d := natOf secret
  if d == 0 || d ≥ curve.order then none
  let (x, y) ← curve.publicPoint d
  let r ← if startsWith (fieldTag 1) r then do
      let (field, r) ← expect? (fieldTag 1) r
      let (bits, after) ← expect? bitStringTag field
      if !after.isEmpty then none
      match bits with
      | 0 :: point@(_ :: _) =>
        let given ← curve.decodePoint point
        if given != (x, y) then none
        pure r
      | _ => none
    else pure r
  if !r.isEmpty then none
  return (curve, x, y)

-- Reads the integers of an RSA key and gives the public key info of its modulus and exponent.
def readRsaKey (der : List UInt8) : Option (List UInt8) := do
  let (body, _) ← expect? sequenceTag der
  let (version, r) ← expect? integerTag body
  if smallUnsigned? version != some 0 then none
  let (n, r) ← expect? integerTag r
  let n ← unsigned? n
  let (e, r) ← expect? integerTag r
  let e ← unsigned? e
  let (d, r) ← expect? integerTag r
  let d ← unsigned? d
  let (p, r) ← expect? integerTag r
  let p ← unsigned? p
  let (q, r) ← expect? integerTag r
  let q ← unsigned? q
  let (dp, r) ← expect? integerTag r
  let dp ← unsigned? dp
  let (dq, r) ← expect? integerTag r
  let dq ← unsigned? dq
  let (qi, r) ← expect? integerTag r
  let qi ← unsigned? qi
  if !r.isEmpty then none
  let bits := n.log2 + 1
  let consistent := p > 1 && q > 1 && p * q == n && e > 1 &&
    e * d % (p - 1) == 1 % (p - 1) && e * d % (q - 1) == 1 % (q - 1) &&
    dp == d % (p - 1) && dq == d % (q - 1) && qi < p && qi * q % p == 1
  if !consistent || bits < 2048 || bits > 8192 then none
  let key := wrap sequenceTag (wrap integerTag (integerContents n) ++
    wrap integerTag (integerContents e))
  return publicKeyInfo (wrap oidTag rsaEncryptionOid ++ wrap nullTag []) key

-- The algorithm, its parameters and the wrapped key of a PKCS#8 key.
def readEnvelope (der : List UInt8) : Option (List UInt8 × List UInt8 × List UInt8) := do
  let (body, _) ← expect? sequenceTag der
  let (version, r) ← expect? integerTag body
  let v ← smallUnsigned? version
  if v > 1 then none
  let (algorithm, r) ← expect? sequenceTag r
  let (oid, params) ← expect? oidTag algorithm
  let (key, _) ← expect? octetStringTag r
  return (oid, params, key)

-- Reads a key as RSA.
def asRsa (framing : Framing) (der : List UInt8) : Option (List UInt8) :=
  match framing with
  | .pkcs1 => readRsaKey der
  | .pkcs8 => do
    let (oid, params, key) ← readEnvelope der
    if oid != rsaEncryptionOid || params != wrap nullTag [] then none
    let (_, after) ← expect? sequenceTag key
    if !after.isEmpty then none
    readRsaKey key
  | .sec1 => none

-- Reads a key as an elliptic-curve key on the curve `c`.
def asCurveKey (framing : Framing) (c : Curve) (der : List UInt8) : Option (List UInt8) :=
  match framing with
  | .sec1 => do
    let (curve, x, y) ← readCurveKey (some c) der
    return curveKeyInfo curve x y
  | .pkcs8 => do
    let (oid, params, key) ← readEnvelope der
    if oid != ecPublicKeyOid then none
    let group ← curveOfParameters? params
    if group != c then none
    let (_, after) ← expect? sequenceTag key
    if !after.isEmpty then none
    let (curve, x, y) ← readCurveKey (some group) key
    return curveKeyInfo curve x y
  | .pkcs1 => none

-- Reads a key as an Ed25519 key.
def asEdwardsKey (framing : Framing) (der : List UInt8) : Option (List UInt8) :=
  match framing with
  | .pkcs8 => do
    let (oid, params, key) ← readEnvelope der
    if oid != ed25519Oid || !params.isEmpty then none
    let (seed, after) ← expect? octetStringTag key
    if !after.isEmpty || seed.length != 32 then none
    return publicKeyInfo (wrap oidTag ed25519Oid) (Edwards.publicKey seed)
  | _ => none

-- The public key info of a private key, or nothing when no reading takes it.
def publicKeyOf (framing : Framing) (der : List UInt8) : Option (List UInt8) :=
  match asRsa framing der with
  | some info => some info
  | none =>
    match Curve.known.findSome? fun c => asCurveKey framing c der with
    | some info => some info
    | none => asEdwardsKey framing der

end Key

end ChatArchive
