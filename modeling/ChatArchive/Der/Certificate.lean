import ChatArchive.Der.Reader

namespace ChatArchive

namespace Der

-- Why a certificate was refused.
inductive CertError where
  | badEncoding
  | unsupportedVersion
  | algorithmMismatch
  | repeatedExtension
  | criticalExtension
  deriving Repr, DecidableEq

-- The name of a refusal other than a bad encoding.
def CertError.name : CertError → String
  | .badEncoding => "BadDer"
  | .unsupportedVersion => "UnsupportedCertVersion"
  | .algorithmMismatch => "SignatureAlgorithmMismatch"
  | .repeatedExtension => "ExtensionValueInvalid"
  | .criticalExtension => "UnsupportedCriticalExtension"

def expectIn (tag : UInt8) (s : List UInt8) : Except CertError (List UInt8 × List UInt8) :=
  match expect? tag s with
  | some r => .ok r
  | none => .error .badEncoding

def atEnd (s : List UInt8) : Except CertError Unit :=
  if s.isEmpty then .ok () else .error .badEncoding

-- Reads the explicit version, which must be 3, and gives the bytes after it.
def readVersion (s : List UInt8) : Except CertError (List UInt8) := do
  let (field, rest) ← expectIn (fieldTag 0) s
  let (v, after) ← expectIn integerTag field
  match unsignedBytes? v with
  | some [b] => if b != 2 then throw .unsupportedVersion
  | _ => throw .badEncoding
  if !after.isEmpty then throw .unsupportedVersion
  return rest

def rememberedExtensions : List UInt8 := [15, 17, 19, 30, 31, 37]

-- Reads one extension's contents, given the remembered extensions seen before it.
def readExtension (seen : List UInt8) (e : List UInt8) : Except CertError (List UInt8) := do
  let (id, r) ← expectIn oidTag e
  let (critical, r) ← if startsWith booleanTag r then do
      let (flag, r) ← expectIn booleanTag r
      match flag with
      | [0xFF] => pure (true, r)
      | [0] => pure (false, r)
      | _ => throw .badEncoding
    else pure (false, r)
  let (value, r) ← expectIn octetStringTag r
  atEnd r
  match id with
  | [0x55, 0x1D, n] =>
    if rememberedExtensions.contains n then
      if seen.contains n then throw .repeatedExtension
      if n != 15 then
        let (_, after) ← expectIn sequenceTag value
        atEnd after
      return n :: seen
    else if critical then throw .criticalExtension
    else return seen
  | _ => if critical then throw .criticalExtension else return seen

-- Reads the extensions of a nonempty sequence of them. Each takes at least two bytes, so the
-- length of `s` bounds their count.
def readExtensions : Nat → List UInt8 → List UInt8 → Except CertError Unit
  | 0, _, _ => .error .badEncoding
  | fuel + 1, s, seen => do
    let (e, rest) ← expectIn sequenceTag s
    let seen ← readExtension seen e
    if rest.isEmpty then return () else readExtensions fuel rest seen

-- Reads a certificate and gives the contents of its subject public key info.
def readCertificate (der : List UInt8) : Except CertError (List UInt8) := do
  let (cert, after) ← expectIn sequenceTag der
  let (tbs, r) ← expectIn sequenceTag cert
  let (algorithm, r) ← expectIn sequenceTag r
  let (signature, r) ← expectIn bitStringTag r
  if signature.head? != some 0 then throw .badEncoding
  atEnd r
  atEnd after
  let r ← readVersion tbs
  let (_, r) ← expectIn integerTag r
  let (inner, r) ← expectIn sequenceTag r
  if inner != algorithm then throw .algorithmMismatch
  let (_, r) ← expectIn sequenceTag r
  let (_, r) ← expectIn sequenceTag r
  let (_, r) ← expectIn sequenceTag r
  let (spki, r) ← expectIn sequenceTag r
  if !r.isEmpty then
    let (field, r) ← expectIn (fieldTag 3) r
    let (list, rest) ← expectIn sequenceTag field
    readExtensions list.length list []
    atEnd rest
    atEnd r
  return spki

end Der

end ChatArchive
