import ChatArchive.Failure
import ChatArchive.Pem.Section
import ChatArchive.Der.Certificate
import ChatArchive.Key.Private

namespace ChatArchive

namespace Tls

open Pem

def chainFile : String := "server-cert.pem"
def keyFile : String := "server-key.pem"
def authorityFile : String := "ca-cert.pem"

def keyFraming : Pem.Kind → Option Key.Framing
  | .privateKey => some .pkcs8
  | .ecPrivateKey => some .sec1
  | .rsaPrivateKey => some .pkcs1
  | _ => none

def refusal (e : Der.CertError) : String :=
  "invalid peer certificate: " ++ match e with
    | .badEncoding => "BadEncoding"
    | e => "Other(OtherError(" ++ e.name ++ "))"

def readAuthority (der : List UInt8) : Except String Unit :=
  match Der.readCertificate der with
  | .ok _ => .ok ()
  | .error .unsupportedVersion => .error (refusal .badEncoding)
  | .error e => .error (refusal e)

-- The sections of a file that opened, or why it did not open.
def sectionsAt (disk : Disk) (path : String) :
    Except IoError (List (Except PemError (Pem.Kind × List UInt8))) :=
  match disk.read path with
  | .unopened e => .error e
  | .unread e => .ok (sectionsRead (.error e))
  | .bytes b => .ok (sectionsRead (.ok b))

-- Adds the trusted authorities of a file's sections, in order: their count, or the failure of
-- the first that is refused.
def addAuthorities (path : String) : List (Except PemError (Pem.Kind × List UInt8)) → Nat →
    Except Failure Nat
  | [], n => .ok n
  | .error e :: _, _ => .error (.caused ("failed to parse " ++ path) e.text)
  | .ok (kind, der) :: more, n =>
    if kind != .certificate then addAuthorities path more n
    else match readAuthority der with
      | .error cause => .error (.caused ("rejected CA certificate in " ++ path) cause)
      | .ok () => addAuthorities path more (n + 1)

-- Checks the TLS material in the directory `authority`.
def check (disk : Disk) (authority : String) : Except Failure Unit := do
  let chainPath := joinPath authority chainFile
  let readFailure := fun (path : String) (cause : String) =>
    Failure.caused ("failed to read " ++ path) cause
  let chain ← match sectionsAt disk chainPath with
    | .error e => throw (readFailure chainPath (PemError.io e).text)
    | .ok items => match allOf .certificate items with
      | .error e => throw (readFailure chainPath e.text)
      | .ok certs => pure certs
  let first ← match chain with
    | [] => throw (Failure.plain ("no certificate in " ++ chainPath))
    | c :: _ => pure c
  let keyPath := joinPath authority keyFile
  let (framing, keyDer) ← match sectionsAt disk keyPath with
    | .error e => throw (readFailure keyPath (PemError.io e).text)
    | .ok items => match firstOf keyFraming items with
      | .error e => throw (readFailure keyPath e.text)
      | .ok k => pure k
  let authorityPath := joinPath authority authorityFile
  let trusted ← match sectionsAt disk authorityPath with
    | .error e => throw (readFailure authorityPath (PemError.io e).text)
    | .ok items => addAuthorities authorityPath items 0
  if trusted == 0 then
    throw (.caused "failed to build client certificate verifier"
      "no root trust anchors were provided")
  let mismatch := Failure.caused "server certificate and key do not match"
  let keyInfo ← match Key.publicKeyOf framing keyDer with
    | none => throw (mismatch "unexpected error: failed to parse private key as RSA, ECDSA, or EdDSA")
    | some info => pure info
  match Der.readCertificate first with
  | .error e => throw (mismatch (refusal e))
  | .ok certInfo =>
    if certInfo != keyInfo then throw (mismatch "keys may not be consistent: KeyMismatch")

end Tls

end ChatArchive
