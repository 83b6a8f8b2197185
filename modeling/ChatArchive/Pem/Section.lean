import ChatArchive.Pem.Base64
import ChatArchive.Host.Disk

namespace ChatArchive

namespace Pem

-- The kinds of section that are read.
inductive Kind where
  | certificate
  | publicKey
  | rsaPrivateKey
  | privateKey
  | ecPrivateKey
  | revocationList
  | certificateRequest
  | echConfigList
  deriving Repr, DecidableEq

def ascii (s : String) : List UInt8 := s.toUTF8.toList

-- The kind a label names.
def Kind.ofLabel? (label : List UInt8) : Option Kind :=
  [("CERTIFICATE", Kind.certificate), ("PUBLIC KEY", .publicKey),
    ("RSA PRIVATE KEY", .rsaPrivateKey), ("PRIVATE KEY", .privateKey),
    ("EC PRIVATE KEY", .ecPrivateKey), ("X509 CRL", .revocationList),
    ("CERTIFICATE REQUEST", .certificateRequest),
    ("ENCRYPTED CLIENT HELLO CONFIG LIST", .echConfigList)].findSome? fun (l, k) =>
      if ascii l == label then some k else none

-- Why a file could not be read as sections.
inductive PemError where
  | io (e : IoError)
  | missingEnd (marker : List UInt8)
  | illegalStart (line : List UInt8)
  | base64 (e : Base64Error)
  | noItems
  deriving Repr, DecidableEq

def byteList (bs : List UInt8) : String :=
  "[" ++ String.intercalate ", " (bs.map fun b => toString b.toNat) ++ "]"

-- The message of the error.
def PemError.text : PemError → String
  | .io e => "I/O error: " ++ e.text
  | .missingEnd m => "missing section end marker: " ++ byteList m
  | .illegalStart l => "illegal section start: " ++ byteList l
  | .base64 e => "base64 decode error: " ++ e.text
  | .noItems => "no items found"

def lines (s : List UInt8) : List (List UInt8) :=
  let (done, current) := s.foldl (fun (acc : List (List UInt8) × List UInt8) b =>
    if b == 10 || b == 13 then ((b :: acc.2).reverse :: acc.1, [])
    else (acc.1, b :: acc.2)) ([], [])
  (if current.isEmpty then done else current.reverse :: done).reverse

def isAsciiSpace (b : UInt8) : Bool := b == 32 || b == 9 || b == 10 || b == 12 || b == 13

def trim (bs : List UInt8) : List UInt8 :=
  ((bs.dropWhile isAsciiSpace).reverse.dropWhile isAsciiSpace).reverse

-- Counts the dashes closing a line, walking back from its end over dashes, spaces and line
-- ends: their number, and the index of the first of them.
def closing : List (Nat × UInt8) → Nat → Nat → Nat × Nat
  | [], count, first => (count, first)
  | (i, b) :: more, count, first =>
    if b == 45 then closing more (count + 1) i
    else if b == 10 || b == 13 || b == 32 then closing more count first
    else (count, first)

def beginMark : List UInt8 := ascii "-----BEGIN "

def openingLabel (line : List UInt8) : Except PemError (List UInt8) :=
  let (count, first) := closing ((List.range line.length).zip line).reverse 0 line.length
  if count != 5 then .error (.illegalStart line)
  else .ok ((line.take first).drop beginMark.length)

def endMarker (label : List UInt8) : List UInt8 := ascii "-----END " ++ label ++ ascii "-----"

-- Reads lines up to the end of the next section of a known kind: its kind, its bytes and the lines
-- after it, or nothing when the lines run out outside a section.
def nextSection : List (List UInt8) → Option (List UInt8 × List UInt8) → List UInt8 →
    Except PemError (Option (Kind × List UInt8 × List (List UInt8)))
  | [], none, _ => .ok none
  | [], some (_, marker), _ => .error (.missingEnd marker)
  | line :: rest, open?, body =>
    if beginMark.isPrefixOf line then do
      let label ← openingLabel line
      nextSection rest (some (label, endMarker label)) body
    else
      match open? with
      | none => nextSection rest none body
      | some (label, marker) =>
        if marker.isPrefixOf line then
          match Kind.ofLabel? label with
          | none => nextSection rest none []
          | some kind =>
            match decode body with
            | .error e => .error (.base64 e)
            | .ok der => .ok (some (kind, der, rest))
        else nextSection rest open? (body ++ trim line)

-- The sections of these lines in order, each with its kind, ending at the first error. Each
-- section takes at least one line, so `fuel` lines bound the count.
def sectionsOf : Nat → List (List UInt8) → List (Except PemError (Kind × List UInt8))
  | 0, _ => []
  | fuel + 1, ls =>
    match nextSection ls none [] with
    | .error e => [.error e]
    | .ok none => []
    | .ok (some (kind, der, rest)) => .ok (kind, der) :: sectionsOf fuel rest

def sections (bytes : List UInt8) : List (Except PemError (Kind × List UInt8)) :=
  let ls := lines bytes
  sectionsOf (ls.length + 1) ls

def sectionsRead (b : Except IoError ByteArray) : List (Except PemError (Kind × List UInt8)) :=
  match b with
  | .error e => [.error (.io e)]
  | .ok bytes => sections bytes.toList

def allOf (kind : Kind) (items : List (Except PemError (Kind × List UInt8))) :
    Except PemError (List (List UInt8)) :=
  items.foldr (fun item acc => match item with
    | .error e => .error e
    | .ok (k, der) => if k == kind then (der :: ·) <$> acc else acc) (.ok [])

-- The first section that `pick` takes, or the first error before it.
def firstOf (pick : Kind → Option α) (items : List (Except PemError (Kind × List UInt8))) :
    Except PemError (α × List UInt8) :=
  match items with
  | [] => .error .noItems
  | .error e :: _ => .error e
  | .ok (k, der) :: more =>
    match pick k with
    | some a => .ok (a, der)
    | none => firstOf pick more

end Pem

end ChatArchive
