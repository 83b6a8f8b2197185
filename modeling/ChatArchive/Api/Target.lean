namespace ChatArchive

namespace Api

-- Why a request could not be formed.
inductive RequestError where
  | method
  | emptyTarget
  | targetCharacter
  | authority
  | format
  | schemeTooLong
  | targetTooLong
  | headerValue
  deriving Repr, DecidableEq

-- The message of the error.
def RequestError.text : RequestError → String
  | .method => "invalid HTTP method"
  | .emptyTarget => "empty string"
  | .targetCharacter => "invalid uri character"
  | .authority => "invalid authority"
  | .format => "invalid format"
  | .schemeTooLong => "scheme too long"
  | .targetTooLong => "uri too long"
  | .headerValue => "failed to parse header value"

def isAlnum (b : UInt8) : Bool :=
  (48 ≤ b && b ≤ 57) || (65 ≤ b && b ≤ 90) || (97 ≤ b && b ≤ 122)

def isMethodByte (b : UInt8) : Bool :=
  isAlnum b || [33, 35, 36, 37, 38, 39, 42, 43, 45, 46, 94, 95, 96, 124, 126].contains b.toNat

def checkMethod (m : String) : Except RequestError String :=
  let bytes := m.toUTF8.toList
  if !bytes.isEmpty && bytes.all isMethodByte then .ok m else .error .method

def isAuthorityByte (b : UInt8) : Bool :=
  isAlnum b || [33, 35, 36, 38, 39, 40, 41, 42, 43, 44, 45, 46, 47, 58, 59, 61, 63, 64, 91, 93, 95,
    126].contains b.toNat

-- What an authority scan has seen so far.
structure AuthorityScan where
  colons : Nat
  opened : Bool
  closed : Bool
  percent : Bool
  atSign : Option Nat

-- Scans an authority from index `i` up to the first `/`, `?` or `#`: the index where it ends,
-- and what was seen.
def scanAuthority : List UInt8 → Nat → AuthorityScan → Except RequestError (Nat × AuthorityScan)
  | [], i, st => .ok (i, st)
  | b :: rest, i, st =>
    let c := b.toNat
    if c == 47 || c == 63 || c == 35 then .ok (i, st)
    else if c == 58 then
      if st.colons ≥ 8 then .error .authority
      else scanAuthority rest (i + 1) { st with colons := st.colons + 1 }
    else if c == 91 then
      if st.percent || st.opened then .error .authority
      else scanAuthority rest (i + 1) { st with opened := true }
    else if c == 93 then
      if !st.opened || st.closed then .error .authority
      else scanAuthority rest (i + 1) { st with closed := true, colons := 0, percent := false }
    else if c == 64 then
      scanAuthority rest (i + 1) { st with atSign := some i, colons := 0, percent := false }
    else if c == 37 then scanAuthority rest (i + 1) { st with percent := true }
    else if isAuthorityByte b then scanAuthority rest (i + 1) st
    else .error .targetCharacter

-- The length of the authority at the start of `s`: brackets balanced, one port colon at most,
-- something after an `@`, and no percent sign outside the user part.
def authorityLength (s : List UInt8) : Except RequestError Nat := do
  let (stop, st) ← scanAuthority s 0 ⟨0, false, false, false, none⟩
  if st.opened != st.closed then throw .authority
  if st.colons > 1 then throw .authority
  if stop > 0 && st.atSign == some (stop - 1) then throw .authority
  if st.percent then throw .authority
  return stop

def isSchemeByte (b : UInt8) : Bool := isAlnum b || b == 43 || b == 45 || b == 46

-- How a target starts: with no scheme, or with a scheme and `://` taking `n` bytes.
def schemeLength (s : List UInt8) : Except RequestError (Option Nat) :=
  let lower := s.map fun b => if 65 ≤ b && b ≤ 90 then b + 32 else b
  if s.length ≥ 7 && lower.take 7 == "http://".toUTF8.toList then .ok (some 7)
  else if s.length ≥ 8 && lower.take 8 == "https://".toUTF8.toList then .ok (some 8)
  else if s.length ≤ 3 then .ok none
  else
    let name := s.takeWhile isSchemeByte
    let i := name.length
    if s[i]? != some 58 || s.length < i + 3 || (s.drop (i + 1)).take 2 != [47, 47] then .ok none
    else if i > 64 then .error .schemeTooLong
    else .ok (some (i + 3))

def isPathByte (b : UInt8) : Bool :=
  let c := b.toNat
  c == 33 || (36 ≤ c && c ≤ 59) || c == 61 || (64 ≤ c && c ≤ 95) || (97 ≤ c && c ≤ 122) ||
    c == 124 || c == 126 || c ≥ 127 || c == 34 || c == 123 || c == 125

def isQueryByte (b : UInt8) : Bool :=
  let c := b.toNat
  c == 33 || (36 ≤ c && c ≤ 59) || c == 61 || (63 ≤ c && c ≤ 126) || c ≥ 127

-- The query bytes up to a `#`, or the first refused byte.
def scanQuery : List UInt8 → Except RequestError (List UInt8)
  | [] => .ok []
  | b :: rest =>
    if b == 35 then .ok []
    else if isQueryByte b then (b :: ·) <$> scanQuery rest
    else .error .targetCharacter

-- The path bytes up to a `?` or `#`, and the query after a `?`.
def scanPath : List UInt8 → Except RequestError (List UInt8 × Option (List UInt8))
  | [] => .ok ([], none)
  | b :: rest =>
    if b == 63 then do return ([], some (← scanQuery rest))
    else if b == 35 then .ok ([], none)
    else if isPathByte b then do
      let (path, query) ← scanPath rest
      return (b :: path, query)
    else .error .targetCharacter

def textOf (bytes : List UInt8) : String :=
  (String.fromUTF8? (ByteArray.mk bytes.toArray)).getD ""

-- A request target as routing sees it: the path, and the query if there is one.
structure Target where
  path : String
  query : Option String
  deriving Repr, DecidableEq

def Target.ofPathAndQuery (s : List UInt8) : Except RequestError Target := do
  let (path, query) ← scanPath s
  return ⟨if path.isEmpty then "/" else textOf path, query.map textOf⟩

def targetMax : Nat := 65534

-- Reads a request target.
def Target.parse (text : String) : Except RequestError Target := do
  let s := text.toUTF8.toList
  if s.length > targetMax then throw .targetTooLong
  match s with
  | [] => throw .emptyTarget
  | [47] => return ⟨"/", none⟩
  | [42] => return ⟨"*", none⟩
  | [_] =>
    if (← authorityLength s) != 1 then throw .targetCharacter
    return ⟨"", none⟩
  | first :: _ =>
    if first == 47 then Target.ofPathAndQuery s
    else
      match ← schemeLength s with
      | none =>
        if (← authorityLength s) != s.length then throw .format
        return ⟨"", none⟩
      | some n =>
        let rest := s.drop n
        let stop ← authorityLength rest
        if stop == 0 then throw .format
        Target.ofPathAndQuery (rest.drop stop)

def isHeaderByte (b : UInt8) : Bool := (b ≥ 32 && b != 127) || b == 9

-- A request as the router receives it.
structure Request where
  method : String
  target : Target
  body : String
  contentType : Option String
  deriving Repr, DecidableEq

-- Forms a request; the first invalid part, in the order method, target, content type, refuses
-- it.
def Request.make (method target body : String) (contentType : Option String) :
    Except RequestError Request := do
  let method ← checkMethod method
  let target ← Target.parse target
  if let some t := contentType then
    if !t.toUTF8.toList.all isHeaderByte then throw .headerValue
  return ⟨method, target, body, contentType⟩

-- The value of a hex digit byte.
def hexValue? (b : UInt8) : Option Nat :=
  let c := b.toNat
  if 48 ≤ c && c ≤ 57 then some (c - 48)
  else if 65 ≤ c && c ≤ 70 then some (c - 55)
  else if 97 ≤ c && c ≤ 102 then some (c - 87)
  else none

-- Replaces each `%` followed by two hex digits with the byte they spell; any other `%` stays.
def percentDecodeBytes : List UInt8 → List UInt8
  | [] => []
  | b :: h :: l :: more =>
    match b == 37, hexValue? h, hexValue? l with
    | true, some hi, some lo => (hi * 16 + lo).toUInt8 :: percentDecodeBytes more
    | _, _, _ => b :: percentDecodeBytes (h :: l :: more)
  | b :: rest => b :: percentDecodeBytes rest

def percentDecode (s : String) : Option String :=
  String.fromUTF8? (ByteArray.mk (percentDecodeBytes s.toUTF8.toList).toArray)

end Api

end ChatArchive
