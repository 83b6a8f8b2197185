namespace ChatArchive

namespace Net

-- A reader of a prefix of the text: the value and what follows, or nothing.
abbrev Reader (α : Type) := List Char → Option (α × List Char)

-- The value of a digit in the base, if it is one.
def digitIn (base : Nat) (c : Char) : Option Nat :=
  let d := if '0' ≤ c && c ≤ '9' then some (c.toNat - 48)
    else if 'a' ≤ c && c ≤ 'z' then some (c.toNat - 87)
    else if 'A' ≤ c && c ≤ 'Z' then some (c.toNat - 55)
    else none
  d.bind fun v => if v < base then some v else none

-- Reads the digits of a run, after `count` of them making `acc`.
def runFrom (base count acc : Nat) : List Char → Nat × Nat × List Char
  | [] => (acc, count, [])
  | c :: rest =>
    match digitIn base c with
    | some d => runFrom base (count + 1) (acc * base + d) rest
    | none => (acc, count, c :: rest)

-- Reads a number in the base: at least one digit, at most `maxDigits` when given, no leading
-- zero before other digits unless allowed, and a value at most `max`.
def number (base : Nat) (maxDigits : Option Nat) (zeroLead : Bool) (max : Nat) : Reader Nat :=
  fun s =>
    let (v, count, rest) := runFrom base 0 0 s
    let leadingZero := s.head? == some '0'
    if count == 0 then none
    else if (match maxDigits with
      | some m => decide (count > m)
      | none => false) then none
    else if !zeroLead && leadingZero && count > 1 then none
    else if v > max then none
    else some (v, rest)

def char (c : Char) : Reader Unit
  | d :: rest => if d == c then some ((), rest) else none
  | [] => none

-- An IPv4 address as its four parts.
def ipv4 : Reader (List Nat) := fun s => do
  let (a, s) ← number 10 (some 3) false 255 s
  let ((), s) ← char '.' s
  let (b, s) ← number 10 (some 3) false 255 s
  let ((), s) ← char '.' s
  let (c, s) ← number 10 (some 3) false 255 s
  let ((), s) ← char '.' s
  let (d, s) ← number 10 (some 3) false 255 s
  pure ([a, b, c, d], s)

-- Reads up to `limit` colon-separated groups, the first at index `index`, the last two
-- possibly as an IPv4 address: the groups and whether an IPv4 address ended them.
def groups (limit index : Nat) (s : List Char) : List Nat × Bool × List Char :=
  match limit with
  | 0 => ([], false, s)
  | limit + 1 =>
    let sep : Reader Unit := fun s => if index > 0 then char ':' s else some ((), s)
    let v4 := if limit ≥ 1 then (sep s).bind fun ((), s) => ipv4 s else none
    match v4 with
    | some ([a, b, c, d], rest) => ([a * 256 + b, c * 256 + d], true, rest)
    | _ =>
      match (sep s).bind fun ((), s) => number 16 (some 4) true 65535 s with
      | some (g, rest) =>
        let (more, v4, rest) := groups limit (index + 1) rest
        (g :: more, v4, rest)
      | none => ([], false, s)

-- An IPv6 address as its eight groups.
def ipv6 : Reader (List Nat) := fun s =>
  let (head, headV4, s) := groups 8 0 s
  if head.length == 8 then some (head, s)
  else if headV4 then none
  else do
    let ((), s) ← char ':' s
    let ((), s) ← char ':' s
    let (tail, _, s) := groups (8 - (head.length + 1)) 0 s
    pure (head ++ List.replicate (8 - head.length - tail.length) 0 ++ tail, s)

-- A socket address.
inductive SocketAddr where
  | v4 (parts : List Nat) (port : Nat)
  | v6 (groups : List Nat) (zone : Nat) (port : Nat)
  deriving Repr, DecidableEq

def port : Reader Nat := fun s => do
  let ((), s) ← char ':' s
  number 10 none true 65535 s

-- Reads a socket address.
def socketAddr : Reader SocketAddr := fun s =>
  match (ipv4 s).bind fun (a, s) => (port s).map fun (p, s) => (SocketAddr.v4 a p, s) with
  | some r => some r
  | none => do
    let ((), s) ← char '[' s
    let (g, s) ← ipv6 s
    let (zone, s) := match char '%' s with
      | some ((), s') => match number 10 none true 4294967295 s' with
        | some (z, s'') => (some z, s'')
        | none => (none, s)
      | none => (some 0, s)
    let zone ← zone
    let ((), s) ← char ']' s
    let (p, s) ← port s
    pure (SocketAddr.v6 g zone p, s)

def parseSocketAddr (text : String) : Option SocketAddr :=
  match socketAddr text.toList with
  | some (a, []) => some a
  | _ => none

def hexText (n : Nat) : String := String.ofList (Nat.toDigits 16 n)

-- The longest run of zero groups: its start and length (the first of equally long runs).
def zeroRun (gs : List Nat) : Nat × Nat :=
  let step := fun (acc : (Nat × Nat) × (Nat × Nat) × Nat) (g : Nat) =>
    let (best, cur, i) := acc
    if g == 0 then
      let cur := if cur.2 == 0 then (i, 1) else (cur.1, cur.2 + 1)
      let best := if cur.2 > best.2 then cur else best
      (best, cur, i + 1)
    else (best, (0, 0), i + 1)
  (gs.foldl step ((0, 0), (0, 0), 0)).1

def ipv4Text (parts : List Nat) : String := ".".intercalate (parts.map toString)

-- The text of an IPv6 address.
def ipv6Text (gs : List Nat) : String :=
  match gs with
  | [0, 0, 0, 0, 0, 0xffff, a, b] => "::ffff:" ++ ipv4Text [a / 256, a % 256, b / 256, b % 256]
  | _ =>
    let (start, len) := zeroRun gs
    let part (xs : List Nat) := ":".intercalate (xs.map hexText)
    if len > 1 then part (gs.take start) ++ "::" ++ part (gs.drop (start + len))
    else part gs

def SocketAddr.render : SocketAddr → String
  | .v4 parts port => ipv4Text parts ++ ":" ++ toString port
  | .v6 gs zone port =>
    "[" ++ ipv6Text gs ++ (if zone == 0 then "" else "%" ++ toString zone) ++ "]:" ++ toString port

end Net

end ChatArchive
