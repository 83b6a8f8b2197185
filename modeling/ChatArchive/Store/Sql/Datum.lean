import ChatArchive.Text.Nearest
import ChatArchive.Text.Decimal

namespace ChatArchive

namespace Sql

-- A stored value. Integers stay within 64 bits and doubles are never NaN.
inductive Datum where
  | null
  | integer (n : Int)
  | real (bits : UInt64)
  | text (s : String)
  | blob (bytes : ByteArray)

namespace Datum

-- The name of the storage class, as column-type errors spell it.
def typeName : Datum → String
  | .null => "Null"
  | .integer _ => "Integer"
  | .real _ => "Real"
  | .text _ => "Text"
  | .blob _ => "Blob"

-- The rank of the storage class in the sort order.
def rank : Datum → Nat
  | .null => 0
  | .integer _ => 1
  | .real _ => 1
  | .text _ => 2
  | .blob _ => 3

def isNull : Datum → Bool
  | .null => true
  | _ => false

end Datum

def upper (s : String) : String := String.ofList (s.toList.map Char.toUpper)

-- Lexicographic order of two lists, a proper prefix first.
def lexCompare {α : Type} [Ord α] : List α → List α → Ordering
  | [], [] => .eq
  | [], _ :: _ => .lt
  | _ :: _, [] => .gt
  | a :: as, b :: bs =>
    match compare a b with
    | .eq => lexCompare as bs
    | o => o

-- A number as an exact value: a finite fraction, or an infinity of a sign.
inductive Exact where
  | finite (num : Int) (den : Nat)
  | infinite (negative : Bool)

-- The exact value of a double.
def Exact.ofBits (bits : UInt64) : Exact :=
  let negative := bits.toNat ≥ Nat.pow 2 63
  if (bits.toNat / Nat.pow 2 52) % 2048 == 2047 then .infinite negative
  else
    let (num, den) := Binary64.fraction bits
    .finite (if negative then -(num : Int) else num) den

-- Order of two exact numbers.
def Exact.compare : Exact → Exact → Ordering
  | .infinite a, .infinite b =>
    if a == b then .eq else if a then .lt else .gt
  | .infinite a, .finite _ _ => if a then .lt else .gt
  | .finite _ _, .infinite b => if b then .gt else .lt
  | .finite n d, .finite m e => Ord.compare (n * e) (m * d)

def Datum.exact? : Datum → Option Exact
  | .integer n => some (.finite n 1)
  | .real bits => some (Exact.ofBits bits)
  | _ => none

-- Order of two values: by storage class, then numbers by value, texts and byte strings by
-- their bytes. Two nothings are equal here.
def Datum.compare (a b : Datum) : Ordering :=
  match a, b with
  | .text s, .text t => lexCompare s.toList t.toList
  | .blob x, .blob y => lexCompare x.toList y.toList
  | _, _ =>
    match a.exact?, b.exact? with
    | some x, some y => x.compare y
    | _, _ => Ord.compare a.rank b.rank

def realOfInt (n : Int) : UInt64 :=
  let bits := (Binary64.nearest n.natAbs 1).getD 0
  if n < 0 then Binary64.negate bits else bits

-- The integer a double names exactly, when it lies strictly inside the 64-bit range.
def intOfReal? (bits : UInt64) : Option Int :=
  match Exact.ofBits bits with
  | .finite num den =>
    if num % (den : Int) == 0 then
      let n := num / den
      if Decimal.i64Min < n ∧ n < Decimal.i64Max then some n else none
    else none
  | .infinite _ => none

def isBlank (c : Char) : Bool :=
  c == ' ' || c == '\t' || c == '\n' || c == '\x0c' || c == '\r' || c == '\x0b'

-- A number read from text: a whole number, or a decimal with its digits and the power of ten
-- they are scaled by.
inductive Numeral where
  | whole (n : Int)
  | decimal (negative : Bool) (digits : Nat) (scale : Int)

def takeDigits (cs : List Char) : Nat × Nat × List Char :=
  let ds := cs.takeWhile Decimal.isDigit
  (Decimal.digitsValue ds, ds.length, cs.drop ds.length)

-- Reads an exponent `e`/`E`, an optional sign and digits; `none` when it is malformed.
def readExponent (cs : List Char) : Option (Int × List Char) :=
  match cs with
  | c :: rest =>
    if c == 'e' || c == 'E' then
      let (negative, rest) := match rest with
        | '-' :: r => (true, r)
        | '+' :: r => (false, r)
        | r => (false, r)
      let (v, count, rest) := takeDigits rest
      if count == 0 then none else some (if negative then -(v : Int) else v, rest)
    else some (0, cs)
  | [] => some (0, [])

-- The whole text read as a number, white space around it allowed: a sign, digits, a point
-- with more digits, an exponent.
def numeral? (s : String) : Option Numeral :=
  let cs := s.toList.dropWhile isBlank
  let (negative, cs) := match cs with
    | '-' :: r => (true, r)
    | '+' :: r => (false, r)
    | r => (false, r)
  let (whole, wholeCount, cs) := takeDigits cs
  let (frac, fracCount, pointed, cs) := match cs with
    | '.' :: r => let (f, n, r) := takeDigits r; (f, n, true, r)
    | r => (0, 0, false, r)
  if wholeCount + fracCount == 0 then none
  else
    match readExponent cs with
    | none => none
    | some (exp, rest) =>
      if !(rest.all isBlank) then none
      else if !pointed && exp == 0 && !(cs.headD ' ' == 'e' || cs.headD ' ' == 'E') then
        .some (.whole (if negative then -(whole : Int) else whole))
      else .some (.decimal negative (whole * Nat.pow 10 fracCount + frac) (exp - fracCount))

-- The double nearest to `±digits · 10^scale`; an overflow is an infinity.
def realOfDecimal (negative : Bool) (digits : Nat) (scale : Int) : UInt64 :=
  let magnitude :=
    if scale ≥ 0 then Binary64.nearest (digits * Nat.pow 10 scale.toNat) 1
    else Binary64.nearest digits (Nat.pow 10 (-scale).toNat)
  let bits := magnitude.getD 0x7FF0000000000000
  if negative then Binary64.negate bits else bits

def Numeral.datum : Numeral → Datum
  | .whole n =>
    if Decimal.i64Min ≤ n ∧ n ≤ Decimal.i64Max then .integer n
    else .real (realOfDecimal (n < 0) n.natAbs 0)
  | .decimal negative digits scale => .real (realOfDecimal negative digits scale)

def digitList (n : Nat) : List Nat :=
  (Nat.toDigits 10 n).map fun c => c.toNat - '0'.toNat

def digitText (ds : List Nat) : String :=
  String.ofList (ds.map fun d => Char.ofNat ('0'.toNat + d))

-- `⌊log₁₀ (num / den)⌋` for a positive fraction, found by stepping.
def floorLog10 (num den : Nat) : Int :=
  let rec up (k : Nat) : Nat → Nat
    | 0 => k
    | fuel + 1 => if den * Nat.pow 10 (k + 1) ≤ num then up (k + 1) fuel else k
  let rec down (k : Nat) : Nat → Nat
    | 0 => k
    | fuel + 1 => if num * Nat.pow 10 k < den then down (k + 1) fuel else k
  if den ≤ num then (up 0 400 : Int) else -((down 1 400 : Nat) : Int)

-- The text of a double with fifteen significant digits, rounded half up, trailing zeros
-- dropped but a digit always after the point; an exponent `e±XX` when the decimal exponent is
-- below -4 or at least 15.
def realText (bits : UInt64) : String :=
  match Exact.ofBits bits with
  | .infinite negative => if negative then "-Inf" else "Inf"
  | .finite num den =>
    let sign := if bits.toNat ≥ Nat.pow 2 63 then "-" else ""
    if num == 0 then sign ++ "0.0"
    else
      let n := num.natAbs
      let x := floorLog10 n den
      -- the value scaled to fifteen digits before the point: n/den · 10^(14 - x)
      let shift : Int := 14 - x
      let (sn, sd) := if shift ≥ 0 then (n * Nat.pow 10 shift.toNat, den) else (n, den * Nat.pow 10 (-shift).toNat)
      let rounded := (2 * sn + sd) / (2 * sd)
      -- rounding may carry into a sixteenth digit
      let (rounded, x) := if rounded ≥ Nat.pow 10 15 then (rounded / 10, x + 1) else (rounded, x)
      let ds := digitList rounded
      let kept := ds.reverse.dropWhile (· == 0) |>.reverse
      let kept := if kept.isEmpty then [0] else kept
      if x < -4 ∨ x ≥ 15 then
        let lead := digitText (kept.take 1)
        let tail := if kept.length ≤ 1 then "0" else digitText (kept.drop 1)
        let e := x.natAbs
        let eText := (if e < 10 then "0" else "") ++ toString e
        sign ++ lead ++ "." ++ tail ++ "e" ++ (if x < 0 then "-" else "+") ++ eText
      else if x < 0 then
        sign ++ "0." ++ String.ofList (List.replicate (x.natAbs - 1) '0') ++ digitText kept
      else
        let before := x.toNat + 1
        let intPart := digitText (kept.take before) ++
          String.ofList (List.replicate (before - min before kept.length) '0')
        let fracPart := if kept.length ≤ before then "0" else digitText (kept.drop before)
        sign ++ intPart ++ "." ++ fracPart

def Datum.asText? : Datum → Option String
  | .integer n => some (toString n)
  | .real bits => some (realText bits)
  | .text s => some s
  | _ => none

-- The class a column leans towards.
inductive Affinity where
  | none
  | text
  | numeric
  | integer
  | real
  deriving DecidableEq, Repr

def containsSub (hay needle : List Char) : Bool :=
  match hay with
  | [] => needle.isEmpty
  | c :: rest => needle.isPrefixOf (c :: rest) || containsSub rest needle

-- The affinity of a declared type: `INT` makes it integer; `CHAR`, `CLOB` or `TEXT` text;
-- `BLOB` or no type none; `REAL`, `FLOA` or `DOUB` real; anything else numeric.
def Affinity.ofType (declared : String) : Affinity :=
  let t := declared.toList.map Char.toUpper
  if containsSub t "INT".toList then .integer
  else if containsSub t "CHAR".toList || containsSub t "CLOB".toList ||
      containsSub t "TEXT".toList then .text
  else if t.isEmpty || containsSub t "BLOB".toList then .none
  else if containsSub t "REAL".toList || containsSub t "FLOA".toList ||
      containsSub t "DOUB".toList then .real
  else .numeric

def integral (bits : UInt64) : Datum :=
  match intOfReal? bits with
  | some n => .integer n
  | none => .real bits

-- Converts a value towards an affinity. Text that reads as a number becomes one under the
-- numeric affinities; a number becomes text under the text affinity; nothing else changes.
def Datum.withAffinity (d : Datum) : Affinity → Datum
  | .none => d
  | .text =>
    match d with
    | .integer _ | .real _ => .text (d.asText?.getD "")
    | _ => d
  | .real =>
    match d with
    | .integer n => .real (realOfInt n)
    | .text s =>
      match numeral? s with
      | some n =>
        match n.datum with
        | .integer k => .real (realOfInt k)
        | other => other
      | none => d
    | _ => d
  | .numeric | .integer =>
    match d with
    | .real bits => integral bits
    | .text s =>
      match numeral? s with
      | some n =>
        match n.datum with
        | .real bits => integral bits
        | other => other
      | none => d
    | _ => d

end Sql

end ChatArchive
