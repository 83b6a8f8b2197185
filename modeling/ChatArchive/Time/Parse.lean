import ChatArchive.Time.Instant
import ChatArchive.Text.Space

namespace ChatArchive

namespace Rfc3339

-- Why a timestamp could not be read.
inductive Trouble where
  | outOfRange
  | impossible
  | notEnough
  | invalid
  | tooShort
  | tooLong
  deriving Repr, DecidableEq

-- The message of a reason.
def Trouble.text : Trouble → String
  | .outOfRange => "input is out of range"
  | .impossible => "no possible date and time matching input"
  | .notEnough => "input is not enough for unique date and time"
  | .invalid => "input contains invalid characters"
  | .tooShort => "premature end of input"
  | .tooLong => "trailing input"

-- A step of the reader: a value and the characters after it.
abbrev Step (α : Type) := Except Trouble (α × List Char)

def trim (s : List Char) : List Char := s.dropWhile isSpace

def int64Max : Int := 9223372036854775807

-- Reads at least `least` and at most `most` ASCII digits, after the `taken` already read into
-- `acc`.
def digits (least most taken : Nat) (acc : Int) : List Char → Step Int
  | [] => if taken < least then .error .tooShort else .ok (acc, [])
  | c :: rest =>
    if taken ≥ most then .ok (acc, c :: rest)
    else if c.isDigit then
      let v := acc * 10 + (c.toNat - '0'.toNat)
      if v > int64Max then .error .outOfRange else digits least most (taken + 1) v rest
    else if taken < least then .error .invalid
    else .ok (acc, c :: rest)

def number (least most : Nat) (s : List Char) : Step Int :=
  if s.isEmpty && least > 0 then .error .tooShort else digits least most 0 0 s

def field (width : Nat) (lo hi : Int) (s : List Char) : Except Trouble (Int × List Char) := do
  let (v, rest) ← number 1 width (trim s)
  if lo ≤ v ∧ v ≤ hi then pure (v, rest) else throw .outOfRange

-- Reads the year: a sign and any number of digits, or four digits.
def year (s : List Char) : Except Trouble (Int × List Char) := do
  let (v, rest) ← match trim s with
    | '-' :: r => do
      let (v, rest) ← number 1 1000 r
      pure (-v, rest)
    | '+' :: r => number 1 1000 r
    | r => number 1 4 r
  if -2147483648 ≤ v ∧ v ≤ 2147483647 then pure (v, rest) else throw .outOfRange

def literal (c : Char) (s : List Char) : Except Trouble (List Char) :=
  match trim s with
  | [] => .error .tooShort
  | d :: rest => if d == c then .ok rest else .error .invalid

-- The fraction of a second: its nanoseconds from the first nine digits, the rest skipped.
def fraction (s : List Char) : Except Trouble (Nat × List Char) :=
  match s with
  | '.' :: r => do
    let (v, rest) ← number 1 9 r
    let used := r.length - rest.length
    pure ((v.toNat * Nat.pow 10 (9 - used)), rest.dropWhile Char.isDigit)
  | _ => .ok (0, s)

-- The fields of a timestamp as written.
structure Fields where
  year : Int
  month : Nat
  day : Nat
  hour : Nat
  minute : Nat
  second : Nat
  nanos : Nat
  -- the offset east of UTC, in seconds
  offset : Int

def twoDigits : List Char → Option (Nat × List Char)
  | a :: b :: rest => if a.isDigit && b.isDigit then
      some ((a.toNat - '0'.toNat) * 10 + (b.toNat - '0'.toNat), rest) else none
  | _ => none

-- The offset: `Z`, or a sign, two digits of hours, separators, two digits of minutes.
def offset (s : List Char) : Step Int :=
  match s with
  | 'Z' :: rest | 'z' :: rest => .ok (0, rest)
  | [] => .error .tooShort
  | c :: rest =>
    let sign : Option Int :=
      if c == '+' then some 1 else if c == '-' || c == '−' then some (-1) else none
    match sign with
    | none => .error .invalid
    | some sign =>
      match rest with
      | [] | [_] => .error .tooShort
      | h1 :: h2 :: afterHours =>
        if !(h1.isDigit && h2.isDigit) then .error .invalid
        else
          let hours := (h1.toNat - '0'.toNat) * 10 + (h2.toNat - '0'.toNat)
          let s := afterHours.dropWhile fun c => c == ':' || isSpace c
          match s with
          | m1 :: m2 :: afterMinutes =>
            if m1.isDigit && m2.isDigit then
              if m1.toNat - '0'.toNat ≥ 6 then .error .outOfRange
              else
                let minutes := (m1.toNat - '0'.toNat) * 10 + (m2.toNat - '0'.toNat)
                .ok (sign * ((hours * 3600 + minutes * 60 : Nat) : Int), afterMinutes)
            else .error .invalid
          | _ => .error .tooShort

def isUtc : List Char → Bool
  | a :: b :: c :: _ => a.toUpper == 'U' && b.toUpper == 'T' && c.toUpper == 'C'
  | _ => false

-- Reads the fields of a timestamp.
def fields (s : List Char) : Except Trouble Fields := do
  let (y, s) ← year s
  let s ← literal '-' s
  let (mo, s) ← field 2 1 12 s
  let s ← literal '-' s
  let (d, s) ← field 2 1 31 s
  let s := trim s
  if s.isEmpty then throw .notEnough
  let s ← match s with
    | c :: rest => if c == 'T' || c == 't' || c == ' ' then pure rest else throw .invalid
    | [] => throw .tooShort
  let (h, s) ← field 2 0 23 s
  let s ← literal ':' s
  let (mi, s) ← field 2 0 59 s
  let s ← literal ':' s
  let (sec, s) ← field 2 0 60 s
  let (nanos, s) ← fraction s
  let s := trim s
  if s.isEmpty then throw .notEnough
  let (off, s) ← if isUtc s then pure (0, s.drop 3) else offset s
  if !(trim s).isEmpty then throw .tooLong
  pure ⟨y, mo.toNat, d.toNat, h.toNat, mi.toNat, sec.toNat, nanos, off⟩

-- The instant a timestamp names, in UTC.
def parse (text : String) : Except Trouble Instant := do
  let f ← fields text.toList
  if !(-86400 < f.offset ∧ f.offset < 86400) then throw .outOfRange
  if !(-262143 ≤ f.year ∧ f.year ≤ 262142) || f.day > Civil.monthLength f.year f.month then
    throw .outOfRange
  -- second 60 is the last second of the minute, stretched
  let (second, nanos) := if f.second == 60 then (59, f.nanos + 1000000000) else (f.second, f.nanos)
  let wall := Civil.daysFromCivil f.year f.month f.day * 86400
    + ((f.hour * 3600 + f.minute * 60 + second : Nat) : Int)
  let utc := wall - f.offset
  if !(Instant.minSeconds ≤ utc ∧ utc ≤ Instant.maxSeconds) then throw .outOfRange
  pure ⟨utc, nanos⟩

end Rfc3339

end ChatArchive
