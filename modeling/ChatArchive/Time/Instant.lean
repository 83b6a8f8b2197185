import ChatArchive.Time.Civil

namespace ChatArchive

-- A point in time: seconds since the epoch and nanoseconds after them.
structure Instant where
  seconds : Int
  nanos : Nat
  deriving Repr, DecidableEq, Inhabited

namespace Instant

def minSeconds : Int := -8334601228800

def maxSeconds : Int := 8210266876799

def epoch : Instant := ⟨0, 0⟩

def ofSeconds (s : Int) : Option Instant :=
  if minSeconds ≤ s ∧ s ≤ maxSeconds then some ⟨s, 0⟩ else none

def ofMillis (ms : Int) : Option Instant :=
  let s := ms / 1000
  if minSeconds ≤ s ∧ s ≤ maxSeconds then some ⟨s, (ms % 1000).toNat * 1000000⟩ else none

def millis (t : Instant) : Int := t.seconds * 1000 + (t.nanos / 1000000 : Nat)

def padded (width n : Nat) : String :=
  let s := toString n
  String.ofList (List.replicate (width - s.length) '0') ++ s

def yearText (y : Int) : String :=
  if 0 ≤ y ∧ y ≤ 9999 then padded 4 y.toNat
  else (if y < 0 then "-" else "+") ++ padded 4 y.natAbs

def fractionText (nanos : Nat) : String :=
  if nanos == 0 then ""
  else if nanos % 1000000 == 0 then "." ++ padded 3 (nanos / 1000000)
  else if nanos % 1000 == 0 then "." ++ padded 6 (nanos / 1000)
  else "." ++ padded 9 nanos

-- The RFC 3339 text of the instant, in UTC.
def render (t : Instant) : String :=
  let days := t.seconds / 86400
  let secs := (t.seconds % 86400).toNat
  let (y, m, d) := Civil.civilFromDays days
  -- a leap second shows as second 60
  let (sec, nanos) := if t.nanos ≥ 1000000000 then (secs % 60 + 1, t.nanos - 1000000000)
    else (secs % 60, t.nanos)
  yearText y ++ "-" ++ padded 2 m ++ "-" ++ padded 2 d ++ "T" ++ padded 2 (secs / 3600) ++ ":"
    ++ padded 2 (secs / 60 % 60) ++ ":" ++ padded 2 sec ++ fractionText nanos ++ "Z"

end Instant

end ChatArchive
