import ChatArchive.Lane.Fault

namespace ChatArchive

-- A span of time in nanoseconds.
structure Duration where
  nanos : Nat
  deriving Repr, DecidableEq, Inhabited

namespace Duration

def ofMillis (ms : Nat) : Duration := ⟨ms * 1000000⟩

def millis (d : Duration) : Nat := d.nanos / 1000000

-- `whole` units and `frac` parts of `unit`, the fraction without trailing zeros.
def decimal (whole frac unit : Nat) (suffix : String) : String :=
  if frac == 0 then toString whole ++ suffix
  else
    let digits := (toString (unit + frac)).toList.drop 1
    let trimmed := String.ofList (digits.reverse.dropWhile (· == '0')).reverse
    toString whole ++ "." ++ trimmed ++ suffix

def text (d : Duration) : String :=
  if d.nanos ≥ 1000000000 then decimal (d.nanos / 1000000000) (d.nanos % 1000000000) 1000000000 "s"
  else if d.nanos ≥ 1000000 then decimal (d.nanos / 1000000) (d.nanos % 1000000) 1000000 "ms"
  else if d.nanos ≥ 1000 then decimal (d.nanos / 1000) (d.nanos % 1000) 1000 "µs"
  else toString d.nanos ++ "ns"

end Duration

-- Why the lane refuses a request.
inductive LaneError where
  | notReady
  | full
  | stopped
  | alreadyRunning
  deriving Repr, DecidableEq

namespace LaneError

def text : LaneError → String
  | .notReady => "not ready: queue"
  | .full => "queue is full"
  | .stopped => "queue is stopped"
  | .alreadyRunning => "queue worker is already running"

def kind : LaneError → String
  | .notReady => "NotReady"
  | .full => "Full"
  | .stopped => "Stopped"
  | .alreadyRunning => "AlreadyRunning"

end LaneError

-- How a submitted unit of work can fail.
inductive SubmitError where
  -- it did not start within the span
  | timedOut (d : Duration)
  -- the caller gave up before it started
  | cancelled
  | lane (e : LaneError)
  | fault (f : Fault)
  deriving Repr, DecidableEq

namespace SubmitError

def text : SubmitError → String
  | .timedOut d => "operation did not start within " ++ d.text
  | .cancelled => "caller went away before the operation started"
  | .lane e => e.text
  | .fault f => f.text

def kind : SubmitError → String
  | .timedOut _ => "TimedOut"
  | .cancelled => "Cancelled"
  | .lane e => "Queue." ++ e.kind
  | .fault _ => "Fault"

def retryable : SubmitError → Bool
  | .timedOut _ => true
  | .lane .full => true
  | _ => false

end SubmitError

end ChatArchive
