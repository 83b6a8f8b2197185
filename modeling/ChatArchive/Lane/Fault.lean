import ChatArchive.Log.Logger

namespace ChatArchive

-- What an abrupt failure carries.
inductive Payload where
  | text (s : String)
  | other
  deriving Repr, DecidableEq

def Payload.message : Payload → String
  | .text s => s
  | .other => "non-string panic payload"

-- A failure caught at a fault boundary, named by the work that failed.
structure Fault where
  title : String
  deriving Repr, DecidableEq, Inhabited

def Fault.text (f : Fault) : String := "panic (details hidden): " ++ f.title

def Fault.report (l : Logger) (kind title : String) (p : Payload) : LogRecord :=
  l.record .critical kind ("panic (err, stacktrace): " ++ title)
    [("err", "recovered from panic: " ++ p.message), ("stacktrace", "")]

def contain (l : Logger) (kind title : String) (work : Except Payload α) :
    Except Fault α × List LogRecord :=
  match work with
  | .ok a => (.ok a, [])
  | .error p => (.error ⟨title⟩, [Fault.report l kind title p])

end ChatArchive
