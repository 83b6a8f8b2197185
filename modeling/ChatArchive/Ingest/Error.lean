import ChatArchive.Ingest.Directory
import ChatArchive.Lane.Errors
import ChatArchive.Lane.Fault

namespace ChatArchive

-- Why an update was not stored.
inductive IngestError where
  | unsupported (kind : String)
  | ignored (what : String)
  | resolve (e : ResolveError)
  -- the conversation of the update resolves to a source marked invalid
  | invalidSource (ref : PeerRef)
  | lane (e : LaneError)
  | fault (f : Fault)
  | cancelled
  deriving Repr, DecidableEq

namespace IngestError

-- The message of the error.
def text : IngestError → String
  | .unsupported kind => "unsupported event: " ++ kind
  | .ignored what => what ++ " events are not stored"
  | .resolve e => "peer resolution: " ++ e.text
  | .invalidSource ref => "invalid source for event " ++ ref.describe
  | .lane e => e.text
  | .fault f => f.text
  | .cancelled => "shutting down before the event was stored"

-- The variant path of the error, two levels at most.
def kind : IngestError → String
  | .unsupported _ => "Unsupported"
  | .ignored _ => "Ignored"
  | .resolve e => "Resolve." ++ e.kind
  | .invalidSource _ => "InvalidSource"
  | .lane e => "Queue." ++ e.kind
  | .fault _ => "Fault"
  | .cancelled => "Cancelled"

end IngestError

end ChatArchive
