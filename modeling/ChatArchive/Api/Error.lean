import ChatArchive.Store.Error
import ChatArchive.Lane.Errors

namespace ChatArchive

-- A failure as the client sees it.
inductive ApiError where
  | notReady
  | busy
  | shuttingDown
  | badRequest (detail : String)
  | storage (e : StorageError)
  | fault (f : Fault)

namespace ApiError

def status : ApiError → Nat
  | .notReady | .busy | .shuttingDown => 503
  | .badRequest _ => 400
  | .storage _ | .fault _ => 500

-- The message of the error.
def text : ApiError → String
  | .notReady => "not ready: queue"
  | .busy => "queue is busy, try again"
  | .shuttingDown => "server is shutting down"
  | .badRequest d => "bad request: " ++ d
  | .storage _ => "storage read operation failed on backend"
  | .fault f => f.text

-- The variant path of the error, two levels at most.
def kind : ApiError → String
  | .notReady => "NotReady"
  | .busy => "Busy"
  | .shuttingDown => "ShuttingDown"
  | .badRequest _ => "BadRequest"
  | .storage e => "Storage." ++ ((e.kind.splitOn ".").headD "")
  | .fault _ => "Fault"

def ofStorage : StorageError → ApiError
  | .invalidContainerName n => .badRequest ("invalid source uid " ++ Quoted.quote n)
  | e => .storage e

-- A failed submission as the client sees it: a wait that ran out or a full lane is busy, a
-- caller that left means shutdown, any other lane refusal means not ready.
def ofSubmit : SubmitError → ApiError
  | .timedOut _ => .busy
  | .lane .full => .busy
  | .cancelled => .shuttingDown
  | .lane _ => .notReady
  | .fault f => .fault f

end ApiError

end ChatArchive
