import ChatArchive.Service.State
import ChatArchive.Api.Error
import ChatArchive.Api.Extract
import ChatArchive.Record.Write
import ChatArchive.Json.Render

namespace ChatArchive

namespace Service

-- An answer to a call.
structure Response where
  status : Nat
  contentType : Option String
  -- the correlation id of the call, sent back with the answer
  requestId : Option String
  body : String
  deriving Repr, DecidableEq

def ndjson : String := "application/x-ndjson"

def ndjsonBody (records : List Json.Value) : String :=
  String.join (records.map fun v => v.render ++ "\n")

def jsonType : String := "application/json"

def callKind : String := "rpc_call"

def serviceKind : String := "rpc_service"

def jsonResponse (status : Nat) (v : Json.Value) : Response :=
  ⟨status, some jsonType, none, v.render⟩

def errorResponse (e : ApiError) : Response :=
  jsonResponse e.status (.obj [("error", .str e.text)])

def emptyResponse (status : Nat) : Response := ⟨status, none, none, ""⟩

-- What a call came to before its body is sent: an answer, or records to stream, each a JSON
-- value, reported through a logger once sent.
inductive Outcome where
  | answer (r : Response)
  | stream (records : List Json.Value) (l : Logger)

-- The routes.
inductive Route where
  | ready
  | sources
  | messages (segment : String)
  deriving Repr, DecidableEq

-- The route a path names: the path is matched as it is, and the uid segment must not be
-- empty.
def Route.ofPath (path : String) : Option Route :=
  match path.splitOn "/" with
  | ["", "ready"] => some .ready
  | ["", "sources"] => some .sources
  | ["", "sources", segment, "messages"] => if segment.isEmpty then none else some (.messages segment)
  | _ => none

def Route.allows : Route → String → Bool
  | .sources, m => m == "GET" || m == "HEAD" || m == "POST"
  | _, m => m == "GET" || m == "HEAD"

def read (s : Service) (work : Lane.Work Store Reply) : Option (Except SubmitError Reply) × Service :=
  let (r, lane) := s.lane.submitUntil work s.setup.submitTimeout s.lane.rootCancelled none
    (some (s.lane.now + s.setup.rpcWait))
  (r, { s with lane := lane })

-- What a read came to, as the client is told: the records, or the failure. A call that gave up
-- is busy; a reply of another shape than `records` reads is a fault of the read `title`.
def readResult {ρ : Type} (title : String)
    (records : ρ → Option (Except StorageError (List Json.Value))) :
    Option (Except SubmitError ρ) → Except ApiError (List Json.Value)
  | none => .error .busy
  | some (.error e) => .error (ApiError.ofSubmit e)
  | some (.ok reply) =>
    match records reply with
    | some (.ok values) => .ok values
    | some (.error e) => .error (ApiError.ofStorage e)
    | none => .error (.fault ⟨title⟩)

-- Runs a read of records and turns its outcome into an answer: records are streamed through
-- `l`, a call that gave up is reported and answers busy.
def readRecords (s : Service) (l : Logger) (title : String) (work : Lane.Work Store Reply)
    (records : Reply → Option (Except StorageError (List Json.Value))) : Outcome × Service :=
  let (r, s) := s.read work
  let s := if r.isNone then
      s.report [l.record .warning serviceKind "RPC wait elapsed, giving up on read"
        [("op", title), ("rpc_wait", (Duration.ofMillis s.setup.rpcWait).text)]]
    else s
  match readResult title records r with
  | .ok values => (.stream values l, s)
  | .error e => (.answer (errorResponse e), s)

def sourcesWork (l : Logger) (uids : List String) : Lane.Work Store Reply :=
  ⟨0, fun _ store =>
    let ((r, logs), store) := store.step (StoreM.readSources l uids)
    ((.ok (.sources r), logs), store)⟩

def messagesWork (l : Logger) (uid : String) : Lane.Work Store Reply :=
  ⟨0, fun _ store =>
    let ((r, logs), store) := store.step (StoreM.readMessages l uid)
    ((.ok (.messages r), logs), store)⟩

def sourceRecords : Reply → Option (Except StorageError (List Json.Value))
  | .sources r => some (r.map (·.map Wire.Source.toValue))
  | _ => none

def messageRecords : Reply → Option (Except StorageError (List Json.Value))
  | .messages r => some (r.map (·.map Wire.Message.toValue))
  | _ => none

def readSources (s : Service) (l : Logger) (uids : List String) : Outcome × Service :=
  let l := l.derive "read-sources" [("requested", toString uids.length)]
  s.readRecords l "ReadSources" (sourcesWork l uids) sourceRecords

def readMessages (s : Service) (l : Logger) (uid : String) : Outcome × Service :=
  let l := l.derive "read-messages" [("source_uid", uid)]
  s.readRecords l "ReadMessages" (messagesWork l uid) messageRecords

-- Answers a request on a route it is allowed on.
def route (s : Service) (l : Logger) (req : Api.Request) : Route → Outcome × Service
  | .ready =>
    if s.lane.isReady then (.answer (jsonResponse 200 (.obj [("status", .str "ok")])), s)
    else (.answer (errorResponse .notReady), s)
  | .sources =>
    if req.method == "POST" then
      match Api.readJsonBody Wire.sourcesRequest req.contentType req.body with
      | .error e => (.answer (errorResponse (.badRequest e.text)), s)
      | .ok body => s.readSources l body.sourceUids
    else s.readSources l []
  | .messages segment =>
    match Api.percentDecode segment with
    | some uid => s.readMessages l uid
    | none => (.answer ⟨400, some "text/plain; charset=utf-8", none,
        "Invalid URL: Invalid UTF-8 in `source_uid`"⟩, s)

def finishLevel (status : Nat) : Level :=
  if status ≥ 500 then .error else if status ≥ 400 then .warning else .debug

-- Answers one call.
def call (s : Service) (req : Api.Request) : Response × Service :=
  let (id, s) := s.freshId "rpc" 8
  let l := Logger.root.derive id
    [("peer", "unknown"), ("method", req.method ++ " " ++ req.target.path)]
  let s := s.report [l.record .info callKind "RPC call" []]
  let (outcome, s) : Outcome × Service := match Route.ofPath req.target.path with
    | none => (.answer (emptyResponse 404), s)
    | some r => if r.allows req.method then s.route l req r else (.answer (emptyResponse 405), s)
  let response : Response := match outcome with
    | .answer r => r
    | .stream records _ =>
      ⟨200, some ndjson, none, ndjsonBody records⟩
  let s := s.report [l.record (finishLevel response.status) callKind "RPC call finished"
    [("status", toString response.status)]]
  let response := { response with requestId := some id }
  if req.method == "HEAD" then ({ response with body := "" }, s)
  else
    match outcome with
    | .stream records rl =>
      (response, s.report [rl.record .debug serviceKind "Stream sent"
        [("records", toString records.length)]])
    | .answer _ => (response, s)

end Service

end ChatArchive
