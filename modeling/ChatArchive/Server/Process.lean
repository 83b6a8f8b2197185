import ChatArchive.Service.Feed
import ChatArchive.Service.Config
import ChatArchive.Tls.Material
import ChatArchive.Host.Dotenv
import ChatArchive.Server.LogFilter
import ChatArchive.Record.Write

namespace ChatArchive

namespace Server

-- The signal that asks a running server to stop.
inductive Signal where
  | terminate
  | interrupt
  deriving Repr, DecidableEq

-- What a server process starts with: its environment, its files, the ports other processes
-- hold, how many requests clients send it while it runs, and the signal that stops it.
structure Launch where
  env : List (String × String)
  disk : Disk
  busyPorts : List Nat
  requests : Nat
  signal : Signal

-- Why a request got no answer.
inductive ConnectError where
  | unreachable
  deriving Repr, DecidableEq

def ConnectError.text : ConnectError → String
  | .unreachable => "Network is unreachable (os error 101)"

-- What a database holds: every source, and the messages of each.
structure Archive where
  sources : List Source
  messages : List (String × List Message)

-- How a server process ended.
structure Exit where
  -- it listened
  started : Bool
  code : Nat
  stderr : String
  -- the lines it logged, in the order it logged them
  log : List String
  responses : List ConnectError
  -- its database file, if it made one
  archive : Option Archive

-- One log line: level, target and message.
structure Line where
  level : Severity
  target : String
  message : String

def mainTarget : String := "flotg"

def serveTarget : String := "flotg::serve"

def Line.render (l : Line) : String := levelLabel l.level ++ " " ++ l.target ++ ": " ++ l.message

-- The environment after `.env` is read into it, when the working directory holds that file.
def environment (l : Launch) : List (String × String) :=
  match l.disk.read ".env" with
  | .bytes b => match String.fromUTF8? b with
    | some text => Dotenv.load l.env text
    | none => l.env
  | _ => l.env

-- Where records are kept: in memory, or in the file at these components.
inductive Storage where
  | memory
  | file (place : List String)

def storageFailure (path message : String) (code : Nat) (description : String) : Failure :=
  ⟨"failed to open storage at " ++ path,
    ["sqlite: " ++ message, message, "Error code " ++ toString code ++ ": " ++ description]⟩

def databaseHeader : List UInt8 := "SQLite format 3".toUTF8.toList ++ [0]

-- Opens the storage at `path`: a file that is there must be empty or a database; a missing one
-- is made when its directory exists.
def openStorage (disk : Disk) (path : String) : Except Failure Storage :=
  let cannotOpen := storageFailure path ("unable to open database file: " ++ path) 14
    "Unable to open the database file"
  if path == ":memory:" then .ok .memory
  else
    match disk.locate path with
    | none => .error cannotOpen
    | some place =>
      match disk.find path with
      | .ok .directory => .error cannotOpen
      | .ok (.file b) =>
        if b.size == 0 || databaseHeader.isPrefixOf b.toList then .ok (.file place)
        else .error (storageFailure path "file is not a database" 26
          "File opened that is not a database file")
      | .error .notFound => if disk.parentExists place then .ok (.file place) else .error cannotOpen
      | .error _ => .error cannotOpen

-- Why binding an address fails: a port another process holds, or an address that is not this
-- host's. Loopback and wildcard addresses are the host's.
def bindFailure (busy : List Nat) (addr : Net.SocketAddr) : Option Failure :=
  let fail := fun cause => some (Failure.caused ("failed to bind " ++ addr.render) cause)
  let (port, local?) := match addr with
    | .v4 parts port => (port, parts.head? == some 127 || parts == [0, 0, 0, 0])
    | .v6 groups _ port => (port, groups == [0, 0, 0, 0, 0, 0, 0, 0] || groups == [0, 0, 0, 0, 0, 0, 0, 1])
  if busy.contains port then fail "Address already in use (os error 98)"
  else if !local? then fail "Cannot assign requested address (os error 99)"
  else none

def Archive.ofStore (s : Store) : Archive :=
  let sources := ((s.step (StoreM.readSources Logger.root [])).1.1).toOption.getD []
  ⟨sources, sources.map fun src =>
    (src.uid, ((s.step (StoreM.readMessages Logger.root src.uid)).1.1).toOption.getD [])⟩

def archiveOf (storage : Storage) (s : Store) : Option Archive :=
  match storage with
  | .memory => none
  | .file _ => some (Archive.ofStore s)

def failed (f : Failure) (archive : Option Archive) : Exit :=
  ⟨false, 1, "Error: " ++ f.report ++ "\n", [], [], archive⟩

def panicked (message : String) (archive : Option Archive) : Exit :=
  ⟨false, 101, "panic: " ++ message ++ "\n", [], [], archive⟩

-- The line that reports the end of the feed.
def feedLine (r : Except FeedError FeedStats) : Line :=
  match r with
  | .ok stats => ⟨infoLevel, mainTarget, "Event feed done: " ++ toString stats.peers ++ " peers, " ++
      toString stats.stored ++ " stored, " ++ toString stats.dropped ++ " dropped, " ++
      toString stats.malformed ++ " malformed"⟩
  | .error e => ⟨errorLevel, mainTarget, "Event feed failed: " ++ e.text⟩

def signalLine : Signal → Line
  | .terminate => ⟨infoLevel, mainTarget, "Received SIGTERM, shutting down..."⟩
  | .interrupt => ⟨infoLevel, mainTarget, "Received Ctrl+C, shutting down..."⟩

-- Serves once listening at `addr`: runs the feed, if any, then stops at the signal.
def serve (l : Launch) (cfg : Settings) (storage : Storage) (addr : Net.SocketAddr)
    (directives : List Directive) : Exit :=
  let setup : Setup := ⟨cfg.profile, cfg.backlog, cfg.submitTimeoutSecs * 1000,
    cfg.rpcWaitSecs * 1000, true, fun _ => 0⟩
  let service := Service.create setup (.fixed "")
  let (fed, service) : Option Line × Service := match cfg.eventFeed with
    | none => (none, service)
    | some path =>
      let (r, service) := service.feed path (l.disk.read path) false
      (some (feedLine r), service)
  let lines := [⟨infoLevel, mainTarget, "flotg query service listening on " ++ addr.render ++
      " (mTLS)"⟩] ++ fed.toList ++
    [signalLine l.signal, ⟨infoLevel, serveTarget, "Listener closed"⟩,
      ⟨infoLevel, mainTarget, "flotg stopped"⟩]
  let shown := lines.filter fun (line : Line) => enabled directives line.target line.level
  ⟨true, 0, "", shown.map Line.render, List.replicate l.requests .unreachable,
    archiveOf storage service.lane.world⟩

def environmentNames : List String :=
  ["FLOTG_PORT", "FLOTG_QUEUE_BACKLOG", "FLOTG_SUBMIT_TIMEOUT_SECS", "FLOTG_RPC_WAIT_SECS",
    "TLS_AUTHORITY", "FLOTG_UID_PREFIX", "FLOTG_LINK_BASE", "FLOTG_HOST", "FLOTG_DB_PATH",
    "FLOTG_EVENT_FEED", "RUST_LOG"]

-- The files a server with this environment and `.env` file reads after `.env`: its storage,
-- its TLS material and its feed.
def filesRead (env : List (String × String)) (envFile : Option String) : List String :=
  let env := match envFile with
    | some text => Dotenv.load env text
    | none => env
  match Settings.fromLookup fun k => (env.find? (·.1 == k)).map (·.2) with
  | .error _ => []
  | .ok cfg =>
    [cfg.dbPath] ++ [Tls.chainFile, Tls.keyFile, Tls.authorityFile].map (joinPath cfg.tlsAuthority) ++
      cfg.eventFeed.toList

-- Runs a server process to its end.
def run (l : Launch) : Exit :=
  let env := environment l
  let get := fun (k : String) => (env.find? (·.1 == k)).map (·.2)
  match Settings.fromLookup get with
  | .error f => failed f none
  | .ok cfg =>
    match openStorage l.disk cfg.dbPath with
    | .error f => failed f none
    | .ok storage =>
      let empty := archiveOf storage (Store.fresh 0)
      match Tls.check l.disk cfg.tlsAuthority with
      | .error f => failed f empty
      | .ok () =>
        match cfg.listenAddr with
        | .error f => failed f empty
        | .ok addr =>
          match bindFailure l.busyPorts addr with
          | some f => failed f empty
          | none =>
            if Lane.fits cfg.backlog then serve l cfg storage addr (directivesOf (get "RUST_LOG"))
            else panicked Lane.tooLargeMessage empty

end Server

end ChatArchive
