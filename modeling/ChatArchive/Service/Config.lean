import ChatArchive.Ingest.Convert
import ChatArchive.Text.Unsigned
import ChatArchive.Net.Address
import ChatArchive.Text.Space
import ChatArchive.Failure

namespace ChatArchive

-- The settings of a server.
structure Settings where
  host : String
  port : Nat
  dbPath : String
  backlog : Nat
  submitTimeoutSecs : Nat
  rpcWaitSecs : Nat
  tlsAuthority : String
  eventFeed : Option String
  profile : Profile
  deriving Repr, DecidableEq

namespace Settings

def wordMax : Nat := 18446744073709551615

def blank (s : String) : Bool := s.toList.all isSpace

def unsigned (what : String) (max : Nat) (v : String) : Except Failure Nat :=
  match Unsigned.parse max v with
  | .ok n => .ok n
  | .error t => .error (.caused what t.text)

def unsetFailure (key : String) : Failure := .plain (key ++ " is not set")

def number (get : String → Option String) (key what : String) (max : Nat)
    (unset : Except Failure Nat) : Except Failure Nat :=
  match get key with
  | some v => unsigned what max v
  | none => unset

def required (get : String → Option String) (key : String) : Except Failure String :=
  match get key with
  | some v => .ok v
  | none => .error (unsetFailure key)

def nonzero (what : String) (n : Nat) : Except Failure Unit :=
  if n == 0 then .error (.plain what) else .ok ()

-- The settings read from the named values that `get` gives, or the first failure.
def ofValues (get : String → Option String) : Except Failure Settings := do
  let port ← number get "FLOTG_PORT" "FLOTG_PORT must be a port number" 65535
    (.error (unsetFailure "FLOTG_PORT"))
  let backlog ← number get "FLOTG_QUEUE_BACKLOG" "FLOTG_QUEUE_BACKLOG must be a positive integer"
    wordMax (.ok 256)
  nonzero "FLOTG_QUEUE_BACKLOG must be a positive integer" backlog
  let submit ← number get "FLOTG_SUBMIT_TIMEOUT_SECS"
    "FLOTG_SUBMIT_TIMEOUT_SECS must be a whole number of seconds" wordMax (.ok 5)
  let wait ← number get "FLOTG_RPC_WAIT_SECS"
    "FLOTG_RPC_WAIT_SECS must be a whole number of seconds" wordMax (.ok 30)
  nonzero "FLOTG_RPC_WAIT_SECS must be at least one second" wait
  let tls ← required get "TLS_AUTHORITY"
  let profile := { Profile.telegram with
    uidPrefix := (get "FLOTG_UID_PREFIX").getD Profile.telegram.uidPrefix
    linkBase := (get "FLOTG_LINK_BASE").getD Profile.telegram.linkBase }
  return {
    host := (get "FLOTG_HOST").getD "0.0.0.0"
    port := port
    dbPath := (get "FLOTG_DB_PATH").getD "flo_tg.db"
    backlog := backlog
    submitTimeoutSecs := submit
    rpcWaitSecs := wait
    tlsAuthority := tls
    eventFeed := get "FLOTG_EVENT_FEED"
    profile := profile }

def fromLookup (env : String → Option String) : Except Failure Settings :=
  ofValues fun k => (env k).filter (!blank ·)

def listenAddr (s : Settings) : Except Failure Net.SocketAddr :=
  let text := s.host ++ ":" ++ toString s.port
  match Net.parseSocketAddr text with
  | some a => .ok a
  | none => .error (.caused ("invalid listen address " ++ text) "invalid socket address syntax")

def bindAddr (s : Settings) : Except Failure String := Net.SocketAddr.render <$> s.listenAddr

end Settings

end ChatArchive
