import ChatArchive.Lane.Queue
import ChatArchive.Ingest.Pipeline
import ChatArchive.Log.Correlation

namespace ChatArchive

-- What a unit of work of the service hands back.
inductive Reply where
  | done
  | stored (r : Except IngestError StoreOutcome)
  | sources (r : Except StorageError (List Source))
  | messages (r : Except StorageError (List Message))

-- Where the random part of correlation ids comes from: a generator, or one fixed text for every
-- id, which makes the records of a run reproducible.
inductive Suffixes where
  | random (seed : Seed)
  | fixed (text : String)

-- The random part of a correlation id of `length` characters, and the source afterwards.
def Suffixes.draw (s : Suffixes) (length : Nat) : String × Suffixes :=
  match s with
  | .random seed =>
    let (cs, seed) := randomSuffix seed length
    (String.ofList cs, .random seed)
  | .fixed text => (text, s)

-- How a service is set up. Times are in milliseconds.
structure Setup where
  profile : Profile
  backlog : Nat
  -- how long a read waits to start before the caller is told to retry
  submitTimeout : Nat
  -- how long a whole read call may take
  rpcWait : Nat
  -- the store outlives a restart
  persist : Bool
  -- the wall clock, in milliseconds since the epoch, as the writes of successive updates read it
  clock : Nat → Int

-- A lane of the service's units of work over the store.
abbrev ServiceLane := Lane.Sim Store Reply

-- A running service.
structure Service where
  setup : Setup
  directory : Directory
  lane : ServiceLane
  suffixes : Suffixes
  -- how many readings of the clock were taken
  readings : Nat

namespace Service

def idle : Lane.Work Store Reply := ⟨0, fun _ store => ((.ok .done, []), store)⟩

def sleeper (ms : Nat) : Lane.Work Store Reply := ⟨ms, fun _ store => ((.ok .done, []), store)⟩

def launch (setup : Setup) (store : Store) (now : Nat) (logs : List LogRecord) :
    ServiceLane :=
  let lane : ServiceLane := { Lane.Sim.fresh setup.backlog store with now := now, logs := logs }
  let (_, lane) := lane.bindContext
  (lane.start idle).2

def create (setup : Setup) (suffixes : Suffixes) : Service :=
  ⟨setup, .empty, launch setup (Store.fresh (setup.clock 0)) 0 [], suffixes, 0⟩

def takeLogs (s : Service) : List LogRecord × Service :=
  let (logs, lane) := s.lane.takeLogs
  (logs, { s with lane := lane })

def report (s : Service) (records : List LogRecord) : Service :=
  { s with lane := s.lane.report records }

def freshId (s : Service) (name : String) (length : Nat) : String × Service :=
  let (suffix, suffixes) := s.suffixes.draw length
  (name ++ "-" ++ suffix, { s with suffixes := suffixes })

def readClock (s : Service) : Int × Service :=
  (s.setup.clock s.readings, { s with readings := s.readings + 1 })

def remember (s : Service) (p : Peer) : Option PeerRef × Service :=
  let (ref, d) := s.directory.insert p
  (ref, { s with directory := d })

def readiness (s : Service) : Bool × Lane.Phase := (s.lane.isReady, s.lane.phase)

def drain (s : Service) : Except SubmitError Unit × Service :=
  let (r, lane) := s.lane.submit idle 5000 false none
  (r.map fun _ => (), { s with lane := lane })

def block (s : Service) (ms : Nat) : Except LaneError Unit × Service :=
  let (r, lane) := s.lane.tryEnqueue (sleeper ms)
  (r, { s with lane := lane })

def stop (s : Service) : List (Except LaneError Unit) × Service :=
  let (rs, lane) := s.lane.stopAndJoin
  (rs, { s with lane := lane })

def cancel (s : Service) : List (Except LaneError Unit) × Service :=
  let (rs, lane) := s.lane.cancelAndJoin
  (rs, { s with lane := lane })

def restart (s : Service) : List (Except LaneError Unit) × Service :=
  let (rs, old) := s.lane.cancelAndJoin
  let store := if s.setup.persist then old.world else Store.fresh (s.setup.clock 0)
  (rs, { s with lane := launch s.setup store old.now old.logs })

def runSql (s : Service) (sql : String) : Except StorageError Unit × Service :=
  let ((r, logs), store) := s.lane.world.step (StoreM.batch sql)
  (r, { s with lane := { s.lane with world := store } |>.report logs })

end Service

end ChatArchive
