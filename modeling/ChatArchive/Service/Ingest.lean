import ChatArchive.Service.State

namespace ChatArchive

namespace Service

-- The unit of work that writes the records of one update, stamped `stamp`. A failure of the
-- store that escapes the writes counts as a failed source write.
def storeWork (l : Logger) (stamp : Int) (source : Source) (message : Message) :
    Lane.Work Store Reply :=
  ⟨0, fun cancelled store =>
    let ((r, logs), store) :=
      { store with clock := stamp }.step (Ingest.storeInLane l cancelled source message)
    let outcome := match r with
      | .ok o => o
      | .error e => .ok ⟨.error e, none⟩
    ((.ok (.stored outcome), logs), store)⟩

-- The caller's half of an update: its logger, and the records to write or why there are
-- none.
def prepare (s : Service) (u : Update) :
    (Except IngestError (Source × Message) × Logger) × Service :=
  let (id, s) := s.freshId (Ingest.idName u) 5
  let l := Ingest.updateLogger id u
  let (r, records) := Ingest.prepare s.setup.profile s.directory l u
  ((r, l), s.report records)

-- Queues the writes of an update without waiting for them.
def handle (s : Service) (u : Update) : Except IngestError Unit × Service :=
  match s.prepare u with
  | ((.error e, _), s) => (.error e, s)
  | ((.ok (source, message), l), s) =>
    let (stamp, s) := s.readClock
    let (r, lane) := s.lane.enqueueWithReply (storeWork l stamp source message)
    (match r with
      | .ok _ => .ok ()
      | .error e => .error (.lane e), { s with lane := lane })

-- Queues the writes of an update and waits for their outcome; the lane is stopped `stopAfter`
-- milliseconds after they are queued, if given, unless the outcome comes first.
def ingest (s : Service) (u : Update) (stopAfter : Option Nat) :
    Except IngestError StoreOutcome × Service :=
  match s.prepare u with
  | ((.error e, _), s) => (.error e, s)
  | ((.ok (source, message), l), s) =>
    let (stamp, s) := s.readClock
    match s.lane.enqueueWithReply (storeWork l stamp source message) with
    | (.error e, lane) => (.error (.lane e), { s with lane := lane })
    | (.ok i, lane) =>
      let (reply, lane) := lane.awaitReply i (stopAfter.map fun ms => (ms, .stop))
      (match reply with
        | some (.stored r) => r
        | _ => .error (.lane .stopped), { s with lane := lane })

end Service

end ChatArchive
