import ChatArchive.Ingest.Error
import ChatArchive.Ingest.Convert
import ChatArchive.Store.Database

namespace ChatArchive

-- What the writes of one update came to. `message` is `none` when the source write failed and
-- the message write was never tried.
structure StoreOutcome where
  source : Except StorageError String
  message : Option (Except StorageError String)

def StoreOutcome.isStored (o : StoreOutcome) : Bool :=
  o.source matches .ok _ && o.message matches some (.ok _)

namespace Ingest

def logKind : String := "ingest"

def updateLogger (id : String) (u : Update) : Logger :=
  Logger.root.derive id [("event", u.kind)]

def idName (u : Update) : String := "tg-" ++ u.kind

def messageFields (m : TextMessage) : List Field :=
  [("peer_id", m.peer.describe), ("message_id", toString m.id),
    ("is_post", if m.post then "true" else "false"), ("post_author", m.postAuthor.getD "")]

-- The caller's half: the records to write for update `u`, or why there are none, with what
-- was reported on the way.
def prepare (p : Profile) (d : Directory) (l : Logger) (u : Update) :
    Except IngestError (Source × Message) × List LogRecord :=
  match u with
  | .service m =>
    (.error (.ignored "service"), [l.record .debug logKind "Service message ignored"
      [("action", m.action), ("message_id", toString m.id)]])
  | .unsupported kind =>
    (.error (.unsupported kind), [l.record .warning logKind "Unsupported event dropped" []])
  | .message m =>
    let fields := messageFields m
    let received := l.record .debug logKind "Message received" fields
    match d.resolve m.peer with
    | .error e =>
      (.error (.resolve e), [received, l.record .critical logKind
        "Message lost! Peer not found in database" (fields ++ [("err", e.text)])])
    | .ok peer =>
      let source := p.sourceOf peer
      if source.flags.isInvalid then
        (.error (.invalidSource m.peer), [received, l.record .error logKind
          "Message lost! Peer has no usable source" fields])
      else
        let message := p.messageOf m source
        (.ok (source, message), [received, l.record .debug logKind "Records derived"
          [("source_uid", source.uid), ("message_uid", message.uid)]])

-- The writes of an update: the source, then the message if the source was stored.
def store (l : Logger) (source : Source) (message : Message) : StoreM StoreOutcome := do
  let fields := [("source_uid", source.uid), ("message_uid", message.uid)]
  match ← StoreM.attempt (StoreM.writeSource l source) with
  | .error e =>
    StoreM.note l .error logKind "Source storage failed" (fields ++ [("err", e.text)])
    pure ⟨.error e, none⟩
  | .ok sourceId =>
    let fields := fields ++ [("source_ref_id", sourceId)]
    StoreM.note l .debug logKind "Source saved" fields
    let written ← StoreM.attempt (StoreM.writeMessage l source message)
    match written with
    | .ok messageId =>
      StoreM.note l .debug logKind "Message saved" (fields ++ [("message_ref_id", messageId)])
    | .error e =>
      StoreM.note l .error logKind "Message storage failed" (fields ++ [("err", e.text)])
    pure ⟨.ok sourceId, some written⟩

-- The lane's half: nothing is written once the lane is shutting down; otherwise the writes,
-- with an error reported when not both records were stored.
def storeInLane (l : Logger) (cancelled : Bool) (source : Source) (message : Message) :
    StoreM (Except IngestError StoreOutcome) := do
  if cancelled then
    StoreM.note l .warning logKind "Shutting down, event not stored"
      [("message_uid", message.uid)]
    return .error .cancelled
  let outcome ← store l source message
  if !outcome.isStored then
    StoreM.note l .error logKind "Handler returned with error" []
  return .ok outcome

end Ingest

end ChatArchive
