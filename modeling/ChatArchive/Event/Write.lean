import ChatArchive.Event.Types
import ChatArchive.Json.Value

namespace ChatArchive

open Json

namespace Wire

def PeerRef.toValue (p : PeerRef) : Value :=
  .obj [("kind", .str p.kindName), ("id", .int p.id)]

def TextMessage.toValue (m : TextMessage) : Value :=
  .obj [("id", .int m.id), ("date", .int m.date), ("peer", PeerRef.toValue m.peer),
    ("text", .str m.text), ("post", .bool m.post), ("post_author", .option .str m.postAuthor)]

def ServiceMessage.toValue (m : ServiceMessage) : Value :=
  .obj [("id", .int m.id), ("date", .int m.date), ("peer", PeerRef.toValue m.peer),
    ("action", .str m.action)]

def Update.toValue : Update → Value
  | .message m => .obj [("type", .str "message"), ("data", TextMessage.toValue m)]
  | .service m => .obj [("type", .str "service"), ("data", ServiceMessage.toValue m)]
  | .unsupported kind => .obj [("type", .str "unsupported"), ("data", .obj [("kind", .str kind)])]

-- A looked-up conversation: its kind first, then its own fields.
def Peer.toValue : Peer → Value
  | .channel id title username =>
    .obj [("kind", .str "channel"), ("id", .int id), ("title", .str title),
      ("username", .option .str username)]
  | .user id firstName lastName username =>
    .obj [("kind", .str "user"), ("id", .int id), ("first_name", .str firstName),
      ("last_name", .str lastName), ("username", .option .str username)]
  | .chat id title => .obj [("kind", .str "chat"), ("id", .int id), ("title", .str title)]
  | .unknown => .obj [("kind", .str "unknown")]

def FeedLine.toValue : FeedLine → Value
  | .peer p => .obj [("type", .str "peer"), ("peer", Peer.toValue p)]
  | .event u => .obj [("type", .str "event"), ("event", Update.toValue u)]

end Wire

end ChatArchive
