namespace ChatArchive

-- The conversation an update belongs to, before it is looked up: its kind and raw id.
inductive PeerRef where
  | user (id : Int)
  | chat (id : Int)
  | channel (id : Int)
  deriving Repr, DecidableEq, Inhabited

def PeerRef.id : PeerRef → Int
  | .user id => id
  | .chat id => id
  | .channel id => id

def PeerRef.kindName : PeerRef → String
  | .user _ => "user"
  | .chat _ => "chat"
  | .channel _ => "channel"

def PeerRef.describe : PeerRef → String
  | .user id => "User(" ++ toString id ++ ")"
  | .chat id => "Chat(" ++ toString id ++ ")"
  | .channel id => "Channel(" ++ toString id ++ ")"

-- A message with text, posted in a chat or a channel.
structure TextMessage where
  -- the provider's id of the message, unique within its conversation
  id : Int
  -- when it was sent, in seconds since the epoch
  date : Int
  peer : PeerRef
  text : String
  -- the message is a channel post
  post : Bool
  postAuthor : Option String
  deriving Repr, DecidableEq

-- A service message: a join, a pin, a title change.
structure ServiceMessage where
  id : Int
  date : Int
  peer : PeerRef
  action : String
  deriving Repr, DecidableEq

-- An update from the provider.
inductive Update where
  | message (m : TextMessage)
  | service (m : ServiceMessage)
  -- an update of a shape the archive does not handle, with the provider's name for it
  | unsupported (kind : String)
  deriving Repr, DecidableEq

def Update.kind : Update → String
  | .message _ => "message"
  | .service _ => "service"
  | .unsupported kind => kind

-- A conversation after lookup. `unknown` is a lookup whose answer could not be classified.
inductive Peer where
  | channel (id : Int) (title : String) (username : Option String)
  | user (id : Int) (firstName lastName : String) (username : Option String)
  | chat (id : Int) (title : String)
  | unknown
  deriving Repr, DecidableEq

def Peer.ref : Peer → Option PeerRef
  | .channel id _ _ => some (.channel id)
  | .user id _ _ _ => some (.user id)
  | .chat id _ => some (.chat id)
  | .unknown => none

-- One line of an update feed: a conversation to remember, or an update to ingest.
inductive FeedLine where
  | peer (p : Peer)
  | event (u : Update)
  deriving Repr, DecidableEq

end ChatArchive
