import ChatArchive.Record.Flags
import ChatArchive.Time.Instant

namespace ChatArchive

-- A conversation: a channel, a group or a correspondent.
structure Source where
  flags : Flags
  uid : String
  title : String
  -- the provider's id of the conversation, used in links
  deepId : Int
  deriving Repr, DecidableEq, Inhabited

-- One archived message. Its uid is the source uid, a dash and the provider's message id.
structure Message where
  flags : Flags
  createdAt : Instant
  sourceUid : String
  uid : String
  text : String
  links : List String
  deriving Repr, DecidableEq, Inhabited

end ChatArchive
