import ChatArchive.Event.Types
import ChatArchive.Record.Types

namespace ChatArchive

-- How the records of one provider are named.
structure Profile where
  uidPrefix : String
  linkBase : String
  flag : Flags
  deriving Repr, DecidableEq, Inhabited

namespace Profile

def telegram : Profile := ⟨"tg", "https://t.me", Flags.telegram⟩

def sourceUid (p : Profile) (id : Int) : String := p.uidPrefix ++ "-fromid-" ++ toString id

def userTitle (first last : String) : String :=
  let joined := (first ++ " " ++ last).toList
  String.ofList ((joined.dropWhile (· == ' ')).reverse.dropWhile (· == ' ')).reverse

-- The source record of a looked-up conversation.
def sourceOf (p : Profile) : Peer → Source
  | .channel id title _ => ⟨Flags.v1 ||| p.flag ||| Flags.channel, p.sourceUid id, title, id⟩
  | .user id first last _ =>
    ⟨Flags.v1 ||| p.flag ||| Flags.user, p.sourceUid id, userTitle first last, id⟩
  | .chat id title => ⟨Flags.v1 ||| p.flag ||| Flags.group, p.sourceUid id, title, id⟩
  | .unknown => ⟨Flags.invalid, "", "", -1⟩

def linkRoot (p : Profile) : String :=
  String.ofList (p.linkBase.toList.reverse.dropWhile (· == '/')).reverse

def link (p : Profile) (deepId id : Int) : String :=
  p.linkRoot ++ "/c/" ++ toString deepId ++ "/" ++ toString id

-- The message record of a text message in the conversation `s`.
def messageOf (p : Profile) (m : TextMessage) (s : Source) : Message :=
  let (createdAt, timely) : Instant × Bool :=
    match Instant.ofSeconds m.date with
    | some t => (t, true)
    | none => (Instant.epoch, false)
  let flags := if timely && !s.uid.isEmpty then s.flags else s.flags ||| Flags.invalid
  { flags := flags
    createdAt := createdAt
    sourceUid := s.uid
    uid := s.uid ++ "-" ++ toString m.id
    text := m.text
    links := [p.link s.deepId m.id] }

end Profile

end ChatArchive
