import ChatArchive.Event.Types
import ChatArchive.Json.Tagged

namespace ChatArchive

open Json

namespace Wire

-- Conversation references.
def peerRef : Reader PeerRef :=
  Adjacent.reader {
    expected := "adjacently tagged enum PeerRef"
    tag := "kind"
    content := "id"
    variants := ["user", "chat", "channel"]
    body := fun i => Reader.i64.map fun id =>
      match i with
      | 0 => .user id
      | 1 => .chat id
      | _ => .channel id
    absent := fun _ => .error (missingField "id") }

-- A text message being read.
structure TextDraft where
  id : Option Int
  date : Option Int
  peer : Option PeerRef
  text : Option String
  post : Option Bool
  postAuthor : Option (Option String)

-- The record of a text message.
def textRecord : Record TextDraft TextMessage := {
    expected := "struct PlainMessage"
    fields := [
      Field.of "id" false Reader.i64 (·.id) fun d v => { d with id := some v },
      Field.of "date" false Reader.i64 (·.date) fun d v => { d with date := some v },
      Field.of "peer" false peerRef (·.peer) fun d v => { d with peer := some v },
      Field.of "text" true Reader.string (·.text) fun d v => { d with text := some v },
      Field.of "post" true Reader.bool (·.post) fun d v => { d with post := some v },
      Field.of "post_author" true (Reader.optional Reader.string) (·.postAuthor)
        fun d v => { d with postAuthor := some v }]
    start := ⟨none, none, none, none, none, none⟩
    closed := false
    build := fun d => do
      return {
        id := ← need "id" d.id
        date := ← need "date" d.date
        peer := ← need "peer" d.peer
        text := d.text.getD ""
        post := d.post.getD false
        postAuthor := d.postAuthor.getD none } }

def textMessage : Reader TextMessage := textRecord.reader

-- A service message being read.
structure ServiceDraft where
  id : Option Int
  date : Option Int
  peer : Option PeerRef
  action : Option String

-- The record of a service message.
def serviceRecord : Record ServiceDraft ServiceMessage := {
    expected := "struct ServiceMessage"
    fields := [
      Field.of "id" false Reader.i64 (·.id) fun d v => { d with id := some v },
      Field.of "date" false Reader.i64 (·.date) fun d v => { d with date := some v },
      Field.of "peer" false peerRef (·.peer) fun d v => { d with peer := some v },
      Field.of "action" false Reader.string (·.action) fun d v => { d with action := some v }]
    start := ⟨none, none, none, none⟩
    closed := false
    build := fun d => do
      return {
        id := ← need "id" d.id
        date := ← need "date" d.date
        peer := ← need "peer" d.peer
        action := ← need "action" d.action } }

def serviceMessage : Reader ServiceMessage := serviceRecord.reader

-- A record with one field, read by `r` into the value `make` builds from it.
def single (expected name : String) (r : Reader β) (make : β → α) : Record (Option β) α := {
  expected := expected
  fields := [Field.of name false r id fun _ v => some v]
  start := none
  closed := false
  build := fun d => make <$> need name d }

-- Provider updates.
def update : Reader Update :=
  Adjacent.reader {
    expected := "adjacently tagged enum ProviderEvent"
    tag := "type"
    content := "data"
    variants := ["message", "service", "unsupported"]
    body := fun i =>
      match i with
      | 0 => textMessage.map .message
      | 1 => serviceMessage.map .service
      | _ => (single "struct variant ProviderEvent::Unsupported" "kind" Reader.string
          Update.unsupported).reader
    absent := fun _ => .error (missingField "data") }

-- A looked-up conversation being read.
structure PeerDraft where
  id : Option Int
  title : Option String
  firstName : Option String
  lastName : Option String
  username : Option (Option String)

def PeerDraft.empty : PeerDraft := ⟨none, none, none, none, none⟩

def peerId : Json.Field PeerDraft := Field.of "id" false Reader.i64 (·.id) fun d v => { d with id := some v }

def peerTitle : Json.Field PeerDraft :=
  Field.of "title" false Reader.string (·.title) fun d v => { d with title := some v }

def peerUsername : Json.Field PeerDraft :=
  Field.of "username" true (Reader.optional Reader.string) (·.username)
    fun d v => { d with username := some v }

-- The record of a channel.
def channelRecord : Record PeerDraft Peer := {
  expected := "struct variant ResolvedPeer::Channel"
  fields := [peerId, peerTitle, peerUsername]
  start := PeerDraft.empty
  closed := false
  build := fun d => do
    return .channel (← need "id" d.id) (← need "title" d.title) (d.username.getD none) }

-- The record of a user.
def userRecord : Record PeerDraft Peer := {
  expected := "struct variant ResolvedPeer::User"
  fields := [peerId,
    Field.of "first_name" true Reader.string (·.firstName) fun d v => { d with firstName := some v },
    Field.of "last_name" true Reader.string (·.lastName) fun d v => { d with lastName := some v },
    peerUsername]
  start := PeerDraft.empty
  closed := false
  build := fun d => do
    return .user (← need "id" d.id) (d.firstName.getD "") (d.lastName.getD "") (d.username.getD none) }

-- The record of a group chat.
def chatRecord : Record PeerDraft Peer := {
  expected := "struct variant ResolvedPeer::Chat"
  fields := [peerId, peerTitle]
  start := PeerDraft.empty
  closed := false
  build := fun d => do return .chat (← need "id" d.id) (← need "title" d.title) }

-- Looked-up conversations.
def peer : Reader Peer :=
  Internal.reader {
    expected := "internally tagged enum ResolvedPeer"
    tag := "kind"
    variants := ["channel", "user", "chat", "unknown"]
    body := fun i =>
      match i with
      | 0 => channelRecord.reader.tree
      | 1 => userRecord.reader.tree
      | 2 => chatRecord.reader.tree
      | _ => fun v => (fun () => Peer.unknown) <$> Internal.unit "unit variant ResolvedPeer::Unknown" v }

-- Feed lines.
def feedLine : Reader FeedLine :=
  Internal.reader {
    expected := "internally tagged enum FeedLine"
    tag := "type"
    variants := ["peer", "event"]
    body := fun i =>
      match i with
      | 0 => (single "struct variant FeedLine::Peer" "peer" peer FeedLine.peer).reader.tree
      | _ => (single "struct variant FeedLine::Event" "event" update FeedLine.event).reader.tree }

end Wire

def Json.readText (r : Json.Reader α) (text : String) : Except Json.Fault α :=
  (do
    let a ← r.scan
    Json.Scan.finishText
    pure a : Json.Scan α).run text.toUTF8 |>.1

end ChatArchive
