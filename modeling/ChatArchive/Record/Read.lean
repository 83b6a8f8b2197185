import ChatArchive.Record.Types
import ChatArchive.Time.Parse
import ChatArchive.Json.Record

namespace ChatArchive

open Json

namespace Wire

def flags : Reader Flags := Reader.u32.map Flags.mk

def instant : Reader Instant :=
  Reader.parsed "an RFC 3339 formatted date and time string" fun s =>
    match Rfc3339.parse s with
    | .ok t => .ok t
    | .error e => .error e.text

-- A source being read.
structure SourceDraft where
  flags : Option Flags
  uid : Option String
  title : Option String
  deepId : Option Int

-- The record of a source.
def sourceRecord : Record SourceDraft Source := {
  expected := "struct Source"
  fields := [
    Field.of "flags" false flags (·.flags) fun d v => { d with flags := some v },
    Field.of "source_uid" false Reader.string (·.uid) fun d v => { d with uid := some v },
    Field.of "title" false Reader.string (·.title) fun d v => { d with title := some v },
    Field.of "deep_id" false Reader.i64 (·.deepId) fun d v => { d with deepId := some v }]
  start := ⟨none, none, none, none⟩
  closed := false
  build := fun d => do
    return ⟨← need "flags" d.flags, ← need "source_uid" d.uid, ← need "title" d.title,
      ← need "deep_id" d.deepId⟩ }

def source : Reader Source := sourceRecord.reader

-- A message being read.
structure MessageDraft where
  flags : Option Flags
  createdAt : Option Instant
  sourceUid : Option String
  uid : Option String
  text : Option String
  links : Option (List String)

-- The record of a message.
def messageRecord : Record MessageDraft Message := {
  expected := "struct Message"
  fields := [
    Field.of "flags" false flags (·.flags) fun d v => { d with flags := some v },
    Field.of "created_at" false instant (·.createdAt) fun d v => { d with createdAt := some v },
    Field.of "source_uid" false Reader.string (·.sourceUid) fun d v => { d with sourceUid := some v },
    Field.of "message_uid" false Reader.string (·.uid) fun d v => { d with uid := some v },
    Field.of "text" false Reader.string (·.text) fun d v => { d with text := some v },
    Field.of "links" false (Reader.list Reader.string) (·.links) fun d v => { d with links := some v }]
  start := ⟨none, none, none, none, none, none⟩
  closed := false
  build := fun d => do
    return ⟨← need "flags" d.flags, ← need "created_at" d.createdAt,
      ← need "source_uid" d.sourceUid, ← need "message_uid" d.uid, ← need "text" d.text,
      ← need "links" d.links⟩ }

def message : Reader Message := messageRecord.reader

end Wire

end ChatArchive
