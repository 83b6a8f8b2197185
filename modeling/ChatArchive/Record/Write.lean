import ChatArchive.Record.Types
import ChatArchive.Json.Value

namespace ChatArchive

open Json

namespace Wire

def Flags.toValue (f : Flags) : Value := .num (.nat f.bits.toNat)

def Source.toValue (s : Source) : Value :=
  .obj [("flags", Flags.toValue s.flags), ("source_uid", .str s.uid), ("title", .str s.title),
    ("deep_id", .int s.deepId)]

def Message.toValue (m : Message) : Value :=
  .obj [("flags", Flags.toValue m.flags), ("created_at", .str m.createdAt.render),
    ("source_uid", .str m.sourceUid), ("message_uid", .str m.uid), ("text", .str m.text),
    ("links", .arr (m.links.map .str))]

end Wire

end ChatArchive
