import ChatArchive.Snapshot.Wire
import ChatArchive.Record.Types

namespace ChatArchive

open Proto

-- Why a snapshot could not be read back.
inductive SnapshotError where
  | decode (t : Trouble)
  | missingUid
  -- the milliseconds of the message time
  | timestamp (ms : Int)
  deriving Repr, DecidableEq

namespace SnapshotError

def text : SnapshotError → String
  | .decode t => "protobuf decode: " ++ t.render
  | .missingUid => "snapshot carries no uid"
  | .timestamp ms => "timestamp out of range: " ++ toString ms ++ "ms"

def kind : SnapshotError → String
  | .decode _ => "Decode.DecodeError"
  | .missingUid => "MissingUid"
  | .timestamp _ => "Timestamp"

end SnapshotError

-- The fields of a source snapshot.
structure SourceSnapshot where
  flags : Nat
  uid : String
  title : String
  deepId : Int

-- The fields of a message snapshot.
structure MessageSnapshot where
  flags : Nat
  millis : Int
  sourceUid : String
  uid : String
  text : String
  links : List String

namespace Snapshot

def encodeSource (s : Source) : ByteArray :=
  ⟨(varintField 1 s.flags.bits.toNat ++ stringField 2 s.uid ++ stringField 3 s.title
    ++ int64Field 4 s.deepId).toArray⟩

def encodeMessage (m : Message) : ByteArray :=
  ⟨(varintField 1 m.flags.bits.toNat ++ int64Field 2 m.createdAt.millis ++ stringField 3 m.sourceUid
    ++ stringField 4 m.uid ++ stringField 5 m.text ++ (m.links.flatMap (stringEntry 6))).toArray⟩

-- Reads the fields of a source snapshot from index `i` into `d`.
def sourceFields (bytes : ByteArray) (i : Nat) (d : SourceSnapshot) : Nat →
    Except Trouble SourceSnapshot
  | 0 => .ok d
  | fuel + 1 => do
    if i ≥ bytes.size then return d
    let ((tag, wire), j) ← key bytes i
    let name := "SourceSnapshot"
    match tag with
    | 1 =>
      let (v, k) ← within name "flags" (varintValue bytes wire j)
      sourceFields bytes k { d with flags := v % Nat.pow 2 32 } fuel
    | 2 =>
      let (v, k) ← within name "source_uid" (string bytes wire j)
      sourceFields bytes k { d with uid := v } fuel
    | 3 =>
      let (v, k) ← within name "title" (string bytes wire j)
      sourceFields bytes k { d with title := v } fuel
    | 4 =>
      let (v, k) ← within name "deep_id" (varintValue bytes wire j)
      sourceFields bytes k { d with deepId := toInt64 v } fuel
    | _ =>
      let k ← skipField bytes wire tag j groupLimit (bytes.size + 1)
      sourceFields bytes k d fuel

-- Reads the fields of a message snapshot from index `i` into `d`.
def messageFields (bytes : ByteArray) (i : Nat) (d : MessageSnapshot) : Nat →
    Except Trouble MessageSnapshot
  | 0 => .ok d
  | fuel + 1 => do
    if i ≥ bytes.size then return d
    let ((tag, wire), j) ← key bytes i
    let name := "MessageSnapshot"
    match tag with
    | 1 =>
      let (v, k) ← within name "flags" (varintValue bytes wire j)
      messageFields bytes k { d with flags := v % Nat.pow 2 32 } fuel
    | 2 =>
      let (v, k) ← within name "created_at_unix_ms" (varintValue bytes wire j)
      messageFields bytes k { d with millis := toInt64 v } fuel
    | 3 =>
      let (v, k) ← within name "source_uid" (string bytes wire j)
      messageFields bytes k { d with sourceUid := v } fuel
    | 4 =>
      let (v, k) ← within name "message_uid" (string bytes wire j)
      messageFields bytes k { d with uid := v } fuel
    | 5 =>
      let (v, k) ← within name "text" (string bytes wire j)
      messageFields bytes k { d with text := v } fuel
    | 6 =>
      let (v, k) ← within name "links" (string bytes wire j)
      messageFields bytes k { d with links := d.links ++ [v] } fuel
    | _ =>
      let k ← skipField bytes wire tag j groupLimit (bytes.size + 1)
      messageFields bytes k d fuel

-- Reads a source back from its snapshot.
def decodeSource (bytes : ByteArray) : Except SnapshotError Source :=
  match sourceFields bytes 0 ⟨0, "", "", 0⟩ (bytes.size + 1) with
  | .error t => .error (.decode t)
  | .ok d =>
    if d.uid.isEmpty then .error .missingUid
    else .ok ⟨⟨d.flags.toUInt32⟩, d.uid, d.title, d.deepId⟩

-- Reads a message back from its snapshot.
def decodeMessage (bytes : ByteArray) : Except SnapshotError Message :=
  match messageFields bytes 0 ⟨0, 0, "", "", "", []⟩ (bytes.size + 1) with
  | .error t => .error (.decode t)
  | .ok d =>
    if d.uid.isEmpty || d.sourceUid.isEmpty then .error .missingUid
    else
      match Instant.ofMillis d.millis with
      | none => .error (.timestamp d.millis)
      | some t => .ok ⟨⟨d.flags.toUInt32⟩, t, d.sourceUid, d.uid, d.text, d.links⟩

end Snapshot

end ChatArchive
