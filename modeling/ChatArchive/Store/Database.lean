import ChatArchive.Store.Error
import ChatArchive.Store.Name
import ChatArchive.Store.Sql.Run
import ChatArchive.Json.Render
import ChatArchive.Log.Logger

namespace ChatArchive

open Sql

-- A store: the database, the time in milliseconds that writes stamp, and the records reported
-- so far.
structure Store where
  catalog : Catalog
  clock : Int
  logs : List LogRecord

namespace Store

def fresh (clock : Int) : Store := ⟨.empty, clock, []⟩

end Store

-- An operation on the store. Changes made before a failure stay.
abbrev StoreM := ExceptT StorageError (StateM Store)

def Store.step (s : Store) (m : StoreM α) : (Except StorageError α × List LogRecord) × Store :=
  let (r, s') := (m.run).run { s with logs := [] }
  ((r, s'.logs), { s' with logs := [] })

-- The schema families of containers.
inductive ContainerKind where
  | sources
  | messages
  deriving DecidableEq, Repr

namespace ContainerKind

def name : ContainerKind → String
  | .sources => "sources"
  | .messages => "messages"

-- The columns of the kind: the record's uid as the key, then columns that may not hold nothing.
def columnDefs : ContainerKind → List ColumnDef
  | .sources =>
    [⟨"id", "TEXT", [.primaryKey]⟩, ⟨"created_at", "INTEGER", [.notNull]⟩,
     ⟨"flags", "INTEGER", [.notNull]⟩, ⟨"source_uid", "TEXT", [.notNull]⟩,
     ⟨"title", "TEXT", [.notNull]⟩, ⟨"deep_id", "INTEGER", [.notNull]⟩,
     ⟨"snapshot", "BLOB", [.notNull]⟩]
  | .messages =>
    [⟨"id", "TEXT", [.primaryKey]⟩, ⟨"created_at", "INTEGER", [.notNull]⟩,
     ⟨"message_created_at", "INTEGER", [.notNull]⟩, ⟨"flags", "INTEGER", [.notNull]⟩,
     ⟨"source_uid", "TEXT", [.notNull]⟩, ⟨"message_uid", "TEXT", [.notNull]⟩,
     ⟨"text", "TEXT", [.notNull]⟩, ⟨"links", "TEXT", [.notNull]⟩,
     ⟨"snapshot", "BLOB", [.notNull]⟩]

def columnNames (k : ContainerKind) : List String := k.columnDefs.map (·.name)

def nameWidth : ContainerKind → Nat
  | .sources => 12
  | .messages => 20

-- A column definition as the table statement writes it.
def columnLine (width : Nat) (d : ColumnDef) : String :=
  let constraint (c : Constraint) : String := match c with
    | .primaryKey => " PRIMARY KEY"
    | .notNull => " NOT NULL"
    | _ => ""
  d.name ++ String.ofList (List.replicate (width - d.name.length) ' ') ++ d.declared ++
    String.join (d.constraints.map constraint)

def columns (k : ContainerKind) : String :=
  (",\n" ++ String.ofList (List.replicate 16 ' ')).intercalate
    (k.columnDefs.map (columnLine k.nameWidth))

def orderable : ContainerKind → List String
  | .sources => ["created_at"]
  | .messages => ["created_at", "message_created_at"]

def ofName? : String → Option ContainerKind
  | "sources" => some .sources
  | "messages" => some .messages
  | _ => none

end ContainerKind

namespace StoreM

def sourcesContainer : String := "tgv1-sources"

def quoted (name : String) : String := "\"" ++ name ++ "\""

def report (r : LogRecord) : StoreM Unit :=
  modify fun s => { s with logs := s.logs ++ [r] }

def note (l : Logger) (level : Level) (kind message : String) (fields : List Field) :
    StoreM Unit :=
  report (l.record level kind message fields)

-- Prepares and runs one statement with its parameters.
def exec (sql : String) (params : List Datum) : StoreM Outcome := do
  let s ← get
  match s.catalog.prepareText sql with
  | .error f => throw (.sqlite (SqlError.ofPrepare sql f))
  | .ok (none, _) => pure ⟨[], [], 0⟩
  | .ok (some (plan, _), _) =>
    match s.catalog.run plan params with
    | .error f => throw (.sqlite (SqlError.ofRun f))
    | .ok (c, out) =>
      set { s with catalog := c }
      pure out

-- One of the store's own statements: its text, which a failure to prepare it quotes, and the
-- statement the text reads as.
structure Query where
  text : String
  stmt : Statement

-- Prepares and runs one of the store's own statements with its parameters.
def execQuery (q : Query) (params : List Datum) : StoreM Outcome := do
  let s ← get
  match s.catalog.prepare q.stmt with
  | .error f => throw (.sqlite (SqlError.ofPrepare q.text f))
  | .ok plan =>
    match s.catalog.run plan params with
    | .error f => throw (.sqlite (SqlError.ofRun f))
    | .ok (c, out) =>
      set { s with catalog := c }
      pure out

def attempt (m : StoreM α) : StoreM (Except StorageError α) :=
  tryCatch (do pure (.ok (← m))) fun e => pure (.error e)

-- Runs every statement of a text in turn, each prepared after the one before it ran; the first
-- failure stops the rest.
def batch (sql : String) : StoreM Unit := do
  let rec go (text : String) : Nat → StoreM Unit
    | 0 => pure ()
    | fuel + 1 => do
      if text.isEmpty then return
      let s ← get
      match s.catalog.prepareText text with
      | .error f => throw (.sqlite (SqlError.ofPrepare text f))
      | .ok (plan, rest) =>
        match plan with
        | some (p, _) =>
          match s.catalog.run p [] with
          | .error f => throw (.sqlite (SqlError.ofRun f))
          | .ok (c, _) => set { s with catalog := c }
        | none => pure ()
        if rest.utf8ByteSize < text.utf8ByteSize && !rest.isEmpty then go rest fuel
  go sql (sql.utf8ByteSize + 1)

def quotedName (name : String) (pos : Nat) : Name := ⟨none, name, pos, quoted name⟩

def tableQuery : Query :=
  ⟨"SELECT 1 FROM sqlite_master WHERE type = 'table' AND name = ?1",
   .select ⟨[.expr (.lit (.integer 1)) none], some ⟨none, "sqlite_master", 14, "sqlite_master"⟩,
     some (.binary .and (.binary .eq (.column none "type" false 34) (.lit (.text "table")))
       (.binary .eq (.column none "name" false 53) (.param 1))), [], none⟩⟩

def createQuery (name : String) (kind : ContainerKind) : Query :=
  ⟨"CREATE TABLE " ++ quoted name ++ " (" ++ kind.columns ++ ")",
   .createTable (quotedName name 13) false kind.columnDefs []⟩

def indexQuery (index name field : String) : Query :=
  let tableAt := 27 + (quoted index).utf8ByteSize + 4
  ⟨"CREATE INDEX IF NOT EXISTS " ++ quoted index ++ " ON " ++ quoted name ++ " (" ++ field ++ ")",
   .createIndex (quotedName index 27) false true (quotedName name tableAt)
     [(field, tableAt + (quoted name).utf8ByteSize + 2)]⟩

-- Inserts one row, every column of the kind given by a parameter in order, into the container
-- `name`.
def insertQuery (name : String) (kind : ContainerKind) : Query :=
  let columns := match kind with
    | .sources => " (id, created_at, flags, source_uid, title, deep_id, snapshot)\n"
    | .messages => " (id, created_at, message_created_at, flags, source_uid,\n" ++
      String.ofList (List.replicate 37 ' ') ++ "message_uid, text, links, snapshot)\n"
  let marks := (List.range kind.columnDefs.length).map fun i => "?" ++ toString (i + 1)
  ⟨"INSERT INTO " ++ quoted name ++ columns ++ String.ofList (List.replicate 21 ' ') ++
     "VALUES (" ++ ", ".intercalate marks ++ ")",
   .insert (quotedName name 12) (some kind.columnNames)
     [(List.range kind.columnDefs.length).map fun i => .param (i + 1)]⟩

-- Selects the id and snapshot of every row of the container `name`, ordered by `field` (written
-- with ` ASC` when `asc`) and then by row id; when `count` is not zero, only the rows whose id is
-- one of the parameters `?1` to `?count`.
def readQuery (name field : String) (asc : Bool) (count : Nat) : Query :=
  let table := quoted name
  let filterText := if count = 0 then "" else
    " WHERE id IN (" ++ ", ".intercalate ((List.range count).map fun i => "?" ++ toString (i + 1))
      ++ ")"
  let fieldText := if asc then field ++ " ASC" else field
  let orderAt := 25 + table.utf8ByteSize + filterText.utf8ByteSize + 10
  let filter := if count = 0 then none else
    some (.inList (.column none "id" false (25 + table.utf8ByteSize + 7))
      ((List.range count).map fun i => .param (i + 1)) false)
  ⟨"SELECT id, snapshot FROM " ++ table ++ filterText ++ " ORDER BY " ++ fieldText ++ ", rowid",
   .select ⟨[.expr (.column none "id" false 7) none, .expr (.column none "snapshot" false 11) none],
     some (quotedName name 25), filter,
     [⟨.column none field false orderAt, false⟩,
      ⟨.column none "rowid" false (orderAt + fieldText.utf8ByteSize + 2), false⟩], none⟩⟩

-- The highest number the database allows a parameter of one statement.
def maxParameter : Nat := 32766

def placeholderStart (name : String) (k : Nat) : Nat :=
  25 + (quoted name).utf8ByteSize + 14 +
    ((List.range (k - 1)).map fun i => (toString (i + 1)).length + 3).foldl (· + ·) 0

def containerExists (name : String) : StoreM Bool := do
  let out ← execQuery tableQuery [.text name]
  pure !out.rows.isEmpty

-- Makes the container `name` of a kind, ordered by `field`, unless a table of that name
-- exists; says whether this call made it.
def ensureContainer (l : Logger) (name : String) (kind : ContainerKind) (field : String) :
    StoreM Bool := do
  if !Container.validName name then throw (.invalidContainerName name)
  if !kind.orderable.contains field then throw (.unknownOrderingField kind.name field)
  let fields := [("col_name", name), ("col_time_field", field)]
  if ← containerExists name then
    note l .debug "storage_save" "Collection exists already" fields
    return false
  match ← attempt (execQuery (createQuery name kind) []) with
  | .ok _ => pure ()
  | .error e =>
    if ← containerExists name then
      note l .debug "storage_save" "Collection created concurrently, continuing" fields
    else
      let detail := match e with
        | .sqlite inner => inner.text
        | other => other.text
      note l .alert "storage_save" "Failed to create collection" (fields ++ [("err", detail)])
      throw e
  let _ ← execQuery (indexQuery (name ++ "_by_" ++ field) name field) []
  note l .info "storage_save" "Collection created as time-ordered" fields
  pure true

-- Settles an insert: a key collision means the record is stored already.
def settle (l : Logger) (inserted : Except StorageError Outcome) (id : String) : StoreM String := do
  match inserted with
  | .ok _ =>
    note l .info "storage_save" "Record saved" [("id", id)]
    pure id
  | .error e =>
    if e.isDuplicateKey then
      note l .debug "storage_save" "Duplicate key error is OK" [("id", id)]
      pure id
    else
      note l .alert "storage_save" "Failed to save record" [("id", id), ("err", e.text)]
      throw e

-- Stores a record in the container `name` of kind `kind`, making the container on first use:
-- `values now` are the record's columns when the store's clock reads `now`, and `uid` is the
-- record's key.
def putRecord (l child : Logger) (name : String) (kind : ContainerKind) (field uid : String)
    (values : Int → List Datum) : StoreM String := do
  let _ ← ensureContainer l name kind field
  let now := (← get).clock
  let inserted ← attempt (execQuery (insertQuery name kind) (values now))
  settle child inserted uid

def sourceRow (s : Source) (now : Int) : List Datum :=
  [.text s.uid, .integer now, .integer s.flags.bits.toNat, .text s.uid, .text s.title,
    .integer s.deepId, .blob (Snapshot.encodeSource s)]

def writeSource (l : Logger) (s : Source) : StoreM String := do
  if s.flags.isInvalid || s.uid.isEmpty then throw (.invalidRecord s.uid)
  let child := l.derive "save-source" [("collection", sourcesContainer), ("source_uid", s.uid)]
  putRecord l child sourcesContainer .sources "created_at" s.uid (sourceRow s)

def messageRow (m : Message) (now : Int) : List Datum :=
  [.text m.uid, .integer now, .integer m.createdAt.millis, .integer m.flags.bits.toNat,
    .text m.sourceUid, .text m.uid, .text m.text,
    .text (Json.Value.arr (m.links.map Json.Value.str)).render, .blob (Snapshot.encodeMessage m)]

-- Stores a message in the container of its conversation, making the container on first use.
def writeMessage (l : Logger) (source : Source) (m : Message) : StoreM String := do
  if source.flags.isInvalid || m.flags.isInvalid || m.uid.isEmpty then
    throw (.invalidRecord m.uid)
  if m.sourceUid != source.uid then
    throw (.invalidRecord (m.uid ++ " does not belong to " ++ source.uid))
  let container := Container.nameFor source.uid
  let child := l.derive "save-message" [("collection", container), ("message_uid", m.uid)]
  putRecord l child container .messages "message_created_at" m.uid (messageRow m)

def skip (l : Logger) (container id err : String) : StoreM Unit :=
  note l .error "storage_read" "Failed to decode stored record, skipping"
    [("collection", container), ("id", id), ("err", err)]

-- Runs a selection of `id, snapshot` and decodes every row, skipping those that do not read.
def decodeRows (l : Logger) (container : String) (q : Query) (params : List Datum)
    (decode : ByteArray → Except SnapshotError α) : StoreM (List α) := do
  let out ← execQuery q params
  let name (i : Nat) := out.names.getD i ""
  let mut found : List α := []
  for row in out.rows do
    match row.getD 0 .null with
    | .text id =>
      match row.getD 1 .null with
      | .blob bytes =>
        match decode bytes with
        | .ok r => found := found ++ [r]
        | .error e => skip l container id e.text
      | other => skip l container id (SqlError.columnType 1 (name 1) other.typeName).text
    | other => skip l container "<unreadable id>" (SqlError.columnType 0 (name 0) other.typeName).text
  pure found

-- Every stored source when `uids` is empty, otherwise the stored ones among them, in the order
-- they were stored.
def readSources (l : Logger) (uids : List String) : StoreM (List Source) := do
  let sources ← if ← containerExists sourcesContainer then
      let q := readQuery sourcesContainer "created_at" false uids.length
      if maxParameter < uids.length then
        throw (.sqlite (.input ("variable number must be between ?1 and ?" ++ toString maxParameter)
          q.text (placeholderStart sourcesContainer (maxParameter + 1))))
      else decodeRows l sourcesContainer q (uids.map Datum.text) Snapshot.decodeSource
    else pure []
  note l .debug "storage_read" "Sources read"
    [("requested", toString uids.length), ("found", toString sources.length)]
  pure sources

-- Every stored message of a conversation, by the message's own time, ties in the order they
-- were stored.
def readMessages (l : Logger) (sourceUid : String) : StoreM (List Message) := do
  let container := Container.nameFor sourceUid
  if !Container.validName container then throw (.invalidContainerName container)
  let messages ← if ← containerExists container then
      decodeRows l container (readQuery container "message_created_at" true 0) []
        Snapshot.decodeMessage
    else pure []
  note l .debug "storage_read" "Messages read"
    [("collection", container), ("found", toString messages.length)]
  pure messages

def containerNames : StoreM (List String) := do
  let out ← exec "SELECT name FROM sqlite_master WHERE type = 'table' ORDER BY name" []
  pure (out.rows.filterMap fun row => match row.head? with
    | some (.text n) => some n
    | _ => none)

def ping : StoreM Unit := do
  let _ ← exec "SELECT 1" []
  pure ()

def setSnapshot (container id : String) (bytes : ByteArray) : StoreM Nat := do
  let out ← exec ("UPDATE " ++ quoted container ++ " SET snapshot = ?1 WHERE id = ?2")
    [.blob bytes, .text id]
  pure out.changes

end StoreM

end ChatArchive
