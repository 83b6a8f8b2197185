import ChatArchive.Store.Sql.Schema
import ChatArchive.Snapshot.Codec
import ChatArchive.Text.Quoted

namespace ChatArchive

-- A failure reported by the database.
inductive SqlError where
  -- a failure and its code, without a place in the statement
  | failure (code : Sql.Code) (message : String)
  -- a failure while preparing `sql` that points at the byte `offset` of it
  | input (message sql : String) (offset : Nat)
  -- a stored value of the wrong class for the column `index` named `name`
  | columnType (index : Nat) (name type : String)

namespace SqlError

def text : SqlError → String
  | .failure _ m => m
  | .input m sql offset => m ++ " in " ++ sql ++ " at offset " ++ toString offset
  | .columnType i n t => "Invalid column type " ++ t ++ " at index: " ++ toString i ++ ", name: " ++ n

def kind : SqlError → String
  | .failure _ _ => "SqliteFailure"
  | .input _ _ _ => "SqlInputError"
  | .columnType _ _ _ => "InvalidColumnType"

def ofPrepare (sql : String) (f : Sql.Failure) : SqlError :=
  match f.pos, f.code with
  | some p, .error => .input f.message sql p
  | _, _ => .failure f.code f.message

def ofRun (f : Sql.Failure) : SqlError := .failure f.code f.message

end SqlError

-- Why the store failed.
inductive StorageError where
  | sqlite (e : SqlError)
  | invalidContainerName (name : String)
  -- the kind of container, `sources` or `messages`, and the refused column
  | unknownOrderingField (kind field : String)
  | invalidRecord (what : String)
  | snapshot (e : SnapshotError)
  | poisoned

namespace StorageError

-- The message of the error.
def text : StorageError → String
  | .sqlite e => "sqlite: " ++ e.text
  | .invalidContainerName n => "invalid container name " ++ Quoted.quote n
  | .unknownOrderingField kind field =>
    "unknown ordering field " ++ Quoted.quote field ++ " for " ++ kind ++ " container"
  | .invalidRecord what => "refusing to store invalid record " ++ Quoted.quote what
  | .snapshot e => "snapshot: " ++ e.text
  | .poisoned => "database lock poisoned"

-- The variant path of the error, two levels at most.
def kind : StorageError → String
  | .sqlite e => "Sqlite." ++ e.kind
  | .invalidContainerName _ => "InvalidContainerName"
  | .unknownOrderingField _ _ => "UnknownOrderingField"
  | .invalidRecord _ => "InvalidRecord"
  | .snapshot e => "Snapshot." ++ ((e.kind.splitOn ".").headD "")
  | .poisoned => "Poisoned"

def isDuplicateKey : StorageError → Bool
  | .sqlite (.failure .primaryKey _) => true
  | .sqlite (.failure .unique _) => true
  | _ => false

end StorageError

end ChatArchive
