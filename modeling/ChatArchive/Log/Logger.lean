import ChatArchive.Text.Quoted

namespace ChatArchive

-- Severities, most verbose first.
inductive Level where
  | debug
  | info
  | notice
  | warning
  | error
  | critical
  | alert
  deriving Repr, DecidableEq, Inhabited

namespace Level

-- The name of a level.
def name : Level → String
  | .debug => "debug"
  | .info => "info"
  | .notice => "notice"
  | .warning => "warning"
  | .error => "error"
  | .critical => "critical"
  | .alert => "alert"

-- The level with a name.
def ofName? : String → Option Level
  | "debug" => some .debug
  | "info" => some .info
  | "notice" => some .notice
  | "warning" => some .warning
  | "error" => some .error
  | "critical" => some .critical
  | "alert" => some .alert
  | _ => none

end Level

-- A key and a value attached to a record.
abbrev Field := String × String

-- One reported event.
structure LogRecord where
  level : Level
  kind : String
  message : String
  fields : List Field
  deriving Repr, DecidableEq, Inhabited

-- A reporting handle: the correlation id and the sticky fields.
structure Logger where
  requestUid : Option String
  fields : List Field
  deriving Repr, DecidableEq, Inhabited

namespace Logger

def root : Logger := ⟨none, []⟩

def without (base extra : List Field) : List Field :=
  base.filter fun (k, _) => !extra.any (·.1 == k)

def derive (l : Logger) (id : String) (fields : List Field) : Logger where
  requestUid := some (match l.requestUid with
    | some parent => parent ++ "/" ++ id
    | none => id)
  fields := without l.fields fields ++ fields

-- The record the logger reports, with the extra fields `extra`.
def record (l : Logger) (level : Level) (kind message : String) (extra : List Field) : LogRecord where
  level := level
  kind := kind
  message := message
  fields := (match l.requestUid with
      | some uid => [("request_uid", uid)]
      | none => []) ++ without l.fields extra ++ extra

-- The debug text of a logger: its id and its fields, quoted.
def describe (l : Logger) : String :=
  let uid := match l.requestUid with
    | some u => "Some(" ++ Quoted.quote u ++ ")"
    | none => "None"
  let pair (f : Field) := "(" ++ Quoted.quote f.1 ++ ", " ++ Quoted.quote f.2 ++ ")"
  "Logger \x7b request_uid: " ++ uid ++ ", fields: [" ++ ", ".intercalate (l.fields.map pair)
    ++ "], .. \x7d"

end Logger

end ChatArchive
