import ChatArchive.Log.Logger

namespace ChatArchive

namespace Trace

def levelColumn : Level → String
  | .debug => "DEBUG"
  | .info | .notice => " INFO"
  | .warning => " WARN"
  | .error | .critical | .alert => "ERROR"

def extras (fields : List Field) : String :=
  " ".intercalate (fields.map fun (k, v) => k ++ "=" ++ v)

-- The printed text of a record.
def text (r : LogRecord) : String :=
  let severity := match r.level with
    | .error | .critical | .alert => " severity=" ++ r.level.name
    | _ => ""
  levelColumn r.level ++ " flotg_types::sink: " ++ r.message ++ " kind=" ++ Quoted.quote r.kind
    ++ severity ++ " extras=" ++ extras r.fields

-- The lines of a text: split at each line feed, a carriage return before it dropped, and no
-- empty line after a final line feed.
def lines (s : String) : List String :=
  let parts := s.splitOn "\n"
  let parts := if parts.getLast? == some "" then parts.dropLast else parts
  let n := parts.length
  (parts.zipIdx.map fun (p, i) =>
    if i + 1 < n || s.endsWith "\n" then
      (if p.endsWith "\r" then String.ofList (p.toList.dropLast) else p)
    else p)

def print (r : LogRecord) : List String := lines (text r)

end Trace

end ChatArchive
