import ChatArchive.Lane.Queue
import ChatArchive.Json.Value

namespace ChatArchive

namespace Lane

-- A lane running scripted units over a trace of labels.
abbrev ScriptSim := Sim (List String) Json.Value

namespace Script

def record (label : String) : Work (List String) Json.Value :=
  ⟨0, fun _ trace => ((.ok .null, []), trace ++ [label])⟩

def value (v : Json.Value) : Work (List String) Json.Value :=
  ⟨0, fun _ trace => ((.ok v, []), trace)⟩

def fail (message : String) : Work (List String) Json.Value :=
  ⟨0, fun _ trace => ((.error message, []), trace)⟩

def sleep (ms : Nat) : Work (List String) Json.Value :=
  ⟨ms, fun _ trace => ((.ok .null, []), trace)⟩

def checkCancelled : Work (List String) Json.Value :=
  ⟨0, fun cancelled trace => ((.ok (.bool cancelled), []), trace)⟩

end Script

end Lane

end ChatArchive
