namespace ChatArchive

-- A message and the causes under it, outermost first.
structure Failure where
  message : String
  causes : List String
  deriving Repr, DecidableEq

namespace Failure

def plain (message : String) : Failure := ⟨message, []⟩

def caused (message cause : String) : Failure := ⟨message, [cause]⟩

def within (message : String) (f : Failure) : Failure := ⟨message, f.message :: f.causes⟩

def inline (f : Failure) : String := String.intercalate ": " (f.message :: f.causes)

def label (n : Nat) : String :=
  let digits := toString n
  String.ofList (List.replicate (5 - digits.length) ' ') ++ digits ++ ": "

def causeLines (first rest : String) (cause : String) : String :=
  match cause.splitOn "\n" with
  | [] => first
  | line :: more => first ++ line ++ String.join (more.map fun l => "\n" ++ rest ++ l)

-- The failure as a report: the message, then its causes under `Caused by:`.
def report (f : Failure) : String :=
  match f.causes with
  | [] => f.message
  | [c] => f.message ++ "\n\nCaused by:\n" ++ causeLines "    " "    " c
  | cs =>
    f.message ++ "\n\nCaused by:" ++ String.join ((List.range cs.length).zip cs |>.map
      fun (n, c) => "\n" ++ causeLines (label n) "       " c)

end Failure

end ChatArchive
