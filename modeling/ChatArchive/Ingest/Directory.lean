import ChatArchive.Event.Types

namespace ChatArchive

-- Why a reference could not be resolved.
inductive ResolveError where
  | notFound (ref : PeerRef)
  deriving Repr, DecidableEq

namespace ResolveError

def text : ResolveError → String
  | .notFound ref => "peer not found in database: " ++ ref.describe

def kind : ResolveError → String
  | .notFound _ => "NotFound"

end ResolveError

-- The remembered conversations, each under its reference, in the order first seen.
structure Directory where
  entries : List (PeerRef × Peer)
  deriving Repr

namespace Directory

def empty : Directory := ⟨[]⟩

-- Remembers `p` under its reference, replacing an earlier entry for it: the reference, or
-- nothing for a conversation that has none.
def insert (d : Directory) (p : Peer) : Option PeerRef × Directory :=
  match p.ref with
  | none => (none, d)
  | some ref =>
    if d.entries.any (·.1 == ref) then
      (some ref, ⟨d.entries.map fun e => if e.1 == ref then (ref, p) else e⟩)
    else (some ref, ⟨d.entries ++ [(ref, p)]⟩)

def size (d : Directory) : Nat := d.entries.length

-- The conversation remembered under `ref`.
def resolve (d : Directory) (ref : PeerRef) : Except ResolveError Peer :=
  match d.entries.find? (·.1 == ref) with
  | some (_, p) => .ok p
  | none => .error (.notFound ref)

end Directory

end ChatArchive
