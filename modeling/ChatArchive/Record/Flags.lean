namespace ChatArchive

-- The flag set carried by every source and message, as its 32 bits.
structure Flags where
  bits : UInt32
  deriving DecidableEq, Repr, Inhabited

-- The kind of endpoint a conversation lives on.
inductive Kind where
  | channel
  | user
  | group
  | invalid
  deriving DecidableEq, Repr, Inhabited

namespace Kind

def name : Kind → String
  | .channel => "channel"
  | .user => "user"
  | .group => "group"
  | .invalid => "invalid"

end Kind

namespace Flags

def v1 : Flags := ⟨1⟩
def telegram : Flags := ⟨2⟩
def channel : Flags := ⟨4⟩
def user : Flags := ⟨8⟩
def group : Flags := ⟨16⟩
def invalid : Flags := ⟨0x8000⟩
def empty : Flags := ⟨0⟩

instance : OrOp Flags := ⟨fun a b => ⟨a.bits ||| b.bits⟩⟩

@[simp] theorem bits_or (a b : Flags) : (a ||| b).bits = a.bits ||| b.bits := rfl

def contains (f g : Flags) : Bool := f.bits &&& g.bits == g.bits

def isInvalid (f : Flags) : Bool := f.contains invalid

-- The kind of endpoint: the single kind bit that is set, and `invalid` when the invalid mark
-- is set or when not exactly one kind bit is.
def kind (f : Flags) : Kind :=
  if f.isInvalid then .invalid
  else
    match f.contains channel, f.contains user, f.contains group with
    | true, false, false => .channel
    | false, true, false => .user
    | false, false, true => .group
    | _, _, _ => .invalid

end Flags

end ChatArchive
