import ChatArchive.Json.Value

namespace ChatArchive

namespace Json

namespace Tree

def refuse (message : String) : Except Fault α := .error (Fault.bare message)

def check (e : Except String α) : Except Fault α :=
  match e with
  | .ok a => .ok a
  | .error m => refuse m

def numeric (expected : String) (accept : Number → Except String α) : Value → Except Fault α
  | .num n => check (accept n)
  | v => refuse (invalidType v.found expected)

def bool : Value → Except Fault Bool
  | .bool b => .ok b
  | v => refuse (invalidType v.found "a boolean")

def text (expected : String) (accept : String → Except String α) : Value → Except Fault α
  | .str s => check (accept s)
  | v => refuse (invalidType v.found expected)

def optional (r : Value → Except Fault α) : Value → Except Fault (Option α)
  | .null => .ok none
  | v => some <$> r v

def list (r : Value → Except Fault α) : Value → Except Fault (List α)
  | .arr items => items.mapM r
  | v => refuse (invalidType v.found "a sequence")

-- Reads an object or an array: `ofObject` visits the members, `ofArray` the elements, handing
-- back those it did not take, which must be none.
def compound (expected : String) (ofArray : List Value → Except Fault (α × List Value))
    (ofObject : List (String × Value) → Except Fault α) : Value → Except Fault α
  | .arr items => do
    let (a, rest) ← ofArray items
    if rest.isEmpty then pure a
    else
      let taken := items.length - rest.length
      refuse (invalidLength items.length (elementsInSequence taken))
  | .obj members => ofObject members
  | v => refuse (invalidType v.found expected)

-- Reads a variant name among `names`, or a variant index below their number.
def variant (names : List String) : Value → Except Fault Nat
  | .str s =>
    match names.idxOf? s with
    | some i => .ok i
    | none => refuse (unknownVariant s names)
  | .num (.nat n) =>
    if n < names.length then .ok n else refuse (invalidValue (.unsigned n) (variantIndex names.length))
  | v => refuse (invalidType v.found "variant identifier")

end Tree

end Json

end ChatArchive
