import ChatArchive.Text.Decimal

namespace ChatArchive

namespace Uid

def fromIdMarker : List Char := "-fromid-".toList

def splitFirst (sep : List Char) : List Char → Option (List Char × List Char)
  | [] => if sep.isEmpty then some ([], []) else none
  | c :: rest =>
    if sep.isPrefixOf (c :: rest) then some ([], (c :: rest).drop sep.length)
    else (splitFirst sep rest).map fun (pre, post) => (c :: pre, post)

def breakAt (c : Char) : List Char → Option (List Char × List Char)
  | [] => none
  | d :: rest =>
    if d = c then some ([], rest)
    else (breakAt c rest).map fun (pre, post) => (d :: pre, post)

def sourceId? (uid : String) : Option Int :=
  match splitFirst fromIdMarker uid.toList with
  | some (lead, rest) => if lead.isEmpty then none else Decimal.i64OfDigits? rest
  | none => none

-- The raw message id of a message uid: split at the last `-`, the left part must be a source
-- uid and the right part a run of ASCII digits that fits a 64-bit signed integer.
def messageId? (uid : String) : Option Int :=
  match breakAt '-' uid.toList.reverse with
  | some (rawRev, sourceRev) =>
    match sourceId? (String.ofList sourceRev.reverse) with
    | some _ => Decimal.i64OfDigits? rawRev.reverse
    | none => none
  | none => none

end Uid

end ChatArchive
