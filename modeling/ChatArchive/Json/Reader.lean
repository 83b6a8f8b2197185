import ChatArchive.Json.Stream
import ChatArchive.Json.Tree

namespace ChatArchive

namespace Json

-- How a value of type `α` is read: from the text at the cursor, and from a value tree.
structure Reader (α : Type) where
  scan : Scan α
  tree : Value → Except Fault α

def i64Max : Nat := 9223372036854775807

def u32Max : Nat := 4294967295

def Number.asI64 : Number → Except String Int
  | .nat n => if n ≤ i64Max then .ok n else .error (invalidValue (.unsigned n) "i64")
  | .neg n => .ok n
  | .float f => .error (invalidType (.float f) "i64")

def Number.asU32 : Number → Except String UInt32
  | .nat n => if n ≤ u32Max then .ok n.toUInt32 else .error (invalidValue (.unsigned n) "u32")
  | .neg n => .error (invalidValue (.signed n) "u32")
  | .float f => .error (invalidType (.float f) "u32")

namespace Reader

def map (f : α → β) (r : Reader α) : Reader β := ⟨f <$> r.scan, fun v => f <$> r.tree v⟩

def i64 : Reader Int := ⟨Scan.numeric "i64" Number.asI64, Tree.numeric "i64" Number.asI64⟩

def u32 : Reader UInt32 := ⟨Scan.numeric "u32" Number.asU32, Tree.numeric "u32" Number.asU32⟩

def bool : Reader Bool := ⟨Scan.bool, Tree.bool⟩

def string : Reader String := ⟨Scan.text "a string" .ok, Tree.text "a string" .ok⟩

def parsed (expected : String) (parse : String → Except String α) : Reader α :=
  ⟨Scan.text expected parse, Tree.text expected parse⟩

def optional (r : Reader α) : Reader (Option α) := ⟨Scan.optional r.scan, Tree.optional r.tree⟩

def list (r : Reader α) : Reader (List α) := ⟨Scan.list r.scan, Tree.list r.tree⟩

def variantName (names : List String) (s : String) : Except String Nat :=
  match names.idxOf? s with
  | some i => .ok i
  | none => .error (unknownVariant s names)

def variant (names : List String) : Reader Nat :=
  ⟨Scan.text "variant identifier" (variantName names), Tree.variant names⟩

end Reader

end Json

end ChatArchive
