namespace ChatArchive

namespace Container

def isSeparator (c : Char) : Bool := c == '-' || c == ' '

def nameFor (sourceUid : String) : String :=
  String.ofList ((sourceUid.toList.dropWhile isSeparator).reverse.dropWhile isSeparator).reverse

def isNameChar (c : Char) : Bool :=
  ('a' ≤ c && c ≤ 'z') || ('A' ≤ c && c ≤ 'Z') || ('0' ≤ c && c ≤ '9') || c == '-' || c == '_'

def maxNameBytes : Nat := 128

def validName (name : String) : Bool :=
  !name.isEmpty && name.utf8ByteSize ≤ maxNameBytes && name.toList.all isNameChar

end Container

end ChatArchive
