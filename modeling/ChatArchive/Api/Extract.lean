import ChatArchive.Api.Body
import ChatArchive.Api.Target
import ChatArchive.Event.Read

namespace ChatArchive

namespace Api

-- Why a JSON body was refused.
inductive BodyRejection where
  | missingContentType
  | malformed (f : Json.Fault)
  | shape (f : Json.Fault)
  deriving Repr, DecidableEq

def BodyRejection.text : BodyRejection → String
  | .missingContentType => "Expected request with `Content-Type: application/json`"
  | .malformed f => "Failed to parse the request body as JSON: " ++ f.renderWithPath
  | .shape f => "Failed to deserialize the JSON body into the target type: " ++ f.renderWithPath

def isTokenByte (b : UInt8) : Bool :=
  isAlnum b || [33, 35, 36, 37, 38, 39, 42, 43, 45, 46, 94, 95, 96, 124, 126].contains b.toNat

def isQuotedByte (b : UInt8) : Bool := b > 31 && b != 127

-- The parts of a media type that decide whether it is JSON: type, subtype and suffix.
structure MediaType where
  kind : String
  subtype : String
  suffix : Option String
  deriving Repr, DecidableEq

-- Checks the parameters after a `;`: each is a name, `=`, and a token or a quoted value, with
-- spaces allowed before a name and after a quoted value.
def paramsValid : List UInt8 → Nat → Bool
  | [], _ => true
  | _, 0 => false
  | s, fuel + 1 =>
    let s := s.dropWhile (· == 32)
    if s.isEmpty then true
    else
      let name := s.takeWhile isTokenByte
      match s.drop name.length with
      | 61 :: rest =>
        if name.isEmpty then false
        else
          match rest with
          | 34 :: first :: quoted =>
            -- the first byte is content even when it is a quote
            let inner := quoted.takeWhile fun b => b != 34
            match quoted.drop inner.length with
            | 34 :: after =>
              if !(first :: inner).all isQuotedByte then false
              else
                let after := after.dropWhile (· == 32)
                match after with
                | [] => true
                | 59 :: more => paramsValid more fuel
                | _ => false
            | _ => false
          | _ =>
            let value := rest.takeWhile isTokenByte
            match rest.drop value.length with
            | [] => true
            | 59 :: more => !value.isEmpty && paramsValid more fuel
            | _ => false
      | _ => false

-- Reads a media type: a type, `/`, a subtype with an optional `+` suffix, then parameters.
def MediaType.parse (text : String) : Option MediaType :=
  let s := text.toUTF8.toList.map fun b => if 65 ≤ b && b ≤ 90 then b + 32 else b
  let kind := s.takeWhile isTokenByte
  match s.drop kind.length with
  | 47 :: rest =>
    if kind.isEmpty then none
    else
      let sub := rest.takeWhile isTokenByte
      let params := rest.drop sub.length
      let ok := match params with
        | [] => true
        | 59 :: more => !sub.isEmpty && paramsValid more (more.length + 1)
        | _ => false
      if !ok then none
      else
        let plus := ((List.range sub.length).filter fun i => i > 0 && sub[i]? == some 43).getLast?
        let (subtype, suffix) := match plus with
          | some i => (sub.take i, some (textOf (sub.drop (i + 1))))
          | none => (sub, none)
        some ⟨textOf kind, textOf subtype, suffix⟩
  | _ => none

-- The content type declares JSON. A value with bytes outside visible ASCII is not read.
def isJsonContentType (contentType : Option String) : Bool :=
  match contentType with
  | none => false
  | some t =>
    t.toUTF8.toList.all (fun b => (32 ≤ b && b < 127) || b == 9) &&
      match MediaType.parse t with
      | some m => m.kind == "application" && (m.subtype == "json" || m.suffix == some "json")
      | none => false

-- Reads a JSON body with `r`, after checking that the request declares JSON.
def readJsonBody (r : Json.Reader α) (contentType : Option String) (body : String) :
    Except BodyRejection α :=
  if !isJsonContentType contentType then .error .missingContentType
  else
    match Json.readText r body with
    | .ok a => .ok a
    | .error f => .error (if f.malformed then .malformed f else .shape f)

end Api

end ChatArchive
