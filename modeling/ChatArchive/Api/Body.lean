import ChatArchive.Json.Record

namespace ChatArchive

open Json

-- The body of a request for sources: the uids to select, or every source when empty.
structure SourcesRequest where
  sourceUids : List String
  deriving Repr, DecidableEq

-- The body of a readiness answer.
structure Readiness where
  status : String
  deriving Repr, DecidableEq

-- The body of an error answer.
structure ErrorBody where
  error : String
  deriving Repr, DecidableEq

namespace Wire

-- The record of a source listing request.
def sourcesRequestRecord : Record (Option (List String)) SourcesRequest := {
  expected := "struct GetSourcesRequest"
  fields := [Field.of "source_uids" true (Reader.list Reader.string) id fun _ v => some v]
  start := none
  closed := true
  build := fun d => .ok ⟨d.getD []⟩ }

def sourcesRequest : Reader SourcesRequest := sourcesRequestRecord.reader

-- The record of a one-string body.
def stringBody (expected name : String) (make : String → α) : Record (Option String) α := {
  expected := expected
  fields := [Field.of name false Reader.string id fun _ v => some v]
  start := none
  closed := false
  build := fun d => make <$> need name d }

def readiness : Reader Readiness := (stringBody "struct ReadyResponse" "status" Readiness.mk).reader

def errorBody : Reader ErrorBody := (stringBody "struct ErrorBody" "error" ErrorBody.mk).reader

def SourcesRequest.toValue (r : SourcesRequest) : Value :=
  .obj [("source_uids", .arr (r.sourceUids.map .str))]

def Readiness.toValue (r : Readiness) : Value := .obj [("status", .str r.status)]

def ErrorBody.toValue (r : ErrorBody) : Value := .obj [("error", .str r.error)]

end Wire

end ChatArchive
