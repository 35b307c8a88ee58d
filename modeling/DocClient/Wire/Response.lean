import DocClient.Error
import DocClient.Json.Decode

namespace DocClient

/-!
# Responses

A response is a status and the bytes of its body. `checkStatus` accepts a list of statuses and
classifies any other: 404, 409 and 412 have kinds of their own, and every other status is a
response error with the server's error number and message. The kind depends on the status
alone, the details on the body alone: the body is read as JSON if it is JSON, its `errorNum`
counts only as an unsigned integer (cut to 32 bits), and its `errorMessage` only as a string.

The body is read in three ways. `parseRoot` decodes all of it. `parseBody` decodes one member
(an envelope), which must be there. `parsePrimary` decodes the document itself: the body, unless
it has no `_key` member and the envelope is an object, in which case the envelope.
-/

/-- A response as received. -/
structure Response where
  status : UInt16
  body : List UInt8

namespace Response

/-- The error number and message the body gives, with their fallbacks. -/
def errorDetails (r : Response) : UInt32 × String :=
  let parsed := match Json.parse r.body with
    | .ok v => some v
    | .error _ => none
  let errorNum := match parsed.bind (·.get? "errorNum") |>.bind Json.Value.asU64? with
    | some n => n.toUInt32
    | none => 0
  let message := match parsed.bind (·.get? "errorMessage") |>.bind Json.Value.asString? with
    | some m => m
    | none => "unexpected status " ++ toString r.status.toNat
  (errorNum, message)

/-- Accept the listed statuses and classify any other. -/
def checkStatus (r : Response) (accepted : List UInt16) : Except Error Unit :=
  if accepted.contains r.status then .ok ()
  else
    let (errorNum, message) := r.errorDetails
    if r.status = 404 then .error (.notFound message)
    else if r.status = 409 then .error (.conflict message)
    else if r.status = 412 then .error (.preconditionFailed message)
    else .error (.response r.status errorNum message)

/-- The body as JSON. -/
def jsonBody (r : Response) : Except Error Json.Value :=
  match Json.parse r.body with
  | .ok v => .ok v
  | .error f => .error (.decode ("response body is not valid JSON: " ++ f.message r.body) none)

/-- Decode a value taken from the envelope `field`. -/
def decodeEnvelope {α : Type} (d : Json.Decoder α) (field : String) (v : Json.Value) :
    Except Error α :=
  match d.fromValue v with
  | .ok a => .ok a
  | .error f => .error (.decode ("cannot decode '" ++ field ++ "' envelope: " ++ f.problem.text) none)

/-- Decode the whole body. -/
def parseRoot {α : Type} (r : Response) (d : Json.Decoder α) : Except Error α := do
  decodeEnvelope d "body" (← r.jsonBody)

/-- Decode the envelope `field`, which must be present (`null` counts as present). -/
def parseBody {α : Type} (r : Response) (d : Json.Decoder α) (field : String) : Except Error α := do
  match (← r.jsonBody).get? field with
  | none => .error (.decode ("response has no '" ++ field ++ "' envelope") none)
  | some v => decodeEnvelope d field v

/-- The part of a body that holds the document: the envelope `field` when the body has no
`_key` member and the envelope is an object, else the body itself. -/
def primaryPart (root : Json.Value) (field : String) : Json.Value :=
  match root.get? "_key", root.get? field with
  | none, some (.object ms) => .object ms
  | _, _ => root

/-- Decode the document part of the body. -/
def parsePrimary {α : Type} (r : Response) (d : Json.Decoder α) (field : String) : Except Error α := do
  decodeEnvelope d field (primaryPart (← r.jsonBody) field)

end Response

end DocClient
