import DocClient.Document.Meta

namespace DocClient

/-!
# Errors of the client

Each error names its cause. `Error.code` is a stable name for the kind, `Error.message` the
text shown to people. Only failures to get an answer at all (`connection`, `timeout`) are worth
trying again; everything the server answered is final. A decoding failure may carry the
metadata that was read before it failed.
-/

/-- Why an operation failed. -/
inductive Error where
  | invalidArgument (message : String)
  | invalidKey (message : String)
  | notFound (message : String)
  | conflict (message : String)
  | preconditionFailed (message : String)
  | response (status : UInt16) (errorNum : UInt32) (message : String)
  | decode (message : String) (partialMeta : Option DocumentMeta)
  | connection (message : String)
  | timeout (message : String)
  | cancelled
  | internal (message : String)
  deriving DecidableEq, Inhabited, Repr

namespace Error

/-- The stable code of the kind of error. -/
def code : Error → String
  | invalidArgument _ => "INVALID_ARGUMENT"
  | invalidKey _ => "INVALID_KEY"
  | notFound _ => "NOT_FOUND"
  | conflict _ => "CONFLICT"
  | preconditionFailed _ => "PRECONDITION_FAILED"
  | response .. => "RESPONSE_ERROR"
  | decode .. => "DECODE_ERROR"
  | connection _ => "CONNECTION_ERROR"
  | timeout _ => "TIMEOUT"
  | cancelled => "CANCELLED"
  | internal _ => "INTERNAL_ERROR"

/-- The text of the error. -/
def message : Error → String
  | invalidArgument m => "Invalid argument: " ++ m
  | invalidKey m => "Invalid key: " ++ m
  | notFound m => "Not found: " ++ m
  | conflict m => "Conflict: " ++ m
  | preconditionFailed m => "Precondition failed: " ++ m
  | response status errorNum m =>
    "Unexpected response status " ++ toString status.toNat ++ " (errorNum " ++
      toString errorNum.toNat ++ "): " ++ m
  | decode m _ => "Decode error: " ++ m
  | connection m => "Connection error: " ++ m
  | timeout m => "Request timeout: " ++ m
  | cancelled => "Operation cancelled"
  | internal m => "Internal error: " ++ m

/-- Whether the request never got an answer, so that sending it again may help. -/
def isRetryable : Error → Bool
  | connection _ => true
  | timeout _ => true
  | _ => false

/-- The metadata a decoding failure kept, if any. -/
def partialMeta : Error → Option DocumentMeta
  | decode _ m => m
  | _ => none

/-- Attach metadata to a decoding failure, replacing what it had; other errors are unchanged. -/
def withMeta (e : Error) (m : DocumentMeta) : Error :=
  match e with
  | decode msg _ => decode msg (some m)
  | other => other

/-- The error as JSON: its code, its message, and the partial metadata when there is some. -/
def toValue (e : Error) : Json.Value :=
  Json.Value.ofMembers
    ([("error", .string e.code), ("message", .string e.message)] ++
      match e.partialMeta with
      | some m => [("partial_meta", m.toValue)]
      | none => [])

end Error

end DocClient
