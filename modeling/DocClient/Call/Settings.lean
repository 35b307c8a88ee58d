import DocClient.Wire.Request
import DocClient.Json.Decode

namespace DocClient

/-!
# Options of a call

A `CallConfig` holds the options of one operation: whether the server should leave metadata
out (silent), where returned old and new versions of documents go, whether to wait for the
write to reach disk, what to do when a created key exists, and whether the session's cancel
handle applies. Just before the request is sent the options become `ContextSettings`, and the
matching query parameters are set on the request, in a fixed order.

A returned document is kept in the form its receiver decodes it to: a `Shape` is a decoder
whose result is again JSON.
-/

/-- A decoder of returned documents, giving back the decoded document as JSON. -/
abbrev Shape := Json.Decoder Json.Value

/-- What to do when a created document's key already exists. -/
inductive OverwriteMode where
  | ignore
  | replace
  | update
  | conflict
  deriving DecidableEq, Inhabited, Repr

namespace OverwriteMode

/-- The wire name of a mode. -/
def name : OverwriteMode → String
  | ignore => "ignore"
  | replace => "replace"
  | update => "update"
  | conflict => "conflict"

/-- The name of a mode in debug views. -/
def debugName : OverwriteMode → String
  | ignore => "Ignore"
  | replace => "Replace"
  | update => "Update"
  | conflict => "Conflict"

/-- The mode of a wire name. -/
def ofName? (s : String) : Option OverwriteMode :=
  [ignore, replace, update, conflict].find? (fun m => m.name = s)

end OverwriteMode

/-- An optional mode as a debug view shows it. -/
def overwriteText : Option OverwriteMode → String
  | none => "None"
  | some m => "Some(" ++ m.debugName ++ ")"

/-- The options of one call. -/
structure CallConfig where
  silent : Bool := false
  returnOld : Option Shape := none
  returnNew : Option Shape := none
  waitForSync : Bool := false
  overwrite : Option OverwriteMode := none
  /-- Whether the session's cancel handle is attached. -/
  cancel : Bool := false

namespace CallConfig

/-- The debug view of the options. -/
def debugText (c : CallConfig) : String :=
  "CallConfig \x7b silent: " ++ toString c.silent ++ ", return_old: " ++ toString c.returnOld.isSome ++
    ", return_new: " ++ toString c.returnNew.isSome ++ ", wait_for_sync: " ++
    toString c.waitForSync ++ ", overwrite: " ++ overwriteText c.overwrite ++ ", cancel: " ++
    toString c.cancel ++ " \x7d"

end CallConfig

/-- The settings one operation runs with. -/
structure ContextSettings where
  silent : Bool
  returnOld : Option Shape
  returnNew : Option Shape
  waitForSync : Bool
  overwrite : Option OverwriteMode

namespace ContextSettings

/-- The query parameters the options ask for, in order: `silent`, `returnOld`, `returnNew`,
`waitForSync`, `overwriteMode`. -/
def params (c : CallConfig) : List (String × String) :=
  (if c.silent then [("silent", "true")] else []) ++
  (if c.returnOld.isSome then [("returnOld", "true")] else []) ++
  (if c.returnNew.isSome then [("returnNew", "true")] else []) ++
  (if c.waitForSync then [("waitForSync", "true")] else []) ++
  (match c.overwrite with
   | some m => [("overwriteMode", m.name)]
   | none => [])

/-- The settings of a call, and its request with their query parameters set. -/
def extract (c : CallConfig) (r : Request) : ContextSettings × Request :=
  ({ silent := c.silent, returnOld := c.returnOld, returnNew := c.returnNew,
     waitForSync := c.waitForSync, overwrite := c.overwrite },
   (params c).foldl (fun r (k, v) => r.setQuery k v) r)

/-- The success status to expect: `synced` when the write waits for the disk, else `queued`. -/
def okStatus (s : ContextSettings) (synced queued : UInt16) : UInt16 :=
  if s.waitForSync then synced else queued

/-- The settings as JSON, with the statuses a create and a removal would accept. -/
def toValue (s : ContextSettings) : Json.Value :=
  Json.Value.ofMembers
    [ ("silent", .bool s.silent), ("return_old", .bool s.returnOld.isSome),
      ("return_new", .bool s.returnNew.isSome), ("wait_for_sync", .bool s.waitForSync),
      ("overwrite", match s.overwrite with
        | some m => .string m.name
        | none => .null),
      ("ok_status", .array [Json.Value.ofNat (s.okStatus 201 202).toNat,
        Json.Value.ofNat (s.okStatus 200 202).toNat]) ]

/-- The debug view of the settings. -/
def debugText (s : ContextSettings) : String :=
  "ContextSettings \x7b silent: " ++ toString s.silent ++ ", return_old: " ++
    toString s.returnOld.isSome ++ ", return_new: " ++ toString s.returnNew.isSome ++
    ", wait_for_sync: " ++ toString s.waitForSync ++ ", overwrite: " ++ overwriteText s.overwrite ++
    " \x7d"

end ContextSettings

end DocClient
