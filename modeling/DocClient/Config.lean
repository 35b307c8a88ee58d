import DocClient.Retry

namespace DocClient

/-!
# Client configuration

A client talks to one endpoint, scoped to one database, with a per-request timeout (0 for none)
and a retry policy. Every setting has a default, so any subset of them can be given. A
configuration is valid when the endpoint starts with `http://` or `https://`, the database name
is non-empty and free of `/`, and the retry policy is valid; the checks run in that order.
-/

/-- The settings of a client. -/
structure ClientConfig where
  endpoint : String
  database : String
  requestTimeoutMs : UInt64
  retry : RetryPolicy
  deriving Inhabited

namespace ClientConfig

/-- The default settings: a local server, the system database, thirty seconds, the fast
policy. -/
def default : ClientConfig :=
  { endpoint := "http://127.0.0.1:8529", database := "_system", requestTimeoutMs := 30000,
    retry := RetryPolicy.fast }

/-- The request timeout in milliseconds, `none` when disabled. -/
def requestTimeout (c : ClientConfig) : Option UInt64 :=
  if c.requestTimeoutMs = 0 then none else some c.requestTimeoutMs

/-- Check the settings. -/
def validate (c : ClientConfig) : Except String Unit :=
  if !(c.endpoint.startsWith "http://" || c.endpoint.startsWith "https://") then
    .error ("endpoint '" ++ c.endpoint ++ "' must be an http(s) URL")
  else if c.database.isEmpty then .error "database must not be empty"
  else if c.database.contains '/' then .error ("database '" ++ c.database ++ "' must not contain '/'")
  else c.retry.validate

/-- The wire shape: four fields, each defaulting to the default setting. -/
def record : Json.Record ClientConfig :=
  { name := "ClientConfig",
    base := default,
    fields :=
      [ .of "endpoint" Json.Decoder.string (fun s c => { c with endpoint := s }) (.defaulted id),
        .of "database" Json.Decoder.string (fun s c => { c with database := s }) (.defaulted id),
        .of "request_timeout_ms" Json.Decoder.u64
          (fun n c => { c with requestTimeoutMs := n.toUInt64 }) (.defaulted id),
        .of "retry" RetryPolicy.decoder (fun p c => { c with retry := p }) (.defaulted id) ] }

/-- Decoding settings from JSON. -/
def decoder : Json.Decoder ClientConfig := record.decoder

/-- Read and check settings given as JSON text. -/
def ofJsonText (text : String) : Except String ClientConfig :=
  let input := text.toUTF8.toList
  match decoder.fromText input with
  | .error f => .error ("invalid client config: " ++ f.message input)
  | .ok c => do
    c.validate
    return c

/-- The wire form of the settings. -/
def toValue (c : ClientConfig) : Json.Value :=
  Json.Value.ofMembers
    [ ("endpoint", .string c.endpoint), ("database", .string c.database),
      ("request_timeout_ms", Json.Value.ofNat c.requestTimeoutMs.toNat),
      ("retry", c.retry.toValue) ]

end ClientConfig

end DocClient
