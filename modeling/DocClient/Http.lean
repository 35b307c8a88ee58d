import DocClient.Config
import DocClient.Call.Link

namespace DocClient

/-!
# The HTTP transport

An HTTP connection is built from a valid configuration. Its requests go to
`<endpoint without trailing slashes>/_db/<database>/<path>`.

Sending a request is a sequence of attempts. Any answer of the server ends it, whatever the
status. A failed attempt is followed by another only if the failure is a connection failure or
a timeout, and either the request never left (the connection was not made) or it may have left
but the policy resends such requests and the method is idempotent; then only after the policy's
wait for that resend, and only while the policy has resends left. Otherwise the failure is the
result. So a request is attempted at most `maxRetries + 1` times, and a POST or PATCH that may
have reached the server is never sent again.

The errors of the HTTP library are taken as given, with the kinds of failure it flags on them.
A failure to send counts as one before the request left exactly when the connection was not
made; a failure to read the body of an answer is one after it left.
-/

/-- How far a failed attempt got. -/
inductive Delivery where
  /-- The request never left: the connection was not made. -/
  | notSent
  /-- The request may have reached the server. -/
  | unknown
  deriving DecidableEq, Repr

/-- A failed attempt. -/
structure Failure where
  error : Error
  delivery : Delivery

/-- A failure after the request left: it may have been received and applied. -/
def Failure.delivered (error : Error) : Failure :=
  { error, delivery := .unknown }

/-- An error of the HTTP library: its text and the kinds of failure the library flags on it,
which are taken as given. -/
structure TransportError where
  text : String
  isTimeout : Bool := false
  isConnect : Bool := false
  isRequest : Bool := false
  isDecode : Bool := false
  isBody : Bool := false

namespace TransportError

/-- The client error for an error of the HTTP library: a timeout first, then a failure to
connect or to send, then a failure to read or decode the body; anything else is a connection
failure. -/
def toError (e : TransportError) : Error :=
  if e.isTimeout then .timeout e.text
  else if e.isConnect || e.isRequest then .connection e.text
  else if e.isDecode || e.isBody then .decode ("failed to read response body: " ++ e.text) none
  else .connection e.text

/-- A failure to send: the request never left exactly when the connection was not made. -/
def classify (e : TransportError) : Failure :=
  { error := e.toError, delivery := if e.isConnect then .notSent else .unknown }

end TransportError

/-- What one attempt came to: the server's answer, a failure to send the request, or a failure
to read the body of the answer. -/
inductive Exchange where
  | response (r : Response)
  | sendFailed (e : TransportError)
  | bodyFailed (e : TransportError)

/-- The answer of an attempt, or how it failed. -/
def Exchange.attempt : Exchange → Except Failure Response
  | .response r => .ok r
  | .sendFailed e => .error e.classify
  | .bodyFailed e => .error (Failure.delivered e.toError)

/-- The network between the client and the server: the outcome of each attempt given its own
state, and the state after the client waited some milliseconds. -/
structure Network (ν : Type) where
  attempt : ν → Request → Exchange × ν
  wait : ν → UInt64 → ν := fun s _ => s

/-- A network on which no connection is ever made: every attempt fails before the request
leaves. -/
def Network.offline : Network Unit :=
  { attempt := fun _ _ => (.sendFailed { text := "error sending request", isConnect := true }, ()) }

/-- A connection to a server over HTTP. -/
structure HttpConnection where
  baseUrl : String
  retry : RetryPolicy
  timeoutMs : Option UInt64

namespace HttpConnection

/-- A string without its trailing slashes. -/
def trimTrailingSlashes (s : String) : String :=
  String.ofList (s.toList.reverse.dropWhile (· == '/')).reverse

/-- A connection for a configuration, which must be valid. -/
def create (c : ClientConfig) : Except Error HttpConnection :=
  match c.validate with
  | .error m => .error (.invalidArgument m)
  | .ok () =>
    .ok { baseUrl := trimTrailingSlashes c.endpoint ++ "/_db/" ++ c.database,
          retry := c.retry, timeoutMs := c.requestTimeout }

/-- The wait before attempt `retry + 1` after failure `f` of a request with method `m`, or
`none` if there is to be no further attempt. -/
def retryDelay (c : HttpConnection) (f : Failure) (m : Method) (retry : UInt32) : Option UInt64 :=
  if !f.error.isRetryable then none
  else
    let resend := match f.delivery with
      | .notSent => true
      | .unknown => c.retry.resendIdempotent && m.isIdempotent
    if resend then c.retry.nextBackoff retry else none

/-- A resend waits what the policy gives for it. -/
theorem nextBackoff_of_retryDelay {c : HttpConnection} {f : Failure} {m : Method}
    {retry : UInt32} {delay : UInt64} (planned : c.retryDelay f m retry = some delay) :
    c.retry.nextBackoff retry = some delay := by
  cases waited : c.retry.nextBackoff retry with
  | none => simp [retryDelay, waited] at planned
  | some w =>
    simp [retryDelay, waited] at planned
    rw [planned.2.2]

/-- Before a resend the counter is below the policy's maximum, so it steps by one without
wrapping. -/
theorem toNat_succ_of_retryDelay {c : HttpConnection} {f : Failure} {m : Method}
    {retry : UInt32} {delay : UInt64} (planned : c.retryDelay f m retry = some delay) :
    (retry + 1).toNat = retry.toNat + 1 := by
  have fresh := UInt32.lt_iff_toNat_lt.mp
    (RetryPolicy.nextBackoff_lt_maxRetries (nextBackoff_of_retryDelay planned))
  have bounded := c.retry.maxRetries.toNat_lt
  rw [UInt32.toNat_add, UInt32.toNat_one, Nat.mod_eq_of_lt (by omega)]

/-- Attempt a request as resend number `retry`, then resend it while the failures allow. -/
def deliver {ν : Type} (c : HttpConnection) (net : Network ν) (r : Request) (retry : UInt32)
    (s : ν) : Except Error Response × ν :=
  let (x, s) := net.attempt s r
  match x.attempt with
  | .ok resp => (.ok resp, s)
  | .error f =>
    match planned : c.retryDelay f r.method retry with
    | some delay => c.deliver net r (retry + 1) (net.wait s delay)
    | none => (.error f.error, s)
termination_by c.retry.maxRetries.toNat - retry.toNat
decreasing_by
  -- the policy plans no resend once it is spent, so the counter stays below its maximum
  have fresh := UInt32.lt_iff_toNat_lt.mp
    (RetryPolicy.nextBackoff_lt_maxRetries (nextBackoff_of_retryDelay planned))
  have stepped := toNat_succ_of_retryDelay planned
  omega

/-- Send a request: attempts until an answer, a failure that is final, or the policy is spent. -/
def execute {ν : Type} (c : HttpConnection) (net : Network ν) (r : Request) (s : ν) :
    Except Error Response × ν :=
  c.deliver net r 0 s

/-- The connection as a link over the network. -/
def link {ν : Type} (c : HttpConnection) (net : Network ν) : Link ν :=
  { react := fun s r =>
      let (a, s) := c.execute net r s
      ({ cancels := false, reply := .answer a }, s) }

end HttpConnection

end DocClient
