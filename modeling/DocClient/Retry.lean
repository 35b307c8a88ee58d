import DocClient.Json.Decode

namespace DocClient

/-!
# When to send a failed request again

A retry policy bounds how often a request is sent again and how long to wait before each
resend. The wait before resend `r` (counting from 0) is `initial · multiplier ^ r`, capped at
`max`, in whole milliseconds; past `maxRetries` resends there is none. The power is computed by
repeated squaring (`powi`), not as a correctly rounded power, and the cap ignores a NaN.

A request that failed before it left is always safe to send again; one that may have reached
the server is sent again only when `resendIdempotent` allows it and its method is idempotent.
-/

/-- A retry policy. -/
structure RetryPolicy where
  maxRetries : UInt32
  initialBackoffMs : UInt64
  maxBackoffMs : UInt64
  backoffMultiplier : Float
  resendIdempotent : Bool
  deriving Inhabited

namespace RetryPolicy

/-- Never resend. -/
def disabled : RetryPolicy :=
  { maxRetries := 0, initialBackoffMs := 0, maxBackoffMs := 0, backoffMultiplier := 1.0,
    resendIdempotent := false }

/-- A few quick resends, for a server nearby; also the default. -/
def fast : RetryPolicy :=
  { maxRetries := 3, initialBackoffMs := 10, maxBackoffMs := 100, backoffMultiplier := 2.0,
    resendIdempotent := true }

/-- More resends spread over seconds, to ride out a restart. -/
def patient : RetryPolicy :=
  { maxRetries := 5, initialBackoffMs := 100, maxBackoffMs := 5000, backoffMultiplier := 2.0,
    resendIdempotent := true }

/-- The same policy, resending only requests that never left. -/
def connectFailuresOnly (p : RetryPolicy) : RetryPolicy :=
  { p with resendIdempotent := false }

/-- `a ^ b` by repeated squaring: the running product takes the current square for each one
bit of `b`, lowest bit first. -/
def powi (a : Float) (b : Nat) : Float :=
  go 64 a b 1
where
  go : Nat → Float → Nat → Float → Float
    | 0, _, _, r => r
    | fuel + 1, a, b, r =>
      let r := if b % 2 == 1 then r * a else r
      if b / 2 == 0 then r else go fuel (a * a) (b / 2) r

/-- The smaller of two doubles, where a NaN loses to any number. -/
def fmin (a b : Float) : Float :=
  if a.isNaN then b else if b.isNaN then a else if b < a then b else a

/-- The wait before resend `retry`, in milliseconds, or `none` once the policy is spent. -/
def nextBackoff (p : RetryPolicy) (retry : UInt32) : Option UInt64 :=
  if retry ≥ p.maxRetries then none
  else
    let exponent := min retry.toNat 2147483647
    let delay := fmin (Float.ofNat p.initialBackoffMs.toNat * powi p.backoffMultiplier exponent)
      (Float.ofNat p.maxBackoffMs.toNat)
    some delay.toUInt64

/-- A wait is given only while the policy has resends left. -/
theorem nextBackoff_lt_maxRetries {p : RetryPolicy} {retry : UInt32} {delay : UInt64}
    (planned : p.nextBackoff retry = some delay) : retry < p.maxRetries := by
  unfold nextBackoff at planned
  split at planned
  · cases planned
  · rename_i left
    exact UInt32.not_le.mp left

/-- Check the policy: the multiplier must be a finite number of at least 1, and the first wait
at most the cap. -/
def validate (p : RetryPolicy) : Except String Unit :=
  if !p.backoffMultiplier.isFinite || p.backoffMultiplier < 1.0 then
    .error "retry backoff_multiplier must be at least 1.0"
  else if p.initialBackoffMs > p.maxBackoffMs then
    .error ("retry initial_backoff_ms (" ++ toString p.initialBackoffMs.toNat ++
      ") exceeds max_backoff_ms (" ++ toString p.maxBackoffMs.toNat ++ ")")
  else .ok ()

/-- The wire shape: five fields, each defaulting to the fast policy's value. -/
def record : Json.Record RetryPolicy :=
  { name := "RetryPolicy",
    base := fast,
    fields :=
      [ .of "max_retries" Json.Decoder.u32 (fun n p => { p with maxRetries := n.toUInt32 })
          (.defaulted id),
        .of "initial_backoff_ms" Json.Decoder.u64
          (fun n p => { p with initialBackoffMs := n.toUInt64 }) (.defaulted id),
        .of "max_backoff_ms" Json.Decoder.u64 (fun n p => { p with maxBackoffMs := n.toUInt64 })
          (.defaulted id),
        .of "backoff_multiplier" Json.Decoder.f64 (fun x p => { p with backoffMultiplier := x })
          (.defaulted id),
        .of "resend_idempotent" Json.Decoder.bool (fun b p => { p with resendIdempotent := b })
          (.defaulted id) ] }

/-- Decoding a policy from JSON. -/
def decoder : Json.Decoder RetryPolicy := record.decoder

/-- The wire form of a policy. -/
def toValue (p : RetryPolicy) : Json.Value :=
  Json.Value.ofMembers
    [ ("max_retries", Json.Value.ofNat p.maxRetries.toNat),
      ("initial_backoff_ms", Json.Value.ofNat p.initialBackoffMs.toNat),
      ("max_backoff_ms", Json.Value.ofNat p.maxBackoffMs.toNat),
      ("backoff_multiplier", .number (.float p.backoffMultiplier)),
      ("resend_idempotent", .bool p.resendIdempotent) ]

end RetryPolicy

end DocClient
