import DocClient.Http

namespace DocClient

/-!
# How often a request is sent

A request goes out once, and again after each failure that allows a resend, as long as the
retry policy has resends left. This module says which failures allow one, and follows a whole
delivery over any sequence of outcomes of the single attempts: the network that answers
attempt `n` with the `n`-th outcome of a script, and notes each wait of the client.

Over every script, `execute` attempts at least once and at most `maxRetries + 1` times; every
attempt but the last failed in a way that allows a resend, and was followed by the policy's wait
for that resend, counted from 0 without wrapping; the last attempt decides the result, an answer
of any status as it is and a failure by its own error. A POST or PATCH is sent again only after
an attempt that never connected.
-/

/-- A connection failure or a timeout, the only errors worth trying again. -/
theorem Error.isRetryable_iff (e : Error) :
    e.isRetryable = true ↔ ∃ text, e = .connection text ∨ e = .timeout text := by
  cases e <;> simp [Error.isRetryable]

/-- Failure `f` of a request with method `m` allows another attempt under policy `p`, resends
left aside: its error is a connection failure or a timeout, and either the request never left,
or it may have left but `p` resends such requests and `m` is neither POST nor PATCH. -/
def Failure.Resendable (p : RetryPolicy) (m : Method) (f : Failure) : Prop :=
  (∃ text, f.error = .connection text ∨ f.error = .timeout text) ∧
    (f.delivery = .notSent ∨ p.resendIdempotent = true ∧ m ≠ .post ∧ m ≠ .patch)

/-- The idempotent methods are those other than POST and PATCH. -/
theorem Method.isIdempotent_iff (m : Method) :
    m.isIdempotent = true ↔ m ≠ .post ∧ m ≠ .patch := by
  cases m <;> simp [Method.isIdempotent]

/-- A POST or PATCH that may have reached the server is never resent. -/
theorem Failure.Resendable.notSent_of_post_or_patch {p : RetryPolicy} {m : Method}
    {f : Failure} (resendable : f.Resendable p m) (once : m = .post ∨ m = .patch) :
    f.delivery = .notSent := by
  rcases resendable.2 with notSent | ⟨-, notPost, notPatch⟩
  · exact notSent
  · rcases once with post | patch
    · exact absurd post notPost
    · exact absurd patch notPatch

/-- An attempt failed before its request left exactly when sending it failed to connect. -/
theorem Exchange.attempt_notSent {x : Exchange} {f : Failure} (failed : x.attempt = .error f)
    (notSent : f.delivery = .notSent) : ∃ e, x = .sendFailed e ∧ e.isConnect = true := by
  cases x with
  | response resp => cases failed
  | sendFailed e =>
    cases failed
    refine ⟨e, rfl, ?_⟩
    cases connect : e.isConnect
    · simp [TransportError.classify, connect] at notSent
    · rfl
  | bodyFailed e =>
    cases failed
    cases notSent

/-- The policy has a wait for resend `retry` exactly while it has resends left. -/
theorem RetryPolicy.nextBackoff_eq_none_iff (p : RetryPolicy) (retry : UInt32) :
    p.nextBackoff retry = none ↔ p.maxRetries ≤ retry := by
  by_cases spent : p.maxRetries ≤ retry
  · simp [RetryPolicy.nextBackoff, spent]
  · simp [RetryPolicy.nextBackoff, spent]

namespace HttpConnection

variable {c : HttpConnection} {f : Failure} {m : Method} {retry : UInt32}

/-- A failure is followed by a resend exactly when it allows one and the policy has a wait. -/
theorem retryDelay_eq_some_iff {delay : UInt64} :
    c.retryDelay f m retry = some delay ↔
      f.Resendable c.retry m ∧ c.retry.nextBackoff retry = some delay := by
  obtain ⟨error, delivery⟩ := f
  cases delivery <;>
    simp [retryDelay, Failure.Resendable, ← Error.isRetryable_iff, ← Method.isIdempotent_iff,
      and_assoc]

/-- A failure ends the delivery exactly when it allows no resend or the policy is spent. -/
theorem retryDelay_eq_none_iff :
    c.retryDelay f m retry = none ↔ ¬ f.Resendable c.retry m ∨ c.retry.maxRetries ≤ retry := by
  rw [← RetryPolicy.nextBackoff_eq_none_iff, Option.eq_none_iff_forall_ne_some]
  simp only [ne_eq, retryDelay_eq_some_iff, not_and]
  by_cases resendable : f.Resendable c.retry m
  · simp [resendable, Option.eq_none_iff_forall_ne_some]
  · simp [resendable]

end HttpConnection

/-- The waits of a client, each with the number of attempts made before it. -/
abbrev Waits := List (Nat × UInt64)

/-- The network that answers attempt `n` with `script n`, whatever the request, and keeps the
number of attempts made and the waits of the client in order. -/
def Network.scripted (script : Nat → Exchange) : Network (Nat × Waits) where
  attempt s _ := (script s.1, (s.1 + 1, s.2))
  wait s delay := (s.1, s.2 ++ [(s.1, delay)])

@[simp] theorem Network.scripted_attempt (script : Nat → Exchange) (s : Nat × Waits)
    (r : Request) : (Network.scripted script).attempt s r = (script s.1, (s.1 + 1, s.2)) := rfl

@[simp] theorem Network.scripted_wait (script : Nat → Exchange) (s : Nat × Waits)
    (delay : UInt64) : (Network.scripted script).wait s delay = (s.1, s.2 ++ [(s.1, delay)]) :=
  rfl

/-- What a delivery of a request with method `m` did over `script`, from attempt `first` on:
it made attempts `first` to `tries - 1`, within the policy's bound; every one but the last
failed in a way that allows a resend, and right after it the client waited the policy's wait for
that resend; the last attempt gave the result, an answer as it is and a failure by its error, and if
it failed it allowed no resend or the policy was spent. -/
structure Attempts (c : HttpConnection) (m : Method) (script : Nat → Exchange)
    (first tries : Nat) (waits : Waits) (result : Except Error Response) : Prop where
  made : first < tries
  bounded : tries ≤ c.retry.maxRetries.toNat + 1
  resent : ∀ j, first ≤ j → j + 1 < tries →
    ∃ f, (script j).attempt = .error f ∧ f.Resendable c.retry m
  waited : waits.map (Prod.map id some) =
    (List.range' first (tries - 1 - first)).map fun j =>
      (j + 1, c.retry.nextBackoff (UInt32.ofNat j))
  answered : ∀ resp, (script (tries - 1)).attempt = .ok resp → result = .ok resp
  failed : ∀ f, (script (tries - 1)).attempt = .error f →
    result = .error f.error ∧ (¬ f.Resendable c.retry m ∨ tries = c.retry.maxRetries.toNat + 1)

namespace Attempts

variable {c : HttpConnection} {m : Method} {script : Nat → Exchange}

/-- One attempt that decides the delivery. -/
theorem last {n : Nat} {result : Except Error Response} (within : n ≤ c.retry.maxRetries.toNat)
    (answered : ∀ resp, (script n).attempt = .ok resp → result = .ok resp)
    (failed : ∀ f, (script n).attempt = .error f →
      result = .error f.error ∧ (¬ f.Resendable c.retry m ∨ n = c.retry.maxRetries.toNat)) :
    Attempts c m script n (n + 1) [] result where
  made := Nat.lt_succ_self n
  bounded := Nat.succ_le_succ within
  resent j early late := absurd late (by omega)
  waited := by simp
  answered := answered
  failed f attempt := by
    obtain ⟨result, final⟩ := failed f attempt
    exact ⟨result, final.imp_right fun spent => by omega⟩

/-- An attempt that allows a resend, followed by the policy's wait and the rest of the
delivery. -/
theorem resend {n tries : Nat} {waits : Waits} {result : Except Error Response}
    {f : Failure} {delay : UInt64} (failed : (script n).attempt = .error f)
    (resendable : f.Resendable c.retry m)
    (waited : c.retry.nextBackoff (UInt32.ofNat n) = some delay)
    (rest : Attempts c m script (n + 1) tries waits result) :
    Attempts c m script n tries ((n + 1, delay) :: waits) result where
  made := Nat.lt_trans (Nat.lt_succ_self n) rest.made
  bounded := rest.bounded
  resent j early late := by
    rcases Nat.eq_or_lt_of_le early with now | later
    · exact ⟨f, now ▸ failed, resendable⟩
    · exact rest.resent j later late
  waited := by
    have more : tries - 1 - n = (tries - 1 - (n + 1)) + 1 := by
      have := rest.made
      omega
    rw [more, List.range'_succ, List.map_cons, List.map_cons, rest.waited, waited]
    rfl
  answered := rest.answered
  failed := rest.failed

/-- Over a script, a POST or PATCH is resent only after attempts that never connected. -/
theorem resent_sendFailed {first tries : Nat} {waits : Waits}
    {result : Except Error Response} (run : Attempts c m script first tries waits result)
    (once : m = .post ∨ m = .patch) (j : Nat) (early : first ≤ j) (late : j + 1 < tries) :
    ∃ e, script j = .sendFailed e ∧ e.isConnect = true := by
  obtain ⟨f, failed, resendable⟩ := run.resent j early late
  exact Exchange.attempt_notSent failed (resendable.notSent_of_post_or_patch once)

end Attempts

namespace HttpConnection

/-! ## One attempt of a delivery -/

section Step

variable {ν : Type} {c : HttpConnection} {net : Network ν} {r : Request} {retry : UInt32}
  {s s' : ν} {x : Exchange}

/-- An answer ends the delivery, whatever its status. -/
theorem deliver_of_answered {resp : Response} (attempted : net.attempt s r = (x, s'))
    (answered : x.attempt = .ok resp) : c.deliver net r retry s = (.ok resp, s') := by
  rw [deliver, attempted]
  simp only [answered]

/-- A failure that allows a resend, while the policy has one left, is followed by the wait and
the resend. -/
theorem deliver_of_resent {f : Failure} {delay : UInt64} (attempted : net.attempt s r = (x, s'))
    (failed : x.attempt = .error f) (planned : c.retryDelay f r.method retry = some delay) :
    c.deliver net r retry s = c.deliver net r (retry + 1) (net.wait s' delay) := by
  rw [deliver, attempted]
  simp only [failed]
  split <;> simp_all

/-- Any other failure ends the delivery with its own error. -/
theorem deliver_of_final {f : Failure} (attempted : net.attempt s r = (x, s'))
    (failed : x.attempt = .error f) (final : c.retryDelay f r.method retry = none) :
    c.deliver net r retry s = (.error f.error, s') := by
  rw [deliver, attempted]
  simp only [failed]
  split <;> simp_all

end Step

/-- A delivery over a script, from resend number `retry` on: the script's attempt counter agrees
with the resend counter, which stays within the policy, and each step of the delivery is one
attempt of `Attempts`. -/
theorem deliver_scripted (c : HttpConnection) (r : Request) (script : Nat → Exchange)
    (retry : UInt32) (s : Nat × Waits) (counted : s.1 = retry.toNat)
    (within : s.1 ≤ c.retry.maxRetries.toNat) :
    ∃ waits, (c.deliver (Network.scripted script) r retry s).2.2 = s.2 ++ waits ∧
      Attempts c r.method script s.1 (c.deliver (Network.scripted script) r retry s).2.1 waits
        (c.deliver (Network.scripted script) r retry s).1 := by
  -- induction along the resends: the counter of attempts and of resends move together
  induction retry, s using deliver.induct c (Network.scripted script) r with
  | case1 retry s x s' attempted resp answered =>
    rw [deliver_of_answered attempted answered]
    obtain ⟨rfl, rfl⟩ := Prod.mk.inj attempted
    refine ⟨[], by simp, Attempts.last within (fun other now => ?_) (fun f now => ?_)⟩
    · rw [answered] at now
      cases now
      rfl
    · rw [answered] at now
      cases now
  | case2 retry s x s' attempted f failed delay planned more =>
    rw [deliver_of_resent attempted failed planned]
    obtain ⟨rfl, rfl⟩ := Prod.mk.inj attempted
    obtain ⟨resendable, waited⟩ := retryDelay_eq_some_iff.mp planned
    have fresh := UInt32.lt_iff_toNat_lt.mp (RetryPolicy.nextBackoff_lt_maxRetries waited)
    have stepped := toNat_succ_of_retryDelay planned
    obtain ⟨waits, logged, rest⟩ := more (by simp [counted, stepped]) (by simp; omega)
    refine ⟨(s.1 + 1, delay) :: waits, by simpa using logged,
      Attempts.resend failed resendable ?_ rest⟩
    rw [counted, UInt32.ofNat_toNat]
    exact waited
  | case3 retry s x s' attempted f failed final =>
    rw [deliver_of_final attempted failed final]
    obtain ⟨rfl, rfl⟩ := Prod.mk.inj attempted
    refine ⟨[], by simp, Attempts.last within (fun resp now => ?_) (fun other now => ?_)⟩
    · rw [failed] at now
      cases now
    · rw [failed] at now
      cases now
      refine ⟨rfl, (retryDelay_eq_none_iff.mp final).imp_right fun spent => ?_⟩
      have := UInt32.le_iff_toNat_le.mp spent
      omega

/-- Over every sequence of outcomes of its attempts, a request is attempted at least once and at
most `maxRetries + 1` times; each attempt but the last failed in a way that allows a resend and
was followed by the policy's wait for it; the last attempt's answer, of any status, or its
failure's own error is the result. A POST or PATCH is sent again only after an attempt that
never connected. -/
theorem execute_attempts (c : HttpConnection) (r : Request) (script : Nat → Exchange)
    {result : Except Error Response} {tries : Nat} {waits : Waits}
    (ran : c.execute (Network.scripted script) r (0, []) = (result, tries, waits)) :
    Attempts c r.method script 0 tries waits result ∧
      (r.method = .post ∨ r.method = .patch →
        ∀ j, j + 1 < tries → ∃ e, script j = .sendFailed e ∧ e.isConnect = true) := by
  obtain ⟨logged, logged_eq, run⟩ :=
    deliver_scripted c r script 0 (0, []) rfl (Nat.zero_le _)
  rw [← execute, ran] at logged_eq run
  cases logged_eq
  exact ⟨run, fun once j late => run.resent_sendFailed once j (Nat.zero_le j) late⟩

/-- A POST that timed out after it was sent is not sent again, even under a policy with resends
left: the timeout of its one attempt is the result. -/
theorem execute_attempts_post_timeout :
    Attempts ⟨"http://localhost:8529/_db/shop", .fast, none⟩ .post
      (fun _ => .sendFailed { text := "operation timed out", isTimeout := true }) 0 1 []
      (.error (.timeout "operation timed out")) :=
  (execute_attempts ⟨"http://localhost:8529/_db/shop", .fast, none⟩
    { method := .post, path := "_api/document/users" } _
    (by rw [execute, deliver]; rfl)).1

end HttpConnection

end DocClient
