import DocClient.Proofs.Batch.Step

namespace DocClient

/-!
# Cancelling a batch

The cancel handle of a call may be fired at any moment of a batch: by the world around the
connection before any look at it, or by the connection along with a request.  However it is
timed, a batch that is not silent is cut at one point.  Its items are answered items, then at
most one item that gave up while in flight, then items never attempted; the loop gets to
exactly the jobs before the cut and the one cut; and the requests sent are those of the
answered jobs, in order, then at most the request of the one cut, and that one only when the
send's own look at the handle, made after the loop's look at that job, found it unset.  So no
request goes out after the run has found the handle set, and when the handle is still unset
at the end, every item was answered.

The jobs here have keys that are found or missing for a reason other than cancellation, which
is what the builders of a batch produce (`keyedJobs_key_ne_cancelled`).
-/

namespace Json.Value

theorem documentKey_ne_cancelled (v : Value) : v.documentKey ≠ .error .cancelled := by
  unfold documentKey
  split
  · split <;> simp
  · simp

end Json.Value

theorem keyedJobs_key_ne_cancelled {keys : Option (List String)} {items : List Json.Value}
    {jobs : List Job} (built : keyedJobs keys items = .ok jobs) :
    ∀ job ∈ jobs, job.key ≠ .error .cancelled := by
  unfold keyedJobs at built
  cases keys with
  | some ks =>
      -- explicit keys: every job's key is found
      simp only [bind, Except.bind] at built
      split at built
      · cases built
      · cases built
        intro job member
        obtain ⟨_, _, rfl⟩ := List.mem_map.mp member
        simp
  | none =>
      -- keys taken from the documents: a missing key is the document's own refusal
      cases built
      intro job member
      obtain ⟨item, _, rfl⟩ := List.mem_map.mp member
      intro same
      cases extracted : item.documentKey with
      | error e =>
          rw [extracted] at same
          cases same
          exact item.documentKey_ne_cancelled extracted
      | ok k =>
          rw [extracted] at same
          cases same

namespace Collection

variable {σ : Type} (link : Link σ)

/-- The shape of a batch run that is not silent, cut by its cancel handle, as items
`pre ++ mid ++ rest`: the `pre` items were answered, with anything but `cancelled`; `mid` is
empty or the one item that gave up in flight; the `rest` were never attempted.  The loop, started
in `w` at `slot`, gets to exactly the jobs of `pre` and `mid`; the requests that went out, up to
the world `w'`, are those of the jobs of `pre` in order, then at most that of the job of `mid`,
which went out only when, in the world the loop came to that job in, the send's own look at the
handle after the loop's found it unset; and a cut or a stop happens only with the handle
attached and set at the end. -/
structure CutRun (c : Collection) (op : WriteOp) (cfg : CallConfig) (w w' : World σ)
    (jobs : List Job) (slot : Nat) (pre mid rest : List ItemOutcome) : Prop where
  length : pre.length + mid.length + rest.length = jobs.length
  answered : ∀ o ∈ pre, o ≠ .notAttempted /\ o ≠ .failed .cancelled
  cut : mid = [] \/ mid = [.failed .cancelled]
  unattempted : ∀ o ∈ rest, o = .notAttempted
  reaches : ∀ j < jobs.length, c.Reaches link op cfg w jobs slot j <-> j < pre.length + mid.length
  sent : Exists fun extra =>
    extra.Sublist (((jobs.drop pre.length).take mid.length).filterMap (c.jobRequest op cfg)) /\
    w'.sent = w.sent ++ (jobs.take pre.length).filterMap (c.jobRequest op cfg) ++ extra /\
    (extra ≠ [] -> Exists fun wc => c.Arrives link op cfg w jobs slot pre.length wc /\
      ((Op.run link wc (Op.isCancelled cfg)).2.look link).cancelled = false)
  set : mid ++ rest ≠ [] -> cfg.cancel = true /\ w'.cancelled = true

variable {link} {c : Collection} {op : WriteOp} {cfg : CallConfig}

/-- A job answered before the cut joins the answered items of the rest of the run. -/
theorem CutRun.cons {w w₁ w' : World σ} {job : Job} {jobs : List Job} {slot : Nat}
    {o : ItemOutcome} {pre mid rest : List ItemOutcome}
    (step : Op.run link w (c.batchStep op cfg job slot) = (some (.next o false), w₁))
    (effect : c.StepEffect link op cfg job w w₁ (.next o false))
    (later : c.CutRun link op cfg w₁ w' jobs (slot + 1) pre mid rest) :
    c.CutRun link op cfg w w' (job :: jobs) slot (o :: pre) mid rest := by
  obtain ⟨unset, _, _, _, answered, _⟩ := effect
  obtain ⟨notSkipped, notCancelled, sent₁⟩ := answered rfl
  obtain ⟨extra, within, sent, checked⟩ := later.sent
  refine ⟨by simp [← later.length]; omega, ?_, later.cut, later.unattempted, ?_,
    ⟨extra, ?_, ?_, ?_⟩, later.set⟩
  · intro o' member
    rcases List.mem_cons.mp member with rfl | member
    · exact ⟨notSkipped, notCancelled⟩
    · exact later.answered o' member
  · intro j bound
    cases j with
    | zero => exact iff_of_true (Reaches.here unset) (by simp only [List.length_cons]; omega)
    | succ j =>
        rw [reaches_succ_iff_of_next step, later.reaches j (by simpa using bound)]
        simp only [List.length_cons]
        omega
  · simpa using within
  · rw [sent, sent₁]
    cases requested : c.jobRequest op cfg job <;> simp [requested]
  · -- the cut job comes one step later from here than from the next world
    intro nonempty
    obtain ⟨wc, arrives, sendLook⟩ := checked nonempty
    exact ⟨wc, Arrives.next step arrives, sendLook⟩

end Collection

end DocClient
