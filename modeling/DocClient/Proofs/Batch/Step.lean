import DocClient.Collection.Batch
import DocClient.Proofs.Write

namespace DocClient

/-!
# One step of a batch

The loop of a batch handles one job at a time.  It looks at the cancel handle and stops if
the handle is set; otherwise it records what the job came to: the error of a key that could
not be found, or the answer of the job's single-document write at the job's own slot, unless
the write went out silently.  A write that fails with `cancelled` ends the batch after it.

`Collection.batchStep` is that one step on its own, and `run_runJobs_cons` says the loop is
the step followed by the loop over the remaining jobs.  `run_batchStep` runs a step as its
look followed by the job's write, and `recordWrite` is what the step makes of the write's
answer.  `StepEffect` says everything a
finished step can have done, `Reaches` names the jobs the loop gets to: those before which
every step went on and the look at the handle found it unset, and `Arrives` names the world
the loop is in when it comes to a job.  The theorems about whole batches
(`runBatch_refines_writeItems`, `runBatch_cut_by_cancel`, `runBatch_silent_iff_prepared`,
`runBatch_fills_own_slots`) are inductions over the job list built from these.
-/

/-- How one step of a batch ends. -/
inductive BatchStep where
  /-- The loop found the cancel handle set before the job: the batch stops. -/
  | stop
  /-- The job's write failed with `cancelled`: the batch records that and stops. -/
  | cut
  /-- The job is recorded as `outcome`; `silent` says whether its request went out under
  silent settings. -/
  | next (outcome : ItemOutcome) (silent : Bool)

namespace Collection

variable {σ : Type}

/-- Whether a job gets through preparation: its key was found and, with its body, passes the
checks of the write. -/
def prepares (c : Collection) (op : WriteOp) (job : Job) : Bool :=
  match job.key with
  | .ok key => (c.prepare op key job.body).isOk
  | .error _ => false

/-- The request a job's write sends, when the job gets through preparation. -/
def jobRequest (c : Collection) (op : WriteOp) (cfg : CallConfig) (job : Job) : Option Request :=
  match job.key with
  | .ok key => c.outgoing op key job.body cfg
  | .error _ => none

/-- One step of the batch loop, for the job at `slot`. -/
def batchStep (c : Collection) (op : WriteOp) (cfg : CallConfig) (job : Job) (slot : Nat) :
    Op σ BatchStep := do
  if ← Op.isCancelled cfg then return .stop
  match job.key with
  | .error e => return .next (.failed e) false
  | .ok key =>
    let (settings, result) ← c.writeOne op key job.body cfg slot
    if settings.any (·.silent) then return .next .notAttempted true
    else match result with
      | .ok m => return .next (.done m) false
      | .error .cancelled => return .cut
      | .error e => return .next (.failed e) false

/-- What a step records for a job whose write answered `settings` and `result`: only the
silence when the write went out silently, else the write's answer, where `cancelled` cuts the
batch. -/
def recordWrite (settings : Option ContextSettings) (result : Except Error DocumentMeta) :
    BatchStep :=
  if settings.any (·.silent) then .next .notAttempted true
  else match result with
    | .ok m => .next (.done m) false
    | .error .cancelled => .cut
    | .error e => .next (.failed e) false

section Record

variable {settings : Option ContextSettings}

theorem recordWrite_of_silent (silent : settings.any (·.silent) = true)
    (result : Except Error DocumentMeta) : recordWrite settings result = .next .notAttempted true := by
  simp [recordWrite, silent]

theorem recordWrite_ok (loud : settings.any (·.silent) = false) (m : DocumentMeta) :
    recordWrite settings (.ok m) = .next (.done m) false := by
  simp [recordWrite, loud]

theorem recordWrite_error (loud : settings.any (·.silent) = false) {e : Error}
    (other : e ≠ .cancelled) : recordWrite settings (.error e) = .next (.failed e) false := by
  simp only [recordWrite, loud, Bool.false_eq_true, if_false]

end Record

variable (link : Link σ) (w : World σ)

/-- A step looks at the handle, and unless it is set, records the key's error or what the
job's write answered. -/
theorem run_batchStep (c : Collection) (op : WriteOp) (cfg : CallConfig) (job : Job)
    (slot : Nat) :
    Op.run link w (c.batchStep op cfg job slot) = match Op.run link w (Op.isCancelled cfg) with
      | (some true, w₁) => (some .stop, w₁)
      | (some false, w₁) => match job.key with
        | .error e => (some (.next (.failed e) false), w₁)
        | .ok key => match Op.run link w₁ (c.writeOne op key job.body cfg slot) with
          | (some (settings, result), w₂) => (some (recordWrite settings result), w₂)
          | (none, w₂) => (none, w₂)
      | (none, w₁) => (none, w₁) := by
  unfold batchStep
  rw [Op.run_bind]
  rcases Op.run link w (Op.isCancelled cfg) with ⟨_ | _ | _, w₁⟩
  · rfl
  · simp only [Bool.false_eq_true, if_false]
    cases job.key with
    | error e => rfl
    | ok key =>
        simp only
        rw [Op.run_bind]
        rcases Op.run link w₁ (c.writeOne op key job.body cfg slot) with
          ⟨_ | ⟨settings, result⟩, w₂⟩
        · rfl
        · simp only [recordWrite]
          cases settings.any (·.silent)
          · simp only [Bool.false_eq_true, if_false]
            rcases result with (_ | _ | _ | _ | _ | _ | _ | _ | _ | _ | _) | m <;> rfl
          · rfl
  · rfl

/-- The loop is one step followed by the loop over the remaining jobs. -/
theorem run_runJobs_cons (c : Collection) (op : WriteOp) (cfg : CallConfig) (job : Job)
    (rest : List Job) (slot : Nat) (silent : Bool) (acc : List ItemOutcome) :
    Op.run link w (c.runJobs op cfg (job :: rest) slot silent acc) =
      match Op.run link w (c.batchStep op cfg job slot) with
      | (some .stop, w') =>
        (some (silent, acc.reverse ++ (job :: rest).map fun _ => .notAttempted), w')
      | (some .cut, w') =>
        (some (silent, (.failed .cancelled :: acc).reverse ++ rest.map fun _ => .notAttempted), w')
      | (some (.next o s), w') =>
        Op.run link w' (c.runJobs op cfg rest (slot + 1) (silent || s) (o :: acc))
      | (none, w') => (none, w') := by
  unfold batchStep
  rw [runJobs, Op.run_bind, Op.run_bind]
  rcases Op.run link w (Op.isCancelled cfg) with ⟨_ | _ | _, w₁⟩
  · rfl
  · simp only [Bool.false_eq_true, if_false]
    cases job.key with
    | error e => simp only [Op.run_pure, Bool.or_false]
    | ok key =>
      simp only
      rw [Op.run_bind, Op.run_bind]
      rcases Op.run link w₁ (c.writeOne op key job.body cfg slot) with
        ⟨_ | ⟨settings, result⟩, w₂⟩
      · rfl
      · simp only
        split
        · simp only [Op.run_pure, Bool.or_true]
        · -- only `cancelled` ends the batch; every other answer is recorded and the loop goes on
          rcases result with (_ | _ | _ | _ | _ | _ | _ | _ | _ | _ | _) | m <;>
            simp only [Op.run_pure, Bool.or_false]
  · rfl

@[simp] theorem run_runJobs_nil (c : Collection) (op : WriteOp) (cfg : CallConfig) (slot : Nat)
    (silent : Bool) (acc : List ItemOutcome) :
    Op.run link w (c.runJobs op cfg [] slot silent acc) = (some (silent, acc.reverse), w) := rfl

/-- A batch is its loop from the first slot, collapsed to `silent` when an item went out
silently. -/
theorem run_runBatch (c : Collection) (op : WriteOp) (jobs : List Job) (cfg : CallConfig) :
    Op.run link w (c.runBatch op jobs cfg) = match Op.run link w (c.runJobs op cfg jobs 0 false []) with
      | (some (silent, outcomes), w') => (some (if silent then .silent else .items outcomes), w')
      | (none, w') => (none, w') := by
  unfold runBatch
  rw [Op.run_bind]
  rcases Op.run link w (c.runJobs op cfg jobs 0 false []) with ⟨_ | ⟨silent, outcomes⟩, w'⟩ <;> rfl

/-- Everything a finished step can have done, by how it ended.  A stop found the handle set
and sent nothing.  A cut found it unset, happens only under a call that is not silent, sent at
most the job's request, and that only when the send's own look, made after the loop's, found
the handle unset; and it leaves the handle attached and set.  A step that goes on found
the handle unset; it went out silently exactly when the call is silent and the job was
prepared; a job that was not prepared is recorded as its failure; a step that did not go out
silently records an answer other than `cancelled` and sent exactly the job's request; and a
set handle stays set. -/
def StepEffect (c : Collection) (op : WriteOp) (cfg : CallConfig) (job : Job) (w w' : World σ) :
    BatchStep -> Prop
  | .stop => (Op.run link w (Op.isCancelled cfg)).1 = some true /\ cfg.cancel = true /\
      w'.cancelled = true /\ w'.sent = w.sent
  | .cut => (Op.run link w (Op.isCancelled cfg)).1 = some false /\ cfg.silent = false /\
      cfg.cancel = true /\ w'.cancelled = true /\
      Exists fun extra => w'.sent = w.sent ++ extra /\ extra.Sublist (c.jobRequest op cfg job).toList /\
        (extra ≠ [] -> ((Op.run link w (Op.isCancelled cfg)).2.look link).cancelled = false)
  | .next o s => (Op.run link w (Op.isCancelled cfg)).1 = some false /\
      s = (cfg.silent && c.prepares op job) /\
      (c.prepares op job = false -> Exists fun e => o = .failed e) /\
      (s = true -> o = .notAttempted) /\
      (s = false -> o ≠ .notAttempted /\ o ≠ .failed .cancelled /\
        w'.sent = w.sent ++ (c.jobRequest op cfg job).toList) /\
      (w.cancelled = true -> w'.cancelled = true)

/-- `c.Reaches link op cfg w jobs slot j`: the batch loop, about to handle `jobs` from `slot`
on in the world `w`, gets to the `j`-th of them.  Every step before it goes on, and the look at
the cancel handle before it finds the handle unset. -/
inductive Reaches (c : Collection) (op : WriteOp) (cfg : CallConfig) :
    World σ -> List Job -> Nat -> Nat -> Prop
  | here {w : World σ} {jobs : List Job} {slot : Nat}
      (unset : (Op.run link w (Op.isCancelled cfg)).1 = some false) :
      Reaches c op cfg w jobs slot 0
  | next {w w' : World σ} {job : Job} {jobs : List Job} {slot j : Nat} {o : ItemOutcome}
      {s : Bool} (step : Op.run link w (c.batchStep op cfg job slot) = (some (.next o s), w'))
      (later : Reaches c op cfg w' jobs (slot + 1) j) :
      Reaches c op cfg w (job :: jobs) slot (j + 1)

/-- `c.Arrives link op cfg w jobs slot j wj`: the batch loop, about to handle `jobs` from `slot`
on in the world `w`, comes to the `j`-th of them in the world `wj`, before it looks at the
cancel handle for that job.  Every step before it goes on. -/
inductive Arrives (c : Collection) (op : WriteOp) (cfg : CallConfig) :
    World σ -> List Job -> Nat -> Nat -> World σ -> Prop
  | here {w : World σ} {jobs : List Job} {slot : Nat} : Arrives c op cfg w jobs slot 0 w
  | next {w w' wj : World σ} {job : Job} {jobs : List Job} {slot j : Nat} {o : ItemOutcome}
      {s : Bool} (step : Op.run link w (c.batchStep op cfg job slot) = (some (.next o s), w'))
      (later : Arrives c op cfg w' jobs (slot + 1) j wj) :
      Arrives c op cfg w (job :: jobs) slot (j + 1) wj

variable {link w}

/-- A finished loop over a job took a finished step, and then either ended with it, filling in
the items left, or went on with the remaining jobs. -/
theorem run_runJobs_cons_some {c : Collection} {op : WriteOp} {cfg : CallConfig} {job : Job}
    {rest : List Job} {slot : Nat} {silent : Bool} {acc : List ItemOutcome} {silent' : Bool}
    {outcomes : List ItemOutcome} {w' : World σ}
    (finished : Op.run link w (c.runJobs op cfg (job :: rest) slot silent acc) =
      (some (silent', outcomes), w')) :
    Exists fun st => Exists fun w₁ => Op.run link w (c.batchStep op cfg job slot) = (some st, w₁) /\
      match st with
      | .stop => silent' = silent /\
          outcomes = acc.reverse ++ (job :: rest).map (fun _ => .notAttempted) /\ w' = w₁
      | .cut => silent' = silent /\
          outcomes = (.failed .cancelled :: acc).reverse ++ rest.map (fun _ => .notAttempted) /\
          w' = w₁
      | .next o s =>
          Op.run link w₁ (c.runJobs op cfg rest (slot + 1) (silent || s) (o :: acc)) =
            (some (silent', outcomes), w') := by
  rw [run_runJobs_cons] at finished
  rcases stepped : Op.run link w (c.batchStep op cfg job slot) with ⟨_ | st, w₁⟩ <;>
    rw [stepped] at finished
  · cases finished
  · refine ⟨st, w₁, rfl, ?_⟩
    cases st with
    | stop =>
        cases finished
        exact ⟨rfl, rfl, rfl⟩
    | cut =>
        cases finished
        exact ⟨rfl, rfl, rfl⟩
    | next o s => exact finished

/-- A finished batch is a finished loop from the first slot, reported as silence when an item
went out silently. -/
theorem run_runBatch_some {c : Collection} {op : WriteOp} {jobs : List Job} {cfg : CallConfig}
    {b : BatchOutcome} {w' : World σ}
    (finished : Op.run link w (c.runBatch op jobs cfg) = (some b, w')) :
    Exists fun silent => Exists fun outcomes =>
      Op.run link w (c.runJobs op cfg jobs 0 false []) = (some (silent, outcomes), w') /\
      b = if silent then .silent else .items outcomes := by
  rw [run_runBatch] at finished
  rcases ran : Op.run link w (c.runJobs op cfg jobs 0 false []) with
    ⟨_ | ⟨silent, outcomes⟩, w₁⟩ <;> rw [ran] at finished
  · cases finished
  · cases finished
    exact ⟨silent, outcomes, rfl, rfl⟩

variable {c : Collection} {op : WriteOp} {cfg : CallConfig}

theorem reaches_zero_iff {jobs : List Job} {slot : Nat} :
    c.Reaches link op cfg w jobs slot 0 <-> (Op.run link w (Op.isCancelled cfg)).1 = some false := by
  constructor
  · intro reach
    cases reach with
    | here unset => exact unset
  · exact Reaches.here

/-- After a step that goes on, the jobs the loop gets to are those it gets to from the next
world. -/
theorem reaches_succ_iff_of_next {job : Job} {jobs : List Job} {slot j : Nat} {o : ItemOutcome}
    {s : Bool} {w' : World σ}
    (step : Op.run link w (c.batchStep op cfg job slot) = (some (.next o s), w')) :
    c.Reaches link op cfg w (job :: jobs) slot (j + 1) <-> c.Reaches link op cfg w' jobs (slot + 1) j := by
  constructor
  · intro reach
    cases reach with
    | next other later =>
        rw [step] at other
        cases other
        exact later
  · exact Reaches.next step

/-- A step that stops the batch or cuts it leaves no later job to get to. -/
theorem not_reaches_succ_of_ends {job : Job} {jobs : List Job} {slot j : Nat} {st : BatchStep}
    {w' : World σ} (step : Op.run link w (c.batchStep op cfg job slot) = (some st, w'))
    (ends : forall o s, st ≠ .next o s) : ¬ c.Reaches link op cfg w (job :: jobs) slot (j + 1) := by
  intro reach
  cases reach with
  | next other _ =>
      rw [step] at other
      cases other
      exact ends _ _ rfl

/-- A batch that stops before a job gets to none of the jobs. -/
theorem not_reaches_of_stop {job : Job} {jobs : List Job} {slot : Nat} {w' : World σ}
    (set : (Op.run link w (Op.isCancelled cfg)).1 = some true)
    (step : Op.run link w (c.batchStep op cfg job slot) = (some .stop, w')) (j : Nat) :
    ¬ c.Reaches link op cfg w (job :: jobs) slot j := by
  cases j with
  | zero =>
      rw [reaches_zero_iff, set]
      simp
  | succ j => exact not_reaches_succ_of_ends step (fun _ _ => by simp)

end Collection

end DocClient
