import DocClient.Proofs.Batch.Step

namespace DocClient

/-!
# Structural errors of batch calls

Every batch call checks its arguments before anything is sent: the documents must serialize,
and to an array, explicit keys must be as many as the documents, and every explicit key must
be valid.  The
first failing check, in that order and with the first refused key in key order, is the call's
error, answered at once with the world left as it was: no request was handed over and no sink
slot written.  A call whose arguments pass always goes on to its batch, and the batch reports
silence or one item per document.  A read of many documents is, past its key check, the reads
of each key in order.

The documents argument is what serializing it gives: its JSON value, or the serializer's
message, which the calls report before any other problem.
-/

namespace Key

/-- The refusal of a key by the key grammar, if it is refused. -/
def refusal (key : String) : Option Error :=
  match validate key with
  | .error e => some e
  | .ok () => none

theorem refusal_eq_none_iff (key : String) : refusal key = none <-> validate key = .ok () := by
  unfold refusal
  split <;> simp_all

/-- Checking keys one after another answers the refusal of the first refused key. -/
theorem forM_validate (keys : List String) :
    keys.forM validate = match keys.findSome? refusal with
      | some e => .error e
      | none => .ok () := by
  induction keys with
  | nil => rfl
  | cons key keys ih =>
      show (validate key >>= fun _ => keys.forM validate) = _
      rw [List.findSome?_cons]
      unfold refusal
      cases validate key with
      | error e => rfl
      | ok u => exact ih

end Key

/-- How many items a documents argument holds: those of the array it serializes to; one that does
not serialize, or serializes to another value, holds none. -/
def documentCount : Except String Json.Value -> Nat
  | .ok (.array items) => items.length
  | _ => 0

/-- The first structural problem with the documents of a batch and its explicit keys, in the
order of the checks: the documents must serialize, and to an array; explicit keys must be as
many as its items; and every explicit key must be valid, the first refused one in key order
being reported.  `what` names the documents in the messages. -/
def structuralProblem (what : String) (keys : Option (List String)) (docs : Except String Json.Value) :
    Option Error :=
  match docs with
  | .error msg => some (.invalidArgument ("failed to serialize " ++ what ++ ": " ++ msg))
  | .ok (.array items) =>
    match keys with
    | none => none
    | some ks =>
      if ks.length = items.length then ks.findSome? Key.refusal
      else some (.invalidArgument
        ("expected " ++ toString items.length ++ " keys, got " ++ toString ks.length))
  | .ok other => some (.invalidArgument (what ++ " data must be of kind Array, got " ++ other.kindName))

/-- The arguments of a batch have no structural problem exactly when the documents serialize to
an array and explicit keys, if given, are as many as its items and all valid. -/
theorem structuralProblem_eq_none_iff (what : String) (keys : Option (List String))
    (docs : Except String Json.Value) :
    structuralProblem what keys docs = none <->
      Exists fun items => docs = .ok (.array items) /\
        forall ks, keys = some ks -> ks.length = items.length /\ ∀ k ∈ ks, Key.validate k = .ok () := by
  rcases docs with msg | (_ | _ | _ | _ | items | _)
  case ok.array =>
      cases keys with
      | none => simp [structuralProblem]
      | some ks =>
          by_cases counted : ks.length = items.length
          · simp [structuralProblem, counted, List.findSome?_eq_none_iff, Key.refusal_eq_none_iff]
          · simp [structuralProblem, counted]
  all_goals simp [structuralProblem]

/-- The jobs of a batch as its checks build them: the first problem when there is one, else
one job per item. -/
def JobsFor (problem : Option Error) (count : Nat) (jobs : Except Error (List Job)) : Prop :=
  match problem with
  | some e => jobs = .error e
  | none => Exists fun js => jobs = .ok js /\ js.length = count

theorem jobsFor_created (docs : Except String Json.Value) (build : Json.Value -> Job) :
    JobsFor (structuralProblem "documents" none docs) (documentCount docs)
      ((arrayItems docs "documents").map fun items => items.map build) := by
  rcases docs with msg | (_ | _ | _ | _ | items | _)
  case ok.array => exact ⟨_, rfl, by simp [documentCount]⟩
  all_goals rfl

/-- Documents paired with explicit keys, or with their own keys, are checked in the order of
`structuralProblem`. -/
theorem jobsFor_keyed (what : String) (keys : Option (List String)) (docs : Except String Json.Value) :
    JobsFor (structuralProblem what keys docs) (documentCount docs)
      (arrayItems docs what >>= keyedJobs keys) := by
  rcases docs with msg | (_ | _ | _ | _ | items | _)
  case ok.array =>
      cases keys with
      | none => exact ⟨_, rfl, by simp [documentCount]⟩
      | some ks =>
          by_cases counted : ks.length = items.length
          · -- as many keys as items: the key check decides
            have checked : checkKeys ks items.length = ks.forM Key.validate := by
              simp [checkKeys, counted]
            simp only [structuralProblem, counted, if_true]
            show JobsFor _ _ (keyedJobs (some ks) items)
            unfold keyedJobs
            dsimp only
            rw [checked, Key.forM_validate]
            cases ks.findSome? Key.refusal with
            | some e => rfl
            | none => exact ⟨_, rfl, by simp [documentCount, counted]⟩
          · simp [JobsFor, structuralProblem, counted, keyedJobs, checkKeys, arrayItems, toBody,
              bind, Except.bind]
  all_goals rfl

theorem jobsFor_removed (keys : List String) (build : String -> Job) :
    JobsFor (keys.findSome? Key.refusal) keys.length
      ((keys.forM Key.validate).map fun () => keys.map build) := by
  rw [Key.forM_validate]
  cases keys.findSome? Key.refusal with
  | some e => rfl
  | none => exact ⟨_, rfl, by simp⟩

/-- A batch outcome that reports silence, or one item for each of `count` jobs. -/
def BatchOutcome.Fits (count : Nat) : BatchOutcome -> Prop
  | .silent => True
  | .items outcomes => outcomes.length = count

namespace Collection

variable {σ : Type} (link : Link σ) (w : World σ)

/-- What a batch call does, given the first structural problem of its arguments and how many
items they hold: with a problem it answers that problem at once and leaves the world as it was,
so nothing was sent and no sink written; without one, whatever it answers when it finishes is a
batch reporting silence or one item per document. -/
def Checked (problem : Option Error) (count : Nat)
    (run : Option (Except Error BatchOutcome) × World σ) : Prop :=
  match problem with
  | some e => run = (some (.error e), w)
  | none => forall r w', run = (some r, w') -> Exists fun b => r = .ok b /\ b.Fits count

theorem run_runChecked (c : Collection) (op : WriteOp) (jobs : Except Error (List Job))
    (cfg : CallConfig) :
    Op.run link w (c.runChecked op jobs cfg) = match jobs with
      | .error e => (some (.error e), w)
      | .ok js => match Op.run link w (c.runBatch op js cfg) with
        | (some b, w') => (some (.ok b), w')
        | (none, w') => (none, w') := by
  unfold runChecked
  cases jobs with
  | error e => rfl
  | ok js =>
      dsimp only
      rw [Op.run_bind]
      rcases Op.run link w (c.runBatch op js cfg) with ⟨_ | b, w'⟩ <;> rfl

variable {link w}

/-- A finished run of the loop records one item per job, after the items it started with.  By
induction on the jobs: a stop or a cut fills in the rest, a step that goes on records one. -/
theorem run_runJobs_length (c : Collection) (op : WriteOp) (cfg : CallConfig) :
    forall (jobs : List Job) (slot : Nat) (flag : Bool) (acc : List ItemOutcome) (w : World σ)
      {flag' : Bool} {outcomes : List ItemOutcome} {w' : World σ},
      Op.run link w (c.runJobs op cfg jobs slot flag acc) = (some (flag', outcomes), w') ->
      outcomes.length = acc.length + jobs.length
  | [], slot, flag, acc, w, _, _, _, finished => by
      rw [run_runJobs_nil] at finished
      cases finished
      simp
  | job :: jobs, slot, flag, acc, w, _, _, _, finished => by
      obtain ⟨st, w₁, _, after⟩ := run_runJobs_cons_some finished
      cases st with
      | stop =>
          -- the rest of the jobs are not attempted
          obtain ⟨rfl, rfl, rfl⟩ := after
          simp only [List.length_append, List.length_reverse, List.length_map]
      | cut =>
          -- the job failed, and the ones after it are not attempted
          obtain ⟨rfl, rfl, rfl⟩ := after
          simp only [List.length_append, List.length_reverse, List.length_cons, List.length_map]
          omega
      | next o s =>
          have recorded := run_runJobs_length c op cfg jobs (slot + 1) _ (o :: acc) w₁ after
          simp only [List.length_cons] at recorded ⊢
          omega

theorem run_runBatch_fits {c : Collection} {op : WriteOp} {jobs : List Job} {cfg : CallConfig}
    {b : BatchOutcome} {w' : World σ}
    (finished : Op.run link w (c.runBatch op jobs cfg) = (some b, w')) : b.Fits jobs.length := by
  obtain ⟨flag, outcomes, ran, rfl⟩ := run_runBatch_some finished
  cases flag
  · have recorded := run_runJobs_length c op cfg jobs 0 false [] w ran
    simpa [BatchOutcome.Fits] using recorded
  · trivial

/-- A batch over jobs checked as `JobsFor` says does what `Checked` says. -/
theorem checked_runChecked {problem : Option Error} {count : Nat}
    {jobs : Except Error (List Job)} (built : JobsFor problem count jobs) (c : Collection)
    (op : WriteOp) (cfg : CallConfig) :
    Checked w problem count (Op.run link w (c.runChecked op jobs cfg)) := by
  unfold Checked
  unfold JobsFor at built
  rw [run_runChecked]
  split
  · rw [built]
  · obtain ⟨js, rfl, counted⟩ := built
    intro r w' finished
    dsimp only at finished
    rcases ran : Op.run link w (c.runBatch op js cfg) with ⟨_ | b, w₁⟩
    · rw [ran] at finished
      cases finished
    rw [ran] at finished
    cases finished
    exact ⟨b, rfl, counted ▸ run_runBatch_fits ran⟩

/-- Structural errors of the batch calls are atomic.  Creating, updating and replacing many
documents, and removing many, answer the first structural problem of their arguments at once
(documents that do not serialize or not to an array, then the number of explicit keys, then
the first refused key),
with the world as it was: nothing sent, no sink written; with no problem, whatever they answer
when they finish is a batch reporting silence or one item per document or key.  Reading many
documents answers its first refused key the same way; with none, it is the reads of the keys in
order, one result per key. -/
theorem batch_structural_errors_atomic (c : Collection) (cfg : CallConfig)
    (keys : Option (List String)) (docs : Except String Json.Value) (keyList : List String)
    (shape : Shape) :
    Checked w (structuralProblem "documents" none docs) (documentCount docs)
      (Op.run link w (c.createMany docs cfg)) /\
    Checked w (structuralProblem "updates" keys docs) (documentCount docs)
      (Op.run link w (c.updateMany keys docs cfg)) /\
    Checked w (structuralProblem "documents" keys docs) (documentCount docs)
      (Op.run link w (c.replaceMany keys docs cfg)) /\
    Checked w (keyList.findSome? Key.refusal) keyList.length
      (Op.run link w (c.removeMany keyList cfg)) /\
    match keyList.findSome? Key.refusal with
    | some e => Op.run link w (c.readMany shape keyList) = (some (.error e), w)
    | none => forall r w', Op.run link w (c.readMany shape keyList) = (some r, w') ->
        Exists fun results => r = .ok results /\ results.length = keyList.length /\
          Op.run link w (keyList.mapM (c.read shape)) = (some results, w') := by
  refine ⟨checked_runChecked (jobsFor_created docs _) c .create cfg,
    checked_runChecked (jobsFor_keyed "updates" keys docs) c .update cfg,
    checked_runChecked (jobsFor_keyed "documents" keys docs) c .replace cfg,
    checked_runChecked (jobsFor_removed keyList _) c .remove cfg, ?_⟩
  -- reading many: the key check first, then the reads in order
  unfold readMany
  rw [Key.forM_validate]
  cases keyList.findSome? Key.refusal with
  | some e => rfl
  | none =>
    intro r w' finished
    dsimp only at finished
    rw [Op.run_bind] at finished
    rcases read : Op.run link w (keyList.mapM (c.read shape)) with ⟨_ | results, w₁⟩
    · rw [read] at finished
      cases finished
    rw [read] at finished
    cases finished
    exact ⟨results, rfl, Op.run_mapM_length read, rfl⟩

end Collection

end DocClient
