import DocClient.Proofs.Batch.Step

namespace DocClient

/-!
# A batch refines its single-document writes

When the cancel handle is never set and the connection answers every request, a batch is
exactly its jobs written one after another, each as the single-document write it stands for at
its own slot (`Collection.writeItem`): the items are those answers in job order, a job whose key
could not be found fails alone without a request, and no job is left unattempted.  A failing
item never stops the batch.

The run lemma `run_runJobs_of_calm` also holds under a silent call, where it says which
requests go out; the silent collapse itself is treated in `Batch.Silent`.
-/

namespace Collection

variable {σ : Type}

/-- A job as the single-document write it stands for, at its own slot: a job whose key could
not be found fails with that error and sends nothing; any other is written, and its outcome is
the write's answer. -/
def writeItem (c : Collection) (op : WriteOp) (cfg : CallConfig) (job : Job) (slot : Nat) :
    Op σ ItemOutcome :=
  match job.key with
  | .error e => return .failed e
  | .ok key => do
    let (_, result) ← c.writeOne op key job.body cfg slot
    return match result with
      | .ok m => .done m
      | .error e => .failed e

variable {link : Link σ} {w : World σ} {cfg : CallConfig}

/-- When the handle is never set and the connection always answers, a step goes on with the
job's single-document write: it records the write's outcome, or only the silence when the call
is silent and the job was prepared, sends exactly the job's request, and the handle is still
never set after it. -/
theorem run_batchStep_of_calm (calm : link.Calm w cfg) (answers : link.Answers) (c : Collection)
    (op : WriteOp) (job : Job) (slot : Nat) :
    Exists fun o => Exists fun w' =>
      Op.run link w (c.writeItem op cfg job slot) = (some o, w') /\
      Op.run link w (c.batchStep op cfg job slot) =
        (some (.next (if cfg.silent && c.prepares op job then .notAttempted else o)
          (cfg.silent && c.prepares op job)), w') /\
      o ≠ .notAttempted /\ w'.sent = w.sent ++ (c.jobRequest op cfg job).toList /\
      link.Calm w' cfg := by
  unfold writeItem prepares jobRequest
  rw [run_batchStep, Op.run_isCancelled_of_calm calm]
  cases job.key with
  | error e =>
      exact ⟨.failed e, w, rfl, by simp, by simp, by simp, calm⟩
  | ok key =>
      obtain ⟨settings, m, w', written, other, sent, calm', silentSettings⟩ :=
        run_writeOne_of_calm calm answers c op key job.body slot
      dsimp only
      rw [written, Op.run_bind, written]
      refine ⟨_, w', rfl, ?_, by split <;> simp, by rw [sent], calm'⟩
      dsimp only
      rw [← silentSettings]
      cases silentWrite : settings.any (·.silent)
      · -- a write that is not silent is recorded as its answer, never as `cancelled`
        rcases m with e | info
        · have notCancelled : e ≠ .cancelled := fun same => other (by rw [same])
          rw [recordWrite_error silentWrite notCancelled]
          rfl
        · rw [recordWrite_ok silentWrite]
          rfl
      · rw [recordWrite_of_silent silentWrite]
        rfl

/-- A run of the loop under a handle that is never set and a connection that always answers:
it finishes after writing every job in order, sending exactly the requests of the jobs that get
through preparation; under a call that is not silent its items are the single-document answers. -/
theorem run_runJobs_of_calm (answers : link.Answers) (c : Collection) (op : WriteOp) :
    forall (jobs : List Job) (slot : Nat) (silent : Bool) (acc : List ItemOutcome) (w : World σ),
      link.Calm w cfg ->
      Exists fun v => Exists fun w' => Exists fun flag => Exists fun outcomes =>
        Op.run link w ((jobs.zipIdx slot).mapM fun (job, i) => c.writeItem op cfg job i) =
          (some v, w') /\
        Op.run link w (c.runJobs op cfg jobs slot silent acc) = (some (flag, outcomes), w') /\
        v.length = jobs.length /\ .notAttempted ∉ v /\
        w'.sent = w.sent ++ jobs.filterMap (c.jobRequest op cfg) /\
        (cfg.silent = false -> flag = silent /\ outcomes = acc.reverse ++ v)
  | [], slot, silent, acc, w, _ =>
      ⟨[], w, silent, acc.reverse, rfl, rfl, rfl, by simp, by simp, fun _ => ⟨rfl, by simp⟩⟩
  | job :: rest, slot, silent, acc, w, calm => by
      obtain ⟨o, w₁, written, stepped, answered, sent₁, calm₁⟩ :=
        run_batchStep_of_calm calm answers c op job slot
      obtain ⟨v, w', flag, outcomes, writtenRest, ranRest, length, notSkipped, sent, loud⟩ :=
        run_runJobs_of_calm answers c op rest (slot + 1) _ (_ :: acc) w₁ calm₁
      refine ⟨o :: v, w', flag, outcomes, ?_, ?_, by simp [length], ?_, ?_, ?_⟩
      · rw [List.zipIdx_cons, List.mapM_cons, Op.run_bind, written]
        dsimp only
        rw [Op.run_bind, writtenRest]
        rfl
      · rw [run_runJobs_cons, stepped]
        exact ranRest
      · simp only [List.mem_cons, not_or]
        exact ⟨fun same => answered same.symm, notSkipped⟩
      · rw [sent, sent₁]
        cases requested : c.jobRequest op cfg job <;> simp [requested]
      · intro loudCall
        obtain ⟨sameFlag, sameOutcomes⟩ := loud loudCall
        refine ⟨by simpa [loudCall] using sameFlag, ?_⟩
        rw [sameOutcomes]
        simp [loudCall]

/-- A batch under a call that is not silent, whose cancel handle is never set, over a connection
that answers every request and never with `cancelled`, is its jobs written one after another:
it answers the items of the single-document writes of its jobs at their own slots, in job order
and in the same final world, one item per job and none unattempted, and it sends exactly the
requests of the jobs that get through preparation, in order. -/
theorem runBatch_refines_writeItems (c : Collection) (op : WriteOp) (jobs : List Job)
    (loud : cfg.silent = false) (calm : link.Calm w cfg) (answers : link.Answers) :
    Exists fun v => Exists fun w' =>
      Op.run link w (c.runBatch op jobs cfg) = (some (.items v), w') /\
      Op.run link w (jobs.zipIdx.mapM fun (job, i) => c.writeItem op cfg job i) = (some v, w') /\
      v.length = jobs.length /\ .notAttempted ∉ v /\
      w'.sent = w.sent ++ jobs.filterMap (c.jobRequest op cfg) := by
  obtain ⟨v, w', flag, outcomes, written, ran, length, notSkipped, sent, loudRun⟩ :=
    run_runJobs_of_calm answers c op jobs 0 false [] w calm
  obtain ⟨rfl, items⟩ := loudRun loud
  refine ⟨v, w', ?_, written, length, notSkipped, sent⟩
  rw [run_runBatch, ran, items]
  simp

/-- Two updates over a connection that accepts everything, the second without a key: both are
written in order, and only the first sends a request. -/
theorem runBatch_refines_writeItems_accepting :
    let c : Collection := ⟨"users", .document⟩
    let jobs : List Job :=
      [⟨.ok (some "a"), some (.object [])⟩, ⟨.error (.invalidArgument "no key"), some (.object [])⟩]
    let cfg : CallConfig := { cancel := true }
    let link : Link Unit := Link.answering (.ok ⟨202, []⟩)
    let w : World Unit := { line := () }
    Exists fun v => Exists fun w' =>
      Op.run link w (c.runBatch .update jobs cfg) = (some (.items v), w') /\
      Op.run link w (jobs.zipIdx.mapM fun (job, i) => c.writeItem .update cfg job i) =
        (some v, w') /\
      v.length = jobs.length /\ .notAttempted ∉ v /\
      w'.sent = w.sent ++ jobs.filterMap (c.jobRequest .update cfg) :=
  runBatch_refines_writeItems _ _ _ rfl (fun _ => ⟨rfl, Link.answering_quiet _⟩)
    (Link.answering_answers (by intro same; cases same))

end Collection

end DocClient
