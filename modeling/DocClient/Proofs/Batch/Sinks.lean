import DocClient.Proofs.Batch.Step
import DocClient.Proofs.Answer
import DocClient.Session.Script

namespace DocClient

/-!
# Sinks of a batch

Each item of a batch uses its own index as the slot of the versions its write returns.  Only
reading an answer writes a sink, so an item fills its slot exactly as the receipt of its own
response says, and no other slot: looking at the cancel handle and sending leave the sinks
alone, and an item that got no response (refused before its request, given up, or failed in
the connection) stores nothing.

`Responds` names the response an item of a batch got: the loop gets to the item, the item is
prepared, and its request is answered with that response.  There is at most one.  The run
lemmas say what a whole loop leaves in each sink (`run_runJobs_sink`) and what it records
for each item (`run_runJobs_done`), both in terms of the items' responses, and
`runBatch_fills_own_slots` puts them together: under a call that is not silent and with empty
sinks, the new-version sink holds exactly the slots of the items that succeeded, each with the
new version of that item's own response, and the old-version sink exactly the slots of the
items whose response was accepted with its metadata and its old version decoded.  A silent
batch writes no slot, a creation never writes the old-version sink, and a removal never the
new-version one.

The two sinks of a world are distinct, so the versions of one never land in the other.
-/

/-! ## Only reading writes the sinks -/

namespace Op

variable {σ : Type} (link : Link σ) (w : World σ)

theorem run_isCancelled_sink (cfg : CallConfig) (e : Envelope) :
    (Op.run link w (isCancelled cfg)).2.sink e = w.sink e := by
  rw [run_isCancelled]
  split <;> simp

/-- Sending leaves the sinks as they were, however it ends. -/
theorem run_send_sink (cfg : CallConfig) (r : Request) (e : Envelope) :
    (Op.run link w (send cfg r)).2.sink e = w.sink e := by
  rw [run_send]
  split
  · split
    · simp
    · have kept := World.handOver_sink (w.look link) link r e
      rcases handed : (w.look link).handOver link r with ⟨_ | _, w₁⟩ <;> rw [handed] at kept
      · simpa using kept
      · dsimp only
        split <;> simpa using kept
  · have kept := World.handOver_sink w link r e
    rcases handed : w.handOver link r with ⟨_ | _, w₁⟩ <;> rw [handed] at kept
    · exact kept
    · exact kept

end Op

namespace Collection

variable {σ : Type} (link : Link σ)

/-! ## The response an item got -/

/-- The job the batch loop is about to handle in the world `w` gets its request answered with
`resp`: the loop's look finds the cancel handle unset, the job's key was found and the job
passes preparation, and sending its request from there gets `resp`. -/
def AnsweredNow (c : Collection) (op : WriteOp) (cfg : CallConfig) (w : World σ) (job : Job)
    (resp : Response) : Prop :=
  Exists fun w₁ => Exists fun key => Exists fun req => Exists fun w₂ =>
    Op.run link w (Op.isCancelled cfg) = (some false, w₁) /\ job.key = .ok key /\
    c.prepare op key job.body = .ok req /\
    Op.run link w₁ (Op.send cfg (ContextSettings.extract cfg req).2) = (some (.ok resp), w₂)

/-- `c.Responds link op cfg w jobs slot j resp`: the batch loop, about to handle `jobs` from
`slot` on in the world `w`, gets to the `j`-th of them, and that job's request is answered
with `resp`. -/
inductive Responds (c : Collection) (op : WriteOp) (cfg : CallConfig) :
    World σ -> List Job -> Nat -> Nat -> Response -> Prop
  | here {w : World σ} {job : Job} {jobs : List Job} {slot : Nat} {resp : Response}
      (now : c.AnsweredNow link op cfg w job resp) : Responds c op cfg w (job :: jobs) slot 0 resp
  | next {w w' : World σ} {job : Job} {jobs : List Job} {slot j : Nat} {o : ItemOutcome}
      {s : Bool} {resp : Response}
      (step : Op.run link w (c.batchStep op cfg job slot) = (some (.next o s), w'))
      (later : Responds c op cfg w' jobs (slot + 1) j resp) :
      Responds c op cfg w (job :: jobs) slot (j + 1) resp

variable {link} {c : Collection} {op : WriteOp} {cfg : CallConfig}

/-- A job's request gets at most one response. -/
theorem AnsweredNow.unique {w : World σ} {job : Job} {r₁ r₂ : Response}
    (first : c.AnsweredNow link op cfg w job r₁) (second : c.AnsweredNow link op cfg w job r₂) :
    r₁ = r₂ := by
  obtain ⟨w₁, key, req, w₂, looked, keyed, prepared, sent⟩ := first
  obtain ⟨w₁', key', req', w₂', looked', keyed', prepared', sent'⟩ := second
  rw [looked] at looked'
  cases looked'
  rw [keyed] at keyed'
  cases keyed'
  rw [prepared] at prepared'
  cases prepared'
  rw [sent] at sent'
  cases sent'
  rfl

theorem not_responds_nil {w : World σ} {slot j : Nat} {resp : Response} :
    ¬ c.Responds link op cfg w [] slot j resp := by
  intro answered
  cases answered

theorem responds_zero_iff {w : World σ} {job : Job} {jobs : List Job} {slot : Nat}
    {resp : Response} :
    c.Responds link op cfg w (job :: jobs) slot 0 resp <->
      c.AnsweredNow link op cfg w job resp := by
  constructor
  · intro answered
    cases answered with
    | here now => exact now
  · exact Responds.here

/-- After a step that goes on, the responses of the later jobs are those they get from the
next world. -/
theorem responds_succ_iff_of_next {w w' : World σ} {job : Job} {jobs : List Job} {slot j : Nat}
    {o : ItemOutcome} {s : Bool} {resp : Response}
    (step : Op.run link w (c.batchStep op cfg job slot) = (some (.next o s), w')) :
    c.Responds link op cfg w (job :: jobs) slot (j + 1) resp <->
      c.Responds link op cfg w' jobs (slot + 1) j resp := by
  constructor
  · intro answered
    cases answered with
    | next other later =>
        rw [step] at other
        cases other
        exact later
  · exact Responds.next step

/-- A step that stops or cuts the batch leaves no later job a response. -/
theorem not_responds_succ_of_ends {w w' : World σ} {job : Job} {jobs : List Job} {slot j : Nat}
    {st : BatchStep} {resp : Response}
    (step : Op.run link w (c.batchStep op cfg job slot) = (some st, w'))
    (ends : forall o s, st ≠ .next o s) :
    ¬ c.Responds link op cfg w (job :: jobs) slot (j + 1) resp := by
  intro answered
  cases answered with
  | next other _ =>
      rw [step] at other
      cases other
      exact ends _ _ rfl

/-- Each item of a batch gets at most one response. -/
theorem Responds.unique {w : World σ} {jobs : List Job} {slot j : Nat} {r₁ r₂ : Response}
    (first : c.Responds link op cfg w jobs slot j r₁)
    (second : c.Responds link op cfg w jobs slot j r₂) :
    r₁ = r₂ := by
  induction first with
  | here now =>
      exact now.unique (responds_zero_iff.mp second)
  | next step _ ih =>
      exact ih ((responds_succ_iff_of_next step).mp second)

/-! ## What one step does to the sinks -/

/-- A write that failed is never recorded as an item that succeeded. -/
theorem recordWrite_error_ne_done {settings : Option ContextSettings} {e : Error}
    {m : DocumentMeta} {s : Bool} : recordWrite settings (.error e) ≠ .next (.done m) s := by
  unfold recordWrite
  split
  · simp
  · split <;> simp_all

/-- What a finished step does to the sinks and what it records, by whether the job's request
was answered.  With a response, the step records the write whose result is the response's
receipt, and puts the receipt's versions into the job's slot.  Without one, it records no
success and leaves the sinks as they were. -/
theorem run_batchStep_receipt {w w' : World σ} {job : Job} {slot : Nat} {st : BatchStep}
    (finished : Op.run link w (c.batchStep op cfg job slot) = (some st, w')) :
    (Exists fun resp => c.AnsweredNow link op cfg w job resp /\
      st = recordWrite (some (ContextSettings.ofCall cfg))
        (c.receipt op resp (ContextSettings.ofCall cfg)).result /\
      forall e, w'.sink e =
        (w.sink e).keep slot ((c.receipt op resp (ContextSettings.ofCall cfg)).version e)) \/
    ((forall resp, ¬ c.AnsweredNow link op cfg w job resp) /\
      (forall m s, st ≠ .next (.done m) s) /\ forall e, w'.sink e = w.sink e) := by
  rw [run_batchStep] at finished
  rcases looked : Op.run link w (Op.isCancelled cfg) with ⟨_ | _ | _, w₁⟩ <;>
    rw [looked] at finished
  · cases finished
  · have lookKept : forall e, w₁.sink e = w.sink e := fun e => by
      simpa [looked] using Op.run_isCancelled_sink link w cfg e
    cases key : job.key with
    | error err =>
        -- no key: the job's refusal is recorded, and nothing is sent
        rw [key] at finished
        cases finished
        refine .inr ⟨?_, by simp, lookKept⟩
        rintro resp ⟨_, k, _, _, _, keyed, _, _⟩
        rw [key] at keyed
        cases keyed
    | ok k =>
        rw [key] at finished
        dsimp only at finished
        rcases written : Op.run link w₁ (c.writeOne op k job.body cfg slot) with
          ⟨_ | ⟨settings, result⟩, w₂⟩ <;> rw [written] at finished
        · cases finished
        simp only [Prod.mk.injEq, Option.some.injEq] at finished
        obtain ⟨rfl, rfl⟩ := finished
        rw [run_writeOne] at written
        cases prepared : c.prepare op k job.body with
        | error err =>
            -- refused in preparation: nothing is sent
            rw [prepared] at written
            cases written
            refine .inr ⟨?_, fun _ _ => recordWrite_error_ne_done, lookKept⟩
            rintro resp ⟨w₁', k', req, _, looked', keyed, prepared', _⟩
            rw [looked] at looked'
            cases looked'
            rw [key] at keyed
            cases keyed
            rw [prepared] at prepared'
            cases prepared'
        | ok req =>
            rw [prepared] at written
            dsimp only at written
            rcases exchanged : Op.run link w₁ (c.exchange op (ContextSettings.extract cfg req).2
              (ContextSettings.extract cfg req).1 cfg slot) with ⟨_ | m, w₃⟩ <;>
              rw [exchanged] at written
            · cases written
            cases written
            rw [run_exchange] at exchanged
            have sendKept := Op.run_send_sink link w₁ cfg (ContextSettings.extract cfg req).2
            rcases sent : Op.run link w₁ (Op.send cfg (ContextSettings.extract cfg req).2) with
              ⟨_ | _ | resp, w₄⟩ <;> rw [sent] at exchanged sendKept
            · cases exchanged
            · -- the send failed or gave up: the failure is recorded, and nothing is stored
              cases exchanged
              refine .inr ⟨?_, fun _ _ => recordWrite_error_ne_done,
                fun e => (sendKept e).trans (lookKept e)⟩
              rintro resp ⟨w₁', k', req', _, looked', keyed, prepared', sent'⟩
              rw [looked] at looked'
              cases looked'
              rw [key] at keyed
              cases keyed
              rw [prepared] at prepared'
              cases prepared'
              rw [sent] at sent'
              cases sent'
            · -- answered: the answer is read as its receipt says
              dsimp only at exchanged
              rw [run_receive_eq] at exchanged
              cases exchanged
              exact .inl ⟨resp, ⟨w₁, k, req, w₄, looked, key, prepared, sent⟩, rfl,
                fun e => by rw [World.keep_sink, sendKept, lookKept, ContextSettings.extract_fst]⟩
  · -- the handle is set: the batch stops, and nothing is sent
    cases finished
    refine .inr ⟨?_, by simp, fun e => by simpa [looked] using Op.run_isCancelled_sink link w cfg e⟩
    rintro resp ⟨_, _, _, _, looked', _, _, _⟩
    rw [looked] at looked'
    cases looked'

/-- A step changes only the job's own slot, and that one only as the receipt of the job's
response says. -/
theorem run_batchStep_sink {w w₁ : World σ} {job : Job} {slot : Nat} {st : BatchStep}
    (stepped : Op.run link w (c.batchStep op cfg job slot) = (some st, w₁)) (e : Envelope)
    (i : Nat) :
    (forall resp, c.AnsweredNow link op cfg w job resp ->
      (w₁.sink e).get? i = if slot = i then
        ((c.receipt op resp (ContextSettings.ofCall cfg)).version e).or ((w.sink e).get? i)
        else (w.sink e).get? i) /\
    ((slot ≠ i \/ forall resp, ¬ c.AnsweredNow link op cfg w job resp) ->
      (w₁.sink e).get? i = (w.sink e).get? i) := by
  rcases run_batchStep_receipt stepped with ⟨resp, now, _, stored⟩ | ⟨unanswered, _, kept⟩
  · refine ⟨fun resp' now' => ?_, fun away => ?_⟩
    · rw [← now.unique now', stored, Sink.get?_keep]
    · rw [stored, Sink.get?_keep]
      rcases away with other | unanswered
      · rw [if_neg other]
      · exact absurd now (unanswered resp)
  · exact ⟨fun resp now => absurd now (unanswered resp), fun _ => by rw [kept]⟩

/-- Items that were never attempted hold no done item. -/
theorem done_not_mem_unattempted {jobs : List Job} {j : Nat} {m : DocumentMeta} :
    (jobs.map fun _ => ItemOutcome.notAttempted)[j]? ≠ some (.done m) := by
  intro listed
  obtain ⟨_, _, same⟩ := List.mem_map.mp (List.mem_of_getElem? listed)
  cases same

/-- A write is never recorded as a stop of the batch: only the loop's look stops it. -/
theorem recordWrite_ne_stop {settings : Option ContextSettings}
    {result : Except Error DocumentMeta} : recordWrite settings result ≠ .stop := by
  unfold recordWrite
  split
  · simp
  · split <;> simp

/-- Under settings that are not silent, a write is recorded as a success exactly when it
succeeded, and then the batch goes on with no silence. -/
theorem recordWrite_eq_done_iff {settings : Option ContextSettings}
    (loud : settings.any (·.silent) = false) {result : Except Error DocumentMeta}
    {m : DocumentMeta} {s : Bool} :
    recordWrite settings result = .next (.done m) s <-> result = .ok m /\ s = false := by
  cases result with
  | ok m' =>
      rw [recordWrite_ok loud]
      simp [eq_comm]
  | error e =>
      simp only [recordWrite_error_ne_done, false_iff, not_and]
      intro same
      cases same

/-! ## What a run leaves in the sinks -/

/-- A run of the loop puts into each sink, at the slot of every job that got a response, what
the receipt of that response stores there, and leaves every other slot as it was.  By
induction on the jobs: each step writes only its own slot (`run_batchStep_sink`), and the rest
of the run only later ones. -/
theorem run_runJobs_sink (e : Envelope) :
    forall (jobs : List Job) (slot : Nat) (flag : Bool) (acc : List ItemOutcome) (w : World σ)
      {flag' : Bool} {outcomes : List ItemOutcome} {w' : World σ},
      Op.run link w (c.runJobs op cfg jobs slot flag acc) = (some (flag', outcomes), w') ->
      (forall j resp, c.Responds link op cfg w jobs slot j resp ->
        (w'.sink e).get? (slot + j) =
          ((c.receipt op resp (ContextSettings.ofCall cfg)).version e).or
            ((w.sink e).get? (slot + j))) /\
      (forall i, (forall j resp, i = slot + j -> ¬ c.Responds link op cfg w jobs slot j resp) ->
        (w'.sink e).get? i = (w.sink e).get? i)
  | [], slot, flag, acc, w, _, _, _, finished => by
      rw [run_runJobs_nil] at finished
      cases finished
      exact ⟨fun _ _ answered => absurd answered not_responds_nil, fun _ _ => rfl⟩
  | job :: jobs, slot, flag, acc, w, _, _, w', finished => by
      obtain ⟨st, w₁, stepped, after⟩ := run_runJobs_cons_some finished
      -- the later jobs, from the world the step left: their slots as their responses say, and
      -- every other slot as the step left it
      have later : (forall j resp, c.Responds link op cfg w (job :: jobs) slot (j + 1) resp ->
            (w'.sink e).get? (slot + (j + 1)) =
              ((c.receipt op resp (ContextSettings.ofCall cfg)).version e).or
                ((w₁.sink e).get? (slot + (j + 1)))) /\
          (forall i, (forall j resp, i = slot + (j + 1) ->
              ¬ c.Responds link op cfg w (job :: jobs) slot (j + 1) resp) ->
            (w'.sink e).get? i = (w₁.sink e).get? i) := by
        cases st with
        | stop =>
            obtain ⟨_, _, rfl⟩ := after
            exact ⟨fun _ _ answered =>
              absurd answered (not_responds_succ_of_ends stepped (fun _ _ => by simp)),
              fun _ _ => rfl⟩
        | cut =>
            obtain ⟨_, _, rfl⟩ := after
            exact ⟨fun _ _ answered =>
              absurd answered (not_responds_succ_of_ends stepped (fun _ _ => by simp)),
              fun _ _ => rfl⟩
        | next o s =>
            obtain ⟨answeredLater, untouched⟩ := run_runJobs_sink e jobs (slot + 1) _ _ w₁ after
            refine ⟨fun j resp answered => ?_, fun i unanswered => untouched i ?_⟩
            · have stored := answeredLater j resp ((responds_succ_iff_of_next stepped).mp answered)
              rwa [Nat.add_right_comm, Nat.add_assoc] at stored
            · intro j resp same answered
              exact unanswered j resp (by omega) ((responds_succ_iff_of_next stepped).mpr answered)
      refine ⟨fun j resp answered => ?_, fun i unanswered => ?_⟩
      · cases j with
        | zero =>
            -- the job itself: the step fills its slot, and the rest of the run leaves it
            have now := responds_zero_iff.mp answered
            rw [Nat.add_zero, later.2 slot (fun j _ same _ => by omega),
              (run_batchStep_sink stepped e slot).1 resp now, if_pos rfl]
        | succ j =>
            rw [later.1 j resp answered, (run_batchStep_sink stepped e _).2 (.inl (by omega))]
      · rw [later.2 i (fun j resp same => unanswered (j + 1) resp same)]
        apply (run_batchStep_sink stepped e i).2
        by_cases here : slot = i
        · exact .inr fun resp now => unanswered 0 resp (by omega) (responds_zero_iff.mpr now)
        · exact .inl here

/-- A run of the loop leaves a sink as it was when no receipt stores anything there. -/
theorem run_runJobs_sink_eq (e : Envelope)
    (stores : forall resp, (c.receipt op resp (ContextSettings.ofCall cfg)).version e = none) :
    forall (jobs : List Job) (slot : Nat) (flag : Bool) (acc : List ItemOutcome) (w : World σ)
      {flag' : Bool} {outcomes : List ItemOutcome} {w' : World σ},
      Op.run link w (c.runJobs op cfg jobs slot flag acc) = (some (flag', outcomes), w') ->
      w'.sink e = w.sink e
  | [], slot, flag, acc, w, _, _, _, finished => by
      rw [run_runJobs_nil] at finished
      cases finished
      rfl
  | job :: jobs, slot, flag, acc, w, _, _, _, finished => by
      obtain ⟨st, w₁, stepped, after⟩ := run_runJobs_cons_some finished
      have stepKept : w₁.sink e = w.sink e := by
        rcases run_batchStep_receipt stepped with ⟨resp, _, _, stored⟩ | ⟨_, _, kept⟩
        · rw [stored, stores resp]
          rfl
        · exact kept e
      cases st with
      | stop =>
          obtain ⟨_, _, rfl⟩ := after
          exact stepKept
      | cut =>
          obtain ⟨_, _, rfl⟩ := after
          exact stepKept
      | next o s => rw [run_runJobs_sink_eq e stores jobs (slot + 1) _ _ w₁ after, stepKept]

/-! ## What a run records -/

/-- Under a call that is not silent, a run of the loop adds one item per job to the items
already recorded, and an item succeeded with `m` exactly when its job got a response whose
receipt answers `m`.  By induction on the jobs, reading each step's record off
`run_batchStep_receipt`. -/
theorem run_runJobs_done (loud : cfg.silent = false) :
    forall (jobs : List Job) (slot : Nat) (flag : Bool) (acc : List ItemOutcome) (w : World σ)
      {flag' : Bool} {outcomes : List ItemOutcome} {w' : World σ},
      Op.run link w (c.runJobs op cfg jobs slot flag acc) = (some (flag', outcomes), w') ->
      Exists fun items => outcomes = acc.reverse ++ items /\
        forall j m, items[j]? = some (.done m) <->
          Exists fun resp => c.Responds link op cfg w jobs slot j resp /\
            (c.receipt op resp (ContextSettings.ofCall cfg)).result = .ok m
  | [], slot, flag, acc, w, _, _, _, finished => by
      rw [run_runJobs_nil] at finished
      cases finished
      refine ⟨[], by simp, fun j m => ?_⟩
      simp only [List.getElem?_nil, reduceCtorEq, false_iff, not_exists, not_and]
      exact fun _ answered => absurd answered not_responds_nil
  | job :: jobs, slot, flag, acc, w, _, _, _, finished => by
      have loudSettings : (some (ContextSettings.ofCall cfg)).any (·.silent) = false := loud
      obtain ⟨st, w₁, stepped, after⟩ := run_runJobs_cons_some finished
      cases st with
      | stop =>
          -- no job is reached, and none succeeded
          obtain ⟨_, rfl, _⟩ := after
          refine ⟨_, rfl, fun j m => ?_⟩
          constructor
          · intro listed
            exact absurd listed done_not_mem_unattempted
          · rintro ⟨resp, answered, _⟩
            cases j with
            | zero =>
                rcases run_batchStep_receipt stepped with ⟨_, _, recorded, _⟩ | ⟨unanswered, _, _⟩
                · exact absurd recorded.symm recordWrite_ne_stop
                · exact absurd (responds_zero_iff.mp answered) (unanswered resp)
            | succ j =>
                exact absurd answered (not_responds_succ_of_ends stepped (fun _ _ => by simp))
      | cut =>
          -- the job that gave up did not succeed, and no later job is reached
          obtain ⟨_, rfl, _⟩ := after
          refine ⟨.failed .cancelled :: jobs.map fun _ => .notAttempted, by simp, fun j m => ?_⟩
          constructor
          · intro listed
            cases j with
            | zero => cases listed
            | succ j =>
                rw [List.getElem?_cons_succ] at listed
                exact absurd listed done_not_mem_unattempted
          · rintro ⟨resp, answered, succeeded⟩
            cases j with
            | zero =>
                rcases run_batchStep_receipt stepped with ⟨resp', now, recorded, _⟩ |
                  ⟨unanswered, _, _⟩
                · rw [now.unique (responds_zero_iff.mp answered), succeeded,
                    recordWrite_ok loudSettings] at recorded
                  cases recorded
                · exact absurd (responds_zero_iff.mp answered) (unanswered resp)
            | succ j =>
                exact absurd answered (not_responds_succ_of_ends stepped (fun _ _ => by simp))
      | next o s =>
          obtain ⟨items, listed, succeeded⟩ := run_runJobs_done loud jobs (slot + 1) _ _ w₁ after
          refine ⟨o :: items, by simp [listed], fun j m => ?_⟩
          cases j with
          | zero =>
              -- the job's item is the record of its own write
              simp only [List.getElem?_cons_zero, Option.some.injEq]
              rcases run_batchStep_receipt stepped with ⟨resp, now, recorded, _⟩ |
                ⟨unanswered, notDone, _⟩
              · constructor
                · rintro rfl
                  exact ⟨resp, responds_zero_iff.mpr now,
                    ((recordWrite_eq_done_iff loudSettings).mp recorded.symm).1⟩
                · rintro ⟨resp', answered, succeededNow⟩
                  rw [← now.unique (responds_zero_iff.mp answered)] at succeededNow
                  rw [succeededNow, recordWrite_ok loudSettings] at recorded
                  cases recorded
                  rfl
              · constructor
                · rintro rfl
                  exact absurd rfl (notDone m s)
                · rintro ⟨resp, answered, _⟩
                  exact absurd (responds_zero_iff.mp answered) (unanswered resp)
          | succ j =>
              simp only [List.getElem?_cons_succ]
              rw [succeeded j m]
              exact exists_congr fun resp =>
                and_congr_left' (responds_succ_iff_of_next stepped).symm

/-! ## The sinks of a whole batch -/

/-- From empty sinks, a run of the loop leaves in each sink exactly the slots of the jobs whose
receipt stores a version there, each holding that version. -/
theorem run_runJobs_sink_of_empty {jobs : List Job} {flag' : Bool} {outcomes : List ItemOutcome}
    {w w' : World σ}
    (ran : Op.run link w (c.runJobs op cfg jobs 0 false []) = (some (flag', outcomes), w'))
    {e : Envelope} (empty : forall i, (w.sink e).get? i = none) (i : Nat) (x : Json.Value) :
    (w'.sink e).get? i = some x <->
      Exists fun resp => c.Responds link op cfg w jobs 0 i resp /\
        (c.receipt op resp (ContextSettings.ofCall cfg)).version e = some x := by
  obtain ⟨stored, kept⟩ := run_runJobs_sink e jobs 0 false [] w ran
  constructor
  · intro holds
    by_cases answered : Exists fun resp => c.Responds link op cfg w jobs 0 i resp
    · obtain ⟨resp, answered⟩ := answered
      have slot := stored i resp answered
      rw [Nat.zero_add, holds, empty, Option.or_none] at slot
      exact ⟨resp, answered, slot.symm⟩
    · -- a slot no job got a response for stays empty
      have unanswered : forall j resp, i = 0 + j -> ¬ c.Responds link op cfg w jobs 0 j resp := by
        intro j resp same answeredj
        rw [Nat.zero_add] at same
        subst same
        exact answered ⟨resp, answeredj⟩
      rw [kept i unanswered, empty] at holds
      cases holds
  · rintro ⟨resp, answered, version⟩
    have slot := stored i resp answered
    rw [Nat.zero_add, version, empty] at slot
    exact slot

/-- What a loud batch leaves in sinks that were empty, read per item: a slot holds exactly
what the receipt of its own item's response stores in that sink, and an item is done exactly
when its response was read as a success. -/
structure SlotsFilled (link : Link σ) (c : Collection) (op : WriteOp) (cfg : CallConfig)
    (w : World σ) (jobs : List Job) (w' : World σ) (v : List ItemOutcome) : Prop where
  stored : forall e i x, (w'.sink e).get? i = some x <->
    Exists fun resp => c.Responds link op cfg w jobs 0 i resp /\
      (c.receipt op resp (ContextSettings.ofCall cfg)).version e = some x
  done : forall i m, v[i]? = some (.done m) <->
    Exists fun resp => c.Responds link op cfg w jobs 0 i resp /\
      (c.receipt op resp (ContextSettings.ofCall cfg)).result = .ok m

/-- A loud batch that reports its items fills the sinks item by item. -/
theorem runBatch_slotsFilled {jobs : List Job} {w w' : World σ} {b : BatchOutcome}
    (finished : Op.run link w (c.runBatch op jobs cfg) = (some b, w'))
    (loud : cfg.silent = false) (emptyOld : w.old = {}) (emptyNew : w.new = {})
    {v : List ItemOutcome} (items : b = .items v) : c.SlotsFilled link op cfg w jobs w' v := by
  obtain ⟨flag, outcomes, ran, reported⟩ := run_runBatch_some finished
  obtain ⟨recorded, listed, succeeded⟩ := run_runJobs_done loud jobs 0 false [] w ran
  -- the batch reports the loop's items, which are those it recorded
  have sameItems : v = recorded := by
    cases flag
    · rw [items] at reported
      simp only [Bool.false_eq_true, if_false, BatchOutcome.items.injEq] at reported
      rw [reported, listed]
      simp
    · rw [items] at reported
      cases reported
  subst sameItems
  have empty : forall e i, (w.sink e).get? i = none := by
    intro e i
    cases e
    · show w.old.get? i = none
      rw [emptyOld]
      rfl
    · show w.new.get? i = none
      rw [emptyNew]
      rfl
  exact ⟨fun e => run_runJobs_sink_of_empty ran (empty e), succeeded⟩

namespace SlotsFilled

variable {jobs : List Job} {w w' : World σ} {v : List ItemOutcome}
  (filled : c.SlotsFilled link op cfg w jobs w' v)
include filled

/-- A new version is in slot `i` exactly when item `i` is done and its response returned that
version for a sink the call asked for. -/
theorem new_iff (loud : (ContextSettings.ofCall cfg).silent = false) (i : Nat) (x : Json.Value) :
    w'.new.get? i = some x <->
      (Exists fun m => v[i]? = some (.done m)) /\
      Exists fun resp => c.Responds link op cfg w jobs 0 i resp /\
        op.returnsNew = true /\ Exists fun shape => cfg.returnNew = some shape /\
          resp.returnedVersion shape .new = .ok x := by
  show (w'.sink .new).get? i = some x <-> _
  rw [filled.stored .new]
  constructor
  · rintro ⟨resp, answered, stored⟩
    obtain ⟨_, ⟨info, read⟩, shape, sink, version⟩ := receipt_new_eq_some.mp stored
    obtain ⟨returns, asked⟩ := ContextSettings.sinkFor_new_eq_some.mp sink
    exact ⟨⟨info, (filled.done i info).mpr ⟨resp, answered, read⟩⟩, resp, answered, returns,
      shape, asked, version⟩
  · rintro ⟨⟨m, done⟩, resp, answered, returns, shape, asked, version⟩
    obtain ⟨resp', answered', read⟩ := (filled.done i m).mp done
    rw [answered'.unique answered] at read
    exact ⟨resp, answered, receipt_new_eq_some.mpr ⟨loud, ⟨m, read⟩, shape,
      ContextSettings.sinkFor_new_eq_some.mpr ⟨returns, asked⟩, version⟩⟩

/-- An old version is in slot `i` exactly when item `i`'s response was accepted and read, and
returned that version for a sink the call asked for. -/
theorem old_iff (loud : (ContextSettings.ofCall cfg).silent = false) (i : Nat) (x : Json.Value) :
    w'.old.get? i = some x <->
      Exists fun resp => c.Responds link op cfg w jobs 0 i resp /\
        resp.checkStatus (op.accepted (ContextSettings.ofCall cfg)) = .ok () /\
        (resp.parsePrimary DocumentMeta.decoder c.kind.envelope).isOk = true /\
        op.returnsOld = true /\ Exists fun shape => cfg.returnOld = some shape /\
          resp.returnedVersion shape .old = .ok x := by
  show (w'.sink .old).get? i = some x <-> _
  rw [filled.stored .old]
  constructor
  · rintro ⟨resp, answered, stored⟩
    obtain ⟨accepted, _, decoded, shape, sink, version⟩ := receipt_old_eq_some.mp stored
    obtain ⟨returns, asked⟩ := ContextSettings.sinkFor_old_eq_some.mp sink
    exact ⟨resp, answered, accepted, decoded, returns, shape, asked, version⟩
  · rintro ⟨resp, answered, accepted, decoded, returns, shape, asked, version⟩
    exact ⟨resp, answered, receipt_old_eq_some.mpr ⟨accepted, loud, decoded, shape,
      ContextSettings.sinkFor_old_eq_some.mpr ⟨returns, asked⟩, version⟩⟩

/-- A done item whose call asked for a sink the operation fills has its slot there. -/
theorem isSome_of_done (loud : (ContextSettings.ofCall cfg).silent = false) {e : Envelope}
    {shape : Json.Decoder Json.Value} (sink : (ContextSettings.ofCall cfg).sinkFor op e = some shape)
    {i : Nat} {m : DocumentMeta}
    (done : v[i]? = some (.done m)) : ((w'.sink e).get? i).isSome = true := by
  obtain ⟨resp, answered, read⟩ := (filled.done i m).mp done
  obtain ⟨x, stored⟩ := Option.isSome_iff_exists.mp (receipt_version_of_read read loud sink)
  rw [(filled.stored e i x).mpr ⟨resp, answered, stored⟩]
  rfl

/-- A filled new slot belongs to a done item. -/
theorem done_of_new {i : Nat} (present : (w'.new.get? i).isSome = true) :
    Exists fun m => v[i]? = some (.done m) := by
  obtain ⟨x, slot⟩ := Option.isSome_iff_exists.mp present
  obtain ⟨resp, answered, stored⟩ := (filled.stored .new i x).mp slot
  obtain ⟨_, ⟨info, read⟩, _⟩ := receipt_new_eq_some.mp stored
  exact ⟨info, (filled.done i info).mpr ⟨resp, answered, read⟩⟩

/-- A removal fills an old slot only for a done item. -/
theorem done_of_old_removed (removing : op = .remove) {i : Nat}
    (present : (w'.old.get? i).isSome = true) : Exists fun m => v[i]? = some (.done m) := by
  subst removing
  obtain ⟨x, slot⟩ := Option.isSome_iff_exists.mp present
  obtain ⟨resp, answered, oldStored⟩ := (filled.stored .old i x).mp slot
  obtain ⟨m, read⟩ := receipt_result_of_removed oldStored
  exact ⟨m, (filled.done i m).mpr ⟨resp, answered, read⟩⟩

end SlotsFilled

/-- The sinks of a batch.  Whatever the call, the connection and the moments the cancel handle
fires: a silent batch writes no slot of either sink, a creation no slot of the old-version sink,
and a removal no slot of the new-version one.  Under a call that is not silent, starting from
empty sinks, a batch that reports its items `v` leaves a slot `i` in the new-version sink
exactly when item `i` succeeded, the verb returns new versions and the call has a sink for them,
and the slot holds the new version of item `i`'s own response as that sink decodes it; and a
slot `i` in the old-version sink exactly when item `i`'s response had an accepted status, its
metadata and its old version decoded, the verb returns old versions and the call has a sink for
them, the slot holding that old version.  So the new-version slots are exactly the items that
succeeded, the old-version slots cover them, and for a removal the two coincide. -/
theorem runBatch_fills_own_slots (c : Collection) (op : WriteOp) (jobs : List Job)
    (cfg : CallConfig) {σ : Type} (link : Link σ) (w : World σ) {b : BatchOutcome}
    {w' : World σ} (finished : Op.run link w (c.runBatch op jobs cfg) = (some b, w')) :
    (cfg.silent = true -> w'.old = w.old /\ w'.new = w.new) /\
    (op = .create -> w'.old = w.old) /\ (op = .remove -> w'.new = w.new) /\
    (cfg.silent = false -> w.old = {} -> w.new = {} -> forall v, b = .items v ->
      (forall i x, w'.new.get? i = some x <->
        (Exists fun m => v[i]? = some (.done m)) /\
        Exists fun resp => c.Responds link op cfg w jobs 0 i resp /\
          op.returnsNew = true /\ Exists fun shape => cfg.returnNew = some shape /\
            resp.returnedVersion shape .new = .ok x) /\
      (forall i x, w'.old.get? i = some x <->
        Exists fun resp => c.Responds link op cfg w jobs 0 i resp /\
          resp.checkStatus (op.accepted (ContextSettings.ofCall cfg)) = .ok () /\
          (resp.parsePrimary DocumentMeta.decoder c.kind.envelope).isOk = true /\
          op.returnsOld = true /\ Exists fun shape => cfg.returnOld = some shape /\
            resp.returnedVersion shape .old = .ok x) /\
      (op.returnsNew = true -> cfg.returnNew.isSome = true -> forall i,
        (w'.new.get? i).isSome = true <-> Exists fun m => v[i]? = some (.done m)) /\
      (op.returnsOld = true -> cfg.returnOld.isSome = true -> forall i m,
        v[i]? = some (.done m) -> (w'.old.get? i).isSome = true) /\
      (op = .remove -> forall i,
        (w'.old.get? i).isSome = true -> Exists fun m => v[i]? = some (.done m))) := by
  -- a sink that no receipt stores anything in is left as it was
  obtain ⟨flag, outcomes, ran, _⟩ := run_runBatch_some finished
  have untouched : forall e, (forall resp,
      (c.receipt op resp (ContextSettings.ofCall cfg)).version e = none) -> w'.sink e = w.sink e :=
    fun e stores => run_runJobs_sink_eq e stores jobs 0 false [] w ran
  refine ⟨fun silentCall => ⟨untouched .old fun _ => receipt_version_eq_none (.inl silentCall),
      untouched .new fun _ => receipt_version_eq_none (.inl silentCall)⟩,
    fun creating => untouched .old fun _ => receipt_version_eq_none (.inr (by rw [creating]; rfl)),
    fun removing => untouched .new fun _ => receipt_version_eq_none (.inr (by rw [removing]; rfl)),
    fun loud emptyOld emptyNew v items => ?_⟩
  -- with the sinks empty at the start, each slot is read off its own item
  have filled := runBatch_slotsFilled finished loud emptyOld emptyNew items
  have loudSettings : (ContextSettings.ofCall cfg).silent = false := loud
  refine ⟨filled.new_iff loudSettings, filled.old_iff loudSettings, fun returns asked i => ?_,
    fun returns asked i m done => ?_, fun removing i => filled.done_of_old_removed removing⟩
  · obtain ⟨shape, sinkShape⟩ := Option.isSome_iff_exists.mp asked
    exact ⟨filled.done_of_new, fun ⟨_, done⟩ => filled.isSome_of_done loudSettings
      (ContextSettings.sinkFor_new_eq_some.mpr ⟨returns, sinkShape⟩) done⟩
  · obtain ⟨shape, sinkShape⟩ := Option.isSome_iff_exists.mp asked
    exact filled.isSome_of_done loudSettings
      (ContextSettings.sinkFor_old_eq_some.mpr ⟨returns, sinkShape⟩) done

/-- A batch of two updates asking for new versions, each answered 201 with its own new version:
both items are done, and slots 0 and 1 of the new-version sink hold the versions of their own
responses. -/
theorem runBatch_fills_own_slots_stored :
    let c : Collection := ⟨"users", .document⟩
    let jobs : List Job := [⟨.ok (some "a"), some (.object [("v", .string "x")])⟩,
      ⟨.ok (some "b"), some (.object [("v", .string "y")])⟩]
    let cfg : CallConfig := { returnNew := some Json.Decoder.value }
    -- the bodies read {"_key":"a","_id":"users/a","_rev":"1","new":{"v":"x"}} and the same for "b"
    let answerA : Response := ⟨201, [123, 34, 95, 107, 101, 121, 34, 58, 34, 97, 34, 44, 34, 95,
      105, 100, 34, 58, 34, 117, 115, 101, 114, 115, 47, 97, 34, 44, 34, 95, 114, 101, 118, 34, 58,
      34, 49, 34, 44, 34, 110, 101, 119, 34, 58, 123, 34, 118, 34, 58, 34, 120, 34, 125, 125]⟩
    let answerB : Response := ⟨201, [123, 34, 95, 107, 101, 121, 34, 58, 34, 98, 34, 44, 34, 95,
      105, 100, 34, 58, 34, 117, 115, 101, 114, 115, 47, 98, 34, 44, 34, 95, 114, 101, 118, 34, 58,
      34, 50, 34, 44, 34, 110, 101, 119, 34, 58, 123, 34, 118, 34, 58, 34, 121, 34, 125, 125]⟩
    let link : Link (List Scripted) := Scripted.link
    let w : World (List Scripted) := { line := [.respond answerA false, .respond answerB false] }
    let b : BatchOutcome := .items [.done ⟨"a", "users/a", "1", none⟩, .done ⟨"b", "users/b", "2", none⟩]
    let w' := (Op.run link w (c.runBatch .update jobs cfg)).2
    (Op.run link w (c.runBatch .update jobs cfg)).1 = some b /\
    w'.new.get? 0 = some (.object [("v", .string "x")]) /\
    w'.new.get? 1 = some (.object [("v", .string "y")]) /\
    (cfg.silent = true -> w'.old = w.old /\ w'.new = w.new) /\
    (WriteOp.update = .create -> w'.old = w.old) /\ (WriteOp.update = .remove -> w'.new = w.new) /\
    (cfg.silent = false -> w.old = {} -> w.new = {} -> forall v, b = .items v ->
      (forall i x, w'.new.get? i = some x <->
        (Exists fun m => v[i]? = some (.done m)) /\
        Exists fun resp => c.Responds link .update cfg w jobs 0 i resp /\
          WriteOp.update.returnsNew = true /\ Exists fun shape => cfg.returnNew = some shape /\
            resp.returnedVersion shape .new = .ok x) /\
      (forall i x, w'.old.get? i = some x <->
        Exists fun resp => c.Responds link .update cfg w jobs 0 i resp /\
          resp.checkStatus (WriteOp.update.accepted (ContextSettings.ofCall cfg)) = .ok () /\
          (resp.parsePrimary DocumentMeta.decoder c.kind.envelope).isOk = true /\
          WriteOp.update.returnsOld = true /\ Exists fun shape => cfg.returnOld = some shape /\
            resp.returnedVersion shape .old = .ok x) /\
      (WriteOp.update.returnsNew = true -> cfg.returnNew.isSome = true -> forall i,
        (w'.new.get? i).isSome = true <-> Exists fun m => v[i]? = some (.done m)) /\
      (WriteOp.update.returnsOld = true -> cfg.returnOld.isSome = true -> forall i m,
        v[i]? = some (.done m) -> (w'.old.get? i).isSome = true) /\
      (WriteOp.update = .remove -> forall i,
        (w'.old.get? i).isSome = true -> Exists fun m => v[i]? = some (.done m))) :=
  ⟨rfl, rfl, rfl, runBatch_fills_own_slots _ _ _ _ _ _ rfl⟩

end Collection

end DocClient
