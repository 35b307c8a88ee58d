import DocClient.Proofs.Batch.Correlation

namespace DocClient

/-!
# Silent batches

Under a silent call a batch reports only that it was silent, and it does so exactly when some
job got through preparation before the loop found the cancel handle set: the flag is raised on
the path where the write answers its settings, which jobs refused for their key or their
payload never reach, and which does not depend on what the connection answers.  A silent call
that prepared no job reports its items, and each of them failed or was never attempted.

Silence changes nothing about what is sent but the request's own `silent=true` parameter: the
call's query parameters are set in a fixed order on a request that has none yet, so the silent
request is the other one with `silent=true` put first (`extract_of_silent`).
-/

namespace Request

/-- A request with `silent=true` put first among its query parameters. -/
def silenced (r : Request) : Request := { r with query := ("silent", "true") :: r.query }

/-- Setting a parameter other than `silent` commutes with putting `silent=true` first. -/
theorem silenced_setQuery (r : Request) {k : String} (v : String) (other : k ≠ "silent") :
    r.silenced.setQuery k v = (r.setQuery k v).silenced := by
  have named : ("silent" = k) = False := propext ⟨fun same => other same.symm, False.elim⟩
  simp [silenced, setQuery, setParam, named]

theorem foldl_setQuery_silenced (ps : List (String × String)) (others : ∀ p ∈ ps, p.1 ≠ "silent") :
    forall r : Request, ps.foldl (fun r (k, v) => r.setQuery k v) r.silenced =
      (ps.foldl (fun r (k, v) => r.setQuery k v) r).silenced := by
  induction ps with
  | nil => intro r; rfl
  | cons p ps ih =>
      intro r
      obtain ⟨k, v⟩ := p
      have head : k ≠ "silent" := others (k, v) List.mem_cons_self
      simp only [List.foldl_cons]
      rw [silenced_setQuery r v head]
      exact ih (fun p member => others p (List.mem_cons_of_mem _ member)) _

end Request

namespace ContextSettings

/-- A call that is not silent asks for no `silent` parameter. -/
theorem params_ne_silent {cfg : CallConfig} (loud : cfg.silent = false) :
    ∀ p ∈ params cfg, p.1 ≠ "silent" := by
  intro p member
  simp only [params, loud, Bool.false_eq_true, if_false, List.nil_append, List.mem_append] at member
  rcases member with ((old | new) | sync) | mode
  · split at old <;> simp_all
  · split at new <;> simp_all
  · split at sync <;> simp_all
  · split at mode <;> simp_all

/-- A silent call asks for `silent=true` first, then for what the same call without silence
asks for. -/
theorem params_of_silent {cfg : CallConfig} (silentCall : cfg.silent = true) :
    params cfg = ("silent", "true") :: params { cfg with silent := false } := by
  simp [params, silentCall]

/-- On a request without query parameters, a silent call's request is the request of the same
call without silence, with `silent=true` put first. -/
theorem extract_of_silent {cfg : CallConfig} (silentCall : cfg.silent = true) {r : Request}
    (bare : r.query = []) :
    (extract cfg r).2 = (extract { cfg with silent := false } r).2.silenced := by
  unfold extract
  dsimp only
  rw [params_of_silent silentCall, List.foldl_cons]
  have first : r.setQuery "silent" "true" = r.silenced := by
    simp [Request.setQuery, Request.silenced, bare, setParam]
  rw [first]
  exact Request.foldl_setQuery_silenced _ (params_ne_silent rfl) r

end ContextSettings

namespace Collection

variable {σ : Type} {link : Link σ} {w : World σ} {c : Collection} {op : WriteOp}
  {cfg : CallConfig}

/-- A silent call's job sends the request of the same call without silence, with
`silent=true` put first. -/
theorem jobRequest_of_silent (silentCall : cfg.silent = true) (job : Job) :
    c.jobRequest op cfg job = (c.jobRequest op { cfg with silent := false } job).map Request.silenced := by
  unfold jobRequest outgoing
  cases job.key with
  | error e => rfl
  | ok key =>
      dsimp only
      cases prepared : c.prepare op key job.body with
      | error e => rfl
      | ok req =>
          dsimp only
          rw [ContextSettings.extract_of_silent silentCall (prepare_query prepared)]
          rfl

/-- The settings a finished write answers: none when it was refused in preparation, with the
refusal as its result; the call's settings when it was prepared. -/
theorem run_writeOne_settings {key : Option String} {body : Option Json.Value} {slot : Nat}
    {settings : Option ContextSettings} {m : Except Error DocumentMeta} {w' : World σ}
    (finished : Op.run link w (c.writeOne op key body cfg slot) = (some (settings, m), w')) :
    match c.prepare op key body with
    | .error e => settings = none /\ m = .error e
    | .ok req => settings = some (ContextSettings.extract cfg req).1 := by
  rw [run_writeOne] at finished
  split
  · rename_i e refused
    rw [refused] at finished
    cases finished
    exact ⟨rfl, rfl⟩
  · rename_i req prepared
    rw [prepared] at finished
    dsimp only at finished
    split at finished
    · cases finished
      rfl
    · cases finished

/-- A step of a silent batch, whatever the connection answers and whenever the handle fires:
it stops when its look finds the handle set; otherwise it goes on, going out silently exactly
when the job is prepared, and records the silence or the job's refusal. -/
theorem run_batchStep_of_silent (silentCall : cfg.silent = true) {job : Job} {slot : Nat}
    {st : BatchStep} {w' : World σ}
    (finished : Op.run link w (c.batchStep op cfg job slot) = (some st, w')) :
    (st = .stop /\ (Op.run link w (Op.isCancelled cfg)).1 = some true) \/
      Exists fun o => st = .next o (c.prepares op job) /\
        (Op.run link w (Op.isCancelled cfg)).1 = some false /\
        (o = .notAttempted \/ Exists fun e => o = .failed e) := by
  rw [run_batchStep] at finished
  rcases looked : Op.run link w (Op.isCancelled cfg) with ⟨_ | _ | _, w₁⟩ <;>
    rw [looked] at finished
  · cases finished
  · unfold prepares
    cases key : job.key with
    | error e =>
        rw [key] at finished
        cases finished
        exact .inr ⟨_, rfl, rfl, .inr ⟨e, rfl⟩⟩
    | ok k =>
        rw [key] at finished
        dsimp only at finished ⊢
        rcases written : Op.run link w₁ (c.writeOne op k job.body cfg slot) with
          ⟨_ | ⟨settings, result⟩, w₂⟩ <;> rw [written] at finished
        · cases finished
        cases finished
        have answered := run_writeOne_settings written
        cases prepared : c.prepare op k job.body with
        | error e =>
            -- refused in preparation: no settings, and the refusal is never `cancelled`
            rw [prepared] at answered
            obtain ⟨rfl, rfl⟩ := answered
            have other : e ≠ .cancelled := fun same =>
              c.prepare_ne_cancelled op k job.body (same ▸ prepared)
            rw [recordWrite_error rfl other]
            exact .inr ⟨_, rfl, rfl, .inr ⟨e, rfl⟩⟩
        | ok req =>
            -- prepared: the settings are the silent call's, so only the silence is recorded
            rw [prepared] at answered
            subst answered
            have silentSettings : (some (ContextSettings.extract cfg req).1).any (·.silent) = true :=
              silentCall
            rw [recordWrite_of_silent silentSettings]
            exact .inr ⟨_, rfl, rfl, .inl rfl⟩
  · cases finished
    exact .inl ⟨rfl, rfl⟩

/-- A run of the loop of a silent batch, from any slot, flag and items already recorded: it
ends silent exactly when it started silent or gets to a prepared job, and the items it adds
each failed or were never attempted.  By induction on the jobs, one step at a time. -/
theorem run_runJobs_of_silent (silentCall : cfg.silent = true) :
    forall (jobs : List Job) (slot : Nat) (flag : Bool) (acc : List ItemOutcome) (w : World σ)
      {flag' : Bool} {outcomes : List ItemOutcome} {w' : World σ},
      Op.run link w (c.runJobs op cfg jobs slot flag acc) = (some (flag', outcomes), w') ->
      (flag' = true <-> flag = true \/ Exists fun j => Exists fun job => jobs[j]? = some job /\
        c.Reaches link op cfg w jobs slot j /\ c.prepares op job = true) /\
      ∀ o ∈ outcomes, o ∈ acc \/ o = .notAttempted \/ Exists fun e => o = .failed e
  | [], slot, flag, acc, w, _, _, _, finished => by
      rw [run_runJobs_nil] at finished
      cases finished
      exact ⟨by simp, fun o member => .inl (List.mem_reverse.mp member)⟩
  | job :: jobs, slot, flag, acc, w, _, _, _, finished => by
      obtain ⟨st, w₁, stepped, after⟩ := run_runJobs_cons_some finished
      rcases run_batchStep_of_silent silentCall stepped with ⟨rfl, found⟩ | ⟨o, rfl, unset, recorded⟩
      · -- the look finds the handle set: no job is reached, and the rest are not attempted
        obtain ⟨rfl, rfl, rfl⟩ := after
        refine ⟨?_, ?_⟩
        · have unreached : forall j, ¬ c.Reaches link op cfg w (job :: jobs) slot j :=
            not_reaches_of_stop found stepped
          simp only [unreached, false_and, and_false, exists_false, or_false]
        · intro o member
          rcases List.mem_append.mp member with old | unattempted
          · exact .inl (List.mem_reverse.mp old)
          · obtain ⟨_, _, rfl⟩ := List.mem_map.mp unattempted
            exact .inr (.inl rfl)
      · -- the step goes on: the job is reached, and counts when it was prepared
        obtain ⟨silentAfter, recordedAfter⟩ :=
          run_runJobs_of_silent silentCall jobs (slot + 1) _ (o :: acc) w₁ after
        refine ⟨?_, ?_⟩
        · rw [silentAfter, Bool.or_eq_true]
          constructor
          · rintro ((early | prepared) | ⟨j, later, listed, reached, prepared⟩)
            · exact .inl early
            · exact .inr ⟨0, job, rfl, .here unset, prepared⟩
            · exact .inr ⟨j + 1, later, listed, (reaches_succ_iff_of_next stepped).mpr reached,
                prepared⟩
          · rintro (early | ⟨j, later, listed, reached, prepared⟩)
            · exact .inl (.inl early)
            · cases j with
              | zero =>
                  cases listed
                  exact .inl (.inr prepared)
              | succ j =>
                  exact .inr ⟨j, later, listed, (reaches_succ_iff_of_next stepped).mp reached,
                    prepared⟩
        · intro o' member
          rcases recordedAfter o' member with old | fresh
          · rcases List.mem_cons.mp old with rfl | old
            · exact .inr recorded
            · exact .inl old
          · exact .inr fresh

/-- A batch under a silent call.  Whenever its cancel handle fires and whatever its connection
answers, it reports only that it was silent exactly when the loop got to a job that passes
preparation (its key found and valid, its payload present unless it is a removal) before
finding the handle set; otherwise it reports its items, each failed or never attempted.  And
when the handle is never set and the connections answer, a silent batch and the same batch
without silence both finish, and the requests of the silent one are those of the other, each
with `silent=true` put first among its query parameters, whatever either connection answers. -/
theorem runBatch_silent_iff_prepared (c : Collection) (op : WriteOp) (jobs : List Job)
    (cfg : CallConfig) (silentCall : cfg.silent = true) :
    (forall {σ : Type} (link : Link σ) (w : World σ) {b : BatchOutcome} {w' : World σ},
      Op.run link w (c.runBatch op jobs cfg) = (some b, w') ->
      (b = .silent <-> Exists fun j => Exists fun job => jobs[j]? = some job /\
        c.Reaches link op cfg w jobs 0 j /\ c.prepares op job = true) /\
      forall outcomes, b = .items outcomes ->
        ∀ o ∈ outcomes, o = .notAttempted \/ Exists fun e => o = .failed e) /\
    (forall {σ τ : Type} (quietLink : Link σ) (loudLink : Link τ) (w₁ : World σ) (w₂ : World τ),
      quietLink.Calm w₁ cfg -> loudLink.Calm w₂ cfg -> quietLink.Answers -> loudLink.Answers ->
      Exists fun requests : List Request =>
      Exists fun b₁ => Exists fun w₁' => Exists fun b₂ => Exists fun w₂' =>
        Op.run quietLink w₁ (c.runBatch op jobs cfg) = (some b₁, w₁') /\
        Op.run loudLink w₂ (c.runBatch op jobs { cfg with silent := false }) = (some b₂, w₂') /\
        w₁'.sent = w₁.sent ++ requests.map Request.silenced /\ w₂'.sent = w₂.sent ++ requests) := by
  refine ⟨?_, ?_⟩
  · intro σ link w b w' finished
    obtain ⟨flag, outcomes, ran, rfl⟩ := run_runBatch_some finished
    obtain ⟨silentIff, recorded⟩ := run_runJobs_of_silent silentCall jobs 0 false [] w ran
    have reached : flag = true <-> Exists fun j => Exists fun job => jobs[j]? = some job /\
        c.Reaches link op cfg w jobs 0 j /\ c.prepares op job = true := by
      simpa using silentIff
    refine ⟨?_, ?_⟩
    · rw [← reached]
      cases flag <;> simp
    · intro items same o member
      cases flag
      · cases same
        simpa using recorded o member
      · cases same
  · intro σ τ quietLink loudLink w₁ w₂ quietCalm loudCalm quietAnswers loudAnswers
    obtain ⟨_, w₁', flag₁, outcomes₁, _, quietRan, _, _, quietSent, _⟩ :=
      run_runJobs_of_calm quietAnswers c op jobs 0 false [] w₁ quietCalm
    -- the handle is the same in the call without silence
    have loudCalm' : loudLink.Calm w₂ { cfg with silent := false } := loudCalm
    obtain ⟨_, w₂', flag₂, outcomes₂, _, loudRan, _, _, loudSent, _⟩ :=
      run_runJobs_of_calm loudAnswers c op jobs 0 false [] w₂ loudCalm'
    refine ⟨jobs.filterMap (c.jobRequest op { cfg with silent := false }),
      if flag₁ then .silent else .items outcomes₁, w₁', if flag₂ then .silent else .items outcomes₂,
      w₂', ?_, ?_, ?_, loudSent⟩
    · rw [run_runBatch, quietRan]
    · rw [run_runBatch, loudRan]
    · rw [quietSent, List.map_filterMap]
      have perJob : c.jobRequest op cfg =
          fun job => (c.jobRequest op { cfg with silent := false } job).map Request.silenced :=
        funext (jobRequest_of_silent silentCall)
      rw [perJob]

/-- A silent creation of one document over a connection that accepts everything: the batch is
silent, and its request is the loud batch's with `silent=true` first. -/
theorem runBatch_silent_iff_prepared_accepting :
    let c : Collection := ⟨"users", .document⟩
    let jobs : List Job := [⟨.ok none, some (.object [])⟩]
    let cfg : CallConfig := { silent := true, cancel := true }
    let link : Link Unit := Link.answering (.ok ⟨202, []⟩)
    let w : World Unit := { line := () }
    ((BatchOutcome.silent = .silent <-> Exists fun j => Exists fun job => jobs[j]? = some job /\
        c.Reaches link .create cfg w jobs 0 j /\ c.prepares .create job = true) /\
      forall outcomes, BatchOutcome.silent = .items outcomes ->
        ∀ o ∈ outcomes, o = .notAttempted \/ Exists fun e => o = .failed e) /\
    Exists fun requests : List Request =>
      Exists fun b₁ => Exists fun w₁' => Exists fun b₂ => Exists fun w₂' =>
        Op.run link w (c.runBatch .create jobs cfg) = (some b₁, w₁') /\
        Op.run link w (c.runBatch .create jobs { cfg with silent := false }) = (some b₂, w₂') /\
        w₁'.sent = w.sent ++ requests.map Request.silenced /\ w₂'.sent = w.sent ++ requests :=
  have calm : (Link.answering (.ok ⟨202, []⟩) : Link Unit).Calm { line := () }
      { silent := true, cancel := true } := fun _ => ⟨rfl, Link.answering_quiet _⟩
  have answers : (Link.answering (.ok ⟨202, []⟩) : Link Unit).Answers :=
    Link.answering_answers (by intro same; cases same)
  ⟨(runBatch_silent_iff_prepared _ .create _ _ rfl).1 _ _ rfl,
    (runBatch_silent_iff_prepared _ .create _ _ rfl).2 _ _ _ _ calm calm answers answers⟩

end Collection

end DocClient
