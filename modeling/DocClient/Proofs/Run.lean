import DocClient.Call.Link

namespace DocClient

/-!
# Running operations

`Op.run` runs an operation from a world.  The equations here take a run apart, so that later
proofs never unfold the monad: a bound operation runs its first part and then the rest from
the world the first part left, and each primitive (handing a request over, looking at the
cancel handle, sending under a call) runs as a small function of the world.

Two facts about the cancel handle carry the later proofs.  Once set it stays set: neither a
look nor a request resets it.  And when neither the connection nor the world around it ever
fires it, an unset handle stays unset, so looking at it changes nothing and a send is a plain
execute.
-/

namespace World

variable {σ : Type} (w : World σ) (link : Link σ)

@[simp] theorem look_old : (w.look link).old = w.old := rfl

@[simp] theorem look_new : (w.look link).new = w.new := rfl

@[simp] theorem handOver_sent (r : Request) : (w.handOver link r).2.sent = w.sent ++ [r] := rfl

@[simp] theorem handOver_old (r : Request) : (w.handOver link r).2.old = w.old := rfl

@[simp] theorem handOver_new (r : Request) : (w.handOver link r).2.new = w.new := rfl

/-- Two worlds that differ at most in their sinks. -/
structure SameWire (w w' : World σ) : Prop where
  line : w'.line = w.line
  sent : w'.sent = w.sent
  cancelled : w'.cancelled = w.cancelled

theorem SameWire.refl : SameWire w w := ⟨rfl, rfl, rfl⟩

theorem SameWire.trans {w₁ w₂ w₃ : World σ} (first : SameWire w₁ w₂) (second : SameWire w₂ w₃) :
    SameWire w₁ w₃ :=
  ⟨second.line.trans first.line, second.sent.trans first.sent,
    second.cancelled.trans first.cancelled⟩

end World

namespace Link

variable {σ : Type}

/-- Neither the connection nor the world around it ever fires the cancel handle. -/
def Quiet (link : Link σ) : Prop :=
  (forall line r, (link.react line r).1.cancels = false) /\ forall line, link.fires line = (false, line)

/-- The cancel handle of a call is never found set in a run from `w`: it is not attached, or
it is unset at the start and nothing fires it. -/
def Calm (link : Link σ) (w : World σ) (cfg : CallConfig) : Prop :=
  cfg.cancel = true -> w.cancelled = false /\ link.Quiet

/-- The connection answers every request, and never with `cancelled` of its own. -/
def Answers (link : Link σ) : Prop :=
  forall line r, Exists fun a => (link.react line r).1.reply = .answer a /\ a ≠ .error .cancelled

/-- The connection that answers every request with `a`, in a world that never fires the handle. -/
def answering (a : Except Error Response) : Link σ where
  react line _ := (⟨false, .answer a⟩, line)

theorem answering_quiet (a : Except Error Response) : (answering a : Link σ).Quiet :=
  ⟨fun _ _ => rfl, fun _ => rfl⟩

theorem answering_answers {a : Except Error Response} (other : a ≠ .error .cancelled) :
    (answering a : Link σ).Answers :=
  fun _ _ => ⟨a, rfl, other⟩

/-- Under a quiet link a look at an unset handle changes nothing. -/
theorem Quiet.look_eq {link : Link σ} (quiet : link.Quiet) {w : World σ}
    (unset : w.cancelled = false) : w.look link = w := by
  cases w
  simp_all [World.look, quiet.2]

/-- Under a quiet link a request leaves the handle as it was. -/
theorem Quiet.handOver_cancelled {link : Link σ} (quiet : link.Quiet) (w : World σ)
    (r : Request) : (w.handOver link r).2.cancelled = w.cancelled := by
  simp [World.handOver, quiet.1]

end Link

namespace Op

variable {σ : Type} (link : Link σ) (w : World σ)

theorem run_bind {α β : Type} (x : Op σ α) (f : α -> Op σ β) :
    Op.run link w (x >>= f) = match Op.run link w x with
      | (some a, w') => Op.run link w' (f a)
      | (none, w') => (none, w') := by
  simp only [Op.run, ReaderT.run_bind, ExceptT.run_bind, StateT.run_bind]
  rcases (ReaderT.run x link).run.run w with ⟨_ | a, w'⟩ <;> rfl

/-- A bound operation that finishes had a first part that finished. -/
theorem run_bind_some {α β : Type} {x : Op σ α} {f : α -> Op σ β} {b : β} {w' : World σ}
    (finished : Op.run link w (x >>= f) = (some b, w')) :
    Exists fun a => Exists fun w₁ => Op.run link w x = (some a, w₁) /\ Op.run link w₁ (f a) = (some b, w') := by
  rw [run_bind] at finished
  split at finished
  · rename_i a w₁ first
    exact ⟨a, w₁, first, finished⟩
  · cases finished

@[simp] theorem run_pure {α : Type} (a : α) : Op.run link w (pure a : Op σ α) = (some a, w) := rfl

@[simp] theorem run_stall {α : Type} : Op.run link w (stall : Op σ α) = (none, w) := rfl

@[simp] theorem run_exchange (r : Request) :
    Op.run link w (exchange r) = (some (w.handOver link r).1, (w.handOver link r).2) := rfl

@[simp] theorem run_poll : Op.run link w (poll : Op σ Bool) = (some (w.look link).cancelled, w.look link) :=
  rfl

theorem run_putSlot (e : Envelope) (slot : Nat) (v : Json.Value) :
    Op.run link w (putSlot e slot v) = (some (), match e with
      | .old => { w with old := w.old.put slot v }
      | .new => { w with new := w.new.put slot v }) := rfl

theorem run_isCancelled (cfg : CallConfig) :
    Op.run link w (isCancelled cfg) =
      if cfg.cancel then (some (w.look link).cancelled, w.look link) else (some false, w) := by
  unfold isCancelled
  split <;> rfl

theorem run_execute (r : Request) :
    Op.run link w (execute r) = match w.handOver link r with
      | (.answer a, w') => (some a, w')
      | (.silence, w') => (none, w') := by
  unfold execute
  rw [run_bind, run_exchange]
  rcases w.handOver link r with ⟨_ | _, w'⟩ <;> rfl

/-- Sending under a call with its handle attached looks at the handle first, and again when
no answer comes; without the handle it is a plain execute. -/
theorem run_send (cfg : CallConfig) (r : Request) :
    Op.run link w (send cfg r) =
      if cfg.cancel then
        if (w.look link).cancelled then (some (.error .cancelled), w.look link)
        else match (w.look link).handOver link r with
          | (.answer a, w') => (some a, w')
          | (.silence, w') =>
            if (w'.look link).cancelled then (some (.error .cancelled), w'.look link)
            else (none, w'.look link)
      else match w.handOver link r with
        | (.answer a, w') => (some a, w')
        | (.silence, w') => (none, w') := by
  unfold send
  split
  · rw [run_bind, run_poll]
    dsimp only
    split
    · rfl
    · rw [run_bind, run_exchange]
      rcases (w.look link).handOver link r with ⟨_ | _, w'⟩
      · rfl
      · dsimp only
        rw [run_bind, run_poll]
        dsimp only
        split <;> rfl
  · exact run_execute link w r

variable {link w}

/-- A finished run of an operation over each element of a list answers one result per
element. -/
theorem run_mapM_length {α β : Type} {f : α -> Op σ β} :
    forall {xs : List α} {w w' : World σ} {rs : List β},
      Op.run link w (xs.mapM f) = (some rs, w') -> rs.length = xs.length
  | [], w, w', rs, finished => by
      rw [List.mapM_nil, run_pure] at finished
      cases finished
      rfl
  | x :: xs, w, w', rs, finished => by
      rw [List.mapM_cons] at finished
      obtain ⟨_, w₁, _, rest⟩ := run_bind_some link w finished
      obtain ⟨results, _, restRun, done⟩ := run_bind_some link w₁ rest
      rw [run_pure] at done
      cases done
      simp [run_mapM_length restRun]

/-- When the handle is never found set, the loop's look answers `false` and changes nothing. -/
theorem run_isCancelled_of_calm {cfg : CallConfig} (calm : link.Calm w cfg) :
    Op.run link w (isCancelled cfg) = (some false, w) := by
  rw [run_isCancelled]
  cases attached : cfg.cancel
  · rfl
  · obtain ⟨unset, quiet⟩ := calm attached
    rw [if_pos rfl, quiet.look_eq unset, unset]

/-- When the handle is never found set, sending is a plain execute. -/
theorem run_send_of_calm {cfg : CallConfig} (calm : link.Calm w cfg) (r : Request) :
    Op.run link w (send cfg r) = Op.run link w (execute r) := by
  rw [run_send, run_execute]
  cases attached : cfg.cancel
  · rfl
  · obtain ⟨unset, quiet⟩ := calm attached
    have answered : ((w.handOver link r).2).cancelled = false := by
      rw [quiet.handOver_cancelled, unset]
    rw [if_pos rfl, quiet.look_eq unset, unset, if_neg Bool.false_ne_true]
    rcases handed : w.handOver link r with ⟨_ | _, w'⟩
    · rfl
    · rw [handed] at answered
      simp only [quiet.look_eq answered]
      rw [answered, if_neg Bool.false_ne_true]

end Op

end DocClient
