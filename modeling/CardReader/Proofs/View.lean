import CardReader.Proofs.Walk.Operations

/-!
# Views of a bus

One bus can be seen as another if each of its calls is seen as the same call of the other.  An
operation is built from calls of its bus, so it is then seen as the same operation: what a richer
bus notes about the calls that it relays changes none of them.

What is proved here:

* `mirrors_bind`, `mirrors_wait` and their companions — the rules that a view respects;
* `mirrors_program` and `Call.mirrors_run` — a program and every call do the same through any view.
-/

namespace CardReader

open Flash

namespace Flash

/-! ## Views -/

/-- A way to see one bus as another: what a call does to the first is, seen so, what the same call
does to the second. -/
class Bus.View {σ τ : Type} [Bus σ] [Bus τ] (view : σ → τ) : Prop where
  features : ∀ bus, Bus.features (view bus) = Bus.features bus
  readDepth : ∀ bus, Bus.readDepth (view bus) = Bus.readDepth bus
  writeDepth : ∀ bus, Bus.writeDepth (view bus) = Bus.writeDepth bus
  writeLevel : ∀ clock bus, Bus.writeLevel clock (view bus) = Bus.writeLevel clock bus
  setDeviceParams : ∀ value bus,
    Bus.setDeviceParams value (view bus) = view (Bus.setDeviceParams value bus)
  flushFifos : ∀ bus, Bus.flushFifos (view bus) = view (Bus.flushFifos bus)
  writeFifo : ∀ clock data bus,
    Bus.writeFifo clock data (view bus) = Prod.map id view (Bus.writeFifo clock data bus)
  readFifo : ∀ clock count bus,
    Bus.readFifo clock count (view bus) = Prod.map id view (Bus.readFifo clock count bus)
  issue : ∀ clock command bus,
    Bus.issue clock command (view bus) = Prod.map id view (Bus.issue clock command bus)
  pollDone : ∀ clock bus, Bus.pollDone clock (view bus) = Prod.map id view (Bus.pollDone clock bus)
  dmaAcquire : ∀ clock channel bus,
    Bus.dmaAcquire clock channel (view bus) = Prod.map id view (Bus.dmaAcquire clock channel bus)
  dmaStart : ∀ clock channel block bus, Bus.dmaStart clock channel block (view bus) =
    Prod.map id view (Bus.dmaStart clock channel block bus)
  dmaIdle : ∀ clock channel bus,
    Bus.dmaIdle clock channel (view bus) = Bus.dmaIdle clock channel bus
  dmaRelease : ∀ channel bus, Bus.dmaRelease channel (view bus) = view (Bus.dmaRelease channel bus)

/-- The rig with its bus seen as another. -/
def Rig.map {σ τ : Type} (view : σ → τ) (rig : Rig σ) : Rig τ :=
  { bus := view rig.bus, clock := rig.clock, progress := rig.progress }

/-- What the operation does is, seen through `view`, what `plain` does. -/
def Op.Mirrors {σ τ α : Type} (view : σ → τ) (op : Op σ α) (plain : Op τ α) : Prop :=
  ∀ rig, plain (rig.map view) = Prod.map id (Rig.map view) (op rig)

section Constructions

variable {σ τ α β : Type} {view : σ → τ} {op : Op σ α} {plain : Op τ α}

theorem mirrors_inspect {look : σ → α} {plainLook : τ → α}
    (h : ∀ bus, plainLook (view bus) = look bus) :
    Op.Mirrors view (Op.inspect look) (Op.inspect plainLook) := fun rig => by
  rw [Op.inspect, Op.inspect, ← h]
  rfl

/-- What is seen of either bus is what is seen of the first. -/
theorem mirrors_inspect_bind {look : σ → β} {plainLook : τ → β} {next : β → Op σ α}
    {plainNext : β → Op τ α} (hlook : ∀ bus, plainLook (view bus) = look bus)
    (h : ∀ bus, Op.Mirrors view (next (look bus)) (plainNext (look bus))) :
    Op.Mirrors view (Op.inspect look >>= next) (Op.inspect plainLook >>= plainNext) := by
  intro rig
  show plainNext (plainLook (view rig.bus)) (rig.map view) = _
  rw [hlook]
  exact h rig.bus rig

theorem mirrors_update {change : σ → σ} {plainChange : τ → τ}
    (h : ∀ bus, plainChange (view bus) = view (change bus)) :
    Op.Mirrors view (Op.update change) (Op.update plainChange) := by
  rintro ⟨bus, clock, progress⟩
  simp only [Op.update, Rig.map, h]
  rfl

theorem mirrors_call {method : Clock → σ → Except Failure α × σ}
    {plainMethod : Clock → τ → Except Failure α × τ}
    (h : ∀ clock bus, plainMethod clock (view bus) = Prod.map id view (method clock bus)) :
    Op.Mirrors view (Op.call method) (Op.call plainMethod) := by
  rintro ⟨bus, clock, progress⟩
  simp only [Op.call, Rig.map, h]
  rfl

theorem mirrors_bind {next : α → Op σ β} {plainNext : α → Op τ β}
    (h : Op.Mirrors view op plain) (hnext : ∀ a, Op.Mirrors view (next a) (plainNext a)) :
    Op.Mirrors view (op >>= next) (plain >>= plainNext) := by
  intro rig
  show Op.bind plain plainNext (rig.map view) = Prod.map id (Rig.map view) (Op.bind op next rig)
  rw [Op.bind, Op.bind, h]
  cases op rig with
  | mk outcome after =>
    cases outcome with
    | ok a => exact hnext a after
    | error failure => rfl

theorem mirrors_mapFailure (rename : Failure → Failure) (h : Op.Mirrors view op plain) :
    Op.Mirrors view (Op.mapFailure rename op) (Op.mapFailure rename plain) := by
  intro rig
  rw [Op.mapFailure, Op.mapFailure, h]
  cases op rig with
  | mk outcome after => cases outcome <;> rfl

/-- A poll, what it found, and the rest of the wait. -/
theorem pollUntil_eq {σ : Type} (probe : Op σ (Option α)) (forward : Op.Forward probe)
    (late : Failure) (interval : Nat) (deadline : Deadline) (rig : Rig σ) :
    Op.pollUntil probe forward late interval deadline rig =
      match probe rig with
      | (.error failure, after) => (.error failure, after)
      | (.ok (some a), after) => (.ok a, after)
      | (.ok none, after) =>
        if deadline.expired after.clock then (.error late, after)
        else Op.pollUntil probe forward late interval deadline
          { after with clock := after.clock.delay interval } := by
  rw [Op.pollUntil]
  split
  all_goals
    rename_i hprobe
    rw [hprobe]
  rfl

theorem mirrors_pollUntil {probe : Op σ (Option α)} {plainProbe : Op τ (Option α)}
    (forward : Op.Forward probe) (plainForward : Op.Forward plainProbe) (late : Failure)
    (interval : Nat) (deadline : Deadline) (h : Op.Mirrors view probe plainProbe) :
    Op.Mirrors view (Op.pollUntil probe forward late interval deadline)
      (Op.pollUntil plainProbe plainForward late interval deadline) := by
  intro rig
  rw [pollUntil_eq, h]
  fun_induction Op.pollUntil probe forward late interval deadline rig with
  | case1 rig failure after answer =>
    rw [answer]
    rfl
  | case2 rig a after answer =>
    rw [answer]
    rfl
  | case3 rig bus clock progress answer expired =>
    rw [answer]
    exact if_pos expired
  | case4 rig bus clock progress answer expired ih =>
    rw [answer, ← ih, ← h, ← pollUntil_eq plainProbe plainForward]
    exact if_neg expired

theorem mirrors_wait {probe : Op σ (Option α)} {plainProbe : Op τ (Option α)}
    {forward : Op.Forward probe} {plainForward : Op.Forward plainProbe} (late : Failure)
    (policy : PollPolicy) (h : Op.Mirrors view probe plainProbe) :
    Op.Mirrors view (Op.wait probe forward late policy)
      (Op.wait plainProbe plainForward late policy) :=
  fun rig => mirrors_pollUntil forward plainForward late policy.interval _ h rig

end Constructions

/-! ## Operations of the controller -/

open Op Controller

variable {σ τ : Type} [Bus σ] [Bus τ] (view : σ → τ) [Bus.View view]

/-- What a view respects. -/
def mirrorRules : Rules σ τ where
  Rel _ op plain := op.Mirrors view plain
  Holds _ := True
  Allows _ := True
  Sends _ _ := True
  allows_of_isTimeout _ := trivial
  rel_pure _ _ := rfl
  rel_fail _ _ _ := rfl
  rel_bind := mirrors_bind
  rel_mapFailure _ h := mirrors_mapFailure _ h
  rel_wait policy _ h := mirrors_wait _ policy h
  rel_features h := mirrors_inspect_bind Bus.View.features fun bus => h bus trivial
  rel_readDepth h := mirrors_inspect_bind Bus.View.readDepth fun bus => h bus trivial
  rel_writeDepth h := mirrors_inspect_bind Bus.View.writeDepth fun bus => h bus trivial
  rel_clock _ := rfl
  rel_delay _ _ := rfl
  rel_report _ _ := rfl
  rel_params value := mirrors_update (Bus.View.setDeviceParams value)
  rel_flush := mirrors_update Bus.View.flushFifos
  rel_issue {command _} _ := mirrors_call fun clock => Bus.View.issue clock command
  rel_pollDone := mirrors_call fun clock => Bus.View.pollDone clock

variable {view}

theorem mirrors_idleProbe (channel : Nat) : Op.Mirrors view (Sequence.idleProbe channel)
    (Sequence.idleProbe channel) :=
  mirrors_call fun clock bus => by
    simp only [Bus.View.dmaIdle]
    rfl

theorem mirrors_withChannel {α : Type} (channel : Nat) {body : Op σ α}
    {plainBody : Op τ α} (hbody : Op.Mirrors view body plainBody) :
    Op.Mirrors view (Sequence.withChannel channel body)
      (Sequence.withChannel channel plainBody) := by
  refine (mirrorRules view).rel_features (n := 0) fun bus _ => (mirrorRules view).rel_ite
    (fun _ => mirrors_bind (mirrors_call fun clock => Bus.View.dmaAcquire clock channel)
      fun _ rig => ?_) fun _ _ => rfl
  have hrelease : Bus.dmaRelease channel (view (body rig).2.bus) =
      view (Bus.dmaRelease channel (body rig).2.bus) := Bus.View.dmaRelease _ _
  simp only [hbody rig]
  show ((body rig).1, ({ (body rig).2.map view with
    bus := Bus.dmaRelease channel (view (body rig).2.bus) } : Rig τ)) = _
  rw [hrelease]
  rfl

variable (view) in
/-- So an operation does the same through any view. -/
def mirrorWalk (config : ControllerConfig) : Walk σ τ config where
  toRules := mirrorRules view
  Stages _ := True
  Fetches _ := True
  cost := 0
  wait := 0
  allows_programFailure _ _ := trivial
  allows_dmaNotSupported _ _ := trivial
  sends_writeEnable := trivial
  sends_programCommand _ _ _ := trivial
  rel_waitReady := (mirrorRules view).rel_waitReady trivial _
  rel_stage _ h := (mirrorRules view).rel_stage
    (fun data => mirrors_call fun clock => Bus.View.writeFifo clock data) h
  rel_load _ _ data := mirrors_withChannel _ <| (mirrorRules view).rel_feedChannel (n := 0)
    (mirrors_call fun clock => Bus.View.dmaStart clock _ data) (mirrors_idleProbe _) trivial
  rel_refill _ opcode := (mirrorRules view).rel_refill
    (fun data => mirrors_call fun clock => Bus.View.writeFifo clock data)
    (fun now => mirrors_inspect fun bus => Bus.View.writeLevel now bus) opcode _
  rel_readPiece _ _ _ _ := (mirrorRules view).rel_readPiece
    (fun len => mirrors_mapFailure _ (mirrors_call fun clock => Bus.View.readFifo clock len))
    trivial

namespace Controller

theorem mirrors_program (config : ControllerConfig) (base : Nat) (payload : List UInt8)
    (useDma : Bool) (cipher : CipherMode) :
    Op.Mirrors view (program config base payload useDma cipher)
      (program config base payload useDma cipher) :=
  (mirrorWalk view config).rel_program (fun _ _ => trivial) (fun _ _ _ _ => trivial)
    fun _ _ _ => trivial

/-- A call does the same through any view. -/
theorem Call.mirrors_run (config : ControllerConfig) (call : Call) :
    Op.Mirrors view (call.run config) (call.run config) := by
  let walk := mirrorWalk view config
  have hpasses : walk.Passes call :=
    walk.passes_of_allows (fun _ => trivial) (fun _ => trivial) (fun _ => trivial) call
  exact walk.rel_run hpasses fun _ _ => trivial

end Controller

end Flash

end CardReader
