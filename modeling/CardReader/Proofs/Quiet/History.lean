import Mathlib.Algebra.GroupWithZero.Nat
import CardReader.Proofs.Quiet.Calls

/-!
# Fault-free histories

A fault-free part whose times are short enough for its controller is quiet after every valid call
if it was quiet before.  A series of such calls that starts with a new part, however long it is
and whatever calls it is made of, therefore never fails, and never says anything to a part that
cannot hear it.

What is proved here:

* `ends_run_of_quiet` — one valid call, and the time that it takes;
* `history_mirrors` — a history is the same through any view;
* `history_of_workable` — the history of a new part.
-/

namespace CardReader

open Flash

/-! ## Configurations without surprises -/

/-- The controller can drive the part as it is set up to, and waits long enough for all its
work. -/
structure Part.Config.Workable (config : Part.Config) : Prop where
  valid : config.validate = .ok ()
  programMode : config.controller.programMode.check (Part.new config).features = .ok ()
  readMode : config.controller.readMode.check (Part.new config).features = .ok ()
  /-- The last block of a program goes into the write FIFO as a whole. -/
  writeDepth : Cipher.blockSize ≤ config.writeDepth
  dmaChannel : config.controller.dmaChannel < config.dmaChannels
  programTime : config.pageProgramTime ≤ config.controller.poll.timeout
  eraseTime : ∀ unit, (Part.new config).eraseTime unit ≤ config.controller.poll.timeout
  writeStatusTime : config.writeStatusTime ≤ config.controller.poll.timeout
  /-- The part has recovered from a reset before the controller goes on. -/
  resetRecoveryTime : config.resetRecoveryTime ≤ Controller.resetSettle

namespace Flash.Controller

/-! ## Calls -/

namespace Call

/-- A call with arguments that the controller accepts, which neither sends an opcode of the
caller's choice nor puts the part to sleep. -/
def Valid (config : Part.Config) : Call → Prop
  | configure _ | readId => True
  | readStatus opcode =>
    opcode ∈ [Opcode.readStatus1, Opcode.readStatus2, Opcode.readStatus3]
  | writeParam opcode _ =>
    opcode ∈ [Opcode.writeStatus1, Opcode.writeStatus2, Opcode.writeStatus3]
  | erase unit addr => addr < addressSpace ∨ unit = .chip
  | program base payload _ cipher => checkProgram base payload cipher = .ok ()
  | programOnePage addr payload =>
    checkRange addr payload.length = .ok () ∧ addr % pageSize + payload.length ≤ pageSize
  | read addr len => checkRange addr len = .ok ()
  | softReset mode => mode.check (Part.new config).features = .ok ()
  | singleCommand _ | deepPowerDown | releasePowerDown => False

/-- Microseconds that a valid call takes on a part that is quiet: the polls until its work is
over. -/
def time (config : Part.Config) : Call → Nat
  | writeParam _ _ => config.controller.poll.span config.writeStatusTime
  | erase unit _ => config.controller.poll.span ((Part.new config).eraseTime unit)
  | program base payload useDma cipher =>
    (plan base useDma (Cipher.encipher payload cipher)).length *
      config.controller.poll.span config.pageProgramTime
  | programOnePage _ payload =>
    if payload.isEmpty then 0 else config.controller.poll.span config.pageProgramTime
  | softReset _ => resetSettle
  | _ => 0

/-- The settings after a call: only `configure` changes them. -/
def settings (before : ControllerConfig) : Call → ControllerConfig
  | configure params => { before with device := params.getD before.device }
  | _ => before

end Call

section Run

variable {config : Part.Config} {rig : Rig Watched} {call : Call}

theorem programmable_of_workable (h : config.Workable) (device : DeviceParams) :
    Programmable { config.controller with device } config :=
  ⟨h.programMode, h.writeDepth, h.dmaChannel, h.programTime⟩

/-- A valid call is answered, takes its time and leaves the part quiet. -/
theorem ends_run_of_quiet (hworkable : config.Workable) (device : DeviceParams)
    (hquiet : Quiet config rig) (hvalid : call.Valid config)
    (hclock : rig.clock.now + call.time config ≤ lastInstant) :
    Op.Ends (call.run { config.controller with device }) rig
      (fun _ r => Quiet config r ∧ r.clock.now = rig.clock.now + call.time config)
      fun _ _ => False := by
  have hprogrammable := programmable_of_workable hworkable device
  have hstill : ∀ {α : Type} {op : Op Watched α},
      Op.Ends op rig (fun _ r => Quiet config r ∧ r.clock = rig.clock) (fun _ _ => False) →
        Op.Ends (do let _ ← op) rig
          (fun _ r => Quiet config r ∧ r.clock.now = rig.clock.now + 0) fun _ _ => False := by
    intro α op hop
    exact hop.bind fun _ _ h => ⟨h.1, congrArg Clock.now h.2⟩
  cases call with
  | configure params => exact hstill (ends_configure_of_quiet hquiet params)
  | readId => exact hstill (ends_readId_of_quiet hquiet)
  | readStatus opcode => exact hstill (ends_readStatus_of_quiet hquiet hvalid)
  | writeParam opcode value =>
    exact ends_writeParam_of_quiet hquiet hvalid hworkable.writeStatusTime hclock
  | erase unit addr => exact ends_erase_of_quiet hquiet hvalid (hworkable.eraseTime unit) hclock
  | program base payload useDma cipher =>
    exact Op.ends_bind.2 (ends_program_of_quiet hquiet hprogrammable hvalid hclock)
  | programOnePage addr payload =>
    exact ends_programOnePage_of_quiet hquiet hprogrammable hvalid.1 hvalid.2 hclock
  | read addr len =>
    have hdepth : config.readDepth ≠ 0 := (Part.Config.validate_eq_ok_iff.1 hworkable.valid).2.2.1
    exact hstill (ends_read_of_quiet hquiet hworkable.readMode hdepth hvalid)
  | softReset mode =>
    exact ends_softReset_of_quiet hquiet hvalid hworkable.resetRecoveryTime hclock
  | singleCommand opcode => exact hvalid.elim
  | deepPowerDown => exact hvalid.elim
  | releasePowerDown => exact hvalid.elim

end Run

/-! ## Histories -/

/-- What becomes of each call of a series, and the rig that it leaves to the next. -/
def history {σ : Type} [Bus σ] (settings : ControllerConfig) :
    List Call → Rig σ → List (Except Failure Unit × Rig σ)
  | [], _ => []
  | call :: rest, rig =>
    call.run settings rig :: history (call.settings settings) rest (call.run settings rig).2

theorem history_mirrors {σ τ : Type} [Bus σ] [Bus τ] {view : σ → τ} [Bus.View view]
    (calls : List Call) :
    ∀ (settings : ControllerConfig) (rig : Rig σ), history settings calls (rig.map view) =
      (history settings calls rig).map (Prod.map id (Rig.map view)) := by
  induction calls with
  | nil => exact fun _ _ => rfl
  | cons call rest ih =>
    intro settings rig
    rw [history, history, List.map_cons, call.mirrors_run settings rig]
    exact congrArg _ (ih _ (call.run settings rig).2)

/-- A series of valid calls on a quiet part. -/
theorem history_of_quiet {config : Part.Config} (hworkable : config.Workable) (calls : List Call) :
    ∀ (device : DeviceParams) (rig : Rig Watched), Quiet config rig →
      (∀ call ∈ calls, call.Valid config) →
      rig.clock.now + (calls.map (Call.time config)).sum ≤ lastInstant →
      (∀ visit ∈ history { config.controller with device } calls rig,
        visit.1 = .ok () ∧ Quiet config visit.2) ∧
      rig.clock.now :: (history { config.controller with device } calls rig).map
          (fun visit => visit.2.clock.now) =
        (calls.map (Call.time config)).scanl (· + ·) rig.clock.now := by
  induction calls with
  | nil =>
    intro device rig _ _ _
    simp [history]
  | cons call rest ih =>
    intro device rig hquiet hvalid hclock
    rw [List.map_cons, List.sum_cons] at hclock
    obtain ⟨hvalidCall, hvalidRest⟩ := List.forall_mem_cons.1 hvalid
    obtain ⟨⟨⟩, r, hrun, hquiet', hnow⟩ := (ends_run_of_quiet hworkable device hquiet hvalidCall
      (by omega)).exists_ok
    have hsettings : ∃ device', call.settings { config.controller with device } =
        { config.controller with device := device' } := by
      cases call with
      | configure params => exact ⟨_, rfl⟩
      | _ => exact ⟨device, rfl⟩
    obtain ⟨device', hsettings⟩ := hsettings
    obtain ⟨hvisits, htimes⟩ := ih device' r hquiet' hvalidRest (by omega)
    rw [history, hrun, hsettings]
    refine ⟨List.forall_mem_cons.2 ⟨⟨rfl, hquiet'⟩, hvisits⟩, ?_⟩
    rw [List.map_cons, List.map_cons, List.scanl_cons, ← hnow, htimes]

/-- A new part is quiet. -/
theorem quiet_new (config : Part.Config) (cells : Part.Cells) (clock : Clock)
    (progress : Array Progress) :
    Quiet config { bus := { part := { config, cells } }, clock, progress } := by
  refine ⟨rfl, rfl, ⟨rfl, ?_, ?_⟩, rfl, rfl, nofun, nofun⟩
  · exact decide_eq_false (Nat.not_lt_zero clock.now)
  · exact decide_eq_false (Nat.not_lt_zero clock.now)

/-- However many valid calls are made of a new part, in whatever order: each is answered, each
command finds a part that hears it and, unless it reads the status, one that is listening, each
call leaves nothing behind, and the clock shows the times of the calls so far. -/
theorem history_of_workable {config : Part.Config} {calls : List Call} {clock : Clock}
    (cells : Part.Cells) (hworkable : config.Workable)
    (hvalid : ∀ call ∈ calls, call.Valid config)
    (hclock : clock.now + (calls.map (Call.time config)).sum ≤ lastInstant) :
    let part : Part := { config, cells }
    let watched : List (Except Failure Unit × Rig Watched) :=
      history config.controller calls { bus := { part }, clock }
    history config.controller calls { bus := part, clock } =
        watched.map (Prod.map id (Rig.map Watched.part)) ∧
      (∀ visit ∈ watched, visit.1 = .ok () ∧ visit.2.bus.Attentive ∧
        Part.AtRest visit.2.clock visit.2.bus.part) ∧
      clock.now :: watched.map (fun visit => visit.2.clock.now) =
        (calls.map (Call.time config)).scanl (· + ·) clock.now := by
  intro part watched
  obtain ⟨hvisits, htimes⟩ := history_of_quiet hworkable calls config.controller.device
    { bus := { part }, clock } (quiet_new config cells clock _) hvalid hclock
  have hsame : history config.controller calls (Rig.map Watched.part { bus := { part }, clock }) =
      watched.map (Prod.map id (Rig.map Watched.part)) := history_mirrors calls _ _
  refine ⟨hsame, ?_, htimes⟩
  intro visit hvisit
  obtain ⟨hanswered, hquiet⟩ := hvisits visit hvisit
  exact ⟨hanswered, hquiet.attentive, hquiet.atRest⟩

/-- A new part is set up, written to, erased, programmed across a page boundary, reset and read:
the clock stands where the polls of each call have left it. -/
theorem history_of_seven_calls :
    let config : Part.Config := { size := 4096 }
    let calls : List Call := [.configure none, .writeParam Opcode.writeStatus2 2,
      .erase .sector 250, .program 250 [1, 2, 3, 4, 5, 6, 7, 8] false .none, .softReset .quadIo,
      .readStatus Opcode.readStatus2, .read 250 8]
    let visits := history config.controller calls { bus := Part.new config, clock := .start }
    config.Workable ∧ (∀ call ∈ calls, call.Valid config) ∧ (∀ visit ∈ visits, visit.1 = .ok ()) ∧
      visits.map (fun visit => visit.2.clock.now) =
        [0, 5000, 50000, 52100, 92100, 92100, 92100] := by
  intro config calls visits
  have hvalidated : config.validate = .ok () := by
    have hpower : Part.Config.isPowerOfTwo config.size = true := by decide +kernel
    simp [Part.Config.validate, hpower, config, Part.Config.maxSize]
  have hworkable : config.Workable := by
    refine ⟨hvalidated, rfl, rfl, by decide, by decide, by decide, ?_, by decide, by decide⟩
    intro unit
    cases unit <;> decide
  have hvalid : ∀ call ∈ calls, call.Valid config := by
    simp only [calls, List.forall_mem_cons]
    exact ⟨trivial, by simp [Call.Valid], .inl (by decide), rfl, rfl, by simp [Call.Valid], rfl,
      List.forall_mem_nil _⟩
  have hplan : (plan 250 false (Cipher.encipher [1, 2, 3, 4, 5, 6, 7, 8] .none)).length = 3 := by
    cbv
  have htimes : calls.map (Call.time config) = [0, 5000, 45000, 2100, 40000, 0, 0] := by
    simp only [calls, List.map, Call.time, hplan]
    decide
  have hclock : Clock.start.now + (calls.map (Call.time config)).sum ≤ lastInstant := by
    rw [htimes]
    decide
  obtain ⟨hsame, hvisits, hnow⟩ :=
    history_of_workable (.erased config.size) hworkable hvalid hclock
  have hplain : visits = _ := hsame
  rw [htimes] at hnow
  rw [hplain]
  refine ⟨hworkable, hvalid, ?_, ?_⟩
  · rintro _ hvisit
    obtain ⟨visit, hmem, rfl⟩ := List.mem_map.1 hvisit
    exact (hvisits visit hmem).1
  · rw [List.map_map]
    exact (List.cons.inj hnow).2

end Flash.Controller

end CardReader
