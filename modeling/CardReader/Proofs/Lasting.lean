import CardReader.Proofs.Part.Changes
import CardReader.Proofs.Program.Run
import CardReader.Proofs.Reachable

/-!
# What outlasts a call

A controller touches its bus through a few calls, and nothing else happens while it works but that
time passes and progress is reported.  So a property that outlasts each of these outlasts whatever
the controller does with them.  The one command that is set apart is the wake-up from deep power
down, which is not among those of a call that lets a part sleep.

What is proved here:

* `lastingWalk` — the walk of what lasts, which counts the waits for the part;
* `lasting_of_moves` — what the calls of the bus are for a part;
* `Lasting.preserves_run` — what outlasts the calls of the bus outlasts every call of the controller
  that lets the part sleep;
* `Lasting.ends_run_of_stuck` — no such call answers that waits for a part that is never ready;
* `reached_of_lasting` — what outlasts a series of calls.
-/

namespace CardReader

open Flash

/-! ## What does not wake a part -/

/-- The move does not wake the part and switches no fault. -/
def Part.Move.LetsSleep : Part.Move → Prop
  | issue command => command.instruction ≠ .releasePowerDown
  | switch _ => False
  | _ => True

namespace Flash

open Op Sequence Controller

theorem Instruction.ofOpcode_ne_releasePowerDown {opcode : UInt8}
    (h : opcode ≠ Opcode.releasePowerDown) : ofOpcode opcode ≠ .releasePowerDown := by
  have hite {p : Prop} [Decidable p] {a b : Instruction} (ha : a ≠ .releasePowerDown)
      (hb : b ≠ .releasePowerDown) : (if p then a else b) ≠ .releasePowerDown := by
    by_cases hp : p
    · rwa [if_pos hp]
    · rwa [if_neg hp]
  rw [ofOpcode, if_neg h]
  repeat' apply hite
  all_goals exact Instruction.noConfusion

/-- The property outlasts all that a controller can do to its bus, short of waking the part. -/
structure Lasting {σ : Type} [Bus σ] (inv : Rig σ → Prop) : Prop where
  issue : ∀ {command : Command}, command.instruction ≠ .releasePowerDown →
    Preserves inv (call (Bus.issue · command))
  pollDone : Preserves inv (call Bus.pollDone)
  write : ∀ data, Preserves inv (call (Bus.writeFifo · data))
  take : ∀ len, Preserves inv (call (Bus.readFifo · len))
  params : ∀ value, Preserves inv (update (Bus.setDeviceParams value))
  flush : Preserves inv (update Bus.flushFifos)
  acquire : ∀ channel, Preserves inv (call (Bus.dmaAcquire · channel))
  start : ∀ channel data, Preserves inv (call (Bus.dmaStart · channel data))
  release : ∀ channel, Preserves inv (update (Bus.dmaRelease channel))
  delay : ∀ us, Preserves inv (delay us)
  report : ∀ event, Preserves inv (report event)

/-! ## Operations of the controller -/

section Operations

variable {σ : Type} [Bus σ] {inv : Rig σ → Prop} {stuck : Prop}

omit [Bus σ] in
/-- A call of the bus goes nowhere, so it counts for nothing. -/
theorem respects_of_preserves {α : Type} {op : Op σ α} (h : Preserves inv op) :
    Respects inv (fun count _ _ => stuck → count = 0) (fun _ => True) 0 op :=
  fun rig hrig => (preserves_iff_ends.1 h rig hrig).mono (fun _ _ hr => ⟨hr, fun _ => rfl⟩)
    fun _ _ hr => ⟨hr, trivial⟩

/-- The law of what lasts.  If the rig is stuck, an operation that answers has counted for
nothing. -/
def lastingLaw (h : Lasting inv) (stuck : Prop) : Law σ where
  Inv := inv
  Step count _ _ := stuck → count = 0
  Allows _ := True
  Sends command count := command.instruction ≠ .releasePowerDown ∧ count = 0
  allows_of_isTimeout _ := trivial
  step_refl _ _ := rfl
  step_add hm hn hstuck := by rw [hm hstuck, hn hstuck]
  respects_delay us := respects_of_preserves (h.delay us)
  respects_report event := respects_of_preserves (h.report event)
  respects_params value := respects_of_preserves (h.params value)
  respects_flush := respects_of_preserves h.flush
  respects_issue := by
    rintro command _ ⟨hwake, rfl⟩
    exact respects_of_preserves (h.issue hwake)
  respects_pollDone := respects_of_preserves h.pollDone

theorem Lasting.waitReady (h : Lasting inv) (policy : PollPolicy) :
    Preserves inv (waitReady policy) :=
  ((lastingLaw h False).rules.rel_waitReady ⟨by decide, rfl⟩ policy).preserves

/-- A walk that counts the waits for the part, none of which answers on a rig that is stuck. -/
def lastingWalk (h : Lasting inv) (config : ControllerConfig)
    (hready : stuck → ∀ rig, inv rig →
      Op.Ends (Sequence.waitReady config.poll) rig (fun _ _ => False) fun _ => inv) :
    Walk σ σ config where
  toRules := (lastingLaw h stuck).rules
  Stages _ := True
  Fetches _ := True
  cost := 0
  wait := 1
  allows_programFailure _ _ := trivial
  allows_dmaNotSupported _ _ := trivial
  sends_writeEnable := ⟨by decide, rfl⟩
  sends_programCommand _ addr len :=
    ⟨by rw [programCommand, Part.instruction_program]; exact Instruction.noConfusion, rfl⟩
  rel_waitReady rig hrig := by
    by_cases hstuck : stuck
    · exact (hready hstuck rig hrig).mono (fun _ _ => False.elim) fun _ _ hr => ⟨hr, trivial⟩
    · exact (preserves_iff_ends.1 (h.waitReady _) rig hrig).mono
        (fun _ _ hr => ⟨hr, fun hs => absurd hs hstuck⟩) fun _ _ hr => ⟨hr, trivial⟩
  rel_stage _ hnext := (lastingLaw h stuck).rules.rel_stage
    (fun data => respects_of_preserves (h.write data)) hnext
  rel_load _ addr data := (lastingLaw h stuck).rel_withChannel trivial
    (respects_of_preserves (h.acquire _)) (respects_of_preserves (h.release _)) <|
    (lastingLaw h stuck).rules.rel_feedChannel
    (respects_of_preserves (h.start _ data)) ((lastingLaw h stuck).rel_idleProbe _)
    ⟨by rw [programCommand, Part.instruction_program]; exact Instruction.noConfusion, rfl⟩
  rel_refill _ opcode := (lastingLaw h stuck).rules.rel_refill
    (fun data => respects_of_preserves (h.write data))
    (fun now => (lastingLaw h stuck).rel_inspect _) opcode _
  rel_readPiece _ _ _ addr := (lastingLaw h stuck).rules.rel_readPiece
    (fun len => respects_of_preserves (preserves_mapFailure _ (h.take len)))
    ⟨by rw [readCommand, Part.instruction_read]; exact Instruction.noConfusion, rfl⟩

end Operations

/-! ## Calls -/

namespace Controller

/-- No command of the call wakes a part, and the controller stays set up as it is. -/
def Call.LetsSleep : Call → Prop
  | configure _ | releasePowerDown => False
  | readStatus opcode | writeParam opcode _ | singleCommand opcode =>
    opcode ≠ Opcode.releasePowerDown
  | _ => True

/-- The call waits for the part before it answers. -/
def Call.Waits : Call → Prop
  | writeParam .. | erase .. => True
  | program _ payload .. | programOnePage _ payload => payload ≠ []
  | _ => False

end Controller

/-! ## Parts -/

/-- What outlasts the moves that a part can meet with outlasts the calls of its controller. -/
theorem lasting_of_moves (inv : Clock → Part → Prop)
    (hmoves : ∀ clock part (move : Part.Move), move.LetsSleep → inv clock part →
      inv (move.tick clock) (move.make clock part)) :
    Lasting fun rig : Rig Part => inv rig.clock rig.bus where
  issue hwake rig := hmoves rig.clock rig.bus (.issue _) hwake
  pollDone rig := hmoves rig.clock rig.bus .poll trivial
  write data rig := hmoves rig.clock rig.bus (.write data) trivial
  take len rig := hmoves rig.clock rig.bus (.take len) trivial
  params value rig := hmoves rig.clock rig.bus (.setParams value) trivial
  flush rig := hmoves rig.clock rig.bus .flush trivial
  acquire channel rig := hmoves rig.clock rig.bus (.acquire channel) trivial
  start channel data rig := hmoves rig.clock rig.bus (.start channel data) trivial
  release channel rig := hmoves rig.clock rig.bus (.release channel) trivial
  delay us rig := hmoves rig.clock rig.bus (.pause (max us 1)) trivial
  report _ _ h := h

namespace Lasting

variable {σ : Type} [Bus σ] {inv : Rig σ → Prop} {config : ControllerConfig} {call : Call}

/-- No command of a call that lets a part sleep is the wake-up. -/
theorem sends_of_letsSleep (hsleep : call.LetsSleep) :
    ∀ command ∈ call.commands, command.instruction ≠ .releasePowerDown := by
  intro command hcommand
  cases call with
  | configure | releasePowerDown => exact hsleep.elim
  | readStatus | writeParam | singleCommand =>
    cases List.mem_singleton.1 hcommand
    exact Instruction.ofOpcode_ne_releasePowerDown hsleep
  | erase unit addr =>
    cases List.mem_singleton.1 hcommand
    rw [Part.instruction_eraseCommand]
    exact Instruction.noConfusion
  | softReset mode =>
    have henable : Opcode.resetEnable ≠ Opcode.releasePowerDown := by decide
    have hreset : Opcode.reset ≠ Opcode.releasePowerDown := by decide
    simp only [Call.commands, List.mem_cons, List.not_mem_nil, or_false] at hcommand
    obtain rfl | rfl := hcommand
    · exact Instruction.ofOpcode_ne_releasePowerDown henable
    · exact Instruction.ofOpcode_ne_releasePowerDown hreset
  | readId | deepPowerDown =>
    cases List.mem_singleton.1 hcommand
    exact Instruction.ofOpcode_ne_releasePowerDown (by decide)
  | program | programOnePage | read => cases hcommand

/-- What outlasts the calls of the bus outlasts every call of the controller that lets a part
sleep. -/
theorem preserves_run (h : Lasting inv) (config : ControllerConfig) (hsleep : call.LetsSleep) :
    Preserves inv (call.run config) := by
  let walk := lastingWalk h config (False.elim : False → _)
  have hpasses : walk.Passes call :=
    walk.passes_of_allows (fun _ => trivial) (fun _ => trivial) (fun _ => trivial) call
  exact (walk.rel_run hpasses fun command hcommand =>
    ⟨sends_of_letsSleep hsleep command hcommand, rfl⟩).preserves

/-- A call that waits for the part counts for something. -/
theorem count_ne_zero {stuck : Prop} (h : Lasting inv)
    (hready : stuck → ∀ rig, inv rig →
      Op.Ends (Sequence.waitReady config.poll) rig (fun _ _ => False) fun _ => inv)
    (hwaits : call.Waits) : (lastingWalk h config hready).count call ≠ 0 := by
  cases call with
  | writeParam => exact Nat.one_ne_zero
  | erase unit addr => cases unit <;> exact Nat.succ_ne_zero _
  | program base payload useDma cipher =>
    exact Nat.mul_ne_zero (fun hnone => plan_ne_nil hwaits (List.length_eq_zero_iff.1 hnone))
      Nat.one_ne_zero
  | programOnePage addr payload =>
    have hpayload : ¬payload.isEmpty = true := fun hempty => hwaits (List.isEmpty_iff.1 hempty)
    rw [Walk.count, if_neg hpayload]
    exact Nat.one_ne_zero
  | _ => exact hwaits.elim

/-- Where no wait for the part answers, no call that waits for it does. -/
theorem ends_run_of_stuck (h : Lasting inv) (hready : ∀ rig, inv rig →
      Op.Ends (Sequence.waitReady config.poll) rig (fun _ _ => False) fun _ => inv)
    (hsleep : call.LetsSleep) (hwaits : call.Waits) {rig : Rig σ} (hrig : inv rig) :
    Op.Ends (call.run config) rig (fun _ _ => False) fun _ => inv := by
  let walk := lastingWalk h config (fun _ : True => hready)
  have hpasses : walk.Passes call :=
    walk.passes_of_allows (fun _ => trivial) (fun _ => trivial) (fun _ => trivial) call
  have hrun := walk.rel_run hpasses fun command hcommand =>
    ⟨sends_of_letsSleep hsleep command hcommand, rfl⟩
  refine (hrun rig hrig).mono ?_ fun _ _ hr => hr.1
  rintro _ _ ⟨-, hcount⟩
  exact h.count_ne_zero _ hwaits (hcount trivial)

end Lasting

/-! ## Series of calls -/

namespace Controller

/-- The rig after a series of calls, whatever became of each. -/
def reached {σ : Type} [Bus σ] (settings : ControllerConfig) (calls : List Call) (rig : Rig σ) :
    Rig σ := calls.foldl (fun rig call => (call.run settings rig).2) rig

/-- What outlasts the calls of the bus outlasts a series of calls that let a part sleep. -/
theorem reached_of_lasting {σ : Type} [Bus σ] {inv : Rig σ → Prop} (h : Lasting inv)
    (settings : ControllerConfig) {calls : List Call} (hcalls : ∀ call ∈ calls, call.LetsSleep)
    {rig : Rig σ} (hrig : inv rig) : inv (reached settings calls rig) := by
  induction calls generalizing rig with
  | nil => exact hrig
  | cons call rest ih =>
    obtain ⟨hcall, hrest⟩ := List.forall_mem_cons.1 hcalls
    exact ih hrest (h.preserves_run settings hcall rig hrig)

/-- A series of calls keeps the shape of a part. -/
theorem shape_reached (settings : ControllerConfig) (calls : List Call) (rig : Rig Part) :
    (reached settings calls rig).bus.shape = rig.bus.shape := by
  induction calls generalizing rig with
  | nil => rfl
  | cons call rest ih => exact (ih _).trans (call.shape_run settings rig)

end Controller

end Flash

end CardReader
