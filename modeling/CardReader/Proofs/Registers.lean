import CardReader.Proofs.Erases
import CardReader.Proofs.Lasting
import CardReader.Proofs.Part.Resets
import CardReader.Proofs.Standby.Calls

/-!
# What the status registers read as

A status register reads as what was last put into it.  A write puts the low byte of its value into
its register, and a value of two bytes for the first register puts the other one into the second;
a reset puts zero into the third.  Nothing else does, whatever has been left in the latch, in the
FIFOs and in the transaction before.

What is proved here:

* `ends_softReset` — what a reset leaves of a listening part;
* `ends_edit` — what a write and a reset do to the registers, and how long each takes;
* `preserves_lost_edit` — a part whose recovery ends after the last instant of the clock stays so;
* `ends_series` — the registers after a series of writes and resets, and `ends_series_in_time` —
  that such a series comes to its end;
* `registers_read_back` — what each of them reads as then.
-/

namespace CardReader

open Flash

namespace Flash.Controller

variable {settings : ControllerConfig} {rig : Rig Part}

/-! ## Resets -/

/-- A reset is carried out by a part that listens, in every mode that can be driven. -/
theorem ends_softReset (hlisten : Part.Listening rig.clock rig.bus) (hfaults : rig.bus.faults = {})
    (mode : BusMode) :
    Op.Ends (softReset settings mode) rig
      (fun _ r => (∃ log transaction, r.bus =
          { rig.bus.reset rig.clock with log, transaction, resetArmed := false }) ∧
        r.clock = rig.clock.delay resetSettle)
      fun _ _ => mode.check rig.bus.features ≠ .ok () := by
  have hresponse : rig.bus.faults.unresponsive = false := by rw [hfaults]
  rw [softReset, Op.ends_bind, Op.ends_inspect, Op.ends_bind, Op.ends_check]
  refine ⟨fun _ hmode => ?_, fun failure hmode h => ?_⟩
  · let enable := (Command.simple Opcode.resetEnable).withMode mode
    have henable := Part.issue_resetEnable
      (show enable.mode.check rig.bus.features = .ok () from hmode) rfl hlisten
    refine Op.ends_bind.2 ((ends_singleCommand_at_once _ henable rfl hresponse).mono ?_
      fun _ _ => False.elim)
    rintro _ r₁ ⟨hbus₁, hclock₁⟩
    let reset := (Command.simple Opcode.reset).withMode mode
    have hlisten₁ : Part.Listening r₁.clock r₁.bus := by
      rw [hbus₁, hclock₁]
      exact ⟨hlisten.awake, hlisten.alert, hlisten.idle⟩
    have hmode₁ : reset.mode.check r₁.bus.features = .ok () := by
      rw [hbus₁]
      exact hmode
    have hreset := Part.issue_reset_armed hmode₁ rfl hlisten₁ (by rw [hbus₁])
    refine Op.ends_bind.2 ((ends_singleCommand_at_once _ hreset rfl
      (by rw [hbus₁]; exact hresponse)).mono ?_ fun _ _ => False.elim)
    rintro _ r₂ ⟨hbus₂, hclock₂⟩
    refine ⟨⟨r₁.bus.log.push reset, some (.done 0), ?_⟩, by rw [hclock₂, hclock₁]⟩
    show r₂.bus = _
    rw [hbus₂, hclock₁, hbus₁]
    rfl
  · exact absurd (hmode.symm.trans h) nofun

/-! ## Edits -/

/-- A call that changes status registers. -/
inductive Edit where
  /-- A write of a value to a register. -/
  | write (register : StatusRegister) (value : UInt16)
  /-- A reset that is sent in a bus mode. -/
  | reset (mode : BusMode)

namespace Edit

/-- Makes the call. -/
def run {σ : Type} [Bus σ] (settings : ControllerConfig) : Edit → Op σ Unit
  | write register value => writeParam settings (Part.writeStatusOpcode register) value
  | reset mode => softReset settings mode

/-- The byte that the call puts into a register, if it does: the low byte of a value, in the first
register without the two live bits, the high byte in the second register of a value of two bytes
for the first, and zero in the third register for a reset. -/
def sets : Edit → StatusRegister → Option UInt8
  | write .one value, .one => some (Part.storedStatusBits value.toUInt8)
  | write .one value, .two => if 0xFF < value.toNat then some (value >>> 8).toUInt8 else none
  | write .two value, .two => some value.toUInt8
  | write .three value, .three => some value.toUInt8
  | reset _, .three => some 0
  | _, _ => none

/-- Microseconds that the call takes. -/
def time (settings : ControllerConfig) (config : Part.Config) : Edit → Nat
  | write _ _ => settings.poll.span config.writeStatusTime
  | reset _ => resetSettle

/-- The controller can drive the mode of the call. -/
def Driven (features : BusFeatures) : Edit → Prop
  | write _ _ => True
  | reset mode => mode.check features = .ok ()

/-- The high byte of a value is the same in a register of four bytes. -/
theorem toUInt8_shiftRight (value : UInt16) :
    (value.toUInt32 >>> 8).toUInt8 = (value >>> 8).toUInt8 := by
  refine UInt8.toNat_inj.1 ?_
  simp only [UInt32.toNat_toUInt8, UInt16.toNat_toUInt8, UInt32.toNat_shiftRight,
    UInt16.toNat_shiftRight, UInt16.toNat_toUInt32]
  rfl

theorem written_eq (register : StatusRegister) (value : UInt16) (held : StatusRegister → UInt8)
    (other : StatusRegister) :
    Part.written register value held other =
      ((write register value).sets other).getD (held other) := by
  cases register with
  | one =>
    cases other with
    | one => rfl
    | two =>
      have hother : StatusRegister.two ≠ .one := by decide
      rw [Part.written, if_neg hother, toUInt8_shiftRight, sets]
      by_cases hwide : 0xFF < value.toNat
      · rw [if_pos ⟨rfl, rfl, hwide⟩, if_pos hwide, Option.getD_some]
      · rw [if_neg fun h => hwide h.2.2, if_neg hwide, Option.getD_none]
    | three => rfl
  | two => cases other <;> rfl
  | three => cases other <;> rfl

end Edit

/-- What a call that changes status registers leaves of a part that was listening. -/
structure Edited (settings : ControllerConfig) (edit : Edit) (rig r : Rig Part) : Prop where
  config_eq : r.bus.config = rig.bus.config
  faults_eq : r.bus.faults = rig.bus.faults
  writeEnabled_eq : r.bus.writeEnabled = false
  stored_eq : ∀ register,
    r.bus.stored register = (edit.sets register).getD (rig.bus.stored register)
  /-- It takes no longer than a recovery that it may begin. -/
  deafUntil_le : r.bus.deafUntil ≤ rig.clock.now + edit.time settings rig.bus.config
  /-- The part is listening again if the clock can show the end of that recovery. -/
  listening : r.bus.deafUntil ≤ lastInstant → Part.Listening r.clock r.bus
  now_le : r.clock.now ≤ rig.clock.now + edit.time settings rig.bus.config

/-- A write answers if the part needs no longer for it than it is waited for. -/
theorem ends_write_edit (hlisten : Part.Listening rig.clock rig.bus) (hfaults : rig.bus.faults = {})
    (hwrite : rig.bus.config.writeStatusTime ≤ settings.poll.timeout) (register : StatusRegister)
    (value : UInt16) :
    Op.Ends (writeParam settings (Part.writeStatusOpcode register) value) rig
      (fun _ r => Edited settings (.write register value) rig r)
      fun _ _ =>
        lastInstant < rig.clock.now + settings.poll.span rig.bus.config.writeStatusTime := by
  let us := rig.bus.config.writeStatusTime
  let effect : Part → Prop := fun after => after.busyUntil = rig.clock.now + us ∧
    after.writeEnabled = false ∧ after.stored = Part.written register value rig.bus.stored
  have hspan := settings.poll.le_span us
  have hcarried : ∀ armed,
      Part.Armed rig.clock rig.bus.dma rig.bus.writeFifo rig.bus armed →
      Part.Listening rig.clock armed → armed.writeEnabled = true →
      ∃ result issued, Part.issue rig.clock (Command.writeRegister
          (Part.writeStatusOpcode register) value (if value.toNat > 0xFF then 2 else 1)) armed =
            (.ok (), issued) ∧
        issued.transaction = some (.done result) ∧ Part.Steady armed issued ∧ effect issued := by
    intro armed harmed hlisten' hlatch
    obtain ⟨result, issued, hissue, hdone, -, hworking, -, hstored⟩ :=
      Part.issue_writeRegister_underway hlisten' hlatch register value
    refine ⟨result, issued, hissue, hdone, hworking.steady, ?_, hworking.writeEnabled_eq, ?_⟩
    · rw [hworking.busyUntil_eq, harmed.steady.config_eq]
    · rw [hstored, harmed.stored_eq]
  have hact : Op.Ends (writeParam settings (Part.writeStatusOpcode register) value) rig
      (fun _ r => Enacted settings.poll us effect rig r) _ :=
    ends_act_decided (fun _ => id) hlisten hfaults rfl
      (Part.effective_writeRegister register value _) hcarried fun _ h => h.1
  refine hact.mono ?_ ?_
  · rintro _ r ⟨⟨after, ⟨-, hlatch, hstored⟩, huntouched⟩, hsteady, -, hready, -, hnow⟩
    have hrecovered : rig.bus.deafUntil ≤ rig.clock.now :=
      Nat.not_lt.1 (of_decide_eq_false hlisten.alert)
    refine ⟨hsteady.config_eq, hsteady.faults_eq, huntouched.writeEnabled_eq.trans hlatch, ?_, ?_,
      fun _ => hready, ?_⟩
    · intro other
      rw [← Edit.written_eq, ← hstored]
      obtain ⟨_, _, _, hpart⟩ := huntouched
      rw [show r.bus = _ from hpart]
      rfl
    · rw [show r.bus.deafUntil = rig.bus.deafUntil from hsteady.deafUntil_eq]
      exact Nat.le_add_right_of_le hrecovered
    · rw [hnow]
      exact Nat.min_le_left _ _
  · rintro _ r ⟨hlate, -⟩
    refine Nat.lt_of_not_le fun hclock => hlate ⟨PollPolicy.reaches_of_le hwrite, ?_⟩
    exact Nat.le_trans (Nat.add_le_add_left hspan _) hclock

/-- A reset answers if its mode can be driven. -/
theorem ends_reset_edit (hlisten : Part.Listening rig.clock rig.bus) (hfaults : rig.bus.faults = {})
    (hrecovery : rig.bus.config.resetRecoveryTime ≤ resetSettle) (mode : BusMode) :
    Op.Ends (softReset settings mode) rig (fun _ r => Edited settings (.reset mode) rig r)
      fun _ _ => mode.check rig.bus.features ≠ .ok () := by
  refine (ends_softReset hlisten hfaults mode).imp ?_
  rintro _ r ⟨⟨log, transaction, hbus⟩, hclock⟩
  have hnow : r.clock.now = min (rig.clock.now + resetSettle) lastInstant := by
    rw [hclock]
    rfl
  have hdeaf : r.bus.deafUntil = rig.clock.now + rig.bus.config.resetRecoveryTime := by
    rw [hbus]
    rfl
  refine ⟨by rw [hbus]; rfl, by rw [hbus]; rfl, by rw [hbus]; rfl, ?_, ?_, ?_, ?_⟩
  · intro register
    rw [hbus]
    cases register <;> rfl
  · rw [hdeaf]
    exact Nat.add_le_add_left hrecovery _
  · intro hshown
    rw [Part.listening_iff_of_awake (by rw [hbus]; exact hlisten.awake)
      (by rw [hbus]; exact congrArg Part.Faults.stuckBusy hfaults)]
    have hbusy : r.bus.busyUntil = 0 := by
      rw [hbus]
      rfl
    omega
  · rw [hnow]
    exact Nat.min_le_left _ _

/-- Each of the two calls answers if its mode can be driven and the clock can show its end. -/
theorem ends_edit (hlisten : Part.Listening rig.clock rig.bus) (hfaults : rig.bus.faults = {})
    (hwrite : rig.bus.config.writeStatusTime ≤ settings.poll.timeout)
    (hrecovery : rig.bus.config.resetRecoveryTime ≤ resetSettle) (edit : Edit) :
    Op.Ends (edit.run settings) rig (fun _ r => Edited settings edit rig r)
      fun _ _ => ¬(edit.Driven rig.bus.features ∧
        rig.clock.now + edit.time settings rig.bus.config ≤ lastInstant) := by
  cases edit with
  | write register value =>
    exact (ends_write_edit hlisten hfaults hwrite register value).mono (fun _ _ h => h)
      fun _ _ hlate h => Nat.not_le.2 hlate h.2
  | reset mode =>
    exact (ends_reset_edit hlisten hfaults hrecovery mode).mono (fun _ _ h => h)
      fun _ _ hmode h => hmode h.1

/-! ## Recoveries without an end -/

/-- The recovery of the part ends after the last instant that a clock can show. -/
def Lost (part : Part) : Prop := lastInstant < part.deafUntil

theorem lasting_lost : Lasting fun rig : Rig Part => Lost rig.bus := by
  refine lasting_of_moves (fun _ part => Lost part) fun clock part move hmove hlost => ?_
  have hlast := clock.now_le
  have hdeaf : part.deaf clock = true := decide_eq_true (Nat.lt_of_le_of_lt hlast hlost)
  have hsame : (move.make clock part).deafUntil = part.deafUntil := by
    by_cases hissue : ∃ command, move = .issue command
    · obtain ⟨command, rfl⟩ := hissue
      obtain ⟨_, _, _, hdull, -⟩ := Part.issue_of_dull hmove (.inr hdeaf)
      show (Part.issue clock command part).2.deafUntil = part.deafUntil
      rw [hdull]
    · have hframe := Part.Step.frame_make clock part fun command h => hissue ⟨command, h⟩
      exact congrArg Part.Frame.deafUntil hframe
  rw [Lost, hsame]
  exact hlost

/-- Neither a write nor a reset brings such a part back. -/
theorem preserves_lost_edit (edit : Edit) :
    Op.Preserves (fun rig : Rig Part => Lost rig.bus) (edit.run settings) := by
  cases edit with
  | write register value =>
    have hopcode : Part.writeStatusOpcode register ≠ Opcode.releasePowerDown := by
      cases register <;> decide
    exact lasting_lost.preserves_run settings
      (show (Call.writeParam (Part.writeStatusOpcode register) value).LetsSleep from hopcode)
  | reset mode =>
    exact lasting_lost.preserves_run settings (show (Call.softReset mode).LetsSleep from trivial)

/-! ## Series -/

/-- Makes calls one after the other. -/
def series {σ : Type} [Bus σ] (settings : ControllerConfig) : List Edit → Op σ Unit
  | [] => pure ()
  | edit :: rest => do
    edit.run settings
    series settings rest

/-- Microseconds that calls take one after the other. -/
def seriesTime (settings : ControllerConfig) (config : Part.Config) : List Edit → Nat
  | [] => 0
  | edit :: rest => edit.time settings config + seriesTime settings config rest

/-- What a register holds after some calls: the byte that the last of them to reach the register has
put into it, or what it held before them. -/
def held (edits : List Edit) (register : StatusRegister) (before : UInt8) : UInt8 :=
  (edits.filterMap fun edit => edit.sets register).getLastD before

theorem held_cons (edit : Edit) (rest : List Edit) (register : StatusRegister) (before : UInt8) :
    held (edit :: rest) register before =
      held rest register ((edit.sets register).getD before) := by
  rw [held, held, List.filterMap_cons]
  cases edit.sets register with
  | none => rfl
  | some byte => exact List.getLastD_cons

theorem preserves_lost_series (edits : List Edit) :
    Op.Preserves (fun rig : Rig Part => Lost rig.bus) (series settings edits) := by
  induction edits with
  | nil => exact Op.preserves_pure _
  | cons edit rest ih => exact Op.preserves_bind (preserves_lost_edit edit) fun _ => ih

/-- What calls one after the other leave of a part that was listening. -/
structure SeriesDone (edits : List Edit) (rig r : Rig Part) : Prop where
  listening : Part.Listening r.clock r.bus
  faults_eq : r.bus.faults = rig.bus.faults
  stored_eq : ∀ register, r.bus.stored register = held edits register (rig.bus.stored register)
  writeEnabled_eq : edits ≠ [] ∨ rig.bus.writeEnabled = false → r.bus.writeEnabled = false

theorem SeriesDone.cons {edit : Edit} {rest : List Edit} {rig mid r : Rig Part}
    (hedited : Edited settings edit rig mid) (hdone : SeriesDone rest mid r) :
    SeriesDone (edit :: rest) rig r := by
  refine ⟨hdone.listening, hdone.faults_eq.trans hedited.faults_eq, fun register => ?_,
    fun _ => hdone.writeEnabled_eq (.inr hedited.writeEnabled_eq)⟩
  rw [hdone.stored_eq, hedited.stored_eq, held_cons]

/-- After calls that have all answered, the registers hold what the calls have put there, unless a
recovery ends after the last instant of the clock. -/
theorem ends_series (edits : List Edit) :
    ∀ {rig : Rig Part}, Part.Listening rig.clock rig.bus → rig.bus.faults = {} →
      rig.bus.config.writeStatusTime ≤ settings.poll.timeout →
      rig.bus.config.resetRecoveryTime ≤ resetSettle →
      Op.Ends (series settings edits) rig
        (fun _ r => r.bus.deafUntil ≤ lastInstant → SeriesDone edits rig r) fun _ _ => True := by
  induction edits with
  | nil =>
    intro rig hlisten _ _ _
    exact fun _ => ⟨hlisten, rfl, fun _ => rfl, fun h => h.resolve_left fun hne => hne rfl⟩
  | cons edit rest ih =>
    intro rig hlisten hfaults hwrite hrecovery
    refine Op.ends_bind.2 ((ends_edit hlisten hfaults hwrite hrecovery edit).mono ?_
      fun _ _ _ => trivial)
    intro _ mid hedited
    by_cases hshown : mid.bus.deafUntil ≤ lastInstant
    · have hrest := ih (hedited.listening hshown) (hedited.faults_eq.trans hfaults)
        (by rw [hedited.config_eq]; exact hwrite) (by rw [hedited.config_eq]; exact hrecovery)
      exact hrest.imp fun _ r hdone hend => (hdone hend).cons hedited
    · have hlost : Op.Ends (series settings rest) mid _ _ :=
        Op.preserves_iff_ends.1 (preserves_lost_series rest) mid (Nat.not_le.1 hshown)
      exact hlost.mono (fun _ r hlost hend => absurd hend (Nat.not_le.2 hlost)) fun _ _ _ => trivial

/-- Calls that the clock has the time for all answer. -/
theorem ends_series_in_time (edits : List Edit) :
    ∀ {rig : Rig Part}, Part.Listening rig.clock rig.bus → rig.bus.faults = {} →
      rig.bus.config.writeStatusTime ≤ settings.poll.timeout →
      rig.bus.config.resetRecoveryTime ≤ resetSettle →
      (∀ edit ∈ edits, edit.Driven rig.bus.features) →
      rig.clock.now + seriesTime settings rig.bus.config edits ≤ lastInstant →
      rig.bus.deafUntil ≤ lastInstant →
      Op.Ends (series settings edits) rig (fun _ r => r.bus.deafUntil ≤ lastInstant)
        fun _ _ => False := by
  induction edits with
  | nil =>
    intro rig _ _ _ _ _ _ hshown
    exact hshown
  | cons edit rest ih =>
    intro rig hlisten hfaults hwrite hrecovery hdriven hclock _
    rw [seriesTime] at hclock
    refine Op.ends_bind.2 ((ends_edit hlisten hfaults hwrite hrecovery edit).mono ?_ ?_)
    · intro _ mid hedited
      have hconfig := hedited.config_eq
      have hshown : mid.bus.deafUntil ≤ lastInstant := by
        have hle := hedited.deafUntil_le
        omega
      refine ih (hedited.listening hshown) (hedited.faults_eq.trans hfaults)
        (by rw [hconfig]; exact hwrite) (by rw [hconfig]; exact hrecovery) ?_ ?_ hshown
      · intro other hmem
        rw [Part.features_congr hconfig]
        exact hdriven other (List.mem_cons_of_mem _ hmem)
      · have hle := hedited.now_le
        rw [hconfig]
        omega
    · intro _ _ hlate
      exact hlate ⟨hdriven edit List.mem_cons_self, by omega⟩

/-! ## Reading back -/

/-- A listening part shows what its registers store, the latch aside. -/
theorem storable_readStatus {clock : Clock} {part : Part} (hlisten : Part.Listening clock part)
    (register : StatusRegister) :
    Part.storable register (part.readStatus clock register) = part.stored register := by
  cases register with
  | one =>
    have hlive (latch : Bool) :
        Part.storedStatusBits (if latch then StatusBit.writeEnableLatch else 0) = 0 := by
      cases latch <;> decide
    have hor (a b : UInt8) : Part.storedStatusBits (a ||| b) =
        Part.storedStatusBits a ||| Part.storedStatusBits b := Part.or_and_distrib _ _ _
    show Part.storedStatusBits (part.liveStatus clock) = Part.storedStatusBits part.status1
    rw [Part.liveStatus, hlisten.idle, hlisten.alert, Bool.or_self, if_neg Bool.false_ne_true,
      UInt8.or_zero, hor, hlive, UInt8.or_zero, Part.storedStatusBits_idem]
  | two => rfl
  | three => rfl

/-- A listening part answers with the register that is asked for. -/
theorem ends_readStatus {opcode : UInt8} {register : StatusRegister}
    (hlisten : Part.Listening rig.clock rig.bus) (hfaults : rig.bus.faults = {})
    (hopcode : Instruction.ofOpcode opcode = .readStatus register) :
    Op.Ends (readStatus settings opcode) rig
      (fun value _ => value = rig.bus.readStatus rig.clock register) fun _ _ => False := by
  let command := Command.readRegister opcode 1
  have hanswer : ∀ armed, Part.perform rig.clock command armed (rig.bus.heard command) =
      (.ok (.done (rig.bus.readStatus rig.clock register).toUInt32), rig.bus.heard command) := by
    intro armed
    rw [Part.perform, show command.instruction = _ from hopcode]
    cases register <;> rfl
  have hissue := Part.issue_of_answer (Part.check_single _) hlisten hanswer
  have hresponse : rig.bus.faults.unresponsive = false := by rw [hfaults]
  refine (ends_transact_at_once settings.poll hissue rfl hresponse).bind ?_
  rintro done r ⟨rfl, -, -⟩
  exact UInt8.toUInt8_toUInt32 _

/-- On a part that listens and has no fault, calls that write a status register or reset the part
all answer if the controller can drive them and the clock has the time for them.  If they have all
answered, and no recovery ends only after the last instant of the clock, each register reads as the
byte that the last call to reach it has put there, or as it was if none has; only of the first
register, and only if no call was made, may the latch show as well. -/
theorem registers_read_back (hlisten : Part.Listening rig.clock rig.bus)
    (hfaults : rig.bus.faults = {})
    (hwrite : rig.bus.config.writeStatusTime ≤ settings.poll.timeout)
    (hrecovery : rig.bus.config.resetRecoveryTime ≤ resetSettle) (edits : List Edit) :
    ((∀ edit ∈ edits, edit.Driven rig.bus.features) →
      rig.clock.now + seriesTime settings rig.bus.config edits ≤ lastInstant →
      ∃ last, series settings edits rig = (.ok (), last) ∧ last.bus.deafUntil ≤ lastInstant) ∧
      ∀ last, series settings edits rig = (.ok (), last) → last.bus.deafUntil ≤ lastInstant →
        ∀ register opcode, Instruction.ofOpcode opcode = .readStatus register →
          ∃ value after, readStatus settings opcode last = (.ok value, after) ∧
            Part.storable register value = held edits register (rig.bus.stored register) ∧
            (edits ≠ [] → value = held edits register (rig.bus.stored register)) := by
  refine ⟨fun hdriven hclock => ?_, fun last hrun hshown register opcode hopcode => ?_⟩
  · have hrecovered : rig.bus.deafUntil ≤ rig.clock.now :=
      Nat.not_lt.1 (of_decide_eq_false hlisten.alert)
    obtain ⟨_, last, hrun, hshown⟩ := (ends_series_in_time edits hlisten hfaults hwrite hrecovery
      hdriven hclock (Nat.le_trans hrecovered rig.clock.now_le)).exists_ok
    exact ⟨last, hrun, hshown⟩
  · have hdone := (Op.ends_of_ok hrun).1
      (ends_series edits hlisten hfaults hwrite hrecovery) hshown
    have hanswer : Op.Ends (readStatus settings opcode) last _ _ :=
      ends_readStatus hdone.listening (hdone.faults_eq.trans hfaults) hopcode
    obtain ⟨value, after, hread, rfl⟩ := hanswer.exists_ok
    refine ⟨_, after, hread, ?_, fun hne => ?_⟩
    · rw [storable_readStatus hdone.listening, hdone.stored_eq]
    · rw [Part.readStatus_of_listening hdone.listening (hdone.writeEnabled_eq (.inl hne)),
        hdone.stored_eq]

/-- The second register keeps the high byte of the first of two values for the first one, and a
reset takes what the third register held. -/
theorem registers_read_back_after_reset :
    let bus : Part := { Part.new { size := 16 } with writeEnabled := true, status2 := 0x40 }
    let rig : Rig Part := { bus, clock := .start }
    let edits : List Edit :=
      [.write .two 0x55, .write .one 0x12FF, .write .three 0x60, .write .one 0x1F, .reset .single]
    Part.Listening rig.clock rig.bus ∧ rig.bus.faults = {} ∧
      ∃ last, series {} edits rig = (.ok (), last) ∧
        (∃ after, readStatus {} Opcode.readStatus1 last = (.ok 0x1C, after)) ∧
        (∃ after, readStatus {} Opcode.readStatus2 last = (.ok 0x12, after)) ∧
        ∃ after, readStatus {} Opcode.readStatus3 last = (.ok 0, after) := by
  intro bus rig edits
  have hlisten : Part.Listening rig.clock rig.bus := by decide
  obtain ⟨hanswers, hreads⟩ :=
    registers_read_back (show Part.Listening rig.clock rig.bus from hlisten) rfl
      (show _ ≤ ({} : ControllerConfig).poll.timeout by decide) (by decide) edits
  have hdriven : ∀ edit ∈ edits, edit.Driven rig.bus.features := by
    simp [edits, Edit.Driven, Part.check_single]
  obtain ⟨last, hrun, hshown⟩ := hanswers hdriven (by decide)
  have hread (register : StatusRegister) (opcode value : UInt8)
      (hopcode : Instruction.ofOpcode opcode = .readStatus register)
      (hvalue : held edits register (bus.stored register) = value) :
      ∃ after, readStatus {} opcode last = (.ok value, after) := by
    obtain ⟨_, after, hanswer, -, hheld⟩ := hreads last hrun hshown register opcode hopcode
    exact ⟨after, by rw [hanswer, hheld nofun, ← hvalue]⟩
  exact ⟨hlisten, rfl, last, hrun, hread .one _ _ rfl rfl, hread .two _ _ rfl rfl,
    hread .three _ _ rfl rfl⟩

end Flash.Controller

end CardReader
