import CardReader.Proofs.Act
import CardReader.Proofs.Rejections

/-!
# Failures that are timeouts

A call whose arguments are accepted, on a controller with room, channel and lines for it, can fail
only because a wait ran past its deadline: no FIFO overflows, no data is missing and no channel is
refused, whatever the part is doing and whichever faults are switched on.  Such a failure is
reported as a timeout by every call but the erases.  Those report a command that never completes as
one that was refused, so an erase fails without a timeout exactly if the controller does not
respond.

What is proved here:

* `ends_erase_late` — how an erase fails;
* `ends_run_late` — every other call fails late, if its checks are passed and the part has what it
  needs;
* `not_timeout_iff_silent_erase` — the calls that fail without a timeout.
-/

namespace CardReader

open Flash

namespace Part

/-- An erase changes neither the settings of a part nor its power state, and no fault. -/
theorem steady_eraseUnit (clock : Clock) (addr : Nat) (unit : EraseUnit) (part : Part) :
    Steady part (eraseUnit clock addr unit part) := by
  have herase : ∀ addr len us : Nat, Steady part (erase clock addr len us part) := by
    intro addr len us
    rw [erase]
    split <;> exact ⟨rfl, rfl, rfl, rfl⟩
  cases unit <;> exact herase _ _ _

end Part

namespace Flash

namespace Controller

/-! ## Operations that fail late -/

/-- A failure is as late under the name of a window. -/
theorem isTimeout_programFailure (failure : Failure) (window : Nat)
    (h : failure.isTimeout = true) : (programFailure window failure).isTimeout = true := by
  cases failure with
  | commandTimeout | busyTimeout | dmaTimeout | eraseTimeout | programTimeout => rfl
  | _ => cases h

/-- An operation may fail because time has run out, and not otherwise. -/
def lateTerms (before : Part) : Terms := ⟨before, fun failure => failure.isTimeout = true, id⟩

/-- That is all that an operation can fail with if its channel is there and is free. -/
def lateWalk {config : ControllerConfig} {before : Part}
    (hchannel : config.dmaChannel < before.config.dmaChannels) (hfree : before.dma = none) :
    Walk Part Part config :=
  (lateTerms before).walk config isTimeout_programFailure
    (fun hmissing => absurd hchannel (Nat.not_lt.2 hmissing)) fun hclaimed => absurd hfree hclaimed

section Operations

variable {config : ControllerConfig} {before : Part}

open Sequence

/-! ## Erases -/

/-- How an erase can fail before its name is put on the failure: nothing completes on a controller
that does not respond, and on any other one the part stays busy. -/
inductive Late (part : Part) : Failure → Prop where
  | silent (opcode : UInt8) (h : part.faults.unresponsive = true) :
    Late part (.commandTimeout opcode)
  | busy (h : part.faults.unresponsive = false) : Late part .busyTimeout

/-- Only a controller that responds ever tells that a part is ready. -/
theorem ends_waitReady_late (rig : Rig Part) (policy : PollPolicy) :
    Op.Ends (waitReady policy) rig
      (fun _ r => Part.Untouched rig.bus r.bus ∧ rig.bus.faults.unresponsive = false)
      fun failure _ => Late rig.bus failure := by
  refine Op.ends_wait (fun r => Part.Untouched rig.bus r.bus) (fun r huntouched => ?_) (.refl _)
  have hfaults : r.bus.faults = rig.bus.faults := huntouched.faults_eq
  refine (ends_readyProbe r policy).mono ?_ ?_
  · rintro answer r' ⟨hpolled, -, hresponse, -⟩
    have huntouched' : Part.Untouched rig.bus r'.bus := huntouched.trans hpolled.untouched
    replace hresponse : rig.bus.faults.unresponsive = false := hfaults ▸ hresponse
    cases answer with
    | some => exact ⟨huntouched', hresponse⟩
    | none => exact ⟨fun _ => .busy hresponse, fun _ => huntouched'⟩
  · rintro failure r' ⟨-, -, hstray | ⟨rfl, hsilent⟩⟩
    · exact hstray.elim
    · exact .silent _ (hfaults ▸ hsilent)

/-- An erase command that is sent after a write enable. -/
theorem ends_eraseWith_late (unit : EraseUnit) (addr named : Nat) (rig : Rig Part) :
    Op.Ends (eraseWith config (Part.eraseCommand unit addr) named) rig
      (fun _ _ => rig.bus.faults.unresponsive = false)
      fun failure _ => ∃ late, Late rig.bus late ∧ failure = eraseFailure named late := by
  refine (Op.ends_mapFailure _).2 ?_
  refine ends_act (Part.eraseCommand unit addr) (fun _ => True) ?_
    (Part.effective_eraseCommand unit addr) ?_ ?_ ?_
  · cases unit <;> rfl
  · intro armed _ hlisten _
    obtain ⟨hconfig, hfaults, hpower, hdeaf⟩ := Part.steady_eraseUnit rig.clock
      (Part.eraseCommand unit addr).address unit (armed.heard (Part.eraseCommand unit addr))
    exact ⟨0, _, Part.issue_erase hlisten unit addr, rfl, ⟨hconfig, hfaults, hpower, hdeaf⟩,
      trivial⟩
  · intro r hacted
    have hfaults : r.bus.faults = rig.bus.faults := hacted.steady.faults_eq
    refine (ends_waitReady_late r config.poll).mono (fun _ _ _ => hacted.response) ?_
    rintro failure - (⟨opcode, hsilent⟩ | hresponse)
    · exact ⟨_, .silent opcode (hfaults ▸ hsilent), rfl⟩
    · exact ⟨_, .busy (hfaults ▸ hresponse), rfl⟩
  · rintro failure r ⟨-, -, hstray | ⟨hsilent, opcode, rfl⟩⟩
    · exact hstray.elim
    · exact ⟨_, .silent opcode hsilent, rfl⟩

/-- An erase answers only if the controller responds, and fails late, under the name of its
address or, for the whole part, of the first one. -/
theorem ends_erase_late {unit : EraseUnit} {addr : Nat} (haddr : addr < addressSpace ∨ unit = .chip)
    (rig : Rig Part) :
    Op.Ends (erase config unit addr) rig (fun _ _ => rig.bus.faults.unresponsive = false)
      fun failure _ => ∃ late, Late rig.bus late ∧
        failure = eraseFailure (if unit = .chip then 0 else addr) late := by
  by_cases hunit : unit = .chip
  · subst hunit
    refine Op.ends_bind.2 ((Op.ends_mapFailure _).2 ((ends_waitReady_late rig config.poll).mono ?_
      fun failure _ hlate => ⟨failure, hlate, rfl⟩))
    rintro _ r ⟨huntouched, hresponse⟩
    have hfaults : r.bus.faults = rig.bus.faults := huntouched.faults_eq
    refine (ends_eraseWith_late .chip addr 0 r).mono (fun _ _ _ => hresponse) ?_
    rintro failure - ⟨late, hlate, rfl⟩
    refine ⟨late, ?_, rfl⟩
    cases hlate with
    | silent opcode h => exact .silent opcode (hfaults ▸ h)
    | busy h => exact .busy (hfaults ▸ h)
  · have hcheck : checkAddress addr = .ok () := if_pos (haddr.resolve_right hunit)
    rw [erase_eq_act hunit, Op.ends_bind, Op.ends_check, if_neg hunit]
    refine ⟨fun _ _ => ends_eraseWith_late unit addr addr rig, fun failure hrefused => ?_⟩
    rw [hcheck] at hrefused
    cases hrefused

/-! ## All calls -/

/-- The arguments of a call pass its checks: its range lies in the address space, its payload on
one page or on blocks of the cipher, and the controller can drive the mode of a reset. -/
def Call.PassesChecks (features : BusFeatures) : Call → Prop
  | .erase unit addr => addr < addressSpace ∨ unit = .chip
  | .program base payload _ cipher => checkProgram base payload cipher = .ok ()
  | .programOnePage addr payload =>
    checkRange addr payload.length = .ok () ∧ addr % pageSize + payload.length ≤ pageSize
  | .read addr len => checkRange addr len = .ok ()
  | .softReset mode => mode.check features = .ok ()
  | _ => True

/-- The part has what the call needs, besides a channel: lines for its mode, and FIFOs for its
data. -/
def Call.Equipped (config : ControllerConfig) (part : Part) : Call → Prop
  | .program .. => config.programMode.check part.features = .ok () ∧
    Cipher.blockSize ≤ part.config.writeDepth
  | .programOnePage .. => config.programMode.check part.features = .ok ()
  | .read .. => config.readMode.check part.features = .ok () ∧ part.config.readDepth ≠ 0
  | _ => True

/-- Every call but the erases fails late. -/
theorem ends_run_late {rig : Rig Part} {call : Call}
    (hchannel : config.dmaChannel < rig.bus.config.dmaChannels) (hfree : rig.bus.dma = none)
    (hchecks : call.PassesChecks rig.bus.features) (hequipped : call.Equipped config rig.bus)
    (hcall : ∀ unit addr, call ≠ .erase unit addr) :
    Op.Ends (call.run config) rig (fun _ _ => True) fun failure _ => failure.isTimeout = true := by
  let walk := lateWalk hchannel hfree
  have hpasses : walk.Passes call := by
    cases call with
    | erase unit addr => exact absurd rfl (hcall unit addr)
    | program base payload useDma cipher =>
      exact ⟨walk.accepts_of_ok hchecks, Terms.acceptsMode_of_ok hequipped.1,
        fun _ len hlen => .inr (Nat.le_trans hlen hequipped.2)⟩
    | programOnePage addr payload =>
      refine ⟨walk.accepts_of_ok hchecks.1, fun hover => absurd hchecks.2 (Nat.not_le.2 hover),
        Terms.acceptsMode_of_ok hequipped, fun bus hbus len hlen => .inr ?_⟩
      rwa [Terms.writeDepth_of_holds hbus] at hlen
    | read addr len =>
      refine ⟨walk.accepts_of_ok hchecks, Terms.acceptsMode_of_ok hequipped.1,
        fun bus hbus len hlen => .inr ?_⟩
      rw [Terms.readDepth_of_holds hbus] at hlen
      have hdepth : (lateTerms rig.bus).before.config.readDepth ≠ 0 := hequipped.2
      omega
    | softReset mode => exact Terms.acceptsMode_of_ok hchecks
    | _ => trivial
  have hsends {command : Command} (hcommand : command ∈ call.commands) : walk.Sends command 0 := by
    refine Terms.sends_of_mem_commands hcommand ?_
    rintro mode rfl
    exact .inr hchecks
  have hends : Op.Ends (call.run config) rig _ fun failure _ => failure.isTimeout = true :=
    Op.Respects.ends_error (walk.rel_run hpasses fun _ => hsends) rfl
  exact hends.imp fun _ _ _ => trivial

end Operations

/-- On a controller with an accepted configuration, room for a block in its write FIFO, a free
channel and lines for its modes, a call whose arguments pass its checks fails without a timeout
exactly if it is an erase and the controller does not respond.  Whatever the faults and the state of
the part, such an erase is reported as one that was refused. -/
theorem not_timeout_iff_silent_erase (config : ControllerConfig) (call : Call) (rig : Rig Part)
    (hconfig : rig.bus.config.validate = .ok ())
    (hroom : Cipher.blockSize ≤ rig.bus.config.writeDepth)
    (hfree : rig.bus.dma = none) (hchannel : config.dmaChannel < rig.bus.config.dmaChannels)
    (hprogram : config.programMode.check rig.bus.features = .ok ())
    (hread : config.readMode.check rig.bus.features = .ok ())
    (hchecks : call.PassesChecks rig.bus.features) :
    ((∃ failure, (call.run config rig).1 = .error failure ∧ failure.isTimeout = false) ↔
      (∃ unit addr, call = .erase unit addr) ∧ rig.bus.faults.unresponsive = true) ∧
    ∀ unit addr, call = .erase unit addr → rig.bus.faults.unresponsive = true →
      (call.run config rig).1 = .error (.eraseRefused (if unit = .chip then 0 else addr)) := by
  cases hrun : call.run config rig with
  | mk outcome after =>
    by_cases hcall : ∃ unit addr, call = .erase unit addr
    · obtain ⟨unit, addr, rfl⟩ := hcall
      have hlate : Op.Ends (erase config unit addr) rig _ _ := ends_erase_late hchecks rig
      cases outcome with
      | ok =>
        have hresponse := (Op.ends_of_ok hrun).1 hlate
        rw [hresponse]
        exact ⟨⟨nofun, nofun⟩, nofun⟩
      | error failure =>
        obtain ⟨late, hlate, rfl⟩ := (Op.ends_of_error hrun).1 hlate
        cases hlate with
        | silent opcode hsilent =>
          refine ⟨⟨fun _ => ⟨⟨_, _, rfl⟩, hsilent⟩, fun _ => ⟨_, rfl, rfl⟩⟩, ?_⟩
          rintro _ _ ⟨⟩ -
          rfl
        | busy hresponse =>
          rw [hresponse]
          refine ⟨⟨?_, nofun⟩, nofun⟩
          rintro ⟨_, ⟨⟩, hother⟩
          cases hother
    · have hne : ∀ unit addr, call ≠ .erase unit addr := fun unit addr h => hcall ⟨unit, addr, h⟩
      refine ⟨⟨?_, fun h => absurd h.1 hcall⟩, fun unit addr h => absurd h (hne unit addr)⟩
      rintro ⟨failure, rfl, hother⟩
      have hequipped : call.Equipped config rig.bus := by
        cases call with
        | program => exact ⟨hprogram, hroom⟩
        | programOnePage => exact hprogram
        | read => exact ⟨hread, (Part.Config.validate_eq_ok_iff.1 hconfig).2.2.1⟩
        | _ => trivial
      have hlate := ends_run_late hchannel hfree hchecks hequipped hne
      rw [(Op.ends_of_error hrun).1 hlate] at hother
      cases hother

/-- A part that is busy on a controller that does not respond, with a channel stalled as well: the
erase of a block is reported as refused. -/
theorem not_timeout_of_silent_block :
    let rig : Rig Part :=
      { bus := { Part.new { size := 131072 } with
                  busyUntil := 700, faults := { unresponsive := true, dmaStall := true } }
        clock := .start }
    let call : Call := .erase .block64 0x11234
    (call.run {} rig).1 = .error (.eraseRefused 0x11234) ∧
      ∃ failure, (call.run {} rig).1 = .error failure ∧ failure.isTimeout = false := by
  intro rig call
  have hexact := not_timeout_iff_silent_erase {} call rig
    (Part.Config.validate_eq_ok_iff.2 (by decide)) (by decide) rfl (by decide) rfl rfl
    (.inl (by decide))
  exact ⟨hexact.2 _ _ rfl rfl, hexact.1.2 ⟨⟨_, _, rfl⟩, rfl⟩⟩

/-- A new part whose controller does not respond: the erase of its first sector fails, and not with
a timeout. -/
theorem silent_erase_not_timeout :
    let rig : Rig Part :=
      { bus := { Part.new { size := 4096 } with faults := { unresponsive := true } }
        clock := .start }
    let call : Call := .erase .sector 0
    rig.bus.config.validate = .ok () ∧ Cipher.blockSize ≤ rig.bus.config.writeDepth ∧
      rig.bus.dma = none ∧ 0 < rig.bus.config.dmaChannels ∧
      call.PassesChecks rig.bus.features ∧
      (call.run {} rig).1 = .error (.eraseRefused 0) ∧
      (Failure.eraseRefused 0).isTimeout = false := by
  intro rig call
  have hchecks : call.PassesChecks rig.bus.features := .inl (by decide)
  have hlate : Op.Ends (call.run {}) rig _ _ := ends_erase_late hchecks rig
  refine ⟨Part.Config.validate_eq_ok_iff.2 (by decide), by decide, rfl, by decide, hchecks, ?_, rfl⟩
  cases hrun : call.run {} rig with
  | mk outcome after =>
    cases outcome with
    | ok => exact absurd ((Op.ends_of_ok hrun).1 hlate) nofun
    | error failure =>
      obtain ⟨_, ⟨_, -⟩ | hresponse, rfl⟩ := (Op.ends_of_error hrun).1 hlate
      · rfl
      · cases hresponse

end Controller

end Flash

end CardReader
