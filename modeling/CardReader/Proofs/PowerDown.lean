import CardReader.Proofs.Lasting
import CardReader.Proofs.Reads
import CardReader.Proofs.Timeouts

/-!
# Deep power down

A part in deep power down hears nothing but its wake-up.  The controller does not know that: its
commands go out as always and each of them is over at once, since the part lets them pass by, so it
is only in the waits that a call can notice.  The lines float while a wait looks at the status, and
what floats reads as a write in progress that never comes to its end.

What is proved here:

* `dormant_make` — nothing that a part can meet with, short of its wake-up, reaches a part that is
  asleep;
* `ends_run_of_asleep` — a call that waits for the part does not answer while the part sleeps, and
  `ends_attempt_late` — it fails because time ran out;
* `ends_releasePowerDown` — the wake-up;
* `powerDown_freezes` — a part that is put to sleep has kept its memory through whatever calls were
  made meanwhile.
-/

namespace CardReader

open Flash

/-! ## Parts that are asleep -/

namespace Part

variable {clock : Clock} {before part after : Part}

/-- The part has kept its memory: the array, the status registers and the write enable latch. -/
structure Remembers (before after : Part) : Prop where
  cells_eq : after.cells = before.cells
  stored_eq : after.stored = before.stored
  writeEnabled_eq : after.writeEnabled = before.writeEnabled

/-- Asleep, the part differs from the one before in nothing but its buffers and what its controller
keeps, and it does not wait for data. -/
structure Dormant (before part : Part) : Prop where
  rest : ∃ log readFifo writeFifo dma transaction resetArmed deviceParams, part =
    { before with poweredDown := true, log, readFifo, writeFifo, dma, transaction, resetArmed,
                  deviceParams }
  finished : part.Over

theorem Dormant.asleep (h : Dormant before part) : part.poweredDown = true := by
  obtain ⟨_, _, _, _, _, _, _, rfl⟩ := h.rest
  rfl

theorem Dormant.steady (h : Dormant before part) :
    part.config = before.config ∧ part.faults = before.faults := by
  obtain ⟨_, _, _, _, _, _, _, rfl⟩ := h.rest
  exact ⟨rfl, rfl⟩

theorem Dormant.remembers (h : Dormant before part) : Remembers before part := by
  obtain ⟨_, _, _, _, _, _, _, rfl⟩ := h.rest
  exact ⟨rfl, rfl, rfl⟩

/-- The buffers of a part that is asleep may be filled and emptied. -/
theorem Dormant.rebuffer (h : Dormant before part) (readFifo writeFifo : List UInt8)
    (dma : Option DmaClaim) : Dormant before { part with readFifo, writeFifo, dma } := by
  obtain ⟨⟨_, _, _, _, _, _, _, rfl⟩, hover⟩ := h
  exact ⟨⟨_, _, _, _, _, _, _, rfl⟩, hover⟩

/-- Nothing but its wake-up reaches a part that is asleep. -/
theorem dormant_make {move : Move} (hmove : move.LetsSleep) (h : Dormant before part) :
    Dormant before (move.make clock part) := by
  cases move with
  | setParams value =>
    obtain ⟨⟨_, _, _, _, _, _, _, rfl⟩, hover⟩ := h
    exact ⟨⟨_, _, _, _, _, _, _, rfl⟩, hover⟩
  | flush => exact h.rebuffer [] [] part.dma
  | write data =>
    have hqueued := h.rebuffer part.readFifo (part.writeFifo ++ data) part.dma
    show Dormant before (queue clock data part).2
    rw [queue]
    split
    · exact h
    · rw [show feed clock { part with writeFifo := part.writeFifo ++ data } = _ from
        hqueued.finished.feed clock]
      exact hqueued
  | take count =>
    show Dormant before (Part.take count part).2
    rw [Part.take]
    split
    · exact h.rebuffer _ part.writeFifo part.dma
    · exact h
  | issue command =>
    have hdull : part.poweredDown = true ∨ part.deaf clock = true := .inl h.asleep
    obtain ⟨log, readFifo, transaction, hissue, hstreaming⟩ := issue_of_dull hmove hdull
    show Dormant before (issue clock command part).2
    rw [hissue]
    obtain ⟨⟨_, _, _, _, _, _, _, rfl⟩, hover⟩ := h
    refine ⟨⟨_, _, _, _, _, _, _, rfl⟩, fun addr expected data hdata => ?_⟩
    exact hover addr expected data ((hstreaming addr expected data hdata).trans hdata)
  | poll =>
    show Dormant before (pollDone clock part).2
    rw [h.finished.pollDone]
    exact h
  | acquire channel =>
    show Dormant before (dmaAcquire channel part).2
    rw [dmaAcquire]
    split
    · exact h
    split
    · exact h
    · exact h.rebuffer part.readFifo part.writeFifo _
  | start channel block =>
    have hloaded (claim : DmaClaim) :=
      h.rebuffer part.readFifo part.writeFifo (some { claim with block })
    show Dormant before (dmaStart clock channel block part).2
    rw [dmaStart]
    cases part.dma with
    | none => exact h
    | some claim =>
      dsimp only
      split
      · rw [show feed clock { part with dma := some { claim with block } } = _ from
          (hloaded claim).finished.feed clock]
        exact hloaded claim
      · exact h
  | idle channel => exact h
  | release channel =>
    show Dormant before (dmaRelease channel part)
    rw [dmaRelease]
    cases part.dma with
    | none => exact h
    | some claim =>
      dsimp only
      split
      · exact h.rebuffer part.readFifo part.writeFifo none
      · exact h
  | pause us => exact h
  | switch faults => exact hmove.elim

/-- A listening part goes to sleep. -/
theorem issue_deepPowerDown (hlisten : Listening clock part) :
    let command := (Command.simple Opcode.deepPowerDown).withMode .single
    issue clock command part =
      (.ok (), { part.heard command with poweredDown := true, transaction := some (.done 0) }) := by
  intro command
  rw [issue_of_listening (check_single _) hlisten]
  rfl

/-- The wake-up makes a part awake, which then recovers for a while. -/
theorem issue_releasePowerDown (hasleep : part.poweredDown = true) :
    let command := (Command.simple Opcode.releasePowerDown).withMode .single
    issue clock command part =
      (.ok (), { part.logged command with
        poweredDown := false
        deafUntil := clock.now + part.config.releaseTime
        transaction := some (.done 0) }) := by
  intro command
  rw [issue_eq_execute (check_single _), execute,
    if_pos (show (part.logged command).poweredDown = true from hasleep)]
  rfl

end Part

/-! ## Rigs on which a part is asleep -/

/-- At this time the part has been asleep since `rig`. -/
structure SleptSince (rig : Rig Part) (clock : Clock) (part : Part) : Prop where
  now_le : rig.clock.now ≤ clock.now
  dormant : Part.Dormant rig.bus part

namespace Flash

open Op

variable {settings : ControllerConfig}

theorem lasting_sleptSince (rig : Rig Part) :
    Lasting fun r : Rig Part => SleptSince rig r.clock r.bus :=
  lasting_of_moves (SleptSince rig) fun clock _ move hmove h =>
    ⟨Nat.le_trans h.now_le (move.now_le_tick clock), Part.dormant_make hmove h.dormant⟩

/-- A wait for a part that is asleep does not answer. -/
theorem ends_waitReady_of_asleep {rig r : Rig Part} (policy : PollPolicy)
    (hslept : SleptSince rig r.clock r.bus) :
    Op.Ends (Sequence.waitReady policy) r (fun _ _ => False) fun _ last =>
      SleptSince rig last.clock last.bus := by
  have hkept := preserves_iff_ends.1 ((lasting_sleptSince rig).waitReady policy) r hslept
  refine ((ends_waitReady r policy).and hkept).mono ?_ fun _ _ h => h.2
  rintro _ last ⟨⟨-, -, hlisten⟩, hslept'⟩
  exact Bool.false_ne_true (hlisten.awake.symm.trans hslept'.dormant.asleep)

namespace Controller

variable {rig r : Rig Part} {call : Call}

/-- So no call that waits for the part does. -/
theorem ends_run_of_asleep (hslept : SleptSince rig r.clock r.bus) (hsleep : call.LetsSleep)
    (hwaits : call.Waits) :
    Op.Ends (call.run settings) r (fun _ _ => False) fun _ last =>
      SleptSince rig last.clock last.bus :=
  (lasting_sleptSince rig).ends_run_of_stuck
    (fun _ hslept => ends_waitReady_of_asleep settings.poll hslept) hsleep hwaits hslept

/-! ## Attempts -/

/-- The call is to change the part, and passes its checks; those of a program look at its mode as
well. -/
def Call.Attempts (settings : ControllerConfig) (features : BusFeatures) (call : Call) : Prop :=
  call.Waits ∧ call.PassesChecks features ∧
    match call with
    | program .. | programOnePage .. => settings.programMode.check features = .ok ()
    | _ => True

/-- An attempt on a part without faults fails only because time ran out. -/
theorem ends_attempt_late (hattempts : call.Attempts settings r.bus.features)
    (hresponse : r.bus.faults.unresponsive = false) (hfree : r.bus.dma = none)
    (hchannel : settings.dmaChannel < r.bus.config.dmaChannels)
    (hroom : Cipher.blockSize ≤ r.bus.config.writeDepth) :
    Op.Ends (call.run settings) r (fun _ _ => True) fun failure _ => failure.isTimeout = true := by
  obtain ⟨hwaits, hchecks, hmode⟩ := hattempts
  cases call with
  | erase unit addr =>
    refine (ends_erase_late hchecks r).mono (fun _ _ _ => trivial) ?_
    rintro _ - ⟨late, ⟨-, hsilent⟩ | -, rfl⟩
    · rw [hresponse] at hsilent
      cases hsilent
    · rfl
  | writeParam opcode value => exact ends_run_late hchannel hfree hchecks trivial nofun
  | program base payload useDma cipher =>
    exact ends_run_late hchannel hfree hchecks ⟨hmode, hroom⟩ nofun
  | programOnePage addr payload => exact ends_run_late hchannel hfree hchecks hmode nofun
  | _ => exact hwaits.elim

/-! ## Going to sleep and waking up -/

/-- A listening part goes to sleep at once. -/
theorem ends_deepPowerDown (hlisten : Part.Listening rig.clock rig.bus)
    (hresponse : rig.bus.faults.unresponsive = false) :
    Op.Ends (deepPowerDown settings) rig
      (fun _ r => SleptSince rig r.clock r.bus ∧ r.bus.dma = rig.bus.dma) fun _ _ => False := by
  refine (ends_singleCommand_at_once settings.poll (Part.issue_deepPowerDown hlisten) rfl
    hresponse).imp ?_
  rintro _ r ⟨hbus, hclock⟩
  rw [hbus, hclock]
  exact ⟨⟨Nat.le_refl _, ⟨_, _, _, _, _, _, _, rfl⟩, Part.over_of_done rfl⟩, rfl⟩

/-- A part that is asleep wakes up with its memory, and has recovered when the call is over. -/
theorem ends_releasePowerDown (hslept : SleptSince rig r.clock r.bus)
    (hlisten : Part.Listening rig.clock rig.bus) (hfaults : rig.bus.faults = {})
    (hrelease : rig.bus.config.releaseTime ≤ releaseSettle)
    (hclock : r.clock.now + rig.bus.config.releaseTime ≤ lastInstant) :
    Op.Ends (releasePowerDown settings) r
      (fun _ awake => Part.Listening awake.clock awake.bus ∧ Part.Remembers rig.bus awake.bus ∧
        awake.bus.config = rig.bus.config ∧ awake.bus.faults = rig.bus.faults)
      fun _ _ => False := by
  have hasleep := hslept.dormant.asleep
  obtain ⟨hnow, ⟨log, readFifo, writeFifo, dma, transaction, resetArmed, deviceParams, hbus⟩, -⟩ :=
    hslept
  have hresponse : r.bus.faults.unresponsive = false := by
    rw [hbus]
    exact congrArg Part.Faults.unresponsive hfaults
  refine (ends_singleCommand_at_once settings.poll (Part.issue_releasePowerDown hasleep) rfl
    hresponse).bind ?_
  rintro _ awake ⟨hawake, hstill⟩
  rw [ends_delay, hawake, hstill, hbus]
  refine ⟨⟨rfl, decide_eq_false ?_, ?_⟩, ⟨rfl, rfl, rfl⟩, rfl, rfl⟩
  · have hsettle : max releaseSettle 1 = releaseSettle := by decide
    show ¬(r.clock.delay releaseSettle).now < r.clock.now + rig.bus.config.releaseTime
    rw [Clock.delay, Clock.advance, hsettle]
    dsimp only
    omega
  · exact (Part.listening_of_later hlisten
      (Nat.le_trans hnow (r.clock.now_le_delay releaseSettle))).idle

/-! ## Freezing -/

/-- A part that listens and has no fault is put to sleep at once.  Whatever calls are then made that
do not wake it, the array, the status registers and the write enable latch stay as they were, and
each call that is to change the part and passes its checks fails with a timeout.  Woken up before
the clock runs out, the part listens again with the memory that it had, and is read as before. -/
theorem powerDown_freezes {calls : List Call} (hlisten : Part.Listening rig.clock rig.bus)
    (hfaults : rig.bus.faults = {}) (hfree : rig.bus.dma = none)
    (hchannel : settings.dmaChannel < rig.bus.config.dmaChannels)
    (hroom : Cipher.blockSize ≤ rig.bus.config.writeDepth)
    (hrelease : rig.bus.config.releaseTime ≤ releaseSettle)
    (hcalls : ∀ call ∈ calls, call.LetsSleep) :
    ∃ asleep, deepPowerDown settings rig = (.ok (), asleep) ∧
      let last := reached settings calls asleep
      Part.Remembers rig.bus last.bus ∧
      (∀ first call rest, calls = first ++ call :: rest → call.Attempts settings rig.bus.features →
        ∃ failure, (call.run settings (reached settings first asleep)).1 = .error failure ∧
          failure.isTimeout = true) ∧
      (last.clock.now + rig.bus.config.releaseTime ≤ lastInstant →
        ∃ awake, releasePowerDown settings last = (.ok (), awake) ∧
          Part.Listening awake.clock awake.bus ∧ Part.Remembers rig.bus awake.bus ∧
          (1 ≤ rig.bus.config.readDepth → settings.readMode.check rig.bus.features = .ok () →
            ∀ addr len, checkRange addr len = .ok () →
              (read settings addr len awake).1 = .ok (rig.bus.cells.slice addr len))) := by
  have hresponse : rig.bus.faults.unresponsive = false := by rw [hfaults]
  obtain ⟨⟨⟩, asleep, hsleep, hslept, hdma⟩ := (ends_deepPowerDown hlisten hresponse).exists_ok
  have hreached {calls : List Call} (hcalls : ∀ call ∈ calls, call.LetsSleep) :
      SleptSince rig (reached settings calls asleep).clock (reached settings calls asleep).bus :=
    reached_of_lasting (lasting_sleptSince rig) settings hcalls hslept
  refine ⟨asleep, hsleep, (hreached hcalls).dormant.remembers, ?_, fun hclock => ?_⟩
  · rintro first call rest rfl hattempts
    obtain ⟨hfirst, hcall⟩ := List.forall_mem_append.1 hcalls
    have hslept' := hreached hfirst
    have hshape := shape_reached settings first asleep
    generalize reached settings first asleep = r at hslept' hshape
    obtain ⟨hconfig, hsame⟩ := hslept'.dormant.steady
    have hfree' : r.bus.dma = none := by
      have hclaim : r.bus.dma.map _ = asleep.bus.dma.map _ := congrArg Part.Shape.claim hshape
      rwa [hdma, hfree, Option.map_none, Option.map_eq_none_iff] at hclaim
    have hlate := ends_attempt_late (Part.features_congr hconfig ▸ hattempts)
      (by rw [hsame, hresponse]) hfree' (hconfig ▸ hchannel) (hconfig ▸ hroom)
    have hfails : Op.Ends (call.run settings) r (fun _ _ => False)
        fun failure _ => failure.isTimeout = true :=
      ((ends_run_of_asleep hslept' (List.forall_mem_cons.1 hcall).1 hattempts.1).and hlate).mono
        (fun _ _ h => h.1) fun _ _ h => h.2
    obtain ⟨failure, after, hrun, htimeout⟩ := hfails.exists_error
    exact ⟨failure, by rw [hrun], htimeout⟩
  · obtain ⟨⟨⟩, awake, hwake, hlisten', hremembers, hconfig, hsame⟩ :=
      (ends_releasePowerDown (hreached hcalls) hlisten hfaults hrelease hclock).exists_ok
    refine ⟨awake, hwake, hlisten', hremembers, fun hdepth hmode addr len hrange => ?_⟩
    have hreadable : Readable settings (pieceSize awake.bus) awake := by
      refine ⟨hlisten', by rw [hsame, hresponse], Part.features_congr hconfig ▸ hmode,
        Nat.le_max_right _ _, ?_⟩
      rw [pieceSize, hconfig]
      omega
    obtain ⟨bytes, last, hread, hbytes, -⟩ := (ends_read hreadable hrange).exists_ok
    rw [hread, hbytes, hremembers.cells_eq]

/-- A part of four bytes with its latch set sleeps through a register write, a program by DMA, a
page, a reset and an erase, and is read as it was. -/
theorem powerDown_freezes_through_five_calls :
    let rig : Rig Part :=
      { bus := { config := { size := 4 }, cells := ⟨⟨#[10, 11, 12, 13]⟩⟩, writeEnabled := true }
        clock := .start }
    let settings : ControllerConfig := { poll := { timeout := 200 } }
    let calls : List Call := [.writeParam Opcode.writeStatus2 2, .program 1 [0, 0] true .none,
      .programOnePage 3 [0], .softReset .single, .erase .sector 0]
    Part.Listening rig.clock rig.bus ∧ (∀ call ∈ calls, call.LetsSleep) ∧
      ∃ asleep, deepPowerDown settings rig = (.ok (), asleep) ∧
        Part.Remembers rig.bus (reached settings calls asleep).bus ∧
        (∃ failure, (Call.run settings (.program 1 [0, 0] true .none)
            (reached settings [.writeParam Opcode.writeStatus2 2] asleep)).1 = .error failure ∧
          failure.isTimeout = true) ∧
        ∃ awake, releasePowerDown settings (reached settings calls asleep) = (.ok (), awake) ∧
          (read settings 0 4 awake).1 = .ok [10, 11, 12, 13] := by
  intro rig settings calls
  have hlisten : Part.Listening rig.clock rig.bus := by decide
  have hopcode : Opcode.writeStatus2 ≠ Opcode.releasePowerDown := by decide
  have hcalls : ∀ call ∈ calls, call.LetsSleep := by simp [calls, Call.LetsSleep, hopcode]
  obtain ⟨asleep, hsleep, hremembers, hfails, hwakes⟩ :=
    powerDown_freezes hlisten rfl rfl
      (show settings.dmaChannel < rig.bus.config.dmaChannels by decide) (by decide) (by decide)
      hcalls
  have hclock : (reached settings calls (deepPowerDown settings rig).2).clock.now +
      rig.bus.config.releaseTime ≤ lastInstant := by decide +kernel
  have hasleep : (deepPowerDown settings rig).2 = asleep := by rw [hsleep]
  rw [hasleep] at hclock
  obtain ⟨awake, hwake, -, -, hreads⟩ := hwakes hclock
  refine ⟨hlisten, hcalls, asleep, hsleep, hremembers, ?_, awake, hwake, ?_⟩
  · exact hfails [.writeParam Opcode.writeStatus2 2] _ _ rfl ⟨by simp [Call.Waits], rfl, rfl⟩
  · rw [hreads (by decide) rfl 0 4 rfl]
    rfl

end Controller

end Flash

end CardReader
