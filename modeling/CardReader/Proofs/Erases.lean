import CardReader.Proofs.Act
import CardReader.Proofs.Part.Books
import CardReader.Proofs.Waits

/-!
# Erases in time

An address names a unit of the array: it goes round at the end of the array, a unit that is larger
than the array is cut down to it, and the unit starts at the last multiple of its size up to the
address.  An erase that a part hears while it is listening clears that unit.  It answers if the part
needs no longer for it than it is waited for, whatever has been left in the FIFOs, in the latch and
in the transaction before.

What is proved here:

* `cleared_of_erase` — the unit of an address lies inside the array, and clearing it changes no
  other cell;
* `orders_act_erase` — an erase sends one erase command;
* `ends_act_on_clock` and `ends_act_in_time` — a write enable, an erase command and the wait for it;
* `erase_clears_unit` — every erase of a usable part.
-/

namespace CardReader

open Flash

namespace Part

/-! ## Units -/

/-- The cell belongs to the unit of an address. -/
def InUnit (part : Part) (unit : EraseUnit) (addr i : Nat) : Prop :=
  part.unitStart unit addr ≤ i ∧ i < part.unitStart unit addr + part.unitSize unit

/-- The unit of an address has been cleared, and nothing else in the array. -/
structure Cleared (unit : EraseUnit) (addr : Nat) (before after : Part) : Prop where
  /-- The unit starts at a multiple of its size. -/
  aligned : before.unitSize unit ∣ before.unitStart unit addr
  /-- The unit holds the address, which goes round at the end of the array. -/
  holds : before.InUnit unit addr (addr % before.cells.size)
  /-- The unit lies inside the array. -/
  inside : before.unitStart unit addr + before.unitSize unit ≤ before.cells.size
  /-- The largest unit is the whole array. -/
  whole : unit = .chip →
    before.unitStart unit addr = 0 ∧ before.unitSize unit = before.cells.size
  size_eq : after.cells.size = before.cells.size
  erased : ∀ i, before.InUnit unit addr i → after.cells.cell i = 0xFF
  kept : ∀ i, ¬before.InUnit unit addr i → after.cells.cell i = before.cells.cell i

variable {before after : Part}

/-- Clearing the unit of an address clears nothing else. -/
theorem cleared_of_erase (h : Sized before) {unit : EraseUnit} {addr : Nat}
    (hcells : after.cells =
      before.cells.erase (before.unitStart unit addr) (before.unitSize unit)) :
    Cleared unit addr before after := by
  refine ⟨Nat.dvd_mul_left _ _, h.unit_holds unit addr, h.unit_fits unit addr, ?_, ?_, ?_, ?_⟩
  · rintro rfl
    exact ⟨h.unitStart_chip addr, h.size_eq.symm⟩
  · simp [hcells]
  · intro i hi
    rw [hcells, Cells.cell_erase]
    exact if_pos hi
  · intro i hi
    rw [hcells, Cells.cell_erase]
    exact if_neg hi

end Part

/-! ## Erase commands -/

namespace Part

/-- The instruction erases a unit. -/
def erasesUnit : Instruction → Bool
  | .erase _ => true
  | _ => false

/-- The erase commands issued so far, oldest first. -/
def erases (part : Part) : List Command :=
  part.log.toList.filter fun command => erasesUnit command.instruction

theorem erases_of_frame {before after : Part} (h : after.frame = before.frame) :
    after.erases = before.erases := by
  rw [erases, (Books.mk.inj (Frame.mk.inj h).1).1, erases]

/-- An erase is in the log, whatever becomes of it, and no other command joins the erases. -/
theorem erases_issue {command : Command} (hstatus : writesStatus command.instruction = false)
    (clock : Clock) (part : Part) :
    (issue clock command part).2.erases =
      part.erases ++ [command].filter fun command => erasesUnit command.instruction := by
  rw [erases, (Books.mk.inj (books_issue clock hstatus part)).1, Array.toList_push,
    List.filter_append]
  rfl

end Part

namespace Flash

/-- The erase commands of the operation are these, one after another; one that fails may have sent
only the first of them. -/
def Op.Orders {α : Type} (commands : List Command) (op : Op Part α) : Prop :=
  ∀ rig, Op.Ends op rig (fun _ r => r.bus.erases = rig.bus.erases ++ commands)
    fun _ r => ∃ sent, sent <+: commands ∧ r.bus.erases = rig.bus.erases ++ sent

section Orders

variable {α β : Type} {op : Op Part α} {first rest erases : List Command} {policy : PollPolicy}

theorem orders_bind {op : Op Part β} {next : β → Op Part α} (hop : op.Orders first)
    (hnext : ∀ b, (next b).Orders rest) : Op.Orders (first ++ rest) (op >>= next) := by
  intro rig
  refine Op.ends_bind.2 ((hop rig).mono ?_ ?_)
  · intro b r hfirst
    refine (hnext b r).mono ?_ ?_
    · rintro _ last hlast
      rw [hlast, hfirst, List.append_assoc]
    · rintro _ last ⟨sent, hprefix, hlast⟩
      exact ⟨first ++ sent, (List.prefix_append_right_inj first).2 hprefix, by
        rw [hlast, hfirst, List.append_assoc]⟩
  · rintro _ r ⟨sent, hprefix, hsent⟩
    exact ⟨sent, hprefix.trans (List.prefix_append _ _), hsent⟩

/-- What comes before the erases orders none. -/
theorem orders_silent_bind {op : Op Part β} {next : β → Op Part α} (hop : op.Orders [])
    (hnext : ∀ b, (next b).Orders rest) : Op.Orders rest (op >>= next) := orders_bind hop hnext

/-- What comes after the erases orders none. -/
theorem orders_bind_silent {op : Op Part β} {next : β → Op Part α} (hop : op.Orders first)
    (hnext : ∀ b, (next b).Orders []) : Op.Orders first (op >>= next) := by
  have h := orders_bind hop hnext
  rwa [List.append_nil] at h

/-- An operation that leaves the erases alone orders none. -/
theorem orders_of_keeps (h : ∀ erases, Op.Keeps (fun part : Part => part.erases = erases) op) :
    op.Orders [] := by
  intro rig
  refine (Op.keeps_iff_ends.1 (h _) rig rfl).mono (fun _ r hr => ?_) fun _ r hr => ?_
  · rw [hr, List.append_nil]
  · exact ⟨[], List.nil_prefix, by rw [hr, List.append_nil]⟩

theorem orders_mapFailure (rename : Failure → Failure) (h : op.Orders first) :
    (Op.mapFailure rename op).Orders first :=
  fun rig => (Op.ends_mapFailure rename).2 (h rig)

theorem keeps_erases_waitDone (opcode : UInt8) :
    Op.Keeps (fun part : Part => part.erases = erases) (Sequence.waitDone opcode policy) :=
  Op.keeps_wait (Op.keeps_call fun clock part h =>
    (Part.erases_of_frame (Part.frame_pollDone clock part)).trans h)

theorem keeps_erases_transact {command : Command}
    (hstatus : Part.writesStatus command.instruction = false)
    (hother : Part.erasesUnit command.instruction = false) :
    Op.Keeps (fun part : Part => part.erases = erases) (Sequence.transact command policy) := by
  refine Op.keeps_bind (Op.keeps_call fun clock part h => ?_) fun _ =>
    Op.keeps_bind (keeps_erases_waitDone _) fun _ => Op.keeps_pure _
  show (Part.issue clock command part).2.erases = erases
  rw [Part.erases_issue hstatus, List.filter_cons_of_neg (by rw [hother]; decide),
    List.filter_nil, List.append_nil, h]

/-- A transaction that erases is one command. -/
theorem orders_transact_erase (unit : EraseUnit) (addr : Nat) :
    Op.Orders [Part.eraseCommand unit addr]
      (Sequence.transact (Part.eraseCommand unit addr) policy) := by
  have hinstruction := Part.instruction_eraseCommand unit addr
  have hissue : Op.Orders [Part.eraseCommand unit addr]
      (Op.call (Bus.issue · (Part.eraseCommand unit addr)) : Op Part Unit) := by
    intro rig
    have hstatus : Part.writesStatus (Part.eraseCommand unit addr).instruction = false := by
      rw [hinstruction]
      rfl
    have herases := Part.erases_issue hstatus rig.clock rig.bus
    rw [List.filter_cons_of_pos (by rw [hinstruction]; rfl), List.filter_nil] at herases
    exact (Op.ends_call _).2 ⟨fun _ _ => herases, fun _ _ => ⟨_, List.prefix_refl _, herases⟩⟩
  exact orders_bind_silent hissue fun _ => orders_of_keeps fun _ =>
    Op.keeps_bind (keeps_erases_waitDone _) fun _ => Op.keeps_pure _

/-- An erase is one command, between a write enable and reads of the status. -/
theorem orders_act_erase (unit : EraseUnit) (addr : Nat) :
    Op.Orders [Part.eraseCommand unit addr] (act (Part.eraseCommand unit addr) policy) := by
  have henable : Op.Orders [] (Sequence.writeEnable .single policy : Op Part Unit) :=
    orders_of_keeps fun _ => Op.keeps_bind (keeps_erases_transact rfl rfl) fun _ => Op.keeps_pure _
  have hwait : Op.Orders [] (Sequence.waitReady policy : Op Part Unit) :=
    orders_of_keeps fun _ => Op.keeps_wait (Op.keeps_bind
      (Op.keeps_bind (keeps_erases_transact rfl rfl) fun _ => Op.keeps_pure _)
      fun _ => Op.keeps_pure _)
  exact orders_silent_bind henable fun _ =>
    orders_bind_silent (orders_transact_erase unit addr) fun _ => hwait

end Orders

end Flash

namespace Flash.Controller

variable {σ : Type} [Bus σ] [Carrier σ] {rig : Rig σ} {settings : ControllerConfig}
  {unit : EraseUnit} {addr : Nat}

/-! ## Acts -/

/-- A listening part has carried an act out that takes it `us` microseconds.  It is listening again,
after a wait that has taken the polls which reach the end of its work. -/
structure Enacted (policy : PollPolicy) (us : Nat) (effect : Part → Prop) (rig r : Rig σ) :
    Prop where
  carried : ∃ after, effect after ∧ Part.Untouched after r.part
  steady : Part.Steady rig.part r.part
  strays_eq : Carrier.strays r.bus = Carrier.strays rig.bus
  listening : Part.Listening r.clock r.part
  inTime : policy.InTime rig.clock us
  now_eq : r.clock.now = min (rig.clock.now + policy.span us) lastInstant

/-- An act on a listening part without a fault answers exactly if it is in time, on a bus that loses
nothing.  In any case the part has carried it out. -/
theorem ends_act_decided {command : Command} {policy : PollPolicy} {us : Nat}
    {effect : Part → Prop} (hstrays : ∀ failure, ¬Carrier.strays rig.bus failure)
    (hlisten : Part.Listening rig.clock rig.part) (hfaults : rig.part.faults = {})
    (hmode : command.mode.check rig.part.features = .ok ()) (heffective : Part.Effective command)
    (hcarried : ∀ armed, Part.Armed rig.clock rig.part.dma rig.part.writeFifo rig.part armed →
      Part.Listening rig.clock armed → armed.writeEnabled = true →
      ∃ value issued, Part.issue rig.clock command armed = (.ok (), issued) ∧
        issued.transaction = some (.done value) ∧ Part.Steady armed issued ∧ effect issued)
    (hbusy : ∀ after, effect after → after.busyUntil = rig.clock.now + us) :
    Op.Ends (act command policy) rig (fun _ r => Enacted policy us effect rig r)
      fun _ r => ¬policy.InTime rig.clock us ∧
        ∃ after, effect after ∧ Part.Untouched after r.part := by
  refine ends_act command effect hmode heffective hcarried ?_ ?_
  · intro r hacted
    have heffect := hacted.carried hlisten
    have hnow : r.clock = rig.clock := hacted.abreast.clock_eq
    have hwake : ∀ later, Part.Listening later r.part ↔ r.clock.now + us ≤ later.now := by
      rw [hnow]
      exact fun _ =>
        Part.listening_of_busyUntil hlisten hfaults hacted.steady (hbusy r.part heffect)
    have hresponse : r.part.faults.unresponsive = false := by
      rw [hacted.steady.faults_eq, hfaults]
    have hstrays' : ∀ failure, ¬Carrier.strays r.bus failure := by
      rw [hacted.abreast.strays_eq]
      exact hstrays
    refine (ends_waitReady_decided hstrays' hresponse hwake).mono ?_ ?_
    · rintro _ last ⟨huntouched, hsame, hready, hintime, hend⟩
      rw [hnow] at hintime hend
      exact ⟨⟨r.part, heffect, huntouched⟩, hacted.steady.trans huntouched.steady,
        hsame.trans hacted.abreast.strays_eq, hready, hintime, hend⟩
    · rintro failure last ⟨-, huntouched, hlate⟩
      rw [hnow] at hlate
      exact ⟨hlate, r.part, heffect, huntouched⟩
  · rintro failure r ⟨-, -, hstray | ⟨hsilent, -⟩⟩
    · exact absurd hstray (hstrays failure)
    · rw [hfaults] at hsilent
      cases hsilent

/-- A unit of a part is erased, and the part is listening again with its latch clear. -/
structure ErasedInTime (unit : EraseUnit) (addr : Nat) (rig r : Rig σ) : Prop where
  cells_eq : r.part.cells =
    rig.part.cells.erase (rig.part.unitStart unit addr) (rig.part.unitSize unit)
  writeEnabled_eq : r.part.writeEnabled = false
  listening : Part.Listening r.clock r.part

/-- The erase of a unit is over while the clock can still show its end, and the wait for it has
taken the polls that reach this instant. -/
structure ErasedOnTime (policy : PollPolicy) (unit : EraseUnit) (addr : Nat) (rig r : Rig σ) : Prop
    extends ErasedInTime unit addr rig r where
  steady : Part.Steady rig.part r.part
  strays_eq : Carrier.strays r.bus = Carrier.strays rig.bus
  shown : rig.clock.now + rig.part.eraseTime unit ≤ lastInstant
  now_eq : r.clock.now =
    min (rig.clock.now + policy.span (rig.part.eraseTime unit)) lastInstant

/-- A listening part that needs no longer for an erase than it is waited for carries it out, if the
bus loses nothing.  The wait for it ends, unless the clock runs out before the part is done. -/
theorem ends_act_on_clock {policy : PollPolicy}
    (hstrays : ∀ failure, ¬Carrier.strays rig.bus failure)
    (hsized : rig.part.Sized) (hlisten : Part.Listening rig.clock rig.part)
    (hfaults : rig.part.faults = {}) (haddr : addr < addressSpace ∨ unit = .chip)
    (htimeout : rig.part.eraseTime unit ≤ policy.timeout) :
    Op.Ends (act (Part.eraseCommand unit addr) policy) rig
      (fun _ r => ErasedOnTime policy unit addr rig r)
      fun _ r => lastInstant < rig.clock.now + rig.part.eraseTime unit ∧
        r.part.cells =
          rig.part.cells.erase (rig.part.unitStart unit addr) (rig.part.unitSize unit) := by
  have hmode : (Part.eraseCommand unit addr).mode.check rig.part.features = .ok () := by
    cases unit <;> rfl
  refine (ends_act_decided hstrays hlisten hfaults hmode (Part.effective_eraseCommand unit addr)
    (fun armed harmed hlisten' hlatch => issue_erase_armed hsized haddr harmed hlisten' hlatch)
    fun _ herased => herased.busyUntil_eq).mono ?_ ?_
  · rintro _ r ⟨⟨after, ⟨hcells, hlatch, -⟩, huntouched⟩, hsteady, hsame, hready, hintime, hend⟩
    exact ⟨⟨huntouched.cells_eq.trans hcells, huntouched.writeEnabled_eq.trans hlatch, hready⟩,
      hsteady, hsame, hintime.le_last, hend⟩
  · rintro _ r ⟨hlate, after, ⟨hcells, -, -⟩, huntouched⟩
    refine ⟨Nat.lt_of_not_le fun hshown => hlate ⟨PollPolicy.reaches_of_le htimeout, hshown⟩, ?_⟩
    exact huntouched.cells_eq.trans hcells

/-- An erase whose end the clock can still show answers. -/
theorem ends_act_in_time {policy : PollPolicy}
    (hstrays : ∀ failure, ¬Carrier.strays rig.bus failure) (hsized : rig.part.Sized)
    (hlisten : Part.Listening rig.clock rig.part) (hfaults : rig.part.faults = {})
    (haddr : addr < addressSpace ∨ unit = .chip)
    (htimeout : rig.part.eraseTime unit ≤ policy.timeout)
    (hclock : rig.clock.now + rig.part.eraseTime unit ≤ lastInstant) :
    Op.Ends (act (Part.eraseCommand unit addr) policy) rig
      (fun _ r => ErasedInTime unit addr rig r) fun _ _ => False :=
  (ends_act_on_clock hstrays hsized hlisten hfaults haddr htimeout).mono
    (fun _ _ h => h.toErasedInTime) fun _ _ h => Nat.not_le.2 h.1 hclock

/-! ## Erases -/

/-- The wait before an erase of the whole part is over at once. -/
theorem ends_erase_in_time (hstrays : ∀ failure, ¬Carrier.strays rig.bus failure)
    (hsized : rig.part.Sized) (hlisten : Part.Listening rig.clock rig.part)
    (hfaults : rig.part.faults = {}) (haddr : addr < addressSpace)
    (htimeout : rig.part.eraseTime unit ≤ settings.poll.timeout)
    (hclock : rig.clock.now + rig.part.eraseTime unit ≤ lastInstant) :
    Op.Ends (erase settings unit addr) rig (fun _ r => ErasedInTime unit addr rig r)
      fun _ _ => False := by
  by_cases hunit : unit = .chip
  · subst hunit
    have hwake := Part.listening_iff_of_awake hlisten.awake (by rw [hfaults])
    have hawake := (hwake rig.clock).1 hlisten
    have hlast := rig.clock.now_le
    refine Op.ends_bind.2 ((Op.ends_mapFailure _).2 ((ends_waitReady_in_time hstrays
      (by rw [hfaults]) hwake (by omega) (by omega)).imp ?_))
    rintro _ mid ⟨huntouched, hsame, hlisten', hnow⟩
    rw [Nat.sub_eq_zero_of_le hawake, PollPolicy.span_zero, Nat.add_zero, Nat.min_eq_left hlast]
      at hnow
    have hconfig := huntouched.config_eq
    have hsize := congrArg Part.Cells.size huntouched.cells_eq
    have htime : mid.part.eraseTime .chip = rig.part.eraseTime .chip :=
      Part.eraseTime_congr hconfig .chip
    have hact : Op.Ends (act (Part.eraseCommand .chip addr) settings.poll) mid _ _ :=
      ends_act_in_time (by rw [hsame]; exact hstrays) (hsized.congr hconfig hsize) hlisten'
        (huntouched.faults_eq.trans hfaults) (.inl haddr) (by rw [htime]; exact htimeout)
        (by rw [hnow, htime]; exact hclock)
    refine (Op.ends_mapFailure _).2 (hact.imp ?_)
    rintro _ r ⟨hcells, hlatch, hready⟩
    rw [Part.unitStart_congr hconfig hsize, Part.unitSize_congr hconfig, huntouched.cells_eq]
      at hcells
    exact ⟨hcells, hlatch, hready⟩
  · have hcheck : checkAddress addr = .ok () := if_pos haddr
    rw [erase_eq_act hunit, hcheck, Op.ends_bind, Op.ends_check_ok, Op.ends_mapFailure]
    exact ends_act_in_time hstrays hsized hlisten hfaults (.inl haddr) htimeout hclock

/-- Every erase of a usable part that listens and has no fault answers, if the part needs no longer
for it than it is waited for.  It has cleared the unit of its address and nothing else, the latch is
clear, and the part listens again. -/
theorem erase_clears_unit {rig : Rig Part} (hvalid : rig.bus.config.validate = .ok ())
    (hsize : rig.bus.cells.size = rig.bus.config.size)
    (hlisten : Part.Listening rig.clock rig.bus) (hfaults : rig.bus.faults = {})
    (haddr : addr < addressSpace) (htimeout : rig.bus.eraseTime unit ≤ settings.poll.timeout)
    (hclock : rig.clock.now + rig.bus.eraseTime unit ≤ lastInstant) :
    ∃ r, erase settings unit addr rig = (.ok (), r) ∧ Part.Cleared unit addr rig.bus r.bus ∧
      r.bus.writeEnabled = false ∧ Part.Listening r.clock r.bus := by
  have hsized : rig.bus.Sized := ⟨hsize, (Part.Config.validate_eq_ok_iff.1 hvalid).1⟩
  have hends : Op.Ends (erase settings unit addr) rig _ _ :=
    ends_erase_in_time (fun _ => id) hsized hlisten hfaults haddr htimeout hclock
  obtain ⟨_, r, hrun, hcells, hlatch, hready⟩ := hends.exists_ok
  exact ⟨r, hrun, Part.cleared_of_erase hsized hcells, hlatch, hready⟩

/-- An address past the end of an array of two sectors names the second of them, and the first one
stays as it is.  The latch has been left set before. -/
theorem erase_clears_unit_past_end :
    let bus : Part := { Part.holding { size := 0x2000 } ⟨#[1, 2, 3]⟩ with writeEnabled := true }
    let rig : Rig Part := { bus, clock := .start }
    bus.config.validate = .ok () ∧ bus.cells.size = bus.config.size ∧
      Part.Listening rig.clock bus ∧
      ∃ r, erase {} .sector 0xFFFABC rig = (.ok (), r) ∧
        (∀ i, 0x1000 ≤ i → i < 0x2000 → r.bus.cells.cell i = 0xFF) ∧
        (∀ i, i < 0x1000 → r.bus.cells.cell i = bus.cells.cell i) ∧
        r.bus.writeEnabled = false ∧ Part.Listening r.clock r.bus := by
  intro bus rig
  have hvalid : bus.config.validate = .ok () := Part.Config.validate_eq_ok_iff.2 (by decide)
  have hsize : bus.cells.size = bus.config.size := Part.Cells.size_holding _ _
  have hlisten : Part.Listening rig.clock bus := ⟨rfl, rfl, rfl⟩
  have hstart : bus.unitStart .sector 0xFFFABC = 0x1000 := by
    rw [Part.unitStart, hsize]
    decide
  have htimeout : bus.eraseTime .sector ≤ ({} : ControllerConfig).poll.timeout := by decide
  obtain ⟨r, hrun, hcleared, hlatch, hready⟩ :=
    erase_clears_unit (show rig.bus.config.validate = .ok () from hvalid) hsize hlisten rfl
      (show 0xFFFABC < addressSpace by decide) htimeout (by decide)
  have hunit : ∀ i, bus.InUnit .sector 0xFFFABC i ↔ 0x1000 ≤ i ∧ i < 0x2000 := by
    intro i
    rw [Part.InUnit, hstart]
    rfl
  refine ⟨hvalid, hsize, hlisten, r, hrun, ?_, ?_, hlatch, hready⟩
  · intro i hstart hstop
    exact hcleared.erased i ((hunit i).2 ⟨hstart, hstop⟩)
  · intro i hlow
    refine hcleared.kept i (mt (hunit i).1 ?_)
    omega

end Flash.Controller

end CardReader
