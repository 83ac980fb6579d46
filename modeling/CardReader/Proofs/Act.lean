import CardReader.Flash.Controller.Basic
import CardReader.Flash.Controller.Erase
import CardReader.Proofs.Transactions

/-!
# Erases and status writes

An erase and a write of a status register are one act: a write enable, a command and a wait for
the part.  A part that is listening when the act begins carries the command out; any other part has
missed it, and is waited for all the same.

What is proved here:

* `ends_act` — what a part has seen of an act when the wait for it begins;
* `ends_erase` and `ends_writeParam` — what an act that answers has done.
-/

namespace CardReader

open Flash

namespace Flash

variable {σ : Type} [Bus σ] [Carrier σ] {rig : Rig σ} {ok : Unit → Rig σ → Prop}
  {err : Failure → Rig σ → Prop}

/-! ## Acts -/

/-- A write enable, a command and a wait for the part. -/
def act {σ : Type} [Bus σ] (command : Command) (policy : PollPolicy) : Op σ Unit := do
  Sequence.writeEnable .single policy
  let _ ← Sequence.transact command policy
  Sequence.waitReady policy

/-- The command of an act has been sent, and no time has passed.  A listening part has carried it
out, and any other part has let it pass by. -/
structure Acted (effect : Part → Prop) (rig r : Rig σ) : Prop where
  abreast : rig.Abreast r
  response : rig.part.faults.unresponsive = false
  steady : Part.Steady rig.part r.part
  carried : Part.Listening rig.clock rig.part → effect r.part
  cells_eq : ¬Part.Listening rig.clock rig.part → r.part.cells = rig.part.cells
  stored_eq : ¬Part.Listening rig.clock rig.part → r.part.stored = rig.part.stored

/-- The command of an act may not have been sent: a call went astray, or the controller does not
respond. -/
structure Unacted (rig : Rig σ) (failure : Failure) (r : Rig σ) : Prop where
  follows : rig.Follows r
  steady : Part.Steady rig.part r.part
  reason : Carrier.strays rig.bus failure ∨
    rig.part.faults.unresponsive = true ∧ ∃ opcode, failure = .commandTimeout opcode

/-- What a command does to an armed part. -/
theorem issue_act {clock : Clock} {command : Command} {effect : Part → Prop}
    {dma : Option Part.DmaClaim} {fifo : List UInt8} {before armed : Part}
    (harmed : Part.Armed clock dma fifo before armed)
    (hmode : command.mode.check before.features = .ok ()) (heffective : Part.Effective command)
    (hcarried : Part.Listening clock armed → armed.writeEnabled = true →
      ∃ value issued, Part.issue clock command armed = (.ok (), issued) ∧
        issued.transaction = some (.done value) ∧ Part.Steady armed issued ∧ effect issued) :
    ∃ value issued, Part.issue clock command armed = (.ok (), issued) ∧
      issued.transaction = some (.done value) ∧ Part.Steady before issued ∧
      (Part.Listening clock before → effect issued) ∧
      (¬Part.Listening clock before →
        issued.cells = before.cells ∧ issued.stored = before.stored) := by
  by_cases hlisten : Part.Listening clock before
  · obtain ⟨value, issued, hissue, hdone, hsteady, heffect⟩ :=
      hcarried (harmed.listening.2 hlisten) (harmed.latched hlisten)
    exact ⟨value, issued, hissue, hdone, harmed.steady.trans hsteady, fun _ => heffect,
      fun h => absurd hlisten h⟩
  · have hfeatures : armed.features = before.features := harmed.steady.features_eq
    obtain ⟨value, issued, hissue, huntouched, hdone⟩ := Part.issue_of_not_listening
      (hfeatures ▸ hmode) heffective (mt harmed.listening.1 hlisten)
    refine ⟨value, issued, hissue, hdone, harmed.steady.trans huntouched.steady,
      fun h => absurd h hlisten, fun _ => ⟨huntouched.cells_eq.trans harmed.cells_eq, ?_⟩⟩
    obtain ⟨_, _, _, rfl⟩ := huntouched
    exact harmed.stored_eq

/-- An act reaches the wait for the part, or it is not carried through. -/
theorem ends_act (command : Command) {policy : PollPolicy} (effect : Part → Prop)
    (hmode : command.mode.check rig.part.features = .ok ()) (heffective : Part.Effective command)
    (hcarried : ∀ armed, Part.Armed rig.clock rig.part.dma rig.part.writeFifo rig.part armed →
      Part.Listening rig.clock armed → armed.writeEnabled = true →
      ∃ value issued, Part.issue rig.clock command armed = (.ok (), issued) ∧
        issued.transaction = some (.done value) ∧ Part.Steady armed issued ∧ effect issued)
    (hacted : ∀ r, Acted effect rig r → Op.Ends (Sequence.waitReady policy) r ok err)
    (hunacted : ∀ failure r, Unacted rig failure r → err failure r) :
    Op.Ends (act command policy) rig ok err := by
  rw [act, Op.ends_bind]
  refine (ends_writeEnable rig policy).mono ?_ ?_
  · rintro _ r ⟨harmed, habreast, hresponse⟩
    obtain ⟨value, issued, hissue, hdone, hsteady, hlistening, hmissed⟩ :=
      issue_act harmed hmode heffective (hcarried r.part harmed)
    rw [← habreast.clock_eq] at hissue
    rw [Op.ends_bind]
    refine (ends_transact policy hissue hdone).mono ?_ ?_
    · rintro done r' ⟨-, hpart, habreast', -⟩
      exact hacted r' ⟨habreast.trans habreast', hresponse, hpart ▸ hsteady,
        fun h => hpart ▸ hlistening h, fun h => hpart ▸ (hmissed h).1,
        fun h => hpart ▸ (hmissed h).2⟩
    · rintro failure r' ⟨hpart, hfollows, hreason⟩
      rw [habreast.strays_eq, hsteady.faults_eq] at hreason
      refine hunacted failure r' ⟨habreast.follows.trans hfollows, ?_, ?_⟩
      · rcases hpart with hpart | hpart
        · exact hpart ▸ harmed.steady
        · exact hpart ▸ hsteady
      · exact hreason.imp_right fun h => ⟨h.2, _, h.1⟩
  · rintro failure r ⟨hpart, hfollows, hreason⟩
    refine hunacted failure r ⟨hfollows, ?_, hreason.imp_right fun h => ⟨h.2, _, h.1⟩⟩
    rcases hpart with hpart | harmed
    · exact hpart ▸ .refl _
    · exact harmed.steady

/-- An act is over and the part is listening. -/
structure Finished (effect : Part → Prop) (rig r : Rig σ) : Prop where
  follows : rig.Follows r
  steady : Part.Steady rig.part r.part
  listening : Part.Listening r.clock r.part
  carried : Part.Listening rig.clock rig.part →
    ∃ after, effect after ∧ Part.Untouched after r.part
  cells_eq : ¬Part.Listening rig.clock rig.part → r.part.cells = rig.part.cells
  stored_eq : ¬Part.Listening rig.clock rig.part → r.part.stored = rig.part.stored

theorem ends_wait_of_acted {effect : Part → Prop} {r : Rig σ} (policy : PollPolicy)
    (hacted : Acted effect rig r) :
    Op.Ends (Sequence.waitReady policy) r (fun _ last => Finished effect rig last)
      fun _ _ => True := by
  refine (ends_waitReady r policy).mono ?_ fun _ _ _ => trivial
  rintro _ last ⟨huntouched, hfollows, hlisten⟩
  refine ⟨hacted.abreast.follows.trans hfollows, hacted.steady.trans huntouched.steady, hlisten,
    fun h => ⟨r.part, hacted.carried h, huntouched⟩,
    fun h => huntouched.cells_eq.trans (hacted.cells_eq h), fun h => ?_⟩
  have hstored := hacted.stored_eq h
  obtain ⟨_, _, _, hpart⟩ := huntouched
  rw [hpart]
  exact hstored

namespace Controller

variable {config : ControllerConfig}

/-! ## Erases -/

/-- A unit is erased, and the part is at work. -/
structure Erased (clock : Clock) (unit : EraseUnit) (addr : Nat) (before after : Part) :
    Prop where
  cells_eq : after.cells = before.cells.erase (before.unitStart unit addr) (before.unitSize unit)
  writeEnabled_eq : after.writeEnabled = false
  busyUntil_eq : after.busyUntil = clock.now + before.eraseTime unit

/-- The command of an erase names the unit, whatever it has for an address. -/
theorem unitStart_eraseCommand {part : Part} {unit : EraseUnit} {addr : Nat}
    (hsized : part.Sized) (haddr : addr < addressSpace ∨ unit = .chip) :
    part.unitStart unit (Part.eraseCommand unit addr).address = part.unitStart unit addr := by
  by_cases hunit : unit = .chip
  · subst hunit
    rw [hsized.unitStart_chip, hsized.unitStart_chip]
  · have hmod := Nat.mod_eq_of_lt (haddr.resolve_right hunit)
    cases unit with
    | chip => exact absurd rfl hunit
    | _ => exact congrArg (part.unitStart _) hmod

/-- A listening part carries an erase out. -/
theorem issue_erase_armed {clock : Clock} {unit : EraseUnit} {addr : Nat}
    {dma : Option Part.DmaClaim} {fifo : List UInt8} {before armed : Part}
    (hsized : before.Sized) (haddr : addr < addressSpace ∨ unit = .chip)
    (harmed : Part.Armed clock dma fifo before armed) (hlisten : Part.Listening clock armed)
    (hlatch : armed.writeEnabled = true) :
    ∃ value issued, Part.issue clock (Part.eraseCommand unit addr) armed = (.ok (), issued) ∧
      issued.transaction = some (.done value) ∧ Part.Steady armed issued ∧
      Erased clock unit addr before issued := by
  let heard := armed.heard (Part.eraseCommand unit addr)
  have hconfig : heard.config = before.config := harmed.steady.config_eq
  have hcells : heard.cells = before.cells := harmed.cells_eq
  have hsize := congrArg Part.Cells.size hcells
  have hissue := Part.issue_erase hlisten unit addr
  rw [Part.eraseUnit_of_enabled (hsized.congr hconfig hsize) hlatch] at hissue
  refine ⟨0, _, hissue, rfl, ⟨rfl, rfl, rfl, rfl⟩, ?_, rfl, ?_⟩
  · show heard.cells.erase (heard.unitStart unit _) (heard.unitSize unit) = _
    rw [Part.unitStart_congr hconfig hsize, Part.unitSize_congr hconfig,
      unitStart_eraseCommand hsized haddr, hcells]
  · show clock.now + heard.eraseTime unit = _
    rw [Part.eraseTime_congr hconfig]

/-- An erase that is started reaches the wait for the part. -/
theorem ends_act_erase {policy : PollPolicy} (unit : EraseUnit) (addr : Nat)
    (hsized : rig.part.Sized) (haddr : addr < addressSpace ∨ unit = .chip)
    (hacted : ∀ r, Acted (Erased rig.clock unit addr rig.part) rig r →
      Op.Ends (Sequence.waitReady policy) r ok err)
    (hunacted : ∀ failure r, Unacted rig failure r → err failure r) :
    Op.Ends (act (Part.eraseCommand unit addr) policy) rig ok err := by
  refine ends_act _ _ ?_ (Part.effective_eraseCommand unit addr)
    (fun armed harmed hlisten hlatch => issue_erase_armed hsized haddr harmed hlisten hlatch)
    hacted hunacted
  cases unit <;> rfl

/-- Erases a unit. -/
def erase {σ : Type} [Bus σ] (config : ControllerConfig) (unit : EraseUnit) (addr : Nat) :
    Op σ Unit :=
  match unit with
  | .sector => eraseSector config addr
  | .block32 => eraseBlock32 config addr
  | .block64 => eraseBlock64 config addr
  | .chip => eraseChip config

omit [Carrier σ] in
/-- The erase of anything but the whole part is an act that begins at once. -/
theorem erase_eq_act {unit : EraseUnit} (hunit : unit ≠ .chip) (addr : Nat) :
    (erase config unit addr : Op σ Unit) = Op.check (checkAddress addr) >>= fun _ =>
      Op.mapFailure (eraseFailure addr) (act (Part.eraseCommand unit addr) config.poll) := by
  cases unit with
  | chip => exact absurd rfl hunit
  | _ => rfl

/-- What an erase that answers leaves. -/
structure EraseDone (unit : EraseUnit) (addr : Nat) (rig r : Rig σ) : Prop where
  steady : Part.Steady rig.part r.part
  /-- A part that was listening, or that was waited for first, has erased the unit. -/
  erased : Part.Listening rig.clock rig.part ∨ unit = .chip →
    r.part.cells = rig.part.cells.erase (rig.part.unitStart unit addr) (rig.part.unitSize unit)
  /-- Any other part has missed the erase. -/
  missed : ¬(Part.Listening rig.clock rig.part ∨ unit = .chip) → r.part.cells = rig.part.cells

theorem ends_erase {unit : EraseUnit} {addr : Nat} (hsized : rig.part.Sized) :
    Op.Ends (erase config unit addr) rig (fun _ r => EraseDone unit addr rig r)
      fun _ _ => True := by
  by_cases hunit : unit = .chip
  · subst hunit
    refine Op.ends_bind.2 ((Op.ends_mapFailure _).2 ((ends_waitReady rig config.poll).mono ?_
      fun _ _ _ => trivial))
    rintro _ mid ⟨huntouched, -, hlisten⟩
    have hcells := huntouched.cells_eq
    have hconfig := huntouched.config_eq
    have hsize := congrArg Part.Cells.size hcells
    have hact := ends_act_erase .chip addr (hsized.congr hconfig hsize) (.inr rfl)
      (fun r h => ends_wait_of_acted config.poll h) fun _ _ _ => trivial
    refine (Op.ends_mapFailure _).2 (hact.mono ?_ fun _ _ _ => trivial)
    intro _ r hfinished
    obtain ⟨after, herased, huntouched'⟩ := hfinished.carried hlisten
    refine ⟨huntouched.steady.trans hfinished.steady, fun _ => ?_, fun h => absurd (.inr rfl) h⟩
    rw [huntouched'.cells_eq, herased.cells_eq, Part.unitStart_congr hconfig hsize,
      Part.unitSize_congr hconfig, hcells]
  · rw [erase_eq_act hunit, Op.ends_bind, Op.ends_check]
    refine ⟨fun _ hcheck => ?_, fun _ _ => trivial⟩
    have haddr : addr < addressSpace := by
      rw [checkAddress] at hcheck
      split at hcheck
      · assumption
      · cases hcheck
    rw [Op.ends_mapFailure]
    refine (ends_act_erase unit addr hsized (.inl haddr)
      (fun r h => ends_wait_of_acted config.poll h) fun _ _ _ => trivial).mono ?_ fun _ _ _ => trivial
    intro _ r hfinished
    refine ⟨hfinished.steady, fun h => ?_,
      fun h => hfinished.cells_eq fun hlisten => h (.inl hlisten)⟩
    obtain ⟨after, herased, huntouched⟩ := hfinished.carried (h.resolve_right hunit)
    rw [huntouched.cells_eq, herased.cells_eq]

/-! ## Status writes -/

/-- A status register has been written, and the part is at work. -/
structure Written (clock : Clock) (register : StatusRegister) (value : UInt16)
    (before after : Part) : Prop where
  working : Part.Working clock before.config.writeStatusTime before after
  cells_eq : after.cells = before.cells
  stored_eq : after.stored register = Part.storable register value.toUInt8

/-- A listening part carries a status write out. -/
theorem issue_writeRegister_armed {clock : Clock} {register : StatusRegister} {value : UInt16}
    {len : Nat} {dma : Option Part.DmaClaim} {fifo : List UInt8} {before armed : Part}
    (harmed : Part.Armed clock dma fifo before armed) (hlisten : Part.Listening clock armed)
    (hlatch : armed.writeEnabled = true) :
    ∃ value' issued, Part.issue clock
        (Command.writeRegister (Part.writeStatusOpcode register) value len) armed =
          (.ok (), issued) ∧
      issued.transaction = some (.done value') ∧ Part.Steady armed issued ∧
      Written clock register value before issued := by
  let command := Command.writeRegister (Part.writeStatusOpcode register) value len
  obtain ⟨hworking, hstored, hcells, -⟩ := Part.writeStatus_of_enabled
    (show (armed.heard command).writeEnabled = true from hlatch) register
  obtain ⟨hconfig, hfaults, hpower, hdeaf, hlatch', hbusy⟩ := hworking
  have hsteady := harmed.steady
  refine ⟨0, _, Part.issue_writeRegister hlisten register value len rfl, rfl,
    ⟨hconfig, hfaults, hpower, hdeaf⟩, ⟨hconfig.trans hsteady.config_eq,
      hfaults.trans hsteady.faults_eq, hpower.trans hsteady.poweredDown_eq,
      hdeaf.trans hsteady.deafUntil_eq, hlatch', ?_⟩, hcells.trans harmed.cells_eq, ?_⟩
  · rw [← hsteady.config_eq]
    exact hbusy
  · have hvalue : command.writeData.toUInt8 = value.toUInt8 := UInt16.toUInt8_toUInt32 value
    rw [← hvalue]
    exact hstored

/-- What a status write that answers leaves. -/
structure WriteDone (register : StatusRegister) (value : UInt16) (rig r : Rig σ) : Prop where
  /-- A part that was listening has taken the low byte. -/
  written : Part.Listening rig.clock rig.part →
    r.part.stored register = Part.storable register value.toUInt8
  /-- Any other part has missed the write. -/
  missed : ¬Part.Listening rig.clock rig.part → r.part.stored = rig.part.stored

theorem ends_writeParam {register : StatusRegister} {value : UInt16} :
    Op.Ends (writeParam config (Part.writeStatusOpcode register) value) rig
      (fun _ r => WriteDone register value rig r) fun _ _ => True := by
  have hact := ends_act
    (Command.writeRegister (Part.writeStatusOpcode register) value
      (if value.toNat > 0xFF then 2 else 1))
    (Written rig.clock register value rig.part) rfl
    (Part.effective_writeRegister register value _)
    (fun armed harmed hlisten hlatch => issue_writeRegister_armed harmed hlisten hlatch)
    (fun r h => ends_wait_of_acted config.poll h) fun _ _ _ => trivial
  refine hact.mono ?_ fun _ _ _ => trivial
  intro _ r hfinished
  refine ⟨fun h => ?_, hfinished.stored_eq⟩
  obtain ⟨after, hwritten, _, _, _, hpart⟩ := hfinished.carried h
  rw [hpart]
  exact hwritten.stored_eq

end Controller

end Flash

end CardReader
