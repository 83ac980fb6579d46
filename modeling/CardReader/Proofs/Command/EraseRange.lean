import CardReader.Proofs.Erases
import CardReader.Proofs.Standby.Ranges

/-!
# The erase of a range

A range is erased by sectors, and by large blocks where a whole block lies inside it.  The commands
that are sent depend on the range alone: no two of them clear the same byte, and together they clear
the sectors that the range touches.  A part that listens carries them out one after another, for as
long as its clock can show when an erase will be over.

What is proved here:

* `covers_eraseSteps` — the units of a range are disjoint, and make up the sectors that it touches;
* `orders_eraseAll` — the erase commands that erases one after another send, whatever becomes of
  them;
* `ends_eraseAll` — erases one after another answer exactly if the clock lasts for them;
* `eraseRange_clears_touched` — the erase of a range.
-/

namespace CardReader

open Flash Flash.Controller

/-! ## Units of a range -/

namespace Part

variable {part : Part} {unit : EraseUnit} {start : Nat}

/-- The unit that starts at an address. -/
theorem inUnit_iff (hsized : part.Sized) (haligned : part.unitSize unit ∣ start)
    (hlt : start < part.config.size) (i : Nat) :
    part.InUnit unit start i ↔ start ≤ i ∧ i < start + part.unitSize unit := by
  have hstart : part.unitStart unit start = start := by
    rw [unitStart, hsized.size_eq, Nat.mod_eq_of_lt hlt, Nat.div_mul_cancel haligned]
  rw [InUnit, hstart]

end Part

namespace Command

/-- The erases clear the array from one address up to another, no byte twice, and a unit that is
more than a sector is an aligned large block that lies wholly in between. -/
structure Covers (part : Part) (start stop : Nat) (steps : List (EraseUnit × Nat)) : Prop where
  disjoint : steps.Pairwise fun a b => ∀ i, part.InUnit a.1 a.2 i → ¬part.InUnit b.1 b.2 i
  covered : ∀ i, (∃ step ∈ steps, part.InUnit step.1 step.2 i) ↔ start ≤ i ∧ i < stop
  large : ∀ step ∈ steps, step.1 = .sector ∨ step.1 = .block64 ∧
    block64Size ∣ step.2 ∧ start ≤ step.2 ∧ step.2 + block64Size ≤ stop

section Units

variable {part : Part} {unit : EraseUnit} {start stop : Nat} {rest : List (EraseUnit × Nat)}

/-- A cover grows by a unit before it. -/
theorem covers_cons (hsized : part.Sized) (haligned : part.unitSize unit ∣ start)
    (hroom : start + part.unitSize unit ≤ stop) (hfit : stop ≤ part.config.size)
    (hunit : unit = .sector ∨ unit = .block64 ∧ part.unitSize unit = block64Size)
    (hrest : Covers part (start + part.unitSize unit) stop rest) :
    Covers part start stop ((unit, start) :: rest) := by
  have hpos := hsized.unitSize_pos unit
  have hfirst := Part.inUnit_iff hsized haligned (by omega)
  obtain ⟨hdisjoint, hcovered, hlarge⟩ := hrest
  refine ⟨List.pairwise_cons.2 ⟨fun step hstep i hi hstep' => ?_, hdisjoint⟩, fun i => ?_, ?_⟩
  · have hlow := ((hcovered i).1 ⟨step, hstep, hstep'⟩).1
    have hhigh := ((hfirst i).1 hi).2
    omega
  · simp only [List.mem_cons, exists_eq_or_imp, hcovered, hfirst]
    omega
  · refine List.forall_mem_cons.2 ⟨hunit.imp_right fun h => ⟨h.1, ?_⟩, fun step hstep => ?_⟩
    · rw [← h.2]
      exact ⟨haligned, Nat.le_refl _, hroom⟩
    · exact (hlarge step hstep).imp_right fun h =>
        ⟨h.1, h.2.1, Nat.le_trans (Nat.le_add_right _ _) h.2.2.1, h.2.2.2⟩

/-- The units between two sector boundaries of an array. -/
theorem covers_eraseSteps (hsized : part.Sized) (start stop : Nat) (hstop : sectorSize ∣ stop)
    (hfit : stop ≤ part.config.size) :
    sectorSize ∣ start → Covers part start stop (eraseSteps start stop) := by
  fun_induction eraseSteps start stop with
  | case1 start hnone =>
    intro _
    refine ⟨.nil, fun i => iff_of_false ?_ (by omega), fun _ h => absurd h List.not_mem_nil⟩
    rintro ⟨_, h, -⟩
    exact List.not_mem_nil h
  | case2 start hmore hlarge ih =>
    intro hstart
    obtain ⟨haligned, hroom⟩ := hlarge
    have hsize : part.unitSize .block64 = block64Size :=
      Nat.min_eq_left (show block64Size ≤ part.config.size by omega)
    have hnext : sectorSize ∣ start + block64Size := Nat.dvd_add hstart (by decide)
    rw [← hsize] at haligned hroom ih hnext ⊢
    exact covers_cons hsized (Nat.dvd_of_mod_eq_zero haligned) (by omega) hfit (.inr ⟨rfl, hsize⟩)
      (ih hnext)
  | case3 start hmore hsmall ih =>
    intro hstart
    have hroom : start + sectorSize ≤ stop := by
      obtain ⟨first, rfl⟩ := hstart
      obtain ⟨last, rfl⟩ := hstop
      simp only [sectorSize] at hmore ⊢
      omega
    have hsize : part.unitSize .sector = sectorSize :=
      Nat.min_eq_left (show sectorSize ≤ part.config.size by omega)
    have hnext : sectorSize ∣ start + sectorSize := Nat.dvd_add hstart (Nat.dvd_refl _)
    rw [← hsize] at hstart hroom ih hnext ⊢
    exact covers_cons hsized hstart hroom hfit (.inl rfl) (ih (by rwa [hsize] at hnext ⊢))

end Units

/-! ## Commands -/

variable {settings : ControllerConfig} {config : Part.Config}

/-- The commands that erase units. -/
def eraseCommands (steps : List (EraseUnit × Nat)) : List Flash.Command :=
  steps.map fun step => Part.eraseCommand step.1 step.2

/-- The erases of a list are sent in its order, each at most once. -/
theorem orders_eraseAll (steps : List (EraseUnit × Nat))
    (hsteps : ∀ step ∈ steps, step.1 ≠ .chip ∧ checkAddress step.2 = .ok ()) :
    Op.Orders (eraseCommands steps) (eraseAll settings steps : Op Part Unit) := by
  induction steps with
  | nil => exact orders_of_keeps fun _ => Op.keeps_pure _
  | cons step rest ih =>
    obtain ⟨⟨hunit, haddr⟩, hrest⟩ := List.forall_mem_cons.1 hsteps
    have herase : Op.Orders [Part.eraseCommand step.1 step.2]
        (Controller.erase settings step.1 step.2 : Op Part Unit) := by
      rw [erase_eq_act hunit, haddr]
      exact orders_mapFailure _ (orders_act_erase step.1 step.2)
    exact orders_bind herase fun _ => ih hrest

/-! ## On a clock -/

/-- A clock that shows `now` can still show the end of each of these erases. -/
def Lasts (config : Part.Config) (policy : PollPolicy) : Nat → List (EraseUnit × Nat) → Prop
  | _, [] => True
  | now, step :: rest =>
    now + (Part.new config).eraseTime step.1 ≤ lastInstant ∧
      Lasts config policy
        (min (now + policy.span ((Part.new config).eraseTime step.1)) lastInstant) rest

/-- A clock that has the time for all the waits lasts for the erases. -/
theorem lasts_of_sweepTime {policy : PollPolicy} {steps : List (EraseUnit × Nat)} :
    ∀ {now : Nat}, now + sweepTime config policy steps ≤ lastInstant →
      Lasts config policy now steps := by
  induction steps with
  | nil => exact fun _ => trivial
  | cons step rest ih =>
    intro now h
    have hspan := policy.le_span ((Part.new config).eraseTime step.1)
    rw [sweepTime] at h
    refine ⟨by omega, ih ?_⟩
    omega

section Runs

variable {σ : Type} [Bus σ] [Carrier σ] {rig : Rig σ}

/-- Nothing stands in the way of an erase: the part listens, it has no fault, and the bus loses
nothing. -/
structure Erasable (config : Part.Config) (rig : Rig σ) : Prop where
  config_eq : rig.part.config = config
  sized : rig.part.Sized
  listening : Part.Listening rig.clock rig.part
  faults_eq : rig.part.faults = {}
  strays : ∀ failure, ¬Carrier.strays rig.bus failure

/-- The cells of a part with a unit erased. -/
theorem eraseUnit_eq {part : Part} (hconfig : part.config = config) (hsized : part.Sized)
    (unit : EraseUnit) (addr : Nat) :
    part.cells.eraseUnit config unit addr =
      part.cells.erase (part.unitStart unit addr) (part.unitSize unit) := by
  have hnew : (Part.new config).cells.size = part.cells.size :=
    (Part.Cells.size_erased _).trans (by rw [hsized.size_eq, hconfig])
  rw [Part.Cells.eraseUnit, Part.unitStart_congr (hconfig.symm) hnew,
    Part.unitSize_congr (hconfig.symm)]

/-- Erases one after another answer exactly if the clock lasts for them.  The units are erased that
the erases have come to. -/
theorem ends_eraseAll (steps : List (EraseUnit × Nat)) :
    ∀ rig : Rig σ, Erasable config rig →
      (∀ step ∈ steps, step.1 ≠ .chip ∧ step.2 < addressSpace ∧
        (Part.new config).eraseTime step.1 ≤ settings.poll.timeout) →
      Op.Ends (eraseAll settings steps) rig
        (fun _ r => Lasts config settings.poll rig.clock.now steps ∧
          r.part.cells = sweep config steps rig.part.cells)
        fun _ r => ¬Lasts config settings.poll rig.clock.now steps ∧
          ∃ done, done <+: steps ∧ r.part.cells = sweep config done rig.part.cells := by
  induction steps with
  | nil => exact fun _ _ _ => ⟨trivial, rfl⟩
  | cons step rest ih =>
    rintro rig ⟨hconfig, hsized, hlisten, hfaults, hstrays⟩ hsteps
    obtain ⟨⟨hunit, haddr, htime⟩, hrest⟩ := List.forall_mem_cons.1 hsteps
    have hcheck : checkAddress step.2 = .ok () := if_pos haddr
    have heraseTime : rig.part.eraseTime step.1 = (Part.new config).eraseTime step.1 :=
      Part.eraseTime_congr hconfig step.1
    have hcells := eraseUnit_eq hconfig hsized step.1 step.2
    have hact : Op.Ends (act (Part.eraseCommand step.1 step.2) settings.poll) rig _ _ :=
      ends_act_on_clock hstrays hsized hlisten hfaults (.inl haddr) (heraseTime ▸ htime)
    rw [eraseAll, erase_eq_act hunit, hcheck, Op.ends_bind, Op.ends_bind, Op.ends_check_ok,
      Op.ends_mapFailure]
    refine hact.mono ?_ ?_
    · rintro _ mid ⟨⟨herased, -, hready⟩, hsteady, hstrays', hshown, hnow⟩
      rw [heraseTime] at hshown hnow
      rw [← hcells] at herased
      have hready' : Erasable config mid :=
        ⟨hsteady.config_eq.trans hconfig,
          hsized.congr hsteady.config_eq (by rw [herased, Part.Cells.size_eraseUnit]), hready,
          hsteady.faults_eq.trans hfaults, by rwa [hstrays']⟩
      refine (ih mid hready' hrest).mono ?_ ?_
      · rintro _ r ⟨hlasts, hswept⟩
        rw [hnow] at hlasts
        exact ⟨⟨hshown, hlasts⟩, by rw [hswept, herased, sweep_cons]⟩
      · rintro _ r ⟨hspent, done, hdone, hswept⟩
        rw [hnow] at hspent
        exact ⟨fun h => hspent h.2, step :: done, (List.prefix_cons_inj step).2 hdone, by
          rw [hswept, herased, sweep_cons]⟩
    · rintro _ r ⟨hspent, herased⟩
      rw [heraseTime] at hspent
      rw [← hcells] at herased
      exact ⟨fun h => Nat.not_le.2 hspent h.1, [step],
        (List.prefix_cons_inj step).2 List.nil_prefix, herased⟩

end Runs

/-! ## The erase of a range -/

/-- What no erase clears stays as it is. -/
theorem cell_sweep_of_not_inUnit {i : Nat} {steps : List (EraseUnit × Nat)} :
    ∀ cells : Part.Cells, (∀ step ∈ steps, ¬(Part.new config).InUnit step.1 step.2 i) →
      (sweep config steps cells).cell i = cells.cell i := by
  induction steps with
  | nil => exact fun _ _ => rfl
  | cons step rest ih =>
    intro cells h
    obtain ⟨hfirst, hrest⟩ := List.forall_mem_cons.1 h
    rw [sweep_cons, ih _ hrest, Part.Cells.eraseUnit, Part.Cells.cell_erase]
    exact if_neg hfirst

/-- Every unit of a range can be named by a command and is erased before the timeout, if sectors and
large blocks are. -/
theorem erasable_of_mem_rangeSteps {policy : PollPolicy} {addr len : Nat}
    (hstop : (addr + len + sectorSize - 1) / sectorSize * sectorSize ≤ addressSpace)
    (hsectorTime : config.sectorEraseTime ≤ policy.timeout)
    (hblockTime : config.block64EraseTime ≤ policy.timeout) :
    ∀ step ∈ rangeSteps addr len, step.1 ≠ .chip ∧ step.2 < addressSpace ∧
      (Part.new config).eraseTime step.1 ≤ policy.timeout := by
  intro step hstep
  obtain ⟨hunit, hlt⟩ := of_mem_eraseSteps _ _ step hstep
  rcases hunit with hunit | hunit
  all_goals rw [hunit]
  · exact ⟨by decide, Nat.lt_of_lt_of_le hlt hstop, hsectorTime⟩
  · exact ⟨by decide, Nat.lt_of_lt_of_le hlt hstop, hblockTime⟩

/-- The erase of a range on a usable part that listens and has no fault.  The units of the range are
disjoint and make up the sectors that it touches.  Commands are sent for them in order, and nothing
outside is changed.  The erase answers exactly if the clock can show the end of each of them, and
then all of them have been sent and all of these sectors are erased.  The end of an erase is the sum
of the present time and the time that it takes, which past the last instant overflows the 64 bits in
which it is kept. -/
theorem eraseRange_clears_touched {rig : Rig Part} {addr len : Nat}
    (hvalid : rig.bus.config.validate = .ok ()) (hsize : rig.bus.cells.size = rig.bus.config.size)
    (hsector : sectorSize ≤ rig.bus.config.size)
    (hsectorTime : rig.bus.config.sectorEraseTime ≤ settings.poll.timeout)
    (hblockTime : rig.bus.config.block64EraseTime ≤ settings.poll.timeout)
    (hlisten : Part.Listening rig.clock rig.bus) (hfaults : rig.bus.faults = {})
    (hfit : addr + len ≤ rig.bus.config.size) :
    let start := addr / sectorSize * sectorSize
    let stop := (addr + len + sectorSize - 1) / sectorSize * sectorSize
    Covers rig.bus start stop (rangeSteps addr len) ∧
      ∃ outcome r sent, eraseRange settings addr len rig = (outcome, r) ∧
        r.bus.erases = rig.bus.erases ++ sent ∧ sent <+: eraseCommands (rangeSteps addr len) ∧
        r.bus.cells.size = rig.bus.cells.size ∧
        (∀ i, ¬(start ≤ i ∧ i < stop) → r.bus.cells.cell i = rig.bus.cells.cell i) ∧
        (outcome = .ok () ↔
          Lasts rig.bus.config settings.poll rig.clock.now (rangeSteps addr len)) ∧
        (outcome = .ok () → sent = eraseCommands (rangeSteps addr len) ∧
          ∀ i, start ≤ i → i < stop → r.bus.cells.cell i = 0xFF) := by
  intro start stop
  obtain ⟨hpower, hspace, -⟩ := Part.Config.validate_eq_ok_iff.1 hvalid
  have hsized : rig.bus.Sized := ⟨hsize, hpower⟩
  have hstop : stop ≤ rig.bus.config.size := roundUp_le hpower hsector hfit
  have hcovers : ∀ part : Part, part.Sized → part.config = rig.bus.config →
      Covers part start stop (rangeSteps addr len) := fun part hpart hconfig =>
    covers_eraseSteps hpart start stop (Nat.dvd_mul_left _ _) (hconfig ▸ hstop)
      (Nat.dvd_mul_left _ _)
  have houtside :=
    (hcovers (Part.new rig.bus.config) ⟨Part.Cells.size_erased _, hpower⟩ rfl).covered
  have hsteps := erasable_of_mem_rangeSteps (Nat.le_trans hstop hspace) hsectorTime hblockTime
  have hends : Op.Ends (eraseAll settings (rangeSteps addr len)) rig _ _ :=
    (ends_eraseAll (rangeSteps addr len) rig ⟨rfl, hsized, hlisten, hfaults, fun _ => id⟩
      hsteps).and (orders_eraseAll (rangeSteps addr len)
        (fun step hstep => ⟨(hsteps step hstep).1, if_pos (hsteps step hstep).2.1⟩) rig)
  refine ⟨hcovers rig.bus hsized rfl, ?_⟩
  rw [eraseRange, eraseSectors_eq_eraseAll]
  cases hrun : eraseAll settings (rangeSteps addr len) rig with
  | mk outcome r =>
    cases outcome with
    | ok answer =>
      obtain ⟨⟨hlasts, hswept⟩, hsent⟩ := (Op.ends_of_ok hrun).1 hends
      have hcells : r.bus.cells = sweep rig.bus.config (rangeSteps addr len) rig.bus.cells := hswept
      have hcell := cell_sweep start stop (Nat.mul_mod_left _ _) hstop (Nat.mul_mod_left _ _)
        rig.bus.cells
      refine ⟨.ok (), r, _, hrun, hsent, List.prefix_refl _, by rw [hcells, size_sweep], ?_,
        iff_of_true rfl hlasts, fun _ => ⟨rfl, ?_⟩⟩
      · intro i hi
        rw [hcells]
        exact (hcell i).trans (if_neg hi)
      · intro i hlow hhigh
        rw [hcells]
        exact (hcell i).trans (if_pos ⟨hlow, hhigh⟩)
    | error failure =>
      obtain ⟨⟨hspent, done, hdone, hswept⟩, sent, hprefix, hsent⟩ :=
        (Op.ends_of_error hrun).1 hends
      have hcells : r.bus.cells = sweep rig.bus.config done rig.bus.cells := hswept
      have hfailed : (.error failure : Except Failure Unit) ≠ .ok () := by
        intro h
        cases h
      refine ⟨.error failure, r, sent, hrun, hsent, hprefix, by rw [hcells, size_sweep], ?_,
        iff_of_false hfailed hspent, fun h => absurd h hfailed⟩
      intro i hi
      rw [hcells]
      refine cell_sweep_of_not_inUnit _ fun step hstep hin => hi ((houtside i).1 ?_)
      exact ⟨step, hdone.subset hstep, hin⟩

/-- The last sixteen sectors of the address space and the one before them: a range from the middle
of a sector up to the end takes a sector and a large block. -/
theorem eraseRange_clears_up_to_end :
    let bus : Part := Part.holding {} ⟨#[1, 2, 3]⟩
    let rig : Rig Part := { bus, clock := .start }
    bus.config.validate = .ok () ∧ bus.cells.size = bus.config.size ∧
      Part.Listening rig.clock bus ∧ 0xFEF123 + 0x10EDD = addressSpace ∧
      ∃ r, eraseRange {} 0xFEF123 0x10EDD rig = (.ok (), r) ∧
        r.bus.erases = [Part.eraseCommand .sector 0xFEF000, Part.eraseCommand .block64 0xFF0000] ∧
        (∀ i, 0xFEF000 ≤ i → i < addressSpace → r.bus.cells.cell i = 0xFF) ∧
        ∀ i < 0xFEF000, r.bus.cells.cell i = bus.cells.cell i := by
  intro bus rig
  have hvalid : bus.config.validate = .ok () := Part.Config.validate_eq_ok_iff.2 (by decide)
  have hsize : bus.cells.size = bus.config.size := Part.Cells.size_holding _ _
  have hlisten : Part.Listening rig.clock bus := ⟨rfl, rfl, rfl⟩
  have hsteps : rangeSteps 0xFEF123 0x10EDD = [(.sector, 0xFEF000), (.block64, 0xFF0000)] := by
    cbv
  let settings : ControllerConfig := {}
  have hsectorTime : rig.bus.config.sectorEraseTime ≤ settings.poll.timeout := by decide
  have hblockTime : rig.bus.config.block64EraseTime ≤ settings.poll.timeout := by decide
  have hfit : 0xFEF123 + 0x10EDD ≤ rig.bus.config.size := by decide
  obtain ⟨-, outcome, r, sent, hrun, hsent, -, -, hkept, hlasts, hall⟩ :=
    eraseRange_clears_touched hvalid hsize (by decide) hsectorTime hblockTime hlisten rfl hfit
  have hok : outcome = .ok () := hlasts.2 (lasts_of_sweepTime (by rw [hsteps]; decide))
  obtain ⟨rfl, herased⟩ := hall hok
  rw [hsteps] at hsent
  subst hok
  refine ⟨hvalid, hsize, hlisten, rfl, r, hrun, hsent, ?_, ?_⟩
  · exact fun i hlow hhigh => herased i hlow hhigh
  · exact fun i hi => hkept i fun h => Nat.not_le.2 hi h.1

end Command

end CardReader
