import CardReader.Proofs.Act
import CardReader.Proofs.Waits

/-!
# A part at standby

Between two requests a part listens, its latch is clear and no channel is claimed.  All that is left
in it of what it was asked before is its array and its status registers; these two decide what the
next operation does, whatever the instant at which it begins.

What is proved here:

* `does_bind` and its companions — what operations do, one after another;
* `does_settle` — a part that has begun to work is at standby again once it has been waited for,
  exactly if the timeout allows it;
* `does_act` — the same for a write enable, a command and the wait together.
-/

namespace CardReader

open Flash

variable {α β : Type} {config : Part.Config} {rig : Rig Part}

/-! ## Standby -/

/-- No fault is on, the part listens, and what is left of earlier requests is no more than the
contents of its array and of its status registers. -/
structure Standby (config : Part.Config) (cells : Part.Cells) (held : StatusRegister → UInt8)
    (rig : Rig Part) : Prop where
  config_eq : rig.bus.config = config
  faults_eq : rig.bus.faults = {}
  listening : Part.Listening rig.clock rig.bus
  writeEnabled_eq : rig.bus.writeEnabled = false
  dma_eq : rig.bus.dma = none
  cells_eq : rig.bus.cells = cells
  stored_eq : rig.bus.stored = held
  sized : rig.bus.Sized

section Standby

variable {cells : Part.Cells} {held : StatusRegister → UInt8}

/-- A part with contents of the proper size is at standby at the start. -/
theorem standby_of_size (hpower : Part.Config.isPowerOfTwo config.size = true)
    (hsize : cells.size = config.size) :
    Standby config cells (fun _ => 0) { bus := { config, cells }, clock := .start } where
  config_eq := rfl
  faults_eq := rfl
  listening := ⟨rfl, rfl, rfl⟩
  writeEnabled_eq := rfl
  dma_eq := rfl
  cells_eq := rfl
  stored_eq := by
    have hone : Part.storedStatusBits 0 = 0 := by decide
    funext register
    cases register with
    | one => exact hone
    | _ => rfl
  sized := ⟨hsize, hpower⟩

theorem Standby.features_eq (h : Standby config cells held rig) :
    rig.bus.features = (Part.new config).features := by
  rw [Part.features, h.config_eq]
  rfl

theorem Standby.size_eq (h : Standby config cells held rig) : cells.size = config.size := by
  rw [← h.cells_eq, h.sized.size_eq, h.config_eq]

/-- A report changes nothing. -/
theorem Standby.report (h : Standby config cells held rig) (event : Progress) :
    Standby config cells held { rig with progress := rig.progress.push event } :=
  ⟨h.1, h.2, h.3, h.4, h.5, h.6, h.7, h.8⟩

/-- What changes no more than FIFOs and records leaves the part at standby. -/
theorem Standby.idle {r : Rig Part} (h : Standby config cells held rig)
    (hpart : ∃ log transaction resetArmed readFifo writeFifo deviceParams, r.bus =
      { rig.bus with log, transaction, resetArmed, readFifo, writeFifo, deviceParams })
    (hnow : rig.clock.now ≤ r.clock.now) : Standby config cells held r := by
  obtain ⟨hconfig, hfaults, hlisten, hlatch, hdma, hcells, hstored, hsized⟩ := h
  obtain ⟨hawake, halert, hidle⟩ := Part.listening_of_later hlisten hnow
  obtain ⟨_, _, _, _, _, _, hpart⟩ := hpart
  refine ⟨?_, ?_, ?_, ?_, ?_, ?_, ?_, ?_⟩
  all_goals rw [hpart]
  · exact hconfig
  · exact hfaults
  · exact ⟨hawake, halert, hidle⟩
  · exact hlatch
  · exact hdma
  · exact hcells
  · exact hstored
  · exact hsized.congr rfl rfl

end Standby

/-! ## Deeds -/

/-- What an operation does to a part at standby. -/
structure Deed (α : Type) where
  /-- What it takes for the operation to answer. -/
  able : Prop := True
  /-- The answer. -/
  answer : α
  /-- The array afterwards. -/
  cells : Part.Cells
  /-- The status registers afterwards. -/
  held : StatusRegister → UInt8
  /-- How many microseconds it takes. -/
  us : Nat := 0

namespace Flash.Op

/-- The operation does the deed exactly if it is able to, unless the clock runs out before. -/
def Does (op : Op Part α) (config : Part.Config) (rig : Rig Part) (deed : Deed α) : Prop :=
  op.Ends rig
    (fun a r => deed.able ∧ a = deed.answer ∧ Standby config deed.cells deed.held r ∧
      r.clock.now = min (rig.clock.now + deed.us) lastInstant)
    fun _ r => ¬deed.able ∨ r.clock.now = lastInstant ∧ lastInstant < rig.clock.now + deed.us

variable {op : Op Part α} {first : Op Part β} {next : β → Op Part α} {deed : Deed α}

/-- An operation that is able to do its deed, and has the time for it, answers. -/
theorem Does.exists_ok (h : op.Does config rig deed) (hable : deed.able)
    (hclock : rig.clock.now + deed.us ≤ lastInstant) :
    ∃ r, op rig = (.ok deed.answer, r) ∧ Standby config deed.cells deed.held r ∧
      r.clock.now = rig.clock.now + deed.us := by
  have hends : op.Ends rig (fun a r => a = deed.answer ∧ Standby config deed.cells deed.held r ∧
      r.clock.now = rig.clock.now + deed.us) fun _ _ => False := by
    refine h.mono ?_ ?_
    · rintro a r ⟨-, hanswer, hstandby, hnow⟩
      exact ⟨hanswer, hstandby, by rw [hnow, Nat.min_eq_left hclock]⟩
    · rintro failure r (hunable | ⟨-, hlate⟩)
      · exact hunable hable
      · omega
  obtain ⟨a, r, hrun, rfl, hrest⟩ := hends.exists_ok
  exact ⟨r, hrun, hrest⟩

/-- What an operation takes may be said in another way. -/
theorem Does.congr {deed' : Deed α} (h : op.Does config rig deed) (hable : deed'.able ↔ deed.able)
    (hanswer : deed.able → deed' = { deed with able := deed'.able }) :
    op.Does config rig deed' := by
  refine h.mono ?_ ?_
  · rintro a r ⟨hdone, hrest⟩
    rw [hanswer hdone]
    exact ⟨hable.2 hdone, hrest⟩
  · rintro failure r (hunable | hlate)
    · exact .inl (mt hable.1 hunable)
    · by_cases hdone : deed.able
      · rw [hanswer hdone]
        exact .inr hlate
      · exact .inl (mt hable.1 hdone)

/-- What comes next does its deed where the first operation has left the part. -/
theorem does_bind {before : Deed β} {after : Deed α} (hfirst : first.Does config rig before)
    (hnext : before.able → ∀ r, Standby config before.cells before.held r →
      (next before.answer).Does config r after) :
    (first >>= next).Does config rig
      { after with able := before.able ∧ after.able, us := before.us + after.us } := by
  refine ends_bind.2 (hfirst.mono ?_ ?_)
  · rintro b r ⟨hable, rfl, hstandby, hnow⟩
    refine (hnext hable r hstandby).mono ?_ ?_
    · rintro a last ⟨hable', hanswer, hstandby', hnow'⟩
      refine ⟨⟨hable, hable'⟩, hanswer, hstandby', ?_⟩
      simp only
      omega
    · rintro failure last (hunable | ⟨hlast, hlate⟩)
      · exact .inl fun h => hunable h.2
      · refine .inr ⟨hlast, ?_⟩
        simp only
        omega
  · rintro failure r (hunable | ⟨hlast, hlate⟩)
    · exact .inl fun h => hunable h.1
    · refine .inr ⟨hlast, ?_⟩
      simp only
      omega

section Leaves

variable {cells : Part.Cells} {held : StatusRegister → UInt8}

/-- An operation that leaves the part as it is, in no time. -/
theorem does_of_ends {a : α} (hstandby : Standby config cells held rig)
    (h : op.Ends rig (fun b r => b = a ∧ r = rig) fun _ _ => False) :
    op.Does config rig { answer := a, cells, held } := by
  refine h.mono ?_ fun _ _ => False.elim
  rintro b r ⟨rfl, rfl⟩
  exact ⟨trivial, rfl, hstandby, (Nat.min_eq_left r.clock.now_le).symm⟩

theorem does_pure (hstandby : Standby config cells held rig) (a : α) :
    (pure a : Op Part α).Does config rig { answer := a, cells, held } :=
  does_of_ends hstandby ⟨rfl, rfl⟩

/-- What comes after a check is done exactly if the check passes as well. -/
theorem does_check_bind {outcome : Except Failure Unit}
    (h : outcome = .ok () → op.Does config rig deed) :
    (check outcome >>= fun _ => op).Does config rig
      { deed with able := outcome = .ok () ∧ deed.able } := by
  refine ends_bind.2 ?_
  rw [ends_check]
  refine ⟨fun _ hpass => ?_, fun failure hfailure => .inl ?_⟩
  · refine (h hpass).mono (fun a r hdone => ⟨⟨hpass, hdone.1⟩, hdone.2⟩) fun failure r hlate => ?_
    exact hlate.imp_left fun hunable hboth => hunable hboth.2
  · rintro ⟨hpass, -⟩
    rw [hpass] at hfailure
    cases hfailure

theorem does_mapFailure (rename : Failure → Failure) (h : op.Does config rig deed) :
    (mapFailure rename op).Does config rig deed :=
  (ends_mapFailure rename).2 (h.mono (fun _ _ h => h) fun _ _ h => h)

end Leaves

end Flash.Op

/-! ## Work -/

/-- The part has begun to work for `us` microseconds, with these contents. -/
structure Part.Underway (clock : Clock) (us : Nat) (cells : Part.Cells)
    (held : StatusRegister → UInt8) (before after : Part) : Prop where
  working : Part.Working clock us before after
  cells_eq : after.cells = cells
  stored_eq : after.stored = held

namespace Flash

variable {cells before : Part.Cells} {held heldBefore : StatusRegister → UInt8} {us : Nat}

/-- A part that has begun to work is at standby again after the wait for it. -/
theorem does_settle {r : Rig Part} (policy : PollPolicy)
    (hstandby : Standby config before heldBefore rig) (hclock : r.clock = rig.clock)
    (hunderway : Part.Underway rig.clock us cells held rig.bus r.bus) (hdma : r.bus.dma = none)
    (hsize : cells.size = before.size) :
    (Sequence.waitReady policy).Does config r
      { able := policy.Reaches us, answer := (), cells, held, us := policy.span us } := by
  obtain ⟨hworking, hcells, hstored⟩ := hunderway
  have hsteady := hworking.steady
  have hwake : ∀ later, Part.Listening later r.part ↔ rig.clock.now + us ≤ later.now :=
    fun _ => Part.listening_of_busyUntil hstandby.listening hstandby.faults_eq hsteady
      hworking.busyUntil_eq
  have hresponse : r.part.faults.unresponsive = false := by
    rw [show r.part.faults = {} from hsteady.faults_eq.trans hstandby.faults_eq]
  have hspan : rig.clock.now + us - r.clock.now = us := by
    rw [hclock, Nat.add_sub_cancel_left]
  have hsized : r.bus.Sized := by
    refine hstandby.sized.congr hsteady.config_eq ?_
    rw [hcells, hsize, hstandby.cells_eq]
  have hwait : Op.Ends (Sequence.waitReady policy) r _ _ :=
    ends_waitReady_on_grid (fun _ => id) hresponse hwake
  rw [hspan] at hwait
  refine (hwait.and (ends_waitReady r policy)).mono ?_ ?_
  · rintro _ last ⟨⟨huntouched, -, hreaches, hnow⟩, -, -, hlisten⟩
    refine ⟨hreaches, rfl, ⟨?_, ?_, hlisten, ?_, ?_, ?_, ?_, ?_⟩, hnow⟩
    · exact (huntouched.config_eq.trans hsteady.config_eq).trans hstandby.config_eq
    · exact (huntouched.faults_eq.trans hsteady.faults_eq).trans hstandby.faults_eq
    · exact huntouched.writeEnabled_eq.trans hworking.writeEnabled_eq
    · exact huntouched.dma_eq.trans hdma
    · exact huntouched.cells_eq.trans hcells
    · obtain ⟨_, _, _, hpart⟩ := huntouched
      rw [show last.bus = _ from hpart]
      exact hstored
    · exact hsized.congr huntouched.config_eq (congrArg Part.Cells.size huntouched.cells_eq)
  · rintro failure last ⟨⟨-, -, -, ⟨hshort, -⟩ | hlate⟩, -⟩
    · exact .inl hshort
    · exact .inr hlate

/-- A part at standby is not waited for. -/
theorem does_waitReady (policy : PollPolicy) (hstandby : Standby config cells held rig) :
    (Sequence.waitReady policy).Does config rig { answer := (), cells, held } := by
  have hfaults : rig.part.faults = {} := hstandby.faults_eq
  have hwake : ∀ later, Part.Listening later rig.part ↔
      max rig.bus.busyUntil rig.bus.deafUntil ≤ later.now :=
    Part.listening_iff_of_awake hstandby.listening.awake (by rw [hfaults])
  have hawake := (hwake rig.clock).1 hstandby.listening
  have hresponse : rig.part.faults.unresponsive = false := by rw [hfaults]
  have hwait : Op.Ends (Sequence.waitReady policy) rig _ _ :=
    ends_waitReady_on_grid (fun _ => id) hresponse hwake
  rw [Nat.sub_eq_zero_of_le hawake, PollPolicy.span_zero] at hwait
  refine hwait.mono ?_ ?_
  · rintro _ last ⟨huntouched, -, -, hnow⟩
    have hlast := rig.clock.now_le
    obtain ⟨log, transaction, resetArmed, hpart⟩ := huntouched
    exact ⟨trivial, rfl, hstandby.idle ⟨log, transaction, resetArmed, _, _, _, hpart⟩ (by omega),
      hnow⟩
  · rintro failure last ⟨-, -, -, ⟨hshort, -⟩ | hlate⟩
    · exact absurd (PollPolicy.reaches_of_le (Nat.zero_le _)) hshort
    · exact .inr hlate

/-! ## Acts -/

/-- A command that a listening part with its latch set carries out is an act: the part is at
standby again once it has been waited for. -/
theorem does_act {command : Command} (policy : PollPolicy)
    (hstandby : Standby config before heldBefore rig)
    (hmode : command.mode.check rig.bus.features = .ok ()) (heffective : Part.Effective command)
    (hcarried : ∀ armed, Part.Armed rig.clock none rig.bus.writeFifo rig.bus armed →
      Part.Listening rig.clock armed → armed.writeEnabled = true →
      ∃ value issued, Part.issue rig.clock command armed = (.ok (), issued) ∧
        issued.transaction = some (.done value) ∧ issued.dma = armed.dma ∧
        Part.Underway rig.clock us cells held armed issued)
    (hsize : cells.size = before.size) :
    (act command policy).Does config rig
      { able := policy.Reaches us, answer := (), cells, held, us := policy.span us } := by
  have hdma := hstandby.dma_eq
  refine ends_act command (fun part => part.dma = none ∧
    Part.Underway rig.clock us cells held rig.bus part) hmode heffective ?_ ?_ ?_
  · intro armed harmed hlisten hlatch
    rw [show rig.part.dma = none from hdma] at harmed
    obtain ⟨value, issued, hissue, hdone, hsame, hworking, hcells, hstored⟩ :=
      hcarried armed harmed hlisten hlatch
    refine ⟨value, issued, hissue, hdone, hworking.steady, hsame.trans harmed.dma_eq, ?_, hcells,
      hstored⟩
    have hsteady := harmed.steady.trans hworking.steady
    exact ⟨hsteady.config_eq, hsteady.faults_eq, hsteady.poweredDown_eq, hsteady.deafUntil_eq,
      hworking.writeEnabled_eq, hworking.busyUntil_eq⟩
  · intro r hacted
    obtain ⟨hfree, hunderway⟩ := hacted.carried hstandby.listening
    have hsettle := does_settle policy hstandby hacted.abreast.clock_eq hunderway hfree hsize
    rw [Op.Does, show r.clock = rig.clock from hacted.abreast.clock_eq] at hsettle
    exact hsettle
  · rintro failure r ⟨-, -, hstray | ⟨hsilent, -⟩⟩
    · exact hstray.elim
    · rw [show rig.part.faults = {} from hstandby.faults_eq] at hsilent
      cases hsilent

end Flash

end CardReader
