import CardReader.Proofs.Program.Page
import CardReader.Proofs.Waits
import CardReader.Proofs.Watched

/-!
# Steps on a quiet part

A quiet part is listening, has its latch clear and no channel claimed, and waits for no data.
Every operation that changes a quiet part begins its work with commands that find the part
listening, and then waits until the work is over; no other operation takes any time.  Either way
the part is quiet again.

What is proved here:

* `ends_transact_of_quiet` — a command that begins no work leaves a quiet part quiet;
* `ends_writeEnable_of_quiet` and the stages after it — how work is prepared;
* `ends_waitReady_of_settles` — the wait for a part that will be quiet in time;
* `ends_begin` and `ends_settle` — how work begins, and how long it is waited for;
* `ends_act_of_quiet` — all of this for a command without data.
-/

namespace CardReader

open Flash

namespace Part

variable {clock : Clock} {us : Nat} {part before mid after : Part}

/-! ## Parts that work or do not -/

/-- What leads up to the work does not count, nor does the transaction that it leaves. -/
theorem Working.of_steady (hsteady : Steady before mid) (h : Working clock us mid after)
    (transaction : Option Transaction) : Working clock us before { after with transaction } :=
  ⟨h.config_eq.trans hsteady.config_eq, h.faults_eq.trans hsteady.faults_eq,
    h.poweredDown_eq.trans hsteady.poweredDown_eq, h.deafUntil_eq.trans hsteady.deafUntil_eq,
    h.writeEnabled_eq, h.busyUntil_eq⟩

/-- A command has been carried out and has begun no work. -/
structure Idled (before after : Part) : Prop where
  steady : Steady before after
  busyUntil_eq : after.busyUntil = before.busyUntil
  writeEnabled_eq : after.writeEnabled = before.writeEnabled
  dma_eq : after.dma = before.dma
  finished : before.Over → after.Over

/-! ## Work -/

/-- A command that sets a listening part with its latch set to work for `us` microseconds, and
leaves `dma` in the DMA channel. -/
def SetsToWork (clock : Clock) (command : Command) (us : Nat) (dma : Option DmaClaim)
    (part : Part) : Prop :=
  ∃ value issued, issue clock command part = (.ok (), issued) ∧
    issued.transaction = some (.done value) ∧ Working clock us part issued ∧ issued.dma = dma

theorem working_program (henabled : part.writeEnabled = true) (addr : Nat) (data : List UInt8) :
    Working clock part.config.pageProgramTime part (program clock addr data part) ∧
      (program clock addr data part).dma = part.dma := by
  rw [program, if_pos henabled]
  exact ⟨⟨rfl, rfl, rfl, rfl, rfl, rfl⟩, rfl⟩

theorem working_eraseUnit (henabled : part.writeEnabled = true) (addr : Nat) (unit : EraseUnit) :
    Working clock (part.eraseTime unit) part (eraseUnit clock addr unit part) ∧
      (eraseUnit clock addr unit part).dma = part.dma := by
  have herase : ∀ addr len us, Working clock us part (erase clock addr len us part) ∧
      (erase clock addr len us part).dma = part.dma := by
    intro addr len us
    rw [erase, if_pos henabled]
    exact ⟨⟨rfl, rfl, rfl, rfl, rfl, rfl⟩, rfl⟩
  cases unit with
  | sector => exact herase _ _ _
  | block32 => exact herase _ _ _
  | block64 => exact herase _ _ _
  | chip => exact herase _ _ _

theorem setsToWork_erase (hlisten : Listening clock part) (henabled : part.writeEnabled = true)
    (unit : EraseUnit) (addr : Nat) :
    SetsToWork clock (eraseCommand unit addr) (part.eraseTime unit) part.dma part := by
  let heard := part.heard (eraseCommand unit addr)
  have hlatch : heard.writeEnabled = true := henabled
  obtain ⟨hworking, hdma⟩ : Working clock (heard.eraseTime unit) heard
      (eraseUnit clock (eraseCommand unit addr).address unit heard) ∧ _ :=
    working_eraseUnit hlatch _ unit
  have hsteady : Steady part heard := ⟨rfl, rfl, rfl, rfl⟩
  exact ⟨0, _, issue_erase hlisten unit addr, rfl, hworking.of_steady hsteady _, hdma⟩

theorem setsToWork_writeRegister (hlisten : Listening clock part)
    (henabled : part.writeEnabled = true) (register : StatusRegister) (value : UInt16) (len : Nat) :
    SetsToWork clock (Command.writeRegister (writeStatusOpcode register) value len)
      part.config.writeStatusTime part.dma part := by
  let command := Command.writeRegister (writeStatusOpcode register) value len
  let heard := part.heard command
  have hlatch : heard.writeEnabled = true := henabled
  obtain ⟨hworking, -, -, hdma⟩ : Working clock heard.config.writeStatusTime heard
      (writeStatus clock command register heard) ∧ _ := writeStatus_of_enabled hlatch register
  have hsteady : Steady part heard := ⟨rfl, rfl, rfl, rfl⟩
  exact ⟨0, _, issue_writeRegister hlisten register value len rfl, rfl,
    hworking.of_steady hsteady _, hdma⟩

/-- A program command for data that has been staged. -/
theorem setsToWork_program {config : ControllerConfig} {addr : Nat} {data : List UInt8}
    {dma : Option DmaClaim} (hmode : config.programMode.check part.features = .ok ())
    (hlisten : Listening clock part) (henabled : part.writeEnabled = true)
    (haddr : addr < addressSpace)
    (hpull : ∀ command, pull data.length [] (part.heard command) =
      (data, { part.heard command with writeFifo := [], dma })) :
    SetsToWork clock (Controller.programCommand config addr data.length)
      part.config.pageProgramTime dma part := by
  let command := Controller.programCommand config addr data.length
  have hissue := issue_program hmode hlisten addr data.length (show command = _ from rfl)
  let staged : Part := { part.heard command with writeFifo := [], dma }
  have hlatch : staged.writeEnabled = true := henabled
  obtain ⟨hworking, hdma⟩ : Working clock staged.config.pageProgramTime staged
      (program clock addr data staged) ∧ _ := working_program hlatch addr data
  rw [startProgram_of_pull rfl (Nat.mod_eq_of_lt haddr) rfl (hpull command)] at hissue
  have hsteady : Steady part staged := ⟨rfl, rfl, rfl, rfl⟩
  exact ⟨0, _, hissue, rfl, hworking.of_steady hsteady _, hdma⟩

end Part

/-! ## Quiet rigs -/

/-- The part is listening and has nothing left over from an earlier operation, and it has heard
all that was said to it. -/
structure Quiet (config : Part.Config) (rig : Rig Watched) : Prop where
  config_eq : rig.part.config = config
  faults_eq : rig.part.faults = {}
  listening : Part.Listening rig.clock rig.part
  writeEnabled_eq : rig.part.writeEnabled = false
  dma_eq : rig.part.dma = none
  finished : rig.part.Over
  attentive : rig.bus.Attentive

section Quiet

variable {config : Part.Config} {rig mid r : Rig Watched} {command : Command} {us : Nat}
  {dma : Option Part.DmaClaim} {fifo : List UInt8}

/-- A part that has begun no work is still quiet. -/
theorem Quiet.idle (h : Quiet config rig) (hidled : Part.Idled rig.part r.part)
    (hclock : r.clock = rig.clock) (hattentive : r.bus.Attentive) : Quiet config r where
  config_eq := hidled.steady.config_eq.trans h.config_eq
  faults_eq := hidled.steady.faults_eq.trans h.faults_eq
  listening := by
    rw [hidled.steady.listening hidled.busyUntil_eq, hclock]
    exact h.listening
  writeEnabled_eq := hidled.writeEnabled_eq.trans h.writeEnabled_eq
  dma_eq := hidled.dma_eq.trans h.dma_eq
  finished := hidled.finished h.finished
  attentive := hattentive

/-- What the controller can drive is a matter of the configuration. -/
theorem Quiet.features_eq (h : Quiet config rig) :
    rig.part.features = (Part.new config).features := Part.features_congr h.config_eq

/-- A report changes nothing. -/
theorem Quiet.report (h : Quiet config rig) (progress : Array Progress) :
    Quiet config { rig with progress } :=
  ⟨h.1, h.2, h.3, h.4, h.5, h.6, h.7⟩

/-- Whatever becomes of a transaction, the part has heard its command if it was listening. -/
theorem ends_transact_attentive (policy : PollPolicy) (hattentive : rig.bus.Attentive)
    (hlisten : Part.Listening rig.clock rig.part) :
    Op.Ends (Sequence.transact command policy) rig (fun _ r => r.bus.Attentive)
      fun _ r => r.bus.Attentive := by
  have hissued : (Bus.issue rig.clock command rig.bus).2.Attentive :=
    Watched.attentive_issue hattentive (.inl hlisten)
  have hwait : Op.Keeps Watched.Attentive (Sequence.waitDone command.opcode policy) :=
    Op.keeps_wait (Op.keeps_call fun _ _ h => h)
  rw [Sequence.transact, Op.ends_bind, Op.ends_call]
  refine ⟨fun _ _ => ?_, fun _ _ => hissued⟩
  rw [Op.ends_bind]
  exact Op.keeps_iff_ends.1 hwait _ hissued

/-- A transaction that is finished when it is issued, on a part without faults. -/
theorem ends_transact_heard {issued : Part} {value : UInt32} (policy : PollPolicy)
    (hattentive : rig.bus.Attentive) (hlisten : Part.Listening rig.clock rig.part)
    (hissue : Part.issue rig.clock command rig.part = (.ok (), issued))
    (hdone : issued.transaction = some (.done value)) (hfaults : issued.faults = {}) :
    Op.Ends (Sequence.transact command policy) rig
      (fun done r => done = command.withReadData value ∧ r.part = issued ∧ r.clock = rig.clock ∧
        r.bus.Attentive) fun _ _ => False := by
  refine ((ends_transact policy hissue hdone).and
    (ends_transact_attentive policy hattentive hlisten)).mono ?_ ?_
  · rintro done r ⟨⟨hvalue, hpart, habreast, -⟩, hattentive'⟩
    exact ⟨hvalue, hpart, habreast.clock_eq, hattentive'⟩
  · rintro failure r ⟨⟨-, -, hstray | ⟨-, hsilent⟩⟩, -⟩
    · exact hstray
    · rw [hfaults] at hsilent
      cases hsilent

/-- A command that begins no work takes no time. -/
theorem ends_transact_of_quiet {issued : Part} {value : UInt32} (policy : PollPolicy)
    (hquiet : Quiet config rig)
    (hissue : Part.issue rig.clock command rig.part = (.ok (), issued))
    (hdone : issued.transaction = some (.done value)) (hidled : Part.Idled rig.part issued) :
    Op.Ends (Sequence.transact command policy) rig
      (fun _ r => Quiet config r ∧ r.part = issued ∧ r.clock = rig.clock) fun _ _ => False := by
  have hfaults : issued.faults = {} := hidled.steady.faults_eq.trans hquiet.faults_eq
  refine (ends_transact_heard policy hquiet.attentive hquiet.listening hissue hdone hfaults).imp ?_
  rintro done r ⟨-, hpart, hclock, hattentive⟩
  exact ⟨hquiet.idle (hpart ▸ hidled) hclock hattentive, hpart, hclock⟩

/-! ## Preparing work -/

/-- After a write enable on `rig`, data has been staged, and no time has passed. -/
structure Staged (dma : Option Part.DmaClaim) (fifo : List UInt8) (rig r : Rig Watched) :
    Prop where
  armed : Part.Armed rig.clock dma fifo rig.part r.part
  clock_eq : r.clock = rig.clock
  attentive : r.bus.Attentive

/-- An operation that issues no command leaves what the part has heard. -/
theorem Staged.of_ends {dma' : Option Part.DmaClaim} {fifo' : List UInt8} {op : Op Watched Unit}
    {err : Failure → Rig Watched → Prop} (h : Staged dma fifo rig mid)
    (hends : Op.Ends op mid
      (fun _ r => Part.Armed rig.clock dma' fifo' rig.part r.part ∧ mid.Abreast r) err)
    (herr : ∀ failure r, ¬err failure r) (hkeeps : op.Keeps Watched.Attentive) :
    Op.Ends op mid (fun _ r => Staged dma' fifo' rig r) fun _ _ => False := by
  refine (hends.and (Op.keeps_iff_ends.1 hkeeps mid h.attentive)).mono ?_
    fun failure r herror => herr failure r herror.1
  rintro _ r ⟨⟨harmed, habreast⟩, hattentive⟩
  exact ⟨harmed, habreast.clock_eq.trans h.clock_eq, hattentive⟩

theorem ends_writeEnable_of_quiet (policy : PollPolicy) (hquiet : Quiet config rig) :
    Op.Ends (Sequence.writeEnable .single policy) rig
      (fun _ r => Staged none rig.part.writeFifo rig r) fun _ _ => False := by
  obtain ⟨value, issued, hissue, hdone, harmed⟩ :=
    Part.issue_writeEnable_armed rig.clock rig.part
  have hfaults : issued.faults = {} := harmed.steady.faults_eq.trans hquiet.faults_eq
  rw [hquiet.dma_eq] at harmed
  rw [Sequence.writeEnable, Sequence.singleCommand, Op.ends_bind]
  refine (ends_transact_heard policy hquiet.attentive hquiet.listening hissue hdone hfaults).imp ?_
  rintro done r ⟨-, hpart, hclock, hattentive⟩
  exact ⟨hpart ▸ harmed, hclock, hattentive⟩

theorem ends_flush_of_staged (h : Staged dma fifo rig mid) :
    Op.Ends (Op.update Bus.flushFifos) mid (fun _ r => Staged dma [] rig r) fun _ _ => False :=
  h.of_ends (ends_flush h.armed) (fun _ _ => id) (Op.keeps_update fun _ hattentive => hattentive)

theorem ends_queue_of_staged (h : Staged dma [] rig mid) (data : List UInt8)
    (hdepth : data.length ≤ rig.part.config.writeDepth) :
    Op.Ends (Op.call (Bus.writeFifo · data)) mid (fun _ r => Staged dma data rig r)
      fun _ _ => False := by
  refine h.of_ends (ends_queue h.armed data) ?_ (Op.keeps_call fun _ _ hattentive => hattentive)
  rintro failure r ⟨-, -, hstray | ⟨-, hshallow⟩⟩
  · exact hstray
  · omega

theorem ends_dmaStart_of_staged {claim : Part.DmaClaim} (h : Staged (some claim) fifo rig mid)
    (block : List UInt8) :
    Op.Ends (Op.call (Bus.dmaStart · claim.channel block)) mid
      (fun _ r => Staged (some { claim with block }) fifo rig r) fun _ _ => False :=
  h.of_ends (ends_dmaStart h.armed block) (fun _ _ hfailure => hfailure.2.2)
    (Op.keeps_call fun _ _ hattentive => hattentive)

/-! ## Waiting -/

/-- What the reads of a part's status leave as it is: the part is awake, waits for no data and has
heard all that was said to it. -/
structure Awaited (watched : Watched) : Prop where
  awake : watched.part.poweredDown = false
  finished : watched.part.Over
  attentive : watched.Attentive

theorem keeps_waitReady (policy : PollPolicy) : Op.Keeps Awaited (Sequence.waitReady policy) := by
  have hissue : Op.Keeps Awaited (Op.call (Bus.issue · Part.statusCommand)) := by
    refine Op.keeps_call fun clock watched h => ?_
    obtain ⟨value, result, hissue, hpolled, hdone, -⟩ :=
      Part.issue_statusCommand clock watched.part
    have hpart : (Bus.issue clock Part.statusCommand watched).2.part = result :=
      congrArg Prod.snd hissue
    refine ⟨?_, ?_, Watched.attentive_issue h.attentive (.inr ⟨rfl, h.awake⟩)⟩
    · rw [hpart, hpolled.untouched.steady.poweredDown_eq, h.awake]
    · rw [hpart]
      exact Part.over_of_done hdone
  have hpoll : Op.Keeps Awaited (Op.call Bus.pollDone) := by
    refine Op.keeps_call fun clock watched h => ?_
    have hpart : (Bus.pollDone clock watched).2.part = watched.part := h.finished.pollDone clock
    refine ⟨?_, ?_, h.attentive⟩
    · rw [hpart, h.awake]
    · rw [hpart]
      exact h.finished
  exact Op.keeps_wait <| Op.keeps_bind
    (Op.keeps_bind (Op.keeps_bind hissue fun _ =>
      Op.keeps_bind (Op.keeps_wait hpoll) fun _ => Op.keeps_pure _) fun _ => Op.keeps_pure _)
    fun _ => Op.keeps_pure _

/-- The part will be quiet from the instant `wake` on. -/
structure Settling (config : Part.Config) (wake : Nat) (rig : Rig Watched) : Prop where
  config_eq : rig.part.config = config
  faults_eq : rig.part.faults = {}
  wakes : ∀ later, Part.Listening later rig.part ↔ wake ≤ later.now
  writeEnabled_eq : rig.part.writeEnabled = false
  dma_eq : rig.part.dma = none
  awaited : Awaited rig.bus

theorem Settling.quiet {wake : Nat} (h : Settling config wake rig) (hwake : wake ≤ rig.clock.now) :
    Quiet config rig :=
  ⟨h.config_eq, h.faults_eq, (h.wakes _).2 hwake, h.writeEnabled_eq, h.dma_eq, h.awaited.finished,
    h.awaited.attentive⟩

/-- Time passes, and the part settles all the same. -/
theorem Settling.pass {wake : Nat} (h : Settling config wake rig) (clock : Clock) :
    Settling config wake { rig with clock } :=
  ⟨h.config_eq, h.faults_eq, h.wakes, h.writeEnabled_eq, h.dma_eq, h.awaited⟩

theorem Quiet.settling (h : Quiet config rig) :
    Settling config (max rig.part.busyUntil rig.part.deafUntil) rig where
  config_eq := h.config_eq
  faults_eq := h.faults_eq
  wakes := Part.listening_iff_of_awake h.listening.awake (by rw [h.faults_eq])
  writeEnabled_eq := h.writeEnabled_eq
  dma_eq := h.dma_eq
  awaited := ⟨h.listening.awake, h.finished, h.attentive⟩

/-- A part that settles in time is waited for until it has. -/
theorem ends_waitReady_of_settles {policy : PollPolicy} {wake : Nat}
    (hsettling : Settling config wake rig) (htimeout : wake ≤ rig.clock.now + policy.timeout)
    (hclock : rig.clock.now + policy.span (wake - rig.clock.now) ≤ lastInstant) :
    Op.Ends (Sequence.waitReady policy) rig
      (fun _ r => Quiet config r ∧
        r.clock.now = rig.clock.now + policy.span (wake - rig.clock.now))
      fun _ _ => False := by
  have hready := ends_waitReady_of_settling (fun _ => id) (by rw [hsettling.faults_eq])
    hsettling.wakes htimeout hclock
  refine (hready.and (Op.keeps_iff_ends.1 (keeps_waitReady policy) rig hsettling.awaited)).mono ?_
    fun _ _ h => h.1
  rintro _ r ⟨⟨huntouched, -, hnow⟩, hawaited⟩
  have hspan := PollPolicy.le_span policy (wake - rig.clock.now)
  have hsettled : Settling config wake r :=
    ⟨huntouched.config_eq.trans hsettling.config_eq, huntouched.faults_eq.trans hsettling.faults_eq,
      fun later => huntouched.listening.trans (hsettling.wakes later),
      huntouched.writeEnabled_eq.trans hsettling.writeEnabled_eq,
      huntouched.dma_eq.trans hsettling.dma_eq, hawaited⟩
  exact ⟨hsettled.quiet (by omega), hnow⟩

/-- A wait for a part that is quiet already takes no time. -/
theorem ends_waitReady_of_quiet (policy : PollPolicy) (hquiet : Quiet config rig) :
    Op.Ends (Sequence.waitReady policy) rig
      (fun _ r => Quiet config r ∧ r.clock.now = rig.clock.now) fun _ _ => False := by
  have hsettling := hquiet.settling
  have hwake := (hsettling.wakes rig.clock).1 hquiet.listening
  have hspan : policy.span (max rig.part.busyUntil rig.part.deafUntil - rig.clock.now) = 0 := by
    rw [Nat.sub_eq_zero_of_le hwake, PollPolicy.span_zero]
  have hready : Op.Ends (Sequence.waitReady policy) rig _ _ :=
    ends_waitReady_of_settles hsettling (by omega) (by rw [hspan]; exact rig.clock.now_le)
  rw [hspan] at hready
  exact hready

/-! ## Work -/

/-- The part has begun to work for `us` microseconds, and no time has passed. -/
structure Begun (us : Nat) (dma : Option Part.DmaClaim) (rig r : Rig Watched) : Prop where
  clock_eq : r.clock = rig.clock
  working : Part.Working rig.clock us rig.part r.part
  dma_eq : r.part.dma = dma
  finished : r.part.Over
  attentive : r.bus.Attentive

theorem ends_begin {dma' : Option Part.DmaClaim} (policy : PollPolicy)
    (hquiet : Quiet config rig) (hstaged : Staged dma fifo rig mid)
    (hworks : Part.Listening mid.clock mid.part → mid.part.writeEnabled = true →
      Part.SetsToWork mid.clock command us dma' mid.part) :
    Op.Ends (Sequence.transact command policy) mid (fun _ r => Begun us dma' rig r)
      fun _ _ => False := by
  have hlisten : Part.Listening mid.clock mid.part := by
    rw [hstaged.armed.listening, hstaged.clock_eq]
    exact hquiet.listening
  obtain ⟨value, issued, hissue, hdone, hworking, hdma⟩ :=
    hworks hlisten (hstaged.armed.latched hquiet.listening)
  have hworking' := hworking.of_steady hstaged.armed.steady issued.transaction
  have hfaults : issued.faults = {} := hworking'.faults_eq.trans hquiet.faults_eq
  refine (ends_transact_heard policy hstaged.attentive hlisten hissue hdone hfaults).imp ?_
  rintro done r ⟨-, hpart, hclock, hattentive⟩
  rw [hstaged.clock_eq] at hworking' hclock
  exact ⟨hclock, hpart ▸ hworking', hpart ▸ hdma, hpart ▸ Part.over_of_done hdone, hattentive⟩

/-- The work is waited for, and the part is quiet again. -/
theorem ends_settle {policy : PollPolicy} (hquiet : Quiet config rig) (hbegun : Begun us none rig r)
    (htimeout : us ≤ policy.timeout) (hclock : rig.clock.now + policy.span us ≤ lastInstant) :
    Op.Ends (Sequence.waitReady policy) r
      (fun _ last => Quiet config last ∧ last.clock.now = rig.clock.now + policy.span us)
      fun _ _ => False := by
  have hworking := hbegun.working
  have hawake : r.part.poweredDown = false :=
    hworking.poweredDown_eq.trans hquiet.listening.awake
  have hsettling : Settling config (rig.clock.now + us) r :=
    ⟨hworking.config_eq.trans hquiet.config_eq, hworking.faults_eq.trans hquiet.faults_eq,
      fun _ => Part.listening_of_busyUntil hquiet.listening hquiet.faults_eq hworking.steady
        hworking.busyUntil_eq,
      hworking.writeEnabled_eq, hbegun.dma_eq, hawake, hbegun.finished, hbegun.attentive⟩
  have hspan : rig.clock.now + us - r.clock.now = us := by
    rw [hbegun.clock_eq, Nat.add_sub_cancel_left]
  have hready : Op.Ends (Sequence.waitReady policy) r _ _ :=
    ends_waitReady_of_settles hsettling (by rw [hbegun.clock_eq]; omega)
      (by rw [hspan, hbegun.clock_eq]; exact hclock)
  rw [hspan, hbegun.clock_eq] at hready
  exact hready

/-- A write enable, a command that sets the part to work, and a wait. -/
theorem ends_act_of_quiet {policy : PollPolicy} (hquiet : Quiet config rig)
    (hworks : ∀ part : Part, part.config = config → Part.Listening rig.clock part →
      part.writeEnabled = true → Part.SetsToWork rig.clock command us part.dma part)
    (htimeout : us ≤ policy.timeout) (hclock : rig.clock.now + policy.span us ≤ lastInstant) :
    Op.Ends (act command policy) rig
      (fun _ r => Quiet config r ∧ r.clock.now = rig.clock.now + policy.span us)
      fun _ _ => False := by
  refine (ends_writeEnable_of_quiet policy hquiet).bind fun _ mid hstaged => ?_
  refine (ends_begin policy hquiet hstaged ?_).bind
    fun _ r (hbegun : Begun us none rig r) => ends_settle hquiet hbegun htimeout hclock
  intro hlisten hlatch
  have hconfig : mid.part.config = config := hstaged.armed.steady.config_eq.trans hquiet.config_eq
  rw [hstaged.clock_eq] at hlisten ⊢
  rw [← hstaged.armed.dma_eq]
  exact hworks mid.part hconfig hlisten hlatch

end Quiet

end CardReader
