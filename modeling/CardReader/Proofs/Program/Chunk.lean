import CardReader.Flash.Controller.Program
import CardReader.Proofs.Transactions

/-!
# Programming one chunk

A chunk goes through a write enable, the staging of its data, the program command and a wait for
the part.  Whatever the bus loses on the way, and whatever an earlier operation has left in the
FIFOs, the cells are left as they were or they take exactly the bytes of the chunk.

What is proved here:

* `issue_program_staged` — a program command for staged data fires or misses at once;
* `ends_programChunk` and `ends_programChunkDma` — what the part has seen when the wait begins,
  and all that can go wrong before it.
-/

namespace CardReader

open Flash

namespace Part

variable {clock : Clock} {part before after : Part} {addr : Nat} {data : List UInt8}

/-! ## Shots -/

/-- The part has carried out a program command. -/
structure Fired (clock : Clock) (addr : Nat) (data : List UInt8) (before after : Part) :
    Prop where
  steady : Steady before after
  programmed : Cells.Programmed before.cells after.cells addr data
  writeEnabled_eq : after.writeEnabled = false
  busyUntil_eq : after.busyUntil = clock.now + before.config.pageProgramTime

/-- The part has let a program command pass by. -/
structure Missed (before after : Part) : Prop where
  steady : Steady before after
  cells_eq : after.cells = before.cells
  writeEnabled_eq : after.writeEnabled = before.writeEnabled
  busyUntil_eq : after.busyUntil = before.busyUntil

/-- A part that was listening has carried out the command, and any other part has missed it. -/
def Shot (clock : Clock) (addr : Nat) (data : List UInt8) (before after : Part) : Prop :=
  (Listening clock before → Fired clock addr data before after) ∧
    (¬Listening clock before → Missed before after)

/-- The cells are as they were, or they have taken the bytes of the chunk. -/
def Tried (addr : Nat) (data : List UInt8) (before after : Part) : Prop :=
  after.cells = before.cells ∨ Cells.Programmed before.cells after.cells addr data

theorem Shot.steady (h : Shot clock addr data before after) : Steady before after := by
  by_cases hlisten : Listening clock before
  · exact (h.1 hlisten).steady
  · exact (h.2 hlisten).steady

theorem Shot.tried (h : Shot clock addr data before after) : Tried addr data before after := by
  by_cases hlisten : Listening clock before
  · exact .inr (h.1 hlisten).programmed
  · exact .inl (h.2 hlisten).cells_eq

theorem Shot.of_armed {dma : Option DmaClaim} {fifo : List UInt8} {armed : Part}
    (harmed : Armed clock dma fifo before armed) (h : Shot clock addr data armed after) :
    Shot clock addr data before after := by
  refine ⟨fun hlisten => ?_, fun hlisten => ?_⟩
  · obtain ⟨hsteady, hprogrammed, hlatch, hbusy⟩ := h.1 (harmed.listening.2 hlisten)
    rw [harmed.cells_eq] at hprogrammed
    rw [harmed.steady.config_eq] at hbusy
    exact ⟨harmed.steady.trans hsteady, hprogrammed, hlatch, hbusy⟩
  · obtain ⟨hsteady, hcells, hlatch, hbusy⟩ := h.2 (mt harmed.listening.1 hlisten)
    exact ⟨harmed.steady.trans hsteady, hcells.trans harmed.cells_eq,
      hlatch.trans (harmed.passed hlisten), hbusy.trans harmed.busyUntil_eq⟩

/-! ## Releasing the channel -/

theorem dmaRelease_of_claim {claim : DmaClaim} (hdma : part.dma = some claim) :
    dmaRelease claim.channel part = { part with dma := none } := by
  simp only [dmaRelease, hdma, if_true]

theorem dmaIdle_of_claim {claim : DmaClaim} (hdma : part.dma = some claim) :
    dmaIdle claim.channel part = (claim.block.isEmpty && !part.faults.dmaStall) := by
  simp only [dmaIdle, hdma, if_true]

theorem Steady.release (h : Steady before after) (dma : Option DmaClaim) :
    Steady before { after with dma } :=
  ⟨h.config_eq, h.faults_eq, h.poweredDown_eq, h.deafUntil_eq⟩

theorem Shot.release (h : Shot clock addr data before after) (dma : Option DmaClaim) :
    Shot clock addr data before { after with dma } := by
  refine ⟨fun hlisten => ?_, fun hlisten => ?_⟩
  · obtain ⟨hsteady, hprogrammed, hlatch, hbusy⟩ := h.1 hlisten
    exact ⟨hsteady.release dma, hprogrammed, hlatch, hbusy⟩
  · obtain ⟨hsteady, hcells, hlatch, hbusy⟩ := h.2 hlisten
    exact ⟨hsteady.release dma, hcells, hlatch, hbusy⟩

/-! ## The program command -/

/-- All of the data is in the write FIFO. -/
theorem pull_all_of_fifo {dma : Option DmaClaim} (hfifo : part.writeFifo = data)
    (hdma : part.dma = dma) :
    pull data.length [] part = (data, { part with writeFifo := [], dma }) := by
  subst hfifo hdma
  have h := pull_of_fifo part.writeFifo.length [] (Nat.sub_le _ _)
  rw [h]
  simp

/-- All of the data is in the DMA block. -/
theorem pull_all_of_dma {claim : DmaClaim} (hfifo : part.writeFifo = [])
    (hdma : part.dma = some { claim with block := data }) :
    pull data.length [] part =
      (data, { part with writeFifo := [], dma := some { claim with block := [] } }) := by
  have h := pull_of_dma data.length [] hfifo hdma
  simp only [List.length_nil, Nat.sub_zero, List.take_length, List.nil_append,
    List.drop_length] at h
  rw [h, ← hfifo]

theorem startProgram_of_pull {fed : Part} {command : Command}
    (hformat : command.format = .addressProgramData) (haddress : command.address = addr)
    (hlength : command.dataLength = data.length) (hpull : pull data.length [] part = (data, fed)) :
    startProgram clock command part = (.done 0, program clock addr data fed) := by
  rw [startProgram, if_pos hformat, hlength, hpull]
  simp only [Nat.lt_irrefl, if_false, haddress]

/-- A program command for data that has been staged fires or misses at once. -/
theorem issue_program_staged {config : ControllerConfig} {dma : Option DmaClaim}
    (hmode : config.programMode.check part.features = .ok ()) (haddr : addr < addressSpace)
    (hpage : addr % pageSize + data.length ≤ pageSize)
    (hfit : addr + data.length ≤ part.cells.size)
    (hlatch : Listening clock part → part.writeEnabled = true)
    (hpull : ∀ command, pull data.length [] (part.heard command) =
      (data, { part.heard command with writeFifo := [], dma })) :
    ∃ value result,
      issue clock (Controller.programCommand config addr data.length) part = (.ok (), result) ∧
        result.transaction = some (.done value) ∧ Shot clock addr data part result ∧
        result.dma = if Listening clock part then dma else part.dma := by
  by_cases hlisten : Listening clock part
  · let command := Controller.programCommand config addr data.length
    have hissue := issue_program hmode hlisten addr data.length (show command = _ from rfl)
    let staged : Part := { part.heard command with writeFifo := [], dma }
    obtain ⟨cells, hcells, hprogram⟩ :=
      program_of_enabled (show staged.writeEnabled = true from hlatch hlisten) hpage hfit
    rw [startProgram_of_pull rfl (Nat.mod_eq_of_lt haddr) rfl (hpull command), hprogram] at hissue
    refine ⟨0, _, hissue, rfl, ⟨fun _ => ?_, fun h => absurd hlisten h⟩, ?_⟩
    · exact ⟨⟨rfl, rfl, rfl, rfl⟩, hcells, rfl, rfl⟩
    · rw [if_pos hlisten]
  · obtain ⟨value, result, hissue, huntouched, hdone⟩ :=
      issue_of_not_listening hmode (effective_program config.programMode addr data.length) hlisten
    refine ⟨value, result, hissue, hdone, ⟨fun h => absurd h hlisten, fun _ => ?_⟩, ?_⟩
    · refine ⟨huntouched.steady, huntouched.cells_eq, ?_, ?_⟩
      all_goals
        obtain ⟨_, _, _, rfl⟩ := huntouched
        rfl
    · rw [if_neg hlisten, huntouched.dma_eq]

end Part

namespace Flash.Controller

variable {σ : Type} [Bus σ] [Carrier σ] {config : ControllerConfig} {addr : Nat}
  {data : List UInt8} {rig : Rig σ} {ok : Unit → Rig σ → Prop} {err : Failure → Rig σ → Prop}

/-! ## The way to the wait -/

/-- What the rig itself can do to keep a chunk from being sent. -/
inductive Hindrance (config : ControllerConfig) (useDma : Bool) (len : Nat) (clock : Clock)
    (part : Part) : Failure → Prop
  /-- The controller does not respond. -/
  | silent (opcode : UInt8) (h : part.faults.unresponsive = true) :
    Hindrance config useDma len clock part (.commandTimeout opcode)
  /-- The chunk does not fit the write FIFO. -/
  | shallow (h : useDma = false) (hdepth : part.config.writeDepth < len) :
    Hindrance config useDma len clock part .fifoOverflow
  /-- There is no such DMA channel. -/
  | missing (h : useDma = true) (hchannel : part.config.dmaChannels ≤ config.dmaChannel) :
    Hindrance config useDma len clock part .dmaNotSupported
  /-- A DMA channel is claimed already. -/
  | claimed (h : useDma = true) (hdma : part.dma.isSome = true) :
    Hindrance config useDma len clock part .dmaChannelBusy
  /-- The DMA block does not drain, or does not tell that it has. -/
  | stalled (h : useDma = true)
      (hstall : part.faults.dmaStall = true ∨ ¬Part.Listening clock part) :
    Hindrance config useDma len clock part .dmaTimeout

/-- The program command has been sent, and no time has passed. -/
structure Sent (addr : Nat) (data : List UInt8) (rig r : Rig σ) : Prop where
  abreast : rig.Abreast r
  response : rig.part.faults.unresponsive = false
  dma_eq : r.part.dma = rig.part.dma
  shot : Part.Shot rig.clock addr data rig.part r.part

/-- The data has been given up, because a call went astray or because of a hindrance. -/
structure Abandoned (hindrance : Failure → Prop) (addr : Nat) (data : List UInt8)
    (rig : Rig σ) (failure : Failure) (r : Rig σ) : Prop where
  follows : rig.Follows r
  dma_eq : r.part.dma = rig.part.dma
  steady : Part.Steady rig.part r.part
  tried : Part.Tried addr data rig.part r.part
  reason : Carrier.strays rig.bus failure ∨ hindrance failure

/-- The chunk has been given up. -/
abbrev Dropped (config : ControllerConfig) (useDma : Bool) (addr : Nat) (data : List UInt8)
    (rig : Rig σ) : Failure → Rig σ → Prop :=
  Abandoned (Hindrance config useDma data.length rig.clock rig.part) addr data rig

/-- Data that has gone no further than its write enable. -/
theorem abandoned_of_armed {hindrance : Failure → Prop} {dma : Option Part.DmaClaim}
    {fifo : List UInt8} {failure : Failure} {r : Rig σ}
    (harmed : Part.Armed rig.clock dma fifo rig.part r.part) (hdma : dma = rig.part.dma)
    (hfollows : rig.Follows r) (hreason : Carrier.strays rig.bus failure ∨ hindrance failure) :
    Abandoned hindrance addr data rig failure r :=
  ⟨hfollows, harmed.dma_eq.trans hdma, harmed.steady, .inl harmed.cells_eq, hreason⟩

/-- The write enable before a program arms the part, or the data is given up. -/
theorem ends_arm {hindrance : Failure → Prop} (policy : PollPolicy) {ok : Unit → Rig σ → Prop}
    (hsilent : rig.part.faults.unresponsive = true →
      hindrance (.commandTimeout Opcode.writeEnable))
    (harmed : ∀ r, Part.Armed rig.clock rig.part.dma rig.part.writeFifo rig.part r.part →
      rig.Abreast r → rig.part.faults.unresponsive = false → ok () r)
    (hdropped : ∀ failure r, Abandoned hindrance addr data rig failure r → err failure r) :
    Op.Ends (Sequence.writeEnable .single policy) rig ok err := by
  refine (ends_writeEnable rig policy).mono (fun _ r h => harmed r h.1 h.2.1 h.2.2) ?_
  rintro failure r ⟨hpart, hfollows, hreason⟩
  have hreason : Carrier.strays rig.bus failure ∨ hindrance failure := by
    rcases hreason with hstray | ⟨rfl, hresponse⟩
    · exact .inl hstray
    · exact .inr (hsilent hresponse)
  rcases hpart with hpart | harmed
  · refine hdropped failure r ⟨hfollows, ?_, ?_, .inl ?_, hreason⟩
    all_goals rw [hpart]
    exact .refl _
  · exact hdropped failure r (abandoned_of_armed harmed rfl hfollows hreason)

/-- The program command on an armed part with staged data. -/
theorem ends_shoot (useDma : Bool) {before : Part} {dma : Option Part.DmaClaim}
    (dma' : Option Part.DmaClaim) {fifo : List UInt8} (policy : PollPolicy)
    (harmed : Part.Armed rig.clock dma fifo before rig.part)
    (hmode : config.programMode.check before.features = .ok ()) (haddr : addr < addressSpace)
    (hpage : addr % pageSize + data.length ≤ pageSize)
    (hfit : addr + data.length ≤ before.cells.size)
    (hpull : ∀ command, Part.pull data.length [] (rig.part.heard command) =
      (data, { rig.part.heard command with writeFifo := [], dma := dma' })) :
    Op.Ends (Sequence.transact (programCommand config addr data.length) policy) rig
      (fun _ r => rig.Abreast r ∧ Part.Shot rig.clock addr data before r.part ∧
        r.part.dma = if Part.Listening rig.clock before then dma' else dma)
      (fun failure r => rig.Follows r ∧ Part.Steady before r.part ∧
        Part.Tried addr data before r.part ∧ (r.part.dma = dma ∨ r.part.dma = dma') ∧
        (Carrier.strays rig.bus failure ∨
          Hindrance config useDma data.length rig.clock before failure)) := by
  have hfeatures : rig.part.features = before.features := harmed.steady.features_eq
  obtain ⟨value, issued, hissue, hdone, hshot, hdma⟩ :=
    Part.issue_program_staged (hfeatures ▸ hmode) haddr hpage
      (harmed.cells_eq ▸ hfit) (fun h => harmed.latched (harmed.listening.1 h)) hpull
  replace hshot := hshot.of_armed harmed
  rw [harmed.dma_eq] at hdma
  refine (ends_transact policy hissue hdone).mono ?_ ?_
  · rintro done r ⟨-, hpart, habreast, -⟩
    rw [hpart]
    exact ⟨habreast, hshot, by rw [hdma]; exact if_congr harmed.listening rfl rfl⟩
  · rintro failure r ⟨hpart, hfollows, hreason⟩
    have hfaults : issued.faults = before.faults := hshot.steady.faults_eq
    have hreason : Carrier.strays rig.bus failure ∨
        Hindrance config useDma data.length rig.clock before failure := by
      rcases hreason with hstray | ⟨rfl, hsilent⟩
      · exact .inl hstray
      · exact .inr (.silent _ (hfaults ▸ hsilent))
    rcases hpart with hpart | hpart
    · rw [hpart]
      exact ⟨hfollows, harmed.steady, .inl harmed.cells_eq, .inl harmed.dma_eq, hreason⟩
    · rw [hpart, hdma]
      refine ⟨hfollows, hshot.steady, hshot.tried, ?_, hreason⟩
      split
      · exact .inr rfl
      · exact .inl rfl

/-! ## Both ways of staging -/

/-- A chunk staged through the register reaches the wait for the part, or is given up. -/
theorem ends_programChunk (hmode : config.programMode.check rig.part.features = .ok ())
    (haddr : addr < addressSpace) (hpage : addr % pageSize + data.length ≤ pageSize)
    (hfit : addr + data.length ≤ rig.part.cells.size)
    (hsent : ∀ r, Sent addr data rig r → Op.Ends (Sequence.waitReady config.poll) r ok err)
    (hdropped : ∀ failure r, Dropped config false addr data rig failure r → err failure r) :
    Op.Ends (programChunk config addr data) rig ok err := by
  rw [programChunk, Op.ends_bind]
  refine ends_arm config.poll (.silent _) (fun r₁ harmed₁ habreast₁ hresponse => ?_) hdropped
  rw [Op.ends_bind]
  refine (ends_flush harmed₁).mono (fun _ r₂ h₂ => ?_) nofun
  have habreast₂ := habreast₁.trans h₂.2
  rw [Op.ends_bind]
  refine (ends_queue h₂.1 data).mono (fun _ r₃ h₃ => ?_) fun failure r₃ h₃ => ?_
  · have habreast₃ := habreast₂.trans h₃.2
    rw [Op.ends_bind]
    have harmed₃ := h₃.1
    rw [← habreast₃.clock_eq] at harmed₃
    refine (ends_shoot false rig.part.dma config.poll harmed₃ hmode haddr hpage hfit
      fun command => ?_).mono ?_ ?_
    · exact Part.pull_all_of_fifo harmed₃.fifo_eq harmed₃.dma_eq
    · rintro _ r₄ ⟨habreast₄, hshot, hdma⟩
      rw [ite_self] at hdma
      rw [habreast₃.clock_eq] at hshot
      exact hsent r₄ ⟨habreast₃.trans habreast₄, hresponse, hdma, hshot⟩
    · rintro failure r₄ ⟨hfollows, hsteady, htried, hdma, hreason⟩
      rw [habreast₃.strays_eq, habreast₃.clock_eq] at hreason
      exact hdropped failure r₄ ⟨habreast₃.follows.trans hfollows, (or_self_iff.1 hdma), hsteady,
        htried, hreason⟩
  · obtain ⟨harmed₃, habreast₃, hreason⟩ := h₃
    refine hdropped failure r₃
      (abandoned_of_armed harmed₃ rfl (habreast₂.trans habreast₃).follows ?_)
    rw [habreast₂.strays_eq] at hreason
    rcases hreason with hstray | ⟨rfl, hdepth⟩
    · exact .inl hstray
    · exact .inr (.shallow rfl hdepth)

/-- A chunk that is given up gives its channel back. -/
theorem dropped_of_release {channel : Nat} {block : List UInt8} {failure : Failure}
    {r last : Rig σ} (hfree : rig.part.dma = none) (hdma : r.part.dma = some { channel, block })
    (hlast : last.part = r.part.dmaRelease channel) (hfollows : rig.Follows last)
    (hsteady : Part.Steady rig.part r.part) (htried : Part.Tried addr data rig.part r.part)
    (hreason : Carrier.strays rig.bus failure ∨
      Hindrance config true data.length rig.clock rig.part failure) :
    Dropped config true addr data rig failure last := by
  rw [Part.dmaRelease_of_claim hdma] at hlast
  refine ⟨hfollows, ?_, ?_, ?_, hreason⟩
  all_goals rw [hlast]
  · exact hfree.symm
  · exact hsteady.release none
  · exact htried

/-- Once the channel is idle, the block has gone into a program command that fired. -/
theorem ends_drain {r : Rig σ} (policy : PollPolicy) (habreast : rig.Abreast r)
    (hfree : rig.part.dma = none) (hresponse : rig.part.faults.unresponsive = false)
    (hdata : data ≠ [])
    (hshot : Part.Shot rig.clock addr data rig.part r.part)
    (hdma : r.part.dma = if Part.Listening rig.clock rig.part
      then some { channel := config.dmaChannel }
      else some { channel := config.dmaChannel, block := data })
    (hsent : ∀ last, Sent addr data rig last → Part.Listening rig.clock rig.part →
      ok () last)
    (hdropped : ∀ failure last, Dropped config true addr data rig failure last →
      err failure last) :
    Op.Ends (Sequence.waitIdle config.dmaChannel policy) r
      (fun a r' => ∀ last, last.part = r'.part.dmaRelease config.dmaChannel → r'.Abreast last →
        ok a last)
      (fun failure r' => ∀ last, last.part = r'.part.dmaRelease config.dmaChannel →
        r'.Abreast last → err failure last) := by
  have hfaults : r.part.faults = rig.part.faults := hshot.steady.faults_eq
  refine (ends_waitIdle r config.dmaChannel policy).mono ?_ ?_
  · rintro ⟨⟩ r' ⟨rfl, hidle⟩ last hlast hlater
    by_cases hlisten : Part.Listening rig.clock rig.part
    · rw [if_pos hlisten] at hdma
      rw [Part.dmaRelease_of_claim hdma] at hlast
      refine hsent last ⟨habreast.trans hlater, hresponse, ?_, ?_⟩ hlisten
      all_goals rw [hlast]
      · exact hfree.symm
      · exact hshot.release none
    · rw [if_neg hlisten] at hdma
      rw [Part.dmaIdle_of_claim hdma, Bool.and_eq_true, List.isEmpty_iff] at hidle
      exact absurd hidle.1 hdata
  · rintro failure r' ⟨hpart, hfollows, rfl, hidle⟩ last hlast hlater
    rw [hpart] at hlast
    have hlater := habreast.follows.trans (hfollows.trans hlater.follows)
    by_cases hlisten : Part.Listening rig.clock rig.part
    · rw [if_pos hlisten] at hdma
      rw [Part.dmaIdle_of_claim hdma, hfaults] at hidle
      refine hdropped _ last
        (dropped_of_release hfree hdma hlast hlater hshot.steady hshot.tried ?_)
      refine .inr (.stalled rfl (.inl ?_))
      simpa using hidle
    · rw [if_neg hlisten] at hdma
      exact hdropped _ last (dropped_of_release hfree hdma hlast hlater hshot.steady hshot.tried
        (.inr (.stalled rfl (.inr hlisten))))

/-- A chunk fed by DMA reaches the wait for the part with its channel given back, or is given
up. -/
theorem ends_programChunkDma (hmode : config.programMode.check rig.part.features = .ok ())
    (haddr : addr < addressSpace) (hpage : addr % pageSize + data.length ≤ pageSize)
    (hfit : addr + data.length ≤ rig.part.cells.size) (hdata : data ≠ [])
    (hsent : ∀ r, Sent addr data rig r → Part.Listening rig.clock rig.part →
      Op.Ends (Sequence.waitReady config.poll) r ok err)
    (hdropped : ∀ failure r, Dropped config true addr data rig failure r → err failure r) :
    Op.Ends (programChunkDma config addr data) rig ok err := by
  rw [programChunkDma, Op.ends_bind]
  refine ends_arm config.poll (.silent _) (fun r₁ harmed₁ habreast₁ hresponse => ?_) hdropped
  rw [Op.ends_bind]
  refine ends_withChannel (fun r₂ _ hfree hpart₂ habreast₂ => ?_)
    fun failure r hpart habreast hreason => ?_
  · rw [harmed₁.dma_eq] at hfree
    have harmed₂ : Part.Armed rig.clock (some { channel := config.dmaChannel }) rig.part.writeFifo
        rig.part r₂.part := by
      rw [hpart₂]
      exact harmed₁.restage ⟨_, _, _, rfl⟩ rfl harmed₁.fifo_eq
    replace habreast₂ := habreast₁.trans habreast₂
    rw [Op.ends_bind]
    refine (ends_flush harmed₂).mono (fun _ r₃ h₃ => ?_) nofun
    have habreast₃ := habreast₂.trans h₃.2
    rw [Op.ends_bind]
    refine (ends_dmaStart h₃.1 data).mono (fun _ r₄ h₄ => ?_) fun failure r₄ h₄ => ?_
    · have habreast₄ := habreast₃.trans h₄.2
      have harmed₄ := h₄.1
      rw [← habreast₄.clock_eq] at harmed₄
      rw [Op.ends_bind]
      refine (ends_shoot true (some { channel := config.dmaChannel }) config.poll harmed₄
        hmode haddr hpage hfit fun command => ?_).mono ?_ ?_
      · exact Part.pull_all_of_dma
          (show (r₄.part.heard command).writeFifo = [] from harmed₄.fifo_eq) harmed₄.dma_eq
      · rintro _ r₅ ⟨habreast₅, hshot, hdma⟩
        rw [habreast₄.clock_eq] at hshot hdma
        exact ends_drain config.poll (habreast₄.trans habreast₅) hfree hresponse hdata hshot hdma
          hsent hdropped
      · rintro failure r₅ ⟨hfollows, hsteady, htried, hdma, hreason⟩ last hlast hlater
        rw [habreast₄.strays_eq, habreast₄.clock_eq] at hreason
        have hlater := habreast₄.follows.trans (hfollows.trans hlater.follows)
        refine hdropped failure last ?_
        rcases hdma with hdma | hdma
        · exact dropped_of_release hfree hdma hlast hlater hsteady htried hreason
        · exact dropped_of_release hfree hdma hlast hlater hsteady htried hreason
    · obtain ⟨harmed₄, habreast₄, hstray⟩ := h₄
      intro last hlast hlater
      rw [habreast₃.strays_eq] at hstray
      exact hdropped failure last (dropped_of_release hfree harmed₄.dma_eq hlast
        (habreast₃.trans (habreast₄.trans hlater)).follows harmed₄.steady (.inl harmed₄.cells_eq)
        (.inl hstray))
  · refine hdropped failure r (abandoned_of_armed (hpart ▸ harmed₁) rfl
      (habreast₁.trans habreast).follows ?_)
    rw [habreast₁.strays_eq, harmed₁.steady.config_eq, harmed₁.dma_eq] at hreason
    rcases hreason with hstray | ⟨rfl, hchannel⟩ | ⟨rfl, hclaimed⟩
    · exact .inl hstray
    · exact .inr (.missing rfl hchannel)
    · exact .inr (.claimed rfl hclaimed)

end Flash.Controller

end CardReader
