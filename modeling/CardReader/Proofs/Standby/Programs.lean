import CardReader.Proofs.Program.Chunk
import CardReader.Proofs.Program.Run
import CardReader.Proofs.Standby.Calls

/-!
# Programs of a part at standby

A program of a part at standby is a fold over the pieces of its plan: each takes its bytes from the
page that it lies in, wherever that page is once the address has gone round the array.  What a
program needs in order to answer does not depend on the data, as long as there is any.

What is proved here:

* `does_programChunk` and `does_programChunkDma` — one piece, staged in either way;
* `does_program` — a whole program.
-/

namespace CardReader

open Flash

namespace Part

variable {clock : Clock} {before armed : Part} {addr : Nat} {data : List UInt8}

/-! ## One piece -/

/-- The array after a program of the page that holds an address. -/
def Cells.programPage (addr : Nat) (data : List UInt8) (cells : Cells) : Cells :=
  clearPage cells (addr - addr % pageSize) (addr % pageSize) data

@[simp] theorem Cells.size_programPage (addr : Nat) (data : List UInt8) (cells : Cells) :
    (cells.programPage addr data).size = cells.size :=
  size_clearPage _ _ _ _

/-- An armed part with staged data begins to program. -/
theorem issue_program_underway {settings : ControllerConfig} {dma dma' : Option DmaClaim}
    {fifo : List UInt8} (harmed : Armed clock dma fifo before armed)
    (hlisten : Listening clock before)
    (hmode : settings.programMode.check before.features = .ok ()) (haddr : addr < addressSpace)
    (hpull : ∀ command, pull data.length [] (armed.heard command) =
      (data, { armed.heard command with writeFifo := [], dma := dma' })) :
    ∃ value issued,
      issue clock (Controller.programCommand settings addr data.length) armed = (.ok (), issued) ∧
        issued.transaction = some (.done value) ∧ issued.dma = dma' ∧
        Underway clock before.config.pageProgramTime (before.cells.programPage addr data)
          before.stored before issued := by
  let command := Controller.programCommand settings addr data.length
  let staged : Part := { armed.heard command with writeFifo := [], dma := dma' }
  have hfeatures : armed.features = before.features := harmed.steady.features_eq
  have hissue := issue_program (hfeatures ▸ hmode) (harmed.listening.2 hlisten) addr data.length
    (show command = _ from rfl)
  have hlatch : staged.writeEnabled = true := harmed.latched hlisten
  rw [startProgram_of_pull rfl (Nat.mod_eq_of_lt haddr) rfl (hpull command), program,
    if_pos hlatch] at hissue
  refine ⟨0, _, hissue, rfl, rfl, ⟨?_, ?_, ?_, ?_, rfl, ?_⟩, ?_, harmed.stored_eq⟩
  · exact harmed.steady.config_eq
  · exact harmed.steady.faults_eq
  · exact harmed.steady.poweredDown_eq
  · exact harmed.steady.deafUntil_eq
  · exact congrArg (clock.now + ·) (congrArg Config.pageProgramTime harmed.steady.config_eq)
  · exact congrArg (Cells.programPage addr data) harmed.cells_eq

end Part

namespace Flash.Controller

variable {settings : ControllerConfig} {config : Part.Config} {cells : Part.Cells}
  {held : StatusRegister → UInt8} {rig : Rig Part} {addr : Nat} {data : List UInt8}

/-- The write enable arms a part at standby. -/
theorem ends_writeEnable_of_standby (policy : PollPolicy)
    (hstandby : Standby config cells held rig) :
    Op.Ends (Sequence.writeEnable .single policy) rig
      (fun _ r => Part.Armed rig.clock none rig.bus.writeFifo rig.bus r.bus ∧ r.clock = rig.clock)
      fun _ _ => False := by
  refine (ends_writeEnable rig policy).mono ?_ ?_
  · rintro _ r ⟨harmed, habreast, -⟩
    rw [show rig.part.dma = none from hstandby.dma_eq] at harmed
    exact ⟨harmed, habreast.clock_eq⟩
  · rintro failure r ⟨-, -, hstray | ⟨-, hsilent⟩⟩
    · exact hstray
    · rw [show rig.part.faults = {} from hstandby.faults_eq] at hsilent
      cases hsilent

/-- A command that begins work on a part without faults is over at once. -/
theorem ends_transact_of_underway {command : Command} {r : Rig Part} {issued : Part}
    {value : UInt32} {us : Nat} {cells' : Part.Cells} {held' : StatusRegister → UInt8}
    (policy : PollPolicy) (hstandby : Standby config cells held rig)
    (hissue : Part.issue r.clock command r.bus = (.ok (), issued))
    (hdone : issued.transaction = some (.done value))
    (hunderway : Part.Underway rig.clock us cells' held' rig.bus issued) :
    Op.Ends (Sequence.transact command policy) r
      (fun _ last => last.bus = issued ∧ last.clock = r.clock) fun _ _ => False := by
  have hresponse : issued.faults.unresponsive = false := by
    rw [hunderway.working.faults_eq, hstandby.faults_eq]
  refine (ends_transact_at_once policy hissue hdone hresponse).imp ?_
  rintro done last ⟨-, hlast⟩
  exact hlast

/-- What is left of a piece that needs `p` once the part is working on it. -/
theorem ends_settle_of_underway {p : Prop} (hp : p) {r : Rig Part} (policy : PollPolicy)
    (hstandby : Standby config cells held rig) (hclock : r.clock = rig.clock)
    (hunderway : Part.Underway rig.clock rig.bus.config.pageProgramTime
      (rig.bus.cells.programPage addr data) rig.bus.stored rig.bus r.bus)
    (hdma : r.bus.dma = none) :
    Op.Ends (Sequence.waitReady policy) r
      (fun a last => (p ∧ policy.Reaches config.pageProgramTime) ∧ a = () ∧
        Standby config (cells.programPage addr data) held last ∧
        last.clock.now = min (rig.clock.now + policy.span config.pageProgramTime) lastInstant)
      (fun _ last => ¬(p ∧ policy.Reaches config.pageProgramTime) ∨
        last.clock.now = lastInstant ∧
          lastInstant < rig.clock.now + policy.span config.pageProgramTime) := by
  rw [hstandby.config_eq, hstandby.cells_eq, hstandby.stored_eq] at hunderway
  have hsettle := does_settle policy hstandby hclock hunderway hdma
    (Part.Cells.size_programPage addr data cells)
  rw [Op.Does, hclock] at hsettle
  refine hsettle.mono ?_ ?_
  · rintro _ last ⟨hreaches, hrest⟩
    exact ⟨⟨hp, hreaches⟩, hrest⟩
  · rintro failure last hlate
    exact hlate.imp_left fun hshort hable => hshort hable.2

/-- A piece that is staged through the register needs room in the write FIFO, and a part that
programs a page in the time that it is waited for. -/
theorem does_programChunk (hstandby : Standby config cells held rig)
    (hmode : settings.programMode.check (Part.new config).features = .ok ())
    (haddr : addr < addressSpace) :
    (programChunk settings addr data).Does config rig
      { able := data.length ≤ config.writeDepth ∧ settings.poll.Reaches config.pageProgramTime
        answer := ()
        cells := cells.programPage addr data
        held
        us := settings.poll.span config.pageProgramTime } := by
  have hconfig := hstandby.config_eq
  rw [← hstandby.features_eq] at hmode
  rw [programChunk, Op.Does, Op.ends_bind]
  refine (ends_writeEnable_of_standby settings.poll hstandby).mono ?_ fun _ _ => False.elim
  rintro _ r₁ ⟨harmed₁, hclock₁⟩
  rw [Op.ends_bind]
  refine (ends_flush harmed₁).mono ?_ fun _ _ => False.elim
  rintro _ r₂ ⟨harmed₂, habreast₂⟩
  have hclock₂ : r₂.clock = rig.clock := habreast₂.clock_eq.trans hclock₁
  have hqueue : Bus.writeFifo r₂.clock data r₂.bus = _ := harmed₂.queue r₂.clock data
  rw [Op.ends_bind, Op.ends_call, hqueue, hconfig]
  by_cases hdepth : config.writeDepth < data.length
  · rw [if_pos hdepth]
    refine ⟨fun _ hqueued => ?_, fun _ _ => .inl fun hable => absurd hdepth (Nat.not_lt.2 hable.1)⟩
    cases hqueued
  · rw [if_neg hdepth]
    refine ⟨fun _ _ => ?_, fun _ hoverflow => by cases hoverflow⟩
    have harmed₃ : Part.Armed rig.clock none data rig.bus { r₂.bus with writeFifo := data } :=
      harmed₂.restage ⟨_, _, _, rfl⟩ harmed₂.dma_eq rfl
    obtain ⟨value, issued, hissue, hdone, hdma, hunderway⟩ :=
      Part.issue_program_underway harmed₃ hstandby.listening hmode haddr fun command =>
        Part.pull_all_of_fifo (by exact harmed₃.fifo_eq) (by exact harmed₃.dma_eq)
    rw [← hclock₂] at hissue
    rw [Op.ends_bind]
    refine (ends_transact_of_underway settings.poll hstandby hissue hdone hunderway).mono ?_
      fun _ _ => False.elim
    rintro _ r₄ ⟨rfl, hclock₄⟩
    exact ends_settle_of_underway (Nat.le_of_not_lt hdepth) settings.poll hstandby
      (hclock₄.trans hclock₂) hunderway hdma

/-- A piece that is fed by DMA needs the channel of the controller. -/
theorem does_programChunkDma (hstandby : Standby config cells held rig)
    (hmode : settings.programMode.check (Part.new config).features = .ok ())
    (haddr : addr < addressSpace) :
    (programChunkDma settings addr data).Does config rig
      { able := settings.dmaChannel < config.dmaChannels ∧
          settings.poll.Reaches config.pageProgramTime
        answer := ()
        cells := cells.programPage addr data
        held
        us := settings.poll.span config.pageProgramTime } := by
  have hconfig := hstandby.config_eq
  rw [← hstandby.features_eq] at hmode
  rw [programChunkDma, Op.Does, Op.ends_bind]
  refine (ends_writeEnable_of_standby settings.poll hstandby).mono ?_ fun _ _ => False.elim
  rintro _ r₁ ⟨harmed₁, hclock₁⟩
  rw [Op.ends_bind]
  refine ends_withChannel (fun r₂ hchannel _ hpart₂ habreast₂ => ?_)
    fun failure r _ _ hreason => ?_
  · let claim : Part.DmaClaim := { channel := settings.dmaChannel }
    rw [show r₁.part.config = config from harmed₁.steady.config_eq.trans hconfig] at hchannel
    have harmed₂ : Part.Armed rig.clock (some claim) rig.bus.writeFifo rig.bus r₂.part := by
      rw [hpart₂]
      exact harmed₁.restage ⟨_, _, _, rfl⟩ rfl harmed₁.fifo_eq
    have hclock₂ : r₂.clock = rig.clock := habreast₂.clock_eq.trans hclock₁
    rw [Op.ends_bind]
    refine (ends_flush harmed₂).mono ?_ fun _ _ => False.elim
    rintro _ r₃ ⟨harmed₃, habreast₃⟩
    have hclock₃ : r₃.clock = rig.clock := habreast₃.clock_eq.trans hclock₂
    rw [Op.ends_bind]
    refine (ends_dmaStart harmed₃ data).mono ?_ fun _ _ h => h.2.2.elim
    rintro _ r₄ ⟨harmed₄, habreast₄⟩
    have hclock₄ : r₄.clock = rig.clock := habreast₄.clock_eq.trans hclock₃
    obtain ⟨value, issued, hissue, hdone, hdma, hunderway⟩ :=
      Part.issue_program_underway harmed₄ hstandby.listening hmode haddr fun command =>
        Part.pull_all_of_dma (by exact harmed₄.fifo_eq) (by exact harmed₄.dma_eq)
    rw [← hclock₄] at hissue
    rw [Op.ends_bind]
    refine (ends_transact_of_underway settings.poll hstandby hissue hdone hunderway).mono ?_
      fun _ _ => False.elim
    rintro _ r₅ ⟨rfl, hclock₅⟩
    refine (ends_waitIdle r₅ settings.dmaChannel settings.poll).mono ?_ ?_
    · rintro _ r₆ ⟨rfl, -⟩ last hlast hlater
      have hbus : last.bus = { r₆.bus with dma := none } :=
        hlast.trans (Part.dmaRelease_of_claim hdma)
      obtain ⟨⟨hsame, hfaults, hpower, hdeaf, hlatch, hbusy⟩, hcells, hstored⟩ := hunderway
      refine ends_settle_of_underway hchannel settings.poll hstandby
        (hlater.clock_eq.trans (hclock₅.trans hclock₄)) ?_ (by rw [hbus])
      rw [hbus]
      exact ⟨⟨hsame, hfaults, hpower, hdeaf, hlatch, hbusy⟩, hcells, hstored⟩
    · rintro failure r₆ ⟨-, -, -, hidle⟩
      rw [show r₅.part.dmaIdle settings.dmaChannel = _ from Part.dmaIdle_of_claim hdma,
        show r₅.bus.faults = {} from hunderway.working.faults_eq.trans hstandby.faults_eq] at hidle
      cases hidle
  · refine .inl fun hable => ?_
    rw [show r₁.part.config = config from harmed₁.steady.config_eq.trans hconfig,
      show r₁.part.dma = none from harmed₁.dma_eq] at hreason
    rcases hreason with hstray | ⟨-, hchannel⟩ | ⟨-, hclaimed⟩
    · exact hstray
    · exact absurd hable.1 (Nat.not_lt.2 hchannel)
    · cases hclaimed

/-! ## Whole programs -/

/-- What it takes to send a piece. -/
def Sends (settings : ControllerConfig) (config : Part.Config) (useDma : Bool) (piece : Piece) :
    Prop :=
  (if useDma then settings.dmaChannel < config.dmaChannels
    else piece.data.length ≤ config.writeDepth) ∧
  settings.poll.Reaches config.pageProgramTime

/-- The array after pieces have been sent. -/
def programPieces (pieces : List Piece) (cells : Part.Cells) : Part.Cells :=
  pieces.foldl (fun cells piece => cells.programPage piece.addr piece.data) cells

theorem does_sendPiece (hstandby : Standby config cells held rig)
    (hmode : settings.programMode.check (Part.new config).features = .ok ()) (useDma : Bool)
    {piece : Piece} (haddr : piece.addr < addressSpace) :
    (sendPiece settings useDma piece).Does config rig
      { able := Sends settings config useDma piece
        answer := ()
        cells := cells.programPage piece.addr piece.data
        held
        us := settings.poll.span config.pageProgramTime } := by
  cases useDma with
  | true => exact does_programChunkDma hstandby hmode haddr
  | false => exact does_programChunk hstandby hmode haddr

/-- Some pieces of a program have been sent. -/
structure SentAt (settings : ControllerConfig) (config : Part.Config) (useDma : Bool)
    (cells : Part.Cells) (held : StatusRegister → UInt8) (rig : Rig Part) (sent : List Piece)
    (r : Rig Part) : Prop where
  able : ∀ piece ∈ sent, Sends settings config useDma piece
  standby : Standby config (programPieces sent cells) held r
  now_eq : r.clock.now =
    min (rig.clock.now + sent.length * settings.poll.span config.pageProgramTime) lastInstant

section Program

variable {base : Nat} {payload : List UInt8} {useDma : Bool} {cipher : CipherMode}
  {enciphered : Cipher.Enciphered}

theorem carries_sentAt (hmode : settings.programMode.check (Part.new config).features = .ok ())
    (htail : TailFits (base + enciphered.body.length) enciphered.tail)
    (hspace : base + enciphered.image.length ≤ addressSpace) :
    Carries settings useDma (plan base useDma enciphered)
      (SentAt settings config useDma cells held rig) fun _ r =>
        ¬(∀ piece ∈ plan base useDma enciphered, Sends settings config useDma piece) ∨
          r.clock.now = lastInstant ∧ lastInstant < rig.clock.now +
            (plan base useDma enciphered).length * settings.poll.span config.pageProgramTime := by
  refine ⟨fun sent r event h => ⟨h.able, h.standby.report event, h.now_eq⟩,
    fun sent piece rest r hplan h => ?_⟩
  obtain ⟨-, -, hend, -, hproper, -⟩ := split_plan htail hplan
  have hpos := List.length_pos_iff.2 hproper.nonempty
  have hcount : sent.length + 1 ≤ (plan base useDma enciphered).length := by
    rw [hplan, List.length_append, List.length_cons]
    omega
  have htime := Nat.mul_le_mul_right (settings.poll.span config.pageProgramTime) hcount
  rw [Nat.succ_mul] at htime
  have hnow := h.now_eq
  refine (does_sendPiece h.standby hmode useDma (by omega)).mono ?_ ?_
  · rintro _ r' ⟨hsends, -, hstandby, hnow'⟩
    refine ⟨fun other hother => ?_, ?_, ?_⟩
    · rcases List.mem_append.1 hother with hbefore | hlast
      · exact h.able other hbefore
      · rw [List.mem_singleton.1 hlast]
        exact hsends
    · rw [programPieces, List.foldl_append]
      exact hstandby
    · rw [hnow', List.length_append, List.length_singleton, Nat.succ_mul]
      simp only
      omega
  · rintro failure r' (hunable | ⟨hlast, hlate⟩)
    · refine .inl fun hall => hunable (hall piece ?_)
      rw [hplan]
      exact List.mem_append_right _ List.mem_cons_self
    · refine .inr ⟨hlast, ?_⟩
      simp only at hlate
      omega

/-- A program answers exactly if it passes its checks and each of its pieces can be sent. -/
theorem does_program (hstandby : Standby config cells held rig) :
    (program settings base payload useDma cipher).Does config rig
      { able := Passes settings base payload useDma cipher (Part.new config).features ∧
          ∀ piece ∈ plan base useDma (Cipher.encipher payload cipher),
            Sends settings config useDma piece
        answer := statsOf base useDma (Cipher.encipher payload cipher)
        cells := programPieces (plan base useDma (Cipher.encipher payload cipher)) cells
        held
        us := (plan base useDma (Cipher.encipher payload cipher)).length *
          settings.poll.span config.pageProgramTime } := by
  have hfeatures : Bus.features rig.bus = (Part.new config).features := hstandby.features_eq
  by_cases hpasses : Passes settings base payload useDma cipher (Part.new config).features
  · have hspace := (checkProgram_eq_ok_iff.1 hpasses.check_eq).2.1
    rw [← Cipher.length_image] at hspace
    have hnone : SentAt settings config useDma cells held rig [] rig :=
      ⟨by simp, hstandby, by simp [rig.clock.now_le]⟩
    refine (ends_program_of_passes (hfeatures ▸ hpasses) hnone
      (carries_sentAt hpasses.mode hpasses.tailFits hspace)).mono ?_ ?_
    · rintro stats r ⟨rfl, hable, hrest, hnow⟩
      exact ⟨⟨hpasses, hable⟩, rfl, hrest, hnow⟩
    · rintro failure r hlate
      exact hlate.imp_left fun hunable hboth => hunable hboth.2
  · refine (ends_program_of_not_passes (hfeatures ▸ hpasses)).mono (fun _ _ => False.elim) ?_
    rintro failure r -
    exact .inl fun hboth => hpasses hboth.1

end Program

end Flash.Controller

end CardReader
