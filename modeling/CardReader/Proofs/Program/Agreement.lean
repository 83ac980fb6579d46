import CardReader.Proofs.Program.Completion
import CardReader.Proofs.Program.Traffic

/-!
# Three ways to program a page

A payload that stays inside a page can be streamed under one command, staged through the register
in small chunks, or fed by DMA.  With nothing in its way each of the three answers, and what they
leave cannot be told apart, although the chunks take a transaction each and the other two ways take
one for the whole page.

What is proved here:

* `plan_of_page` — the plan of a payload inside a page;
* `finished_programOnePage` and `finished_program` — what a page leaves that was streamed, staged
  or fed;
* `program_paths_agree` — the three ways from one rig.
-/

namespace CardReader.Flash.Controller

variable {config : ControllerConfig} {addr : Nat} {payload : List UInt8} {rig : Rig Part}

/-! ## Rigs that look alike -/

/-- Two rigs show the same array, latch, status registers and readiness. -/
structure Alike (a b : Rig Part) : Prop where
  cells_eq : b.bus.cells = a.bus.cells
  writeEnabled_eq : b.bus.writeEnabled = a.bus.writeEnabled
  readStatus_eq : ∀ register,
    b.bus.readStatus b.clock register = a.bus.readStatus a.clock register
  listening_iff : Part.Listening b.clock b.bus ↔ Part.Listening a.clock a.bus

/-- The payload has been programmed under `count` program commands: the latch is clear, the status
registers were left alone, and the part is listening again. -/
structure Finished (config : ControllerConfig) (addr : Nat) (payload : List UInt8) (count : Nat)
    (rig r : Rig Part) : Prop where
  programmed : Part.Cells.Programmed rig.bus.cells r.bus.cells addr payload
  writeEnabled_eq : r.bus.writeEnabled = false
  listening : Part.Listening r.clock r.bus
  traffic : Part.Traffic config.programMode.programOpcode count rig.bus r.bus

/-- However many commands it took, the payload leaves the same. -/
theorem Finished.alike {first second : Nat} {a b : Rig Part}
    (ha : Finished config addr payload first rig a)
    (hb : Finished config addr payload second rig b) : Alike a b where
  cells_eq := hb.programmed.unique ha.programmed
  writeEnabled_eq := hb.writeEnabled_eq.trans ha.writeEnabled_eq.symm
  readStatus_eq := fun register => by
    rw [Part.readStatus_of_listening hb.listening hb.writeEnabled_eq,
      Part.readStatus_of_listening ha.listening ha.writeEnabled_eq, hb.traffic.stored_eq,
      ha.traffic.stored_eq]
  listening_iff := iff_of_true hb.listening ha.listening

/-! ## The plan of a page -/

/-- A payload inside a page is one window, cut into chunks. -/
theorem plan_of_page (useDma : Bool) (hpayload : payload ≠ [])
    (hpage : addr % pageSize + payload.length ≤ pageSize) :
    plan addr useDma (Cipher.encipher payload .none) =
      windowPieces (chunkSize useDma) ⟨addr, addr + payload.length⟩ payload := by
  have hpos := List.length_pos_iff.2 hpayload
  have hcut : (⟨addr, addr + payload.length⟩ : PageWindows).cut = addr + payload.length := by
    simp only [PageWindows.cut, pageSize] at hpage ⊢
    omega
  have hrest : (⟨addr + payload.length, addr + payload.length⟩ : PageWindows).toList = [] :=
    PageWindows.toList_of_le (Nat.le_refl _)
  have hbody := bodyPieces_of_lt
    (show (⟨addr, addr + payload.length⟩ : PageWindows).start < addr + payload.length by
      simp only; omega) (chunkSize useDma) payload
  rw [hcut, hrest, Nat.add_sub_cancel_left, List.take_length, bodyPieces, List.append_nil] at hbody
  rw [plan]
  exact (List.append_nil _).trans hbody

theorem length_plan_of_page (useDma : Bool) (hpayload : payload ≠ [])
    (hpage : addr % pageSize + payload.length ≤ pageSize) :
    (plan addr useDma (Cipher.encipher payload .none)).length =
      chunkCount (chunkSize useDma) payload.length := by
  rw [plan_of_page useDma hpayload hpage, windowPieces, length_place,
    length_chunks (chunkSize_pos useDma)]

/-- No piece of a page is longer than a chunk. -/
theorem length_le_of_mem_plan {useDma : Bool} {piece : Piece} (hpayload : payload ≠ [])
    (hpage : addr % pageSize + payload.length ≤ pageSize)
    (hmem : piece ∈ plan addr useDma (Cipher.encipher payload .none)) :
    piece.data.length ≤ chunkSize useDma := by
  rw [plan_of_page useDma hpayload hpage] at hmem
  exact length_le_of_mem_chunks (chunkSize_pos useDma) (mem_place hmem).2.1

/-- One DMA block takes a whole page. -/
theorem chunkCount_dmaChunk (hpayload : payload ≠ [])
    (hpage : addr % pageSize + payload.length ≤ pageSize) :
    chunkCount (chunkSize true) payload.length = 1 := by
  have hpos := List.length_pos_iff.2 hpayload
  have hsize : chunkSize true = 256 := rfl
  simp only [pageSize] at hpage
  rw [chunkCount, hsize]
  omega

/-! ## Each way by itself -/

/-- Nothing can keep a page from being sent, if the write FIFO holds anything at all. -/
theorem Able.not_blockage {useDma : Bool} {failure : Failure} (h : Able config useDma rig)
    (hdepth : rig.bus.config.writeDepth ≠ 0) : ¬Blockage rig.clock rig.bus failure := by
  intro hblockage
  cases hblockage with
  | silent opcode hsilent =>
    have hfaults : rig.bus.faults = {} := h.faults_eq
    rw [hfaults] at hsilent
    cases hsilent
  | undrained opcode hdrain =>
    rcases hdrain with hdeaf | hempty
    · exact hdeaf h.listening
    · exact hdepth hempty

/-- A page that is streamed is programmed in the time of one wait. -/
theorem ends_programOnePage_of_able {useDma : Bool} (hable : Able config useDma rig)
    (hdepth : rig.bus.config.writeDepth ≠ 0) (hpayload : payload ≠ [])
    (hpage : addr % pageSize + payload.length ≤ pageSize)
    (hspace : addr + payload.length ≤ addressSpace)
    (hfit : addr + payload.length ≤ rig.bus.cells.size)
    (hclock : rig.clock.now + rig.bus.config.pageProgramTime ≤ lastInstant) :
    Op.Ends (programOnePage config addr payload) rig
      (fun _ r => Fulfilled config useDma addr payload rig r) fun _ _ => False := by
  have hpos := List.length_pos_iff.2 hpayload
  have hcheck : checkRange addr payload.length = .ok () :=
    checkRange_eq_ok_iff.2 ⟨by omega, hspace⟩
  rw [programOnePage_eq, Op.ends_bind, hcheck, Op.ends_check_ok, if_neg (Nat.not_lt.2 hpage),
    if_neg (by rwa [List.isEmpty_iff]), Op.ends_mapFailure]
  refine ends_streamPage hable.mode hable.dma_eq (by omega) hpage hfit ?_ ?_
  · intro r hsent
    exact ends_settle_of_sent hable hsent hclock
  · intro failure r habandoned
    rcases habandoned.reason with hstray | hblockage
    · exact hable.strays failure hstray
    · exact hable.not_blockage hdepth hblockage

/-- A page that is streamed with nothing in its way. -/
theorem finished_programOnePage {useDma : Bool} (hable : Able config useDma rig)
    (hdepth : rig.bus.config.writeDepth ≠ 0) (hpayload : payload ≠ [])
    (hpage : addr % pageSize + payload.length ≤ pageSize)
    (hspace : addr + payload.length ≤ addressSpace)
    (hfit : addr + payload.length ≤ rig.bus.cells.size)
    (hclock : rig.clock.now + rig.bus.config.pageProgramTime ≤ lastInstant) :
    Op.Ends (programOnePage config addr payload) rig
      (fun _ r => Finished config addr payload 1 rig r) fun _ _ => False := by
  have htraffic := ends_programOnePage_traffic config hpayload addr rig
  have hfulfilled := ends_programOnePage_of_able hable hdepth hpayload hpage hspace hfit hclock
  refine (hfulfilled.and htraffic).mono ?_ fun _ _ h => h.1
  rintro _ r ⟨hdone, htraffic⟩
  exact ⟨hdone.programmed, hdone.writeEnabled_eq, hdone.able.listening, htraffic⟩

/-- A page that is staged in chunks or fed by DMA, with nothing in its way. -/
theorem finished_program {kind : Bool} (useDma : Bool) (hable : Able config kind rig)
    (hway : Passable config useDma (chunkSize useDma) rig.bus) (hpayload : payload ≠ [])
    (hpage : addr % pageSize + payload.length ≤ pageSize)
    (hspace : addr + payload.length ≤ addressSpace)
    (hfit : addr + payload.length ≤ rig.bus.cells.size)
    (hclock : rig.clock.now + (chunkCount (chunkSize useDma) payload.length - 1) *
      config.poll.span rig.bus.config.pageProgramTime + rig.bus.config.pageProgramTime ≤
        lastInstant) :
    Op.Ends (program config addr payload useDma .none) rig
      (fun _ r => Finished config addr payload (chunkCount (chunkSize useDma) payload.length) rig r)
      fun _ _ => False := by
  have hpos := List.length_pos_iff.2 hpayload
  have hlength := length_plan_of_page useDma hpayload hpage
  have hpasses : Passes config addr payload useDma .none (Bus.features rig.bus) := by
    refine ⟨checkProgram_eq_ok_iff.2 ⟨by omega, hspace, fun h => absurd rfl h⟩, fun hdma => ?_,
      hable.mode⟩
    exact decide_eq_true (Nat.lt_of_le_of_lt (Nat.zero_le _) (hway.channel hdma))
  -- no chunk begins later than the last one
  have htimes : ∀ count < (plan addr useDma (Cipher.encipher payload .none)).length,
      rig.clock.now + count * config.poll.span rig.bus.config.pageProgramTime +
        rig.bus.config.pageProgramTime ≤ lastInstant := by
    intro count hcount
    rw [hlength] at hcount
    have htime := Nat.mul_le_mul_right (config.poll.span rig.bus.config.pageProgramTime)
      (Nat.le_sub_one_of_lt hcount)
    omega
  have htraffic := ends_program_traffic config addr payload useDma .none rig
  have hpaced := ends_program_in_time hable hpasses hfit hway
    (fun _ _ hmem => length_le_of_mem_plan hpayload hpage hmem) htimes
  refine (hpaced.and htraffic).mono ?_ fun _ _ h => h.1
  rintro stats r ⟨⟨-, hdone⟩, htraffic⟩
  have hprogrammed := hdone.programmed
  have himage : bytes (plan addr useDma (Cipher.encipher payload .none)) = payload :=
    (bytes_plan _ _ _).trans (List.append_nil payload)
  rw [himage] at hprogrammed
  rw [hlength] at htraffic
  have hlatch := hdone.writeEnabled_eq
  rw [plan_isEmpty hpasses, List.isEmpty_eq_false_iff.2 hpayload, Bool.false_and] at hlatch
  exact ⟨hprogrammed, hlatch, hdone.able.listening, htraffic⟩

/-! ## The three ways -/

/-- On a part of valid settings that is listening, with no fault, no DMA claim and a write FIFO for
at least one chunk, a payload inside a page can be streamed, staged or fed.  Each way answers from
the same rig, they leave rigs that look alike, and they issue one program command, one for each
four bytes, and one.  The program of the last chunk has to end at an instant that the clock can
show: the end of a program is the sum of the present time and the time that it takes, and past the
last instant that sum overflows the 64 bits in which it is kept. -/
theorem program_paths_agree (config : ControllerConfig) (addr : Nat) (payload : List UInt8)
    (rig : Rig Part) (hvalid : rig.bus.config.validate = .ok ())
    (hsize : rig.bus.cells.size = rig.bus.config.size)
    (hdepth : 4 ≤ rig.bus.config.writeDepth)
    (hchannel : config.dmaChannel < rig.bus.config.dmaChannels) (hfree : rig.bus.dma = none)
    (hlisten : Part.Listening rig.clock rig.bus) (hfaults : rig.bus.faults = {})
    (hpayload : payload ≠ []) (hpage : addr % pageSize + payload.length ≤ pageSize)
    (hfit : addr + payload.length ≤ rig.bus.config.size)
    (hmode : config.programMode.check rig.bus.features = .ok ())
    (hquick : rig.bus.config.pageProgramTime ≤ config.poll.timeout)
    (hclock : rig.clock.now + ((payload.length + 3) / 4 - 1) *
      config.poll.span rig.bus.config.pageProgramTime + rig.bus.config.pageProgramTime ≤
        lastInstant) :
    ∃ streamed stagedStats staged fedStats fed,
      programOnePage config addr payload rig = (.ok (), streamed) ∧
      program config addr payload false .none rig = (.ok stagedStats, staged) ∧
      program config addr payload true .none rig = (.ok fedStats, fed) ∧
      Alike streamed staged ∧ Alike streamed fed ∧
      Finished config addr payload 1 rig streamed ∧
      Finished config addr payload ((payload.length + 3) / 4) rig staged ∧
      Finished config addr payload 1 rig fed := by
  have hable : Able config true rig :=
    ⟨hlisten, hfaults, hfree, fun _ => id, hmode, nofun, fun _ => hchannel, hquick⟩
  have hspace := Nat.le_trans hfit (Part.Config.validate_eq_ok_iff.1 hvalid).2.1
  rw [← hsize] at hfit
  obtain ⟨⟨⟩, streamed, hstream, hstreamed⟩ := (finished_programOnePage hable (by omega) hpayload
    hpage hspace hfit (by omega)).exists_ok
  obtain ⟨stagedStats, staged, hstage, hstaged⟩ := (finished_program false hable
    ⟨fun _ => hdepth, nofun⟩ hpayload hpage hspace hfit hclock).exists_ok
  have hone := chunkCount_dmaChunk hpayload hpage
  obtain ⟨fedStats, fed, hfeed, hfed⟩ := (finished_program true hable
    ⟨nofun, fun _ => hchannel⟩ hpayload hpage hspace hfit
    (by rw [hone]; omega)).exists_ok
  rw [hone] at hfed
  exact ⟨streamed, stagedStats, staged, fedStats, fed, hstream, hstage, hfeed,
    hstreamed.alike hstaged, hstreamed.alike hfed, hstreamed, hstaged, hfed⟩

/-- Six bytes that end with their page, on a part whose write FIFO holds four: the page is topped
up once when it is streamed, and takes two commands when it is staged. -/
theorem program_paths_agree_to_page_end :
    let config : Part.Config := { size := 512, writeDepth := 4 }
    let rig : Rig Part := { bus := { Part.new config with writeEnabled := true }, clock := .start }
    let payload : List UInt8 := [1, 2, 3, 4, 5, 6]
    config.validate = .ok () ∧ Part.Listening rig.clock rig.bus ∧
      ∃ streamed stagedStats staged fedStats fed,
        programOnePage {} 250 payload rig = (.ok (), streamed) ∧
        program {} 250 payload false .none rig = (.ok stagedStats, staged) ∧
        program {} 250 payload true .none rig = (.ok fedStats, fed) ∧
        Alike streamed staged ∧ Alike streamed fed ∧
        streamed.bus.count Opcode.pageProgram = 1 ∧ staged.bus.count Opcode.pageProgram = 2 ∧
        fed.bus.count Opcode.pageProgram = 1 := by
  intro config rig payload
  have hvalid : config.validate = .ok () := Part.Config.validate_eq_ok_iff.2 (by decide)
  have hlisten : Part.Listening rig.clock rig.bus := by decide
  obtain ⟨streamed, stagedStats, staged, fedStats, fed, hstream, hstage, hfeed, hstaged, hfed,
      hone, htwo, hblock⟩ :=
    program_paths_agree {} 250 payload rig hvalid (Part.Cells.size_erased 512) (by decide)
      (by decide) rfl hlisten rfl (by decide) (by decide) (by decide) rfl (by decide) (by decide)
  have hchunks : (payload.length + 3) / 4 = 2 := by decide
  rw [hchunks] at htwo
  exact ⟨hvalid, hlisten, streamed, stagedStats, staged, fedStats, fed, hstream, hstage, hfeed,
    hstaged, hfed, hone.traffic.count_eq, htwo.traffic.count_eq, hblock.traffic.count_eq⟩

end CardReader.Flash.Controller
