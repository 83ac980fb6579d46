import Mathlib.Order.Interval.Finset.Nat
import CardReader.Proofs.Program.Chunk
import CardReader.Proofs.Program.Run
import CardReader.Proofs.Waits

/-!
# A program completes

On a part that is listening, with no fault and no claim in its way, a program answers: it takes
exactly the time of its transactions, its statistics are exact, the image is programmed and nothing
else has changed.  The write enable latch is clear afterwards if anything has been programmed; an
empty payload sends no command, and leaves the latch as it is.

What is proved here:

* `card_pages` — a range has one window for each page that it touches;
* `ends_sendPiece_of_able` — one piece is programmed in the time of one wait;
* `ends_program_in_time` — a program carries out its plan, also on a clock that runs out with it;
* `program_complete` — the whole program, and `program_nil_leaves_latch` — the empty payload.
-/

namespace CardReader

open Flash

/-! ## Windows and pages -/

theorem Flash.PageWindows.card_pages (windows : PageWindows) :
    ((Finset.Ico windows.start windows.stop).image fun addr => addr / pageSize).card =
      windows.toList.length := by
  fun_induction PageWindows.toList windows with
  | case1 windows hnext =>
    rw [Finset.Ico_eq_empty_of_le (PageWindows.next?_eq_none.1 hnext)]
    rfl
  | case2 windows first rest hnext ih =>
    obtain ⟨hlt, rfl, rfl⟩ := PageWindows.next?_eq_some hnext
    have hcut := PageWindows.lt_cut hlt
    have hstop := windows.cut_le
    have hfirst : (Finset.Ico windows.start windows.cut).image (fun addr => addr / pageSize) =
        {windows.start / pageSize} := by
      ext page
      simp only [Finset.mem_image, Finset.mem_Ico, Finset.mem_singleton]
      constructor
      · rintro ⟨addr, ⟨hle, hlt'⟩, rfl⟩
        simp only [PageWindows.cut, pageSize] at hlt' ⊢
        omega
      · rintro rfl
        exact ⟨windows.start, ⟨Nat.le_refl _, hcut⟩, rfl⟩
    have hother : windows.start / pageSize ∉
        (Finset.Ico windows.cut windows.stop).image (fun addr => addr / pageSize) := by
      simp only [Finset.mem_image, Finset.mem_Ico, not_exists, not_and, and_imp]
      intro addr hle hlt' hpage
      simp only [PageWindows.cut, pageSize] at hle hpage
      omega
    rw [← Finset.Ico_union_Ico_eq_Ico (Nat.le_of_lt hcut) hstop, Finset.image_union, hfirst,
      ← Finset.insert_eq, Finset.card_insert_of_notMem hother, List.length_cons, ← ih]

namespace Flash.Controller

variable {σ : Type} [Bus σ] [Carrier σ]

/-! ## One piece -/

/-- Nothing stands in the way of a program: the part is listening, the bus loses nothing, and the
part programs a page in time. -/
structure Able (config : ControllerConfig) (useDma : Bool) (rig : Rig σ) : Prop where
  listening : Part.Listening rig.clock rig.part
  faults_eq : rig.part.faults = {}
  dma_eq : rig.part.dma = none
  strays : ∀ failure, ¬Carrier.strays rig.bus failure
  mode : config.programMode.check rig.part.features = .ok ()
  /-- Every chunk fits the write FIFO, if it has to go through it. -/
  depth : useDma = false → Cipher.blockSize ≤ rig.part.config.writeDepth
  /-- There is such a DMA channel, if one is used. -/
  channel : useDma = true → config.dmaChannel < rig.part.config.dmaChannels
  quick : rig.part.config.pageProgramTime ≤ config.poll.timeout

section Piece

variable {config : ControllerConfig} {useDma kind : Bool} {piece : Piece} {addr : Nat}
  {data : List UInt8} {rig : Rig σ}

/-- There is a way for pieces of at most `len` bytes: the write FIFO has room for them, or there is
such a DMA channel. -/
structure Passable (config : ControllerConfig) (useDma : Bool) (len : Nat) (part : Part) :
    Prop where
  depth : useDma = false → len ≤ part.config.writeDepth
  channel : useDma = true → config.dmaChannel < part.config.dmaChannels

theorem Able.passable (h : Able config useDma rig) :
    Passable config useDma Cipher.blockSize rig.part :=
  ⟨h.depth, h.channel⟩

/-- Nothing can keep a piece that has a way from being sent. -/
theorem Able.not_hindrance (h : Able config kind rig) {len : Nat} {failure : Failure}
    (hway : Passable config useDma len rig.part) :
    ¬Hindrance config useDma len rig.clock rig.part failure := by
  intro hhindrance
  cases hhindrance with
  | silent opcode hsilent =>
    rw [h.faults_eq] at hsilent
    cases hsilent
  | shallow hdma hdepth => exact Nat.not_lt.2 (hway.depth hdma) hdepth
  | missing hdma hchannel => exact Nat.not_lt.2 hchannel (hway.channel hdma)
  | claimed hdma hclaimed =>
    rw [h.dma_eq] at hclaimed
    cases hclaimed
  | stalled hdma hstall =>
    rcases hstall with hstall | hdeaf
    · rw [h.faults_eq] at hstall
      cases hstall
    · exact hdeaf h.listening

/-- Nothing stands in the way later on, if the part is listening again. -/
theorem Able.later {r : Rig σ} (h : Able config useDma rig)
    (hlisten : Part.Listening r.clock r.part) (hsteady : Part.Steady rig.part r.part)
    (hdma : r.part.dma = rig.part.dma) (hstrays : Carrier.strays r.bus = Carrier.strays rig.bus) :
    Able config useDma r where
  listening := hlisten
  faults_eq := hsteady.faults_eq.trans h.faults_eq
  dma_eq := hdma.trans h.dma_eq
  strays := by
    rw [hstrays]
    exact h.strays
  mode := by
    rw [hsteady.features_eq]
    exact h.mode
  depth := by
    rw [hsteady.config_eq]
    exact h.depth
  channel := by
    rw [hsteady.config_eq]
    exact h.channel
  quick := by
    rw [hsteady.config_eq]
    exact h.quick

/-- The data has been programmed, in the time of one wait; the clock may have run out in its last
interval. -/
structure Fulfilled (config : ControllerConfig) (useDma : Bool) (addr : Nat) (data : List UInt8)
    (rig r : Rig σ) : Prop where
  able : Able config useDma r
  config_eq : r.part.config = rig.part.config
  programmed : Part.Cells.Programmed rig.part.cells r.part.cells addr data
  writeEnabled_eq : r.part.writeEnabled = false
  now_eq : r.clock.now =
    min (rig.clock.now + config.poll.span rig.part.config.pageProgramTime) lastInstant

/-- Once the command has been sent, the data is programmed when the wait has come to its end. -/
theorem ends_settle_of_sent {r : Rig σ} (hable : Able config kind rig)
    (hsent : Sent addr data rig r)
    (hclock : rig.clock.now + rig.part.config.pageProgramTime ≤ lastInstant) :
    Op.Ends (Sequence.waitReady config.poll) r
      (fun _ last => Fulfilled config kind addr data rig last) fun _ _ => False := by
  have hfired := hsent.shot.1 hable.listening
  have hwake : ∀ later, Part.Listening later r.part ↔
      rig.clock.now + rig.part.config.pageProgramTime ≤ later.now :=
    fun _ => Part.listening_of_busyUntil hable.listening hable.faults_eq hfired.steady
      hfired.busyUntil_eq
  have hspan : rig.clock.now + rig.part.config.pageProgramTime - r.clock.now =
      rig.part.config.pageProgramTime := by
    rw [hsent.abreast.clock_eq, Nat.add_sub_cancel_left]
  refine (ends_waitReady_in_time ?_ ?_ hwake ?_ hclock).imp ?_
  · rw [hsent.abreast.strays_eq]
    exact hable.strays
  · rw [hfired.steady.faults_eq]
    exact hsent.response
  · rw [hsent.abreast.clock_eq]
    exact Nat.add_le_add_left hable.quick _
  · rintro _ last ⟨huntouched, hstrays, hlisten, hnow⟩
    rw [hspan, hsent.abreast.clock_eq] at hnow
    have hsteady := hfired.steady.trans huntouched.steady
    refine ⟨hable.later hlisten hsteady (huntouched.dma_eq.trans hsent.dma_eq)
      (hstrays.trans hsent.abreast.strays_eq), hsteady.config_eq, ?_, ?_, hnow⟩
    · rw [huntouched.cells_eq]
      exact hfired.programmed
    · rw [huntouched.writeEnabled_eq]
      exact hfired.writeEnabled_eq

theorem ends_sendPiece_of_able (hable : Able config kind rig) (hproper : piece.Proper)
    (hway : Passable config useDma piece.data.length rig.part)
    (haddr : piece.addr < addressSpace)
    (hfit : piece.addr + piece.data.length ≤ rig.part.cells.size)
    (hclock : rig.clock.now + rig.part.config.pageProgramTime ≤ lastInstant) :
    Op.Ends (sendPiece config useDma piece) rig
      (fun _ r => Fulfilled config kind piece.addr piece.data rig r) fun _ _ => False := by
  have hsent := fun (r : Rig σ) (h : Sent piece.addr piece.data rig r) =>
    ends_settle_of_sent hable h hclock
  have hdropped : ∀ failure r,
      Dropped config useDma piece.addr piece.data rig failure r → False := by
    intro failure r hdropped
    rcases hdropped.reason with hstray | hhindrance
    · exact hable.strays failure hstray
    · exact hable.not_hindrance hway hhindrance
  unfold sendPiece
  cases useDma with
  | true =>
    exact ends_programChunkDma hable.mode haddr hproper.page hfit hproper.nonempty
      (fun r h _ => hsent r h) hdropped
  | false => exact ends_programChunk hable.mode haddr hproper.page hfit hsent hdropped

end Piece

/-! ## The whole program -/

section Program

variable {config : ControllerConfig} {base len : Nat} {payload : List UInt8} {useDma kind : Bool}
  {cipher : CipherMode} {enciphered : Cipher.Enciphered} {rig : Rig σ}

/-- Some pieces of a program have been sent, each in the time of one wait; the clock may have run
out in the last interval. -/
structure Paced (config : ControllerConfig) (base : Nat) (useDma : Bool) (rig : Rig σ)
    (sent : List Piece) (r : Rig σ) : Prop where
  able : Able config useDma r
  config_eq : r.part.config = rig.part.config
  programmed : Part.Cells.Programmed rig.part.cells r.part.cells base (bytes sent)
  writeEnabled_eq : r.part.writeEnabled = (sent.isEmpty && rig.part.writeEnabled)
  now_eq : r.clock.now =
    min (rig.clock.now + sent.length * config.poll.span rig.part.config.pageProgramTime) lastInstant

theorem paced_nil (hable : Able config useDma rig) : Paced config base useDma rig [] rig := by
  refine ⟨hable, rfl, Part.Cells.programmed_nil _ _, rfl, ?_⟩
  rw [List.length_nil, Nat.zero_mul, Nat.add_zero, Nat.min_eq_left rig.clock.now_le]

theorem Paced.snoc {sent : List Piece} {piece : Piece} {r r' : Rig σ}
    (h : Paced config base kind rig sent r) (haddr : piece.addr = base + (bytes sent).length)
    (hfulfilled : Fulfilled config kind piece.addr piece.data r r') :
    Paced config base kind rig (sent ++ [piece]) r' := by
  have hprogrammed := hfulfilled.programmed
  rw [haddr] at hprogrammed
  refine ⟨hfulfilled.able, hfulfilled.config_eq.trans h.config_eq, ?_, ?_, ?_⟩
  · rw [bytes_append, bytes_cons, bytes_nil, List.append_nil]
    exact h.programmed.append hprogrammed
  · rw [hfulfilled.writeEnabled_eq]
    cases sent <;> rfl
  · rw [hfulfilled.now_eq, h.now_eq, h.config_eq, List.length_append, List.length_singleton,
      Nat.succ_mul]
    omega

/-- Every piece of a plan is programmed, if it has a way and the clock the time for it. -/
theorem carries_paced (htail : TailFits (base + enciphered.body.length) enciphered.tail)
    (hspace : base + enciphered.image.length ≤ addressSpace)
    (hfit : base + enciphered.image.length ≤ rig.part.cells.size)
    (hway : Passable config useDma len rig.part)
    (hlen : useDma = false → ∀ piece ∈ plan base useDma enciphered, piece.data.length ≤ len)
    (hclock : ∀ count < (plan base useDma enciphered).length, rig.clock.now +
      count * config.poll.span rig.part.config.pageProgramTime + rig.part.config.pageProgramTime ≤
        lastInstant) :
    Carries config useDma (plan base useDma enciphered) (Paced config base kind rig)
      fun _ _ => False := by
  refine ⟨fun sent r event h => ?_, fun sent piece rest r hplan h => ?_⟩
  · obtain ⟨⟨hlisten, hfaults, hdma, hstrays, hmode, hdepth, hchannel, hquick⟩, hconfig,
      hprogrammed, hlatch, hnow⟩ := h
    exact ⟨⟨hlisten, hfaults, hdma, hstrays, hmode, hdepth, hchannel, hquick⟩, hconfig,
      hprogrammed, hlatch, hnow⟩
  obtain ⟨haddr, -, hend, -, hproper, -⟩ := split_plan htail hplan
  have hpos := List.length_pos_iff.2 hproper.nonempty
  have hmem : piece ∈ plan base useDma enciphered := by
    rw [hplan]
    exact List.mem_append_right _ List.mem_cons_self
  have hcount : sent.length < (plan base useDma enciphered).length := by
    rw [hplan, List.length_append, List.length_cons]
    omega
  -- the bound is on the sum of the times: the clock itself never shows more than its last instant
  have htime := hclock _ hcount
  have hpass : Passable config useDma piece.data.length r.part := by
    refine ⟨fun hdma => ?_, fun hdma => ?_⟩
    · rw [h.config_eq]
      exact Nat.le_trans (hlen hdma piece hmem) (hway.depth hdma)
    · rw [h.config_eq]
      exact hway.channel hdma
  exact (ends_sendPiece_of_able h.able hproper hpass (by omega)
    (by rw [h.programmed.size_eq]; omega) (by rw [h.now_eq, h.config_eq]; omega)).imp
      fun _ _ hfulfilled => h.snoc haddr hfulfilled

/-- With nothing in its way, a program carries out its whole plan, if every piece has a way and the
clock the time for it. -/
theorem ends_program_in_time (hable : Able config kind rig)
    (hpasses : Passes config base payload useDma cipher (Bus.features rig.bus))
    (hfit : base + Cipher.paddedLength payload.length cipher ≤ rig.part.cells.size)
    (hway : Passable config useDma len rig.part)
    (hlen : useDma = false → ∀ piece ∈ plan base useDma (Cipher.encipher payload cipher),
      piece.data.length ≤ len)
    (hclock : ∀ count < (plan base useDma (Cipher.encipher payload cipher)).length,
      rig.clock.now + count * config.poll.span rig.part.config.pageProgramTime +
        rig.part.config.pageProgramTime ≤ lastInstant) :
    Op.Ends (program config base payload useDma cipher) rig
      (fun stats r => stats = statsOf base useDma (Cipher.encipher payload cipher) ∧
        Paced config base kind rig (plan base useDma (Cipher.encipher payload cipher)) r)
      fun _ _ => False := by
  have hlength := Cipher.length_image payload cipher
  have hspace := (checkProgram_eq_ok_iff.1 hpasses.check_eq).2.1
  exact ends_program_of_passes hpasses (paced_nil hable)
    (carries_paced hpasses.tailFits (by omega) (by omega) hway hlen hclock)

/-- Some pieces of a program have been sent, each in the time of one wait. -/
structure Progressed (config : ControllerConfig) (base : Nat) (useDma : Bool) (rig : Rig σ)
    (sent : List Piece) (r : Rig σ) : Prop where
  able : Able config useDma r
  config_eq : r.part.config = rig.part.config
  programmed : Part.Cells.Programmed rig.part.cells r.part.cells base (bytes sent)
  writeEnabled_eq : r.part.writeEnabled = (sent.isEmpty && rig.part.writeEnabled)
  now_eq : r.clock.now =
    rig.clock.now + sent.length * config.poll.span rig.part.config.pageProgramTime

/-- On a clock that has the time for all of it, a program takes exactly the time of its
transactions. -/
theorem ends_program_of_able (hable : Able config useDma rig)
    (hpasses : Passes config base payload useDma cipher (Bus.features rig.bus))
    (hfit : base + Cipher.paddedLength payload.length cipher ≤ rig.part.cells.size)
    (hclock : rig.clock.now + (plan base useDma (Cipher.encipher payload cipher)).length *
      config.poll.span rig.part.config.pageProgramTime ≤ lastInstant) :
    Op.Ends (program config base payload useDma cipher) rig
      (fun stats r => stats = statsOf base useDma (Cipher.encipher payload cipher) ∧
        Progressed config base useDma rig (plan base useDma (Cipher.encipher payload cipher)) r)
      fun _ _ => False := by
  refine (ends_program_in_time hable hpasses hfit hable.passable ?_ ?_).imp ?_
  · exact fun hdma piece hmem => (mem_plan hpasses.tailFits hmem).2.2 hdma
  · intro count hcount
    have hspan := config.poll.le_span rig.part.config.pageProgramTime
    have htime := Nat.mul_le_mul_right (config.poll.span rig.part.config.pageProgramTime)
      (Nat.succ_le_of_lt hcount)
    rw [Nat.succ_mul] at htime
    omega
  · rintro _ r ⟨hstats, hable', hconfig, hprogrammed, hlatch, hnow⟩
    exact ⟨hstats, hable', hconfig, hprogrammed, hlatch, hnow.trans (Nat.min_eq_left hclock)⟩

theorem plan_isEmpty {features : BusFeatures}
    (hpasses : Passes config base payload useDma cipher features) :
    (plan base useDma (Cipher.encipher payload cipher)).isEmpty = payload.isEmpty := by
  have hlength := Cipher.length_image payload cipher
  have hle := Cipher.length_le_paddedLength payload.length cipher
  cases hplan : plan base useDma (Cipher.encipher payload cipher) with
  | nil =>
    have hbytes := bytes_plan base useDma (Cipher.encipher payload cipher)
    rw [hplan, bytes_nil] at hbytes
    rw [← hbytes, List.length_nil] at hlength
    rw [List.eq_nil_of_length_eq_zero (by omega : payload.length = 0)]
    rfl
  | cons piece rest =>
    obtain ⟨-, himage, -, -, hproper, -⟩ := split_plan hpasses.tailFits
      (show plan base useDma _ = [] ++ piece :: rest from hplan)
    have hpos := List.length_pos_iff.2 hproper.nonempty
    cases payload with
    | nil =>
      have hzero : Cipher.paddedLength ([] : List UInt8).length cipher = 0 := by
        cases cipher <;> rfl
      rw [himage, hzero] at hlength
      simp only [bytes_nil, List.nil_append, List.length_append] at hlength
      omega
    | cons byte payload => rfl

end Program

/-! ## Programs on a part -/

/-- A program on a part that is listening, with nothing in its way, answers with exact statistics:
the image is programmed, nothing else has changed, and the part is listening again.  The write
enable latch is clear, unless the payload is empty, which leaves it as it was. -/
theorem program_complete (config : ControllerConfig) (base : Nat) (payload : List UInt8)
    (useDma : Bool) (cipher : CipherMode) (rig : Rig Part)
    (hlisten : Part.Listening rig.clock rig.bus) (hfaults : rig.bus.faults = {})
    (hdma : rig.bus.dma = none) (hcheck : checkProgram base payload cipher = .ok ())
    (hmode : config.programMode.check rig.bus.features = .ok ())
    (hfit : base + Cipher.paddedLength payload.length cipher ≤ rig.bus.cells.size)
    (hquick : rig.bus.config.pageProgramTime ≤ config.poll.timeout)
    (hdepth : useDma = false → Cipher.blockSize ≤ rig.bus.config.writeDepth)
    (hchannel : useDma = true → config.dmaChannel < rig.bus.config.dmaChannels)
    (hclock : rig.clock.now +
      ((statsOf base useDma (Cipher.encipher payload cipher)).transfers +
        (statsOf base useDma (Cipher.encipher payload cipher)).tailTransfers) *
      config.poll.span rig.bus.config.pageProgramTime ≤ lastInstant) :
    let enciphered := Cipher.encipher payload cipher
    ∃ stats after, program config base payload useDma cipher rig = (.ok stats, after) ∧
      (∀ i (hi : i < enciphered.image.length), after.bus.cells.cell (base + i) =
        rig.bus.cells.cell (base + i) &&& enciphered.image[i]) ∧
      (∀ i, ¬(base ≤ i ∧ i < base + enciphered.image.length) →
        after.bus.cells.cell i = rig.bus.cells.cell i) ∧
      Part.Listening after.clock after.bus ∧ after.bus.dma = none ∧
      after.bus.writeEnabled = (payload.isEmpty && rig.bus.writeEnabled) ∧
      stats.windows = ((Finset.Ico base (base + enciphered.body.length)).image
        fun addr => addr / pageSize).card ∧
      stats.transfers = transferCount (chunkSize useDma)
        (⟨base, base + enciphered.body.length⟩ : PageWindows).toList ∧
      stats.tailTransfers =
        (if cipher ≠ .none ∧ payload.length % Cipher.blockSize ≠ 0 then 1 else 0) ∧
      stats.bytesProgrammed = Cipher.paddedLength payload.length cipher ∧
      after.clock.now = rig.clock.now + (stats.transfers + stats.tailTransfers) *
        config.poll.span rig.bus.config.pageProgramTime := by
  intro enciphered
  have hfeature : useDma = true → rig.bus.features.dma = true := fun huse =>
    decide_eq_true (Nat.lt_of_le_of_lt (Nat.zero_le _) (hchannel huse))
  have hpasses : Passes config base payload useDma cipher (Bus.features rig.bus) :=
    ⟨hcheck, hfeature, hmode⟩
  have hable : Able config useDma rig :=
    ⟨hlisten, hfaults, hdma, fun _ => id, hmode, hdepth, hchannel, hquick⟩
  have hlength : (plan base useDma enciphered).length =
      (statsOf base useDma enciphered).transfers + (statsOf base useDma enciphered).tailTransfers :=
    length_plan useDma hpasses.tailFits
  obtain ⟨stats, after, hrun, rfl, hprogressed⟩ :=
    (ends_program_of_able hable hpasses hfit (by rw [hlength]; exact hclock)).exists_ok
  refine ⟨_, after, hrun, fun i hi => ?_, fun i hi => ?_, hprogressed.able.listening,
    hprogressed.able.dma_eq, ?_, ?_, rfl, ?_, ?_, ?_⟩
  · have hcell := hprogressed.programmed.cell_eq (base + i)
    rwa [bytes_plan, Part.Cells.overlay_add base i _ hi] at hcell
  · have hcell := hprogressed.programmed.cell_eq i
    rwa [bytes_plan, Part.Cells.overlay_outside hi, Part.Cells.and_erasedByte] at hcell
  · rw [← plan_isEmpty hpasses]
    exact hprogressed.writeEnabled_eq
  · exact (PageWindows.card_pages ⟨base, base + enciphered.body.length⟩).symm
  · exact if_congr Cipher.isSome_tail rfl rfl
  · exact Cipher.length_image payload cipher
  · rw [← hlength]
    exact hprogressed.now_eq

/-- A new part is sent eight bytes across a page boundary: two windows, three transactions, each
in the time of seven polls. -/
theorem program_complete_across_pages :
    let rig : Rig Part := { bus := Part.new { size := 512 }, clock := .start }
    Part.Listening rig.clock rig.bus ∧
      ∃ stats after,
        program {} 250 [1, 2, 3, 4, 5, 6, 7, 8] false .none rig = (.ok stats, after) ∧
          after.bus.cells.cell 256 = rig.bus.cells.cell 256 &&& 7 ∧ stats.transfers = 3 ∧
          after.clock.now = 2100 := by
  intro rig
  have hlisten : Part.Listening rig.clock rig.bus := by decide
  have hstats : statsOf 250 false (Cipher.encipher [1, 2, 3, 4, 5, 6, 7, 8] .none) =
      ⟨2, 3, 0, 8⟩ := by cbv
  have hsize : rig.bus.cells.size = 512 := Part.Cells.size_erased 512
  obtain ⟨stats, after, hrun, hcells, -, -, -, -, -, htransfers, htail, -, hnow⟩ :=
    program_complete {} 250 [1, 2, 3, 4, 5, 6, 7, 8] false .none rig hlisten rfl rfl rfl rfl
      (by rw [hsize]; decide) (by decide) (fun _ => by decide)
      (fun h => absurd h Bool.false_ne_true) (by rw [hstats]; decide)
  have hcount : stats.transfers = 3 := by
    rw [htransfers]
    exact congrArg ProgramStats.transfers hstats
  rw [htail, hcount] at hnow
  exact ⟨hlisten, stats, after, hrun, hcells 6 (by decide), hcount, hnow.trans (by decide)⟩

/-- An empty payload sends no command, so a latch that was set stays set. -/
theorem program_nil_leaves_latch :
    let rig : Rig Part :=
      { bus := { Part.new { size := 4 } with writeEnabled := true }, clock := .start }
    Part.Config.validate rig.bus.config = .ok () ∧ Part.Listening rig.clock rig.bus ∧
      rig.bus.faults = {} ∧ rig.bus.dma = none ∧ checkProgram 0 [] .none = .ok () ∧
      (program {} 0 [] false .none rig).1 = .ok {} ∧
      (program {} 0 [] false .none rig).2.bus.writeEnabled = true := by
  refine ⟨rfl, by decide, rfl, rfl, rfl, ?_, ?_⟩
  all_goals with_unfolding_all rfl

end Flash.Controller

end CardReader
