import CardReader.CommandLine.Run
import CardReader.Proofs.Command.Runs
import CardReader.Proofs.Program.Completion
import CardReader.Proofs.Standby.Ranges

/-!
# Writing a file to a part

The command that programs a file, from the erase of its sectors to the comparison at the end.  On a
part with the means for it the command fails for one reason only: bits that should be set had been
cleared before and have not been erased.

What is proved here:

* `firstDifference_eq_none_iff` and `firstDifference_eq_some` — what a comparison finds;
* `run_verifyRange` and `run_programAndVerify` — how the command goes on once the sectors are as
  they should be;
* `writeTime_le_lastInstant` — the clock can show the time that a write takes, unless single waits
  take days;
* `write_verified` — with an erase first the file is in the array afterwards, and without one the
  command says whether it is.
-/

namespace CardReader

open Flash Flash.Controller

/-! ## Comparing -/

namespace Command

variable {addr : Nat} {data plain : List UInt8}

theorem firstDifference_eq_none_iff (expected : List UInt8) :
    ∀ (offset : Nat) (got : List UInt8), expected.length ≤ got.length →
      (firstDifference offset expected got = none ↔ got.take expected.length = expected) := by
  induction expected with
  | nil => exact fun _ got _ => iff_of_true (by cases got <;> rfl) (List.take_zero)
  | cons e expected ih =>
    intro offset got hlength
    cases got with
    | nil => cases hlength
    | cons g got =>
      rw [firstDifference, List.length_cons, List.take_succ_cons, List.cons.injEq]
      by_cases heq : e = g
      · rw [if_pos heq, ih _ got (Nat.le_of_succ_le_succ hlength)]
        exact (and_iff_right heq.symm).symm
      · rw [if_neg heq]
        exact iff_of_false nofun fun h => heq h.1.symm

/-- A difference that is found is the first one. -/
theorem firstDifference_eq_some {place : Nat} {x y : UInt8} (expected : List UInt8) :
    ∀ (offset : Nat) (got : List UInt8),
      firstDifference offset expected got = some (place, x, y) →
      ∃ i, place = offset + i ∧ expected[i]? = some x ∧ got[i]? = some y ∧ x ≠ y ∧
        got.take i = expected.take i := by
  induction expected with
  | nil =>
    intro offset got h
    cases got <;> cases h
  | cons e expected ih =>
    intro offset got h
    cases got with
    | nil => cases h
    | cons g got =>
      rw [firstDifference] at h
      by_cases heq : e = g
      · rw [if_pos heq] at h
        obtain ⟨i, rfl, hx, hy, hne, hsame⟩ := ih _ got h
        refine ⟨i + 1, by omega, hx, hy, hne, ?_⟩
        rw [List.take_succ_cons, List.take_succ_cons, hsame, heq]
      · rw [if_neg heq] at h
        cases h
        exact ⟨0, rfl, rfl, rfl, heq, rfl⟩

/-- The verdict on what has been read back. -/
def verdict (addr : Nat) (data plain : List UInt8) : Except CommandFault Unit :=
  match firstDifference addr data plain with
  | some (place, expected, got) => .error (.mismatch place expected got)
  | none => .ok ()

/-- The verdict is good exactly if the file is what has been read back. -/
theorem verdict_eq_ok_iff (hlength : data.length ≤ plain.length) :
    verdict addr data plain = .ok () ↔ plain.take data.length = data := by
  rw [← firstDifference_eq_none_iff data addr plain hlength, verdict]
  cases firstDifference addr data plain with
  | none => exact iff_of_true rfl rfl
  | some place => exact iff_of_false nofun nofun

/-- A verdict that is not good names the first difference. -/
theorem verdict_of_ne (h : verdict addr data plain ≠ .ok ()) :
    ∃ i x y, verdict addr data plain = .error (.mismatch (addr + i) x y) ∧ data[i]? = some x ∧
      plain[i]? = some y ∧ x ≠ y ∧ plain.take i = data.take i := by
  rw [verdict] at h ⊢
  cases hfound : firstDifference addr data plain with
  | none =>
    rw [hfound] at h
    exact absurd rfl h
  | some place =>
    obtain ⟨addr', x, y⟩ := place
    obtain ⟨i, rfl, hrest⟩ := firstDifference_eq_some data addr plain hfound
    exact ⟨i, x, y, rfl, hrest⟩

end Command

/-! ## Means -/

/-- A part of this configuration, and its controller, have what it takes to write a file. -/
structure Part.Config.Writes (config : Part.Config) (useDma : Bool) : Prop where
  valid : config.validate = .ok ()
  /-- No unit of the array is smaller than a sector. -/
  sector : sectorSize ≤ config.size
  /-- Every chunk fits the write FIFO. -/
  depth : Cipher.blockSize ≤ config.writeDepth
  programMode : config.controller.programMode.check (Part.new config).features = .ok ()
  readMode : config.controller.readMode.check (Part.new config).features = .ok ()
  /-- There is such a DMA channel, if one is used. -/
  channel : useDma = true → config.controller.dmaChannel < config.dmaChannels
  /-- No work takes longer than it is waited for. -/
  quick : ∀ us ∈ [config.pageProgramTime, config.sectorEraseTime, config.block64EraseTime],
    us ≤ config.controller.poll.timeout

namespace Command

variable {config : Part.Config} {cells : Part.Cells} {held : StatusRegister → UInt8}
  {rig : Rig Part} {files : Files} {addr : Nat} {data : List UInt8} {useDma : Bool}
  {cipher : CipherMode}

/-- How long the waits of a write take: those of the erases, if there are any, and one for each
piece. -/
def writeTime (config : Part.Config) (addr : Nat) (data : List UInt8) (useDma erase : Bool)
    (cipher : CipherMode) : Nat :=
  (if erase then
      sweepTime config config.controller.poll
        (rangeSteps addr (Cipher.paddedLength data.length cipher))
    else 0) +
    (plan addr useDma (Cipher.encipher data cipher)).length *
      config.controller.poll.span config.pageProgramTime

/-- The file has a place in the array. -/
structure Fits (config : Part.Config) (addr : Nat) (data : List UInt8) (cipher : CipherMode) :
    Prop where
  nonempty : data ≠ []
  inside : addr + Cipher.paddedLength data.length cipher ≤ config.size
  aligned : cipher ≠ .none → addr % Cipher.blockSize = 0

theorem Fits.length_pos (h : Fits config addr data cipher) :
    0 < Cipher.paddedLength data.length cipher :=
  Nat.lt_of_lt_of_le (List.length_pos_iff.2 h.nonempty) (Cipher.length_le_paddedLength _ _)

theorem Fits.checkRange_eq (h : Fits config addr data cipher) (hvalid : config.validate = .ok ()) :
    checkRange addr (Cipher.paddedLength data.length cipher) = .ok () := by
  have hpos := h.length_pos
  have hinside := h.inside
  have hspace := (Part.Config.validate_eq_ok_iff.1 hvalid).2.1
  exact checkRange_eq_ok_iff.2 (by omega)

theorem Fits.checkWrite_eq (h : Fits config addr data cipher)
    (hvalid : config.validate = .ok ()) : checkWrite addr data cipher = .ok () := by
  have hempty : data.isEmpty = false := by simpa using h.nonempty
  rw [checkWrite, h.checkRange_eq hvalid, hempty]
  by_cases hcipher : cipher = .none
  · rw [hcipher]
    rfl
  · have haligned := h.aligned hcipher
    simp [hcipher, haligned]
    rfl

/-! ## Erasing -/

/-- The erases of a write are those of units inside the array, and none takes longer than it is
waited for. -/
theorem of_mem_rangeSteps (hwrites : config.Writes useDma) (hfits : Fits config addr data cipher) :
    ∀ step ∈ rangeSteps addr (Cipher.paddedLength data.length cipher),
      step.2 < addressSpace ∧
        (Part.new config).eraseTime step.1 ≤ config.controller.poll.timeout := by
  intro step hstep
  obtain ⟨hpower, hspace, -⟩ := Part.Config.validate_eq_ok_iff.1 hwrites.valid
  have hstop := roundUp_le hpower hwrites.sector hfits.inside
  obtain ⟨hunit, hlt⟩ := of_mem_eraseSteps _ _ step hstep
  refine ⟨by omega, ?_⟩
  rcases hunit with hunit | hunit
  · rw [hunit]
    exact hwrites.quick _ (by simp [Part.eraseTime, Part.new])
  · rw [hunit]
    exact hwrites.quick _ (by simp [Part.eraseTime, Part.new])

/-- The sectors that the file touches are erased. -/
theorem eraseRange_of_writes (hwrites : config.Writes useDma) (hfits : Fits config addr data cipher)
    (hstandby : Standby config cells held rig)
    (hclock : rig.clock.now + sweepTime config config.controller.poll
      (rangeSteps addr (Cipher.paddedLength data.length cipher)) ≤ lastInstant) :
    ∃ r, eraseRange config.controller addr (Cipher.paddedLength data.length cipher) rig =
        (.ok (), r) ∧
      Standby config
        (sweep config (rangeSteps addr (Cipher.paddedLength data.length cipher)) cells) held r ∧
      r.clock.now = rig.clock.now + sweepTime config config.controller.poll
        (rangeSteps addr (Cipher.paddedLength data.length cipher)) := by
  have herase : (eraseRange config.controller addr _).Does config rig _ :=
    does_eraseRange hstandby addr (Cipher.paddedLength data.length cipher)
  refine herase.exists_ok (fun step hstep => ?_) hclock
  obtain ⟨haddr, htime⟩ := of_mem_rangeSteps hwrites hfits step hstep
  exact ⟨.inl (checkAddress_eq_ok_iff.2 haddr), PollPolicy.reaches_of_le htime⟩

/-! ## Programming -/

/-- Nothing stands in the way of the program. -/
theorem able_of_writes (hwrites : config.Writes useDma)
    (hstandby : Standby config cells held rig) : Able config.controller useDma rig where
  listening := hstandby.listening
  faults_eq := hstandby.faults_eq
  dma_eq := hstandby.dma_eq
  strays _ := id
  mode := by
    rw [show rig.part.features = _ from hstandby.features_eq]
    exact hwrites.programMode
  depth _ := by
    rw [show rig.part.config = config from hstandby.config_eq]
    exact hwrites.depth
  channel := by
    rw [show rig.part.config = config from hstandby.config_eq]
    exact hwrites.channel
  quick := by
    rw [show rig.part.config = config from hstandby.config_eq]
    exact hwrites.quick _ (by simp)

theorem passes_of_fits (hwrites : config.Writes useDma) (hfits : Fits config addr data cipher) :
    Passes config.controller addr data useDma cipher (Part.new config).features := by
  have hrange := checkRange_eq_ok_iff.1 (hfits.checkRange_eq hwrites.valid)
  refine ⟨checkProgram_eq_ok_iff.2 ⟨hrange.1, hrange.2, hfits.aligned⟩, fun huse => ?_,
    hwrites.programMode⟩
  exact decide_eq_true (Nat.lt_of_le_of_lt (Nat.zero_le _) (hwrites.channel huse))

/-- The data of the file is programmed, and the part is at standby again. -/
theorem program_of_writes (hwrites : config.Writes useDma) (hfits : Fits config addr data cipher)
    (hstandby : Standby config cells held rig)
    (hclock : rig.clock.now + (plan addr useDma (Cipher.encipher data cipher)).length *
      config.controller.poll.span config.pageProgramTime ≤ lastInstant) :
    ∃ stats after held', program config.controller addr data useDma cipher rig = (.ok stats, after) ∧
      Standby config after.bus.cells held' after ∧
      Part.Cells.Programmed cells after.bus.cells addr (Cipher.encipher data cipher).image := by
  have hconfig : rig.part.config = config := hstandby.config_eq
  have hcells : rig.part.cells = cells := hstandby.cells_eq
  have hpasses := passes_of_fits hwrites hfits
  rw [← hstandby.features_eq] at hpasses
  have hroom : addr + Cipher.paddedLength data.length cipher ≤ rig.part.cells.size := by
    rw [hcells, hstandby.size_eq]
    exact hfits.inside
  have hprogram := ends_program_of_able (able_of_writes hwrites hstandby) hpasses hroom
    (by rw [hconfig]; exact hclock)
  obtain ⟨stats, after, hrun, -, hable, hsame, hprogrammed, hlatch, -⟩ := hprogram.exists_ok
  rw [bytes_plan, hcells] at hprogrammed
  rw [plan_isEmpty hpasses, List.isEmpty_eq_false_iff.2 hfits.nonempty, Bool.false_and] at hlatch
  have hsized : after.bus.Sized :=
    hstandby.sized.congr hsame (hprogrammed.size_eq.trans (congrArg _ hcells.symm))
  exact ⟨stats, after, after.bus.stored, hrun, ⟨hsame.trans hconfig, hable.faults_eq,
    hable.listening, hlatch, hable.dma_eq, rfl, rfl, hsized⟩, hprogrammed⟩

/-- What is read back of a run that has been programmed. -/
theorem slice_of_programmed {after : Part.Cells} {image : List UInt8}
    (hfit : addr + image.length ≤ cells.size)
    (h : Part.Cells.Programmed cells after addr image) :
    after.slice addr image.length =
      (cells.slice addr image.length).zipWith (· &&& ·) image := by
  refine List.ext_getElem (by simp) fun i hi hi' => ?_
  rw [Part.Cells.length_slice] at hi
  rw [Part.Cells.getElem_slice (by rw [h.size_eq]; exact hfit), List.getElem_zipWith,
    Part.Cells.getElem_slice hfit, h.cell_eq, Part.Cells.overlay_add addr i image hi]

/-- Bytes that were erased before read back as the image. -/
theorem zipWith_of_erased (addr : Nat) {image : List UInt8}
    (hfit : addr + image.length ≤ cells.size)
    (herased : ∀ i, addr ≤ i → i < addr + image.length → cells.cell i = Part.erasedByte) :
    (cells.slice addr image.length).zipWith (· &&& ·) image = image := by
  refine List.ext_getElem (by simp) fun i hi hi' => ?_
  rw [List.getElem_zipWith, Part.Cells.getElem_slice hfit, herased _ (by omega) (by omega),
    UInt8.and_comm, Part.Cells.and_erasedByte]

/-- The clock can show what the waits take, unless the part is waited for longer than three days
at a time. -/
theorem writeTime_le_lastInstant (erase : Bool) (hwrites : config.Writes useDma)
    (hfits : Fits config addr data cipher)
    (hshort : config.controller.poll.timeout + config.controller.poll.step ≤ 0x4000000000) :
    writeTime config addr data useDma erase cipher ≤ lastInstant := by
  obtain ⟨hpower, hspace, -⟩ := Part.Config.validate_eq_ok_iff.1 hwrites.valid
  have hinside := hfits.inside
  have hpieces := Nat.le_trans (passes_of_fits hwrites hfits).length_plan_le
    (show Cipher.paddedLength data.length cipher ≤ addressSpace by omega)
  have hspan := Nat.le_trans (PollPolicy.span_le config.controller.poll config.pageProgramTime)
    (Nat.add_le_add_right (hwrites.quick _ (by simp)) _)
  have hprogram := Nat.mul_le_mul hpieces (Nat.le_trans hspan hshort)
  have hstop := roundUp_le hpower hwrites.sector hfits.inside
  have hsteps : (rangeSteps addr (Cipher.paddedLength data.length cipher)).length ≤ addressSpace :=
    Nat.le_trans (length_eraseSteps_le _ _) (by omega)
  have hsweep := Nat.le_trans
    (sweepTime_le fun step hstep => (of_mem_rangeSteps hwrites hfits step hstep).2)
    (Nat.mul_le_mul hsteps hshort)
  have hsum := Nat.le_trans (Nat.add_le_add hsweep hprogram)
    (show _ ≤ lastInstant by decide)
  cases erase with
  | true => exact hsum
  | false => exact Nat.le_trans (Nat.add_le_add_right (Nat.zero_le _) _) hsum

/-! ## Verifying -/

/-- What is read back is what the array holds, and the verdict is on that. -/
theorem run_verifyRange (files : Files) (hwrites : config.Writes useDma)
    (hfits : Fits config addr data cipher) (hstandby : Standby config cells held rig) :
    let plain := Cipher.decipher
      (cells.slice addr (Cipher.paddedLength data.length cipher)) cipher
    ∃ after lines, (verifyRange config.controller addr data cipher).run rig files =
        ((verdict addr data plain, after), lines, files) ∧ Standby config cells held after := by
  intro plain
  have hdepth := (Part.Config.validate_eq_ok_iff.1 hwrites.valid).2.2.1
  have hread : (readRange config.controller addr _).Does config rig _ :=
    does_readRange hstandby hdepth addr (Cipher.paddedLength data.length cipher)
  obtain ⟨after, hrun, hafter, -⟩ :=
    hread.exists_ok ⟨hfits.checkRange_eq hwrites.valid, .inr hwrites.readMode⟩ rig.clock.now_le
  have hjudge : ∃ lines, Command.run (match firstDifference addr data plain with
      | some (place, expected, got) => throw (.mismatch place expected got)
      | none => print "Verification passed!" : Command (Rig Part) Unit) after files =
        ((verdict addr data plain, after), lines, files) := by
    rw [verdict]
    cases firstDifference addr data plain with
    | none => exact ⟨_, rfl⟩
    | some place => exact ⟨_, rfl⟩
  obtain ⟨lines, hjudge⟩ := hjudge
  exact ⟨after, _, run_bind_of_runs (runs_flash hrun) hjudge, hafter⟩

/-- What is left to do once the sectors are as they should be. -/
theorem run_programAndVerify (files : Files) (hwrites : config.Writes useDma)
    (hfits : Fits config addr data cipher) (hstandby : Standby config cells held rig)
    (hclock : rig.clock.now + (plan addr useDma (Cipher.encipher data cipher)).length *
      config.controller.poll.span config.pageProgramTime ≤ lastInstant) :
    ∃ after lines,
      (do
        let stats ← flash (program config.controller addr data useDma cipher)
        reportProgrammed addr stats
        verifyRange config.controller addr data cipher : Command (Rig Part) Unit).run rig files =
        ((verdict addr data (Cipher.decipher
          ((cells.slice addr (Cipher.paddedLength data.length cipher)).zipWith (· &&& ·)
            (Cipher.encipher data cipher).image) cipher), after), lines, files) ∧
      Part.Cells.Programmed cells after.bus.cells addr (Cipher.encipher data cipher).image := by
  obtain ⟨stats, mid, held', hrun, hmid, hprogrammed⟩ :=
    program_of_writes hwrites hfits hstandby hclock
  obtain ⟨after, lines, hverify, hafter⟩ := run_verifyRange files hwrites hfits hmid
  have hinside := hfits.inside
  have hslice := slice_of_programmed
    (by rw [Cipher.length_image, hstandby.size_eq]; exact hinside) hprogrammed
  rw [Cipher.length_image] at hslice
  rw [hslice] at hverify
  refine ⟨after, _, run_bind_of_runs (runs_flash hrun) (run_bind_of_runs (runs_print _) hverify),
    ?_⟩
  rw [hafter.cells_eq]
  exact hprogrammed

/-! ## The whole command -/

/-- The array once its sectors are as they should be. -/
def prepared (config : Part.Config) (cells : Part.Cells) (addr len : Nat) (erase : Bool) :
    Part.Cells :=
  if erase then sweep config (rangeSteps addr len) cells else cells

theorem run_write (input : String) (erase : Bool) (hwrites : config.Writes useDma)
    (hfits : Fits config addr data cipher) (hsize : cells.size = config.size)
    (hinput : files.read input = .ok ⟨data.toArray⟩)
    (htime : writeTime config addr data useDma erase cipher ≤ lastInstant) :
    let request : CommandLine.Request :=
      .write addr input { useDma, cipher, erase, verify := true }
    let ready := prepared config cells addr (Cipher.paddedLength data.length cipher) erase
    ∃ after lines, (CommandLine.carryOut config.controller request).run
        (CommandLine.rigOf { config, cells }) files =
          ((verdict addr data (Cipher.decipher
            ((ready.slice addr (Cipher.paddedLength data.length cipher)).zipWith (· &&& ·)
              (Cipher.encipher data cipher).image) cipher), after), lines, files) ∧
        Part.Cells.Programmed ready after.bus.cells addr (Cipher.encipher data cipher).image := by
  intro request ready
  have hpower := (Part.Config.validate_eq_ok_iff.1 hwrites.valid).1
  have hconfigure : (configure config.controller none).Does config _ _ :=
    does_configure (standby_of_size hpower hsize)
  obtain ⟨rig, hrun, hstandby, hnow⟩ := hconfigure.exists_ok trivial (Nat.zero_le _)
  have hstart : rig.clock.now = 0 := hnow
  have hread : Runs (readFile input) rig files (⟨data.toArray⟩ : ByteArray) rig [] files :=
    runs_readFile hinput
  have hcheck : Runs (Command.check (checkWrite addr data cipher)) rig files () rig [] files :=
    runs_check (hfits.checkWrite_eq hwrites.valid)
  cases erase with
  | false =>
    rw [writeTime, if_neg Bool.false_ne_true] at htime
    obtain ⟨after, lines, hrest, hprogrammed⟩ := run_programAndVerify files hwrites hfits
      hstandby (by omega)
    exact ⟨after, _, run_bind_of_runs (runs_flash hrun) (run_bind_of_runs hread
      (run_bind_of_runs (runs_print _) (run_bind_of_runs hcheck hrest))), hprogrammed⟩
  | true =>
    rw [writeTime, if_pos rfl] at htime
    obtain ⟨r, herase, hready, hlater⟩ := eraseRange_of_writes hwrites hfits hstandby (by omega)
    obtain ⟨after, lines, hrest, hprogrammed⟩ := run_programAndVerify files hwrites hfits hready
      (by omega)
    exact ⟨after, _, run_bind_of_runs (runs_flash hrun) (run_bind_of_runs hread
      (run_bind_of_runs (runs_print _) (run_bind_of_runs hcheck
        (run_bind_of_runs (runs_flash herase) hrest)))), hprogrammed⟩

/-- A file that is written with an erase and a comparison ends up in the array: deciphered, its
range is the file and the padding after it, the rest of the sectors that it touches is erased, and
all else is as before.  Without an erase the bits that had been cleared before stay cleared; the
command answers exactly if that leaves the file as it should be, and otherwise names the first
difference.  All this is so as long as the clock can show the time that its waits take, those of the
erases only if it erases. -/
theorem write_verified (config : Part.Config) (cells : Part.Cells) (files : Files) (addr : Nat)
    (data : List UInt8) (input : String) (useDma erase : Bool) (cipher : CipherMode)
    (hwrites : config.Writes useDma) (hsize : cells.size = config.size)
    (hinput : files.read input = .ok ⟨data.toArray⟩) (hfits : Fits config addr data cipher)
    (htime : writeTime config addr data useDma erase cipher ≤ lastInstant) :
    let len := Cipher.paddedLength data.length cipher
    let plain := Cipher.decipher ((cells.slice addr len).zipWith (· &&& ·)
      (Cipher.encipher data cipher).image) cipher
    ∃ outcome after lines, (CommandLine.carryOut config.controller
        (.write addr input { useDma, cipher, erase, verify := true })).run
        (CommandLine.rigOf { config, cells }) files = ((outcome, after), lines, files) ∧
      (erase = true → outcome = .ok () ∧
        Cipher.decipher (after.bus.cells.slice addr len) cipher = Cipher.padded data cipher ∧
        (∀ i, Touched addr len i → ¬(addr ≤ i ∧ i < addr + len) →
          after.bus.cells.cell i = Part.erasedByte) ∧
        ∀ i, ¬Touched addr len i → after.bus.cells.cell i = cells.cell i) ∧
      (erase = false → (outcome = .ok () ↔ plain.take data.length = data) ∧
        (outcome ≠ .ok () → ∃ i x y, outcome = .error (.mismatch (addr + i) x y) ∧
          data[i]? = some x ∧ plain[i]? = some y ∧ x ≠ y ∧ plain.take i = data.take i)) := by
  intro len plain
  obtain ⟨after, lines, hrun, hprogrammed⟩ :=
    run_write input erase hwrites hfits hsize hinput htime
  have hlength : (Cipher.encipher data cipher).image.length = len := Cipher.length_image _ _
  have hshort : data.length ≤ len := Cipher.length_le_paddedLength _ _
  have hinside : addr + len ≤ config.size := hfits.inside
  refine ⟨_, after, lines, hrun, ?_, ?_⟩
  · rintro rfl
    obtain ⟨hpower, -⟩ := Part.Config.validate_eq_ok_iff.1 hwrites.valid
    have hswept := cell_sweep_rangeSteps hpower hwrites.sector hfits.length_pos hinside cells
    have hready : (sweep config (rangeSteps addr len) cells).size = config.size := by
      rw [size_sweep, hsize]
    have htouched : ∀ i, addr ≤ i → i < addr + len → Touched addr len i := fun i hle hlt =>
      ⟨i, hle, hlt, rfl⟩
    rw [prepared, if_pos rfl] at hprogrammed ⊢
    have hread := zipWith_of_erased addr (by rw [hlength, hready]; exact hinside)
      fun i hle hlt => (hswept i).1 (htouched i hle (hlength ▸ hlt))
    rw [hlength] at hread
    have hslice := slice_of_programmed (by rw [hlength, hready]; exact hinside) hprogrammed
    rw [hlength, hread] at hslice
    refine ⟨?_, ?_, fun i htouch hout => ?_, fun i huntouched => ?_⟩
    · rw [hread, Cipher.decipher_image, verdict_eq_ok_iff, Cipher.padded, List.take_left]
      rw [Cipher.length_padded]
      exact hshort
    · rw [hslice, Cipher.decipher_image]
    · rw [hprogrammed.cell_eq, Part.Cells.overlay_outside (by rwa [hlength]),
        Part.Cells.and_erasedByte, (hswept i).1 htouch]
    · have hout : ¬(addr ≤ i ∧ i < addr + len) := fun h => huntouched (htouched i h.1 h.2)
      rw [hprogrammed.cell_eq, Part.Cells.overlay_outside (by rwa [hlength]),
        Part.Cells.and_erasedByte, (hswept i).2 huntouched]
  · rintro rfl
    have hplain : data.length ≤ plain.length := by
      rw [Cipher.length_decipher, List.length_zipWith, Part.Cells.length_slice, hlength,
        Nat.min_self]
      exact hshort
    exact ⟨verdict_eq_ok_iff hplain, verdict_of_ne⟩

/-- A file of 33 bytes is enciphered into two blocks, the second of which lies behind a sector
boundary.  The first bytes of the part were programmed before, and are erased with their sector. -/
theorem write_verified_across_sectors :
    let config : Part.Config := { size := 8192 }
    let cells : Part.Cells := .holding 8192 ⟨#[0, 0, 0]⟩
    let data : List UInt8 := List.replicate 33 7
    let files : Files := ⟨[(["in.bin"], ⟨data.toArray⟩)]⟩
    ∃ after lines, (CommandLine.carryOut config.controller (.write 4064 "in.bin"
        { useDma := true, cipher := .modeA, erase := true, verify := true })).run
        (CommandLine.rigOf { config, cells }) files = ((.ok (), after), lines, files) ∧
      Cipher.decipher (after.bus.cells.slice 4064 64) .modeA = data ++ List.replicate 31 0xFF ∧
      after.bus.cells.cell 0 = 0xFF := by
  intro config cells data files
  have hpower : Part.Config.isPowerOfTwo config.size = true := by decide
  have hwrites : config.Writes true :=
    ⟨Part.Config.validate_eq_ok_iff.2 ⟨hpower, by decide, by decide, by decide⟩, by decide,
      by decide, rfl, rfl, fun _ => by decide, by decide⟩
  have hfits : Fits config 4064 data .modeA := ⟨by decide, by decide, fun _ => by decide⟩
  have htime := writeTime_le_lastInstant true hwrites hfits (by decide)
  obtain ⟨outcome, after, lines, hrun, herased, -⟩ :=
    write_verified config cells files 4064 data "in.bin" true true .modeA hwrites
      (Part.Cells.size_holding _ _) rfl hfits htime
  obtain ⟨rfl, hplain, htouched, -⟩ := herased rfl
  have hlength : Cipher.paddedLength data.length .modeA = 64 := by decide
  have hpadded : Cipher.padded data .modeA = data ++ List.replicate 31 0xFF := by decide
  rw [hlength, hpadded] at hplain
  exact ⟨after, lines, hrun, hplain,
    htouched 0 ⟨4064, by decide, by decide, by decide⟩ (by decide)⟩

end Command

end CardReader
