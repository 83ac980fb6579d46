import CardReader.Command.Transfer
import CardReader.Proofs.Transactions

/-!
# Reads of the array

A read goes through its range from the start to the end with one command after another.  Each of
them empties the FIFOs first, so whatever an earlier transaction has left there is not taken for
data.  A part that is listening carries all of them out in no time, and nothing about it has changed
afterwards but the records of the controller.

What is proved here:

* `ends_readPiece` and `ends_readPieces` — one command, and a range in commands of a given size;
* `ends_read` and `ends_readRange` — a range in one call, and in one call for each block;
* `read_returns_cells` — the answer and the commands of both.
-/

namespace CardReader

open Flash

namespace Flash.Controller

/-! ## Commands that read a range -/

/-- The command reads from an address on in a given mode, no more than the FIFO holds. -/
structure ReadsFrom (mode : BusMode) (depth addr : Nat) (command : Command) : Prop where
  instruction_eq : command.instruction = .read
  opcode_eq : command.opcode = mode.readOpcode
  mode_eq : command.mode = mode
  dummyCycles_eq : command.dummyCycles = mode.readDummyCycles
  address_eq : command.address = addr
  pos : 0 < command.dataLength
  le_depth : command.dataLength ≤ depth

/-- The commands read from `start` to `stop` in a given mode, each from where the one before it has
come to. -/
inductive ReadsThrough (mode : BusMode) (depth : Nat) : Nat → Nat → List Command → Prop
  | nil (addr : Nat) : ReadsThrough mode depth addr addr []
  | cons {start stop : Nat} {command : Command} {rest : List Command} :
      ReadsFrom mode depth start command →
      ReadsThrough mode depth (start + command.dataLength) stop rest →
      ReadsThrough mode depth start stop (command :: rest)

theorem ReadsThrough.append {mode : BusMode} {depth start mid stop : Nat}
    {first rest : List Command} (hfirst : ReadsThrough mode depth start mid first)
    (hrest : ReadsThrough mode depth mid stop rest) :
    ReadsThrough mode depth start stop (first ++ rest) := by
  induction hfirst with
  | nil => exact hrest
  | cons hcommand _ ih => exact .cons hcommand (ih hrest)

theorem readsFrom_readCommand {settings : ControllerConfig} {depth addr len : Nat}
    (haddr : addr < addressSpace) (hpos : 0 < len) (hdepth : len ≤ depth) :
    ReadsFrom settings.readMode depth addr (readCommand settings addr len) where
  instruction_eq := Part.instruction_read _ _ _ _
  opcode_eq := rfl
  mode_eq := rfl
  dummyCycles_eq := rfl
  address_eq := Nat.mod_eq_of_lt haddr
  pos := hpos
  le_depth := hdepth

/-- One piece is taken off a range, and the rest is a smaller number of pieces. -/
theorem pieces_succ {size len : Nat} (hpos : 0 < size) (hmore : 0 < len) :
    (len + (size - 1)) / size = 1 + (len - min size len + (size - 1)) / size := by
  rcases Nat.le_total len size with hlast | hlarge
  · have hnone : (0 + (size - 1)) / size = 0 := Nat.div_eq_of_lt (by omega)
    rw [Nat.min_eq_right hlast, Nat.sub_self, hnone]
    exact Nat.div_eq_of_lt_le (by omega) (by omega)
  · rw [Nat.min_eq_left hlarge, show len + (size - 1) = len - size + (size - 1) + size by omega,
      Nat.add_div_right _ hpos, Nat.add_comm]

end Flash.Controller

/-! ## Scans -/

/-- The range from `start` to `stop` has been read with `count` commands.  No time has passed, and
the part is as it was. -/
structure Scanned (mode : BusMode) (start stop count : Nat) (rig r : Rig Part) : Prop where
  clock_eq : r.clock = rig.clock
  answered : ∃ commands, Part.Answered commands rig.bus r.bus ∧
    Controller.ReadsThrough mode rig.bus.config.readDepth start stop commands ∧
    commands.length = count

namespace Scanned

variable {mode : BusMode} {start mid stop count more : Nat} {rig r last : Rig Part}

theorem refl (mode : BusMode) (addr : Nat) (rig : Rig Part) : Scanned mode addr addr 0 rig rig :=
  ⟨rfl, [], .refl _, .nil addr, rfl⟩

theorem trans (h : Scanned mode start mid count rig r) (hmore : Scanned mode mid stop more r last) :
    Scanned mode start stop (count + more) rig last := by
  obtain ⟨hclock, first, hanswered, hthrough, rfl⟩ := h
  obtain ⟨hclock', rest, hanswered', hthrough', rfl⟩ := hmore
  rw [hanswered.steady.config_eq] at hthrough'
  exact ⟨hclock'.trans hclock, first ++ rest, hanswered.trans hanswered', hthrough.append hthrough',
    List.length_append⟩

theorem cells_eq (h : Scanned mode start stop count rig r) : r.bus.cells = rig.bus.cells := by
  obtain ⟨-, _, hanswered, -⟩ := h
  exact hanswered.cells_eq

theorem config_eq (h : Scanned mode start stop count rig r) : r.bus.config = rig.bus.config := by
  obtain ⟨-, _, hanswered, -⟩ := h
  exact hanswered.steady.config_eq

end Scanned

namespace Flash.Controller

variable {settings : ControllerConfig} {size : Nat} {rig r : Rig Part}

/-- The part is listening, the controller responds and can drive the mode, and the FIFO holds pieces
of `size` bytes. -/
structure Readable (settings : ControllerConfig) (size : Nat) (rig : Rig Part) : Prop where
  listening : Part.Listening rig.clock rig.bus
  responsive : rig.bus.faults.unresponsive = false
  drives : settings.readMode.check rig.bus.features = .ok ()
  pos : 0 < size
  holds : size ≤ rig.bus.config.readDepth

/-- A part that has been read can be read again. -/
theorem Readable.scanned {mode : BusMode} {start stop count : Nat} (h : Readable settings size rig)
    (hscanned : Scanned mode start stop count rig r) : Readable settings size r := by
  obtain ⟨hclock, commands, hanswered, -⟩ := hscanned
  obtain ⟨hlisten, hresponse, hdrives, hpos, hholds⟩ := h
  refine ⟨?_, ?_, ?_, hpos, ?_⟩
  · rw [hclock]
    exact hanswered.listening.2 hlisten
  · rw [hanswered.steady.faults_eq, hresponse]
  · rw [hanswered.steady.features_eq, hdrives]
  · rw [hanswered.steady.config_eq]
    exact hholds

/-! ## Pieces -/

/-- A piece that the FIFO has room for is read with one command, whatever the FIFOs held before. -/
theorem ends_readPiece {addr len : Nat} (h : Readable settings size rig) (hpos : 0 < len)
    (hlen : len ≤ size) (haddr : addr < addressSpace) :
    Op.Ends (readPiece settings addr len) rig
      (fun piece r => piece.toList = rig.bus.cells.slice addr len ∧
        Scanned settings.readMode addr (addr + len) 1 rig r) fun _ _ => False := by
  let flushed : Rig Part := { rig with bus := Bus.flushFifos rig.bus }
  have hdepth : len ≤ rig.bus.config.readDepth := Nat.le_trans hlen h.holds
  have hlisten : Part.Listening rig.clock flushed.bus :=
    ⟨h.listening.awake, h.listening.alert, h.listening.idle⟩
  have hissue := Part.issue_read addr
    (show settings.readMode.check flushed.bus.features = .ok () from h.drives) hlisten hdepth
  rw [readPiece, Op.ends_bind, Op.ends_update, Op.ends_bind]
  refine (ends_transact_at_once settings.poll hissue rfl h.responsive).imp ?_
  rintro done r ⟨-, hbus, hclock⟩
  obtain ⟨taken, htaken, htake⟩ :=
    Part.take_of_length (Part.Cells.length_slice _ _ _) (congrArg Part.readFifo hbus)
  have hcall : Bus.readFifo r.clock len r.bus = (.ok taken, { r.bus with readFifo := [] }) :=
    htake
  rw [Op.ends_mapFailure, Op.ends_call, hcall]
  refine ⟨fun piece hpiece => ?_, fun failure hfailure => ?_⟩
  · cases hpiece
    refine ⟨?_, hclock, [readCommand settings addr len], ?_, ?_, rfl⟩
    · rw [htaken, maskAddress, Nat.mod_eq_of_lt haddr]
      rfl
    · rw [hbus]
      exact ⟨_, _, _, _, rfl⟩
    · exact .cons (readsFrom_readCommand haddr hpos hdepth) (.nil _)
  · cases hfailure

/-- Bytes that have been read, in reverse order, and those after them. -/
theorem reverse_reverseAux_slice (cells : Part.Cells) (addr : Nat) {count len : Nat}
    (hcount : count ≤ len) (done : List UInt8) :
    ((cells.slice addr count).reverseAux done).reverse ++ cells.slice (addr + count) (len - count) =
      done.reverse ++ cells.slice addr len := by
  rw [List.reverseAux_eq, List.reverse_append, List.reverse_reverse, List.append_assoc,
    ← Part.Cells.slice_add, Nat.add_sub_cancel' hcount]

/-- A range is read with as many commands as it has pieces, and each of them brings its bytes. -/
theorem ends_readPieces (size addr len : Nat) (done : List UInt8) :
    addr + len ≤ addressSpace → ∀ rig, Readable settings size rig →
      Op.Ends (readPieces settings size addr len done) rig
        (fun bytes r => bytes = done.reverse ++ rig.bus.cells.slice addr len ∧
          Scanned settings.readMode addr (addr + len) ((len + (size - 1)) / size) rig r)
        fun _ _ => False := by
  fun_induction readPieces (σ := Part) settings size addr len done with
  | case1 addr len done hdone =>
    intro _ rig h
    have hpos := h.pos
    obtain rfl : len = 0 := hdone.resolve_right (by omega)
    rw [Nat.div_eq_of_lt (by omega)]
    exact ⟨(List.append_nil _).symm, .refl _ _ _⟩
  | case2 addr len done hmore count ih =>
    intro hfit rig h
    have hpos := h.pos
    have hcount : count = min size len := rfl
    refine (ends_readPiece h (by omega) (Nat.min_le_left _ _) (by omega)).bind ?_
    rintro piece r ⟨hpiece, hscanned⟩
    refine (ih piece (by omega) r (h.scanned hscanned)).imp ?_
    rintro bytes last ⟨hbytes, hrest⟩
    rw [hscanned.cells_eq, hpiece, reverse_reverseAux_slice _ _ (Nat.min_le_right _ _)] at hbytes
    rw [show addr + count + (len - count) = addr + len by omega] at hrest
    rw [pieces_succ hpos (by omega)]
    exact ⟨hbytes, hscanned.trans hrest⟩

/-! ## Ranges -/

/-- Bytes that one command reads. -/
def pieceSize (part : Part) : Nat := max (min readChunk part.config.readDepth) 1

/-- A range inside the address space is read in one call. -/
theorem ends_read {addr len : Nat} (h : Readable settings (pieceSize rig.bus) rig)
    (hrange : checkRange addr len = .ok ()) :
    Op.Ends (read settings addr len) rig
      (fun bytes r => bytes = rig.bus.cells.slice addr len ∧
        Scanned settings.readMode addr (addr + len)
          ((len + (pieceSize rig.bus - 1)) / pieceSize rig.bus) rig r) fun _ _ => False := by
  have hdrives : settings.readMode.check (Bus.features rig.bus) = .ok () := h.drives
  rw [read, hrange, Op.ends_bind, Op.ends_check_ok, Op.ends_bind, Op.ends_inspect, hdrives,
    Op.ends_bind, Op.ends_check_ok, Op.ends_bind, Op.ends_inspect]
  exact ends_readPieces _ addr len [] (checkRange_eq_ok_iff.1 hrange).2 rig h

end Flash.Controller

namespace Command

open Flash.Controller

variable {settings : ControllerConfig} {rig : Rig Part}

theorem ends_readBlocks (addr len : Nat) (done : List UInt8) :
    addr + len ≤ addressSpace → ∀ rig : Rig Part, Readable settings (pieceSize rig.bus) rig →
      Op.Ends (readBlocks settings addr len done) rig
        (fun bytes r => bytes = done.reverse ++ rig.bus.cells.slice addr len ∧
          ∃ count, Scanned settings.readMode addr (addr + len) count rig r) fun _ _ => False := by
  fun_induction readBlocks (σ := Part) settings addr len done with
  | case1 addr done =>
    intro _ rig _
    exact ⟨(List.append_nil _).symm, 0, .refl _ _ _⟩
  | case2 addr len done hmore count ih =>
    intro hfit rig h
    have hcount : count ≤ len := Nat.min_le_right _ _
    refine (ends_read h (checkRange_eq_ok_iff.2 (by omega))).bind ?_
    rintro block r ⟨rfl, hscanned⟩
    have hpiece : pieceSize r.bus = pieceSize rig.bus := by
      rw [pieceSize, hscanned.config_eq, pieceSize]
    refine (ih _ (by omega) r (hpiece ▸ h.scanned hscanned)).imp ?_
    rintro bytes last ⟨hbytes, rest, hrest⟩
    rw [hscanned.cells_eq, reverse_reverseAux_slice _ _ hcount] at hbytes
    rw [show addr + count + (len - count) = addr + len by omega] at hrest
    exact ⟨hbytes, _, hscanned.trans hrest⟩

/-- A range inside the address space is read block by block. -/
theorem ends_readRange {addr len : Nat} (h : Readable settings (pieceSize rig.bus) rig)
    (hrange : checkRange addr len = .ok ()) :
    Op.Ends (readRange settings addr len) rig
      (fun bytes r => bytes = rig.bus.cells.slice addr len ∧
        ∃ count, Scanned settings.readMode addr (addr + len) count rig r) fun _ _ => False := by
  rw [readRange, hrange, Op.ends_bind, Op.ends_check_ok]
  exact ends_readBlocks addr len [] (checkRange_eq_ok_iff.1 hrange).2 rig h

end Command

/-- A read of a listening part without faults answers with the bytes of its range, which goes round
to the start of the array at its end.  It takes no time and one command for each piece, and leaves
everything but the records of the controller as it is.  A read that is split into blocks answers
with the same bytes, and leaves as much as it is. -/
theorem read_returns_cells {settings : ControllerConfig} {rig : Rig Part} {addr len : Nat}
    (hlisten : Part.Listening rig.clock rig.bus) (hfaults : rig.bus.faults = {})
    (hdepth : 1 ≤ rig.bus.config.readDepth)
    (hmode : settings.readMode.check rig.bus.features = .ok ()) (haddr : addr < addressSpace)
    (hfit : addr + len ≤ addressSpace) :
    ∃ whole split count, Controller.read settings addr len rig =
        (.ok ((List.range len).map fun i =>
          rig.bus.cells.cell ((addr + i) % rig.bus.cells.size)), whole) ∧
      Scanned settings.readMode addr (addr + len)
        ((len + (min Controller.readChunk rig.bus.config.readDepth - 1)) /
          min Controller.readChunk rig.bus.config.readDepth) rig whole ∧
      Command.readRange settings addr len rig = ((Controller.read settings addr len rig).1, split) ∧
      Scanned settings.readMode addr (addr + len) count rig split := by
  have hchunk : 0 < Controller.readChunk := by decide
  have hsize : Controller.pieceSize rig.bus = min Controller.readChunk rig.bus.config.readDepth :=
    Nat.max_eq_left (by omega)
  have hreadable : Controller.Readable settings (Controller.pieceSize rig.bus) rig :=
    ⟨hlisten, by rw [hfaults], hmode, Nat.le_max_right _ _, by omega⟩
  have hrange : checkRange addr len = .ok () := checkRange_eq_ok_iff.2 ⟨haddr, hfit⟩
  rw [← hsize]
  obtain ⟨_, whole, hwhole, rfl, hscanned⟩ := (Controller.ends_read hreadable hrange).exists_ok
  obtain ⟨_, split, hsplit, rfl, count, hscanned'⟩ :=
    (Command.ends_readRange hreadable hrange).exists_ok
  refine ⟨whole, split, count, hwhole, hscanned, ?_, hscanned'⟩
  rw [hsplit, hwhole]

/-- The end of the address space is read from an array of four bytes, with a FIFO of four bytes in
which two have been left and while a program waits for its data. -/
theorem read_returns_cells_at_end :
    let rig : Rig Part :=
      { bus :=
          { config := { size := 4, readDepth := 4 }, cells := ⟨⟨#[10, 11, 12, 13]⟩⟩
            writeEnabled := true, readFifo := [1, 2], transaction := some (.streaming 0 2 []) }
        clock := .start }
    Part.Listening rig.clock rig.bus ∧
      (∃ whole, Controller.read {} 0xFFFFFA 6 rig = (.ok [12, 13, 10, 11, 12, 13], whole) ∧
        Scanned .single 0xFFFFFA 0x1000000 2 rig whole) ∧
      ∃ split, Command.readRange {} 0xFFFFFA 6 rig = (.ok [12, 13, 10, 11, 12, 13], split) := by
  intro rig
  have hlisten : Part.Listening rig.clock rig.bus := by decide
  have hbytes : ((List.range 6).map fun i =>
      rig.bus.cells.cell ((0xFFFFFA + i) % rig.bus.cells.size)) = [12, 13, 10, 11, 12, 13] := by
    decide
  have hcount : (6 + (min Controller.readChunk rig.bus.config.readDepth - 1)) /
      min Controller.readChunk rig.bus.config.readDepth = 2 := by decide
  obtain ⟨whole, split, _, hread, hscanned, hsplit, -⟩ :=
    read_returns_cells (show Part.Listening rig.clock rig.bus from hlisten) rfl (by decide)
      (show ({} : ControllerConfig).readMode.check rig.bus.features = .ok () from rfl)
      (show 0xFFFFFA < addressSpace by decide) (show 0xFFFFFA + 6 ≤ addressSpace by decide)
  rw [hread, hbytes] at hsplit
  rw [hbytes] at hread
  rw [hcount] at hscanned
  exact ⟨hlisten, ⟨whole, hread, hscanned⟩, split, hsplit⟩

end CardReader
