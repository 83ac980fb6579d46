import CardReader.Chunks
import CardReader.Flash.Cipher
import CardReader.Flash.Controller.Config
import CardReader.Flash.PageWindows
import CardReader.Flash.Sequence

/-!
# Programming

Programming a payload of any length, and streaming a single page.  A payload is checked as a whole
first.  It is then transformed, cut into page windows and programmed window by window in chunks,
each with its own write enable; a padded last block follows as a transfer of its own.  A single
page can also go out under one command, with the write FIFO topped up as it drains.
-/

namespace CardReader.Flash

namespace Controller

variable {σ : Type} [Bus σ]

/-- The failure of a program in the window starting at `window`: a wait that ran out is a timeout
of the window, and data that found no room or no channel was refused there. -/
def programFailure (window : Nat) : Failure → Failure
  | .busyTimeout | .commandTimeout _ | .dmaTimeout => .programTimeout window
  | .fifoOverflow | .dmaChannelBusy => .programRefused window
  | other => other

/-- The program command for `len` bytes at an address. -/
def programCommand (config : ControllerConfig) (addr len : Nat) : Command :=
  (Command.program config.programMode.programOpcode addr len).withMode config.programMode

/-! ## Chunks -/

/-- Programs one chunk staged through the FIFO register. -/
def programChunk (config : ControllerConfig) (addr : Nat) (data : List UInt8) : Op σ Unit := do
  Sequence.writeEnable .single config.poll
  Op.update Bus.flushFifos
  Op.call (Bus.writeFifo · data)
  let _ ← Sequence.transact (programCommand config addr data.length) config.poll
  Sequence.waitReady config.poll

/-- Programs one chunk fed by DMA.  The channel is given back before the part is waited for. -/
def programChunkDma (config : ControllerConfig) (addr : Nat) (data : List UInt8) : Op σ Unit := do
  Sequence.writeEnable .single config.poll
  Sequence.withChannel config.dmaChannel do
    Op.update Bus.flushFifos
    Op.call (Bus.dmaStart · config.dmaChannel data)
    let _ ← Sequence.transact (programCommand config addr data.length) config.poll
    Sequence.waitIdle config.dmaChannel config.poll
  Sequence.waitReady config.poll

/-- Programs chunks one after another from an address on. -/
def programChunks (config : ControllerConfig) (useDma : Bool) : Nat → List (List UInt8) → Op σ Unit
  | _, [] => pure ()
  | addr, data :: rest => do
    if useDma then programChunkDma config addr data else programChunk config addr data
    programChunks config useDma (addr + data.length) rest

/-! ## Windows -/

/-- Programs a run of bytes inside one page in chunks of a given size; answers with the number of
transactions. -/
def programWindow (config : ControllerConfig) (useDma : Bool) (chunkSize addr : Nat)
    (data : List UInt8) : Op σ Nat := do
  let pieces := chunks chunkSize data
  Op.mapFailure (programFailure addr) (programChunks config useDma addr pieces)
  return pieces.length

/-- Programs the windows still to come, which `data` fills, and reports after each. -/
def programWindows (config : ControllerConfig) (useDma : Bool) (windows : PageWindows)
    (data : List UInt8) (stats : ProgramStats) : Op σ ProgramStats :=
  match _next : windows.next? with
  | none => pure stats
  | some (window, rest) => do
    let piece := data.take window.length
    let chunkSize := if useDma then dmaChunk else registerChunk
    let transfers ← programWindow config useDma chunkSize window.start piece
    let stats := { stats with
      windows := stats.windows + 1
      transfers := stats.transfers + transfers
      bytesProgrammed := stats.bytesProgrammed + piece.length }
    Op.report (.programmed stats.bytesProgrammed)
    programWindows config useDma rest (data.drop window.length) stats
termination_by windows.stop - windows.start
decreasing_by exact PageWindows.length_next?_lt _next

/-- Programs the padded last block, if there is one, and reports it. -/
def programTail (config : ControllerConfig) (useDma : Bool) (addr : Nat)
    (tail : Option (List UInt8)) (stats : ProgramStats) : Op σ ProgramStats :=
  match tail with
  | none => pure stats
  | some block => do
    let _ ← programWindow config useDma Cipher.blockSize addr block
    let stats := { stats with
      tailTransfers := 1
      bytesProgrammed := stats.bytesProgrammed + block.length }
    Op.report (.programmed stats.bytesProgrammed)
    return stats

/-! ## Payloads -/

/-- The checks that a payload has to pass before anything is sent.  With a transform the address
has to be that of a block, and the padding has to fit as well. -/
def checkProgram (base : Nat) (payload : List UInt8) (cipher : CipherMode) : Except Failure Unit := do
  checkRange base payload.length
  if cipher ≠ .none then
    if base % Cipher.blockSize ≠ 0 then throw .invalidAlignment
    checkRange base (Cipher.paddedLength payload.length cipher)

/-- Programs a payload at an address, by DMA or through the register.  A timeout names the window
that failed; everything before it is programmed. -/
def program (config : ControllerConfig) (base : Nat) (payload : List UInt8) (useDma : Bool)
    (cipher : CipherMode) : Op σ ProgramStats := do
  Op.check (checkProgram base payload cipher)
  let features ← Op.inspect Bus.features
  if useDma && !features.dma then Op.fail .dmaNotSupported
  Op.check (config.programMode.check features)
  let enciphered := Cipher.encipher payload cipher
  Op.report (.programming enciphered.programmedLength)
  let windows ← Op.check (PageWindows.ofRange base enciphered.body.length)
  let stats ← programWindows config useDma windows enciphered.body {}
  let stats ← programTail config useDma (base + enciphered.body.length) enciphered.tail stats
  Op.report (.complete stats)
  return stats

/-! ## Streaming one page -/

/-- Keeps the write FIFO filled until all of `data` is in it.  Once the FIFO has drained to half
its depth as much as fits is added; otherwise the wait goes on until the deadline.  A FIFO without
any depth can take nothing, and the wait for it has run out from the start. -/
def topUp (opcode : UInt8) (depth interval : Nat) (deadline : Deadline) (data : List UInt8)
    (rig : Rig σ) : Except Failure Unit × Rig σ :=
  match data, rig with
  | [], rig => (.ok (), rig)
  | byte :: more, ⟨bus, clock, progress⟩ =>
    let level := Bus.writeLevel clock bus
    if _drained : level ≤ depth / 2 then
      let count := min (depth - level) (byte :: more).length
      if _room : count = 0 then (.error (.commandTimeout opcode), ⟨bus, clock, progress⟩)
      else
        match Bus.writeFifo clock ((byte :: more).take count) bus with
        | (.error failure, bus) => (.error failure, ⟨bus, clock, progress⟩)
        | (.ok (), bus) =>
          topUp opcode depth interval deadline ((byte :: more).drop count) ⟨bus, clock, progress⟩
    else if _expired : deadline.expired clock then
      (.error (.commandTimeout opcode), ⟨bus, clock, progress⟩)
    else
      topUp opcode depth interval deadline (byte :: more) ⟨bus, clock.delay interval, progress⟩
termination_by data.length + deadline.remaining rig.clock
decreasing_by
  · simp only [count, List.length_drop, List.length_cons] at _room ⊢
    omega
  · exact Nat.add_lt_add_left (Deadline.remaining_delay_lt _ (Bool.eq_false_iff.2 _expired)) _

/-- Sends a page under one program command. -/
def streamPage (config : ControllerConfig) (addr : Nat) (payload : List UInt8) : Op σ Unit := do
  let features ← Op.inspect Bus.features
  Op.check (config.programMode.check features)
  Sequence.writeEnable .single config.poll
  let depth ← Op.inspect Bus.writeDepth
  Op.update Bus.flushFifos
  let first := min payload.length depth
  Op.call (Bus.writeFifo · (payload.take first))
  let command := programCommand config addr payload.length
  Op.call (Bus.issue · command)
  let clock ← Op.clock
  let deadline := Deadline.after clock config.poll.timeout
  topUp command.opcode depth config.poll.interval deadline (payload.drop first)
  let _ ← Sequence.waitDone command.opcode config.poll
  Sequence.waitReady config.poll

/-- Programs at most one page in a single transaction, which needs no DMA.  The payload has to
stay inside one page. -/
def programOnePage (config : ControllerConfig) (addr : Nat) (payload : List UInt8) : Op σ Unit := do
  Op.check (checkRange addr payload.length)
  if addr % pageSize + payload.length > pageSize then Op.fail .invalidAlignment
  if payload.isEmpty then return ()
  Op.mapFailure (programFailure addr) (streamPage config addr payload)

end Controller

end CardReader.Flash
