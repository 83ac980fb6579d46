import CardReader.Proofs.Part.Commands

/-!
# The books of a part

Which commands were issued to a part, and what its status registers store.  A command that is
issued is one more in the log, whether the part hears it or not.  Apart from that, only a status
write and a reset can touch the books.  Data, by whichever way it comes, touches even less: what
decides whether the part hears a reset is left alone as well, save for its work.

What is proved here:

* `frame_feed` — data leaves the frame of a part alone, and `frame_queue`, `frame_pollDone` and
  their companions — so does every call that is not a command;
* `frame_perform` — so does a command that is carried out, unless its instruction is one of four;
* `books_issue` — the books after a command that neither writes a status register nor resets the
  part;
* `Traffic` — how often an opcode has been issued between two moments, while the status registers
  were left alone.
-/

namespace CardReader

open Flash

namespace Part

/-- The commands issued to a part, and what its status registers store. -/
structure Books where
  /-- Every command issued so far, oldest first. -/
  log : Array Command
  /-- What the status registers store. -/
  stored : StatusRegister → UInt8

/-- The books of a part. -/
def books (part : Part) : Books := ⟨part.log, part.stored⟩

/-- What data leaves alone, whichever way it comes. -/
structure Frame where
  /-- The books of the part. -/
  books : Books
  /-- The next command may be a reset. -/
  armed : Bool
  /-- The part is in deep power down. -/
  asleep : Bool
  /-- The part is recovering before this instant. -/
  deafUntil : Nat

/-- What data leaves alone of a part. -/
def frame (part : Part) : Frame :=
  ⟨part.books, part.resetArmed, part.poweredDown, part.deafUntil⟩

variable {clock : Clock} {part before after : Part} {command : Command} {opcode : UInt8}

/-! ## Data -/

theorem frame_pull (expected : Nat) (data : List UInt8) (part : Part) :
    (pull expected data part).2.frame = part.frame := by
  rw [pull]
  cases part.dma with
  | none => rfl
  | some claim => rfl

theorem frame_program (clock : Clock) (addr : Nat) (data : List UInt8) (part : Part) :
    (program clock addr data part).frame = part.frame := by
  rw [program]
  split <;> rfl

theorem frame_startProgram (clock : Clock) (command : Command) (part : Part) :
    (startProgram clock command part).2.frame = part.frame := by
  have hpull := frame_pull command.dataLength [] part
  unfold startProgram
  split
  · dsimp only
    split
    · exact hpull
    · exact (frame_program _ _ _ _).trans hpull
  · rfl

theorem frame_feed (clock : Clock) (part : Part) : (feed clock part).frame = part.frame := by
  unfold feed
  split
  · rename_i addr expected data _
    have hpull := frame_pull expected data part
    dsimp only
    split
    · exact hpull
    · exact (frame_program clock addr _ _).trans hpull
  · rfl

/-! ## Commands -/

/-- The instruction can change what the status registers store. -/
def writesStatus : Instruction → Bool
  | .writeStatus _ | .reset => true
  | _ => false

theorem frame_erase (clock : Clock) (addr len time : Nat) (part : Part) :
    (erase clock addr len time part).frame = part.frame := by
  rw [erase]
  split <;> rfl

theorem frame_fetch (command : Command) (part : Part) :
    (fetch command part).2.frame = part.frame := by
  rw [fetch]
  split <;> rfl

theorem frame_ignore (command : Command) (part : Part) :
    (ignore command part).2.frame = part.frame := by
  rw [ignore, float]
  dsimp only
  split <;> rfl

/-- Of the frame a status write touches the books alone. -/
theorem frame_writeStatus (clock : Clock) (command : Command) (register : StatusRegister)
    (part : Part) :
    (writeStatus clock command register part).frame =
      { part.frame with books := (writeStatus clock command register part).books } := by
  rw [writeStatus]
  split
  · cases register <;> rfl
  · rfl

/-- The instruction can change the frame of the part that carries it out. -/
def touchesFrame : Instruction → Bool
  | .writeStatus _ | .reset | .resetEnable | .deepPowerDown => true
  | _ => false

theorem frame_perform (hframe : touchesFrame command.instruction = false) (armed : Bool)
    (part : Part) : (perform clock command armed part).2.frame = part.frame := by
  unfold perform
  cases hinstruction : command.instruction with
  | writeStatus | reset | resetEnable | deepPowerDown =>
    rw [hinstruction] at hframe
    cases hframe
  | read =>
    have hfetch := frame_fetch command part
    dsimp only
    split
    all_goals
      rename_i hrun
      rw [hrun] at hfetch
      exact hfetch
  | program => exact frame_startProgram _ _ _
  | erase unit => cases unit <;> exact frame_erase _ _ _ _ _
  | _ => rfl

theorem books_perform (hstatus : writesStatus command.instruction = false) (armed : Bool)
    (part : Part) : (perform clock command armed part).2.books = part.books := by
  cases hinstruction : command.instruction with
  | writeStatus | reset =>
    rw [hinstruction] at hstatus
    cases hstatus
  | resetEnable | deepPowerDown =>
    rw [perform, hinstruction]
    rfl
  | _ => exact congrArg Frame.books (frame_perform (by rw [hinstruction]; rfl) armed part)

theorem books_execute (clock : Clock) (hstatus : writesStatus command.instruction = false)
    (part : Part) :
    (execute clock command part).2.books = part.books := by
  unfold execute
  split
  · split
    · rfl
    · exact congrArg Frame.books (frame_ignore _ _)
  split
  · split
    · rfl
    · exact congrArg Frame.books (frame_ignore _ _)
  · dsimp only
    split
    · exact congrArg Frame.books (frame_ignore _ _)
    · exact books_perform hstatus _ _

/-! ## Calls -/

/-- A command is one more in the log, whatever becomes of it. -/
theorem books_issue (clock : Clock) (hstatus : writesStatus command.instruction = false)
    (part : Part) :
    (issue clock command part).2.books = ⟨part.log.push command, part.stored⟩ := by
  unfold issue
  dsimp only
  split
  · rfl
  · have hexecute := books_execute clock hstatus
      { part with log := part.log.push command, transaction := none }
    split
    all_goals
      rename_i hrun
      rw [hrun] at hexecute
      exact hexecute

theorem frame_take (count : Nat) (part : Part) : (take count part).2.frame = part.frame := by
  rw [take]
  split <;> rfl

theorem frame_queue (clock : Clock) (data : List UInt8) (part : Part) :
    (queue clock data part).2.frame = part.frame := by
  rw [queue]
  split
  · rfl
  · exact frame_feed _ _

theorem frame_pollDone (clock : Clock) (part : Part) :
    (pollDone clock part).2.frame = part.frame := by
  have hfeed := frame_feed clock part
  rw [pollDone]
  split
  · rfl
  · dsimp only
    split <;> exact hfeed

theorem frame_dmaAcquire (channel : Nat) (part : Part) :
    (dmaAcquire channel part).2.frame = part.frame := by
  rw [dmaAcquire]
  split
  · rfl
  · split <;> rfl

theorem frame_dmaStart (clock : Clock) (channel : Nat) (block : List UInt8) (part : Part) :
    (dmaStart clock channel block part).2.frame = part.frame := by
  rw [dmaStart]
  split
  · split
    · exact frame_feed _ _
    · rfl
  · rfl

theorem frame_dmaRelease (channel : Nat) (part : Part) :
    (dmaRelease channel part).frame = part.frame := by
  rw [dmaRelease]
  split
  · split <;> rfl
  · rfl

/-! ## Traffic -/

theorem count_push (part : Part) (command : Command) (opcode : UInt8) :
    ({ part with log := part.log.push command } : Part).count opcode =
      part.count opcode + if command.opcode = opcode then 1 else 0 := by
  rw [count, Array.foldl_push, count]
  split <;> rfl

/-- The opcode has been issued `count` times, and the status registers were left alone. -/
structure Traffic (opcode : UInt8) (count : Nat) (before after : Part) : Prop where
  count_eq : after.count opcode = before.count opcode + count
  stored_eq : after.stored = before.stored

theorem Traffic.of_frame (h : after.frame = before.frame) : Traffic opcode 0 before after := by
  obtain ⟨hlog, hstored⟩ := Books.mk.inj (Frame.mk.inj h).1
  exact ⟨by rw [count, hlog]; rfl, hstored⟩

theorem Traffic.trans {a b c : Part} {m n : Nat} (hab : Traffic opcode m a b)
    (hbc : Traffic opcode n b c) : Traffic opcode (m + n) a c :=
  ⟨by rw [hbc.count_eq, hab.count_eq, Nat.add_assoc], hbc.stored_eq.trans hab.stored_eq⟩

/-- A command counts under its own opcode and under no other. -/
theorem traffic_issue (hstatus : writesStatus command.instruction = false) (opcode : UInt8)
    (part : Part) :
    Traffic opcode (if command.opcode = opcode then 1 else 0) part
      (issue clock command part).2 := by
  obtain ⟨hlog, hstored⟩ := Books.mk.inj (books_issue clock hstatus part)
  refine ⟨?_, hstored⟩
  rw [← count_push, count, hlog]
  rfl

end Part

end CardReader
