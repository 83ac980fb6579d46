import CardReader.Part.Bus
import CardReader.Proofs.Part.Cells

/-!
# What no call changes

The settings of a part, the size of its array and the DMA channel that is claimed stay as they are
in every call, whatever the part is doing; only the claim and the release of a channel change the
last of the three.

What is proved here:

* `shape_execute` — no command changes the shape of a part, whether it is carried out or not;
* `shape_issue`, `shape_queue`, `shape_take`, `shape_pollDone` and `shape_dmaStart` — nor does a
  call, whether it answers or fails.
-/

namespace CardReader

open Flash

namespace Part

/-- What a part keeps in every call but the claim and the release of a channel. -/
structure Shape where
  /-- The behaviour of the part. -/
  config : Config
  /-- Bytes in the array. -/
  size : Nat
  /-- The claimed channel. -/
  claim : Option Nat

/-- The shape of a part. -/
def shape (part : Part) : Shape := ⟨part.config, part.cells.size, part.dma.map DmaClaim.channel⟩

/-! ## Commands -/

theorem shape_pull (expected : Nat) (data : List UInt8) (part : Part) :
    (pull expected data part).2.shape = part.shape := by
  unfold pull
  cases hdma : part.dma with
  | none =>
    simp [shape, hdma]
  | some claim =>
    simp [shape, hdma]

theorem shape_program (clock : Clock) (addr : Nat) (data : List UInt8) (part : Part) :
    (program clock addr data part).shape = part.shape := by
  unfold program
  split
  · simp [shape, workFor, size_clearPage]
  · rfl

theorem shape_erase (clock : Clock) (addr len time : Nat) (part : Part) :
    (erase clock addr len time part).shape = part.shape := by
  unfold erase
  split
  · simp [shape, workFor, Cells.size_erase]
  · rfl

theorem shape_writeStatus (clock : Clock) (command : Command) (register : StatusRegister)
    (part : Part) : (writeStatus clock command register part).shape = part.shape := by
  unfold writeStatus
  split
  · cases register <;> rfl
  · rfl

theorem shape_startProgram (clock : Clock) (command : Command) (part : Part) :
    (startProgram clock command part).2.shape = part.shape := by
  have hpull := shape_pull command.dataLength [] part
  unfold startProgram
  split
  · split
    rename_i data fed hfed
    rw [hfed] at hpull
    split
    · exact hpull
    · exact (shape_program clock command.address data fed).trans hpull
  · rfl

theorem shape_feed (clock : Clock) (part : Part) : (feed clock part).shape = part.shape := by
  unfold feed
  split
  · rename_i addr expected data _
    have hpull := shape_pull expected data part
    split
    rename_i fed hfed
    rw [hfed] at hpull
    split
    · exact hpull
    · exact (shape_program clock addr _ _).trans hpull
  · rfl

theorem shape_ignore (command : Command) (part : Part) :
    (ignore command part).2.shape = part.shape := by
  have hfloat : (float command part).2.shape = part.shape := by
    unfold float
    split <;> rfl
  exact hfloat

theorem shape_perform (clock : Clock) (command : Command) (armed : Bool) (part : Part) :
    (perform clock command armed part).2.shape = part.shape := by
  unfold perform
  cases command.instruction with
  | writeStatus register => exact shape_writeStatus _ _ _ _
  | read =>
    have hfetch : (fetch command part).2.shape = part.shape := by
      unfold fetch
      split <;> rfl
    cases hrun : fetch command part with
    | mk outcome fetched =>
      rw [hrun] at hfetch
      cases outcome <;> exact hfetch
  | program => exact shape_startProgram _ _ _
  | erase unit => cases unit <;> exact shape_erase _ _ _ _ _
  | reset => cases armed <;> rfl
  | _ => rfl

theorem shape_execute (clock : Clock) (command : Command) (part : Part) :
    (execute clock command part).2.shape = part.shape := by
  unfold execute
  split
  · split
    · rfl
    · exact shape_ignore _ _
  split
  · split
    · rfl
    · exact shape_ignore _ _
  · simp only
    split
    · exact shape_ignore _ _
    · exact shape_perform _ _ _ _

/-! ## Calls -/

theorem shape_issue (clock : Clock) (command : Command) (part : Part) :
    (issue clock command part).2.shape = part.shape := by
  unfold issue
  simp only
  split
  · rfl
  · have hexecute := shape_execute clock command
      { part with log := part.log.push command, transaction := none }
    split
    all_goals
      rename_i heq
      rw [heq] at hexecute
      exact hexecute

theorem shape_queue (clock : Clock) (data : List UInt8) (part : Part) :
    (queue clock data part).2.shape = part.shape := by
  unfold queue
  split
  · rfl
  · exact shape_feed _ _

theorem shape_take (count : Nat) (part : Part) : (take count part).2.shape = part.shape := by
  rw [take]
  split <;> rfl

theorem shape_pollDone (clock : Clock) (part : Part) :
    (pollDone clock part).2.shape = part.shape := by
  have hfeed := shape_feed clock part
  unfold pollDone
  split
  · rfl
  · simp only
    split <;> exact hfeed

theorem shape_dmaStart (clock : Clock) (channel : Nat) (block : List UInt8) (part : Part) :
    (dmaStart clock channel block part).2.shape = part.shape := by
  unfold dmaStart
  cases hdma : part.dma with
  | none => rfl
  | some claim =>
    simp only
    split
    · rw [shape_feed]
      simp [shape, hdma]
    · rfl

end Part

end CardReader
