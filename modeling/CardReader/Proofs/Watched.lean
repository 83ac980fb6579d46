import CardReader.Proofs.View

/-!
# A part that is watched

A bus that notes of every command whether the part behind it was listening when the command came
and whether it let the command pass by, and otherwise makes each call of the part.  The part is a
view of it, so watching a part changes no operation.

What is proved here:

* `execute_of_ignores` — which commands a part lets pass by;
* the instances that make a watched part a bus with the part behind it, and the part a view of it;
* `attentive_issue` — a part that has let nothing pass by and was listening to everything but reads
  of its status stays so if it hears the next command as well.
-/

namespace CardReader

open Flash

/-- Whether the part lets the command pass by. -/
def Part.ignores (clock : Clock) (command : Command) (part : Part) : Bool :=
  if part.poweredDown then command.instruction != .releasePowerDown
  else if part.deaf clock then command.instruction != .readStatus .one
  else part.busy clock && !answersWhileBusy command.instruction

/-- The lines float for every command that the part lets pass by. -/
theorem Part.execute_of_ignores {clock : Clock} {command : Command} {part : Part}
    (h : part.ignores clock command = true) :
    ∃ resetArmed, execute clock command part = ignore command { part with resetArmed } := by
  rw [ignores] at h
  rw [execute]
  by_cases hpower : part.poweredDown = true
  · rw [if_pos hpower, bne_iff_ne] at h
    rw [if_pos hpower, if_neg h]
    exact ⟨part.resetArmed, rfl⟩
  rw [if_neg hpower] at h ⊢
  by_cases hdeaf : part.deaf clock = true
  · rw [if_pos hdeaf, bne_iff_ne] at h
    rw [if_pos hdeaf, if_neg h]
    exact ⟨part.resetArmed, rfl⟩
  · rw [if_neg hdeaf] at h ⊢
    exact ⟨false, if_pos h⟩

/-- A command on its way to the part. -/
structure Sighting where
  /-- The command. -/
  command : Command
  /-- Whether the part was listening when the command came. -/
  listening : Bool
  /-- Whether the part let the command pass by. -/
  ignored : Bool

/-- A part, and all commands that have come to it. -/
structure Watched where
  /-- The part. -/
  part : Part
  /-- The commands, oldest first. -/
  sightings : List Sighting := []

namespace Watched

/-- Makes a call of the part. -/
def lift {α : Type} (call : Part → Except Failure α × Part) (watched : Watched) :
    Except Failure α × Watched :=
  ((call watched.part).1, { watched with part := (call watched.part).2 })

/-- A call of a watched part is a call of the part. -/
theorem eq_of_lift {α : Type} {call : Part → Except Failure α × Part} {watched after : Watched}
    {outcome : Except Failure α} (h : lift call watched = (outcome, after)) :
    call watched.part = (outcome, after.part) := by
  obtain ⟨houtcome, hafter⟩ := Prod.mk.inj h
  rw [← houtcome, ← hafter]

/-- Notes a command and lets the part have it. -/
def issue (clock : Clock) (command : Command) (watched : Watched) :
    Except Failure Unit × Watched :=
  lift (Part.issue clock command)
    { watched with sightings :=
        watched.sightings ++ [⟨command, decide (Part.Listening clock watched.part),
          watched.part.ignores clock command⟩] }

instance : Bus Watched where
  features watched := watched.part.features
  readDepth watched := watched.part.config.readDepth
  writeDepth watched := watched.part.config.writeDepth
  writeLevel _ watched := watched.part.writeFifo.length
  setDeviceParams value watched :=
    { watched with part := Bus.setDeviceParams value watched.part }
  flushFifos watched := { watched with part := Bus.flushFifos watched.part }
  writeFifo clock data := lift (Part.queue clock data)
  readFifo _ count := lift (Part.take count)
  issue := issue
  pollDone clock := lift (Part.pollDone clock)
  dmaAcquire _ channel := lift (Part.dmaAcquire channel)
  dmaStart clock channel block := lift (Part.dmaStart clock channel block)
  dmaIdle _ channel watched := watched.part.dmaIdle channel
  dmaRelease channel watched := { watched with part := watched.part.dmaRelease channel }

/-- No call of a watched part goes astray. -/
instance : Carrier Watched where
  part := Watched.part
  strays _ _ := False
  features_eq _ := rfl
  writeDepth_eq _ := rfl
  writeLevel_eq _ _ := rfl
  part_flush _ := rfl
  strays_flush _ := rfl
  part_params _ _ := rfl
  strays_params _ _ := rfl
  relays_queue _ _ _ := ⟨rfl, .inl ⟨rfl, rfl⟩⟩
  relays_take _ _ _ := ⟨rfl, .inl ⟨rfl, rfl⟩⟩
  relays_issue _ _ _ := ⟨rfl, .inl ⟨rfl, rfl⟩⟩
  relays_pollDone _ _ := ⟨rfl, .inl ⟨rfl, rfl⟩⟩
  relays_acquire _ _ _ := ⟨rfl, .inl ⟨rfl, rfl⟩⟩
  relays_start _ _ _ _ := ⟨rfl, .inl ⟨rfl, rfl⟩⟩
  dmaIdle_eq _ _ _ := rfl
  part_release _ _ := rfl
  strays_release _ _ := rfl

/-- The part is seen to do what it does unwatched. -/
instance : Bus.View Watched.part where
  features _ := rfl
  readDepth _ := rfl
  writeDepth _ := rfl
  writeLevel _ _ := rfl
  setDeviceParams _ _ := rfl
  flushFifos _ := rfl
  writeFifo _ _ _ := rfl
  readFifo _ _ _ := rfl
  issue _ _ _ := rfl
  pollDone _ _ := rfl
  dmaAcquire _ _ _ := rfl
  dmaStart _ _ _ _ := rfl
  dmaIdle _ _ _ := rfl
  dmaRelease _ _ := rfl

end Watched

/-! ## What the part has heard -/

namespace Watched

variable {watched : Watched} {clock : Clock} {command : Command}

/-- The part has let no command pass by, and was listening to each that did not read status
register 1. -/
def Attentive (watched : Watched) : Prop :=
  ∀ sighting ∈ watched.sightings, sighting.ignored = false ∧
    (sighting.command.opcode = Opcode.readStatus1 ∨ sighting.listening = true)

/-- The part takes notice of the command: it is listening, or it is awake and asked for its
status. -/
def Hears (clock : Clock) (command : Command) (part : Part) : Prop :=
  Part.Listening clock part ∨ command.opcode = Opcode.readStatus1 ∧ part.poweredDown = false

theorem ignores_of_hears {part : Part} (h : Hears clock command part) :
    part.ignores clock command = false := by
  rcases h with hlisten | ⟨hopcode, hawake⟩
  · rw [Part.ignores, hlisten.awake, hlisten.alert, hlisten.idle]
    rfl
  · have hinstruction : command.instruction = .readStatus .one := by
      rw [Command.instruction, hopcode]
      decide
    rw [Part.ignores, hawake, hinstruction]
    simp [Part.answersWhileBusy]

theorem attentive_issue (h : watched.Attentive) (hheard : Hears clock command watched.part) :
    (issue clock command watched).2.Attentive := by
  intro sighting hsighting
  rcases List.mem_append.1 hsighting with hbefore | hnow
  · exact h sighting hbefore
  · rw [List.mem_singleton.1 hnow]
    exact ⟨ignores_of_hears hheard, hheard.symm.imp And.left decide_eq_true⟩

end Watched

end CardReader
