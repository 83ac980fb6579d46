import CardReader.Proofs.Part.Books
import CardReader.Proofs.Part.Changes

/-!
# When a part resets

A reset needs a reset enable right before it.  The part remembers the reset enable in a bit, which
most commands clear; what keeps the bit from outliving its command is that a part on which it is set
is awake and not recovering.

What is proved here:

* `Roused` — what a bit that is set says about the part;
* `resetArmed_issue` — after a command the bit is set exactly if the command was a reset enable that
  reached a listening part;
* `issue_reset_unheard` — a reset that the part does not carry out leaves it as it is;
* `resetArmed_eq_armedBy` — along a run the bit tells what the last command was that the
  controller could drive;
* `resets_iff_armed_right_before` — so a part resets exactly if that command was a reset enable.
-/

namespace CardReader

open Flash

namespace Part

section Commands

variable {clock : Clock} {part : Part} {command : Command}

/-! ## Commands -/

/-- A part on which a reset is armed is awake and not recovering. -/
def Roused (clock : Clock) (part : Part) : Prop :=
  part.resetArmed = true → part.poweredDown = false ∧ part.deafUntil ≤ clock.now

/-- Of the commands that are carried out only a reset enable arms a reset. -/
theorem resetArmed_perform (clock : Clock) (command : Command) (armed : Bool) (part : Part) :
    (perform clock command armed part).2.resetArmed =
      (part.resetArmed || command.instruction == .resetEnable) := by
  cases hinstruction : command.instruction with
  | resetEnable =>
    rw [perform, hinstruction]
    exact (Bool.or_true _).symm
  | writeStatus register =>
    have hwrite := congrArg Frame.armed (frame_writeStatus clock command register part)
    rw [perform, hinstruction]
    exact hwrite.trans (Bool.or_false _).symm
  | reset =>
    rw [perform, hinstruction]
    cases armed <;> exact (Bool.or_false _).symm
  | deepPowerDown =>
    rw [perform, hinstruction]
    exact (Bool.or_false _).symm
  | _ =>
    have hframe : (perform clock command armed part).2.frame = part.frame :=
      frame_perform (by rw [hinstruction]; rfl) armed part
    exact (congrArg Frame.armed hframe).trans (Bool.or_false _).symm

/-- Asleep or recovering the part does not touch the bit, which is clear then; otherwise it clears
the bit, and sets it again for a reset enable unless it is at work. -/
theorem resetArmed_execute (hroused : Roused clock part) (command : Command) :
    (execute clock command part).2.resetArmed =
      (command.instruction == .resetEnable && decide (Listening clock part)) := by
  have hdull (hlisten : ¬Listening clock part) :
      (command.instruction == .resetEnable && decide (Listening clock part)) = false := by
    rw [decide_eq_false hlisten, Bool.and_false]
  unfold execute
  by_cases hpower : part.poweredDown = true
  · have hclear : part.resetArmed = false :=
      Bool.eq_false_iff.2 fun harmed => Bool.false_ne_true ((hroused harmed).1.symm.trans hpower)
    rw [if_pos hpower, hdull fun h => Bool.false_ne_true (h.awake.symm.trans hpower)]
    split
    · exact hclear
    · exact (congrArg Frame.armed (frame_ignore command part)).trans hclear
  rw [if_neg hpower]
  by_cases hdeaf : part.deaf clock = true
  · have hclear : part.resetArmed = false :=
      Bool.eq_false_iff.2 fun harmed =>
        absurd (of_decide_eq_true hdeaf) (Nat.not_lt.2 (hroused harmed).2)
    rw [if_pos hdeaf, hdull fun h => Bool.false_ne_true (h.alert.symm.trans hdeaf)]
    split
    · exact hclear
    · exact (congrArg Frame.armed (frame_ignore command part)).trans hclear
  rw [if_neg hdeaf]
  dsimp only
  by_cases hbusy : part.busy clock = true
  · rw [hdull fun h => Bool.false_ne_true (h.idle.symm.trans hbusy)]
    split
    · exact congrArg Frame.armed (frame_ignore command _)
    · rename_i hanswered
      have hother : command.instruction ≠ .resetEnable := by
        intro henable
        rw [henable] at hanswered
        exact hanswered ((Bool.and_true _).trans hbusy)
      rw [resetArmed_perform, Bool.false_or]
      exact beq_false_of_ne hother
  · have hidle : part.busy clock = false := Bool.eq_false_iff.2 hbusy
    have hlisten : Listening clock part :=
      ⟨Bool.eq_false_iff.2 hpower, Bool.eq_false_iff.2 hdeaf, hidle⟩
    rw [decide_eq_true hlisten, Bool.and_true,
      show busy clock { part with resetArmed := false } = false from hidle, Bool.false_and,
      if_neg Bool.false_ne_true, resetArmed_perform, Bool.false_or]

/-- After a command that the controller can drive the bit is set exactly if the command was a reset
enable that reached a listening part. -/
theorem resetArmed_issue (hmode : command.mode.check part.features = .ok ())
    (hroused : Roused clock part) :
    (issue clock command part).2.resetArmed =
      (command.instruction == .resetEnable && decide (Listening clock part)) := by
  have hlisten : Listening clock (part.logged command) ↔ Listening clock part :=
    listening_congr rfl rfl rfl rfl
  have hexecute := resetArmed_execute (show Roused clock (part.logged command) from hroused) command
  rw [decide_eq_decide.2 hlisten] at hexecute
  rw [issue_eq_execute hmode, ← hexecute]
  split
  all_goals
    rename_i hrun
    rw [hrun]

theorem roused_issue (hroused : Roused clock part) (command : Command) :
    Roused clock (issue clock command part).2 := by
  cases hmode : command.mode.check part.features with
  | error failure =>
    rw [issue_of_refused hmode]
    exact hroused
  | ok =>
    intro harmed
    rw [resetArmed_issue hmode hroused, Bool.and_eq_true, beq_iff_eq, decide_eq_true_iff] at harmed
    obtain ⟨hinstruction, hlisten⟩ := harmed
    rw [issue_resetEnable hmode hinstruction hlisten]
    exact ⟨hlisten.awake, Nat.not_lt.1 (of_decide_eq_false hlisten.alert)⟩

/-- A reset that is not carried out leaves no trace but in the log, and in the read FIFO if its
frame has room for data. -/
theorem issue_reset_unheard (hmode : command.mode.check part.features = .ok ())
    (hinstruction : command.instruction = .reset)
    (hdull : ¬(Listening clock part ∧ part.resetArmed = true)) :
    ∃ value resetArmed readFifo, issue clock command part =
      (.ok (), { part with
        log := part.log.push command
        transaction := some (.done value), resetArmed, readFifo }) := by
  by_cases hlisten : Listening clock part
  · have hclear : part.resetArmed = false := Bool.eq_false_iff.2 fun h => hdull ⟨hlisten, h⟩
    refine ⟨0, false, part.readFifo, ?_⟩
    rw [issue_of_listening hmode hlisten, perform, hinstruction, hclear]
    rfl
  · have hlogged : ¬Listening clock (part.logged command) :=
      fun h => hlisten ⟨h.awake, h.alert, h.idle⟩
    obtain ⟨resetArmed, hexecute⟩ := execute_of_not_listening
      (by rw [hinstruction]; rfl) (by rw [hinstruction]; decide) hlogged
    obtain ⟨value, readFifo, hignore⟩ := ignore_eq command { part.logged command with resetArmed }
    refine ⟨value, resetArmed, readFifo, ?_⟩
    rw [issue_eq_execute hmode, hexecute, hignore]
    rfl

end Commands

/-! ## Runs -/

namespace Step

variable {step : Step}

/-- The step issues a command that the controller can drive. -/
def drives (step : Step) : Bool :=
  match step.move with
  | .issue command => (command.mode.check step.part.features).isOk
  | _ => false

/-- The step issues a reset enable, which the part carries out. -/
def arms (step : Step) : Bool :=
  match step.move with
  | .issue command =>
    command.instruction == .resetEnable && (command.mode.check step.part.features).isOk &&
      decide (Listening step.clock step.part)
  | _ => false

/-- The step issues a reset, which the part carries out. -/
def resets (step : Step) : Bool :=
  match step.move with
  | .issue command =>
    command.instruction == .reset && (command.mode.check step.part.features).isOk &&
      decide (Listening step.clock step.part) && step.part.resetArmed
  | _ => false

theorem arms_of_ne {command : Command} (hmove : step.move = .issue command)
    (hinstruction : command.instruction ≠ .resetEnable) : step.arms = false := by
  simp [arms, hmove, hinstruction]

theorem resets_of_ok {command : Command} (hmove : step.move = .issue command)
    (hinstruction : command.instruction = .reset)
    (hmode : command.mode.check step.part.features = .ok ()) :
    step.resets = true ↔ Listening step.clock step.part ∧ step.part.resetArmed = true := by
  simp [resets, hmove, hinstruction, hmode, Except.isOk, Except.toBool]

/-- A move that issues no command leaves the frame of the part alone. -/
theorem frame_make (clock : Clock) (part : Part) {move : Move}
    (hmove : ∀ command, move ≠ .issue command) :
    (move.make clock part).frame = part.frame := by
  cases move with
  | issue command => exact absurd rfl (hmove command)
  | write data => exact frame_queue clock data part
  | take count => exact frame_take count part
  | poll => exact frame_pollDone clock part
  | acquire channel => exact frame_dmaAcquire channel part
  | start channel block => exact frame_dmaStart clock channel block part
  | release channel => exact frame_dmaRelease channel part
  | setParams | flush | switch => rfl
  | idle | pause => rfl

/-- What a step does to the bit and to what it rests on. -/
theorem armed_step (step : Step) (hroused : Roused step.clock step.part) :
    (step.after.resetArmed = if step.drives then step.arms else step.part.resetArmed) ∧
      Roused (step.move.tick step.clock) step.after := by
  obtain ⟨clock, part, move⟩ := step
  by_cases hissue : ∃ command, move = .issue command
  · obtain ⟨command, rfl⟩ := hissue
    refine ⟨?_, roused_issue hroused command⟩
    cases hmode : command.mode.check part.features with
    | error failure =>
      have hlogged : (issue clock command part).2.resetArmed = part.resetArmed := by
        rw [issue_of_refused hmode]
      show (issue clock command part).2.resetArmed = _
      simpa [drives, hmode, Except.isOk, Except.toBool] using hlogged
    | ok =>
      have hheard := resetArmed_issue hmode hroused
      show (issue clock command part).2.resetArmed = _
      simpa [drives, arms, hmode, Except.isOk, Except.toBool] using hheard
  · have hsame := frame_make clock part fun command h => hissue ⟨command, h⟩
    have hlater := move.now_le_tick clock
    have hdrives : drives ⟨clock, part, move⟩ = false := by
      cases move with
      | issue command => exact absurd ⟨command, rfl⟩ hissue
      | _ => rfl
    rw [hdrives]
    refine ⟨congrArg Frame.armed hsame, fun harmed => ?_⟩
    obtain ⟨hawake, hrecovered⟩ := hroused ((congrArg Frame.armed hsame).symm.trans harmed)
    exact ⟨(congrArg Frame.asleep hsame).trans hawake,
      Nat.le_trans (Nat.le_of_eq (congrArg Frame.deafUntil hsame))
        (Nat.le_trans hrecovered hlater)⟩

end Step

/-- Among some steps, the last that issues a command which the controller can drive issues a reset
enable, which the part carries out; `before` tells whether a reset was armed before all of them. -/
def armedBy (before : Bool) (earlier : List Step) : Bool :=
  ((earlier.filter Step.drives).getLast?.map Step.arms).getD before

theorem armedBy_cons (before : Bool) (step : Step) (rest : List Step) :
    armedBy before (step :: rest) =
      armedBy (if step.drives then step.arms else before) rest := by
  rw [armedBy, armedBy, List.filter_cons]
  by_cases hdrives : step.drives = true
  · rw [if_pos hdrives, if_pos hdrives, List.getLast?_cons]
    cases (rest.filter Step.drives).getLast? with
    | none => rfl
    | some last => rfl
  · rw [if_neg hdrives, if_neg hdrives]

/-- Along a run the bit tells what the last command was that the controller could drive. -/
theorem resetArmed_eq_armedBy {later : List Step} {step : Step} :
    ∀ {earlier : List Step} {moves : List Move} {clock : Clock} {part : Part},
      Roused clock part → steps clock part moves = earlier ++ step :: later →
      step.part.resetArmed = armedBy part.resetArmed earlier ∧ Roused step.clock step.part := by
  intro earlier
  induction earlier with
  | nil =>
    intro moves clock part hroused hrun
    cases moves with
    | nil => cases hrun
    | cons move rest =>
      obtain ⟨rfl, -⟩ := List.cons_eq_cons.1 hrun
      exact ⟨rfl, hroused⟩
  | cons first front ih =>
    intro moves clock part hroused hrun
    cases moves with
    | nil => cases hrun
    | cons move rest =>
      obtain ⟨rfl, hrest⟩ := List.cons_eq_cons.1 hrun
      obtain ⟨harmed, hroused'⟩ := Step.armed_step ⟨clock, part, move⟩ hroused
      rw [armedBy_cons, ← harmed]
      exact ih hroused' hrest

/-- Whatever is done to a part that starts with nothing armed, a reset that the controller can drive
resets the part exactly if the part listens and the last command before it that the controller
could drive was a reset enable which reached the part while it listened; so it never does after any
other command.  A reset takes the latch, status register 3, the work and both FIFOs, and one that is
not carried out leaves the part as it is but for the log and the read FIFO. -/
theorem resets_iff_armed_right_before {config : Config} {cells : Cells} {clock : Clock}
    {moves : List Move} {earlier later : List Step} {step : Step} {command : Command}
    (hrun : steps clock { config, cells } moves = earlier ++ step :: later)
    (hmove : step.move = .issue command) (hinstruction : command.instruction = .reset)
    (hmode : command.mode.check step.part.features = .ok ()) :
    let last := (earlier.filter Step.drives).getLast?
    (step.resets = true ↔ Listening step.clock step.part ∧
      ∃ enable, last = some enable ∧ enable.arms = true) ∧
      (∀ other between, last = some other → other.move = .issue between →
        between.instruction ≠ .resetEnable → step.resets = false) ∧
      (step.resets = true → step.after =
        { (step.part.heard command).reset step.clock with transaction := some (.done 0) }) ∧
      (step.resets = false → ∃ value resetArmed readFifo, step.after =
        { step.part with
          log := step.part.log.push command
          transaction := some (.done value), resetArmed, readFifo }) := by
  intro last
  have hafter : step.after = (issue step.clock command step.part).2 := by
    rw [Step.after, hmove]
    rfl
  have hfresh : Roused clock { config, cells } := fun harmed => absurd harmed Bool.false_ne_true
  have hbit : step.part.resetArmed = true ↔ ∃ enable, last = some enable ∧ enable.arms = true := by
    rw [(resetArmed_eq_armedBy hfresh hrun).1, armedBy]
    show (last.map Step.arms).getD false = true ↔ _
    cases last with
    | none => simp
    | some enable => simp
  have hresets := Step.resets_of_ok hmove hinstruction hmode
  refine ⟨by rw [hresets, hbit], ?_, ?_, ?_⟩
  · intro other between hlast hbetween hother
    refine Bool.eq_false_iff.2 fun h => ?_
    obtain ⟨enable, henable, harms⟩ := hbit.1 (hresets.1 h).2
    obtain rfl := Option.some.inj (hlast.symm.trans henable)
    exact Bool.false_ne_true ((Step.arms_of_ne hbetween hother).symm.trans harms)
  · intro h
    obtain ⟨hlisten, harmed⟩ := hresets.1 h
    rw [hafter, issue_reset_armed hmode hinstruction hlisten harmed]
  · intro h
    have hdull := mt hresets.2 (Bool.eq_false_iff.1 h)
    obtain ⟨value, resetArmed, readFifo, hissue⟩ :=
      issue_reset_unheard hmode hinstruction hdull
    exact ⟨value, resetArmed, readFifo, by rw [hafter, hissue]⟩

/-- Neither time nor a fault nor a command that cannot be driven comes between a reset enable and
its reset. -/
theorem resets_after_refused_command :
    let config : Config := { size := 16, quad := false }
    let cells : Cells := ⟨⟨Array.replicate 16 0xF0⟩⟩
    let enable : Command := .simple Opcode.resetEnable
    let reset : Command := .simple Opcode.reset
    let refused : Command := reset.withMode .quadOut
    let front : List Move :=
      [.issue enable, .pause 5, .issue refused, .switch { stuckBusy := true }, .switch {}]
    let armed : Part :=
      { config, cells
        resetArmed := true, transaction := some (.done 0), log := #[enable, refused] }
    let step : Step := ⟨Clock.start.advance 5, armed, .issue reset⟩
    let earlier := steps .start { config, cells } front
    steps .start { config, cells } (front ++ [.issue reset]) = earlier ++ [step] ∧
      reset.instruction = .reset ∧ reset.mode.check step.part.features = .ok () ∧
      step.resets = true ∧
      step.after =
        { (step.part.heard reset).reset step.clock with transaction := some (.done 0) } := by
  intro config cells enable reset refused front armed step earlier
  have hrun : steps .start { config, cells } (front ++ [.issue reset]) = earlier ++ [step] := rfl
  have hinstruction : reset.instruction = .reset := rfl
  have hmode : reset.mode.check step.part.features = .ok () := rfl
  obtain ⟨hresets, -, hreset, -⟩ := resets_iff_armed_right_before hrun rfl hinstruction hmode
  have hlisten : Listening step.clock step.part := by decide
  have hlast : step.resets = true :=
    hresets.2 ⟨hlisten, ⟨.start, { config, cells }, .issue enable⟩, rfl, rfl⟩
  exact ⟨hrun, hinstruction, hmode, hlast, hreset hlast⟩

end Part

end CardReader
