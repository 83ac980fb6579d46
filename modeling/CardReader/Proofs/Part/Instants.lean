import CardReader.Proofs.Part.Fifos
import CardReader.Proofs.Part.Periods
import CardReader.Proofs.Part.Resets

/-!
# The instants of a part

A clock stops at its last instant, and a deadline is never later.  The instants until which a part
is at work and recovering are plain sums, which go on: an instant can come to be past the last one,
and then it stays there, because the part never listens again.

What is proved here:

* `Step.instants_after` — the instants after a step are those before it, or those of the period
  that the step begins;
* `Step.fit_after` — after a step they fit the counter of a clock if and only if they did so before
  it and the period ends by the last instant; `Consistent` is what this rests on, and
  `Step.consistent_after` that no step comes in its way;
* `begun_of_mem_times` — no time of a configuration is out of reach;
* `instants_of_run` — along a run both instants fit if and only if every period that begins ends by
  the last instant, and the configurations under which no run leads past it are those whose times
  are all zero;
* `deafUntil_past_last` — a wake-up at the last instant.
-/

namespace CardReader

open Flash

namespace Part

variable {clock : Clock} {part before after : Part} {command : Command}

/-! ## Parts that begin a period without listening -/

/-- The power state, the last transaction and the instants are as they were. -/
structure Alike (before after : Part) : Prop where
  poweredDown_eq : after.poweredDown = before.poweredDown
  transaction_eq : after.transaction = before.transaction
  instants_eq : after.instants = before.instants

/-- A part that is asleep or waits for data can begin a period without listening.  Its instants
fit, and it is not both. -/
structure Consistent (part : Part) : Prop where
  asleep : part.poweredDown = true → part.Over ∧ part.InstantsFit
  waiting : ¬part.Over → part.InstantsFit

namespace Consistent

theorem congr (h : Consistent before) (halike : Alike before after) : Consistent after := by
  obtain ⟨hpower, htransaction, hinstants⟩ := halike
  have hover : after.Over ↔ before.Over := by
    rw [Over, Over, htransaction]
  refine ⟨fun hasleep => ?_, fun hwaits => ?_⟩
  · obtain ⟨hbefore, hfit⟩ := h.asleep (hpower ▸ hasleep)
    exact ⟨hover.2 hbefore, (fit_congr hinstants).2 hfit⟩
  · exact (fit_congr hinstants).2 (h.waiting fun hbefore => hwaits (hover.2 hbefore))

theorem fit (h : Consistent part) (clock : Clock)
    (hrest : part.poweredDown = true ∨ Listening clock part) : part.InstantsFit := by
  rcases hrest with hasleep | hlisten
  · exact (h.asleep hasleep).2
  · exact fit_of_listening hlisten

/-- A command begins a period only where the instants fit. -/
theorem fit_of_begins (h : Consistent part) {period : Period}
    (hbegins : part.begins clock command = some period) : part.InstantsFit := by
  cases hpower : part.poweredDown with
  | true => exact h.fit clock (.inl hpower)
  | false => exact h.fit clock (.inr (listening_of_begins hpower hbegins))

/-- So does data that arrives. -/
theorem fit_of_resumes (h : Consistent part) {period : Period}
    (hresumes : part.resumes = some period) : part.InstantsFit := by
  refine h.waiting fun hover => ?_
  cases hover.resumes.symm.trans hresumes

theorem feed (h : Consistent part) (clock : Clock) : Consistent (feed clock part) := by
  by_cases hover : part.Over
  · rwa [hover.feed]
  have hpower : (Part.feed clock part).poweredDown = part.poweredDown :=
    congrArg Frame.asleep (frame_feed clock part)
  have hinstants := instants_feed clock part
  refine ⟨fun hasleep => absurd (h.asleep (hpower ▸ hasleep)).1 hover, fun hwaits => ?_⟩
  rw [resumes_of_waiting hwaits] at hinstants
  exact (fit_congr hinstants).2 (h.waiting hover)

end Consistent

/-- Of the commands that are carried out only a program can wait for data, and then it has begun
nothing. -/
theorem perform_streams {armed : Bool} {addr expected : Nat} {data : List UInt8}
    (h : (perform clock command armed part).1 = .ok (.streaming addr expected data)) :
    command.instruction = .program ∧ part.starts command armed = none := by
  unfold perform at h
  rw [starts]
  cases hinstruction : command.instruction with
  | program =>
    rw [hinstruction] at h
    refine ⟨rfl, ?_⟩
    have hstarts : (startProgram clock command part).1 = .streaming addr expected data :=
      Except.ok.inj h
    unfold startProgram at hstarts
    dsimp only at hstarts ⊢
    split at hstarts
    · rename_i hformat
      rw [if_pos hformat]
      split at hstarts
      · rename_i hshort
        exact programs_of_lt hshort
      · cases hstarts
    · rename_i hformat
      rw [if_neg hformat]
  | read =>
    rw [hinstruction] at h
    dsimp only at h
    split at h <;> cases h
  | _ =>
    rw [hinstruction] at h
    cases h

/-- A command that fails leaves the last transaction alone. -/
theorem transaction_of_perform_error {armed : Bool} {failure : Failure}
    (h : (perform clock command armed part).1 = .error failure) :
    (perform clock command armed part).2.transaction = part.transaction := by
  unfold perform at h ⊢
  cases hinstruction : command.instruction with
  | read =>
    dsimp only
    rw [fetch]
    split
    all_goals
      rename_i hrun
      split at hrun
      all_goals
        rw [← (Prod.mk.inj hrun).2]
  | _ => simp only [hinstruction, reduceCtorEq] at h

/-- Of the commands that are carried out only one puts the part to sleep. -/
theorem poweredDown_perform (clock : Clock) (command : Command) (armed : Bool) (part : Part) :
    (perform clock command armed part).2.poweredDown =
      (part.poweredDown || command.instruction == .deepPowerDown) := by
  cases hinstruction : command.instruction with
  | deepPowerDown =>
    rw [perform, hinstruction]
    exact (Bool.or_true _).symm
  | writeStatus register =>
    have hwrite := congrArg Frame.asleep (frame_writeStatus clock command register part)
    rw [perform, hinstruction]
    exact hwrite.trans (Bool.or_false _).symm
  | reset =>
    rw [perform, hinstruction]
    cases armed <;> exact (Bool.or_false _).symm
  | resetEnable =>
    rw [perform, hinstruction]
    exact (Bool.or_false _).symm
  | _ =>
    have hframe : (perform clock command armed part).2.frame = part.frame :=
      frame_perform (by rw [hinstruction]; rfl) armed part
    exact (congrArg Frame.asleep hframe).trans (Bool.or_false _).symm

/-- What a command can leave of a part that is asleep or waits for data: it was asleep or listening
before, and no period has begun. -/
structure Leaves (clock : Clock) (command : Command) (before : Part)
    (result : Except Failure Transaction × Part) : Prop where
  asleep : result.2.poweredDown = true →
    (before.poweredDown = true ∨ Listening clock before) ∧ before.begins clock command = none ∧
      ∀ addr expected data, result.1 ≠ .ok (.streaming addr expected data)
  waiting : ∀ addr expected data, result.1 = .ok (.streaming addr expected data) →
    Listening clock before ∧ before.begins clock command = none
  failed : ∀ failure, result.1 = .error failure → result.2.transaction = before.transaction

/-- A command that is over at once. -/
theorem leaves_done {value : UInt32} (hasleep : after.poweredDown = true →
      part.poweredDown = true ∧ part.begins clock command = none) :
    Leaves clock command part (.ok (.done value), after) := by
  refine ⟨fun hpower => ?_, fun addr expected data hstreams => ?_, fun failure hfails => ?_⟩
  · obtain ⟨hbefore, hbegins⟩ := hasleep hpower
    exact ⟨.inl hbefore, hbegins, fun addr expected data hstreams => by cases hstreams⟩
  · cases hstreams
  · cases hfails

/-- A command that is carried out while the part is awake and not recovering. -/
theorem leaves_perform (hawake : part.poweredDown = false) (halert : part.deaf clock = false)
    (hheard : part.ignores clock command = false) :
    Leaves clock command part
      (perform clock command part.resetArmed { part with resetArmed := false }) := by
  have hbegins : part.begins clock command = part.starts command part.resetArmed := by
    rw [begins, hheard, hawake]
    rfl
  have hlisten (hanswers : answersWhileBusy command.instruction = false) :
      Listening clock part := by
    refine ⟨hawake, halert, ?_⟩
    simpa [ignores, hawake, halert, hanswers] using hheard
  refine ⟨fun hasleep => ?_, fun addr expected data hstreams => ?_,
    fun failure hfails => transaction_of_perform_error hfails⟩
  · rw [poweredDown_perform] at hasleep
    have hinstruction : command.instruction = .deepPowerDown := by
      simpa [hawake] using hasleep
    refine ⟨.inr (hlisten (by rw [hinstruction]; rfl)), ?_, fun addr expected data hstreams => ?_⟩
    · rw [hbegins, starts, hinstruction]
    · have hprogram := (perform_streams hstreams).1
      rw [hinstruction] at hprogram
      cases hprogram
  · obtain ⟨hinstruction, hstarts⟩ := perform_streams hstreams
    exact ⟨hlisten (by rw [hinstruction]; rfl), hbegins.trans hstarts⟩

theorem leaves_execute (clock : Clock) (command : Command) (part : Part) :
    Leaves clock command part (execute clock command part) := by
  by_cases hignores : part.ignores clock command = true
  · obtain ⟨resetArmed, hexecute⟩ := execute_of_ignores hignores
    obtain ⟨value, readFifo, hignore⟩ := ignore_eq command { part with resetArmed }
    have hbegins : part.begins clock command = none := if_pos hignores
    rw [hexecute, hignore]
    exact leaves_done fun hasleep => ⟨hasleep, hbegins⟩
  have hheard : part.ignores clock command = false := Bool.eq_false_iff.2 hignores
  rw [ignores] at hignores
  by_cases hpower : part.poweredDown = true
  · rw [if_pos hpower, bne_iff_ne, ne_eq, Decidable.not_not] at hignores
    rw [execute, if_pos hpower, if_pos hignores]
    exact leaves_done fun hasleep => absurd hasleep Bool.false_ne_true
  by_cases hdeaf : part.deaf clock = true
  · rw [if_neg hpower, if_pos hdeaf, bne_iff_ne, ne_eq, Decidable.not_not] at hignores
    rw [execute, if_neg hpower, if_pos hdeaf, if_pos hignores]
    exact leaves_done fun hasleep => absurd hasleep hpower
  · rw [if_neg hpower, if_neg hdeaf] at hignores
    have hpasses : (busy clock { part with resetArmed := false } &&
      !answersWhileBusy command.instruction) = false := Bool.eq_false_iff.2 hignores
    rw [execute, if_neg hpower, if_neg hdeaf]
    simp only [hpasses]
    exact leaves_perform (Bool.eq_false_iff.2 hpower) (Bool.eq_false_iff.2 hdeaf) hheard

theorem Consistent.issue (h : Consistent part)
    (hmode : command.mode.check part.features = .ok ()) (clock : Clock) :
    Consistent (issue clock command part).2 := by
  obtain ⟨hasleep, hwaiting, hfailed⟩ := leaves_execute clock command (part.logged command)
  have hinstants := instants_execute clock command (part.logged command)
  have hfit (hrest : part.poweredDown = true ∨ Listening clock (part.logged command))
      (hbegins : (part.logged command).begins clock command = none) :
      (execute clock command (part.logged command)).2.InstantsFit := by
    rw [hbegins] at hinstants
    refine (fit_congr (show _ = part.instants from hinstants)).2 (h.fit clock ?_)
    exact hrest.imp_right fun hlisten => ⟨hlisten.awake, hlisten.alert, hlisten.idle⟩
  rw [issue_eq_execute hmode]
  cases hrun : execute clock command (part.logged command) with
  | mk outcome result =>
    rw [hrun] at hasleep hwaiting hfailed hfit
    cases outcome with
    | ok transaction =>
      refine ⟨fun hpower => ?_, fun hwaits => ?_⟩
      · obtain ⟨hrest, hbegins, hstreams⟩ := hasleep hpower
        refine ⟨fun addr expected data hstreaming => ?_, hfit hrest hbegins⟩
        exact hstreams addr expected data (congrArg Except.ok (Option.some.inj hstreaming))
      · cases transaction with
        | done value => exact absurd (over_of_done rfl) hwaits
        | streaming addr expected data =>
          obtain ⟨hlisten, hbegins⟩ := hwaiting addr expected data rfl
          exact hfit (.inr hlisten) hbegins
    | error failure =>
      have hover : result.Over := by
        intro addr expected data hstreaming
        rw [show result.transaction = none from hfailed failure rfl] at hstreaming
        cases hstreaming
      refine ⟨fun hpower => ⟨hover, ?_⟩, fun hwaits => absurd hover hwaits⟩
      obtain ⟨hrest, hbegins, -⟩ := hasleep hpower
      exact hfit hrest hbegins

/-! ## Steps -/

namespace Step

variable {step : Step}

/-- The part as it is when a step lets a program that waits look for data. -/
def fed (step : Step) : Option Part :=
  match step.move with
  | .write data =>
    if step.part.config.writeDepth - step.part.writeFifo.length < data.length then none
    else some { step.part with writeFifo := step.part.writeFifo ++ data }
  | .start channel block =>
    match step.part.dma with
    | some claim =>
      if claim.channel = channel then some { step.part with dma := some { claim with block } }
      else none
    | none => none
  | .poll => if step.part.faults.unresponsive then none else some step.part
  | _ => none

/-- The period that a step begins. -/
def begins (step : Step) : Option Period :=
  match step.move with
  | .issue command =>
    if (command.mode.check step.part.features).isOk then step.part.begins step.clock command
    else none
  | _ => step.fed.bind resumes

/-- The step begins a period that ends past the last instant. -/
def Exceeds (step : Step) : Prop :=
  ∃ period, step.begins = some period ∧ lastInstant < step.clock.now + period.time

/-- Data that comes with a step is all that is new about the part before a program has it. -/
theorem after_of_fed {fed : Part} (h : step.fed = some fed) :
    Alike step.part fed ∧ fed.config = step.part.config ∧ step.after = feed step.clock fed := by
  obtain ⟨clock, part, move⟩ := step
  rw [Step.fed] at h
  cases move with
  | write data =>
    dsimp only at h
    split at h
    · cases h
    · rename_i hroom
      cases h
      exact ⟨⟨rfl, rfl, rfl⟩, rfl, congrArg Prod.snd (if_neg hroom)⟩
  | start channel block =>
    dsimp only at h
    cases hdma : part.dma with
    | none =>
      rw [hdma] at h
      cases h
    | some claim =>
      rw [hdma] at h
      by_cases hchannel : claim.channel = channel
      · cases (if_pos hchannel).symm.trans h
        refine ⟨⟨rfl, rfl, rfl⟩, rfl, ?_⟩
        show (dmaStart clock channel block part).2 = _
        rw [dmaStart, hdma]
        exact congrArg Prod.snd (if_pos hchannel)
      · cases (if_neg hchannel).symm.trans h
  | poll =>
    dsimp only at h
    split at h
    · cases h
    · rename_i hresponsive
      obtain rfl := Option.some.inj h
      refine ⟨⟨rfl, rfl, rfl⟩, rfl, ?_⟩
      show (pollDone clock part).2 = _
      rw [pollDone, if_neg hresponsive]
      dsimp only
      split
      all_goals rfl
  | _ => cases h

/-- A step that neither brings data nor issues a command lets a part be. -/
theorem alike_after (hmove : ∀ command, step.move ≠ .issue command) (h : step.fed = none) :
    Alike step.part step.after := by
  obtain ⟨clock, part, move⟩ := step
  have hsame {after : Part} (hafter : after = part) : Alike part after := by
    rw [hafter]
    exact ⟨rfl, rfl, rfl⟩
  rw [Step.fed] at h
  cases move with
  | issue command => exact absurd rfl (hmove command)
  | write data =>
    dsimp only at h
    split at h
    · rename_i hfull
      exact hsame (congrArg Prod.snd (if_pos hfull))
    · cases h
  | start channel block =>
    refine hsame (show (dmaStart clock channel block part).2 = part from ?_)
    rw [dmaStart]
    cases hdma : part.dma with
    | none => rfl
    | some claim =>
      dsimp only at h
      rw [hdma] at h
      by_cases hchannel : claim.channel = channel
      · cases (if_pos hchannel).symm.trans h
      · exact congrArg Prod.snd (if_neg hchannel)
  | poll =>
    dsimp only at h
    split at h
    · rename_i hdead
      exact hsame (congrArg Prod.snd (if_pos hdead))
    · cases h
  | take count =>
    show Alike part (Part.take count part).2
    rw [Part.take]
    split
    · exact ⟨rfl, rfl, rfl⟩
    · exact hsame rfl
  | acquire channel =>
    show Alike part (dmaAcquire channel part).2
    rw [dmaAcquire]
    split
    · exact hsame rfl
    split
    · exact hsame rfl
    · exact ⟨rfl, rfl, rfl⟩
  | release channel =>
    show Alike part (dmaRelease channel part)
    rw [dmaRelease]
    split
    · split
      · exact ⟨rfl, rfl, rfl⟩
      · exact hsame rfl
    · exact hsame rfl
  | setParams | flush | switch => exact ⟨rfl, rfl, rfl⟩
  | idle | pause => exact hsame rfl

/-- What a step can be for the instants. -/
inductive Course (step : Step) : Prop
  | idle (begins_eq : step.begins = none) (alike : Alike step.part step.after)
  | issued {command : Command} (begins_eq : step.begins = step.part.begins step.clock command)
    (mode_eq : command.mode.check step.part.features = .ok ())
    (after_eq : step.after = (issue step.clock command step.part).2)
  | fed {fed : Part} (begins_eq : step.begins = fed.resumes) (alike : Alike step.part fed)
    (config_eq : fed.config = step.part.config) (after_eq : step.after = feed step.clock fed)

theorem course (step : Step) : step.Course := by
  by_cases hissue : ∃ command, step.move = .issue command
  · obtain ⟨command, hmove⟩ := hissue
    have hafter : step.after = (issue step.clock command step.part).2 := by
      rw [after, hmove]
      rfl
    have hbegins : step.begins = if (command.mode.check step.part.features).isOk then
        step.part.begins step.clock command else none := by
      rw [begins, hmove]
    cases hmode : command.mode.check step.part.features with
    | error failure =>
      rw [hmode] at hbegins
      refine .idle hbegins ?_
      rw [hafter, issue_of_refused hmode]
      exact ⟨rfl, rfl, rfl⟩
    | ok =>
      rw [hmode] at hbegins
      exact .issued hbegins hmode hafter
  · have hmove : ∀ command, step.move ≠ .issue command := fun command h => hissue ⟨command, h⟩
    have hbegins : step.begins = step.fed.bind resumes := by
      rw [begins]
      split
      · rename_i command hmove'
        exact absurd hmove' (hmove command)
      · rfl
    cases hfed : step.fed with
    | none =>
      rw [hfed] at hbegins
      exact .idle hbegins (alike_after hmove hfed)
    | some fed =>
      rw [hfed] at hbegins
      obtain ⟨halike, hconfig, hafter⟩ := after_of_fed hfed
      exact .fed hbegins halike hconfig hafter

/-- The instants after a step are those before it, or those of the period that the step begins. -/
theorem instants_after (step : Step) :
    step.after.instants = step.part.instants.begin step.clock.now step.begins := by
  cases step.course with
  | idle hbegins halike =>
    rw [hbegins]
    exact halike.instants_eq
  | issued hbegins hmode hafter =>
    rw [hbegins, hafter]
    exact instants_issue hmode step.clock
  | fed hbegins halike _ hafter =>
    rw [hbegins, hafter, instants_feed, halike.instants_eq]

/-- A step begins a period only where the instants fit. -/
theorem fit_of_begins (h : Consistent step.part) {period : Period}
    (hperiod : step.begins = some period) : step.part.InstantsFit := by
  cases step.course with
  | idle hbegins => cases hbegins.symm.trans hperiod
  | issued hbegins => exact h.fit_of_begins (hbegins.symm.trans hperiod)
  | fed hbegins halike =>
    have hfit := (h.congr halike).fit_of_resumes (hbegins.symm.trans hperiod)
    exact (fit_congr halike.instants_eq).1 hfit

theorem consistent_after (h : Consistent step.part) : Consistent step.after := by
  cases step.course with
  | idle _ halike => exact h.congr halike
  | issued _ hmode hafter =>
    rw [hafter]
    exact h.issue hmode step.clock
  | fed _ halike _ hafter =>
    rw [hafter]
    exact (h.congr halike).feed step.clock

/-- After a step the instants fit if they did before it and the step begins nothing that ends past
the last one; so an instant that does not fit stays for good. -/
theorem fit_after (h : Consistent step.part) :
    step.after.InstantsFit ↔ step.part.InstantsFit ∧ ¬step.Exceeds := by
  have hinstants := step.instants_after
  cases hbegins : step.begins with
  | none =>
    rw [hbegins] at hinstants
    have hexceeds : ¬step.Exceeds := by
      rintro ⟨period, hperiod, -⟩
      rw [hbegins] at hperiod
      cases hperiod
    exact (fit_congr hinstants).trans (and_iff_left hexceeds).symm
  | some period =>
    rw [hbegins] at hinstants
    have hexceeds : ¬step.Exceeds ↔ step.clock.now + period.time ≤ lastInstant := by
      constructor
      · exact fun hnot => Nat.not_lt.1 fun hlate => hnot ⟨period, hbegins, hlate⟩
      · rintro hle ⟨other, hother, hlate⟩
        rw [hbegins] at hother
        cases hother
        exact Nat.not_lt.2 hle hlate
    rw [hexceeds]
    exact ⟨fun hfit => ⟨fit_of_begins h hbegins, le_of_fit hinstants hfit⟩,
      fun hfit => fit_of_le hinstants hfit.1 hfit.2⟩

/-- The period that a step begins is one that the configuration gives. -/
theorem time_of_begins {period : Period} (hperiod : step.begins = some period) :
    period.time ∈ step.part.config.times := by
  cases step.course with
  | idle hbegins => cases hbegins.symm.trans hperiod
  | issued hbegins => exact Part.time_of_begins (hbegins.symm.trans hperiod)
  | fed hbegins _ hconfig =>
    rw [← hconfig]
    exact time_of_resumes (hbegins.symm.trans hperiod)

end Step

/-! ## Runs -/

theorem now_le_afterMoves (moves : List Move) :
    ∀ (clock : Clock) (part : Part), clock.now ≤ (afterMoves clock part moves).1.now := by
  induction moves with
  | nil => exact fun _ _ => Nat.le_refl _
  | cons move rest ih =>
    intro clock part
    exact Nat.le_trans (move.now_le_tick clock) (ih (move.tick clock) (move.make clock part))

/-- The steps of a run have the configuration of the part and come before its end. -/
theorem of_mem_steps {moves : List Move} {step : Step} :
    ∀ {clock : Clock} {part : Part}, step ∈ steps clock part moves →
      step.part.config = part.config ∧
        step.clock.now ≤ (afterMoves clock part moves).1.now := by
  induction moves with
  | nil =>
    intro clock part hmem
    cases hmem
  | cons move rest ih =>
    intro clock part hmem
    rcases List.mem_cons.1 hmem with rfl | hrest
    · exact ⟨rfl, now_le_afterMoves (move :: rest) clock part⟩
    · obtain ⟨hconfig, hnow⟩ := ih hrest
      exact ⟨hconfig.trans (config_make clock part move), hnow⟩

/-- After a run the instants fit if they did before it and no step begins a period that ends past
the last one. -/
theorem fit_afterMoves (moves : List Move) :
    ∀ (clock : Clock) (part : Part), Consistent part →
      ((afterMoves clock part moves).2.InstantsFit ↔
        part.InstantsFit ∧ ∀ step ∈ steps clock part moves, ¬step.Exceeds) := by
  induction moves with
  | nil =>
    intro clock part _
    exact (and_iff_left (List.forall_mem_nil _)).symm
  | cons move rest ih =>
    intro clock part h
    have hfirst := @Step.fit_after ⟨clock, part, move⟩ h
    have hrest := ih (move.tick clock) (move.make clock part)
      (@Step.consistent_after ⟨clock, part, move⟩ h)
    rw [afterMoves, steps, List.forall_mem_cons, ← and_assoc, ← hfirst]
    exact hrest

/-- A run over which an instant has come not to fit has begun a time of the configuration after
which the clock cannot follow. -/
theorem exists_time_of_not_fit {moves : List Move} (hfit : part.InstantsFit)
    (h : Consistent part) (hlate : ¬(afterMoves clock part moves).2.InstantsFit) :
    ∃ us ∈ part.config.times, lastInstant < (afterMoves clock part moves).1.now + us := by
  rw [fit_afterMoves moves clock part h, and_iff_right hfit] at hlate
  simp only [not_forall, not_not] at hlate
  obtain ⟨step, hmem, period, hbegins, hexceeds⟩ := hlate
  obtain ⟨hconfig, hnow⟩ := of_mem_steps hmem
  exact ⟨period.time, hconfig ▸ Step.time_of_begins hbegins,
    Nat.lt_of_lt_of_le hexceeds (Nat.add_le_add_right hnow _)⟩

/-! ## Runs past the last instant -/

/-- A part to which nothing has happened. -/
theorem listening_fresh (config : Config) (cells : Cells) (clock : Clock) :
    Listening clock { config, cells } :=
  ⟨rfl, decide_eq_false (Nat.not_lt_zero clock.now), decide_eq_false (Nat.not_lt_zero clock.now)⟩

theorem consistent_fresh (config : Config) (cells : Cells) : Consistent { config, cells } :=
  ⟨fun hasleep => absurd hasleep Bool.false_ne_true,
    fun hwaits => absurd (fun _ _ _ h => by cases h) hwaits⟩

/-- A command that a part begins a period on, as a step. -/
theorem Step.begins_issue {period : Period} (hmode : command.mode = .single)
    (hbegins : part.begins clock command = some period) :
    Step.begins ⟨clock, part, .issue command⟩ = some period := by
  refine (if_pos ?_).trans hbegins
  rw [hmode]
  rfl

/-- On a part to which nothing has happened, one of two commands that come one after the other
begins a period of `us` microseconds. -/
def Begun (clock : Clock) (config : Config) (cells : Cells) (us : Nat) : Prop :=
  ∃ (first second : Command) (period : Period), period.time = us ∧
    Step.begins ⟨clock, (issue clock first { config, cells }).2, .issue second⟩ = some period

/-- Work begins after a write enable. -/
theorem begun_of_starts {config : Config} {cells : Cells} {us : Nat} (second : Command)
    (hmode : second.mode = .single)
    (hstarts : ∀ part : Part, part.config = config → part.writeEnabled = true →
      part.starts second false = some (.work us)) : Begun clock config cells us := by
  have hlisten := listening_fresh config cells clock
  refine ⟨writeEnableCommand, second, .work us, rfl, Step.begins_issue hmode ?_⟩
  rw [issue_writeEnable hlisten, begins_of_listening]
  · exact hstarts _ rfl rfl
  · exact ⟨hlisten.awake, hlisten.alert, hlisten.idle⟩

theorem begun_of_eraseTime {config : Config} (cells : Cells) (clock : Clock) (unit : EraseUnit) :
    Begun clock config cells (eraseTime { config, cells } unit) := by
  refine begun_of_starts (eraseCommand unit 0) (by cases unit <;> rfl) fun part hconfig hlatch => ?_
  rw [starts, instruction_eraseCommand, ← eraseTime_congr hconfig unit]
  exact if_pos hlatch

/-- No time of a configuration is out of reach. -/
theorem begun_of_mem_times {config : Config} {us : Nat} (h : us ∈ config.times) (cells : Cells)
    (clock : Clock) : Begun clock config cells us := by
  have hlisten := listening_fresh config cells clock
  simp only [Config.times, List.mem_cons, List.not_mem_nil, or_false] at h
  obtain rfl | rfl | rfl | rfl | rfl | rfl | rfl | rfl := h
  · refine begun_of_starts (.program Opcode.pageProgram 0 0) rfl ?_
    intro part hconfig hlatch
    rw [← hconfig]
    exact if_pos ⟨hlatch, Nat.zero_le _⟩
  · exact begun_of_eraseTime cells clock .sector
  · exact begun_of_eraseTime cells clock .block32
  · exact begun_of_eraseTime cells clock .block64
  · exact begun_of_eraseTime cells clock .chip
  · refine begun_of_starts (.writeRegister Opcode.writeStatus1 0 1) rfl ?_
    intro part hconfig hlatch
    rw [← hconfig]
    exact if_pos hlatch
  · refine ⟨.simple Opcode.resetEnable, .simple Opcode.reset, .recovery config.resetRecoveryTime,
      rfl, Step.begins_issue rfl ?_⟩
    rw [issue_resetEnable rfl rfl hlisten, begins_of_listening]
    · rfl
    · exact ⟨hlisten.awake, hlisten.alert, hlisten.idle⟩
  · refine ⟨.simple Opcode.deepPowerDown, .simple Opcode.releasePowerDown,
      .waking config.releaseTime, rfl, Step.begins_issue rfl ?_⟩
    rw [issue_of_listening rfl hlisten]
    rfl

/-- The clock of a part to which nothing has happened can be let run to its end, and then any time
but zero is too long. -/
theorem exists_not_fit {config : Config} {us : Nat} (h : us ∈ config.times) (hpos : us ≠ 0)
    (cells : Cells) (clock : Clock) :
    ∃ moves, ¬(afterMoves clock { config, cells } moves).2.InstantsFit := by
  obtain ⟨first, second, period, rfl, hbegins⟩ :=
    begun_of_mem_times h cells (clock.advance lastInstant)
  refine ⟨[.pause lastInstant, .issue first, .issue second], fun hfit => ?_⟩
  have hinstants := Step.instants_after
    ⟨clock.advance lastInstant, (issue (clock.advance lastInstant) first { config, cells }).2,
      .issue second⟩
  rw [hbegins] at hinstants
  have hle := le_of_fit hinstants hfit
  have hend : (clock.advance lastInstant).now = lastInstant :=
    Nat.min_eq_right (Nat.le_add_left _ _)
  dsimp only at hle
  omega

/-- Whatever is done to a part that starts with nothing on its way, both of its instants fit the
counter of a clock if and only if every period that has begun ends by the last instant.  A run
leads past it only if a time of the configuration is longer than what is left of the counter, and
such runs exist under all configurations but those whose times are all zero. -/
theorem instants_of_run (config : Config) (cells : Cells) (clock : Clock) :
    (∀ moves,
      let run := steps clock { config, cells } moves
      let reached := afterMoves clock { config, cells } moves
      (reached.2.InstantsFit ↔ ∀ step ∈ run, ¬step.Exceeds) ∧
        (reached.2.InstantsFit ∨ ∃ us ∈ config.times, lastInstant < reached.1.now + us)) ∧
      ((∀ moves, (afterMoves clock { config, cells } moves).2.InstantsFit) ↔
        ∀ us ∈ config.times, us = 0) := by
  have hfresh : ({ config, cells } : Part).InstantsFit := ⟨Nat.zero_le _, Nat.zero_le _⟩
  have hconsistent := consistent_fresh config cells
  have hbounds (moves : List Move)
      (hlate : ¬(afterMoves clock { config, cells } moves).2.InstantsFit) :
      ∃ us ∈ config.times, lastInstant < (afterMoves clock { config, cells } moves).1.now + us :=
    exists_time_of_not_fit hfresh hconsistent hlate
  refine ⟨fun moves => ⟨?_, ?_⟩, fun hall us hmem => ?_, fun hzero moves => ?_⟩
  · exact (fit_afterMoves moves clock _ hconsistent).trans (and_iff_right hfresh)
  · exact (Decidable.em _).imp_right (hbounds moves)
  · refine Decidable.byContradiction fun hpos => ?_
    obtain ⟨moves, hlate⟩ := exists_not_fit hmem hpos cells clock
    exact hlate (hall moves)
  · refine Decidable.byContradiction fun hlate => ?_
    obtain ⟨us, hmem, hexceeds⟩ := hbounds moves hlate
    rw [hzero us hmem] at hexceeds
    exact Nat.not_lt.2 (afterMoves clock { config, cells } moves).1.now_le hexceeds

/-- Under the times of a common part the sum for a wake-up at the last instant does not fit. -/
theorem deafUntil_past_last :
    let config : Config := { size := 4096 }
    let moves : List Move :=
      [.pause lastInstant, .issue (.simple Opcode.deepPowerDown),
        .issue (.simple Opcode.releasePowerDown)]
    let reached := afterMoves .start (.new config) moves
    config.validate = .ok () ∧ reached.1.now = lastInstant ∧
      reached.2.deafUntil = lastInstant + 20 ∧ ¬reached.2.InstantsFit := by
  intro config moves reached
  exact ⟨Config.validate_eq_ok_iff.2 (by decide), by decide +kernel⟩

end Part

end CardReader
