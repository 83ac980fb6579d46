import CardReader.Part.Faulty
import CardReader.Proofs.Part.Commands

/-!
# Buses with a part behind them

A part itself is a bus, and so is a part behind a bus that loses some calls.  What holds of
operations on either is proved once, of any bus with a part behind it: each call of such a bus
does what it does to the part, or it goes astray and leaves the part as it is.

What is proved here:

* the instances for `Part`, on which no call goes astray, and for `FaultyPart`, on which the
  planned calls do;
* `relays_attempt` — the two ways in which a call that is planned to fail can end.
-/

namespace CardReader

open Flash

/-- A call of a bus does what the direct call does to the part, or it fails and leaves the part
alone; the failures with which calls can go astray stay the same. -/
def Relays {σ α : Type} (part : σ → Part) (strays : σ → Failure → Prop)
    (call : σ → Except Failure α × σ) (direct : Part → Except Failure α × Part) : Prop :=
  ∀ bus, strays (call bus).2 = strays bus ∧
    ((call bus).1 = (direct (part bus)).1 ∧ part (call bus).2 = (direct (part bus)).2 ∨
      ∃ failure, strays bus failure ∧ (call bus).1 = .error failure ∧
        part (call bus).2 = part bus)

/-- A bus with a part behind it. -/
class Carrier (σ : Type) [Bus σ] where
  /-- The part behind the bus. -/
  part : σ → Part
  /-- The failures with which a call can go astray. -/
  strays : σ → Failure → Prop
  features_eq : ∀ bus, Bus.features bus = (part bus).features
  writeDepth_eq : ∀ bus, Bus.writeDepth bus = (part bus).config.writeDepth
  writeLevel_eq : ∀ clock bus, Bus.writeLevel clock bus = (part bus).writeFifo.length
  part_flush : ∀ bus, part (Bus.flushFifos bus) = { part bus with readFifo := [], writeFifo := [] }
  strays_flush : ∀ bus, strays (Bus.flushFifos bus) = strays bus
  part_params : ∀ value bus,
    part (Bus.setDeviceParams value bus) = { part bus with deviceParams := value }
  strays_params : ∀ value bus, strays (Bus.setDeviceParams value bus) = strays bus
  relays_queue : ∀ clock data,
    Relays part strays (Bus.writeFifo clock data) (Part.queue clock data)
  relays_take : ∀ clock count, Relays part strays (Bus.readFifo clock count) (Part.take count)
  relays_issue : ∀ clock command,
    Relays part strays (Bus.issue clock command) (Part.issue clock command)
  relays_pollDone : ∀ clock, Relays part strays (Bus.pollDone clock) (Part.pollDone clock)
  relays_acquire : ∀ clock channel,
    Relays part strays (Bus.dmaAcquire clock channel) (Part.dmaAcquire channel)
  relays_start : ∀ clock channel block,
    Relays part strays (Bus.dmaStart clock channel block) (Part.dmaStart clock channel block)
  dmaIdle_eq : ∀ clock channel bus, Bus.dmaIdle clock channel bus = (part bus).dmaIdle channel
  part_release : ∀ channel bus, part (Bus.dmaRelease channel bus) = (part bus).dmaRelease channel
  strays_release : ∀ channel bus, strays (Bus.dmaRelease channel bus) = strays bus

/-- A part is behind itself, and no call goes astray. -/
instance : Carrier Part where
  part part := part
  strays _ _ := False
  features_eq _ := rfl
  writeDepth_eq _ := rfl
  writeLevel_eq _ _ := rfl
  part_flush _ := rfl
  strays_flush _ := rfl
  part_params _ _ := rfl
  strays_params _ _ := rfl
  relays_queue _ _ _ := ⟨rfl, .inl ⟨rfl, rfl⟩⟩
  relays_take _ _ _ := ⟨rfl, .inl ⟨rfl, rfl⟩⟩
  relays_issue _ _ _ := ⟨rfl, .inl ⟨rfl, rfl⟩⟩
  relays_pollDone _ _ := ⟨rfl, .inl ⟨rfl, rfl⟩⟩
  relays_acquire _ _ _ := ⟨rfl, .inl ⟨rfl, rfl⟩⟩
  relays_start _ _ _ _ := ⟨rfl, .inl ⟨rfl, rfl⟩⟩
  dmaIdle_eq _ _ _ := rfl
  part_release _ _ := rfl
  strays_release _ _ := rfl

/-! ## Parts on a faulty bus -/

namespace FaultPlan

/-- Some call is planned to fail in this way. -/
def Plans (plan : FaultPlan) (failure : Failure) : Prop :=
  ∃ kind call, (plan.get kind).failure call = some failure

/-- Counting a call changes no schedule. -/
theorem plans_next (plan : FaultPlan) (kind : CallKind) :
    (plan.next kind).2.Plans = plan.Plans := by
  have hget : ∀ other, ((plan.next kind).2.get other).failure = (plan.get other).failure := by
    intro other
    cases kind <;> cases other <;> rfl
  funext failure
  simp [Plans, hget]

end FaultPlan

namespace FaultyPart

variable {α : Type} {call : Part → Except Failure α × Part}

theorem relays_reach : Relays FaultyPart.part (fun faulty => faulty.plan.Plans) (reach call) call :=
  fun _ => ⟨rfl, .inl ⟨rfl, rfl⟩⟩

/-- A call that can be planned to fail is one of the two. -/
theorem relays_attempt (kind : CallKind) :
    Relays FaultyPart.part (fun faulty => faulty.plan.Plans) (attempt kind call) call := by
  rintro ⟨part, plan⟩
  have hplans := FaultPlan.plans_next plan kind
  rw [attempt]
  cases hnext : plan.next kind with
  | mk fate plan' =>
    rw [hnext] at hplans
    cases fate with
    | none => exact ⟨hplans, .inl ⟨rfl, rfl⟩⟩
    | some failure =>
      refine ⟨hplans, .inr ⟨failure, ⟨kind, (plan.get kind).calls, ?_⟩, rfl, rfl⟩⟩
      exact congrArg Prod.fst hnext

theorem relays_issue (clock : Clock) (command : Command) :
    Relays FaultyPart.part (fun faulty => faulty.plan.Plans) (issue clock command)
      (Part.issue clock command) := by
  intro faulty
  by_cases hcounts : faulty.counts command = true
  · have hissue : issue clock command faulty =
        attempt .issue (Part.issue clock command) faulty := if_pos hcounts
    rw [hissue]
    exact relays_attempt .issue faulty
  · have hissue : issue clock command faulty = reach (Part.issue clock command) faulty :=
      if_neg hcounts
    rw [hissue]
    exact relays_reach faulty

/-- On a faulty bus the planned failures are those with which calls go astray. -/
instance : Carrier FaultyPart where
  part := FaultyPart.part
  strays faulty := faulty.plan.Plans
  features_eq _ := rfl
  writeDepth_eq _ := rfl
  writeLevel_eq _ _ := rfl
  part_flush _ := rfl
  strays_flush _ := rfl
  part_params _ _ := rfl
  strays_params _ _ := rfl
  relays_queue _ _ := relays_attempt .writeFifo
  relays_take _ _ := relays_attempt .readFifo
  relays_issue := relays_issue
  relays_pollDone _ := relays_attempt .pollDone
  relays_acquire _ _ := relays_reach
  relays_start _ _ _ := relays_attempt .dmaStart
  dmaIdle_eq _ _ _ := rfl
  part_release _ _ := rfl
  strays_release _ _ := rfl

end FaultyPart

end CardReader
