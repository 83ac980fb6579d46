import CardReader.Flash.Sequence
import CardReader.Proofs.Outcome

/-!
# Rules for operations

An operation is put together in a few ways from calls of its bus.  So what these ways and the calls
respect is respected by every operation, and the walk over the operations has to be made only once.
Rules are about a relation between operations on two buses; a law about operations on one bus is the
case in which the second operation does not matter.  Along the way the rules count in a unit of
their own: commands of some kind, say, or waits for the part.

What is proved here:

* `Rules.rel_transact`, `Rules.rel_waitReady` and their companions — the sequences follow from the
  rules;
* `Law.rules` — a law comes with rules: what the calls keep and how they may fail is what every
  operation keeps and how it may fail.
-/

namespace CardReader.Flash.Op

/-! ## Rules -/

/-- A relation between operations on two buses, with a rule for each way of putting operations
together and for each call that moves no data. -/
structure Rules (σ τ : Type) [Bus σ] [Bus τ] where
  /-- The operations are related, and count for so much. -/
  Rel : {α : Type} → Nat → Op σ α → Op τ α → Prop
  /-- What an operation may take for granted about its bus. -/
  Holds : σ → Prop
  /-- How an operation may fail. -/
  Allows : Failure → Prop
  /-- Which commands may be issued, and for how much each of them counts. -/
  Sends : Command → Nat → Prop
  /-- Any wait may run out. -/
  allows_of_isTimeout : ∀ {failure : Failure}, failure.isTimeout = true → Allows failure
  rel_pure : ∀ {α : Type} (a : α), Rel 0 (pure a) (pure a)
  rel_fail : ∀ {α : Type} {failure : Failure} (count : Nat), Allows failure →
    Rel (α := α) count (fail failure) (fail failure)
  rel_bind : ∀ {α β : Type} {m n : Nat} {first : Op σ β} {first' : Op τ β} {next : β → Op σ α}
    {next' : β → Op τ α}, Rel m first first' → (∀ b, Rel n (next b) (next' b)) →
      Rel (m + n) (first >>= next) (first' >>= next')
  rel_mapFailure : ∀ {α : Type} {n : Nat} {op : Op σ α} {op' : Op τ α} {rename : Failure → Failure},
    (∀ failure, Allows failure → Allows (rename failure)) → Rel n op op' →
      Rel n (mapFailure rename op) (mapFailure rename op')
  rel_wait : ∀ {α : Type} {probe : Op σ (Option α)} {probe' : Op τ (Option α)}
    {forward : Forward probe} {forward' : Forward probe'} {late : Failure} (policy : PollPolicy),
    Allows late → Rel 0 probe probe' →
      Rel 0 (wait probe forward late policy) (wait probe' forward' late policy)
  rel_features : ∀ {α : Type} {n : Nat} {next : BusFeatures → Op σ α}
    {next' : BusFeatures → Op τ α},
    (∀ bus, Holds bus → Rel n (next (Bus.features bus)) (next' (Bus.features bus))) →
      Rel n (inspect Bus.features >>= next) (inspect Bus.features >>= next')
  rel_readDepth : ∀ {α : Type} {n : Nat} {next : Nat → Op σ α} {next' : Nat → Op τ α},
    (∀ bus, Holds bus → Rel n (next (Bus.readDepth bus)) (next' (Bus.readDepth bus))) →
      Rel n (inspect Bus.readDepth >>= next) (inspect Bus.readDepth >>= next')
  rel_writeDepth : ∀ {α : Type} {n : Nat} {next : Nat → Op σ α} {next' : Nat → Op τ α},
    (∀ bus, Holds bus → Rel n (next (Bus.writeDepth bus)) (next' (Bus.writeDepth bus))) →
      Rel n (inspect Bus.writeDepth >>= next) (inspect Bus.writeDepth >>= next')
  rel_clock : Rel 0 clock clock
  rel_delay : ∀ us, Rel 0 (delay us) (delay us)
  rel_report : ∀ event, Rel 0 (report event) (report event)
  rel_params : ∀ value, Rel 0 (update (Bus.setDeviceParams value))
    (update (Bus.setDeviceParams value))
  rel_flush : Rel 0 (update Bus.flushFifos) (update Bus.flushFifos)
  rel_issue : ∀ {command : Command} {n : Nat}, Sends command n →
    Rel n (call (Bus.issue · command)) (call (Bus.issue · command))
  rel_pollDone : Rel 0 (call Bus.pollDone) (call Bus.pollDone)

namespace Rules

variable {σ τ α β : Type} [Bus σ] [Bus τ] (rules : Rules σ τ) {count : Nat}

/-- The check is passed, or it fails in a way that is allowed. -/
def Accepts (outcome : Except Failure α) : Prop :=
  ∀ failure, outcome = .error failure → rules.Allows failure

theorem accepts_of_ok {outcome : Except Failure α} {a : α} (h : outcome = .ok a) :
    rules.Accepts outcome := by
  subst h
  exact nofun

/-- Whatever bus it is, the check of the mode is passed or fails in a way that is allowed. -/
def AcceptsMode (mode : BusMode) : Prop :=
  ∀ bus, rules.Holds bus → rules.Accepts (mode.check (Bus.features bus))

/-- A bus can drive the mode, as far as is known. -/
def Checked (mode : BusMode) : Prop :=
  ∃ bus, rules.Holds bus ∧ mode.check (Bus.features bus) = .ok ()

/-- What comes first does not count. -/
theorem rel_silent_bind {first : Op σ β} {first' : Op τ β} {next : β → Op σ α}
    {next' : β → Op τ α} (hfirst : rules.Rel 0 first first')
    (hnext : ∀ b, rules.Rel count (next b) (next' b)) :
    rules.Rel count (first >>= next) (first' >>= next') := by
  have h := rules.rel_bind hfirst hnext
  rwa [Nat.zero_add] at h

/-- What comes last does not count. -/
theorem rel_bind_silent {first : Op σ β} {first' : Op τ β} {next : β → Op σ α}
    {next' : β → Op τ α} (hfirst : rules.Rel count first first')
    (hnext : ∀ b, rules.Rel 0 (next b) (next' b)) :
    rules.Rel count (first >>= next) (first' >>= next') := rules.rel_bind hfirst hnext

theorem rel_bind_pure {op : Op σ β} {op' : Op τ β} (h : rules.Rel count op op') (answer : β → α) :
    rules.Rel count (op >>= fun b => pure (answer b)) (op' >>= fun b => pure (answer b)) :=
  rules.rel_bind_silent h fun _ => rules.rel_pure _

theorem rel_ite {c : Prop} [Decidable c] {op other : Op σ α} {op' other' : Op τ α}
    (h : c → rules.Rel count op op') (hother : ¬c → rules.Rel count other other') :
    rules.Rel count (if c then op else other) (if c then op' else other') := by
  by_cases hc : c
  · rw [if_pos hc, if_pos hc]
    exact h hc
  · rw [if_neg hc, if_neg hc]
    exact hother hc

/-- What comes after a check may rely on it. -/
theorem rel_check_bind {outcome : Except Failure β} {next : β → Op σ α} {next' : β → Op τ α}
    (haccepts : rules.Accepts outcome)
    (hnext : ∀ b, outcome = .ok b → rules.Rel count (next b) (next' b)) :
    rules.Rel count (check outcome >>= next) (check outcome >>= next') := by
  cases outcome with
  | ok b => exact hnext b rfl
  | error failure => exact rules.rel_fail count (haccepts failure rfl)

/-! ## Sequences -/

open Sequence

theorem rel_waitDone (opcode : UInt8) (policy : PollPolicy) :
    rules.Rel 0 (waitDone opcode policy) (waitDone opcode policy) :=
  rules.rel_wait policy (rules.allows_of_isTimeout rfl) rules.rel_pollDone

theorem rel_transact {command : Command} (hsends : rules.Sends command count)
    (policy : PollPolicy) :
    rules.Rel count (transact command policy) (transact command policy) :=
  rules.rel_bind (rules.rel_issue hsends) fun _ => rules.rel_bind_pure (rules.rel_waitDone _ _) _

theorem rel_singleCommand {opcode : UInt8} {mode : BusMode}
    (hsends : rules.Sends ((Command.simple opcode).withMode mode) count) (policy : PollPolicy) :
    rules.Rel count (singleCommand opcode mode policy) (singleCommand opcode mode policy) :=
  rules.rel_bind_pure (rules.rel_transact hsends policy) _

theorem rel_readStatus {opcode : UInt8}
    (hsends : rules.Sends (Command.readRegister opcode 1) count) (policy : PollPolicy) :
    rules.Rel count (readStatus opcode policy) (readStatus opcode policy) :=
  rules.rel_bind_pure (rules.rel_transact hsends policy) _

theorem rel_waitReady (hsends : rules.Sends (Command.readRegister Opcode.readStatus1 1) 0)
    (policy : PollPolicy) : rules.Rel 0 (waitReady policy) (waitReady policy) :=
  rules.rel_wait policy (rules.allows_of_isTimeout rfl)
    (rules.rel_bind_pure (rules.rel_readStatus hsends policy) _)

end Rules

/-! ## Laws -/

/-- From a rig with `inv` the operation leads to one that has it.  If it answers it has gone `step`
far, and if it fails it does so in a way that `allows` admits. -/
def Respects {σ α : Type} (inv : Rig σ → Prop) (step : Nat → Rig σ → Rig σ → Prop)
    (allows : Failure → Prop) (count : Nat) (op : Op σ α) : Prop :=
  ∀ rig, inv rig → op.Ends rig (fun _ r => inv r ∧ step count rig r)
    fun failure r => inv r ∧ allows failure

section Respects

variable {σ α : Type} {inv : Rig σ → Prop} {step : Nat → Rig σ → Rig σ → Prop}
  {allows : Failure → Prop} {count : Nat} {op : Op σ α} {rig : Rig σ}

theorem Respects.ends_ok (h : Respects inv step allows count op) (hrig : inv rig) :
    op.Ends rig (fun _ r => inv r ∧ step count rig r) fun _ r => inv r :=
  (h rig hrig).mono (fun _ _ => id) fun _ _ hr => hr.1

theorem Respects.ends_error (h : Respects inv step allows count op) (hrig : inv rig) :
    op.Ends rig (fun _ r => inv r) fun failure _ => allows failure :=
  (h rig hrig).mono (fun _ _ hr => hr.1) fun _ _ hr => hr.2

theorem Respects.preserves (h : Respects inv step allows count op) : Preserves inv op :=
  preserves_iff_ends.2 fun _ hrig => (h.ends_ok hrig).imp fun _ _ hr => hr.1

end Respects

/-- What is respected by the calls of a bus that move no data. -/
structure Law (σ : Type) [Bus σ] where
  /-- What holds before and after each operation. -/
  Inv : Rig σ → Prop
  /-- How far an operation goes that counts for so much. -/
  Step : Nat → Rig σ → Rig σ → Prop
  /-- How an operation may fail. -/
  Allows : Failure → Prop
  /-- Which commands may be issued, and for how much each of them counts. -/
  Sends : Command → Nat → Prop
  allows_of_isTimeout : ∀ {failure : Failure}, failure.isTimeout = true → Allows failure
  step_refl : ∀ rig, Step 0 rig rig
  step_add : ∀ {m n : Nat} {a b c : Rig σ}, Step m a b → Step n b c → Step (m + n) a c
  respects_delay : ∀ us, Respects Inv Step Allows 0 (delay us)
  respects_report : ∀ event, Respects Inv Step Allows 0 (report event)
  respects_params : ∀ value, Respects Inv Step Allows 0 (update (Bus.setDeviceParams value))
  respects_flush : Respects Inv Step Allows 0 (update Bus.flushFifos)
  respects_issue : ∀ {command : Command} {n : Nat}, Sends command n →
    Respects Inv Step Allows n (call (Bus.issue · command))
  respects_pollDone : Respects Inv Step Allows 0 (call Bus.pollDone)

namespace Law

variable {σ α β : Type} [Bus σ] (law : Law σ) {count : Nat}

/-- The operation respects the law and counts for so much. -/
def Rel (count : Nat) (op : Op σ α) : Prop := Respects law.Inv law.Step law.Allows count op

theorem rel_pure (a : α) : law.Rel 0 (pure a : Op σ α) :=
  fun rig hrig => ⟨hrig, law.step_refl rig⟩

theorem rel_bind {m n : Nat} {first : Op σ β} {next : β → Op σ α} (hfirst : law.Rel m first)
    (hnext : ∀ b, law.Rel n (next b)) : law.Rel (m + n) (first >>= next) :=
  fun rig hrig => (hfirst rig hrig).bind fun b r hr => (hnext b r hr.1).imp
    fun _ _ hr' => ⟨hr'.1, law.step_add hr.2 hr'.2⟩

/-- Whatever is seen of the bus, nothing has happened to it. -/
theorem rel_inspect (view : σ → α) : law.Rel 0 (inspect view) :=
  fun rig hrig => ⟨hrig, law.step_refl rig⟩

/-- What comes after a look at the bus may rely on what holds of it. -/
theorem rel_inspect_bind {view : σ → β} {next : β → Op σ α}
    (h : ∀ rig, law.Inv rig → law.Rel count (next (view rig.bus))) :
    law.Rel count (inspect view >>= next) := fun rig hrig => h rig hrig rig hrig

theorem rel_wait {probe : Op σ (Option α)} {forward : Forward probe} {late : Failure}
    (policy : PollPolicy) (hlate : law.Allows late) (hprobe : law.Rel 0 probe) :
    law.Rel 0 (wait probe forward late policy) := by
  intro rig hrig
  refine ends_wait (fun r => law.Inv r ∧ law.Step 0 rig r) (fun r hr => ?_)
    ⟨hrig, law.step_refl rig⟩
  refine (hprobe r hr.1).mono (fun answer r' hr' => ?_) fun _ _ hr' => hr'
  have hstep : law.Step 0 rig r' := law.step_add hr.2 hr'.2
  cases answer with
  | some a => exact ⟨hr'.1, hstep⟩
  | none =>
    refine ⟨fun _ => ⟨hr'.1, hlate⟩, fun _ => ?_⟩
    have hdelayed := law.respects_delay policy.interval r' hr'.1
    exact ⟨hdelayed.1, law.step_add hstep hdelayed.2⟩

/-- The rules of a law relate each operation that respects it to any other. -/
def rules : Rules σ σ where
  Rel count op _ := law.Rel count op
  Holds bus := ∃ rig, law.Inv rig ∧ rig.bus = bus
  Allows := law.Allows
  Sends := law.Sends
  allows_of_isTimeout := law.allows_of_isTimeout
  rel_pure := law.rel_pure
  rel_fail _ hallows _ hrig := ⟨hrig, hallows⟩
  rel_bind := law.rel_bind
  rel_mapFailure hrename h rig hrig := (ends_mapFailure _).2 <|
    (h rig hrig).mono (fun _ _ hr => hr) fun failure _ hr => ⟨hr.1, hrename failure hr.2⟩
  rel_wait := law.rel_wait
  rel_features h := law.rel_inspect_bind fun rig hrig => h rig.bus ⟨rig, hrig, rfl⟩
  rel_readDepth h := law.rel_inspect_bind fun rig hrig => h rig.bus ⟨rig, hrig, rfl⟩
  rel_writeDepth h := law.rel_inspect_bind fun rig hrig => h rig.bus ⟨rig, hrig, rfl⟩
  rel_clock rig hrig := ⟨hrig, law.step_refl rig⟩
  rel_delay := law.respects_delay
  rel_report := law.respects_report
  rel_params := law.respects_params
  rel_flush := law.respects_flush
  rel_issue := law.respects_issue
  rel_pollDone := law.respects_pollDone

theorem rel_idleProbe (channel : Nat) :
    law.Rel 0 (Sequence.idleProbe channel : Op σ (Option Unit)) :=
  fun rig hrig => ⟨hrig, law.step_refl rig⟩

/-- A channel is given back whatever becomes of the body. -/
theorem rel_withChannel {channel : Nat} {body : Op σ α} (hnone : law.Allows .dmaNotSupported)
    (hacquire : law.Rel 0 (call (Bus.dmaAcquire · channel)))
    (hrelease : law.Rel 0 (update (Bus.dmaRelease channel))) (hbody : law.Rel count body) :
    law.Rel count (Sequence.withChannel channel body) := by
  suffices h : law.rules.Rel count (Sequence.withChannel channel body)
      (Sequence.withChannel channel body) from h
  refine law.rules.rel_features fun _ _ => law.rules.rel_ite
    (fun _ => law.rules.rel_silent_bind hacquire fun _ rig hrig => ?_)
    fun _ => law.rules.rel_fail count hnone
  -- the body has been run, and the channel is given back to what it has left
  have hends := hbody rig hrig
  unfold Ends at hends ⊢
  dsimp only at hends ⊢
  generalize body rig = ended at hends ⊢
  obtain ⟨outcome, r⟩ := ended
  cases outcome with
  | ok a =>
    have hreleased := hrelease r hends.1
    exact ⟨hreleased.1, law.step_add hends.2 hreleased.2⟩
  | error failure => exact ⟨(hrelease r hends.1).1, hends.2⟩

end Law

end CardReader.Flash.Op
