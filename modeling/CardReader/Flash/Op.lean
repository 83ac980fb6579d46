import CardReader.Flash.Bus

/-!
# Operations on a rig

A rig is a bus with its clock and the progress reported so far.  An operation runs on a rig and
either answers or fails; what it did to the rig before it failed stays done.  Operations that never
turn the clock back are called forward; every operation built from the pieces here is, which is
why a wait that repeats one comes to its deadline.
-/

namespace CardReader.Flash

/-! ## Progress -/

/-- What a program operation has achieved. -/
structure ProgramStats where
  /-- Page windows programmed. -/
  windows : Nat := 0
  /-- Program transactions for whole data. -/
  transfers : Nat := 0
  /-- Separate transactions for a padded tail, at most one. -/
  tailTransfers : Nat := 0
  /-- Bytes written, padding included. -/
  bytesProgrammed : Nat := 0
  deriving DecidableEq

/-- A report on the way through a program operation. -/
inductive Progress where
  /-- The operation starts and will write this many bytes. -/
  | programming (total : Nat)
  /-- This many bytes have been written. -/
  | programmed (done : Nat)
  /-- The operation is complete. -/
  | complete (stats : ProgramStats)
  deriving DecidableEq

/-! ## Rigs and operations -/

/-- A bus, its clock and the progress reported so far. -/
structure Rig (σ : Type) where
  /-- The state of the bus. -/
  bus : σ
  /-- The present time. -/
  clock : Clock
  /-- Reports of program operations, oldest first. -/
  progress : Array Progress := #[]

/-- An operation on a rig. -/
def Op (σ α : Type) : Type := Rig σ → Except Failure α × Rig σ

namespace Op

variable {σ α β : Type}

/-- Runs an operation on a rig. -/
@[inline] def run (op : Op σ α) (rig : Rig σ) : Except Failure α × Rig σ := op rig

/-- Answers at once. -/
@[inline] protected def pure (a : α) : Op σ α := fun rig => (.ok a, rig)

/-- Goes on with the answer of the first operation, or ends with its failure. -/
@[inline] protected def bind (op : Op σ α) (next : α → Op σ β) : Op σ β := fun rig =>
  match op rig with
  | (.ok a, rig) => next a rig
  | (.error failure, rig) => (.error failure, rig)

instance : Monad (Op σ) where
  pure := Op.pure
  bind := Op.bind

/-- Fails at once. -/
@[inline] def fail (failure : Failure) : Op σ α := fun rig => (.error failure, rig)

/-- Ends with the outcome of a check that needs no rig. -/
@[inline] def check (outcome : Except Failure α) : Op σ α := fun rig => (outcome, rig)

/-- Replaces the failure of an operation. -/
@[inline] def mapFailure (rename : Failure → Failure) (op : Op σ α) : Op σ α := fun rig =>
  match op rig with
  | (.ok a, rig) => (.ok a, rig)
  | (.error failure, rig) => (.error (rename failure), rig)

/-- Looks at the bus. -/
@[inline] def inspect (view : σ → α) : Op σ α := fun rig => (.ok (view rig.bus), rig)

/-- Changes the bus by a call that cannot fail. -/
@[inline] def update (change : σ → σ) : Op σ Unit := fun ⟨bus, clock, progress⟩ =>
  (.ok (), ⟨change bus, clock, progress⟩)

/-- Makes a call of the bus. -/
@[inline] def call (method : Clock → σ → Except Failure α × σ) : Op σ α :=
  fun ⟨bus, clock, progress⟩ =>
    match method clock bus with
    | (outcome, bus) => (outcome, ⟨bus, clock, progress⟩)

/-- Looks at the clock. -/
@[inline] def clock : Op σ Clock := fun rig => (.ok rig.clock, rig)

/-- Lets time pass. -/
@[inline] def delay (us : Nat) : Op σ Unit := fun ⟨bus, clock, progress⟩ =>
  (.ok (), ⟨bus, clock.delay us, progress⟩)

/-- Reports progress. -/
@[inline] def report (event : Progress) : Op σ Unit := fun ⟨bus, clock, progress⟩ =>
  (.ok (), ⟨bus, clock, progress.push event⟩)

/-! ## Operations that never turn the clock back -/

/-- No run of the operation ends earlier than it began. -/
def Forward (op : Op σ α) : Prop := ∀ rig, rig.clock.now ≤ (op rig).2.clock.now

theorem forward_pure (a : α) : Forward (pure a : Op σ α) := fun _ => Nat.le_refl _

theorem forward_bind {op : Op σ α} {next : α → Op σ β} (h : Forward op)
    (hnext : ∀ a, Forward (next a)) : Forward (op >>= next) := by
  intro rig
  have h₀ := h rig
  show rig.clock.now ≤ (Op.bind op next rig).2.clock.now
  unfold Op.bind
  split
  · rename_i a rig' he
    rw [he] at h₀
    exact Nat.le_trans h₀ (hnext a rig')
  · rename_i failure rig' he
    rw [he] at h₀
    exact h₀

theorem forward_call (method : Clock → σ → Except Failure α × σ) : Forward (call method) :=
  fun _ => Nat.le_refl _

/-! ## Bounded waits -/

/-- Repeats a probe until it answers.  The first unanswered probe at or past the deadline ends
the wait with the failure `late`; between two probes lies one delay of `interval`. -/
def pollUntil (probe : Op σ (Option α)) (forward : Forward probe) (late : Failure)
    (interval : Nat) (deadline : Deadline) (rig : Rig σ) : Except Failure α × Rig σ :=
  match _answer : probe rig with
  | (.error failure, rig') => (.error failure, rig')
  | (.ok (some a), rig') => (.ok a, rig')
  | (.ok none, ⟨bus, clock, progress⟩) =>
    if _expired : deadline.expired clock then (.error late, ⟨bus, clock, progress⟩)
    else pollUntil probe forward late interval deadline ⟨bus, clock.delay interval, progress⟩
termination_by deadline.remaining rig.clock
decreasing_by
  have hprobe := forward rig
  rw [_answer] at hprobe
  have hnear := Deadline.remaining_delay_lt interval (Bool.eq_false_iff.2 _expired)
  exact Nat.lt_of_lt_of_le hnear (Deadline.remaining_le_of_now_le hprobe)

theorem forward_pollUntil (probe : Op σ (Option α)) (forward : Forward probe) (late : Failure)
    (interval : Nat) (deadline : Deadline) :
    Forward (pollUntil probe forward late interval deadline) := by
  intro rig
  fun_induction pollUntil probe forward late interval deadline rig with
  | case1 rig failure rig' answer => have := forward rig; rw [answer] at this; exact this
  | case2 rig a rig' answer => have := forward rig; rw [answer] at this; exact this
  | case3 rig bus clock progress answer expired =>
    have := forward rig
    rw [answer] at this
    exact this
  | case4 rig bus clock progress answer expired ih =>
    have h₀ := forward rig
    rw [answer] at h₀
    exact Nat.le_trans h₀ (Nat.le_trans (clock.now_le_delay interval) ih)

/-- A bounded wait under a poll policy, whose deadline counts from its first probe. -/
def wait (probe : Op σ (Option α)) (forward : Forward probe) (late : Failure)
    (policy : PollPolicy) : Op σ α := fun rig =>
  pollUntil probe forward late policy.interval (.after rig.clock policy.timeout) rig

theorem forward_wait (probe : Op σ (Option α)) (forward : Forward probe) (late : Failure)
    (policy : PollPolicy) : Forward (wait probe forward late policy) :=
  fun rig => forward_pollUntil probe forward late policy.interval (.after rig.clock policy.timeout) rig

end Op

end CardReader.Flash
