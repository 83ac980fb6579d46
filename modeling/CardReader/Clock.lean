/-!
# Time

A clock counts microseconds up to the last instant its 64-bit counter can show and stays there.
A deadline is an instant on such a clock; a poll policy says how long a bounded wait may take and
how far apart its polls are.
-/

namespace CardReader

/-- The last instant a clock can show. -/
def lastInstant : Nat := 0xFFFFFFFFFFFFFFFF

/-- The present instant, in microseconds since the start. -/
structure Clock where
  /-- Microseconds since the start. -/
  now : Nat
  /-- The counter never shows more than it can hold. -/
  now_le : now ≤ lastInstant

namespace Clock

/-- A clock at its start. -/
def start : Clock := ⟨0, Nat.zero_le _⟩

/-- Time moves on by `us` microseconds, at most to the last instant. -/
def advance (clock : Clock) (us : Nat) : Clock :=
  ⟨min (clock.now + us) lastInstant, Nat.min_le_right _ _⟩

/-- The clock after a delay; even a delay of nothing takes one microsecond, so that a wait that
only delays comes to an end. -/
def delay (clock : Clock) (us : Nat) : Clock := clock.advance (max us 1)

theorem now_le_advance (clock : Clock) (us : Nat) : clock.now ≤ (clock.advance us).now := by
  have := clock.now_le
  simp only [advance]
  omega

theorem now_le_delay (clock : Clock) (us : Nat) : clock.now ≤ (clock.delay us).now :=
  clock.now_le_advance _

/-- Before the last instant a delay moves time on. -/
theorem now_lt_delay {clock : Clock} (us : Nat) (h : clock.now < lastInstant) :
    clock.now < (clock.delay us).now := by
  simp only [delay, advance]
  omega

end Clock

/-! ## Deadlines -/

/-- The instant after which a wait gives up. -/
structure Deadline where
  /-- The instant itself. -/
  instant : Nat
  /-- A deadline is never later than the last instant, so it always comes. -/
  instant_le : instant ≤ lastInstant

namespace Deadline

/-- The deadline `us` microseconds from now, at most the last instant. -/
def after (clock : Clock) (us : Nat) : Deadline :=
  ⟨min (clock.now + us) lastInstant, Nat.min_le_right _ _⟩

/-- Whether the deadline has come. -/
def expired (deadline : Deadline) (clock : Clock) : Bool := decide (deadline.instant ≤ clock.now)

/-- Microseconds left, none once the deadline has come. -/
def remaining (deadline : Deadline) (clock : Clock) : Nat := deadline.instant - clock.now

/-- A delay before the deadline brings it nearer. -/
theorem remaining_delay_lt {deadline : Deadline} {clock : Clock} (us : Nat)
    (h : deadline.expired clock = false) :
    deadline.remaining (clock.delay us) < deadline.remaining clock := by
  have hd := deadline.instant_le
  simp only [expired, decide_eq_false_iff_not, Nat.not_le] at h
  have := Clock.now_lt_delay us (Nat.lt_of_lt_of_le h hd)
  simp only [remaining]
  omega

/-- Time that has not gone back leaves no more than before. -/
theorem remaining_le_of_now_le {deadline : Deadline} {a b : Clock} (h : a.now ≤ b.now) :
    deadline.remaining b ≤ deadline.remaining a := by
  simp only [remaining]
  omega

end Deadline

/-! ## Poll policies -/

/-- How a bounded wait polls. -/
structure PollPolicy where
  /-- The wait gives up after this many microseconds. -/
  timeout : Nat := 10000000
  /-- The delay between two polls, in microseconds. -/
  interval : Nat := 100
  deriving DecidableEq

end CardReader
