import CardReader.Flash.Op

/-!
# Outcomes of operations

An operation on a rig is described by what holds of its answer and of the rig that it leaves, and
by what holds of its failure and of the rig that it leaves then.  `Ends` is this description for
one run; each way of putting operations together has one equation for it, so that a description of
a sequence of calls is found from descriptions of its calls.

What is proved here:

* `ends_bind`, `ends_call` and their companions — one equation for each construction;
* `ends_pollUntil` and `ends_wait` — a bounded wait keeps whatever one probe and one delay keep;
* `preserves_bind`, `preserves_wait` and their companions — properties that an operation keeps
  whatever becomes of it, and `keeps_bind`, `keeps_wait` and theirs — properties of the bus alone.
-/

namespace CardReader.Flash.Op

variable {σ α β : Type}

/-! ## Outcomes -/

/-- Run on `rig`, the operation answers as `ok` says or fails as `err` says. -/
def Ends (op : Op σ α) (rig : Rig σ) (ok : α → Rig σ → Prop) (err : Failure → Rig σ → Prop) :
    Prop :=
  match op rig with
  | (.ok a, rig') => ok a rig'
  | (.error failure, rig') => err failure rig'

variable {op : Op σ α} {rig rig' : Rig σ} {ok : α → Rig σ → Prop} {err : Failure → Rig σ → Prop}

theorem ends_of_ok {a : α} (h : op rig = (.ok a, rig')) : Ends op rig ok err ↔ ok a rig' := by
  rw [Ends, h]

theorem ends_of_error {failure : Failure} (h : op rig = (.error failure, rig')) :
    Ends op rig ok err ↔ err failure rig' := by
  rw [Ends, h]

/-- A description may be weakened. -/
theorem Ends.mono {ok' : α → Rig σ → Prop} {err' : Failure → Rig σ → Prop}
    (h : Ends op rig ok err) (hok : ∀ a r, ok a r → ok' a r)
    (herr : ∀ failure r, err failure r → err' failure r) : Ends op rig ok' err' := by
  cases hrun : op rig with
  | mk outcome rig' =>
    cases outcome with
    | ok a => exact (ends_of_ok hrun).2 (hok a rig' ((ends_of_ok hrun).1 h))
    | error failure =>
      exact (ends_of_error hrun).2 (herr failure rig' ((ends_of_error hrun).1 h))

/-- The description of an answer may be weakened. -/
theorem Ends.imp {ok' : α → Rig σ → Prop} (h : Ends op rig ok err)
    (hok : ∀ a r, ok a r → ok' a r) : Ends op rig ok' err :=
  h.mono hok fun _ _ hfailure => hfailure

/-- Two descriptions of one run hold together. -/
theorem Ends.and {ok' : α → Rig σ → Prop} {err' : Failure → Rig σ → Prop}
    (h : Ends op rig ok err) (h' : Ends op rig ok' err') :
    Ends op rig (fun a r => ok a r ∧ ok' a r) fun failure r => err failure r ∧ err' failure r := by
  cases hrun : op rig with
  | mk outcome rig' =>
    cases outcome with
    | ok a => exact (ends_of_ok hrun).2 ⟨(ends_of_ok hrun).1 h, (ends_of_ok hrun).1 h'⟩
    | error failure =>
      exact (ends_of_error hrun).2 ⟨(ends_of_error hrun).1 h, (ends_of_error hrun).1 h'⟩

/-- What holds after an answer and after a failure holds in any case. -/
theorem ends_both_iff {inv : Rig σ → Prop} :
    Ends op rig (fun _ => inv) (fun _ => inv) ↔ inv (op rig).2 := by
  cases hrun : op rig with
  | mk outcome rig' =>
    cases outcome with
    | ok a => rw [ends_of_ok hrun]
    | error failure => rw [ends_of_error hrun]

/-- An operation that cannot fail answers. -/
theorem Ends.exists_ok (h : Ends op rig ok fun _ _ => False) :
    ∃ a rig', op rig = (.ok a, rig') ∧ ok a rig' := by
  cases hrun : op rig with
  | mk outcome rig' =>
    cases outcome with
    | ok a => exact ⟨a, rig', rfl, (ends_of_ok hrun).1 h⟩
    | error failure => exact ((ends_of_error hrun).1 h).elim

/-- An operation that cannot answer fails. -/
theorem Ends.exists_error (h : Ends op rig (fun _ _ => False) err) :
    ∃ failure rig', op rig = (.error failure, rig') ∧ err failure rig' := by
  cases hrun : op rig with
  | mk outcome rig' =>
    cases outcome with
    | ok a => exact ((ends_of_ok hrun).1 h).elim
    | error failure => exact ⟨failure, rig', rfl, (ends_of_error hrun).1 h⟩

/-! ## One equation for each construction -/

@[simp] theorem ends_pure (a : α) : Ends (pure a) rig ok err ↔ ok a rig := Iff.rfl

@[simp] theorem ends_fail (failure : Failure) :
    Ends (fail failure) rig ok err ↔ err failure rig := Iff.rfl

@[simp] theorem ends_bind {next : β → Op σ α} {first : Op σ β} :
    Ends (first >>= next) rig ok err ↔
      Ends first rig (fun b r => Ends (next b) r ok err) err := by
  show (match Op.bind first next rig with
    | (.ok a, r) => ok a r
    | (.error failure, r) => err failure r) ↔ _
  cases hrun : first rig with
  | mk outcome rig' =>
    cases outcome with
    | ok b =>
      rw [ends_of_ok hrun, Op.bind, hrun]
      exact Iff.rfl
    | error failure =>
      rw [ends_of_error hrun, Op.bind, hrun]

/-- What comes next is described for each answer of what comes first. -/
theorem Ends.bind {next : β → Op σ α} {first : Op σ β} {mid : β → Rig σ → Prop}
    (h : Ends first rig mid err) (hnext : ∀ b r, mid b r → Ends (next b) r ok err) :
    Ends (first >>= next) rig ok err := ends_bind.2 (h.imp hnext)

theorem ends_check (outcome : Except Failure α) :
    Ends (check outcome) rig ok err ↔
      (∀ a, outcome = .ok a → ok a rig) ∧
        ∀ failure, outcome = .error failure → err failure rig := by
  cases outcome with
  | ok a => simp [ends_of_ok (show check (.ok a) rig = (.ok a, rig) from rfl)]
  | error failure =>
    simp [ends_of_error (show check (.error failure : Except Failure α) rig = _ from rfl)]

@[simp] theorem ends_check_ok (a : α) : Ends (check (.ok a)) rig ok err ↔ ok a rig := Iff.rfl

@[simp] theorem ends_inspect (view : σ → α) :
    Ends (inspect view) rig ok err ↔ ok (view rig.bus) rig := Iff.rfl

@[simp] theorem ends_update {ok : Unit → Rig σ → Prop} (change : σ → σ) :
    Ends (update change) rig ok err ↔ ok () { rig with bus := change rig.bus } := Iff.rfl

@[simp] theorem ends_clock {ok : Clock → Rig σ → Prop} :
    Ends clock rig ok err ↔ ok rig.clock rig := Iff.rfl

@[simp] theorem ends_delay {ok : Unit → Rig σ → Prop} (us : Nat) :
    Ends (delay us) rig ok err ↔ ok () { rig with clock := rig.clock.delay us } := Iff.rfl

@[simp] theorem ends_report {ok : Unit → Rig σ → Prop} (event : Progress) :
    Ends (report event) rig ok err ↔ ok () { rig with progress := rig.progress.push event } :=
  Iff.rfl

theorem call_eq {method : Clock → σ → Except Failure α × σ} {bus bus' : σ} {clock : Clock}
    {progress : Array Progress} {outcome : Except Failure α}
    (h : method clock bus = (outcome, bus')) :
    call method ⟨bus, clock, progress⟩ = (outcome, ⟨bus', clock, progress⟩) := by
  simp [call, h]

theorem ends_call (method : Clock → σ → Except Failure α × σ) :
    Ends (call method) rig ok err ↔
      (∀ a, (method rig.clock rig.bus).1 = .ok a →
        ok a { rig with bus := (method rig.clock rig.bus).2 }) ∧
      ∀ failure, (method rig.clock rig.bus).1 = .error failure →
        err failure { rig with bus := (method rig.clock rig.bus).2 } := by
  cases hrun : method rig.clock rig.bus with
  | mk outcome bus =>
    have hcall : call method rig = (outcome, { rig with bus }) := call_eq hrun
    cases outcome with
    | ok a => simp [ends_of_ok hcall]
    | error failure => simp [ends_of_error hcall]

@[simp] theorem ends_mapFailure (rename : Failure → Failure) :
    Ends (mapFailure rename op) rig ok err ↔
      Ends op rig ok fun failure r => err (rename failure) r := by
  cases hrun : op rig with
  | mk outcome rig' =>
    cases outcome with
    | ok a => rw [ends_of_ok hrun, Ends, mapFailure, hrun]
    | error failure => rw [ends_of_error hrun, Ends, mapFailure, hrun]

/-! ## Bounded waits -/

variable {probe : Op σ (Option α)} {forward : Forward probe} {late : Failure}

/-- What a probe has to lead to for a wait to keep `inv` between two probes. -/
def Probed (inv : Rig σ → Prop) (late : Failure) (interval : Nat) (deadline : Deadline)
    (ok : α → Rig σ → Prop) (err : Failure → Rig σ → Prop) (answer : Option α) (r : Rig σ) : Prop :=
  match answer with
  | some a => ok a r
  | none =>
    (deadline.expired r.clock = true → err late r) ∧
      (deadline.expired r.clock = false → inv { r with clock := r.clock.delay interval })

/-- A wait ends as one of its probes says, if a probe and the delay after it keep an invariant. -/
theorem ends_pollUntil {interval : Nat} {deadline : Deadline} (inv : Rig σ → Prop)
    (hprobe : ∀ r, inv r → Ends probe r (Probed inv late interval deadline ok err) err)
    (h : inv rig) : Ends (pollUntil probe forward late interval deadline) rig ok err := by
  unfold Ends
  fun_induction pollUntil probe forward late interval deadline rig with
  | case1 rig failure rig' answer => exact (ends_of_error answer).1 (hprobe rig h)
  | case2 rig a rig' answer => exact (ends_of_ok answer).1 (hprobe rig h)
  | case3 rig bus clock progress answer expired =>
    exact ((ends_of_ok answer).1 (hprobe rig h)).1 expired
  | case4 rig bus clock progress answer expired ih =>
    exact ih (((ends_of_ok answer).1 (hprobe rig h)).2 (Bool.eq_false_iff.2 expired))

theorem ends_wait {policy : PollPolicy} (inv : Rig σ → Prop)
    (hprobe : ∀ r, inv r → Ends probe r
      (Probed inv late policy.interval (.after rig.clock policy.timeout) ok err) err)
    (h : inv rig) : Ends (wait probe forward late policy) rig ok err :=
  ends_pollUntil inv hprobe h

/-! ## Properties that an operation keeps -/

/-- The property holds after the operation, whatever became of it, if it did before. -/
def Preserves (inv : Rig σ → Prop) (op : Op σ α) : Prop := ∀ rig, inv rig → inv (op rig).2

section Preserves

variable {inv : Rig σ → Prop} {next : β → Op σ α} {first : Op σ β}

theorem preserves_iff_ends : Preserves inv op ↔
    ∀ rig, inv rig → Ends op rig (fun _ => inv) fun _ => inv :=
  forall_congr' fun _ => imp_congr_right fun _ => ends_both_iff.symm

theorem preserves_pure (a : α) : Preserves inv (pure a : Op σ α) := fun _ h => h

theorem preserves_bind (hfirst : Preserves inv first) (hnext : ∀ b, Preserves inv (next b)) :
    Preserves inv (first >>= next) := by
  refine preserves_iff_ends.2 fun rig h => ends_bind.2 ?_
  exact (preserves_iff_ends.1 hfirst rig h).imp fun b r hr => preserves_iff_ends.1 (hnext b) r hr

theorem preserves_mapFailure (rename : Failure → Failure) (h : Preserves inv op) :
    Preserves inv (mapFailure rename op) :=
  preserves_iff_ends.2 fun rig hrig => (ends_mapFailure rename).2 (preserves_iff_ends.1 h rig hrig)

theorem preserves_wait {policy : PollPolicy} (h : Preserves inv probe)
    (hdelay : Preserves inv (delay policy.interval)) :
    Preserves inv (wait probe forward late policy) := by
  refine preserves_iff_ends.2 fun rig hrig => ends_wait inv (fun r hr => ?_) hrig
  refine (preserves_iff_ends.1 h r hr).imp fun answer r' hr' => ?_
  cases answer with
  | some a => exact hr'
  | none => exact ⟨fun _ => hr', fun _ => hdelay r' hr'⟩

end Preserves

/-- The property holds of the bus after the operation, whatever became of it, if it did before. -/
def Keeps (inv : σ → Prop) (op : Op σ α) : Prop := ∀ rig, inv rig.bus → inv (op rig).2.bus

section Keeps

variable {inv : σ → Prop} {next : β → Op σ α} {first : Op σ β}

theorem keeps_iff_ends : Keeps inv op ↔
    ∀ rig, inv rig.bus → Ends op rig (fun _ r => inv r.bus) fun _ r => inv r.bus :=
  preserves_iff_ends

theorem keeps_pure (a : α) : Keeps inv (pure a : Op σ α) := preserves_pure a

theorem keeps_delay (us : Nat) : Keeps inv (delay us) := fun _ h => h

theorem keeps_update {change : σ → σ} (h : ∀ bus, inv bus → inv (change bus)) :
    Keeps inv (update change) := fun rig => h rig.bus

theorem keeps_call {method : Clock → σ → Except Failure α × σ}
    (h : ∀ clock bus, inv bus → inv (method clock bus).2) : Keeps inv (call method) :=
  fun rig => h rig.clock rig.bus

theorem keeps_bind (hfirst : Keeps inv first) (hnext : ∀ b, Keeps inv (next b)) :
    Keeps inv (first >>= next) := preserves_bind hfirst hnext

theorem keeps_wait {policy : PollPolicy} (h : Keeps inv probe) :
    Keeps inv (wait probe forward late policy) := preserves_wait h (keeps_delay _)

end Keeps

end CardReader.Flash.Op
