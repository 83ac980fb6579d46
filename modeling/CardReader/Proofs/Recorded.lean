import CardReader.Proofs.View

/-!
# A bus that is recorded

A bus that notes every call that can change it, with what came of the call, and otherwise relays
it.  The bus behind it is a view of it, so recording a bus changes no operation, whatever the bus
answers and wherever it fails.  What the calls of an operation were can then be read off the
record.

What is proved here:

* the instances that make a recorded bus a bus with the same part behind it, and the bus behind it
  a view of it;
* `records_bind`, `records_wait` and their companions — how the record of an operation grows, one
  rule for each construction, whatever the bus answers;
* `unseen_bind`, `unseen_transact` and their companions — the operations whose calls a view of the
  record leaves out.
-/

namespace CardReader.Flash

/-! ## Records -/

/-- A call of a bus, and what came of it. -/
inductive Event where
  /-- The device parameters were written. -/
  | setParams (value : UInt32)
  /-- The FIFOs were emptied. -/
  | flush
  /-- Bytes were offered to the write FIFO. -/
  | write (data : List UInt8) (accepted : Bool)
  /-- Bytes were asked of the read FIFO. -/
  | take (count : Nat) (answered : Bool)
  /-- A transaction was issued. -/
  | issue (command : Command) (accepted : Bool)
  /-- The transaction was asked for; the register value if it was over. -/
  | poll (value : Option UInt32)
  /-- A DMA channel was claimed. -/
  | acquire (channel : Nat) (granted : Bool)
  /-- A block was loaded into a DMA channel. -/
  | start (channel : Nat) (block : List UInt8) (accepted : Bool)
  /-- A DMA channel was given back. -/
  | release (channel : Nat)
  deriving DecidableEq

/-- The calls that could change a bus, the last one first. -/
abbrev Record := List Event

/-- A bus, and all calls that could change it. -/
structure Recorded (σ : Type) where
  /-- The bus. -/
  bus : σ
  /-- The calls. -/
  record : Record := []

namespace Recorded

variable {σ : Type}

/-- Makes a call of the bus and notes it. -/
def note {α : Type} (event : Except Failure α → Event) (call : σ → Except Failure α × σ)
    (recorded : Recorded σ) : Except Failure α × Recorded σ :=
  ((call recorded.bus).1,
    { bus := (call recorded.bus).2, record := event (call recorded.bus).1 :: recorded.record })

/-- The register value that a poll has found. -/
def found : Except Failure (Option UInt32) → Option UInt32
  | .ok value => value
  | .error _ => none

instance [Bus σ] : Bus (Recorded σ) where
  features recorded := Bus.features recorded.bus
  readDepth recorded := Bus.readDepth recorded.bus
  writeDepth recorded := Bus.writeDepth recorded.bus
  writeLevel clock recorded := Bus.writeLevel clock recorded.bus
  setDeviceParams value recorded :=
    { bus := Bus.setDeviceParams value recorded.bus
      record := .setParams value :: recorded.record }
  flushFifos recorded :=
    { bus := Bus.flushFifos recorded.bus, record := .flush :: recorded.record }
  writeFifo clock data := note (.write data ·.isOk) (Bus.writeFifo clock data)
  readFifo clock count := note (.take count ·.isOk) (Bus.readFifo clock count)
  issue clock command := note (.issue command ·.isOk) (Bus.issue clock command)
  pollDone clock := note (.poll ∘ found) (Bus.pollDone clock)
  dmaAcquire clock channel := note (.acquire channel ·.isOk) (Bus.dmaAcquire clock channel)
  dmaStart clock channel block :=
    note (.start channel block ·.isOk) (Bus.dmaStart clock channel block)
  dmaIdle clock channel recorded := Bus.dmaIdle clock channel recorded.bus
  dmaRelease channel recorded :=
    { bus := Bus.dmaRelease channel recorded.bus, record := .release channel :: recorded.record }

/-- The bus is seen to do what it does unrecorded. -/
instance [Bus σ] : Bus.View (Recorded.bus : Recorded σ → σ) where
  features _ := rfl
  readDepth _ := rfl
  writeDepth _ := rfl
  writeLevel _ _ := rfl
  setDeviceParams _ _ := rfl
  flushFifos _ := rfl
  writeFifo _ _ _ := rfl
  readFifo _ _ _ := rfl
  issue _ _ _ := rfl
  pollDone _ _ := rfl
  dmaAcquire _ _ _ := rfl
  dmaStart _ _ _ _ := rfl
  dmaIdle _ _ _ := rfl
  dmaRelease _ _ := rfl

section Carried

variable [Bus σ] [Carrier σ]

/-- A call that is noted is relayed as it is without the note. -/
theorem relays_note {α : Type} {event : Except Failure α → Event}
    {call : σ → Except Failure α × σ} {direct : Part → Except Failure α × Part}
    (h : Relays Carrier.part Carrier.strays call direct) :
    Relays (fun recorded : Recorded σ => Carrier.part recorded.bus)
      (fun recorded => Carrier.strays recorded.bus) (note event call) direct :=
  fun recorded => h recorded.bus

/-- The part behind a recorded bus is the one behind the bus. -/
instance : Carrier (Recorded σ) where
  part recorded := Carrier.part recorded.bus
  strays recorded := Carrier.strays recorded.bus
  features_eq recorded := Carrier.features_eq recorded.bus
  writeDepth_eq recorded := Carrier.writeDepth_eq recorded.bus
  writeLevel_eq clock recorded := Carrier.writeLevel_eq clock recorded.bus
  part_flush recorded := Carrier.part_flush recorded.bus
  strays_flush recorded := Carrier.strays_flush recorded.bus
  part_params value recorded := Carrier.part_params value recorded.bus
  strays_params value recorded := Carrier.strays_params value recorded.bus
  relays_queue clock data := relays_note (Carrier.relays_queue clock data)
  relays_take clock count := relays_note (Carrier.relays_take clock count)
  relays_issue clock command := relays_note (Carrier.relays_issue clock command)
  relays_pollDone clock := relays_note (Carrier.relays_pollDone clock)
  relays_acquire clock channel := relays_note (Carrier.relays_acquire clock channel)
  relays_start clock channel block := relays_note (Carrier.relays_start clock channel block)
  dmaIdle_eq clock channel recorded := Carrier.dmaIdle_eq clock channel recorded.bus
  part_release channel recorded := Carrier.part_release channel recorded.bus
  strays_release channel recorded := Carrier.strays_release channel recorded.bus

end Carried

end Recorded

/-! ## How a record grows -/

namespace Op

variable {σ α β : Type}

/-- Run when the calls were those of `before`, the operation answers with a record as `ok` says or
fails with one as `err` says, whatever the bus and the clock are. -/
def Records (op : Op (Recorded σ) α) (before : Record) (ok : α → Record → Prop)
    (err : Record → Prop) : Prop :=
  ∀ rig : Rig (Recorded σ), rig.bus.record = before →
    Ends op rig (fun a r => ok a r.bus.record) fun _ r => err r.bus.record

variable {op : Op (Recorded σ) α} {before : Record} {ok : α → Record → Prop} {err : Record → Prop}

theorem Records.mono {ok' : α → Record → Prop} {err' : Record → Prop}
    (h : Records op before ok err) (hok : ∀ a after, ok a after → ok' a after)
    (herr : ∀ after, err after → err' after) : Records op before ok' err' :=
  fun rig hrig => (h rig hrig).mono (fun a r => hok a r.bus.record) fun _ r => herr r.bus.record

theorem Records.mono_err {err' : Record → Prop} (h : Records op before ok err)
    (herr : ∀ after, err after → err' after) : Records op before ok err' :=
  h.mono (fun _ _ hok => hok) herr

/-- What holds of the record after an answer and after a failure holds of it in any case. -/
theorem Records.both {inv : Record → Prop} (h : Records op before (fun _ => inv) inv)
    {rig : Rig (Recorded σ)} (hrig : rig.bus.record = before) : inv (op rig).2.bus.record := by
  have hboth : Ends op rig (fun _ r => inv r.bus.record) (fun _ r => inv r.bus.record) ↔
      inv (op rig).2.bus.record := ends_both_iff
  exact hboth.1 (h rig hrig)

theorem records_pure {a : α} (h : ok a before) :
    Records (pure a : Op (Recorded σ) α) before ok err := by
  rintro rig rfl
  exact h

theorem records_fail {failure : Failure} (h : err before) :
    Records (fail failure : Op (Recorded σ) α) before ok err := by
  rintro rig rfl
  exact h

theorem records_bind {first : Op (Recorded σ) β} {next : β → Op (Recorded σ) α}
    {mid : β → Record → Prop} (h : Records first before mid err)
    (hnext : ∀ b between, mid b between → Records (next b) between ok err) :
    Records (first >>= next) before ok err :=
  fun rig hrig => (h rig hrig).bind fun b r hmid => hnext b r.bus.record hmid r rfl

theorem records_check_bind {outcome : Except Failure β} {next : β → Op (Recorded σ) α}
    (hnext : ∀ b, outcome = .ok b → Records (next b) before ok err) (herr : err before) :
    Records (check outcome >>= next) before ok err := by
  rintro rig rfl
  cases houtcome : outcome with
  | ok b => exact hnext b houtcome rig rfl
  | error failure => exact herr

/-- Looking at the bus leaves the record as it is. -/
theorem records_inspect_bind {view : Recorded σ → β} {next : β → Op (Recorded σ) α}
    (hnext : ∀ b, Records (next b) before ok err) :
    Records (inspect view >>= next) before ok err := by
  rintro rig rfl
  exact hnext _ rig rfl

/-- Looking at the clock leaves the record as it is. -/
theorem records_clock_bind {next : Clock → Op (Recorded σ) α}
    (hnext : ∀ clock, Records (next clock) before ok err) :
    Records ((clock : Op (Recorded σ) Clock) >>= next) before ok err := by
  rintro rig rfl
  exact hnext _ rig rfl

theorem records_mapFailure {rename : Failure → Failure} (h : Records op before ok err) :
    Records (mapFailure rename op) before ok err :=
  fun rig hrig => (ends_mapFailure rename).2 (h rig hrig)

theorem records_flush_bind [Bus σ] {next : Unit → Op (Recorded σ) α}
    (hnext : Records (next ()) (.flush :: before) ok err) :
    Records ((update Bus.flushFifos : Op (Recorded σ) Unit) >>= next) before ok err := by
  rintro rig rfl
  exact hnext _ rfl

/-- A call of the bus is noted, with whatever comes of it. -/
theorem records_note {event : Except Failure α → Event}
    {call : Clock → σ → Except Failure α × σ} (hok : ∀ a, ok a (event (.ok a) :: before))
    (herr : ∀ failure, err (event (.error failure) :: before)) :
    Records (Op.call fun clock => Recorded.note event (call clock)) before ok err := by
  rintro rig rfl
  rw [ends_call]
  refine ⟨?_, ?_⟩
  · intro a houtcome
    have hcall : (call rig.clock rig.bus.bus).1 = .ok a := houtcome
    show ok a (event (call rig.clock rig.bus.bus).1 :: rig.bus.record)
    rw [hcall]
    exact hok a
  · intro failure houtcome
    have hcall : (call rig.clock rig.bus.bus).1 = .error failure := houtcome
    show err (event (call rig.clock rig.bus.bus).1 :: rig.bus.record)
    rw [hcall]
    exact herr failure

theorem records_note_bind {event : Except Failure β → Event}
    {call : Clock → σ → Except Failure β × σ} {next : β → Op (Recorded σ) α}
    (hnext : ∀ b, Records (next b) (event (.ok b) :: before) ok err)
    (herr : ∀ failure, err (event (.error failure) :: before)) :
    Records ((Op.call fun clock => Recorded.note event (call clock)) >>= next) before ok err := by
  have hnoted : Records (Op.call fun clock => Recorded.note event (call clock)) before
      (fun b after => after = event (.ok b) :: before) err := records_note (fun _ => rfl) herr
  refine records_bind hnoted ?_
  rintro b _ rfl
  exact hnext b

/-- A wait keeps whatever a probe that finds nothing keeps, and ends as one of its probes does. -/
theorem records_wait {probe : Op (Recorded σ) (Option α)} {forward : Forward probe}
    {late : Failure} {policy : PollPolicy} (inv : Record → Prop)
    (hprobe : ∀ between, inv between → Records probe between
      (fun answer after => match answer with
        | some a => ok a after
        | none => inv after) err)
    (herr : ∀ after, inv after → err after) (h : inv before) :
    Records (wait probe forward late policy) before ok err := by
  rintro rig rfl
  refine ends_wait (fun r => inv r.bus.record) ?_ h
  intro r hr
  refine (hprobe _ hr r rfl).mono ?_ fun _ _ hfailed => hfailed
  intro answer after hanswer
  cases answer with
  | some a => exact hanswer
  | none => exact ⟨fun _ => herr _ hanswer, fun _ => hanswer⟩

end Op

namespace Sequence

variable {σ : Type} [Bus σ] {before : Record}

open Op

/-- While an operation runs a channel is claimed, and then it is given back. -/
theorem records_withChannel {α : Type} {channel : Nat} {body : Op (Recorded σ) α}
    {ok : α → Record → Prop} {err : Record → Prop} (hmissing : err before)
    (hrefused : err (.acquire channel false :: before))
    (hbody : Records body (.acquire channel true :: before)
      (fun a after => ok a (.release channel :: after))
      fun after => err (.release channel :: after)) :
    Records (withChannel channel body) before ok err := by
  refine records_inspect_bind fun features => ?_
  split
  · refine records_note_bind (fun _ => ?_) fun _ => hrefused
    intro rig hrig
    have hends := hbody rig hrig
    unfold Ends at hends ⊢
    dsimp only at hends ⊢
    generalize body rig = ended at hends ⊢
    obtain ⟨outcome, bus, clock, progress⟩ := ended
    cases outcome with
    | ok a => exact hends
    | error failure => exact hends
  · exact records_fail hmissing

/-- Whether a channel is done is seen without a call that could change the bus. -/
theorem records_waitIdle (channel : Nat) (policy : PollPolicy) :
    Records (waitIdle channel policy : Op (Recorded σ) Unit) before
      (fun _ after => after = before) (fun after => after = before) := by
  refine records_wait (· = before) ?_ (fun _ hafter => hafter) rfl
  rintro _ hnow rig rfl
  refine (ends_call _).2 ⟨fun answer _ => ?_, nofun⟩
  cases answer with
  | some => exact hnow
  | none => exact hnow

end Sequence

/-! ## Calls that a view of the record leaves out -/

/-- Neither transactions nor the emptying of the FIFOs show in the view. -/
structure Record.Overlooks {β : Type} (view : Record → β) : Prop where
  issue : ∀ command accepted record, view (.issue command accepted :: record) = view record
  poll : ∀ value record, view (.poll value :: record) = view record
  flush : ∀ record, view (.flush :: record) = view record

section Unseen

variable {σ α β γ : Type} {view : Record → γ}

/-- Whatever becomes of the operation, none of its calls shows in the view. -/
def Op.Unseen (view : Record → γ) (op : Op (Recorded σ) α) : Prop :=
  ∀ shown, op.Keeps fun recorded => view recorded.record = shown

theorem unseen_note {event : Except Failure α → Event}
    (h : ∀ outcome record, view (event outcome :: record) = view record)
    (call : Clock → σ → Except Failure α × σ) :
    Op.Unseen view (Op.call fun clock => Recorded.note event (call clock)) :=
  fun _ => Op.keeps_call fun _ bus hbus => (h _ bus.record).trans hbus

theorem unseen_pure (a : α) : Op.Unseen view (pure a : Op (Recorded σ) α) :=
  fun _ => Op.keeps_pure a

theorem unseen_bind {first : Op (Recorded σ) β} {next : β → Op (Recorded σ) α}
    (h : first.Unseen view) (hnext : ∀ b, (next b).Unseen view) :
    Op.Unseen view (first >>= next) :=
  fun shown => Op.keeps_bind (h shown) fun b => hnext b shown

theorem unseen_wait {probe : Op (Recorded σ) (Option α)} {forward : Op.Forward probe}
    {late : Failure} {policy : PollPolicy} (h : probe.Unseen view) :
    Op.Unseen view (Op.wait probe forward late policy) :=
  fun shown => Op.keeps_wait (h shown)

/-- An operation without a call in the view, in terms of its record. -/
theorem Op.Unseen.records {op : Op (Recorded σ) α} (h : op.Unseen view) (before : Record) :
    Op.Records op before (fun _ after => view after = view before)
      fun after => view after = view before := by
  rintro rig rfl
  exact Op.keeps_iff_ends.1 (h (view rig.bus.record)) rig rfl

/-- An outcome, together with what the view shows. -/
theorem Op.Ends.unseen {op : Op (Recorded σ) α} {rig : Rig (Recorded σ)}
    {ok : α → Rig (Recorded σ) → Prop} {err : Failure → Rig (Recorded σ) → Prop}
    (hends : Op.Ends op rig ok err) (h : op.Unseen view) :
    Op.Ends op rig (fun a r => ok a r ∧ view r.bus.record = view rig.bus.record)
      fun failure r => err failure r ∧ view r.bus.record = view rig.bus.record :=
  hends.and (h.records rig.bus.record rig rfl)

variable [Bus σ]

theorem unseen_flush (h : Record.Overlooks view) :
    Op.Unseen view (Op.update Bus.flushFifos : Op (Recorded σ) Unit) :=
  fun _ => Op.keeps_update fun bus hbus => (h.flush bus.record).trans hbus

namespace Sequence

variable (h : Record.Overlooks view) (command : Command) (policy : PollPolicy)
include h

theorem unseen_transact :
    Op.Unseen view (transact command policy : Op (Recorded σ) Command) := by
  refine unseen_bind (unseen_note (fun _ => h.issue _ _) _) fun _ => ?_
  refine unseen_bind (unseen_wait ?_) fun _ => unseen_pure _
  exact unseen_note (fun _ => h.poll _) _

theorem unseen_writeEnable :
    Op.Unseen view (writeEnable .single policy : Op (Recorded σ) Unit) :=
  unseen_bind (unseen_transact h _ _) fun _ => unseen_pure _

theorem unseen_waitReady : Op.Unseen view (waitReady policy : Op (Recorded σ) Unit) := by
  refine unseen_wait (unseen_bind ?_ fun _ => unseen_pure _)
  exact unseen_bind (unseen_transact h _ _) fun _ => unseen_pure _

end Sequence

end Unseen

end CardReader.Flash
