import CardReader.Flash.Sequence
import CardReader.Proofs.Outcome
import CardReader.Proofs.Part.Carrier

/-!
# Transactions and waits on a part

The sequences from which every flash operation is made, on any bus with a part behind it.  A
transaction that the part finishes at once ends with the part as the command has left it, without
time passing; a wait for the part ends when the part is listening.

What is proved here:

* `ends_transact` — a transaction that is finished when it is issued, and
  `ends_transact_at_once` — one that a part has finished then;
* `ends_writeEnable`, `ends_flush`, `ends_queue` and `ends_dmaStart` — the steps that arm a part
  and stage data for it;
* `ends_waitReady` — a wait for the part leaves no trace, and after it the part is listening;
* `ends_waitIdle` and `ends_withChannel` — waits for a DMA channel, and the scope of a claim.
-/

namespace CardReader

open Flash

variable {σ α : Type} [Bus σ] [Carrier σ]

namespace Flash.Rig

/-- The part on a rig. -/
def part (rig : Rig σ) : Part := Carrier.part rig.bus

/-- Time has not gone back, and the calls that can go astray are the same. -/
structure Follows (rig rig' : Rig σ) : Prop where
  now_le : rig.clock.now ≤ rig'.clock.now
  strays_eq : Carrier.strays rig'.bus = Carrier.strays rig.bus

theorem Follows.refl (rig : Rig σ) : Follows rig rig := ⟨Nat.le_refl _, rfl⟩

theorem Follows.trans {a b c : Rig σ} (hab : Follows a b) (hbc : Follows b c) : Follows a c :=
  ⟨Nat.le_trans hab.now_le hbc.now_le, hbc.strays_eq.trans hab.strays_eq⟩

/-- A delay follows. -/
theorem Follows.delay {a b : Rig σ} (h : Follows a b) (us : Nat) :
    Follows a { b with clock := b.clock.delay us } :=
  h.trans ⟨Clock.now_le_delay _ _, rfl⟩

/-- No time has passed, and the calls that can go astray are the same. -/
structure Abreast (rig rig' : Rig σ) : Prop where
  clock_eq : rig'.clock = rig.clock
  strays_eq : Carrier.strays rig'.bus = Carrier.strays rig.bus

theorem Abreast.refl (rig : Rig σ) : Abreast rig rig := ⟨rfl, rfl⟩

theorem Abreast.trans {a b c : Rig σ} (hab : Abreast a b) (hbc : Abreast b c) : Abreast a c :=
  ⟨hbc.clock_eq.trans hab.clock_eq, hbc.strays_eq.trans hab.strays_eq⟩

theorem Abreast.follows {rig rig' : Rig σ} (h : Abreast rig rig') : Follows rig rig' :=
  ⟨Nat.le_of_eq (by rw [h.clock_eq]), h.strays_eq⟩

end Flash.Rig

/-! ## Calls -/

/-- A call ends as the direct call does, or astray. -/
theorem ends_relay {rig : Rig σ} {call : Clock → σ → Except Failure α × σ}
    {direct : Part → Except Failure α × Part} {ok : α → Rig σ → Prop}
    {err : Failure → Rig σ → Prop}
    (hrelay : Relays Carrier.part Carrier.strays (call rig.clock) direct)
    (hok : ∀ a r, direct rig.part = (.ok a, r.part) → rig.Abreast r → ok a r)
    (herr : ∀ failure r, direct rig.part = (.error failure, r.part) → rig.Abreast r →
      err failure r)
    (hstray : ∀ failure r, Carrier.strays rig.bus failure → r.part = rig.part → rig.Abreast r →
      err failure r) :
    Op.Ends (Op.call call) rig ok err := by
  obtain ⟨hstrays, hcase⟩ := hrelay rig.bus
  rw [Op.ends_call]
  rcases hcase with ⟨houtcome, hpart⟩ | ⟨failure, hfailure, houtcome, hpart⟩
  · refine ⟨fun a ha => hok a _ ?_ ⟨rfl, hstrays⟩,
      fun failure hf => herr failure _ ?_ ⟨rfl, hstrays⟩⟩
    · exact Prod.ext (houtcome.symm.trans ha) hpart.symm
    · exact Prod.ext (houtcome.symm.trans hf) hpart.symm
  · refine ⟨fun a ha => ?_, fun other hf => ?_⟩
    · rw [houtcome] at ha
      cases ha
    · rw [houtcome, Except.error.injEq] at hf
      subst hf
      exact hstray failure _ hfailure hpart ⟨rfl, hstrays⟩

/-! ## Transactions -/

/-- The wait for a finished transaction ends with its value, unless a poll goes astray or the
controller does not respond. -/
theorem ends_waitDone {rig : Rig σ} {value : UInt32} (opcode : UInt8) (policy : PollPolicy)
    (hdone : rig.part.transaction = some (.done value)) :
    Op.Ends (Sequence.waitDone opcode policy) rig
      (fun answer r => answer = value ∧ r.part = rig.part ∧ rig.Abreast r ∧
        rig.part.faults.unresponsive = false)
      (fun failure r => r.part = rig.part ∧ rig.Follows r ∧
        (Carrier.strays rig.bus failure ∨
          failure = .commandTimeout opcode ∧ rig.part.faults.unresponsive = true)) := by
  refine Op.ends_wait (fun r => r.part = rig.part ∧ rig.Follows r ∧
    (rig.part.faults.unresponsive = false → rig.Abreast r)) ?_ ⟨rfl, .refl _, fun _ => .refl _⟩
  rintro r ⟨hpart, hfollows, habreast⟩
  have hpoll : Part.pollDone r.clock r.part =
      (.ok (if rig.part.faults.unresponsive then none else some value), rig.part) := by
    rw [hpart]
    exact Part.pollDone_of_done hdone
  refine ends_relay (Carrier.relays_pollDone r.clock) ?_ ?_ ?_
  · intro answer r' hcall habreast'
    rw [hpoll, Prod.mk.injEq, Except.ok.injEq] at hcall
    obtain ⟨hanswer, hpart'⟩ := hcall
    have hfollows' := hfollows.trans habreast'.follows
    cases hresponse : rig.part.faults.unresponsive with
    | true =>
      rw [hresponse, if_pos rfl] at hanswer
      subst hanswer
      exact ⟨fun _ => ⟨hpart'.symm, hfollows', .inr ⟨rfl, rfl⟩⟩,
        fun _ => ⟨hpart'.symm, hfollows'.delay _, nofun⟩⟩
    | false =>
      rw [hresponse, if_neg Bool.false_ne_true] at hanswer
      subst hanswer
      exact ⟨rfl, hpart'.symm, (habreast hresponse).trans habreast', rfl⟩
  · intro failure r' hcall
    rw [hpoll] at hcall
    cases hcall
  · intro failure r' hstray hpart' habreast'
    refine ⟨hpart'.trans hpart, hfollows.trans habreast'.follows, .inl ?_⟩
    rwa [hfollows.strays_eq] at hstray

/-- A transaction that is finished when it is issued answers at once. -/
theorem ends_transact {rig : Rig σ} {command : Command} {issued : Part} {value : UInt32}
    (policy : PollPolicy) (hissue : Part.issue rig.clock command rig.part = (.ok (), issued))
    (hdone : issued.transaction = some (.done value)) :
    Op.Ends (Sequence.transact command policy) rig
      (fun done r => done = command.withReadData value ∧ r.part = issued ∧ rig.Abreast r ∧
        issued.faults.unresponsive = false)
      (fun failure r => (r.part = rig.part ∨ r.part = issued) ∧ rig.Follows r ∧
        (Carrier.strays rig.bus failure ∨
          failure = .commandTimeout command.opcode ∧ issued.faults.unresponsive = true)) := by
  rw [Sequence.transact, Op.ends_bind]
  refine ends_relay (Carrier.relays_issue rig.clock command) ?_ ?_ ?_
  · intro _ r hcall habreast
    rw [hissue, Prod.mk.injEq] at hcall
    have hpart : r.part = issued := hcall.2.symm
    rw [Op.ends_bind]
    refine (ends_waitDone command.opcode policy (hpart ▸ hdone)).mono ?_ ?_
    · rintro answer r' ⟨rfl, hpart', habreast', hresponse⟩
      rw [hpart] at hpart' hresponse
      exact ⟨rfl, hpart', habreast.trans habreast', hresponse⟩
    · rintro failure r' ⟨hpart', hfollows, hreason⟩
      rw [hpart] at hpart' hreason
      rw [habreast.strays_eq] at hreason
      exact ⟨.inr hpart', habreast.follows.trans hfollows, hreason⟩
  · intro failure r hcall
    rw [hissue] at hcall
    cases hcall
  · intro failure r hstray hpart habreast
    exact ⟨.inl hpart, habreast.follows, .inl hstray⟩

/-- No call of a part goes astray, so a transaction that it has finished when it is issued answers
at once if the controller responds. -/
theorem ends_transact_at_once {rig : Rig Part} {command : Command} {issued : Part} {value : UInt32}
    (policy : PollPolicy) (hissue : Part.issue rig.clock command rig.bus = (.ok (), issued))
    (hdone : issued.transaction = some (.done value))
    (hresponse : issued.faults.unresponsive = false) :
    Op.Ends (Sequence.transact command policy) rig
      (fun done r => done = command.withReadData value ∧ r.bus = issued ∧ r.clock = rig.clock)
      fun _ _ => False := by
  refine (ends_transact policy hissue hdone).mono ?_ ?_
  · rintro done r ⟨hvalue, hpart, habreast, -⟩
    exact ⟨hvalue, hpart, habreast.clock_eq⟩
  · rintro failure r ⟨-, -, hstray | ⟨-, hsilent⟩⟩
    · exact hstray
    · rw [hresponse] at hsilent
      cases hsilent

theorem ends_singleCommand_at_once {rig : Rig Part} {opcode : UInt8} {mode : BusMode}
    {issued : Part} {value : UInt32} (policy : PollPolicy)
    (hissue : Part.issue rig.clock ((Command.simple opcode).withMode mode) rig.bus =
      (.ok (), issued))
    (hdone : issued.transaction = some (.done value))
    (hresponse : issued.faults.unresponsive = false) :
    Op.Ends (Sequence.singleCommand opcode mode policy) rig
      (fun _ r => r.bus = issued ∧ r.clock = rig.clock) fun _ _ => False :=
  (ends_transact_at_once policy hissue hdone hresponse).bind fun _ _ h => h.2

/-! ## Arming a part -/

namespace Part

variable {clock : Clock} {dma : Option DmaClaim} {fifo : List UInt8} {before after : Part}

/-- The part after a write enable, with what has been staged since: a listening part has its latch
set, and any other part has let the command pass by. -/
structure Armed (clock : Clock) (dma : Option DmaClaim) (fifo : List UInt8)
    (before after : Part) : Prop where
  steady : Steady before after
  cells_eq : after.cells = before.cells
  busyUntil_eq : after.busyUntil = before.busyUntil
  stored_eq : after.stored = before.stored
  /-- The write enable is over. -/
  done : ∃ value, after.transaction = some (.done value)
  latched : Listening clock before → after.writeEnabled = true
  passed : ¬Listening clock before → after.writeEnabled = before.writeEnabled
  /-- What the DMA channel holds by now. -/
  dma_eq : after.dma = dma
  /-- What the write FIFO holds by now. -/
  fifo_eq : after.writeFifo = fifo

theorem Armed.listening {clock' : Clock} (h : Armed clock dma fifo before after) :
    Listening clock' after ↔ Listening clock' before :=
  h.steady.listening h.busyUntil_eq

/-- Staging touches the FIFOs and the DMA channel alone. -/
theorem Armed.restage {dma' : Option DmaClaim} {fifo' : List UInt8} {result : Part}
    (h : Armed clock dma fifo before after)
    (hresult : ∃ readFifo writeFifo dma, result = { after with readFifo, writeFifo, dma })
    (hdma : result.dma = dma') (hfifo : result.writeFifo = fifo') :
    Armed clock dma' fifo' before result := by
  obtain ⟨_, _, _, rfl⟩ := hresult
  obtain ⟨⟨hconfig, hfaults, hpower, hdeaf⟩, hcells, hbusy, hstored, hdone, hlatched, hpassed, -, -⟩
    := h
  exact ⟨⟨hconfig, hfaults, hpower, hdeaf⟩, hcells, hbusy, hstored, hdone, hlatched, hpassed, hdma,
    hfifo⟩

theorem issue_writeEnable_armed (clock : Clock) (part : Part) :
    ∃ value result, issue clock writeEnableCommand part = (.ok (), result) ∧
      result.transaction = some (.done value) ∧
      Armed clock part.dma part.writeFifo part result := by
  by_cases hlisten : Listening clock part
  · exact ⟨0, _, issue_writeEnable hlisten, rfl, ⟨rfl, rfl, rfl, rfl⟩, rfl, rfl, rfl, ⟨0, rfl⟩,
      fun _ => rfl, fun h => absurd hlisten h, rfl, rfl⟩
  · obtain ⟨value, result, hissue, huntouched, hdone⟩ :=
      issue_of_not_listening (check_single _) effective_writeEnable hlisten
    refine ⟨value, result, hissue, hdone, ?_⟩
    obtain ⟨log, transaction, resetArmed, rfl⟩ := huntouched
    exact ⟨⟨rfl, rfl, rfl, rfl⟩, rfl, rfl, rfl, ⟨value, hdone⟩, fun h => absurd h hlisten,
      fun _ => rfl, rfl, rfl⟩

theorem Armed.queue (h : Armed clock dma [] before after) (now : Clock) (data : List UInt8) :
    Part.queue now data after =
      if before.config.writeDepth < data.length then (.error .fifoOverflow, after)
      else (.ok (), { after with writeFifo := data }) := by
  obtain ⟨value, hdone⟩ := h.done
  have hfeed : feed now { after with writeFifo := data } = { after with writeFifo := data } := by
    rw [feed, hdone]
  rw [Part.queue, h.fifo_eq, ← h.steady.config_eq]
  simp [hfeed]

theorem Armed.dmaStart {claim : DmaClaim} (h : Armed clock (some claim) fifo before after)
    (now : Clock) (block : List UInt8) :
    Part.dmaStart now claim.channel block after =
      (.ok (), { after with dma := some { claim with block } }) := by
  obtain ⟨value, hdone⟩ := h.done
  have hfeed : feed now { after with dma := some { claim with block } } =
      { after with dma := some { claim with block } } := by
    rw [feed, hdone]
  simp only [Part.dmaStart, h.dma_eq, if_true, hfeed]

end Part

/-- A write enable takes no time. -/
theorem ends_writeEnable (rig : Rig σ) (policy : PollPolicy) :
    Op.Ends (Sequence.writeEnable .single policy) rig
      (fun _ r => Part.Armed rig.clock rig.part.dma rig.part.writeFifo rig.part r.part ∧
        rig.Abreast r ∧ rig.part.faults.unresponsive = false)
      (fun failure r => (r.part = rig.part ∨
          Part.Armed rig.clock rig.part.dma rig.part.writeFifo rig.part r.part) ∧
        rig.Follows r ∧ (Carrier.strays rig.bus failure ∨
          failure = .commandTimeout Opcode.writeEnable ∧
            rig.part.faults.unresponsive = true)) := by
  obtain ⟨value, issued, hissue, hdone, harmed⟩ :=
    Part.issue_writeEnable_armed rig.clock rig.part
  have hfaults : issued.faults = rig.part.faults := harmed.steady.faults_eq
  rw [Sequence.writeEnable, Sequence.singleCommand, Op.ends_bind]
  refine (ends_transact policy hissue hdone).mono ?_ ?_
  · rintro done r ⟨-, hpart, habreast, hresponse⟩
    exact ⟨hpart ▸ harmed, habreast, hfaults ▸ hresponse⟩
  · rintro failure r ⟨hpart, hfollows, hreason⟩
    rw [hfaults] at hreason
    refine ⟨hpart.imp_right fun h => ?_, hfollows, hreason⟩
    rw [h]
    exact harmed

/-! ## Staging data -/

section Staging

variable {rig : Rig σ} {clock : Clock} {dma : Option Part.DmaClaim} {fifo : List UInt8}
  {before : Part}

theorem ends_flush (harmed : Part.Armed clock dma fifo before rig.part) :
    Op.Ends (Op.update Bus.flushFifos) rig
      (fun _ r => Part.Armed clock dma [] before r.part ∧ rig.Abreast r) fun _ _ => False := by
  refine (Op.ends_update _).2 ⟨?_, rfl, Carrier.strays_flush _⟩
  have hpart : Rig.part { rig with bus := Bus.flushFifos rig.bus } =
      { rig.part with readFifo := [], writeFifo := [] } := Carrier.part_flush rig.bus
  rw [hpart]
  exact harmed.restage ⟨_, _, _, rfl⟩ harmed.dma_eq rfl

/-- Data that the write FIFO has room for is staged. -/
theorem ends_queue (harmed : Part.Armed clock dma [] before rig.part) (data : List UInt8) :
    Op.Ends (Op.call (Bus.writeFifo · data)) rig
      (fun _ r => Part.Armed clock dma data before r.part ∧ rig.Abreast r)
      (fun failure r => Part.Armed clock dma [] before r.part ∧ rig.Abreast r ∧
        (Carrier.strays rig.bus failure ∨
          failure = .fifoOverflow ∧ before.config.writeDepth < data.length)) := by
  have hqueue := harmed.queue rig.clock data
  refine ends_relay (Carrier.relays_queue rig.clock data) ?_ ?_ ?_
  · intro _ r hcall habreast
    rw [hqueue] at hcall
    split at hcall
    · cases hcall
    · rw [← (Prod.mk.inj hcall).2]
      exact ⟨harmed.restage ⟨_, _, _, rfl⟩ harmed.dma_eq rfl, habreast⟩
  · intro failure r hcall habreast
    rw [hqueue] at hcall
    split at hcall
    · rename_i hdepth
      obtain ⟨hfailure, hpart⟩ := Prod.mk.inj hcall
      rw [← hpart]
      exact ⟨harmed, habreast, .inr ⟨(Except.error.inj hfailure).symm, hdepth⟩⟩
    · cases hcall
  · intro failure r hstray hpart habreast
    rw [hpart]
    exact ⟨harmed, habreast, .inl hstray⟩

/-- A block for the claimed channel is staged. -/
theorem ends_dmaStart {claim : Part.DmaClaim}
    (harmed : Part.Armed clock (some claim) fifo before rig.part) (block : List UInt8) :
    Op.Ends (Op.call (Bus.dmaStart · claim.channel block)) rig
      (fun _ r => Part.Armed clock (some { claim with block }) fifo before r.part ∧ rig.Abreast r)
      (fun failure r => Part.Armed clock (some claim) fifo before r.part ∧ rig.Abreast r ∧
        Carrier.strays rig.bus failure) := by
  have hstart := harmed.dmaStart rig.clock block
  refine ends_relay (Carrier.relays_start rig.clock claim.channel block) ?_ ?_ ?_
  · intro _ r hcall habreast
    rw [hstart] at hcall
    rw [← (Prod.mk.inj hcall).2]
    exact ⟨harmed.restage ⟨_, _, _, rfl⟩ rfl harmed.fifo_eq, habreast⟩
  · intro failure r hcall
    rw [hstart] at hcall
    cases hcall
  · intro failure r hstray hpart habreast
    rw [hpart]
    exact ⟨harmed, habreast, hstray⟩

end Staging

/-! ## Waiting for the part -/

/-- One look at the status leaves no trace but in the log and tells whether the part is
listening. -/
theorem ends_readyProbe (rig : Rig σ) (policy : PollPolicy) :
    Op.Ends (Sequence.readyProbe policy) rig
      (fun answer r => Part.Polled 1 rig.part r.part ∧ rig.Abreast r ∧
        rig.part.faults.unresponsive = false ∧
        answer = if Part.Listening rig.clock rig.part then some () else none)
      (fun failure r => Part.Untouched rig.part r.part ∧ rig.Follows r ∧
        (Carrier.strays rig.bus failure ∨ failure = .commandTimeout Opcode.readStatus1 ∧
          rig.part.faults.unresponsive = true)) := by
  obtain ⟨value, result, hissue, hpolled, hdone, hvalue⟩ :=
    Part.issue_statusCommand rig.clock rig.part
  have huntouched := hpolled.untouched
  rw [Sequence.readyProbe, Op.ends_bind, Sequence.readStatus, Op.ends_bind]
  refine (ends_transact policy hissue hdone).mono ?_ ?_
  · rintro done r ⟨rfl, hpart, habreast, hresponse⟩
    rw [huntouched.faults_eq] at hresponse
    refine ⟨hpart ▸ hpolled, habreast, hresponse, ?_⟩
    exact if_congr hvalue rfl rfl
  · rintro failure r ⟨hpart, hfollows, hreason⟩
    rw [huntouched.faults_eq] at hreason
    refine ⟨?_, hfollows, hreason⟩
    rcases hpart with hpart | hpart
    · exact hpart ▸ .refl _
    · exact hpart ▸ huntouched

/-- A wait for the part leaves no trace, and the part is listening when it has come to an end. -/
theorem ends_waitReady (rig : Rig σ) (policy : PollPolicy) :
    Op.Ends (Sequence.waitReady policy) rig
      (fun _ r => Part.Untouched rig.part r.part ∧ rig.Follows r ∧ Part.Listening r.clock r.part)
      (fun failure r => Part.Untouched rig.part r.part ∧ rig.Follows r ∧
        (Carrier.strays rig.bus failure ∨ failure = .busyTimeout ∨
          failure = .commandTimeout Opcode.readStatus1)) := by
  refine Op.ends_wait (fun r => Part.Untouched rig.part r.part ∧ rig.Follows r) ?_
    ⟨.refl _, .refl _⟩
  rintro r ⟨huntouched, hfollows⟩
  refine (ends_readyProbe r policy).mono ?_ ?_
  · rintro answer r' ⟨hpolled, habreast, -, rfl⟩
    have huntouched' := hpolled.untouched
    have hfollows' := hfollows.trans habreast.follows
    by_cases hlisten : Part.Listening r.clock r.part
    · rw [if_pos hlisten]
      refine ⟨huntouched.trans huntouched', hfollows', ?_⟩
      rw [habreast.clock_eq]
      exact huntouched'.listening.2 hlisten
    · rw [if_neg hlisten]
      exact ⟨fun _ => ⟨huntouched.trans huntouched', hfollows', .inr (.inl rfl)⟩,
        fun _ => ⟨huntouched.trans huntouched', hfollows'.delay _⟩⟩
  · rintro failure r' ⟨huntouched', hfollows', hreason⟩
    refine ⟨huntouched.trans huntouched', hfollows.trans hfollows', ?_⟩
    rw [hfollows.strays_eq] at hreason
    exact hreason.imp_right fun h => .inr h.1

/-! ## DMA channels -/

/-- The wait for a channel that can tell that its block is gone ends at once. -/
theorem ends_waitIdle (rig : Rig σ) (channel : Nat) (policy : PollPolicy) :
    Op.Ends (Sequence.waitIdle channel policy) rig
      (fun _ r => r = rig ∧ rig.part.dmaIdle channel = true)
      (fun failure r => r.part = rig.part ∧ rig.Follows r ∧ failure = .dmaTimeout ∧
        rig.part.dmaIdle channel = false) := by
  refine Op.ends_wait (fun r => r.part = rig.part ∧ rig.Follows r ∧
    (rig.part.dmaIdle channel = true → r = rig)) ?_ ⟨rfl, .refl _, fun _ => rfl⟩
  rintro r ⟨hpart, hfollows, hsame⟩
  have hprobe : Sequence.idleProbe channel r =
      (.ok (if r.part.dmaIdle channel then some () else none), r) := by
    show (_, _) = _
    simp only [Carrier.dmaIdle_eq]
    rfl
  rw [Op.ends_of_ok hprobe, hpart]
  cases hidle : rig.part.dmaIdle channel with
  | true => exact ⟨hsame hidle, rfl⟩
  | false => exact ⟨fun _ => ⟨hpart, hfollows, rfl, rfl⟩, fun _ => ⟨hpart, hfollows.delay _, nofun⟩⟩

/-- A claim that is granted. -/
theorem dmaAcquire_of_ok {channel : Nat} {part after : Part}
    (h : Part.dmaAcquire channel part = (.ok (), after)) :
    channel < part.config.dmaChannels ∧ part.dma = none ∧
      after = { part with dma := some { channel } } := by
  rw [Part.dmaAcquire] at h
  split at h
  · cases h
  rename_i hchannel
  split at h
  · cases h
  rename_i hfree
  refine ⟨Nat.lt_of_not_le hchannel, ?_, (Prod.mk.inj h).2.symm⟩
  rwa [Bool.not_eq_true, Option.isSome_eq_false_iff, Option.isNone_iff_eq_none] at hfree

/-- A claim that is refused leaves the part alone. -/
theorem dmaAcquire_of_error {channel : Nat} {part after : Part} {failure : Failure}
    (h : Part.dmaAcquire channel part = (.error failure, after)) :
    after = part ∧ (failure = .dmaNotSupported ∧ part.config.dmaChannels ≤ channel ∨
      failure = .dmaChannelBusy ∧ part.dma.isSome = true) := by
  rw [Part.dmaAcquire] at h
  split at h
  · rename_i hchannel
    obtain ⟨hfailure, hpart⟩ := Prod.mk.inj h
    exact ⟨hpart.symm, .inl ⟨(Except.error.inj hfailure).symm, hchannel⟩⟩
  split at h
  · rename_i hclaimed
    obtain ⟨hfailure, hpart⟩ := Prod.mk.inj h
    exact ⟨hpart.symm, .inr ⟨(Except.error.inj hfailure).symm, hclaimed⟩⟩
  · cases h

/-- A free channel is claimed for as long as the operation lasts; a claim that is refused leaves
the part alone. -/
theorem ends_withChannel {rig : Rig σ} {channel : Nat} {body : Op σ α} {ok : α → Rig σ → Prop}
    {err : Failure → Rig σ → Prop}
    (hbody : ∀ r, channel < rig.part.config.dmaChannels → rig.part.dma = none →
      r.part = { rig.part with dma := some { channel } } → rig.Abreast r →
      Op.Ends body r
        (fun a r' => ∀ last, last.part = r'.part.dmaRelease channel → r'.Abreast last → ok a last)
        (fun failure r' => ∀ last, last.part = r'.part.dmaRelease channel → r'.Abreast last →
          err failure last))
    (hrefused : ∀ failure r, r.part = rig.part → rig.Abreast r →
      (Carrier.strays rig.bus failure ∨
        failure = .dmaNotSupported ∧ rig.part.config.dmaChannels ≤ channel ∨
        failure = .dmaChannelBusy ∧ rig.part.dma.isSome = true) → err failure r) :
    Op.Ends (Sequence.withChannel channel body) rig ok err := by
  rw [Sequence.withChannel, Op.ends_bind, Op.ends_inspect, Carrier.features_eq]
  cases hfeature : (Carrier.part rig.bus).features.dma with
  | false =>
    refine hrefused _ rig rfl (.refl _) (.inr (.inl ⟨rfl, ?_⟩))
    have hnone : ¬0 < rig.part.config.dmaChannels := of_decide_eq_false hfeature
    omega
  | true =>
    rw [if_pos rfl]
    refine Op.ends_bind.2 (ends_relay (Carrier.relays_acquire rig.clock channel) ?_ ?_ ?_)
    · intro _ r hcall habreast
      obtain ⟨hchannel, hfree, hpart⟩ := dmaAcquire_of_ok hcall
      have hclaimed := hbody r hchannel hfree hpart habreast
      unfold Op.Ends at hclaimed ⊢
      cases hrun : body r with
      | mk outcome last =>
        simp only [hrun] at hclaimed ⊢
        cases outcome
        all_goals
          refine hclaimed { last with bus := Bus.dmaRelease channel last.bus } ?_ ?_
          · exact Carrier.part_release channel last.bus
          · exact ⟨rfl, Carrier.strays_release channel last.bus⟩
    · intro failure r hcall habreast
      obtain ⟨hpart, hreason⟩ := dmaAcquire_of_error hcall
      exact hrefused failure r hpart habreast (.inr hreason)
    · intro failure r hstray hpart habreast
      exact hrefused failure r hpart habreast (.inl hstray)

end CardReader
