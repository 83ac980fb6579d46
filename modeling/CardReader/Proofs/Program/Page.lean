import CardReader.Proofs.Program.Chunk

/-!
# Streaming one page

A page under one command: as much of it as the write FIFO holds is staged, and the rest follows
while the part takes the bytes out.  A listening part takes every byte that it is given at once,
so the FIFO is empty before each refill and no time passes; a part that has let the command pass by
takes nothing, and then a page that did not fit the FIFO as a whole cannot come to its end.

What is proved here:

* `Streaming` — a part that has some bytes of a page and waits for the rest, and
  `Streaming.queue` — what it makes of a refill;
* `ends_topUp_of_streaming` and `ends_topUp_of_missed` — the refills of a part that carries the
  command out and of one that does not;
* `ends_streamPage` — a page reaches the wait for the part as if it had been staged at once, or is
  given up, and `ends_programOnePage` — what a page that answers has done.
-/

namespace CardReader

open Flash

namespace Part

variable {clock : Clock} {part before after : Part} {addr : Nat} {payload rest : List UInt8}

/-! ## Parts that wait for no data -/

/-- The part does not wait for the data of a program. -/
def Over (part : Part) : Prop :=
  ∀ addr expected data, part.transaction ≠ some (.streaming addr expected data)

theorem over_of_done {value : UInt32} (h : part.transaction = some (.done value)) : part.Over := by
  intro addr expected data hstreaming
  rw [h] at hstreaming
  cases hstreaming

/-- A part that waits for no data moves none. -/
theorem Over.feed (h : part.Over) (clock : Clock) : part.feed clock = part := by
  rw [Part.feed]
  split
  · rename_i hstreaming
    exact absurd hstreaming (h _ _ _)
  · rfl

theorem Over.pollDone (h : part.Over) (clock : Clock) : (part.pollDone clock).2 = part := by
  rw [Part.pollDone, h.feed]
  split
  · rfl
  simp only
  split
  all_goals rfl

/-! ## Bytes that arrive one after another -/

/-- DMA has nothing for a program. -/
def NoBlock (part : Part) : Prop := ∀ claim, part.dma = some claim → claim.block = []

/-- What a part takes is in the FIFO then. -/
theorem pull_of_no_block (hblock : NoBlock part) (expected : Nat) (data : List UInt8) :
    pull expected data part =
      (data ++ part.writeFifo.take (expected - data.length),
        { part with writeFifo := part.writeFifo.drop (expected - data.length) }) := by
  unfold pull
  cases hdma : part.dma with
  | none => rfl
  | some claim =>
    obtain ⟨channel, block⟩ := claim
    obtain rfl : block = [] := hblock _ hdma
    dsimp only
    rw [List.take_nil, List.append_nil, List.drop_nil, ← hdma]

/-- Without a DMA channel a part takes all that is in the FIFO, if that is no more than it wants. -/
theorem pull_of_short {expected : Nat} {data : List UInt8}
    (hshort : part.writeFifo.length ≤ expected - data.length) (hdma : part.dma = none) :
    pull expected data part = (data ++ part.writeFifo, { part with writeFifo := [] }) := by
  have hblock : NoBlock part := by
    intro claim hclaim
    rw [hdma] at hclaim
    cases hclaim
  rw [pull_of_no_block hblock, List.take_of_length_le hshort, List.drop_of_length_le hshort]

/-- A program command once `data` of `expected` bytes are there. -/
def receive (clock : Clock) (addr expected : Nat) (data : List UInt8) (part : Part) : Part :=
  if data.length < expected then
    { part with transaction := some (.streaming addr expected data) }
  else { program clock addr data part with transaction := some (.done 0) }

theorem feed_of_streaming {expected : Nat} {data : List UInt8}
    (h : part.transaction = some (.streaming addr expected data)) :
    feed clock part = receive clock addr expected (pull expected data part).1
      (pull expected data part).2 := by
  rw [feed, h]
  rfl

/-- A part that carries out a program command for a page, of which `rest` is still to come. -/
structure Streaming (clock : Clock) (addr : Nat) (payload rest : List UInt8)
    (before after : Part) : Prop where
  steady : Steady before after
  dma_eq : after.dma = none
  fifo_eq : after.writeFifo = []
  /-- As long as bytes are missing nothing has been programmed. -/
  waiting : rest ≠ [] → after.cells = before.cells ∧ after.writeEnabled = true ∧
    ∃ fed, payload = fed ++ rest ∧
      after.transaction = some (.streaming addr payload.length fed)
  /-- With the last byte the page is programmed. -/
  fired : rest = [] → Fired clock addr payload before after ∧
    ∃ value, after.transaction = some (.done value)

/-- With each byte received the part waits for the rest, or it programs the page. -/
theorem streaming_receive {fed : List UInt8} (hpayload : payload = fed ++ rest)
    (hsteady : Steady before part) (hcells : part.cells = before.cells)
    (hlatch : part.writeEnabled = true) (hdma : part.dma = none) (hfifo : part.writeFifo = [])
    (hpage : addr % pageSize + payload.length ≤ pageSize)
    (hfit : addr + payload.length ≤ before.cells.size) :
    Streaming clock addr payload rest before
      (receive clock addr payload.length fed part) := by
  by_cases hrest : rest = []
  · subst hrest
    rw [List.append_nil] at hpayload
    subst hpayload
    obtain ⟨cells, hprogrammed, hprogram⟩ :=
      program_of_enabled hlatch hpage (hcells ▸ hfit)
    rw [receive, if_neg (Nat.lt_irrefl _), hprogram]
    refine ⟨⟨hsteady.1, hsteady.2, hsteady.3, hsteady.4⟩, hdma, hfifo,
      fun h => absurd rfl h, fun _ => ⟨⟨⟨hsteady.1, hsteady.2, hsteady.3, hsteady.4⟩, ?_, rfl, ?_⟩,
        0, rfl⟩⟩
    · rw [← hcells]
      exact hprogrammed
    · rw [← hsteady.config_eq]
  · have hlt : fed.length < payload.length := by
      have hpos := List.length_pos_iff.2 hrest
      rw [hpayload, List.length_append]
      omega
    rw [receive, if_pos hlt]
    exact ⟨⟨hsteady.1, hsteady.2, hsteady.3, hsteady.4⟩, hdma, hfifo,
      fun _ => ⟨hcells, hlatch, fed, hpayload, rfl⟩, fun h => absurd h hrest⟩

/-- A refill is taken at once. -/
theorem Streaming.queue {count : Nat} (h : Streaming clock addr payload rest before part)
    (hrest : rest ≠ []) (hcount : count ≤ part.config.writeDepth)
    (hpage : addr % pageSize + payload.length ≤ pageSize)
    (hfit : addr + payload.length ≤ before.cells.size) :
    ∃ result, Part.queue clock (rest.take count) part = (.ok (), result) ∧
      Streaming clock addr payload (rest.drop count) before result := by
  obtain ⟨hcells, hlatch, fed, hpayload, htransaction⟩ := h.waiting hrest
  have hroom : ¬part.config.writeDepth - part.writeFifo.length < (rest.take count).length := by
    rw [h.fifo_eq, List.length_take, List.length_nil]
    omega
  let staged : Part := { part with writeFifo := part.writeFifo ++ rest.take count }
  have hstaged : staged.writeFifo = rest.take count := by
    rw [show staged.writeFifo = part.writeFifo ++ rest.take count from rfl, h.fifo_eq,
      List.nil_append]
  have hshort : staged.writeFifo.length ≤ payload.length - fed.length := by
    rw [hstaged, hpayload, List.length_append, List.length_take]
    omega
  refine ⟨feed clock staged, if_neg hroom, ?_⟩
  rw [feed_of_streaming (show staged.transaction = _ from htransaction),
    pull_of_short hshort h.dma_eq, hstaged]
  exact streaming_receive (by rw [List.append_assoc, List.take_append_drop]; exact hpayload)
    ⟨h.steady.1, h.steady.2, h.steady.3, h.steady.4⟩ hcells hlatch h.dma_eq rfl hpage hfit

/-- The program command of a page finds the first bytes of it in the FIFO. -/
theorem issue_program_streaming {config : ControllerConfig} {first : Nat}
    (harmed : Armed clock none (payload.take first) before part)
    (hmode : config.programMode.check before.features = .ok ()) (haddr : addr < addressSpace)
    (hpage : addr % pageSize + payload.length ≤ pageSize)
    (hfit : addr + payload.length ≤ before.cells.size) (hlisten : Listening clock before) :
    ∃ result, issue clock (Controller.programCommand config addr payload.length) part =
        (.ok (), result) ∧
      Streaming clock addr payload (payload.drop first) before result := by
  let command := Controller.programCommand config addr payload.length
  have hfeatures : part.features = before.features := harmed.steady.features_eq
  have hissue := issue_program (hfeatures ▸ hmode) (harmed.listening.2 hlisten) addr
    payload.length (show command = _ from rfl)
  have hshort : (part.heard command).writeFifo.length ≤
      payload.length - ([] : List UInt8).length := by
    rw [show (part.heard command).writeFifo = part.writeFifo from rfl, harmed.fifo_eq,
      List.length_take]
    exact Nat.min_le_right _ _
  have hpull := pull_of_short hshort harmed.dma_eq
  rw [List.nil_append, show (part.heard command).writeFifo = part.writeFifo from rfl,
    harmed.fifo_eq] at hpull
  refine ⟨_, hissue, ?_⟩
  have hstart : startProgram clock command (part.heard command) =
      if (payload.take first).length < payload.length then
        (.streaming addr payload.length (payload.take first),
          { part.heard command with writeFifo := [] })
      else
        (.done 0, program clock addr (payload.take first)
          { part.heard command with writeFifo := [] }) := by
    rw [startProgram, if_pos (show command.format = .addressProgramData from rfl),
      show command.dataLength = payload.length from rfl, hpull,
      show command.address = addr from Nat.mod_eq_of_lt haddr]
  have hreceive : { (startProgram clock command (part.heard command)).2 with
      transaction := some (startProgram clock command (part.heard command)).1 } =
      receive clock addr payload.length (payload.take first)
        { part.heard command with writeFifo := [] } := by
    rw [hstart, receive]
    split <;> rfl
  rw [hreceive]
  have hsteady := harmed.steady
  exact streaming_receive (List.take_append_drop _ _).symm
    ⟨hsteady.1, hsteady.2, hsteady.3, hsteady.4⟩ harmed.cells_eq (harmed.latched hlisten)
    harmed.dma_eq rfl hpage hfit

/-- A part that is not listening leaves the bytes in the FIFO. -/
theorem issue_program_missed {config : ControllerConfig} {dma : Option DmaClaim}
    {fifo : List UInt8} (harmed : Armed clock dma fifo before part)
    (hmode : config.programMode.check before.features = .ok ()) (addr len : Nat)
    (hlisten : ¬Listening clock before) :
    ∃ value result, issue clock (Controller.programCommand config addr len) part =
        (.ok (), result) ∧ result.transaction = some (.done value) ∧ Missed before result ∧
      result.dma = dma ∧ result.writeFifo = fifo := by
  have hfeatures : part.features = before.features := harmed.steady.features_eq
  obtain ⟨value, result, hissue, huntouched, hdone⟩ :=
    issue_of_not_listening (hfeatures ▸ hmode)
      (effective_program config.programMode addr len) (mt harmed.listening.1 hlisten)
  refine ⟨value, result, hissue, hdone, ?_⟩
  have hsteady := harmed.steady.trans huntouched.steady
  obtain ⟨_, _, _, rfl⟩ := huntouched
  exact ⟨⟨hsteady, harmed.cells_eq, harmed.passed hlisten, harmed.busyUntil_eq⟩, harmed.dma_eq,
    harmed.fifo_eq⟩

theorem Streaming.tried (h : Streaming clock addr payload rest before after) :
    Tried addr payload before after := by
  by_cases hrest : rest = []
  · exact .inr (h.fired hrest).1.programmed
  · exact .inl (h.waiting hrest).1

end Part

namespace Flash.Controller

variable {σ : Type} [Bus σ] [Carrier σ] {config : ControllerConfig} {addr : Nat}
  {payload : List UInt8} {rig : Rig σ} {before : Part} {ok : Unit → Rig σ → Prop}
  {err : Failure → Rig σ → Prop}

/-! ## Refills -/

/-- A part that waits for the rest of a page takes a refill at once. -/
theorem ends_refill {rest : List UInt8} {count : Nat}
    (hpage : addr % pageSize + payload.length ≤ pageSize)
    (hfit : addr + payload.length ≤ before.cells.size) (hrest : rest ≠ [])
    (hcount : count ≤ before.config.writeDepth)
    (hstream : Part.Streaming rig.clock addr payload rest before rig.part) :
    Op.Ends (Op.call (Bus.writeFifo · (rest.take count))) rig
      (fun _ r => rig.Abreast r ∧
        Part.Streaming rig.clock addr payload (rest.drop count) before r.part)
      (fun failure r => rig.Abreast r ∧
        Part.Streaming rig.clock addr payload rest before r.part ∧
        Carrier.strays rig.bus failure) := by
  rw [← hstream.steady.config_eq] at hcount
  obtain ⟨result, hqueue, hstream'⟩ := hstream.queue hrest hcount hpage hfit
  refine ends_relay (Carrier.relays_queue rig.clock _) ?_ ?_ ?_
  · intro _ r hcall habreast
    rw [hqueue] at hcall
    rw [← (Prod.mk.inj hcall).2]
    exact ⟨habreast, hstream'⟩
  · intro failure r hcall
    rw [hqueue] at hcall
    cases hcall
  · intro failure r hstray hpart habreast
    rw [hpart]
    exact ⟨habreast, hstream, hstray⟩

/-- A part that takes every byte at once is refilled until it has them all; only a FIFO that can
hold nothing keeps it waiting. -/
theorem ends_topUp_of_streaming {opcode : UInt8} {depth interval : Nat} {deadline : Deadline}
    (hdepth : before.config.writeDepth = depth)
    (hpage : addr % pageSize + payload.length ≤ pageSize)
    (hfit : addr + payload.length ≤ before.cells.size) (rest : List UInt8)
    (hstream : Part.Streaming rig.clock addr payload rest before rig.part) :
    Op.Ends (topUp opcode depth interval deadline rest) rig
      (fun _ r => rig.Abreast r ∧ Part.Streaming rig.clock addr payload [] before r.part)
      (fun failure r => rig.Abreast r ∧
        (∃ left, Part.Streaming rig.clock addr payload left before r.part) ∧
        (Carrier.strays rig.bus failure ∨ failure = .commandTimeout opcode ∧ depth = 0)) := by
  have hempty : ∀ clock left (bus : σ), Part.Streaming clock addr payload left before
      (Carrier.part bus) → Bus.writeLevel clock bus = 0 := by
    intro clock left bus h
    rw [Carrier.writeLevel_eq]
    exact congrArg List.length h.fifo_eq
  unfold Op.Ends
  fun_induction topUp opcode depth interval deadline rest rig with
  | case1 rig => exact ⟨.refl _, hstream⟩
  | case2 byte more bus clock progress level hlow count hroom =>
    have hlevel : level = 0 := hempty clock _ bus hstream
    refine ⟨.refl _, ⟨_, hstream⟩, .inr ⟨rfl, ?_⟩⟩
    simp only [count, List.length_cons] at hroom
    omega
  | case3 byte more bus clock progress level hlow count hroom failure bus' hcall =>
    have hrefill := ends_refill hpage hfit (List.cons_ne_nil byte more)
      (by omega : count ≤ before.config.writeDepth) hstream
    obtain ⟨habreast, hstream', hstray⟩ := (Op.ends_of_error (Op.call_eq hcall)).1 hrefill
    exact ⟨habreast, ⟨_, hstream'⟩, .inl hstray⟩
  | case4 byte more bus clock progress level hlow count hroom bus' hcall ih =>
    have hrefill := ends_refill hpage hfit (List.cons_ne_nil byte more)
      (by omega : count ≤ before.config.writeDepth) hstream
    obtain ⟨habreast, hstream'⟩ := (Op.ends_of_ok (Op.call_eq hcall)).1 hrefill
    refine Op.Ends.mono (ih hstream') ?_ ?_
    · exact fun _ r h => ⟨habreast.trans h.1, h.2⟩
    · rintro failure r ⟨habreast', hleft, hreason⟩
      rw [habreast.strays_eq] at hreason
      exact ⟨habreast.trans habreast', hleft, hreason⟩
  | case5 byte more bus clock progress level hhigh hexpired =>
    have hlevel : level = 0 := hempty clock _ bus hstream
    omega
  | case6 byte more bus clock progress level hhigh hexpired ih =>
    have hlevel : level = 0 := hempty clock _ bus hstream
    omega

/-- A FIFO that nobody empties is never refilled. -/
theorem ends_topUp_of_missed {opcode : UInt8} {depth interval : Nat} {deadline : Deadline}
    (rest : List UInt8) (hlevel : rest ≠ [] → depth ≤ rig.part.writeFifo.length) :
    Op.Ends (topUp opcode depth interval deadline rest) rig (fun _ r => rest = [] ∧ r = rig)
      (fun failure r => r.part = rig.part ∧ rig.Follows r ∧ failure = .commandTimeout opcode) := by
  unfold Op.Ends
  fun_induction topUp opcode depth interval deadline rest rig with
  | case1 rig => exact ⟨rfl, rfl⟩
  | case2 => exact ⟨rfl, .refl _, rfl⟩
  | case3 byte more bus clock progress level hlow count hroom =>
    have hfull : depth ≤ level := by
      rw [show level = (Carrier.part bus).writeFifo.length from Carrier.writeLevel_eq clock bus]
      exact hlevel (List.cons_ne_nil byte more)
    simp only [count, List.length_cons] at hroom
    omega
  | case4 byte more bus clock progress level hlow count hroom =>
    have hfull : depth ≤ level := by
      rw [show level = (Carrier.part bus).writeFifo.length from Carrier.writeLevel_eq clock bus]
      exact hlevel (List.cons_ne_nil byte more)
    simp only [count, List.length_cons] at hroom
    omega
  | case5 => exact ⟨rfl, .refl _, rfl⟩
  | case6 byte more bus clock progress level hhigh hexpired ih =>
    refine Op.Ends.mono (ih hlevel) (fun _ r h => ?_) fun failure r h => ?_
    · cases h.1
    · exact ⟨h.1, ((Rig.Follows.refl _).delay _).trans h.2.1, h.2.2⟩

/-! ## The page -/

/-- What the rig itself can do to keep a page from being sent. -/
inductive Blockage (clock : Clock) (part : Part) : Failure → Prop
  /-- The controller does not respond. -/
  | silent (opcode : UInt8) (h : part.faults.unresponsive = true) :
    Blockage clock part (.commandTimeout opcode)
  /-- The write FIFO does not drain, or it holds nothing. -/
  | undrained (opcode : UInt8) (h : ¬Part.Listening clock part ∨ part.config.writeDepth = 0) :
    Blockage clock part (.commandTimeout opcode)

/-- What the part makes of the program command of a page: it takes the first bytes, or it lets the
command pass by. -/
def Taken (clock : Clock) (addr : Nat) (payload rest : List UInt8) (before after : Part) : Prop :=
  (Part.Listening clock before → Part.Streaming clock addr payload rest before after) ∧
    (¬Part.Listening clock before → Part.Missed before after ∧ after.dma = before.dma ∧
      (∃ value, after.transaction = some (.done value)) ∧
      (rest ≠ [] → before.config.writeDepth ≤ after.writeFifo.length))

/-- The program command of a page, with as much of the page in the FIFO as that holds. -/
theorem issue_page {clock : Clock} {part : Part} {first : Nat} (hfree : before.dma = none)
    (hcount : min payload.length before.config.writeDepth = first)
    (harmed : Part.Armed clock none (payload.take first) before part)
    (hmode : config.programMode.check before.features = .ok ()) (haddr : addr < addressSpace)
    (hpage : addr % pageSize + payload.length ≤ pageSize)
    (hfit : addr + payload.length ≤ before.cells.size) :
    ∃ result, Part.issue clock (programCommand config addr payload.length) part =
        (.ok (), result) ∧
      Taken clock addr payload (payload.drop first) before result := by
  by_cases hlisten : Part.Listening clock before
  · obtain ⟨result, hissue, hstream⟩ :=
      Part.issue_program_streaming harmed hmode haddr hpage hfit hlisten
    exact ⟨result, hissue, fun _ => hstream, fun h => absurd hlisten h⟩
  · obtain ⟨value, result, hissue, hdone, hmissed, hdma, hfifo⟩ :=
      Part.issue_program_missed harmed hmode addr payload.length hlisten
    refine ⟨result, hissue, fun h => absurd h hlisten, fun _ =>
      ⟨hmissed, hdma.trans hfree.symm, ⟨value, hdone⟩, fun hrest => ?_⟩⟩
    have hlong : first < payload.length := by
      refine Nat.lt_of_not_le fun hle => hrest ?_
      rw [List.drop_of_length_le hle]
    rw [hfifo, List.length_take]
    omega

/-- A page whose last byte is there is sent, or its completion goes unheard. -/
theorem ends_close {opcode : UInt8} {policy : PollPolicy} {r : Rig σ} {next : Op σ Unit}
    (habreast : rig.Abreast r) (hdma : r.part.dma = rig.part.dma)
    (hshot : Part.Shot rig.clock addr payload rig.part r.part)
    (hdone : ∃ value, r.part.transaction = some (.done value))
    (hsent : ∀ last, Sent addr payload rig last → Op.Ends next last ok err)
    (hdropped : ∀ failure last,
      Abandoned (Blockage rig.clock rig.part) addr payload rig failure last → err failure last) :
    Op.Ends (Sequence.waitDone opcode policy >>= fun _ => next) r ok err := by
  obtain ⟨value, hdone⟩ := hdone
  rw [Op.ends_bind]
  refine (ends_waitDone opcode policy hdone).mono ?_ ?_
  · rintro _ last ⟨-, hpart, hlater, hresponse⟩
    rw [hshot.steady.faults_eq] at hresponse
    exact hsent last ⟨habreast.trans hlater, hresponse, hpart ▸ hdma, hpart ▸ hshot⟩
  · rintro failure last ⟨hpart, hfollows, hreason⟩
    rw [habreast.strays_eq, hshot.steady.faults_eq] at hreason
    refine hdropped failure last ⟨habreast.follows.trans hfollows, hpart ▸ hdma,
      hpart ▸ hshot.steady, hpart ▸ hshot.tried, ?_⟩
    rcases hreason with hstray | ⟨rfl, hsilent⟩
    · exact .inl hstray
    · exact .inr (.silent _ hsilent)

/-- Once the command has been issued, the page is sent or given up. -/
theorem ends_fill {opcode : UInt8} {interval : Nat} {deadline : Deadline} {policy : PollPolicy}
    {rest : List UInt8} {r : Rig σ} {next : Op σ Unit} (hfree : rig.part.dma = none)
    (hpage : addr % pageSize + payload.length ≤ pageSize)
    (hfit : addr + payload.length ≤ rig.part.cells.size) (habreast : rig.Abreast r)
    (htaken : Taken rig.clock addr payload rest rig.part r.part)
    (hsent : ∀ last, Sent addr payload rig last → Op.Ends next last ok err)
    (hdropped : ∀ failure last,
      Abandoned (Blockage rig.clock rig.part) addr payload rig failure last → err failure last) :
    Op.Ends (Op.bind (topUp opcode rig.part.config.writeDepth interval deadline rest)
      fun _ => Sequence.waitDone opcode policy >>= fun _ => next) r ok err := by
  refine Op.ends_bind.2 ?_
  by_cases hlisten : Part.Listening rig.clock rig.part
  · have hstream := htaken.1 hlisten
    rw [← habreast.clock_eq] at hstream
    refine (ends_topUp_of_streaming rfl hpage hfit rest hstream).mono ?_ ?_
    · rintro _ r' ⟨habreast', hstream'⟩
      rw [habreast.clock_eq] at hstream'
      obtain ⟨hfired, hdone⟩ := hstream'.fired rfl
      exact ends_close (habreast.trans habreast') (hstream'.dma_eq.trans hfree.symm)
        ⟨fun _ => hfired, fun h => absurd hlisten h⟩ hdone hsent hdropped
    · rintro failure r' ⟨habreast', ⟨left, hstream'⟩, hreason⟩
      rw [habreast.strays_eq] at hreason
      refine hdropped failure r' ⟨(habreast.trans habreast').follows,
        hstream'.dma_eq.trans hfree.symm, hstream'.steady, hstream'.tried, ?_⟩
      rcases hreason with hstray | ⟨rfl, hdepth⟩
      · exact .inl hstray
      · exact .inr (.undrained _ (.inr hdepth))
  · obtain ⟨hmissed, hdma, hdone, hlevel⟩ := htaken.2 hlisten
    have hshot : Part.Shot rig.clock addr payload rig.part r.part :=
      ⟨fun h => absurd h hlisten, fun _ => hmissed⟩
    refine (ends_topUp_of_missed rest hlevel).mono ?_ ?_
    · rintro _ r' ⟨-, rfl⟩
      exact ends_close habreast hdma hshot hdone hsent hdropped
    · rintro failure r' ⟨hpart, hfollows, rfl⟩
      exact hdropped _ r' ⟨habreast.follows.trans hfollows, hpart ▸ hdma, hpart ▸ hshot.steady,
        hpart ▸ hshot.tried, .inr (.undrained _ (.inl hlisten))⟩

/-- A page that is streamed reaches the wait for the part, or is given up. -/
theorem ends_streamPage (hmode : config.programMode.check rig.part.features = .ok ())
    (hfree : rig.part.dma = none) (haddr : addr < addressSpace)
    (hpage : addr % pageSize + payload.length ≤ pageSize)
    (hfit : addr + payload.length ≤ rig.part.cells.size)
    (hsent : ∀ r, Sent addr payload rig r → Op.Ends (Sequence.waitReady config.poll) r ok err)
    (hdropped : ∀ failure r, Abandoned (Blockage rig.clock rig.part) addr payload rig failure r →
      err failure r) :
    Op.Ends (streamPage config addr payload) rig ok err := by
  rw [streamPage, Op.ends_bind, Op.ends_inspect, Carrier.features_eq, Op.ends_bind,
    show config.programMode.check (Carrier.part rig.bus).features = .ok () from hmode,
    Op.ends_check_ok, Op.ends_bind]
  refine ends_arm config.poll (.silent _) (fun r₁ harmed₁ habreast₁ hresponse => ?_) hdropped
  rw [Op.ends_bind, Op.ends_inspect, Carrier.writeDepth_eq, Op.ends_bind]
  have hdepth : (Carrier.part r₁.bus).config.writeDepth = rig.part.config.writeDepth :=
    congrArg Part.Config.writeDepth harmed₁.steady.config_eq
  rw [hdepth]
  generalize hcount : min payload.length rig.part.config.writeDepth = first
  refine (ends_flush harmed₁).mono (fun _ r₂ h₂ => ?_) nofun
  have habreast₂ := habreast₁.trans h₂.2
  rw [Op.ends_bind]
  refine (ends_queue h₂.1 (payload.take first)).mono (fun _ r₃ h₃ => ?_) fun failure r₃ h₃ => ?_
  · obtain ⟨harmed₃, habreast₃⟩ := h₃
    replace habreast₃ := habreast₂.trans habreast₃
    obtain ⟨result, hissue, htaken⟩ :=
      issue_page hfree hcount (hfree ▸ harmed₃) hmode haddr hpage hfit
    rw [Op.ends_bind]
    refine ends_relay (Carrier.relays_issue r₃.clock _) ?_ ?_ ?_
    · intro _ r₄ hcall habreast₄
      rw [habreast₃.clock_eq, hissue] at hcall
      have hpart₄ : r₄.part = result := (Prod.mk.inj hcall).2.symm
      rw [Op.ends_bind, Op.ends_clock]
      exact ends_fill hfree hpage hfit (habreast₃.trans habreast₄) (hpart₄ ▸ htaken) hsent hdropped
    · intro failure r₄ hcall
      rw [habreast₃.clock_eq, hissue] at hcall
      cases hcall
    · intro failure r₄ hstray hpart habreast₄
      rw [habreast₃.strays_eq] at hstray
      exact hdropped failure r₄ (abandoned_of_armed (hpart ▸ harmed₃) rfl
        (habreast₃.trans habreast₄).follows (.inl hstray))
  · obtain ⟨harmed₃, habreast₃, hreason⟩ := h₃
    refine hdropped failure r₃
      (abandoned_of_armed harmed₃ rfl (habreast₂.trans habreast₃).follows ?_)
    rw [habreast₂.strays_eq] at hreason
    rcases hreason with hstray | ⟨-, hdepth⟩
    · exact .inl hstray
    · rw [List.length_take] at hdepth
      omega

omit [Carrier σ] in
theorem programOnePage_eq (config : ControllerConfig) (addr : Nat) (payload : List UInt8) :
    (programOnePage config addr payload : Op σ Unit) =
      Op.check (checkRange addr payload.length) >>= fun _ =>
        if addr % pageSize + payload.length > pageSize then Op.fail .invalidAlignment
        else if payload.isEmpty then pure ()
        else Op.mapFailure (programFailure addr) (streamPage config addr payload) := rfl

/-- What a page that is sent leaves once the part is listening. -/
structure PageDone (addr : Nat) (payload : List UInt8) (rig r : Rig σ) : Prop where
  steady : Part.Steady rig.part r.part
  /-- A part that was listening has programmed the page. -/
  programmed : Part.Listening rig.clock rig.part →
    Part.Cells.Programmed rig.part.cells r.part.cells addr payload
  /-- Any other part has missed it. -/
  missed : ¬Part.Listening rig.clock rig.part → r.part.cells = rig.part.cells

theorem ends_programOnePage (hfree : rig.part.dma = none)
    (hfit : addr + payload.length ≤ rig.part.cells.size) :
    Op.Ends (programOnePage config addr payload) rig (fun _ r => PageDone addr payload rig r)
      fun _ _ => True := by
  rw [programOnePage_eq, Op.ends_bind, Op.ends_check]
  refine ⟨fun _ hcheck => ?_, fun _ _ => trivial⟩
  by_cases hpage : addr % pageSize + payload.length > pageSize
  · rw [if_pos hpage]
    trivial
  rw [if_neg hpage]
  by_cases hempty : payload.isEmpty = true
  · rw [if_pos hempty, List.isEmpty_iff.1 hempty]
    exact ⟨.refl _, fun _ => Part.Cells.programmed_nil _ _, fun _ => rfl⟩
  rw [if_neg hempty, Op.ends_mapFailure]
  by_cases hmode : config.programMode.check rig.part.features = .ok ()
  · refine ends_streamPage hmode hfree (checkRange_eq_ok_iff.1 hcheck).1 (Nat.le_of_not_gt hpage)
      hfit (fun r hsent => ?_) fun _ _ _ => trivial
    refine (ends_waitReady r config.poll).mono ?_ fun _ _ _ => trivial
    rintro _ last ⟨huntouched, -, -⟩
    refine ⟨hsent.shot.steady.trans huntouched.steady, fun h => ?_, fun h => ?_⟩
    · rw [huntouched.cells_eq]
      exact (hsent.shot.1 h).programmed
    · rw [huntouched.cells_eq]
      exact (hsent.shot.2 h).cells_eq
  · rw [streamPage, Op.ends_bind, Op.ends_inspect, Carrier.features_eq, Op.ends_bind, Op.ends_check]
    exact ⟨fun _ h => absurd h hmode, fun _ _ => trivial⟩

end Flash.Controller

end CardReader
