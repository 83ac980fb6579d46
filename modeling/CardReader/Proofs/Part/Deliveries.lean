import CardReader.Proofs.Part.Changes
import CardReader.Proofs.Program.Page

/-!
# Bytes for a program, in any portions

A page program can be given its bytes in any portions, before its command and after it, with polls
in between.  What the part is like is a matter of the bytes that have arrived, and not of how they
came: as long as some are missing it waits and has programmed nothing, and with the last one it
programs them all at once.  The bytes before the command wait in the FIFO, unless an earlier program
takes them.

What is proved here:

* `afterMoves_staged` — bytes before the command are kept, in their order;
* `issue_program_receives` and `feed_receive` — the command takes them, and each delivery after it
  adds its own;
* `afterMoves_receive` — so the part is as the bytes that have arrived leave it;
* `deliveries_program` — as many deliveries as it takes come to one program, and
  `delivery_lost_to_waiting_program` — bytes that an earlier program takes are lost to the next.
-/

namespace CardReader

open Flash

namespace Part

variable {clock : Clock} {part base : Part} {command : Command} {addr expected : Nat}
  {fed data : List UInt8}

/-! ## Portions -/

/-- What becomes of a program does not depend on the transaction before. -/
theorem receive_transaction (clock : Clock) (addr expected : Nat) (data : List UInt8) (part : Part)
    (transaction : Option Transaction) :
    receive clock addr expected data { part with transaction } =
      receive clock addr expected data part := by
  rw [receive, receive]
  split
  · rfl
  · rw [program, program]
    split
    · rfl
    · rfl

theorem writeFifo_receive (clock : Clock) (addr expected : Nat) (data : List UInt8) (part : Part) :
    (receive clock addr expected data part).writeFifo = part.writeFifo := by
  rw [receive]
  split
  · rfl
  · rw [program]
    split
    · rfl
    · rfl

/-- A delivery adds its bytes to those that have arrived. -/
theorem feed_receive {earlier : Clock} {bytes : List UInt8} (hfifo : base.writeFifo = [])
    (hblock : NoBlock base) (hle : (fed ++ bytes).length ≤ expected) :
    ∃ later, feed clock { receive earlier addr expected fed base with writeFifo := bytes } =
      receive later addr expected (fed ++ bytes) base := by
  rw [List.length_append] at hle
  by_cases hmissing : fed.length < expected
  · refine ⟨clock, ?_⟩
    let waiting : Part :=
      { base with transaction := some (.streaming addr expected fed), writeFifo := bytes }
    rw [receive, if_pos hmissing]
    show feed clock waiting = _
    have hpull := pull_of_no_block (show NoBlock waiting from hblock) expected fed
    rw [feed_of_streaming (show waiting.transaction = _ from rfl), hpull,
      show waiting.writeFifo = bytes from rfl, List.take_of_length_le (by omega),
      List.drop_of_length_le (by omega), ← hfifo]
    exact receive_transaction clock addr expected _ base _
  · obtain rfl : bytes = [] := List.eq_nil_of_length_eq_zero (by omega)
    refine ⟨earlier, ?_⟩
    rw [List.append_nil, ← hfifo, ← writeFifo_receive earlier addr expected fed base, feed,
      receive, if_neg hmissing]

/-- A page program waits for data. -/
def Awaiting (part : Part) : Prop :=
  ∃ addr expected fed, part.transaction = some (.streaming addr expected fed) ∧
    fed.length < expected

/-- Nothing takes the bytes that are delivered: no program waits for them, or there are none. -/
def Untaken (part : Part) (bytes : List UInt8) : Prop :=
  part.Over ∨ Awaiting part ∧ bytes = []

/-- Bytes that nothing takes stay in the FIFO. -/
theorem feed_staged {bytes : List UInt8} (hblock : NoBlock part) (huntaken : Untaken part bytes) :
    feed clock { part with writeFifo := bytes } = { part with writeFifo := bytes } := by
  rcases huntaken with hover | ⟨⟨addr, expected, fed, hwaits, hmissing⟩, rfl⟩
  · let staged : Part := { part with writeFifo := bytes }
    exact Over.feed (show staged.Over from hover) clock
  · let waiting : Part := { part with writeFifo := [] }
    have hpull := pull_of_no_block (show NoBlock waiting from hblock) expected fed
    rw [show waiting.writeFifo = [] from rfl, List.take_nil, List.drop_nil,
      List.append_nil] at hpull
    show feed clock waiting = waiting
    rw [feed_of_streaming (show waiting.transaction = _ from hwaits), hpull, receive,
      if_pos hmissing, ← hwaits]

/-- A program command takes the bytes in the FIFO for the first of its own. -/
theorem issue_program_receives (hmode : command.mode.check part.features = .ok ())
    (hinstruction : command.instruction = .program)
    (hformat : command.format = .addressProgramData) (hlisten : Listening clock part)
    (hblock : NoBlock part) (hle : part.writeFifo.length ≤ command.dataLength) :
    issue clock command part =
      (.ok (), receive clock command.address command.dataLength part.writeFifo
        { part.heard command with writeFifo := [] }) := by
  have hpull := pull_of_no_block (show NoBlock (part.heard command) from hblock)
    command.dataLength []
  rw [show (part.heard command).writeFifo = part.writeFifo from rfl, List.nil_append,
    List.length_nil, Nat.sub_zero, List.take_of_length_le hle, List.drop_of_length_le hle] at hpull
  rw [issue_of_listening hmode hlisten, perform, hinstruction]
  dsimp only
  rw [startProgram, if_pos hformat, hpull, receive]
  dsimp only
  split
  · rfl
  · rfl

/-! ## Moves -/

/-- The clock and the part after some moves. -/
def afterMoves (clock : Clock) (part : Part) : List Move → Clock × Part
  | [] => (clock, part)
  | move :: rest => afterMoves (move.tick clock) (move.make clock part) rest

/-- The bytes that a move delivers: those of a write that the FIFO has room for. -/
def Move.delivers (clock : Clock) (part : Part) : Move → List UInt8
  | write data => if (queue clock data part).1.isOk then data else []
  | _ => []

/-- The bytes that some moves deliver. -/
def delivered (clock : Clock) (part : Part) : List Move → List UInt8
  | [] => []
  | move :: rest =>
    move.delivers clock part ++ delivered (move.tick clock) (move.make clock part) rest

/-- The move delivers bytes or lets time pass. -/
def Move.Supplies : Move → Prop
  | write _ | pause _ => True
  | _ => False

theorem afterMoves_append (first second : List Move) :
    ∀ (clock : Clock) (part : Part), afterMoves clock part (first ++ second) =
      afterMoves (afterMoves clock part first).1 (afterMoves clock part first).2 second := by
  induction first with
  | nil => intro clock part; rfl
  | cons move rest ih => intro clock part; exact ih _ _

theorem delivered_append (first second : List Move) :
    ∀ (clock : Clock) (part : Part), delivered clock part (first ++ second) =
      delivered clock part first ++
        delivered (afterMoves clock part first).1 (afterMoves clock part first).2 second := by
  induction first with
  | nil => intro clock part; rfl
  | cons move rest ih =>
    intro clock part
    rw [List.cons_append, delivered, ih, delivered, List.append_assoc]
    rfl

/-- A write delivers all of its bytes or is refused. -/
theorem write_cases (clock : Clock) (bytes : List UInt8) (part : Part) :
    ((Move.write bytes).delivers clock part = bytes ∧
        (Move.write bytes).make clock part =
          feed clock { part with writeFifo := part.writeFifo ++ bytes }) ∨
      (Move.write bytes).delivers clock part = [] ∧ (Move.write bytes).make clock part = part := by
  show (_ = _ ∧ (queue clock bytes part).2 = _) ∨ _ ∧ (queue clock bytes part).2 = _
  rw [Move.delivers, queue]
  split
  · exact .inr ⟨rfl, rfl⟩
  · exact .inl ⟨rfl, rfl⟩

/-! ## Before the command -/

theorem Untaken.of_append {first second : List UInt8} (h : Untaken part (first ++ second)) :
    Untaken part first :=
  h.imp id fun hwaits => ⟨hwaits.1, (List.append_eq_nil_iff.1 hwaits.2).1⟩

theorem make_staged {move : Move} (hmove : move.Supplies) (hblock : NoBlock part)
    (huntaken : Untaken part (fed ++ move.delivers clock { part with writeFifo := fed })) :
    move.make clock { part with writeFifo := fed } =
      { part with writeFifo := fed ++ move.delivers clock { part with writeFifo := fed } } := by
  cases move with
  | write bytes =>
    rcases write_cases clock bytes { part with writeFifo := fed } with
      ⟨hbytes, hmake⟩ | ⟨hnone, hmake⟩
    · rw [hbytes] at huntaken ⊢
      rw [hmake]
      exact feed_staged hblock huntaken
    · rw [hmake, hnone, List.append_nil]
  | pause us =>
    show { part with writeFifo := fed } = { part with writeFifo := fed ++ [] }
    rw [List.append_nil]
  | _ => exact hmove.elim

/-- Before the command the bytes are kept, in their order. -/
theorem afterMoves_staged {moves : List Move} (hmoves : ∀ move ∈ moves, move.Supplies)
    (hblock : NoBlock part) :
    ∀ (clock : Clock) (fed : List UInt8),
      Untaken part (fed ++ delivered clock { part with writeFifo := fed } moves) →
      (afterMoves clock { part with writeFifo := fed } moves).2 =
          { part with writeFifo := fed ++ delivered clock { part with writeFifo := fed } moves } ∧
        clock.now ≤ (afterMoves clock { part with writeFifo := fed } moves).1.now := by
  induction moves with
  | nil =>
    intro clock fed _
    rw [delivered, List.append_nil]
    exact ⟨rfl, Nat.le_refl _⟩
  | cons move rest ih =>
    intro clock fed huntaken
    have hmove := hmoves move List.mem_cons_self
    rw [delivered, ← List.append_assoc] at huntaken ⊢
    have hmake := make_staged hmove hblock huntaken.of_append
    rw [hmake] at huntaken ⊢
    rw [afterMoves, hmake]
    obtain ⟨hafter, hlater⟩ := ih (fun other hmem => hmoves other (List.mem_cons_of_mem _ hmem))
      (move.tick clock) _ huntaken
    exact ⟨hafter, Nat.le_trans (move.now_le_tick clock) hlater⟩

/-! ## After the command -/

theorem faults_receive (clock : Clock) (addr expected : Nat) (data : List UInt8) (part : Part) :
    (receive clock addr expected data part).faults = part.faults := by
  rw [receive]
  split
  · rfl
  · rw [program]
    split
    · rfl
    · rfl

/-- A poll changes nothing, and answers once all bytes have arrived. -/
theorem pollDone_receive (clock earlier : Clock) (addr : Nat) (hfifo : base.writeFifo = [])
    (hblock : NoBlock base) (hresponse : base.faults.unresponsive = false)
    (hle : fed.length ≤ expected) :
    ∃ later, pollDone clock (receive earlier addr expected fed base) =
      (.ok (if fed.length < expected then none else some 0),
        receive later addr expected fed base) := by
  have hempty := (writeFifo_receive earlier addr expected fed base).trans hfifo
  have hsilent : (receive earlier addr expected fed base).faults.unresponsive = false := by
    rw [faults_receive, hresponse]
  have hsame : { receive earlier addr expected fed base with writeFifo := [] } =
      receive earlier addr expected fed base := by
    rw [← hempty]
  have hfeed : ∃ later, feed clock { receive earlier addr expected fed base with writeFifo := [] } =
      receive later addr expected (fed ++ []) base :=
    feed_receive hfifo hblock (by rwa [List.append_nil])
  obtain ⟨later, hfeed⟩ := hfeed
  rw [hsame, List.append_nil] at hfeed
  refine ⟨later, ?_⟩
  rw [pollDone, if_neg (by rw [hsilent]; exact Bool.false_ne_true), hfeed]
  by_cases hmissing : fed.length < expected
  · rw [if_pos hmissing, receive, if_pos hmissing]
  · rw [if_neg hmissing, receive, if_neg hmissing]

theorem make_receive {move : Move} {earlier : Clock} (hmove : move.Supplies ∨ move = .poll)
    (hfifo : base.writeFifo = []) (hblock : NoBlock base)
    (hresponse : base.faults.unresponsive = false)
    (hle : (fed ++ move.delivers clock (receive earlier addr expected fed base)).length ≤
      expected) :
    ∃ later, move.make clock (receive earlier addr expected fed base) =
      receive later addr expected
        (fed ++ move.delivers clock (receive earlier addr expected fed base)) base := by
  have hempty := (writeFifo_receive earlier addr expected fed base).trans hfifo
  cases move with
  | write bytes =>
    rcases write_cases clock bytes (receive earlier addr expected fed base) with
      ⟨hbytes, hmake⟩ | ⟨hnone, hmake⟩
    · rw [hbytes] at hle ⊢
      rw [hmake, hempty, List.nil_append]
      exact feed_receive hfifo hblock hle
    · rw [hmake, hnone, List.append_nil]
      exact ⟨earlier, rfl⟩
  | pause us =>
    refine ⟨earlier, ?_⟩
    show receive earlier addr expected fed base = receive earlier addr expected (fed ++ []) base
    rw [List.append_nil]
  | poll =>
    have hfed : fed.length ≤ expected :=
      Nat.le_trans (List.sublist_append_left fed _).length_le hle
    obtain ⟨later, hpoll⟩ := pollDone_receive clock earlier addr hfifo hblock hresponse hfed
    refine ⟨later, (congrArg Prod.snd hpoll).trans ?_⟩
    show _ = receive later addr expected (fed ++ []) base
    rw [List.append_nil]
  | _ => exact (hmove.resolve_right nofun).elim

/-- After the command the part is as the bytes that have arrived leave it. -/
theorem afterMoves_receive {moves : List Move}
    (hmoves : ∀ move ∈ moves, move.Supplies ∨ move = .poll) (hfifo : base.writeFifo = [])
    (hblock : NoBlock base) (hresponse : base.faults.unresponsive = false) :
    ∀ (clock earlier : Clock) (fed : List UInt8),
      (fed ++ delivered clock (receive earlier addr expected fed base) moves).length ≤ expected →
      ∃ later, (afterMoves clock (receive earlier addr expected fed base) moves).2 =
        receive later addr expected
          (fed ++ delivered clock (receive earlier addr expected fed base) moves) base := by
  induction moves with
  | nil =>
    intro clock earlier fed _
    rw [delivered, List.append_nil]
    exact ⟨earlier, rfl⟩
  | cons move rest ih =>
    intro clock earlier fed hle
    rw [delivered, ← List.append_assoc] at hle ⊢
    obtain ⟨later, hmake⟩ := make_receive (hmoves move List.mem_cons_self) hfifo hblock hresponse
      (Nat.le_trans (List.sublist_append_left _ _).length_le hle)
    rw [hmake] at hle ⊢
    rw [afterMoves, hmake]
    exact ih (fun other hmem => hmoves other (List.mem_cons_of_mem _ hmem)) _ later _ hle

/-! ## Deliveries -/

/-- What a program makes of the array is a matter of the array and the latch. -/
theorem cells_program_congr {before : Part} (hcells : part.cells = before.cells)
    (hlatch : part.writeEnabled = before.writeEnabled) (later clock : Clock) (addr : Nat)
    (data : List UInt8) :
    (program later addr data part).cells = (program clock addr data before).cells := by
  rw [program, program, hlatch]
  split
  · exact congrArg (clearPage · _ _ _) hcells
  · exact hcells

/-- The part after deliveries before and after a program command is as their bytes leave it. -/
theorem afterMoves_deliveries {early late : List Move} (hlisten : Listening clock part)
    (hfifo : part.writeFifo = []) (hblock : NoBlock part)
    (hresponse : part.faults.unresponsive = false)
    (hmode : command.mode.check part.features = .ok ())
    (hinstruction : command.instruction = .program)
    (hformat : command.format = .addressProgramData)
    (huntaken : Untaken part (delivered clock part early))
    (hearly : ∀ move ∈ early, move.Supplies)
    (hlate : ∀ move ∈ late, move.Supplies ∨ move = .poll)
    (hle : (delivered clock part (early ++ .issue command :: late)).length ≤ command.dataLength) :
    (afterMoves clock part early).2 = { part with writeFifo := delivered clock part early } ∧
      ∃ later, (afterMoves clock part (early ++ .issue command :: late)).2 =
        receive later command.address command.dataLength
          (delivered clock part (early ++ .issue command :: late))
          { part.heard command with writeFifo := [] } := by
  have hsame : { part with writeFifo := [] } = part := by rw [← hfifo]
  have hstages := afterMoves_staged hearly hblock clock [] (by rw [hsame]; exact huntaken)
  rw [hsame, List.nil_append] at hstages
  obtain ⟨hstaged, hlater⟩ := hstages
  refine ⟨hstaged, ?_⟩
  rw [afterMoves_append, hstaged]
  rw [delivered_append, hstaged] at hle ⊢
  generalize delivered clock part early = fed at hle ⊢
  generalize (afterMoves clock part early).1 = now at hlater hle ⊢
  let staged : Part := { part with writeFifo := fed }
  have hlisten' : Listening now staged := by
    have h := listening_of_later hlisten hlater
    exact ⟨h.awake, h.alert, h.idle⟩
  have hroom : fed.length ≤ command.dataLength :=
    Nat.le_trans (List.sublist_append_left fed _).length_le hle
  have hmake : Move.make now staged (.issue command) =
      receive now command.address command.dataLength fed
        { part.heard command with writeFifo := [] } :=
    congrArg Prod.snd
      (issue_program_receives (show command.mode.check staged.features = .ok () from hmode)
        hinstruction hformat hlisten' hblock hroom)
  rw [show delivered now staged (.issue command :: late) =
    delivered now (Move.make now staged (.issue command)) late from rfl, hmake] at hle ⊢
  rw [show afterMoves now staged (.issue command :: late) =
    afterMoves now (Move.make now staged (.issue command)) late from rfl, hmake]
  exact afterMoves_receive hlate rfl
    (show NoBlock { part.heard command with writeFifo := [] } from hblock) hresponse now now fed hle

/-- On a part that listens under the latch, with nothing in the write FIFO and nothing for it in
DMA, the bytes of a page program may be delivered in any portions, some before its command unless
another program takes them.  As long as some are missing a poll does not answer and neither the
array nor the latch changes; once all have arrived it answers, and the array is as one program of all
of them leaves it. -/
theorem deliveries_program {rest : List UInt8} {early late : List Move}
    (hlisten : Listening clock part) (hlatch : part.writeEnabled = true)
    (hfifo : part.writeFifo = []) (hblock : NoBlock part)
    (hresponse : part.faults.unresponsive = false)
    (hmode : command.mode.check part.features = .ok ())
    (hinstruction : command.instruction = .program)
    (hformat : command.format = .addressProgramData) (hlength : command.dataLength = data.length)
    (huntaken : Untaken part (delivered clock part early))
    (hearly : ∀ move ∈ early, move.Supplies)
    (hlate : ∀ move ∈ late, move.Supplies ∨ move = .poll)
    (hdelivered : delivered clock part (early ++ .issue command :: late) ++ rest = data) :
    let staged := (afterMoves clock part early).2
    let reached := afterMoves clock part (early ++ .issue command :: late)
    (staged.cells = part.cells ∧ staged.writeEnabled = true) ∧
      (rest ≠ [] → (pollDone reached.1 reached.2).1 = .ok none ∧
        reached.2.cells = part.cells ∧ reached.2.writeEnabled = true) ∧
      (rest = [] → (pollDone reached.1 reached.2).1 = .ok (some 0) ∧
        reached.2.cells = (part.program clock command.address data).cells ∧
        reached.2.writeEnabled = false) := by
  intro staged reached
  let base : Part := { part.heard command with writeFifo := [] }
  have hle : (delivered clock part (early ++ .issue command :: late)).length ≤
      command.dataLength := by
    rw [hlength, ← hdelivered]
    exact (List.sublist_append_left _ rest).length_le
  obtain ⟨hstaged, later, hreached⟩ := afterMoves_deliveries hlisten hfifo hblock hresponse hmode
    hinstruction hformat huntaken hearly hlate hle
  obtain ⟨_, hpoll⟩ := pollDone_receive reached.1 later command.address
    (show base.writeFifo = [] from rfl) (show NoBlock base from hblock) hresponse hle
  rw [← hreached] at hpoll
  refine ⟨?_, fun hmissing => ?_, fun hall => ?_⟩
  · rw [show staged = _ from hstaged]
    exact ⟨rfl, hlatch⟩
  · have hlt : (delivered clock part (early ++ .issue command :: late)).length <
        command.dataLength := by
      have hpos := List.length_pos_iff.2 hmissing
      rw [hlength, ← hdelivered, List.length_append]
      omega
    have hwaiting : reached.2.cells = part.cells ∧ reached.2.writeEnabled = part.writeEnabled := by
      rw [show reached.2 = _ from hreached, receive, if_pos hlt]
      exact ⟨rfl, rfl⟩
    rw [hpoll, if_pos hlt]
    exact ⟨rfl, hwaiting.1, hwaiting.2.trans hlatch⟩
  · subst hall
    rw [List.append_nil] at hdelivered
    have hfull : ¬(delivered clock part (early ++ .issue command :: late)).length <
        command.dataLength := by
      rw [hdelivered, hlength]
      exact Nat.lt_irrefl _
    have hcells := cells_program_congr (show base.cells = part.cells from rfl)
      (show base.writeEnabled = part.writeEnabled from rfl) later clock command.address data
    have hprogrammed : reached.2.cells = (part.program clock command.address data).cells ∧
        reached.2.writeEnabled = false := by
      rw [show reached.2 = _ from hreached, receive, if_neg hfull, hdelivered]
      refine ⟨hcells, ?_⟩
      rw [program, if_pos (show base.writeEnabled = true from hlatch)]
      rfl
    rw [hpoll, if_neg hfull]
    exact ⟨rfl, hprogrammed⟩

/-- Five bytes that go past the end of their page come in three portions, the first before the
command and with polls and time in between, and one program of them changes the same cells. -/
theorem deliveries_program_across_page_end :
    let config : Config := { size := 512, writeDepth := 4 }
    let part : Part := { Part.new config with writeEnabled := true }
    let command : Command := .program Opcode.pageProgram 254 5
    let data : List UInt8 := [1, 2, 3, 4, 5]
    let early : List Move := [.write [1, 2], .write [9, 9, 9]]
    let late : List Move := [.poll, .write [3], .pause 7, .write [], .poll, .write [4, 5]]
    let reached := afterMoves .start part (early ++ .issue command :: late)
    Listening .start part ∧ part.writeEnabled = true ∧
      delivered .start part (early ++ .issue command :: late) = data ∧
      (pollDone reached.1 reached.2).1 = .ok (some 0) ∧
      reached.2.cells = (part.program .start 254 data).cells := by
  intro config part command data early late reached
  have hlisten : Listening .start part := by decide
  have hearly : ∀ move ∈ early, move.Supplies := by simp [early, Move.Supplies]
  have hlate : ∀ move ∈ late, move.Supplies ∨ move = .poll := by simp [late, Move.Supplies]
  have huntaken : Untaken part (delivered .start part early) := .inl nofun
  have hdelivered : delivered .start part (early ++ .issue command :: late) ++ [] = data := by
    decide
  have hends := (deliveries_program hlisten rfl rfl (show NoBlock part from nofun) rfl rfl rfl rfl
    rfl huntaken hearly hlate hdelivered).2.2 rfl
  exact ⟨hlisten, rfl, by rw [← hdelivered, List.append_nil], hends.1, hends.2.1⟩

/-- Two bytes that are delivered while a program at 0 still waits for data are lost to the program
at 16 that they were meant for: it goes on waiting. -/
theorem delivery_lost_to_waiting_program :
    let part := (afterMoves .start (Part.new { size := 512 })
      [.issue (.simple Opcode.writeEnable), .issue (.program Opcode.pageProgram 0 4)]).2
    let command : Command := .program Opcode.pageProgram 16 2
    let data : List UInt8 := [0x11, 0x22]
    let moves : List Move := [.write data, .issue command]
    let reached := afterMoves .start part moves
    (Listening .start part ∧ part.writeEnabled = true ∧ part.writeFifo = [] ∧ part.dma = none ∧
        part.faults = {}) ∧
      delivered .start part moves = data ∧
      (pollDone reached.1 reached.2).1 = .ok none ∧
      reached.2.cells.cell 16 = 0xFF ∧ (part.program .start 16 data).cells.cell 16 = 0x11 := by
  intro part command data moves reached
  have hready : Listening .start part ∧ part.writeEnabled = true ∧ part.writeFifo = [] ∧
      part.dma = none ∧ part.faults = {} := by decide +kernel
  have hcells : reached.2.cells.cell 16 = 0xFF ∧
      (part.program .start 16 data).cells.cell 16 = 0x11 := by decide +kernel
  exact ⟨hready, by decide +kernel, rfl, hcells⟩

end Part

end CardReader
