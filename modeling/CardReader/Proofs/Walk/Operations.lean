import CardReader.Proofs.Act
import CardReader.Proofs.Program.Page
import CardReader.Proofs.Program.Run
import CardReader.Proofs.Walk.Rules

/-!
# A walk over the operations of a controller

What the constructions and the calls of a bus respect is respected by the operations of the
controller and by the calls that are made of it.  The rules say so for each construction and for
each call that moves no data.  Data is moved in four places, where more is known than that a call is
made: bytes are staged once the FIFOs are empty, a channel feeds the program command of a chunk, a
write FIFO is topped up with what fits, and a piece is read that the read FIFO has room for.  A walk
has a rule for each of these as well.

What is proved here:

* `topUp_eq` — a top-up is a number of rounds, bounded by what is to come and by the time left;
* `Rules.rel_stage`, `Rules.rel_feedChannel`, `Rules.rel_refill` and `Rules.rel_readPiece` — the
  four rules, if data can be moved at any time;
* `Walk.rel_erase`, `Walk.rel_program`, `Walk.rel_read` and their companions — the operations, and
  for how much each counts;
* `Walk.rel_run` — every call whose checks are passed and whose commands may be sent.
-/

namespace CardReader.Flash

namespace Controller

open Op Sequence

/-! ## Refills -/

section Refills

variable {σ : Type} [Bus σ] (opcode : UInt8) (depth interval : Nat) (deadline : Deadline)

/-- One round of a top-up: what fits is added if the FIFO has drained, and otherwise time passes.
The answer is the data still to come. -/
def refill (data : List UInt8) : Op σ (List UInt8) := do
  let now ← Op.clock
  let level ← Op.inspect (Bus.writeLevel now)
  if level ≤ depth / 2 then
    let count := min (depth - level) data.length
    if count = 0 then Op.fail (.commandTimeout opcode)
    else do
      Op.call (Bus.writeFifo · (data.take count))
      return data.drop count
  else if deadline.expired now then Op.fail (.commandTimeout opcode)
  else do
    Op.delay interval
    return data

/-- So many rounds, or as many as the data takes. -/
def refills : Nat → List UInt8 → Op σ Unit
  | 0, _ | _ + 1, [] => pure ()
  | rounds + 1, byte :: more => do
    let rest ← refill opcode depth interval deadline (byte :: more)
    refills rounds rest

variable {opcode depth interval deadline}

/-- A top-up is a round, and a top-up with what is still to come after it. -/
theorem topUp_cons (byte : UInt8) (more : List UInt8) :
    (topUp opcode depth interval deadline (byte :: more) : Op σ Unit) =
      refill opcode depth interval deadline (byte :: more) >>=
        topUp opcode depth interval deadline := by
  funext ⟨bus, clock, progress⟩
  let level := Bus.writeLevel clock bus
  have hround : (refill opcode depth interval deadline (byte :: more) >>=
      topUp opcode depth interval deadline) ⟨bus, clock, progress⟩ = Op.bind
        (if level ≤ depth / 2 then _ else if deadline.expired clock then _ else _)
        (topUp opcode depth interval deadline) ⟨bus, clock, progress⟩ := rfl
  rw [topUp, hround]
  -- the round branches as the top-up does, first on the level and then on the room or the deadline
  by_cases hlow : level ≤ depth / 2
  · rw [dif_pos hlow, if_pos hlow]
    by_cases hroom : min (depth - level) (byte :: more).length = 0
    · rw [dif_pos hroom, if_pos hroom]
      rfl
    · rw [dif_neg hroom, if_neg hroom]
      generalize min (depth - level) (byte :: more).length = count
      cases hcall : Bus.writeFifo clock ((byte :: more).take count) bus with
      | mk outcome bus' =>
        cases outcome with
        | ok => simp only [bind, Op.bind, call, hcall]; rfl
        | error failure => simp only [bind, Op.bind, call, hcall]
  · rw [dif_neg hlow, if_neg hlow]
    by_cases hexpired : deadline.expired clock = true
    · rw [dif_pos hexpired, if_pos hexpired]
      rfl
    · rw [dif_neg hexpired, if_neg hexpired]
      rfl

/-- A round leaves less data or less time. -/
theorem ends_refill_less {data : List UInt8} (hdata : data ≠ []) (rig : Rig σ) :
    Op.Ends (refill opcode depth interval deadline data) rig
      (fun rest r => rest.length + deadline.remaining r.clock <
        data.length + deadline.remaining rig.clock) fun _ _ => True := by
  have hpos := List.length_pos_iff.2 hdata
  unfold refill
  simp only [ends_bind, ends_clock, ends_inspect]
  split
  · split
    · trivial
    rename_i hroom
    rw [ends_bind, ends_call]
    refine ⟨fun _ _ => ?_, fun _ _ => trivial⟩
    rw [ends_pure, List.length_drop]
    simp only
    omega
  split
  · trivial
  rename_i hexpired
  rw [ends_bind, ends_delay, ends_pure]
  exact Nat.add_lt_add_left
    (Deadline.remaining_delay_lt interval (Bool.eq_false_iff.2 hexpired)) _

/-- A top-up is over after as many rounds as there are bytes to come and microseconds left. -/
theorem topUp_eq_refills {rounds : Nat} {data : List UInt8} {rig : Rig σ}
    (h : data.length + deadline.remaining rig.clock ≤ rounds) :
    topUp opcode depth interval deadline data rig =
      refills opcode depth interval deadline rounds data rig := by
  induction rounds generalizing data rig with
  | zero =>
    obtain rfl : data = [] := List.eq_nil_of_length_eq_zero (by omega)
    rw [topUp]
    rfl
  | succ rounds ih =>
    cases data with
    | nil =>
      rw [topUp]
      rfl
    | cons byte more =>
      have hless : Op.Ends (refill opcode depth interval deadline (byte :: more)) rig _ _ :=
        ends_refill_less (List.cons_ne_nil byte more) rig
      rw [topUp_cons, refills]
      show Op.bind _ _ rig = Op.bind _ _ rig
      cases hrun : refill opcode depth interval deadline (byte :: more) rig with
      | mk outcome r =>
        simp only [Op.bind, hrun]
        cases outcome with
        | ok rest =>
          have hrest := (ends_of_ok hrun).1 hless
          exact ih (by omega)
        | error failure => rfl

theorem topUp_eq (data : List UInt8) :
    (topUp opcode depth interval deadline data : Op σ Unit) = Op.clock >>= fun now =>
      refills opcode depth interval deadline (data.length + deadline.remaining now) data := by
  funext rig
  exact topUp_eq_refills (Nat.le_refl _)

end Refills

/-- Sends the program command of a chunk, which a claimed channel feeds. -/
def feedChannel {σ : Type} [Bus σ] (config : ControllerConfig) (addr : Nat) (data : List UInt8) :
    Op σ Unit := do
  Op.update Bus.flushFifos
  Op.call (Bus.dmaStart · config.dmaChannel data)
  let _ ← transact (programCommand config addr data.length) config.poll
  waitIdle config.dmaChannel config.poll

end Controller

open Op Sequence Controller

/-! ## Data that can be moved at any time -/

namespace Op.Rules

variable {σ τ α : Type} [Bus σ] [Bus τ] (rules : Rules σ τ) {config : ControllerConfig} {n : Nat}

theorem rel_feedChannel {addr : Nat} {data : List UInt8}
    (hstart : rules.Rel 0 (call (Bus.dmaStart · config.dmaChannel data))
      (call (Bus.dmaStart · config.dmaChannel data)))
    (hidle : rules.Rel 0 (idleProbe config.dmaChannel) (idleProbe config.dmaChannel))
    (hsends : rules.Sends (programCommand config addr data.length) n) :
    rules.Rel n (feedChannel config addr data) (feedChannel config addr data) :=
  rules.rel_silent_bind rules.rel_flush fun _ => rules.rel_silent_bind hstart fun _ =>
    rules.rel_bind_silent (rules.rel_transact hsends _) fun _ =>
      rules.rel_wait _ (rules.allows_of_isTimeout rfl) hidle

section Write

variable (hwrite : ∀ data, rules.Rel 0 (call (Bus.writeFifo · data)) (call (Bus.writeFifo · data)))

include hwrite

theorem rel_stage {data : List UInt8} {next : Unit → Op σ α} {next' : Unit → Op τ α}
    (hnext : rules.Rel n (next ()) (next' ())) :
    rules.Rel n (update Bus.flushFifos >>= fun _ => call (Bus.writeFifo · data) >>= next)
      (update Bus.flushFifos >>= fun _ => call (Bus.writeFifo · data) >>= next') :=
  rules.rel_silent_bind rules.rel_flush fun _ => rules.rel_silent_bind (hwrite data) fun _ => hnext

theorem rel_refill (hlevel : ∀ now, rules.Rel 0 (inspect (Bus.writeLevel now))
      (inspect (Bus.writeLevel now)))
    (opcode : UInt8) (depth interval : Nat) (deadline : Deadline) (data : List UInt8) :
    rules.Rel 0 (refill opcode depth interval deadline data)
      (refill opcode depth interval deadline data) := by
  have hlate : rules.Allows (.commandTimeout opcode) := rules.allows_of_isTimeout rfl
  refine rules.rel_silent_bind rules.rel_clock fun now =>
    rules.rel_silent_bind (hlevel now) fun level => ?_
  refine rules.rel_ite (fun _ => rules.rel_ite (fun _ => rules.rel_fail 0 hlate) fun _ => ?_)
    fun _ => rules.rel_ite (fun _ => rules.rel_fail 0 hlate) fun _ => ?_
  · exact rules.rel_bind_pure (hwrite _) _
  · exact rules.rel_bind_pure (rules.rel_delay _) _

end Write

theorem rel_readPiece
    (htake : ∀ len, rules.Rel 0 (mapFailure (fun _ => .readFailed) (call (Bus.readFifo · len)))
      (mapFailure (fun _ => .readFailed) (call (Bus.readFifo · len))))
    {addr len : Nat} (hsends : rules.Sends (readCommand config addr len) 0) :
    rules.Rel 0 (readPiece config addr len) (readPiece config addr len) :=
  rules.rel_bind rules.rel_flush fun _ =>
    rules.rel_bind (rules.rel_transact hsends _) fun _ => htake len

end Op.Rules

/-! ## Walks -/

/-- Rules that suffice for the operations of a controller. -/
structure Walk (σ τ : Type) [Bus σ] [Bus τ] (config : ControllerConfig) extends Rules σ τ where
  /-- How many bytes may be staged at a time. -/
  Stages : Nat → Prop
  /-- How many bytes may be read at a time. -/
  Fetches : Nat → Prop
  /-- What a program command counts for. -/
  cost : Nat
  /-- What a wait for the part counts for. -/
  wait : Nat
  allows_programFailure : ∀ {failure : Failure} (window : Nat), Allows failure →
    Allows (programFailure window failure)
  allows_dmaNotSupported : ∀ {bus : σ}, Holds bus → (Bus.features bus).dma = false →
    Allows .dmaNotSupported
  sends_writeEnable : Sends ((Command.simple Opcode.writeEnable).withMode .single) 0
  sends_programCommand : toRules.Checked config.programMode → ∀ addr len,
    Sends (programCommand config addr len) cost
  rel_waitReady : Rel wait (waitReady config.poll) (waitReady config.poll)
  rel_stage : ∀ {α : Type} {n : Nat} {data : List UInt8} {next : Unit → Op σ α}
    {next' : Unit → Op τ α}, Stages data.length → Rel n (next ()) (next' ()) →
      Rel n (update Bus.flushFifos >>= fun _ => call (Bus.writeFifo · data) >>= next)
        (update Bus.flushFifos >>= fun _ => call (Bus.writeFifo · data) >>= next')
  rel_load : toRules.Checked config.programMode → ∀ addr data,
    Rel cost (withChannel config.dmaChannel (feedChannel config addr data))
      (withChannel config.dmaChannel (feedChannel config addr data))
  rel_refill : ∀ {bus : σ}, Holds bus → ∀ opcode interval deadline data,
    Rel 0 (refill opcode (Bus.writeDepth bus) interval deadline data)
      (refill opcode (Bus.writeDepth bus) interval deadline data)
  rel_readPiece : toRules.Checked config.readMode → ∀ {len : Nat}, Fetches len → ∀ addr,
    Rel 0 (readPiece config addr len) (readPiece config addr len)

namespace Walk

variable {σ τ : Type} [Bus σ] [Bus τ] {config : ControllerConfig} (walk : Walk σ τ config)

/-- What a piece counts for. -/
def price : Nat := walk.cost + walk.wait

/-! ## Acts -/

theorem rel_writeEnable : walk.Rel 0 (writeEnable .single config.poll)
    (writeEnable .single config.poll) := walk.rel_singleCommand walk.sends_writeEnable _

theorem rel_act {command : Command} (hsends : walk.Sends command 0) :
    walk.Rel walk.wait (act command config.poll) (act command config.poll) :=
  walk.rel_silent_bind walk.rel_writeEnable fun _ =>
    walk.rel_silent_bind (walk.rel_transact hsends _) fun _ => walk.rel_waitReady

theorem rel_eraseWith {command : Command} (hsends : walk.Sends command 0) {addr : Nat}
    (hrename : ∀ failure, walk.Allows failure → walk.Allows (eraseFailure addr failure)) :
    walk.Rel walk.wait (eraseWith config command addr) (eraseWith config command addr) :=
  walk.rel_mapFailure hrename (walk.rel_act hsends)

theorem rel_erase {unit : EraseUnit} {addr : Nat}
    (haddr : unit ≠ .chip → walk.Accepts (checkAddress addr))
    (hsends : walk.Sends (Part.eraseCommand unit addr) 0)
    (hrename : ∀ addr failure, walk.Allows failure → walk.Allows (eraseFailure addr failure)) :
    walk.Rel (if unit = .chip then walk.wait + walk.wait else walk.wait) (erase config unit addr)
      (erase config unit addr) := by
  cases unit with
  | chip =>
    exact walk.rel_bind (walk.rel_mapFailure (hrename 0) walk.rel_waitReady) fun _ =>
      walk.rel_eraseWith hsends (hrename 0)
  | _ =>
    exact walk.rel_check_bind (haddr nofun) fun _ _ => walk.rel_eraseWith hsends (hrename addr)

/-! ## Programs -/

section Programs

variable {useDma : Bool} (hmode : walk.Checked config.programMode)

include hmode

theorem rel_programChunk (addr : Nat) {data : List UInt8} (hstages : walk.Stages data.length) :
    walk.Rel walk.price (programChunk config addr data) (programChunk config addr data) :=
  walk.rel_silent_bind walk.rel_writeEnable fun _ => walk.rel_stage hstages <|
    walk.rel_bind (walk.rel_transact (walk.sends_programCommand hmode _ _) _) fun _ =>
      walk.rel_waitReady

theorem rel_programChunkDma (addr : Nat) (data : List UInt8) :
    walk.Rel walk.price (programChunkDma config addr data) (programChunkDma config addr data) :=
  walk.rel_silent_bind walk.rel_writeEnable fun _ =>
    walk.rel_bind (walk.rel_load hmode addr data) fun _ => walk.rel_waitReady

theorem rel_programChunks {list : List (List UInt8)} (addr : Nat)
    (hstages : useDma = false → ∀ data ∈ list, walk.Stages data.length) :
    walk.Rel (list.length * walk.price) (programChunks config useDma addr list)
      (programChunks config useDma addr list) := by
  induction list generalizing addr with
  | nil =>
    rw [List.length_nil, Nat.zero_mul]
    exact walk.rel_pure ()
  | cons data rest ih =>
    have hrest := fun addr => ih addr fun hreg data hdata =>
      hstages hreg data (List.mem_cons_of_mem _ hdata)
    rw [List.length_cons, Nat.succ_mul, Nat.add_comm]
    cases useDma with
    | true => exact walk.rel_bind (walk.rel_programChunkDma hmode addr data) fun _ => hrest _
    | false =>
      exact walk.rel_bind (walk.rel_programChunk hmode addr (hstages rfl data List.mem_cons_self))
        fun _ => hrest _

theorem rel_programWindow {size : Nat} (hsize : 0 < size)
    (hstages : useDma = false → ∀ len ≤ size, walk.Stages len) (window : Window)
    (data : List UInt8) :
    walk.Rel ((windowPieces size window data).length * walk.price)
      (programWindow config useDma size window.start data)
      (programWindow config useDma size window.start data) := by
  rw [windowPieces, length_place]
  refine walk.rel_bind_pure (walk.rel_mapFailure (fun _ => walk.allows_programFailure _) ?_) _
  exact walk.rel_programChunks hmode _ fun hreg chunk hchunk =>
    hstages hreg _ (length_le_of_mem_chunks hsize hchunk)

theorem rel_programWindows (hstages : useDma = false → ∀ len ≤ registerChunk, walk.Stages len)
    (windows : PageWindows) (data : List UInt8) (stats : ProgramStats) :
    walk.Rel ((bodyPieces (chunkSize useDma) windows.toList data).length * walk.price)
      (programWindows config useDma windows data stats)
      (programWindows config useDma windows data stats) := by
  induction windows using PageWindows.toList.induct generalizing data stats with
  | case1 windows hnext =>
    rw [programWindows, programWindows, hnext,
      PageWindows.toList_of_le (PageWindows.next?_eq_none.1 hnext), bodyPieces, List.length_nil,
      Nat.zero_mul]
    exact walk.rel_pure stats
  | case2 windows first left hnext ih =>
    obtain ⟨hlt, rfl, rfl⟩ := PageWindows.next?_eq_some hnext
    rw [programWindows, programWindows, hnext, bodyPieces_of_lt hlt, List.length_append,
      Nat.add_mul]
    refine walk.rel_bind (walk.rel_programWindow hmode (chunkSize_pos useDma) ?_ _ _) fun _ =>
      walk.rel_silent_bind (walk.rel_report _) fun _ => ih _ _
    rintro rfl
    exact hstages rfl

theorem rel_programTail (hstages : useDma = false → ∀ len ≤ Cipher.blockSize, walk.Stages len)
    (addr : Nat) (tail : Option (List UInt8)) (stats : ProgramStats) :
    walk.Rel ((tailPieces addr tail).length * walk.price)
      (programTail config useDma addr tail stats) (programTail config useDma addr tail stats) := by
  cases tail with
  | none =>
    rw [tailPieces, List.length_nil, Nat.zero_mul]
    exact walk.rel_pure stats
  | some block =>
    exact walk.rel_bind (walk.rel_programWindow hmode (by decide) hstages _ _) fun _ =>
      walk.rel_silent_bind (walk.rel_report _) fun _ => walk.rel_pure _

end Programs

theorem rel_program {base : Nat} {payload : List UInt8} {useDma : Bool} {cipher : CipherMode}
    (hcheck : walk.Accepts (checkProgram base payload cipher))
    (hmode : walk.AcceptsMode config.programMode)
    (hstages : useDma = false → ∀ len ≤ Cipher.blockSize, walk.Stages len) :
    walk.Rel ((plan base useDma (Cipher.encipher payload cipher)).length * walk.price)
      (program config base payload useDma cipher) (program config base payload useDma cipher) := by
  refine walk.rel_check_bind hcheck fun _ hpassed => walk.rel_features fun bus hbus => ?_
  have hrange := ofRange_of_checkProgram hpassed
  refine walk.rel_ite (fun hnone => walk.rel_fail _ ?_) fun _ => ?_
  · exact walk.allows_dmaNotSupported hbus (by simpa using (Bool.and_eq_true_iff.1 hnone).2)
  rw [plan, List.length_append, Nat.add_mul]
  refine walk.rel_check_bind (hmode bus hbus) fun _ hdriven => ?_
  have hchecked : walk.Checked config.programMode := ⟨bus, hbus, hdriven⟩
  refine walk.rel_silent_bind (walk.rel_report _) fun _ =>
    walk.rel_check_bind (fun _ hfails => ?_) fun windows hwindows => ?_
  -- the range has passed its check, so its windows are found
  · cases hrange.symm.trans hfails
  obtain rfl := Except.ok.inj (hrange.symm.trans hwindows)
  refine walk.rel_bind (walk.rel_programWindows hchecked ?_ _ _ _) fun stats => ?_
  · exact fun hreg len hlen => hstages hreg len (Nat.le_trans hlen (by decide))
  refine walk.rel_bind_silent (walk.rel_programTail hchecked hstages _ _ stats) fun _ => ?_
  exact walk.rel_bind_pure (walk.rel_report _) _

/-! ## Pages -/

theorem rel_topUp {bus : σ} (hbus : walk.Holds bus) (opcode : UInt8) (interval : Nat)
    (deadline : Deadline) (data : List UInt8) :
    walk.Rel 0 (topUp opcode (Bus.writeDepth bus) interval deadline data)
      (topUp opcode (Bus.writeDepth bus) interval deadline data) := by
  have hrefills (rounds : Nat) : ∀ data, walk.Rel 0
      (refills opcode (Bus.writeDepth bus) interval deadline rounds data)
      (refills opcode (Bus.writeDepth bus) interval deadline rounds data) := by
    induction rounds with
    | zero => exact fun _ => walk.rel_pure ()
    | succ rounds ih =>
      intro data
      cases data with
      | nil => exact walk.rel_pure ()
      | cons byte more => exact walk.rel_bind (walk.rel_refill hbus _ _ _ _) fun rest => ih rest
  rw [topUp_eq, topUp_eq]
  exact walk.rel_bind walk.rel_clock fun now => hrefills _ data

theorem rel_streamPage (hmode : walk.AcceptsMode config.programMode)
    (hstages : ∀ bus, walk.Holds bus → ∀ len ≤ Bus.writeDepth bus, walk.Stages len)
    (addr : Nat) (payload : List UInt8) :
    walk.Rel walk.price (streamPage config addr payload) (streamPage config addr payload) := by
  refine walk.rel_features fun bus hbus => walk.rel_check_bind (hmode bus hbus) fun _ hdriven => ?_
  have hsends := walk.sends_programCommand ⟨bus, hbus, hdriven⟩ addr payload.length
  refine walk.rel_silent_bind walk.rel_writeEnable fun _ => walk.rel_writeDepth fun bus hbus => ?_
  have hfirst : (payload.take (min payload.length (Bus.writeDepth bus))).length ≤
      Bus.writeDepth bus := Nat.le_trans (List.length_take_le _ _) (Nat.min_le_right _ _)
  refine walk.rel_stage (hstages bus hbus _ hfirst) ?_
  refine walk.rel_bind (walk.rel_issue hsends) fun _ =>
    walk.rel_silent_bind walk.rel_clock fun _ => ?_
  exact walk.rel_silent_bind (walk.rel_topUp hbus _ _ _ _) fun _ =>
    walk.rel_silent_bind (walk.rel_waitDone _ _) fun _ => walk.rel_waitReady

theorem rel_programOnePage {addr : Nat} {payload : List UInt8}
    (hrange : walk.Accepts (checkRange addr payload.length))
    (hpage : pageSize < addr % pageSize + payload.length → walk.Allows .invalidAlignment)
    (hmode : walk.AcceptsMode config.programMode)
    (hstages : ∀ bus, walk.Holds bus → ∀ len ≤ Bus.writeDepth bus, walk.Stages len) :
    walk.Rel (if payload.isEmpty then 0 else walk.price) (programOnePage config addr payload)
      (programOnePage config addr payload) := by
  rw [programOnePage_eq, programOnePage_eq]
  refine walk.rel_check_bind hrange fun _ _ =>
    walk.rel_ite (fun h => walk.rel_fail _ (hpage h)) fun _ => ?_
  by_cases hempty : payload.isEmpty = true
  · simp only [if_pos hempty]
    exact walk.rel_pure ()
  · simp only [if_neg hempty]
    exact walk.rel_mapFailure (fun _ => walk.allows_programFailure _)
      (walk.rel_streamPage hmode hstages addr payload)

/-! ## Reads -/

theorem rel_readPieces (hmode : walk.Checked config.readMode) {size : Nat}
    (hfetches : ∀ len ≤ size, walk.Fetches len) (addr len : Nat) (done : List UInt8) :
    walk.Rel 0 (readPieces config size addr len done) (readPieces config size addr len done) := by
  fun_induction readPieces (σ := τ) config size addr len done with
  | case1 addr len done hdone =>
    rw [readPieces, dif_pos hdone]
    exact walk.rel_pure _
  | case2 addr len done hmore count ih =>
    rw [readPieces, dif_neg hmore]
    exact walk.rel_bind (walk.rel_readPiece hmode (hfetches _ (Nat.min_le_left _ _)) addr)
      fun piece => ih piece

/-- A read asks for no more at a time than the read FIFO holds, nor for less than one byte. -/
theorem rel_read {addr len : Nat} (hrange : walk.Accepts (checkRange addr len))
    (hmode : walk.AcceptsMode config.readMode)
    (hfetches : ∀ bus, walk.Holds bus →
      ∀ len ≤ max (min readChunk (Bus.readDepth bus)) 1, walk.Fetches len) :
    walk.Rel 0 (read config addr len) (read config addr len) :=
  walk.rel_check_bind hrange fun _ _ => walk.rel_features fun bus hbus =>
    walk.rel_check_bind (hmode bus hbus) fun _ hdriven => walk.rel_readDepth fun bus' hbus' =>
      walk.rel_readPieces ⟨bus, hbus, hdriven⟩ (hfetches bus' hbus') _ _ _

end Walk

namespace Controller

/-! ## Calls -/

/-- A call of the controller. -/
inductive Call where
  | configure (params : Option DeviceParams)
  | readId
  | readStatus (opcode : UInt8)
  | writeParam (opcode : UInt8) (value : UInt16)
  | singleCommand (opcode : UInt8)
  | erase (unit : EraseUnit) (addr : Nat)
  | program (base : Nat) (payload : List UInt8) (useDma : Bool) (cipher : CipherMode)
  | programOnePage (addr : Nat) (payload : List UInt8)
  | read (addr len : Nat)
  | softReset (mode : BusMode)
  | deepPowerDown
  | releasePowerDown

namespace Call

/-- Makes a call, whose answer is not looked at. -/
def run {σ : Type} [Bus σ] (config : ControllerConfig) : Call → Op σ Unit
  | configure params => do let _ ← Controller.configure config params
  | readId => do let _ ← Controller.readId config
  | readStatus opcode => do let _ ← Controller.readStatus config opcode
  | writeParam opcode value => Controller.writeParam config opcode value
  | singleCommand opcode => Controller.singleCommand config opcode
  | erase unit addr => Controller.erase config unit addr
  | program base payload useDma cipher => do
    let _ ← Controller.program config base payload useDma cipher
  | programOnePage addr payload => Controller.programOnePage config addr payload
  | read addr len => do let _ ← Controller.read config addr len
  | softReset mode => Controller.softReset config mode
  | deepPowerDown => Controller.deepPowerDown config
  | releasePowerDown => Controller.releasePowerDown config

/-- The commands of a call, besides those for its data and for its waits. -/
def commands : Call → List Command
  | readId => [.readRegister Opcode.readJedecId 3]
  | readStatus opcode => [.readRegister opcode 1]
  | writeParam opcode value => [.writeRegister opcode value (if value.toNat > 0xFF then 2 else 1)]
  | singleCommand opcode => [(Command.simple opcode).withMode .single]
  | erase unit addr => [Part.eraseCommand unit addr]
  | softReset mode =>
    [(Command.simple Opcode.resetEnable).withMode mode, (Command.simple Opcode.reset).withMode mode]
  | deepPowerDown => [(Command.simple Opcode.deepPowerDown).withMode .single]
  | releasePowerDown => [(Command.simple Opcode.releasePowerDown).withMode .single]
  | configure _ | program .. | programOnePage .. | read .. => []

section Commands

variable {call : Call} {command : Command}

/-- Only the reset chooses a mode. -/
theorem mode_of_mem_commands (h : command ∈ call.commands) :
    command.mode = .single ∨ call = .softReset command.mode := by
  cases call with
  | erase unit addr =>
    cases List.mem_singleton.1 h
    cases unit <;> exact .inl rfl
  | softReset mode =>
    simp only [commands, List.mem_cons, List.not_mem_nil, or_false] at h
    obtain rfl | rfl := h
    all_goals exact .inr rfl
  | configure | program | programOnePage | read => cases h
  | _ =>
    cases List.mem_singleton.1 h
    exact .inl rfl

theorem dataLength_of_mem_commands (h : command ∈ call.commands) : command.dataLength = 0 := by
  cases call with
  | erase unit addr =>
    cases List.mem_singleton.1 h
    cases unit <;> rfl
  | softReset mode =>
    simp only [commands, List.mem_cons, List.not_mem_nil, or_false] at h
    obtain rfl | rfl := h
    all_goals rfl
  | configure | program | programOnePage | read => cases h
  | _ =>
    cases List.mem_singleton.1 h
    rfl

end Commands

end Call

end Controller

namespace Walk

variable {σ τ : Type} [Bus σ] [Bus τ] {config : ControllerConfig} (walk : Walk σ τ config)

/-- The checks of the call may fail only in a way that is allowed, and its data may be moved. -/
def Passes : Call → Prop
  | .erase unit addr => (unit ≠ .chip → walk.Accepts (checkAddress addr)) ∧
    ∀ addr failure, walk.Allows failure → walk.Allows (eraseFailure addr failure)
  | .program base payload useDma cipher => walk.Accepts (checkProgram base payload cipher) ∧
    walk.AcceptsMode config.programMode ∧
      (useDma = false → ∀ len ≤ Cipher.blockSize, walk.Stages len)
  | .programOnePage addr payload => walk.Accepts (checkRange addr payload.length) ∧
    (pageSize < addr % pageSize + payload.length → walk.Allows .invalidAlignment) ∧
      walk.AcceptsMode config.programMode ∧
        ∀ bus, walk.Holds bus → ∀ len ≤ Bus.writeDepth bus, walk.Stages len
  | .read addr len => walk.Accepts (checkRange addr len) ∧ walk.AcceptsMode config.readMode ∧
    ∀ bus, walk.Holds bus → ∀ len ≤ max (min readChunk (Bus.readDepth bus)) 1, walk.Fetches len
  | .softReset mode => walk.AcceptsMode mode
  | _ => True

/-- If nothing is forbidden, every call passes. -/
theorem passes_of_allows (hallows : ∀ failure, walk.Allows failure)
    (hstages : ∀ len, walk.Stages len) (hfetches : ∀ len, walk.Fetches len) (call : Call) :
    walk.Passes call := by
  cases call with
  | erase => exact ⟨fun _ failure _ => hallows failure, fun _ failure _ => hallows _⟩
  | program =>
    exact ⟨fun failure _ => hallows failure, fun _ _ failure _ => hallows failure,
      fun _ len _ => hstages len⟩
  | programOnePage =>
    exact ⟨fun failure _ => hallows failure, fun _ => hallows _,
      fun _ _ failure _ => hallows failure, fun _ _ len _ => hstages len⟩
  | read =>
    exact ⟨fun failure _ => hallows failure, fun _ _ failure _ => hallows failure,
      fun _ _ len _ => hfetches len⟩
  | softReset => exact fun _ _ failure _ => hallows failure
  | _ => trivial

/-- What a call counts for. -/
def count : Call → Nat
  | .writeParam .. => walk.wait
  | .erase unit _ => if unit = .chip then walk.wait + walk.wait else walk.wait
  | .program base payload useDma cipher =>
    (plan base useDma (Cipher.encipher payload cipher)).length * walk.price
  | .programOnePage _ payload => if payload.isEmpty then 0 else walk.price
  | _ => 0

theorem rel_run {call : Call} (hpasses : walk.Passes call)
    (hsends : ∀ command ∈ call.commands, walk.Sends command 0) :
    walk.Rel (walk.count call) (call.run config) (call.run config) := by
  have hfirst {opcode : UInt8} {mode : BusMode} {policy : PollPolicy}
      (h : (Command.simple opcode).withMode mode ∈ call.commands) :
      walk.Rel 0 (singleCommand opcode mode policy) (singleCommand opcode mode policy) :=
    walk.rel_singleCommand (hsends _ h) policy
  cases call with
  | configure params =>
    exact walk.rel_bind_pure (walk.rel_silent_bind (walk.rel_params _) fun _ =>
      walk.rel_bind_pure walk.rel_flush _) _
  | readId =>
    exact walk.rel_bind_pure (walk.rel_bind_pure (walk.rel_transact (hsends _ (.head _)) _) _) _
  | readStatus opcode => exact walk.rel_bind_pure (walk.rel_readStatus (hsends _ (.head _)) _) _
  | writeParam opcode value => exact walk.rel_act (hsends _ (.head _))
  | singleCommand opcode => exact hfirst (.head _)
  | erase unit addr => exact walk.rel_erase hpasses.1 (hsends _ (.head _)) hpasses.2
  | program base payload useDma cipher =>
    exact walk.rel_bind_pure (walk.rel_program hpasses.1 hpasses.2.1 hpasses.2.2) _
  | programOnePage addr payload =>
    exact walk.rel_programOnePage hpasses.1 hpasses.2.1 hpasses.2.2.1 hpasses.2.2.2
  | read addr len => exact walk.rel_bind_pure (walk.rel_read hpasses.1 hpasses.2.1 hpasses.2.2) _
  | softReset mode =>
    refine walk.rel_features fun bus hbus => walk.rel_check_bind (hpasses bus hbus) fun _ _ => ?_
    exact walk.rel_silent_bind (hfirst (.head _)) fun _ =>
      walk.rel_silent_bind (hfirst (.tail _ (.head _))) fun _ => walk.rel_delay _
  | deepPowerDown => exact hfirst (.head _)
  | releasePowerDown => exact walk.rel_silent_bind (hfirst (.head _)) fun _ => walk.rel_delay _

end Walk

end CardReader.Flash
