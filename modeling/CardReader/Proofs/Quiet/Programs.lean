import CardReader.Proofs.Program.Run
import CardReader.Proofs.Quiet.Steps

/-!
# Programs on a quiet part

A program sends its pieces one after another; each finds the part quiet and leaves it quiet, after
the time of one wait.  The same holds of a page that is streamed: a quiet part takes every byte
that it is given at once, so that no refill has to wait.  Where in the array the bytes end up does
not matter here.

What is proved here:

* `ends_sendPiece_of_quiet` — one piece, staged in either way;
* `ends_program_of_quiet` — a whole program takes the time of its pieces;
* `ends_programOnePage_of_quiet` — and a streamed page that of one.
-/

namespace CardReader

open Flash

namespace Part

variable {clock : Clock} {part before after : Part} {expected : Nat} {rest : List UInt8}

/-! ## Bytes that arrive one after another -/

/-- A part that carries out a program command for `expected` bytes, of which `rest` is still to
come. -/
structure Filling (clock : Clock) (expected : Nat) (rest : List UInt8) (before after : Part) :
    Prop where
  steady : Steady before after
  dma_eq : after.dma = none
  fifo_eq : after.writeFifo = []
  /-- As long as bytes are missing the latch stays set. -/
  waiting : rest ≠ [] → after.writeEnabled = true ∧
    ∃ addr fed, fed.length + rest.length = expected ∧
      after.transaction = some (.streaming addr expected fed)
  /-- With the last byte the part begins to work. -/
  working : rest = [] → Working clock before.config.pageProgramTime before after ∧
    ∃ value, after.transaction = some (.done value)

theorem filling_receive {addr : Nat} {fed : List UInt8}
    (hlength : fed.length + rest.length = expected) (hsteady : Steady before part)
    (hlatch : part.writeEnabled = true) (hdma : part.dma = none) (hfifo : part.writeFifo = []) :
    Filling clock expected rest before (receive clock addr expected fed part) := by
  by_cases hrest : rest = []
  · subst hrest
    obtain ⟨hworking, -⟩ : Working clock part.config.pageProgramTime part
        (program clock addr fed part) ∧ _ := working_program hlatch addr fed
    rw [hsteady.config_eq] at hworking
    replace hworking := hworking.of_steady hsteady (some (.done 0))
    rw [List.length_nil, Nat.add_zero] at hlength
    rw [receive, if_neg (by omega)]
    rw [program, if_pos hlatch] at hworking ⊢
    exact ⟨hsteady.trans ⟨rfl, rfl, rfl, rfl⟩, hdma, hfifo, fun h => absurd rfl h,
      fun _ => ⟨hworking, 0, rfl⟩⟩
  · have hpos := List.length_pos_iff.2 hrest
    rw [receive, if_pos (by omega)]
    exact ⟨hsteady.trans ⟨rfl, rfl, rfl, rfl⟩, hdma, hfifo,
      fun _ => ⟨hlatch, addr, fed, hlength, rfl⟩, fun h => absurd h hrest⟩

/-- A refill is taken at once. -/
theorem Filling.queue {count : Nat} (h : Filling clock expected rest before part)
    (hrest : rest ≠ []) (hcount : count ≤ part.config.writeDepth) :
    ∃ result, Part.queue clock (rest.take count) part = (.ok (), result) ∧
      Filling clock expected (rest.drop count) before result := by
  obtain ⟨hlatch, addr, fed, hlength, htransaction⟩ := h.waiting hrest
  have hroom : ¬part.config.writeDepth - part.writeFifo.length < (rest.take count).length := by
    rw [h.fifo_eq, List.length_take, List.length_nil]
    omega
  let staged : Part := { part with writeFifo := part.writeFifo ++ rest.take count }
  have hstaged : staged.writeFifo = rest.take count := by
    rw [show staged.writeFifo = part.writeFifo ++ rest.take count from rfl, h.fifo_eq,
      List.nil_append]
  have hshort : staged.writeFifo.length ≤ expected - fed.length := by
    rw [hstaged, List.length_take]
    omega
  refine ⟨feed clock staged, if_neg hroom, ?_⟩
  rw [feed_of_streaming (show staged.transaction = _ from htransaction),
    pull_of_short hshort h.dma_eq, hstaged]
  refine filling_receive ?_ (h.steady.trans ⟨rfl, rfl, rfl, rfl⟩) hlatch h.dma_eq rfl
  rw [List.length_append, List.length_take, List.length_drop]
  omega

/-- The program command of a page finds the first bytes of it in the FIFO. -/
theorem issue_program_filling {config : ControllerConfig} (addr : Nat) {first : Nat}
    {payload : List UInt8} (harmed : Armed clock none (payload.take first) before part)
    (hmode : config.programMode.check before.features = .ok ())
    (hlisten : Listening clock before) :
    ∃ result, issue clock (Controller.programCommand config addr payload.length) part =
        (.ok (), result) ∧
      Filling clock payload.length (payload.drop first) before result := by
  let command := Controller.programCommand config addr payload.length
  have hfeatures : part.features = before.features := harmed.steady.features_eq
  have hissue := issue_program (hfeatures ▸ hmode) (harmed.listening.2 hlisten) addr
    payload.length (show command = _ from rfl)
  have hshort : (part.heard command).writeFifo.length ≤
      payload.length - ([] : List UInt8).length := by
    rw [show (part.heard command).writeFifo = part.writeFifo from rfl, harmed.fifo_eq,
      List.length_take]
    exact Nat.min_le_right _ _
  have hpull := pull_of_short hshort harmed.dma_eq
  rw [List.nil_append, show (part.heard command).writeFifo = part.writeFifo from rfl,
    harmed.fifo_eq] at hpull
  have hreceive : { (startProgram clock command (part.heard command)).2 with
      transaction := some (startProgram clock command (part.heard command)).1 } =
      receive clock command.address payload.length (payload.take first)
        { part.heard command with writeFifo := [] } := by
    rw [startProgram, if_pos (show command.format = .addressProgramData from rfl),
      show command.dataLength = payload.length from rfl, hpull, receive]
    simp only
    split <;> rfl
  refine ⟨_, hissue, ?_⟩
  rw [hreceive]
  refine filling_receive ?_ (harmed.steady.trans ⟨rfl, rfl, rfl, rfl⟩)
    (harmed.latched hlisten) harmed.dma_eq rfl
  rw [List.length_take, List.length_drop]
  omega

end Part

namespace Flash.Controller

variable {settings : ControllerConfig} {config : Part.Config} {rig mid r : Rig Watched}
  {addr : Nat} {data : List UInt8} {dma : Option Part.DmaClaim} {fifo : List UInt8}

/-! ## One piece -/

/-- What a configuration has to allow for programs. -/
structure Programmable (settings : ControllerConfig) (config : Part.Config) : Prop where
  mode : settings.programMode.check (Part.new config).features = .ok ()
  depth : Cipher.blockSize ≤ config.writeDepth
  channel : settings.dmaChannel < config.dmaChannels
  quick : config.pageProgramTime ≤ settings.poll.timeout

theorem Programmable.check (hable : Programmable settings config) (hquiet : Quiet config rig) :
    settings.programMode.check rig.part.features = .ok () := by
  rw [hquiet.features_eq]
  exact hable.mode

/-- A program command for data that has been staged. -/
theorem ends_begin_program {dma' : Option Part.DmaClaim} (policy : PollPolicy)
    (hquiet : Quiet config rig) (hable : Programmable settings config)
    (hstaged : Staged dma fifo rig mid) (haddr : addr < addressSpace)
    (hpull : ∀ command, Part.pull data.length [] (mid.part.heard command) =
      (data, { mid.part.heard command with writeFifo := [], dma := dma' })) :
    Op.Ends (Sequence.transact (programCommand settings addr data.length) policy) mid
      (fun _ r => Begun config.pageProgramTime dma' rig r) fun _ _ => False := by
  refine ends_begin policy hquiet hstaged fun hlisten hlatch => ?_
  have hsteady := hstaged.armed.steady
  have hconfig : mid.part.config = config := hsteady.config_eq.trans hquiet.config_eq
  rw [← hconfig]
  exact Part.setsToWork_program (hsteady.features_eq ▸ hable.check hquiet) hlisten hlatch haddr
    hpull

/-- A chunk staged through the register. -/
theorem ends_programChunk_of_quiet (hquiet : Quiet config rig)
    (hable : Programmable settings config) (haddr : addr < addressSpace)
    (hlen : data.length ≤ Cipher.blockSize)
    (hclock : rig.clock.now + settings.poll.span config.pageProgramTime ≤ lastInstant) :
    Op.Ends (programChunk settings addr data) rig
      (fun _ r => Quiet config r ∧
        r.clock.now = rig.clock.now + settings.poll.span config.pageProgramTime)
      fun _ _ => False := by
  refine (ends_writeEnable_of_quiet _ hquiet).bind fun _ r₁ h₁ => ?_
  refine (ends_flush_of_staged h₁).bind fun _ r₂ h₂ => ?_
  have hdepth : data.length ≤ rig.part.config.writeDepth := by
    rw [hquiet.config_eq]
    exact Nat.le_trans hlen hable.depth
  refine (ends_queue_of_staged h₂ data hdepth).bind fun _ r₃ h₃ => ?_
  exact (ends_begin_program _ hquiet hable h₃ haddr fun _ =>
    Part.pull_all_of_fifo h₃.armed.fifo_eq h₃.armed.dma_eq).bind
      fun _ r₄ hbegun => ends_settle hquiet hbegun hable.quick hclock

/-- A channel is claimed for as long as the operation lasts. -/
theorem ends_withChannel_of_staged {channel : Nat} {body : Op Watched Unit}
    {ok : Unit → Rig Watched → Prop} (hstaged : Staged none fifo rig mid)
    (hchannel : channel < rig.part.config.dmaChannels)
    (hbody : ∀ r, Staged (some { channel }) fifo rig r → Op.Ends body r
      (fun a last => ok a { last with bus := Bus.dmaRelease channel last.bus }) fun _ _ => False) :
    Op.Ends (Sequence.withChannel channel body) mid ok fun _ _ => False := by
  have hconfig := hstaged.armed.steady.config_eq
  have hfeature : (Bus.features mid.bus).dma = true := by
    refine decide_eq_true ?_
    rw [show mid.bus.part.config = rig.part.config from hconfig]
    omega
  have hacquire : Bus.dmaAcquire mid.clock channel mid.bus =
      (.ok (), { mid.bus with part := { mid.bus.part with dma := some { channel } } }) := by
    have hroom : ¬mid.bus.part.config.dmaChannels ≤ channel := by
      rw [show mid.bus.part.config = rig.part.config from hconfig]
      exact Nat.not_le.2 hchannel
    have hfree : ¬mid.bus.part.dma.isSome = true := by
      rw [show mid.bus.part.dma = none from hstaged.armed.dma_eq]
      exact Bool.false_ne_true
    show Watched.lift (Part.dmaAcquire channel) mid.bus = _
    rw [Watched.lift, Part.dmaAcquire, if_neg hroom, if_neg hfree]
  have hclaimed := hbody
    { mid with bus := { mid.bus with part := { mid.bus.part with dma := some { channel } } } }
    ⟨hstaged.armed.restage ⟨_, _, _, rfl⟩ rfl hstaged.armed.fifo_eq, hstaged.clock_eq,
      hstaged.attentive⟩
  rw [Sequence.withChannel, Op.ends_bind, Op.ends_inspect, hfeature, if_pos rfl]
  refine Op.ends_bind.2 ((Op.ends_call _).2 ?_)
  simp only [hacquire]
  refine ⟨fun _ _ => ?_, fun _ hfailure => by cases hfailure⟩
  unfold Op.Ends at hclaimed ⊢
  split at hclaimed
  · rename_i hrun
    simp only [hrun]
    exact hclaimed
  · exact hclaimed.elim

/-- A chunk fed by DMA. -/
theorem ends_programChunkDma_of_quiet (hquiet : Quiet config rig)
    (hable : Programmable settings config) (haddr : addr < addressSpace)
    (hclock : rig.clock.now + settings.poll.span config.pageProgramTime ≤ lastInstant) :
    Op.Ends (programChunkDma settings addr data) rig
      (fun _ r => Quiet config r ∧
        r.clock.now = rig.clock.now + settings.poll.span config.pageProgramTime)
      fun _ _ => False := by
  refine (ends_writeEnable_of_quiet _ hquiet).bind fun _ r₁ h₁ => ?_
  rw [Op.ends_bind]
  refine ends_withChannel_of_staged h₁ (hquiet.config_eq ▸ hable.channel) fun r₂ h₂ => ?_
  refine (ends_flush_of_staged h₂).bind fun _ r₃ h₃ => ?_
  refine (ends_dmaStart_of_staged h₃ data).bind fun _ r₄ h₄ => ?_
  refine (ends_begin_program _ hquiet hable h₄ haddr fun command => Part.pull_all_of_dma
    (show (r₄.part.heard command).writeFifo = [] from h₄.armed.fifo_eq) h₄.armed.dma_eq).bind
      fun _ r₅ hbegun => ?_
  have hdma : r₅.part.dma = some { channel := settings.dmaChannel } := hbegun.dma_eq
  refine (ends_waitIdle r₅ settings.dmaChannel _).mono ?_ ?_
  · rintro ⟨⟩ r₆ ⟨rfl, -⟩
    have hpart : (Bus.dmaRelease settings.dmaChannel r₆.bus).part =
        { r₆.part with dma := none } := Part.dmaRelease_of_claim hdma
    have hworking := hbegun.working
    refine ends_settle hquiet ⟨hbegun.clock_eq, ?_, congrArg Part.dma hpart, ?_,
      hbegun.attentive⟩ hable.quick hclock
    · show Part.Working _ _ _ (Bus.dmaRelease settings.dmaChannel r₆.bus).part
      rw [hpart]
      exact ⟨hworking.1, hworking.2, hworking.3, hworking.4, hworking.5, hworking.6⟩
    · show (Bus.dmaRelease settings.dmaChannel r₆.bus).part.Over
      rw [hpart]
      exact hbegun.finished
  · rintro failure r₆ ⟨-, -, -, hidle⟩
    rw [Part.dmaIdle_of_claim hdma, hbegun.working.faults_eq, hquiet.faults_eq] at hidle
    cases hidle

theorem ends_sendPiece_of_quiet {useDma : Bool} {piece : Piece} (hquiet : Quiet config rig)
    (hable : Programmable settings config) (haddr : piece.addr < addressSpace)
    (hlen : useDma = false → piece.data.length ≤ Cipher.blockSize)
    (hclock : rig.clock.now + settings.poll.span config.pageProgramTime ≤ lastInstant) :
    Op.Ends (sendPiece settings useDma piece) rig
      (fun _ r => Quiet config r ∧
        r.clock.now = rig.clock.now + settings.poll.span config.pageProgramTime)
      fun _ _ => False := by
  unfold sendPiece
  cases useDma with
  | true => exact ends_programChunkDma_of_quiet hquiet hable haddr hclock
  | false =>
    exact ends_programChunk_of_quiet hquiet hable haddr (hlen rfl) hclock

/-! ## Whole programs -/

section Program

variable {base : Nat} {payload : List UInt8} {useDma : Bool} {cipher : CipherMode}

/-- The part is quiet after some pieces of a program, each of which has taken one wait. -/
def QuietAfter (settings : ControllerConfig) (config : Part.Config) (rig : Rig Watched)
    (sent : List Piece) (r : Rig Watched) : Prop :=
  Quiet config r ∧
    r.clock.now = rig.clock.now + sent.length * settings.poll.span config.pageProgramTime

theorem carries_quietAfter {enciphered : Cipher.Enciphered}
    (hable : Programmable settings config)
    (htail : TailFits (base + enciphered.body.length) enciphered.tail)
    (hspace : base + enciphered.image.length ≤ addressSpace)
    (hclock : rig.clock.now + (plan base useDma enciphered).length *
      settings.poll.span config.pageProgramTime ≤ lastInstant) :
    Carries settings useDma (plan base useDma enciphered) (QuietAfter settings config rig)
      fun _ _ => False := by
  refine ⟨fun sent r event h => ⟨h.1.report _, h.2⟩, fun sent piece rest r hplan h => ?_⟩
  obtain ⟨hquiet, hnow⟩ := h
  obtain ⟨haddr, -, hend, -, hproper, hlen⟩ := split_plan htail hplan
  have hpos := List.length_pos_iff.2 hproper.nonempty
  have hcount : sent.length + 1 ≤ (plan base useDma enciphered).length := by
    rw [hplan, List.length_append, List.length_cons]
    omega
  have htime := Nat.mul_le_mul_right (settings.poll.span config.pageProgramTime) hcount
  rw [Nat.succ_mul] at htime
  refine (ends_sendPiece_of_quiet hquiet hable (by omega) hlen (by omega)).imp ?_
  rintro _ last ⟨hquiet', hnow'⟩
  refine ⟨hquiet', ?_⟩
  rw [hnow', hnow, List.length_append, List.length_singleton, Nat.succ_mul]
  omega

/-- A program leaves a quiet part quiet, after the time of its pieces. -/
theorem ends_program_of_quiet (hquiet : Quiet config rig) (hable : Programmable settings config)
    (hcheck : checkProgram base payload cipher = .ok ())
    (hclock : rig.clock.now + (plan base useDma (Cipher.encipher payload cipher)).length *
      settings.poll.span config.pageProgramTime ≤ lastInstant) :
    Op.Ends (program settings base payload useDma cipher) rig
      (fun _ r => QuietAfter settings config rig
        (plan base useDma (Cipher.encipher payload cipher)) r) fun _ _ => False := by
  have hpasses : Passes settings base payload useDma cipher (Bus.features rig.bus) := by
    refine ⟨hcheck, fun _ => decide_eq_true ?_, hable.check hquiet⟩
    rw [show rig.bus.part.config = config from hquiet.config_eq]
    exact Nat.lt_of_le_of_lt (Nat.zero_le _) hable.channel
  have hlength := Cipher.length_image payload cipher
  have hspace := (checkProgram_eq_ok_iff.1 hcheck).2.1
  refine (ends_program_of_passes hpasses ⟨hquiet, by simp⟩
    (carries_quietAfter hable hpasses.tailFits (by omega) hclock)).imp ?_
  exact fun _ _ h => h.2

end Program

/-! ## Streamed pages -/

/-- A part that carries out the program command of a page, on a rig on which no time has passed. -/
structure Streams (expected : Nat) (rest : List UInt8) (rig r : Rig Watched) : Prop where
  clock_eq : r.clock = rig.clock
  filling : Part.Filling rig.clock expected rest rig.part r.part
  attentive : r.bus.Attentive

/-- The refills of a page take no time. -/
theorem ends_topUp_of_streams {opcode : UInt8} {depth interval expected : Nat}
    {deadline : Deadline} (hdepth : rig.part.config.writeDepth = depth) (hpos : 0 < depth)
    (rest : List UInt8) (hstreams : Streams expected rest rig mid) :
    Op.Ends (topUp opcode depth interval deadline rest) mid
      (fun _ r => Streams expected [] rig r) fun _ _ => False := by
  have hempty : ∀ clock left (bus : Watched),
      Part.Filling rig.clock expected left rig.part bus.part → Bus.writeLevel clock bus = 0 :=
    fun clock left bus h => congrArg List.length h.fifo_eq
  have hrefill : ∀ (clock : Clock) (left : List UInt8) (bus : Watched) (count : Nat), left ≠ [] →
      count ≤ depth → clock = rig.clock →
      Part.Filling rig.clock expected left rig.part bus.part →
      ∃ result, Part.queue clock (left.take count) bus.part = (.ok (), result) ∧
        Part.Filling rig.clock expected (left.drop count) rig.part result := by
    rintro clock left bus count hleft hcount rfl hfilling
    refine hfilling.queue hleft ?_
    rw [hfilling.steady.config_eq, hdepth]
    exact hcount
  unfold Op.Ends
  fun_induction topUp opcode depth interval deadline rest mid with
  | case1 mid => exact hstreams
  | case2 byte more bus clock progress level hlow count hroom =>
    have hlevel : level = 0 := hempty clock _ bus hstreams.filling
    simp only [count, List.length_cons] at hroom
    omega
  | case3 byte more bus clock progress level hlow count hroom failure bus' hcall =>
    obtain ⟨result, hqueue, -⟩ := hrefill clock (byte :: more) bus count (List.cons_ne_nil _ _)
      (by omega) hstreams.clock_eq hstreams.filling
    rw [Watched.eq_of_lift hcall] at hqueue
    cases hqueue
  | case4 byte more bus clock progress level hlow count hroom bus' hcall ih =>
    obtain ⟨result, hqueue, hfilling⟩ := hrefill clock (byte :: more) bus count
      (List.cons_ne_nil _ _) (by omega) hstreams.clock_eq hstreams.filling
    rw [Watched.eq_of_lift hcall] at hqueue
    have hresult : bus'.part = result := (Prod.mk.inj hqueue).2
    have hattentive : bus'.Attentive := by
      rw [← show (Bus.writeFifo clock ((byte :: more).take count) bus).2 = bus' from
        congrArg Prod.snd hcall]
      exact hstreams.attentive
    refine ih ⟨hstreams.clock_eq, ?_, hattentive⟩
    show Part.Filling _ _ _ _ bus'.part
    rw [hresult]
    exact hfilling
  | case5 byte more bus clock progress level hhigh hexpired =>
    have hlevel : level = 0 := hempty clock _ bus hstreams.filling
    omega
  | case6 byte more bus clock progress level hhigh hexpired ih =>
    have hlevel : level = 0 := hempty clock _ bus hstreams.filling
    omega

/-- The command that has begun work is over, and the work is waited for. -/
theorem ends_finish {opcode : UInt8} {us : Nat} {value : UInt32} {policy : PollPolicy}
    (hquiet : Quiet config rig) (hbegun : Begun us none rig mid)
    (hdone : mid.part.transaction = some (.done value)) (htimeout : us ≤ policy.timeout)
    (hclock : rig.clock.now + policy.span us ≤ lastInstant) :
    Op.Ends (Sequence.waitDone opcode policy >>= fun _ => Sequence.waitReady policy) mid
      (fun _ r => Quiet config r ∧ r.clock.now = rig.clock.now + policy.span us)
      fun _ _ => False := by
  have hkeeps : Op.Keeps Watched.Attentive (Sequence.waitDone opcode policy) :=
    Op.keeps_wait (Op.keeps_call fun _ _ h => h)
  rw [Op.ends_bind]
  refine ((ends_waitDone opcode policy hdone).and
    (Op.keeps_iff_ends.1 hkeeps mid hbegun.attentive)).mono ?_ ?_
  · rintro _ r ⟨⟨-, hpart, habreast, -⟩, hattentive⟩
    exact ends_settle hquiet ⟨habreast.clock_eq.trans hbegun.clock_eq, hpart ▸ hbegun.working,
      hpart ▸ hbegun.dma_eq, hpart ▸ hbegun.finished, hattentive⟩ htimeout hclock
  · rintro failure r ⟨⟨-, -, hstray | ⟨-, hsilent⟩⟩, -⟩
    · exact hstray
    · rw [hbegun.working.faults_eq, hquiet.faults_eq] at hsilent
      cases hsilent

/-- A page is streamed in the time of one wait. -/
theorem ends_streamPage_of_quiet {payload : List UInt8} (hquiet : Quiet config rig)
    (hable : Programmable settings config)
    (hclock : rig.clock.now + settings.poll.span config.pageProgramTime ≤ lastInstant) :
    Op.Ends (streamPage settings addr payload) rig
      (fun _ r => Quiet config r ∧
        r.clock.now = rig.clock.now + settings.poll.span config.pageProgramTime)
      fun _ _ => False := by
  have hmode := hable.check hquiet
  have hdepth : 0 < config.writeDepth := Nat.lt_of_lt_of_le (by decide) hable.depth
  rw [streamPage, Op.ends_bind, Op.ends_inspect, Op.ends_bind,
    show settings.programMode.check (Bus.features rig.bus) = .ok () from hmode, Op.ends_check_ok]
  refine (ends_writeEnable_of_quiet _ hquiet).bind fun _ r₁ h₁ => ?_
  have hconfig : r₁.bus.part.config = config :=
    h₁.armed.steady.config_eq.trans hquiet.config_eq
  rw [Op.ends_bind, Op.ends_inspect,
    show Bus.writeDepth r₁.bus = config.writeDepth from congrArg Part.Config.writeDepth hconfig]
  generalize hfirst : min payload.length config.writeDepth = first
  refine (ends_flush_of_staged h₁).bind fun _ r₂ h₂ => ?_
  refine (ends_queue_of_staged h₂ (payload.take first) ?_).bind fun _ r₃ h₃ => ?_
  · rw [hquiet.config_eq, List.length_take]
    omega
  have hlisten : Part.Listening r₃.clock r₃.bus.part := by
    rw [h₃.clock_eq]
    exact h₃.armed.listening.2 hquiet.listening
  obtain ⟨result, hissue, hfilling⟩ :=
    Part.issue_program_filling addr h₃.armed hmode hquiet.listening
  rw [← h₃.clock_eq] at hissue
  rw [Op.ends_bind, Op.ends_call]
  refine ⟨fun _ _ => ?_, fun failure hfailure => ?_⟩
  · have hpart : (Bus.issue r₃.clock (programCommand settings addr payload.length) r₃.bus).2.part =
        result := congrArg Prod.snd hissue
    have hstreams : Streams payload.length (payload.drop first) rig { r₃ with
        bus := (Bus.issue r₃.clock (programCommand settings addr payload.length) r₃.bus).2 } := by
      refine ⟨h₃.clock_eq, ?_, Watched.attentive_issue h₃.attentive (.inl hlisten)⟩
      show Part.Filling _ _ _ _ (Bus.issue r₃.clock _ r₃.bus).2.part
      rw [hpart]
      exact hfilling
    rw [Op.ends_bind, Op.ends_clock]
    refine (ends_topUp_of_streams (congrArg Part.Config.writeDepth hquiet.config_eq) hdepth
      (payload.drop first) hstreams).bind fun _ r₄ h₄ => ?_
    obtain ⟨hworking, value, hdone⟩ := h₄.filling.working rfl
    rw [hquiet.config_eq] at hworking
    exact ends_finish hquiet ⟨h₄.clock_eq, hworking, h₄.filling.dma_eq,
      Part.over_of_done hdone, h₄.attentive⟩ hdone hable.quick hclock
  · have houtcome : (Bus.issue r₃.clock (programCommand settings addr payload.length) r₃.bus).1 =
        .ok () := congrArg Prod.fst hissue
    rw [houtcome] at hfailure
    cases hfailure

/-- A page leaves a quiet part quiet, after the time of one wait if it has any bytes. -/
theorem ends_programOnePage_of_quiet {payload : List UInt8} (hquiet : Quiet config rig)
    (hable : Programmable settings config) (hcheck : checkRange addr payload.length = .ok ())
    (hpage : addr % pageSize + payload.length ≤ pageSize)
    (hclock : rig.clock.now + (if payload.isEmpty then 0
      else settings.poll.span config.pageProgramTime) ≤ lastInstant) :
    Op.Ends (programOnePage settings addr payload) rig
      (fun _ r => Quiet config r ∧ r.clock.now = rig.clock.now +
        if payload.isEmpty then 0 else settings.poll.span config.pageProgramTime)
      fun _ _ => False := by
  rw [programOnePage_eq, Op.ends_bind, hcheck, Op.ends_check_ok, if_neg (Nat.not_lt.2 hpage)]
  by_cases hempty : payload.isEmpty = true
  · rw [if_pos hempty, if_pos hempty]
    exact ⟨hquiet, rfl⟩
  · rw [if_neg hempty] at hclock
    rw [if_neg hempty, if_neg hempty, Op.ends_mapFailure]
    exact ends_streamPage_of_quiet hquiet hable hclock

end Flash.Controller

end CardReader
