import Mathlib.Data.List.Basic
import CardReader.Proofs.Program.Chunk
import CardReader.Proofs.Program.Run
import CardReader.Proofs.Recorded
import CardReader.Proofs.Waits

/-!
# Overruns of the write FIFO

A program without DMA stages each piece of its plan in the write FIFO with one call, whatever the
FIFO holds: four bytes of a window, and a padded tail as a whole block.  On a part that is listening
and has no fault, the pieces are therefore offered one after another until one is too long, which
is refused under the name of its window, or until one takes the part too long.

What is proved here:

* `exists_overlong_plan` — which payloads have a piece that is longer than the FIFO is deep;
* `ends_programChunk_offered` — what one piece offers, and how it ends;
* `ends_program_offered` — what a program offers, and how it ends;
* `program_overruns_iff` — the programs that overrun the FIFO are those that are refused.
-/

namespace CardReader

open Flash

namespace Flash

/-! ## What is offered to the write FIFO -/

/-- The bytes that a call offers to the write FIFO. -/
def Event.offer : Event → Option (List UInt8)
  | .write data _ => some data
  | _ => none

/-- What was offered to the write FIFO, one list for each call, in their order. -/
def Record.offers (record : Record) : List (List UInt8) :=
  (record.filterMap Event.offer).reverse

theorem Record.offers_write (data : List UInt8) (accepted : Bool) (record : Record) :
    offers (.write data accepted :: record) = offers record ++ [data] := by
  have hoffer : Event.offer (.write data accepted) = some data := rfl
  rw [offers, List.filterMap_cons_some hoffer, List.reverse_cons, offers]

theorem Record.overlooks_offers : Record.Overlooks Record.offers :=
  ⟨fun _ _ _ => rfl, fun _ _ => rfl, fun _ => rfl⟩

namespace Controller

/-! ## Pieces that are too long -/

/-- The piece has more bytes than a FIFO of this depth holds. -/
def Piece.overlong (depth : Nat) (piece : Piece) : Bool := depth < piece.data.length

theorem exists_lt_chunks {α : Type} {size depth : Nat} (hsize : 0 < size) (list : List α) :
    (∃ chunk ∈ chunks size list, depth < chunk.length) ↔ depth < min size list.length := by
  fun_induction chunks size list with
  | case1 list hempty => simp [List.isEmpty_iff.1 hempty]
  | case2 list _ hzero => omega
  | case3 list _ _ ih =>
    simp only [List.exists_mem_cons_iff, ih, List.length_take, List.length_drop]
    omega

variable {size depth : Nat} {window : Window}

theorem exists_overlong_place (addr : Nat) (list : List (List UInt8)) :
    (∃ piece ∈ place window addr list, depth < piece.data.length) ↔
      ∃ data ∈ list, depth < data.length := by
  induction list generalizing addr with
  | nil => simp [place]
  | cons data rest ih =>
    simp only [place, List.exists_mem_cons_iff, ih]

theorem exists_overlong_windowPieces (hsize : 0 < size) (data : List UInt8) :
    (∃ piece ∈ windowPieces size window data, depth < piece.data.length) ↔
      depth < min size data.length :=
  (exists_overlong_place _ _).trans (exists_lt_chunks hsize data)

theorem exists_overlong_bodyPieces (hsize : 0 < size) {windows : PageWindows} {data : List UInt8}
    (hlength : data.length = windows.stop - windows.start) :
    (∃ piece ∈ bodyPieces size windows.toList data, depth < piece.data.length) ↔
      ∃ window ∈ windows.toList, depth < min size window.length := by
  fun_induction PageWindows.toList windows generalizing data with
  | case1 => simp [bodyPieces]
  | case2 windows first rest hnext ih =>
    obtain ⟨hlt, rfl, rfl⟩ := PageWindows.next?_eq_some hnext
    have hcut := PageWindows.lt_cut hlt
    have hstop := windows.cut_le
    have htaken : (data.take (Window.length ⟨windows.start, windows.cut⟩)).length =
        Window.length ⟨windows.start, windows.cut⟩ := by
      simp only [List.length_take, Window.length]
      omega
    have hrest : (data.drop (Window.length ⟨windows.start, windows.cut⟩)).length =
        windows.stop - windows.cut := by
      simp only [List.length_drop, Window.length]
      omega
    have hfirst : (∃ piece ∈ windowPieces size ⟨windows.start, windows.cut⟩
        (data.take (Window.length ⟨windows.start, windows.cut⟩)),
          depth < piece.data.length) ↔ _ := exists_overlong_windowPieces hsize _
    rw [htaken] at hfirst
    rw [List.exists_mem_cons_iff, ← ih hrest, ← hfirst, bodyPieces]
    simp only [List.mem_append, or_and_right, exists_or]

/-- A payload has a piece that is too long if a window is longer than the FIFO is deep and the FIFO
is not as deep as a chunk, or if there is a padded tail and the FIFO does not hold a block. -/
theorem exists_overlong_plan {base : Nat} {enciphered : Cipher.Enciphered}
    (htail : TailFits (base + enciphered.body.length) enciphered.tail) :
    (∃ piece ∈ plan base false enciphered, depth < piece.data.length) ↔
      (∃ window ∈ (⟨base, base + enciphered.body.length⟩ : PageWindows).toList,
        depth < min registerChunk window.length) ∨
      enciphered.tail.isSome = true ∧ depth < Cipher.blockSize := by
  have hbody : (∃ piece ∈ bodyPieces registerChunk
      (⟨base, base + enciphered.body.length⟩ : PageWindows).toList enciphered.body,
        depth < piece.data.length) ↔ _ :=
    exists_overlong_bodyPieces (by decide) (by simp only; omega)
  have hlast : (∃ piece ∈ tailPieces (base + enciphered.body.length) enciphered.tail,
      depth < piece.data.length) ↔
        enciphered.tail.isSome = true ∧ depth < Cipher.blockSize := by
    cases hblock : enciphered.tail with
    | none => simp [tailPieces]
    | some block =>
      rw [tailPieces, exists_overlong_windowPieces (by decide), htail.length_eq block hblock,
        Nat.min_self]
      simp
  rw [← hbody, ← hlast]
  simp only [plan, List.mem_append, or_and_right, exists_or]
  rfl

end Controller

end Flash

/-! ## Waits one after another -/

namespace PollPolicy

/-- Waits that follow one another are in time, `count` of them, each for something that takes `us`
microseconds and is begun when the wait before it has answered. -/
def InTimeFor (policy : PollPolicy) (clock : Clock) (us count : Nat) : Prop :=
  ∀ k < count, policy.Reaches us ∧ clock.now + k * policy.span us + us ≤ lastInstant

variable {policy : PollPolicy} {clock later : Clock} {us count : Nat}

theorem inTimeFor_zero : policy.InTimeFor clock us 0 := fun _ h => absurd h (Nat.not_lt_zero _)

theorem InTimeFor.mono {fewer : Nat} (h : policy.InTimeFor clock us count) (hle : fewer ≤ count) :
    policy.InTimeFor clock us fewer := fun k hk => h k (Nat.lt_of_lt_of_le hk hle)

/-- One more wait is in time, when the clock shows the time of those before it. -/
theorem InTimeFor.succ_iff (h : policy.InTimeFor clock us count)
    (hnow : later.now = min (clock.now + count * policy.span us) lastInstant) :
    policy.InTimeFor clock us (count + 1) ↔ policy.InTime later us := by
  refine ⟨fun hmore => ?_, fun hnext k hk => ?_⟩
  · obtain ⟨hreaches, hlast⟩ := hmore count (Nat.lt_succ_self _)
    exact ⟨hreaches, by omega⟩
  · rcases Nat.lt_succ_iff_lt_or_eq.1 hk with hlt | rfl
    · exact h k hlt
    refine ⟨hnext.reaches, ?_⟩
    have hlast := hnext.le_last
    by_cases hshown : clock.now + k * policy.span us ≤ lastInstant
    · omega
    · -- the clock shows its last instant, so nothing is waited for
      obtain rfl : us = 0 := by omega
      rw [span_zero, Nat.mul_zero] at hshown
      exact absurd clock.now_le hshown

end PollPolicy

/-! ## One piece -/

/-- A program command for staged data sets a part that is listening to work, whatever the range of
the data. -/
theorem Part.issue_program_works {config : ControllerConfig} {clock : Clock} {part : Part}
    (addr : Nat) {data : List UInt8} (hmode : config.programMode.check part.features = .ok ())
    (hlisten : Listening clock part) (hlatch : part.writeEnabled = true)
    (hfifo : part.writeFifo = data) :
    ∃ issued, issue clock (Controller.programCommand config addr data.length) part =
        (.ok (), issued) ∧ issued.transaction = some (.done 0) ∧ Steady part issued ∧
      issued.busyUntil = clock.now + part.config.pageProgramTime := by
  let command := Controller.programCommand config addr data.length
  have hissue := issue_program hmode hlisten addr data.length (show command = _ from rfl)
  have hpull := pull_all_of_fifo (show (part.heard command).writeFifo = data from hfifo) rfl
  rw [startProgram_of_pull rfl (show command.address = _ from rfl) rfl hpull, program,
    if_pos (show (part.heard command).writeEnabled = true from hlatch)] at hissue
  exact ⟨_, hissue, rfl, ⟨rfl, rfl, rfl, rfl⟩, rfl⟩

namespace Flash.Controller

variable {config : ControllerConfig} {addr : Nat} {data : List UInt8}
  {rig : Rig (Recorded Part)}

/-- Bytes for an empty FIFO are offered, and taken exactly if they fit. -/
theorem ends_queue_offered {clock : Clock} {dma : Option Part.DmaClaim} {before : Part}
    (harmed : Part.Armed clock dma [] before rig.part) (data : List UInt8) :
    Op.Ends (Op.call (Bus.writeFifo · data)) rig
      (fun _ r => r.bus.record.offers = rig.bus.record.offers ++ [data] ∧
        data.length ≤ before.config.writeDepth ∧ Part.Armed clock dma data before r.part ∧
        rig.Abreast r)
      (fun failure r => r.bus.record.offers = rig.bus.record.offers ++ [data] ∧
        before.config.writeDepth < data.length ∧ failure = .fifoOverflow) := by
  have hqueue : Part.queue rig.clock data rig.bus.bus = _ := harmed.queue rig.clock data
  refine (Op.ends_call _).2 ⟨fun _ hanswer => ?_, fun failure hfailure => ?_⟩
  · replace hanswer : (Part.queue rig.clock data rig.bus.bus).1 = .ok () := hanswer
    rw [hqueue] at hanswer
    split at hanswer
    · cases hanswer
    rename_i hroom
    rw [if_neg hroom] at hqueue
    refine ⟨Record.offers_write _ _ _, Nat.le_of_not_lt hroom, ?_, rfl, rfl⟩
    show Part.Armed clock dma data before (Part.queue rig.clock data rig.bus.bus).2
    rw [hqueue]
    exact harmed.restage ⟨_, _, _, rfl⟩ harmed.dma_eq rfl
  · replace hfailure : (Part.queue rig.clock data rig.bus.bus).1 = .error failure := hfailure
    rw [hqueue] at hfailure
    split at hfailure
    · rename_i hdepth
      exact ⟨Record.offers_write _ _ _, hdepth, (Except.error.inj hfailure).symm⟩
    · cases hfailure

/-- A part that is listening, without a fault, behind a recorded bus. -/
structure Idle (r : Rig (Recorded Part)) : Prop where
  listening : Part.Listening r.clock r.part
  faults_eq : r.part.faults = {}

/-- The program command for staged data, and the wait for the part. -/
theorem ends_shoot_offered {dma : Option Part.DmaClaim} {before : Part}
    (harmed : Part.Armed rig.clock dma data before rig.part)
    (hlisten : Part.Listening rig.clock before) (hfaults : before.faults = {})
    (hmode : config.programMode.check before.features = .ok ()) :
    Op.Ends (Sequence.transact (programCommand config addr data.length) config.poll >>= fun _ =>
        Sequence.waitReady config.poll) rig
      (fun _ r => Idle r ∧ r.part.config = before.config ∧
        r.bus.record.offers = rig.bus.record.offers ∧
        config.poll.InTime rig.clock before.config.pageProgramTime ∧ r.clock.now =
          min (rig.clock.now + config.poll.span before.config.pageProgramTime) lastInstant)
      (fun failure r => r.bus.record.offers = rig.bus.record.offers ∧ failure = .busyTimeout ∧
        ¬config.poll.InTime rig.clock before.config.pageProgramTime) := by
  have hoverlooks := Record.overlooks_offers
  have hstrays : ∀ failure, ¬Carrier.strays rig.bus failure := fun _ => id
  have hfeatures : rig.part.features = before.features := harmed.steady.features_eq
  obtain ⟨issued, hissue, hdone, hsteady, hbusy⟩ := Part.issue_program_works addr
    (hfeatures ▸ hmode) (harmed.listening.2 hlisten) (harmed.latched hlisten) harmed.fifo_eq
  replace hsteady := harmed.steady.trans hsteady
  rw [harmed.steady.config_eq] at hbusy
  rw [Op.ends_bind]
  refine ((ends_transact config.poll hissue hdone).unseen
    (Sequence.unseen_transact hoverlooks _ _)).mono ?_ ?_
  · rintro _ r ⟨⟨-, rfl, habreast, hresponse⟩, hoffers⟩
    have hwake : ∀ later, Part.Listening later r.part ↔
        r.clock.now + before.config.pageProgramTime ≤ later.now := by
      rw [habreast.clock_eq]
      exact fun later => Part.listening_of_busyUntil hlisten hfaults hsteady hbusy
    refine ((ends_waitReady_decided (fun _ => id) hresponse hwake).unseen
      (Sequence.unseen_waitReady hoverlooks _)).mono ?_ ?_
    · rintro _ last ⟨⟨huntouched, -, hlisten', hintime, hnow⟩, hoffers'⟩
      rw [habreast.clock_eq] at hintime hnow
      have hsteady' := hsteady.trans huntouched.steady
      exact ⟨⟨hlisten', hsteady'.faults_eq.trans hfaults⟩, hsteady'.config_eq,
        hoffers'.trans hoffers, hintime, hnow⟩
    · rintro failure last ⟨⟨rfl, -, hlate⟩, hoffers'⟩
      rw [habreast.clock_eq] at hlate
      exact ⟨hoffers'.trans hoffers, rfl, hlate⟩
  · rintro failure r ⟨⟨-, -, hstray | ⟨-, hsilent⟩⟩, -⟩
    · exact (hstrays failure hstray).elim
    · rw [hsteady.faults_eq, hfaults] at hsilent
      cases hsilent

/-- A piece that fits is offered and programmed, if the part is in time; one that does not is
offered and refused. -/
theorem ends_programChunk_offered (hidle : Idle rig)
    (hmode : config.programMode.check rig.part.features = .ok ()) :
    Op.Ends (programChunk config addr data) rig
      (fun _ r => Idle r ∧ r.part.config = rig.part.config ∧
        r.bus.record.offers = rig.bus.record.offers ++ [data] ∧
        data.length ≤ rig.part.config.writeDepth ∧
        config.poll.InTime rig.clock rig.part.config.pageProgramTime ∧ r.clock.now =
          min (rig.clock.now + config.poll.span rig.part.config.pageProgramTime) lastInstant)
      (fun failure r => r.bus.record.offers = rig.bus.record.offers ++ [data] ∧
        (failure = .fifoOverflow ∧ rig.part.config.writeDepth < data.length ∨
          failure = .busyTimeout ∧ data.length ≤ rig.part.config.writeDepth ∧
            ¬config.poll.InTime rig.clock rig.part.config.pageProgramTime)) := by
  have hoverlooks := Record.overlooks_offers
  rw [programChunk, Op.ends_bind]
  refine ((ends_writeEnable rig config.poll).unseen
    (Sequence.unseen_writeEnable hoverlooks _)).mono ?_ ?_
  · rintro _ r₁ ⟨⟨harmed₁, habreast₁, -⟩, hoffers₁⟩
    rw [Op.ends_bind]
    refine ((ends_flush harmed₁).unseen (unseen_flush hoverlooks)).mono ?_ fun _ _ h => h.1.elim
    rintro _ r₂ ⟨⟨harmed₂, habreast₂⟩, hoffers₂⟩
    replace habreast₂ := habreast₁.trans habreast₂
    replace hoffers₂ := hoffers₂.trans hoffers₁
    rw [Op.ends_bind]
    refine (ends_queue_offered harmed₂ data).mono ?_ ?_
    · rintro _ r₃ ⟨hoffers₃, hroom, harmed₃, habreast₃⟩
      replace habreast₃ := habreast₂.trans habreast₃
      rw [hoffers₂] at hoffers₃
      rw [← habreast₃.clock_eq] at harmed₃ ⊢
      rw [← hoffers₃]
      refine (ends_shoot_offered harmed₃ (habreast₃.clock_eq ▸ hidle.listening) hidle.faults_eq
        hmode).mono ?_ ?_
      · rintro _ r₄ ⟨hidle₄, hconfig, hoffers₄, hintime, hnow⟩
        exact ⟨hidle₄, hconfig, hoffers₄, hroom, hintime, hnow⟩
      · rintro failure r₄ ⟨hoffers₄, rfl, hlate⟩
        exact ⟨hoffers₄, .inr ⟨rfl, hroom, hlate⟩⟩
    · rintro failure r₃ ⟨hoffers₃, hdepth, rfl⟩
      rw [hoffers₂] at hoffers₃
      exact ⟨hoffers₃, .inl ⟨rfl, hdepth⟩⟩
  · rintro failure r ⟨⟨-, -, hstray | ⟨-, hsilent⟩⟩, -⟩
    · exact hstray.elim
    · rw [hidle.faults_eq] at hsilent
      cases hsilent

/-! ## Programs -/

variable {base : Nat} {payload : List UInt8} {cipher : CipherMode} {pieces : List Piece}

/-- Some pieces of a program have been offered, which all fit, and programmed in time. -/
structure Offered (config : ControllerConfig) (rig : Rig (Recorded Part)) (sent : List Piece)
    (r : Rig (Recorded Part)) : Prop where
  idle : Idle r
  config_eq : r.part.config = rig.part.config
  offers_eq : r.bus.record.offers = rig.bus.record.offers ++ sent.map Piece.data
  fits : ∀ piece ∈ sent, piece.data.length ≤ rig.part.config.writeDepth
  in_time : config.poll.InTimeFor rig.clock rig.part.config.pageProgramTime sent.length
  now_eq : r.clock.now =
    min (rig.clock.now + sent.length * config.poll.span rig.part.config.pageProgramTime) lastInstant

/-- The offers of a program that fails with its last one, the data of `piece`. -/
structure Halted (rig : Rig (Recorded Part)) (pieces sent : List Piece) (piece : Piece)
    (r : Rig (Recorded Part)) : Prop where
  plan_eq : ∃ rest, pieces = sent ++ piece :: rest
  offers_eq : r.bus.record.offers =
    rig.bus.record.offers ++ (sent.map Piece.data ++ [piece.data])
  fits : ∀ piece ∈ sent, piece.data.length ≤ rig.part.config.writeDepth

/-- How a program of these pieces can fail: a piece does not fit, after the part has taken those
before it in time, or a piece fits and the part is late with it. -/
inductive Stuck (config : ControllerConfig) (rig : Rig (Recorded Part)) (pieces : List Piece)
    (r : Rig (Recorded Part)) : Failure → Prop where
  | overlong {sent : List Piece} {piece : Piece} (halted : Halted rig pieces sent piece r)
    (hlong : rig.part.config.writeDepth < piece.data.length)
    (hintime : config.poll.InTimeFor rig.clock rig.part.config.pageProgramTime sent.length) :
    Stuck config rig pieces r (.programRefused piece.window.start)
  | late {sent : List Piece} {piece : Piece} (halted : Halted rig pieces sent piece r)
    (hfits : piece.data.length ≤ rig.part.config.writeDepth)
    (hlate : ¬config.poll.InTimeFor rig.clock rig.part.config.pageProgramTime (sent.length + 1)) :
    Stuck config rig pieces r (.programTimeout piece.window.start)

/-- Piece by piece a program makes its offers. -/
theorem carries_offered (hmode : config.programMode.check rig.part.features = .ok ()) :
    Carries config false pieces (Offered config rig) fun failure r =>
      Stuck config rig pieces r failure := by
  refine ⟨fun sent r event h => ?_, fun sent piece rest r hplan h => ?_⟩
  · obtain ⟨⟨hlisten, hfaults⟩, hconfig, hoffers, hfits, hintime, hnow⟩ := h
    exact ⟨⟨hlisten, hfaults⟩, hconfig, hoffers, hfits, hintime, hnow⟩
  have hmode' : config.programMode.check r.part.features = .ok () := by
    rw [Part.features_congr h.config_eq]
    exact hmode
  have hnext := h.in_time.succ_iff h.now_eq
  refine (ends_programChunk_offered h.idle hmode').mono ?_ ?_
  · rintro _ r' ⟨hidle, hconfig, hoffers, hroom, hintime, hnow⟩
    rw [h.config_eq] at hroom hintime hnow
    refine ⟨hidle, hconfig.trans h.config_eq, ?_, ?_, ?_, ?_⟩
    · rw [hoffers, h.offers_eq, List.map_append, List.append_assoc]
      rfl
    · intro other hother
      rcases List.mem_append.1 hother with hsent | hlast
      · exact h.fits other hsent
      · rwa [List.mem_singleton.1 hlast]
    · rw [List.length_append]
      exact hnext.2 hintime
    · rw [hnow, h.now_eq, List.length_append, List.length_singleton, Nat.succ_mul]
      omega
  · rintro failure r' ⟨hoffers, hreason⟩
    rw [h.config_eq] at hreason
    have halted : Halted rig pieces sent piece r' :=
      ⟨⟨rest, hplan⟩, by rw [hoffers, h.offers_eq, List.append_assoc], h.fits⟩
    rcases hreason with ⟨rfl, hlong⟩ | ⟨rfl, hroom, hlate⟩
    · exact .overlong halted hlong h.in_time
    · exact .late halted hroom (mt hnext.1 hlate)

/-- A program that passes its checks offers its whole plan, or fails on the way. -/
theorem ends_program_offered (hidle : Idle rig)
    (hcheck : checkProgram base payload cipher = .ok ())
    (hmode : config.programMode.check rig.part.features = .ok ()) :
    let pieces := plan base false (Cipher.encipher payload cipher)
    Op.Ends (program config base payload false cipher) rig
      (fun _ r => Offered config rig pieces r)
      fun failure r => Stuck config rig pieces r failure := by
  intro pieces
  have hpasses : Passes config base payload false cipher (Bus.features rig.bus) :=
    ⟨hcheck, nofun, hmode⟩
  have hstart : Offered config rig [] rig := by
    refine ⟨hidle, rfl, (List.append_nil _).symm, nofun, PollPolicy.inTimeFor_zero, ?_⟩
    rw [List.length_nil, Nat.zero_mul, Nat.add_zero, Nat.min_eq_left rig.clock.now_le]
  exact (ends_program_of_passes hpasses hstart (carries_offered hmode)).imp fun _ _ h => h.2

/-! ## Overruns -/

section Lists

variable {depth : Nat} {fitting rest : List Piece}

theorem findIdx_overlong_append (h : ∀ piece ∈ fitting, piece.data.length ≤ depth) :
    (fitting ++ rest).findIdx (Piece.overlong depth) =
      rest.findIdx (Piece.overlong depth) + fitting.length := by
  have hnone : ¬fitting.findIdx (Piece.overlong depth) < fitting.length := by
    rw [List.findIdx_lt_length]
    rintro ⟨piece, hmem, hlong⟩
    exact Nat.not_lt.2 (h piece hmem) (of_decide_eq_true hlong)
  rw [List.findIdx_append, if_neg hnone]

theorem find?_overlong_append (h : ∀ piece ∈ fitting, piece.data.length ≤ depth) {piece : Piece}
    (hlong : depth < piece.data.length) :
    (fitting ++ piece :: rest).find? (Piece.overlong depth) = some piece ∧
      (fitting ++ piece :: rest).findIdx (Piece.overlong depth) = fitting.length := by
  have hpiece : piece.overlong depth = true := decide_eq_true hlong
  constructor
  · refine List.find?_eq_some_iff_append.2 ⟨hpiece, fitting, rest, rfl, fun other hother => ?_⟩
    exact Bool.not_eq_true' _ ▸ decide_eq_false (Nat.not_lt.2 (h other hother))
  · rw [findIdx_overlong_append h, List.findIdx_cons, hpiece, cond_true, Nat.zero_add]

theorem length_lt_findIdx_overlong (h : ∀ piece ∈ fitting, piece.data.length ≤ depth)
    {piece : Piece} (hfits : piece.data.length ≤ depth) :
    fitting.length < (fitting ++ piece :: rest).findIdx (Piece.overlong depth) := by
  have hpiece : piece.overlong depth = false := decide_eq_false (Nat.not_lt.2 hfits)
  rw [findIdx_overlong_append h, List.findIdx_cons, hpiece, cond_false]
  omega

end Lists

/-- A program is refused for its first piece that is too long, if the part is in time with those
before it. -/
theorem refused_iff (hidle : Idle rig) (hcheck : checkProgram base payload cipher = .ok ())
    (hmode : config.programMode.check rig.part.features = .ok ()) (window : Nat) :
    let pieces := plan base false (Cipher.encipher payload cipher)
    let overlong := Piece.overlong rig.part.config.writeDepth
    (program config base payload false cipher rig).1 = .error (.programRefused window) ↔
      ∃ piece, pieces.find? overlong = some piece ∧ piece.window.start = window ∧
        config.poll.InTimeFor rig.clock rig.part.config.pageProgramTime
          (pieces.findIdx overlong) := by
  intro pieces overlong
  have hends : Op.Ends (program config base payload false cipher) rig _ _ :=
    ends_program_offered hidle hcheck hmode
  cases hrun : program config base payload false cipher rig with
  | mk outcome after =>
    cases outcome with
    | ok stats =>
      have hoffered := (Op.ends_of_ok hrun).1 hends
      refine iff_of_false nofun ?_
      rintro ⟨piece, hfind, -⟩
      have hlong : piece.overlong rig.part.config.writeDepth = true := List.find?_some hfind
      exact Nat.not_lt.2 (hoffered.fits piece (List.mem_of_find?_eq_some hfind))
        (of_decide_eq_true hlong)
    | error failure =>
      have hstuck := (Op.ends_of_error hrun).1 hends
      cases hstuck with
      | @overlong sent piece halted hlong hintime =>
        obtain ⟨rest, hplan⟩ := halted.plan_eq
        have hfound : (sent ++ piece :: rest).find? overlong = some piece ∧ _ :=
          find?_overlong_append halted.fits hlong
        rw [← hplan] at hfound
        obtain ⟨hfind, hindex⟩ := hfound
        simp only [Except.error.injEq, Failure.programRefused.injEq]
        refine ⟨fun h => ⟨piece, hfind, h, hindex ▸ hintime⟩, ?_⟩
        rintro ⟨other, hother, rfl, -⟩
        rw [hfind] at hother
        rw [Option.some.inj hother]
      | @late sent piece halted hfits hlate =>
        refine iff_of_false nofun ?_
        rintro ⟨_, -, -, hintime⟩
        obtain ⟨rest, hplan⟩ := halted.plan_eq
        rw [show pieces = sent ++ piece :: rest from hplan] at hintime
        exact hlate (hintime.mono (length_lt_findIdx_overlong halted.fits hfits))

/-- A program whose calls are recorded from its start overruns the FIFO exactly if it is refused. -/
theorem overruns_iff (hidle : Idle rig) (hcheck : checkProgram base payload cipher = .ok ())
    (hmode : config.programMode.check rig.part.features = .ok ()) (hnew : rig.bus.record = []) :
    let ended := program config base payload false cipher rig
    (∃ data ∈ ended.2.bus.record.offers, rig.part.config.writeDepth < data.length) ↔
      ∃ window, ended.1 = .error (.programRefused window) := by
  intro ended
  have hends : Op.Ends (program config base payload false cipher) rig _ _ :=
    ends_program_offered hidle hcheck hmode
  have hnone : rig.bus.record.offers = [] := by
    rw [hnew]
    rfl
  have hsent {sent : List Piece}
      (hfits : ∀ piece ∈ sent, piece.data.length ≤ rig.part.config.writeDepth) {data : List UInt8}
      (hdata : data ∈ sent.map Piece.data) : ¬rig.part.config.writeDepth < data.length := by
    obtain ⟨piece, hpiece, rfl⟩ := List.mem_map.1 hdata
    exact Nat.not_lt.2 (hfits piece hpiece)
  cases hrun : ended with
  | mk outcome after =>
    cases outcome with
    | ok stats =>
      obtain ⟨-, -, hoffers, hfits, -, -⟩ := (Op.ends_of_ok hrun).1 hends
      rw [hnone, List.nil_append] at hoffers
      refine iff_of_false ?_ nofun
      rintro ⟨data, hdata, hlong⟩
      exact hsent hfits (hoffers ▸ hdata) hlong
    | error failure =>
      have hstuck := (Op.ends_of_error hrun).1 hends
      cases hstuck with
      | @overlong sent piece halted hlong =>
        refine iff_of_true ⟨piece.data, ?_, hlong⟩ ⟨_, rfl⟩
        rw [halted.offers_eq]
        exact List.mem_append_right _ (List.mem_append_right _ List.mem_cons_self)
      | @late sent piece halted hroom =>
        have hoffers := halted.offers_eq
        rw [hnone, List.nil_append] at hoffers
        refine iff_of_false ?_ nofun
        rintro ⟨data, hdata, hlong⟩
        rcases List.mem_append.1 (hoffers ▸ hdata) with hbefore | hlast
        · exact hsent halted.fits hbefore hlong
        · rw [List.mem_singleton.1 hlast] at hlong
          exact Nat.not_lt.2 hroom hlong

/-- A program of this payload without DMA has a piece that is longer than the FIFO is deep: a chunk
of a window, or the padded tail. -/
def Exceeds (depth base : Nat) (payload : List UInt8) (cipher : CipherMode) : Prop :=
  (∃ window ∈ (⟨base, base + (Cipher.encipher payload cipher).body.length⟩ : PageWindows).toList,
    depth < min registerChunk window.length) ∨
  (cipher ≠ .none ∧ payload.length % Cipher.blockSize ≠ 0) ∧ depth < Cipher.blockSize

/-- On a part that is listening and has no fault, a program without DMA that passes its checks
offers the write FIFO more than it holds exactly if it is refused, and it is refused for the first
piece of its plan that is too long, if the part is in time with those before it.  There is such a
piece only for a FIFO that is shallower than a chunk of a window, or than a block if the payload has
a padded tail; and with a part in time throughout, every such program is refused. -/
theorem program_overruns_iff (config : ControllerConfig) (base : Nat) (payload : List UInt8)
    (cipher : CipherMode) (part : Part) (clock : Clock) (hlisten : Part.Listening clock part)
    (hfaults : part.faults = {}) (hcheck : checkProgram base payload cipher = .ok ())
    (hmode : config.programMode.check part.features = .ok ()) :
    let recorded : Rig (Recorded Part) := { bus := { bus := part }, clock }
    let ended := program config base payload false cipher recorded
    let pieces := plan base false (Cipher.encipher payload cipher)
    let overlong := Piece.overlong part.config.writeDepth
    Prod.map id (Rig.map Recorded.bus) ended =
        program config base payload false cipher { bus := part, clock } ∧
      ((∃ data ∈ ended.2.bus.record.offers, part.config.writeDepth < data.length) ↔
        ∃ window, ended.1 = .error (.programRefused window)) ∧
      (∀ window, ended.1 = .error (.programRefused window) ↔
        ∃ piece, pieces.find? overlong = some piece ∧ piece.window.start = window ∧
          config.poll.InTimeFor clock part.config.pageProgramTime (pieces.findIdx overlong)) ∧
      ((∃ window, ended.1 = .error (.programRefused window)) →
        Exceeds part.config.writeDepth base payload cipher) ∧
      (config.poll.InTimeFor clock part.config.pageProgramTime pieces.length →
        Exceeds part.config.writeDepth base payload cipher →
        ∃ window, ended.1 = .error (.programRefused window)) := by
  intro recorded ended pieces overlong
  have hidle : Idle recorded := ⟨hlisten, hfaults⟩
  have hrefused := refused_iff hidle hcheck hmode
  have hexceeds : (∃ piece ∈ pieces, part.config.writeDepth < piece.data.length) ↔
      Exceeds part.config.writeDepth base payload cipher := by
    have hpasses : Passes config base payload false cipher part.features :=
      ⟨hcheck, nofun, hmode⟩
    rw [exists_overlong_plan hpasses.tailFits, Cipher.isSome_tail]
    rfl
  refine ⟨(mirrors_program config base payload false cipher recorded).symm,
    overruns_iff hidle hcheck hmode rfl, hrefused, ?_, ?_⟩
  · rintro ⟨window, hended⟩
    obtain ⟨piece, hfind, -, -⟩ := (hrefused window).1 hended
    have hlong : piece.overlong part.config.writeDepth = true := List.find?_some hfind
    exact hexceeds.1 ⟨piece, List.mem_of_find?_eq_some hfind, of_decide_eq_true hlong⟩
  · intro hintime hmore
    obtain ⟨piece, hmem, hlong⟩ := hexceeds.2 hmore
    cases hfind : pieces.find? overlong with
    | none => exact absurd (decide_eq_true hlong) (List.find?_eq_none.1 hfind piece hmem)
    | some first =>
      exact ⟨_, (hrefused _).2 ⟨first, hfind, rfl, hintime.mono List.findIdx_le_length⟩⟩

/-- A FIFO of sixteen bytes takes the first block of 33 bytes in chunks; the padded tail is then
more than it holds. -/
theorem program_overruns_with_tail :
    let payload : List UInt8 := List.replicate 33 0
    let part : Part := Part.new { size := 4096, writeDepth := 16 }
    let recorded : Rig (Recorded Part) := { bus := { bus := part }, clock := .start }
    let ended := program {} 0 payload false .modeA recorded
    (∃ window, ended.1 = .error (.programRefused window)) ∧
      ∃ data ∈ ended.2.bus.record.offers, 16 < data.length := by
  intro payload part recorded ended
  have hcheck : checkProgram 0 payload .modeA = .ok () := checkProgram_eq_ok_iff.2 (by decide)
  have hlisten : Part.Listening .start part := ⟨rfl, rfl, rfl⟩
  have hresult := program_overruns_iff {} 0 payload .modeA part .start hlisten rfl hcheck rfl
  have hpasses : Passes {} 0 payload false .modeA part.features := ⟨hcheck, nofun, rfl⟩
  have hpadded : Cipher.paddedLength payload.length .modeA = 64 := by decide
  have hcount := hpadded ▸ hpasses.length_plan_le
  have hintime : (ControllerConfig.poll {}).InTimeFor .start part.config.pageProgramTime
      (plan 0 false (Cipher.encipher payload .modeA)).length := by
    intro k hk
    have hspan : (ControllerConfig.poll {}).span part.config.pageProgramTime = 700 := by decide
    refine ⟨by decide, ?_⟩
    rw [hspan]
    show 0 + k * 700 + 700 ≤ lastInstant
    simp only [lastInstant]
    omega
  have hrefused := hresult.2.2.2.2 hintime (.inr ⟨⟨nofun, by decide⟩, by decide⟩)
  exact ⟨hrefused, hresult.2.1.2 hrefused⟩

/-- A new part with a write FIFO of two bytes: three bytes at the start of the array are offered to
it at once, and the program is refused. -/
theorem program_overruns_short_fifo :
    let part : Part := Part.new { size := 4096, writeDepth := 2 }
    let recorded : Rig (Recorded Part) := { bus := { bus := part }, clock := .start }
    let ended := program {} 0 [0, 0, 0] false .none recorded
    part.config.validate = .ok () ∧ Part.Listening .start part ∧ part.faults = {} ∧
      checkProgram 0 [0, 0, 0] .none = .ok () ∧ ended.1 = .error (.programRefused 0) ∧
      ∃ data ∈ ended.2.bus.record.offers, part.config.writeDepth < data.length := by
  intro part recorded ended
  have hcheck : checkProgram 0 [0, 0, 0] .none = .ok () := rfl
  have hlisten : Part.Listening .start part := ⟨rfl, rfl, rfl⟩
  have hidle : Idle recorded := ⟨hlisten, rfl⟩
  have hplan : plan 0 false (Cipher.encipher [0, 0, 0] .none) = [⟨⟨0, 3⟩, 0, [0, 0, 0]⟩] := by cbv
  have hrefused : ended.1 = .error (.programRefused 0) := by
    refine (refused_iff hidle hcheck rfl 0).2 ⟨⟨⟨0, 3⟩, 0, [0, 0, 0]⟩, ?_, rfl, ?_⟩
    · rw [hplan]
      rfl
    · rw [hplan]
      exact PollPolicy.inTimeFor_zero
  refine ⟨Part.Config.validate_eq_ok_iff.2 (by decide), hlisten, rfl, hcheck, hrefused, ?_⟩
  exact (overruns_iff hidle hcheck rfl rfl).2 ⟨0, hrefused⟩

end Flash.Controller

end CardReader
