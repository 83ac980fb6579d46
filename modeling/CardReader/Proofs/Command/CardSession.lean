import CardReader.Command.CardSession
import CardReader.Proofs.Ccid.Intent
import CardReader.Proofs.Ccid.Mismatch
import CardReader.Proofs.Ccid.Parameters
import CardReader.Proofs.Ccid.Service
import CardReader.Proofs.Command.Runs

/-!
# Sessions with a virtual card

A session is a series of exchanges, numbered from zero on, and what it prints is read off their
responses.  The host stops sending as soon as its command has been carried out, which leaves the
reader as all of the packets would, so that each request reaches the slot once and with its whole
payload.  A virtual card that is activated takes any number of APDUs in this way and answers each
of them with success.

What is proved here:

* `deliver_eq_feed` — the packets that the host leaves out do not matter;
* `answered_of_fits` — a request that fits is carried out and answered, with any card;
* `Exchanged.echoes` — so are any number of them, each under its own number;
* `runs_converse_iff` — a session is the exchange of its requests, and prints their responses;
* `exchanged_apdus` — a virtual card takes every APDU once and in order;
* `cardSession_delivers` — so a whole session succeeds, and leaves slot and card inactive.
-/

namespace CardReader.Command

open Ccid

variable {κ : Type} [SmartCard κ] {r mid last : Reassembler κ} {files : Files}

/-! ## Delivery -/

/-- How a host goes on after a packet, when there are others. -/
def proceed (rest : List (List UInt8)) : PacketOutcome × Reassembler κ → Reassembler κ
  | (.dispatched _, r) => r
  | (.rejected, r) => r
  | (_, r) => deliver r rest

theorem deliver_cons (r : Reassembler κ) (packet : List UInt8) (rest : List (List UInt8)) :
    deliver r (packet :: rest) = proceed rest (r.bulkOut packet) := rfl

/-- A host that stops after the packet which completes its command leaves the reader as one that
sends all of its packets, if none of them is rejected. -/
theorem deliver_eq_feed (list : List (List UInt8))
    (hnone : ∀ receipt ∈ (r.feed list).1, receipt.outcome ≠ .rejected) :
    deliver r list = (r.feed list).2 := by
  induction list generalizing r with
  | nil => rfl
  | cons packet rest ih =>
    rw [Reassembler.feed_cons] at hnone ⊢
    have hfirst := hnone _ List.mem_cons_self
    have hrest := ih (r := (r.bulkOut packet).2) fun receipt hreceipt =>
      hnone receipt (List.mem_cons_of_mem _ hreceipt)
    rw [deliver_cons]
    cases hpacket : r.bulkOut packet with
    | mk outcome after =>
      rw [hpacket] at hfirst hrest
      cases outcome with
      | rejected => exact absurd rfl hfirst
      | dispatched type =>
        obtain ⟨message, -, hcomplete⟩ :=
          Reassembler.bulkOut_of_dispatched (congrArg Prod.fst hpacket)
        have hafter : after = (Reassembler.complete { r with message }).2 :=
          congrArg Prod.snd (hpacket.symm.trans hcomplete)
        show after = (after.feed rest).2
        rw [hafter, Reassembler.feed_complete]
      | ignored | needMore | discarded => exact hrest

theorem outcome_receipts (command : HostCommand) :
    command.receipts.map (·.outcome) = command.outcomes := by
  rw [HostCommand.receipts]
  cases command.outcomes with
  | nil => rfl
  | cons first others => simp [Function.comp_def]

/-- The packets of a command that fits complete it. -/
theorem deliver_command (hstate : r.state = .idle) (hfree : r.response = none)
    (command : HostCommand) (hfits : command.payload.length ≤ maxPayload) :
    deliver r (packets command.bytes) =
      (Reassembler.complete { r with message := command.message }).2 := by
  have hfeed := Reassembler.feed_of_fits hstate hfree command hfits
  rw [deliver_eq_feed, hfeed]
  rw [hfeed]
  intro receipt hreceipt hrejected
  have hmem : PacketOutcome.rejected ∈ command.receipts.map (·.outcome) :=
    List.mem_map.2 ⟨receipt, hreceipt, hrejected⟩
  rw [outcome_receipts, HostCommand.outcomes, if_pos hfits, deliveries] at hmem
  split at hmem
  all_goals simp at hmem

/-! ## Exchanges -/

/-- What a host asks for. -/
structure Request where
  /-- The command. -/
  type : CommandType
  /-- The message-specific bytes. -/
  params : CommandParams := {}
  /-- The payload. -/
  payload : List UInt8 := []

namespace Request

/-- The request to activate the card. -/
def powerOn (voltage : UInt8) : Request := { type := .powerOn, params := { first := voltage } }

/-- The request to hand an APDU to the card. -/
def apdu (payload : List UInt8) : Request := { type := .xfrBlock, payload }

/-- The request to deactivate the card. -/
def powerOff : Request := { type := .powerOff }

/-- The payload is not too long for a message. -/
def Fits (request : Request) : Prop := request.payload.length ≤ maxPayload

/-- The message that brings the request to the slot. -/
def message (request : Request) (seq : UInt8) : Message :=
  { slot := 0
    seq
    type := request.type.code
    declared := request.payload.length
    params := request.params
    headerReceived := true
    received := request.payload.length + headerSize
    payload := request.payload }

/-- The bytes of the message. -/
def bytes (request : Request) (seq : UInt8) : List UInt8 :=
  commandBytes request.type.code 0 seq request.params request.payload

/-- The exchange of the request. -/
def exchange (request : Request) (seq : UInt8) : Command (Reassembler κ) Response :=
  Command.exchange request.type seq request.params request.payload

end Request

variable {request : Request} {series : List Request} {response : Response}
  {answers : List Response} {seq : UInt8}

/-- The request is answered by a response. -/
def Answered (request : Request) (seq : UInt8) (r : Reassembler κ) (response : Response)
    (mid : Reassembler κ) : Prop :=
  ∀ files, Runs (request.exchange seq) r files response mid [] files

/-- An exchange prints nothing, leaves the files alone and takes the response that is there. -/
theorem run_exchange (hfits : request.Fits) (seq : UInt8) (r : Reassembler κ) (files : Files) :
    let fed := deliver r (packets (request.bytes seq))
    (request.exchange seq).run r files =
      ((fed.response.elim (.error .noResponse) .ok, { fed with response := none }), [], files) := by
  intro fed
  have hget : Runs (get : Command (Reassembler κ) (Reassembler κ)) r files r r [] files := rfl
  rw [Request.exchange, exchange, if_neg (Nat.not_lt.2 hfits)]
  refine run_bind_of_runs hget ?_
  have htaken : (deliver r (packets (commandBytes request.type.code 0 seq request.params
      request.payload))).bulkInComplete = (fed.response, { fed with response := none }) := rfl
  rw [htaken]
  cases fed.response with
  | none => rfl
  | some response => rfl

/-- What an exchange comes to does not depend on the files. -/
theorem answered_of_runs (request : Request) {lines : List String} {between : Files}
    (h : Runs (request.exchange seq) r files response mid lines between) :
    Answered request seq r response mid ∧ lines = [] ∧ between = files := by
  by_cases hfits : request.Fits
  · rw [Runs, run_exchange hfits] at h
    obtain ⟨hanswer, hrest⟩ := Prod.mk.inj h
    obtain ⟨hlines, hfiles⟩ := Prod.mk.inj hrest
    refine ⟨fun others => ?_, hlines.symm, hfiles.symm⟩
    rw [Runs, run_exchange hfits, hanswer]
  · rw [Runs, Request.exchange, exchange, if_pos (Nat.lt_of_not_le hfits)] at h
    cases h

theorem Answered.unique {other : Response} {after : Reassembler κ}
    (h : Answered request seq r response mid) (hother : Answered request seq r other after) :
    response = other ∧ mid = after := by
  cases (h {}).symm.trans (hother {})
  exact ⟨rfl, rfl⟩

/-- A request that fits is carried out and answered. -/
theorem answered_of_fits (hstate : r.state = .idle) (hfree : r.response = none)
    (hfits : request.Fits) (seq : UInt8) :
    let served := Slot.dispatch (request.message seq) r.slot r.card
    Answered request seq r served.1 { slot := served.2.1, card := served.2.2 } := by
  intro served files
  have hlength : request.payload.length < lengthLimit := Nat.lt_of_le_of_lt hfits (by decide)
  have hdeliver : deliver r (packets (request.bytes seq)) =
      (Reassembler.complete { r with message := request.message seq }).2 :=
    deliver_command hstate hfree
      ⟨request.type.code, 0, seq, request.params, request.payload, hlength⟩ hfits
  rw [Runs, run_exchange hfits, hdeliver]
  rfl

theorem answered_of_dispatch {slot : Slot} {card : κ} (hstate : r.state = .idle)
    (hfree : r.response = none) (hfits : request.Fits)
    (hserved : Slot.dispatch (request.message seq) r.slot r.card = (response, slot, card)) :
    Answered request seq r response { slot, card } := by
  have hanswer := answered_of_fits hstate hfree hfits seq
  rwa [hserved] at hanswer

/-- The requests are answered one after another, numbered on from `seq`. -/
inductive Exchanged : UInt8 → Reassembler κ → List Request → List Response → Reassembler κ → Prop
  | nil {seq : UInt8} {r : Reassembler κ} : Exchanged seq r [] [] r
  | cons {seq : UInt8} {r mid last : Reassembler κ} {request : Request} {rest : List Request}
    {response : Response} {others : List Response} (first : Answered request seq r response mid)
    (next : Exchanged (seq + 1) mid rest others last) :
    Exchanged seq r (request :: rest) (response :: others) last

theorem Exchanged.length_eq (h : Exchanged seq r series answers last) :
    answers.length = series.length := by
  induction h with
  | nil => rfl
  | cons first next ih => exact congrArg (· + 1) ih

theorem number_zero (seq : UInt8) : seq + UInt8.ofNat 0 = seq := UInt8.add_zero seq

theorem number_succ (seq : UInt8) (k : Nat) :
    seq + UInt8.ofNat (k + 1) = seq + 1 + UInt8.ofNat k := by
  rw [UInt8.ofNat_add, UInt8.add_comm (UInt8.ofNat k), UInt8.add_assoc]
  rfl

/-- Each response goes back to the slot and the number of its request. -/
theorem Exchanged.echoes (h : Exchanged seq r series answers last) (hstate : r.state = .idle)
    (hfree : r.response = none) (hfits : ∀ request ∈ series, request.Fits) :
    ∀ k response, answers[k]? = some response →
      response.slot = 0 ∧ response.seq = seq + UInt8.ofNat k := by
  induction h with
  | nil => nofun
  | @cons seq r mid last request rest response others first next ih =>
    rw [List.forall_mem_cons] at hfits
    obtain ⟨rfl, rfl⟩ := first.unique (answered_of_fits hstate hfree hfits.1 seq)
    intro k answer hanswer
    cases k with
    | zero =>
      cases hanswer
      exact ⟨Slot.dispatch_slot _ _ _, (Slot.dispatch_seq _ _ _).trans (number_zero seq).symm⟩
    | succ k =>
      rw [number_succ]
      exact ih rfl rfl hfits.2 k answer hanswer

/-- Series of requests can be put together, -/
theorem Exchanged.append {first second : List Request} {others : List Response}
    (h : Exchanged seq r first answers mid)
    (hnext : Exchanged (seq + UInt8.ofNat first.length) mid second others last) :
    Exchanged seq r (first ++ second) (answers ++ others) last := by
  induction h with
  | @nil seq r =>
    rwa [List.length_nil, number_zero] at hnext
  | cons hanswer _ ih =>
    rw [List.length_cons, number_succ] at hnext
    exact .cons hanswer (ih hnext)

/-- and taken apart. -/
theorem Exchanged.split {first second : List Request}
    (h : Exchanged seq r (first ++ second) answers last) :
    ∃ front mid others, answers = front ++ others ∧ Exchanged seq r first front mid ∧
      Exchanged (seq + UInt8.ofNat first.length) mid second others last := by
  induction first generalizing seq r answers with
  | nil =>
    refine ⟨[], r, answers, rfl, .nil, ?_⟩
    rwa [List.length_nil, number_zero]
  | cons request rest ih =>
    cases h with
    | cons hanswer hnext =>
      obtain ⟨front, mid, others, rfl, hrest, hothers⟩ := ih hnext
      refine ⟨_ :: front, mid, others, rfl, .cons hanswer hrest, ?_⟩
      rwa [List.length_cons, number_succ]

/-! ## Conversations -/

/-- The requests of a session. -/
def requests (voltage : UInt8) (apdus : List (List UInt8)) : List Request :=
  .powerOn voltage :: (apdus.map .apdu ++ [.powerOff])

/-- The responses of a session. -/
structure Talk where
  /-- To the activation of the card. -/
  activated : Response
  /-- To the APDUs. -/
  answers : List Response
  /-- To the deactivation of the card. -/
  deactivated : Response

namespace Talk

/-- All responses in their order. -/
def responses (talk : Talk) : List Response :=
  talk.activated :: (talk.answers ++ [talk.deactivated])

/-- What is printed of an APDU and its response. -/
def apduLine (apdu : List UInt8) (answer : Response) : String :=
  "APDU " ++ Hex.ofBytes apdu ++ " -> " ++ Hex.ofBytes answer.data

/-- What is printed of the responses. -/
def lines (talk : Talk) (apdus : List (List UInt8)) : List String :=
  ("PowerOn  -> " ++ Hex.ofBytes talk.activated.bytes) ::
    (List.zipWith apduLine apdus talk.answers ++
      ["PowerOff -> " ++ Hex.ofBytes talk.deactivated.bytes])

end Talk

/-- Sending APDUs is the exchange of their requests. -/
theorem runs_sendApdus_iff {apdus : List (List UInt8)} {number : UInt8} {lines : List String}
    {between : Files} :
    Runs (sendApdus seq apdus) r files number last lines between ↔
      number = seq + UInt8.ofNat apdus.length ∧ between = files ∧ ∃ answers,
        Exchanged (seq + 1) r (apdus.map .apdu) answers last ∧
        lines = List.zipWith Talk.apduLine apdus answers := by
  induction apdus generalizing seq r lines with
  | nil =>
    constructor
    · intro h
      cases h
      exact ⟨(number_zero _).symm, rfl, [], .nil, rfl⟩
    · rintro ⟨hnumber, rfl, _, hexchanged, rfl⟩
      cases hexchanged
      rw [hnumber, List.length_nil, number_zero]
      exact runs_pure _
  | cons apdu rest ih =>
    rw [sendApdus, runs_bind]
    constructor
    · rintro ⟨response, mid, before, files, more, hfirst, hrest, rfl⟩
      obtain ⟨hanswer, rfl, rfl⟩ := answered_of_runs (.apdu apdu) hfirst
      obtain ⟨_, _, _, _, others, hprint, hothers, rfl⟩ := runs_bind.1 hrest
      cases hprint
      obtain ⟨hnumber, hfiles, answers, hexchanged, rfl⟩ := ih.1 hothers
      exact ⟨by rw [hnumber, List.length_cons, number_succ], hfiles, response :: answers,
        .cons hanswer hexchanged, rfl⟩
    · rintro ⟨hnumber, rfl, _, hexchanged, rfl⟩
      cases hexchanged with
      | cons hanswer hexchanged =>
        rw [List.length_cons, number_succ] at hnumber
        have hothers := ih.2 ⟨hnumber, rfl, _, hexchanged, rfl⟩
        exact ⟨_, _, _, _, _, hanswer between,
          run_bind_of_runs (runs_print _) hothers, rfl⟩

/-- The requests of a session are answered if the card is activated, all APDUs are answered and it
is deactivated after them. -/
theorem exchanged_requests_iff {voltage : UInt8} {apdus : List (List UInt8)} {talk : Talk}
    (hlength : talk.answers.length = apdus.length) :
    Exchanged 0 r (requests voltage apdus) talk.responses last ↔
      ∃ mid before, Answered (.powerOn voltage) 0 r talk.activated mid ∧
        Exchanged (0 + 1) mid (apdus.map .apdu) talk.answers before ∧
        Answered .powerOff (0 + UInt8.ofNat apdus.length + 1) before talk.deactivated last := by
  have hnumber : (0 : UInt8) + UInt8.ofNat apdus.length + 1 =
      0 + 1 + UInt8.ofNat (apdus.map Request.apdu).length := by
    rw [List.length_map, UInt8.add_assoc, UInt8.add_comm _ 1, UInt8.add_assoc]
  rw [hnumber]
  constructor
  · intro hexchanged
    cases hexchanged with
    | cons hactivated hnext =>
      obtain ⟨front, before, others, hsplit, hanswers, hothers⟩ := hnext.split
      have hfront : talk.answers.length = front.length := by
        rw [hlength, hanswers.length_eq, List.length_map]
      obtain ⟨rfl, rfl⟩ := List.append_inj hsplit hfront
      cases hothers with
      | cons hdeactivated hnil =>
        cases hnil
        exact ⟨_, before, hactivated, hanswers, hdeactivated⟩
  · rintro ⟨mid, before, hactivated, hanswers, hdeactivated⟩
    exact .cons hactivated (hanswers.append (.cons hdeactivated .nil))

/-- A session is the exchange of its requests, if the card lets itself be activated. -/
theorem runs_converse_iff {voltage : UInt8} {apdus : List (List UInt8)} {lines : List String}
    {between : Files} :
    Runs (converse voltage apdus) r files () last lines between ↔
      between = files ∧ ∃ talk : Talk,
        Exchanged 0 r (requests voltage apdus) talk.responses last ∧
        talk.activated.failed = false ∧ talk.answers.length = apdus.length ∧
        lines = talk.lines apdus := by
  rw [converse, runs_bind]
  constructor
  · rintro ⟨activated, mid, _, _, _, hfirst, hafter, rfl⟩
    obtain ⟨hactivated, rfl, rfl⟩ := answered_of_runs (.powerOn voltage) hfirst
    obtain ⟨_, _, _, _, _, hprint, hchecked, rfl⟩ := runs_bind.1 hafter
    cases hprint
    cases hfailed : activated.failed with
    | true =>
      rw [hfailed, if_pos rfl] at hchecked
      cases hchecked
    | false =>
      rw [hfailed, if_neg Bool.false_ne_true] at hchecked
      obtain ⟨_, before, _, _, _, hsend, hclosing, rfl⟩ := runs_bind.1 hchecked
      obtain ⟨rfl, rfl, answers, hanswers, rfl⟩ := runs_sendApdus_iff.1 hsend
      obtain ⟨deactivated, _, _, _, _, hlast, hprint, rfl⟩ := runs_bind.1 hclosing
      cases hprint
      obtain ⟨hdeactivated, rfl, rfl⟩ := answered_of_runs .powerOff hlast
      have hlength : answers.length = apdus.length := by
        rw [hanswers.length_eq, List.length_map]
      let talk : Talk := ⟨activated, answers, deactivated⟩
      have hexchanged : Exchanged 0 r (requests voltage apdus) talk.responses last :=
        (exchanged_requests_iff hlength).2 ⟨mid, before, hactivated, hanswers, hdeactivated⟩
      exact ⟨rfl, talk, hexchanged, hfailed, hlength, rfl⟩
  · rintro ⟨rfl, talk, hexchanged, hfailed, hlength, rfl⟩
    obtain ⟨mid, before, hactivated, hanswers, hdeactivated⟩ :=
      (exchanged_requests_iff hlength).1 hexchanged
    refine ⟨talk.activated, mid, _, _, _, hactivated between,
      runs_bind.2 ⟨(), _, _, _, _, runs_print _, ?_, rfl⟩, rfl⟩
    rw [hfailed, if_neg Bool.false_ne_true]
    exact runs_bind.2 ⟨_, before, _, _, _,
      runs_sendApdus_iff.2 ⟨rfl, rfl, talk.answers, hanswers, rfl⟩,
      runs_bind.2 ⟨talk.deactivated, _, _, _, _, hdeactivated between, runs_print _, rfl⟩, rfl⟩

/-! ## The virtual card -/

/-- A message that passes its checks is answered with what comes of the call that it asks for. -/
theorem dispatch_of_intent {message : Message} {slot : Slot} {card after : κ} {call : CardCall}
    {reply : CardReply} (hpresent : SmartCard.present card = true)
    (hintent : Slot.intent message slot card = .ok (.call call))
    (hmade : call.make card = (.ok reply, after)) :
    Slot.dispatch message slot card =
      Slot.report message (.ok reply.bytes, slot.granted call reply, after) := by
  rw [Slot.dispatch_of_present hpresent, Slot.handle_eq, hintent, Slot.carryOut, Slot.fulfil, hmade]
  rfl

theorem exists_fill {room : Nat} {bytes : List UInt8} (hfits : bytes.length ≤ room) :
    ∃ filled, fill? room bytes = some filled ∧ filled.bytes = bytes := by
  refine ⟨_, dif_pos hfits, ?_⟩
  rw [Filled.bytes]
  simp

theorem exists_ofSelector {voltage : UInt8} (h : voltage ≤ 3) :
    ∃ selected, Voltage.ofSelector? voltage = some selected := by
  have hle : voltage.toNat ≤ 3 := h
  have hcases : voltage = 0 ∨ voltage = 1 ∨ voltage = 2 ∨ voltage = 3 := by
    simp only [← UInt8.toNat_inj, UInt8.toNat_zero, UInt8.toNat_one, UInt8.reduceToNat]
    omega
  rcases hcases with rfl | rfl | rfl | rfl <;> exact ⟨_, rfl⟩

/-- A virtual card that has been activated, and the APDUs that it has received. -/
def activeCard (atr : List UInt8) (apdus : List (List UInt8)) : VirtualCard :=
  { atr, powered := true, apdus }

/-- The reader with an active card. -/
def active (atr : List UInt8) (apdus : List (List UInt8)) : Reassembler VirtualCard :=
  { slot := { powered := true }, card := activeCard atr apdus }

/-- The response brings data from the card, which is that of success. -/
structure Succeeded (response : Response) : Prop where
  type_eq : response.type = ResponseType.dataBlock.code
  not_failed : response.failed = false
  error_eq : response.error = 0
  data_eq : response.data = [0x90, 0x00]

theorem make_powerOn {atr : List UInt8} (hatr : atr.length ≤ maxAtr) (voltage : Voltage) :
    (CardCall.powerOn voltage maxAtr).make ({ atr } : VirtualCard) =
      (.ok (.data atr), activeCard atr []) := by
  obtain ⟨filled, hfilled, hbytes⟩ := exists_fill hatr
  have hactivate : SmartCard.powerOn voltage maxAtr ({ atr } : VirtualCard) =
      (.ok filled, activeCard atr []) := by
    have hcard : SmartCard.powerOn voltage maxAtr ({ atr } : VirtualCard) =
      VirtualCard.activate maxAtr { atr } := rfl
    rw [hcard, VirtualCard.activate, hfilled]
    rfl
  rw [CardCall.make, hactivate, ← hbytes]
  rfl

theorem make_transmit (atr apdu : List UInt8) (earlier : List (List UInt8)) :
    (CardCall.transmit apdu maxPayload).make (activeCard atr earlier) =
      (.ok (.data [0x90, 0x00]), activeCard atr (earlier ++ [apdu])) := by
  obtain ⟨filled, hfilled, hbytes⟩ :=
    exists_fill (show [(0x90 : UInt8), 0x00].length ≤ maxPayload by decide)
  have hreceive : SmartCard.transmit apdu maxPayload (activeCard atr earlier) =
      (.ok filled, activeCard atr (earlier ++ [apdu])) := by
    have hcard : SmartCard.transmit apdu maxPayload (activeCard atr earlier) =
      VirtualCard.receive apdu maxPayload (activeCard atr earlier) := rfl
    have hanswer : (activeCard atr earlier).responder (activeCard atr earlier).apdus apdu =
      .ok [0x90, 0x00] := rfl
    rw [hcard, VirtualCard.receive, hanswer]
    dsimp only
    rw [hfilled]
    rfl
  rw [CardCall.make, hreceive, ← hbytes]
  rfl

/-- The card is activated and shows its answer to reset. -/
theorem answered_powerOn {atr : List UInt8} {voltage : UInt8} (hatr : atr.length ≤ maxAtr)
    (hvoltage : voltage ≤ 3) (seq : UInt8) :
    Answered (.powerOn voltage) seq (.new ({ atr } : VirtualCard))
      (.dataBlock ⟨0, seq⟩ iccActive noError atr) (active atr []) := by
  let message := (Request.powerOn voltage).message seq
  obtain ⟨selected, hselected⟩ := exists_ofSelector hvoltage
  have hempty : Slot.checkNoData message = .ok () := rfl
  have hparams : message.params.first = voltage := rfl
  have hchecked : Slot.selectVoltage message = .ok selected := by
    rw [Slot.selectVoltage, Slot.checkSlot_of_eq rfl, hempty, hparams, hselected]
    rfl
  have hcommand : message.command? = some .powerOn := rfl
  have hintent : Slot.intent message {} ({ atr } : VirtualCard) =
      .ok (.call (.powerOn selected maxAtr)) := by
    rw [Slot.intent, hcommand]
    dsimp only
    rw [hchecked, Slot.checkPresent_of_present rfl]
    rfl
  exact answered_of_dispatch rfl rfl (Nat.zero_le _)
    (dispatch_of_intent rfl hintent (make_powerOn hatr selected))

/-- The card receives the APDU and answers it with success. -/
theorem answered_apdu {apdu : List UInt8} (hfits : apdu.length ≤ maxPayload) (seq : UInt8)
    (atr : List UInt8) (earlier : List (List UInt8)) :
    Answered (.apdu apdu) seq (active atr earlier)
      (.dataBlock ⟨0, seq⟩ iccActive noError [0x90, 0x00]) (active atr (earlier ++ [apdu])) := by
  let message := (Request.apdu apdu).message seq
  let slot : Slot := { powered := true }
  have hlength : ¬maxPayload < message.declared := Nat.not_lt.2 hfits
  have hconsistent : message.lengthConsistent = true := by
    simp [message, Request.message, Request.apdu, Message.lengthConsistent, Message.expected]
  have hactive : slot.checkActive = .ok () := rfl
  have hchecked : Slot.checkData message = .ok () := by
    simp [Slot.checkData, hconsistent, hlength]
  have hlast : Slot.checkLastTwo message .badLevel = .ok () := rfl
  have hcommand : message.command? = some .xfrBlock := rfl
  have hintent : Slot.intent message slot (activeCard atr earlier) =
      .ok (.call (.transmit apdu maxPayload)) := by
    rw [Slot.intent, hcommand]
    dsimp only
    rw [Slot.checkSlot_of_eq rfl, Slot.checkPresent_of_present rfl, hactive, hchecked, hlast]
    rfl
  exact answered_of_dispatch rfl rfl hfits
    (dispatch_of_intent rfl hintent (make_transmit atr apdu earlier))

/-- The card is deactivated. -/
theorem answered_powerOff (seq : UInt8) (atr : List UInt8) (apdus : List (List UInt8)) :
    Answered .powerOff seq (active atr apdus) (.slotStatus ⟨0, seq⟩ iccInactive noError 0)
      (.new { atr, apdus }) :=
  answered_of_dispatch rfl rfl (Nat.zero_le _) rfl

theorem not_failed_dataBlock (echo : Echo) (data : List UInt8) :
    (Response.dataBlock echo iccActive noError data).failed = false := by
  have hfailed : (iccActive &&& commandFailed != 0) = false := by decide
  exact hfailed

theorem succeeded_dataBlock (echo : Echo) :
    Succeeded (.dataBlock echo iccActive noError [0x90, 0x00]) :=
  ⟨rfl, not_failed_dataBlock echo _, rfl, rfl⟩

/-! ## Sessions -/

/-- An active card takes every APDU once and in order, and answers all of them with success. -/
theorem exchanged_apdus {apdus : List (List UInt8)}
    (hfits : ∀ apdu ∈ apdus, apdu.length ≤ maxPayload) (seq : UInt8) (atr : List UInt8)
    (earlier : List (List UInt8)) :
    ∃ answers, Exchanged seq (active atr earlier) (apdus.map .apdu) answers
        (active atr (earlier ++ apdus)) ∧ ∀ answer ∈ answers, Succeeded answer := by
  induction apdus generalizing seq earlier with
  | nil =>
    rw [List.append_nil]
    exact ⟨[], .nil, nofun⟩
  | cons apdu rest ih =>
    rw [List.forall_mem_cons] at hfits
    obtain ⟨others, hnext, hsucceeded⟩ := ih hfits.2 (seq + 1) (earlier ++ [apdu])
    rw [List.append_assoc, List.singleton_append] at hnext
    exact ⟨_ :: others, .cons (answered_apdu hfits.1 seq atr earlier) hnext,
      List.forall_mem_cons.2 ⟨succeeded_dataBlock _, hsucceeded⟩⟩

/-- The requests of a session activate the card, bring it every APDU and deactivate it. -/
theorem exchanged_session {atr : List UInt8} {voltage : UInt8} {apdus : List (List UInt8)}
    (hatr : atr.length ≤ maxAtr) (hvoltage : voltage ≤ 3)
    (hfits : ∀ apdu ∈ apdus, apdu.length ≤ maxPayload) :
    ∃ talk : Talk,
      Exchanged 0 (.new { atr }) (requests voltage apdus) talk.responses
        (.new ({ atr, apdus } : VirtualCard)) ∧
      talk.activated = .dataBlock ⟨0, 0⟩ iccActive noError atr ∧
      talk.answers.length = apdus.length ∧ ∀ answer ∈ talk.answers, Succeeded answer := by
  obtain ⟨answers, hanswers, hsucceeded⟩ := exchanged_apdus hfits (0 + 1) atr []
  have hlength : answers.length = apdus.length := by
    rw [hanswers.length_eq, List.length_map]
  exact ⟨⟨_, answers, _⟩,
    (exchanged_requests_iff hlength).2
      ⟨_, _, answered_powerOn hatr hvoltage 0, hanswers, answered_powerOff _ atr apdus⟩,
    rfl, hlength, hsucceeded⟩

theorem fits_requests (voltage : UInt8) {apdus : List (List UInt8)}
    (hfits : ∀ apdu ∈ apdus, apdu.length ≤ maxPayload) :
    ∀ request ∈ requests voltage apdus, request.Fits := by
  have hfirst : (Request.powerOn voltage).Fits := Nat.zero_le _
  have hlast : Request.powerOff.Fits := Nat.zero_le _
  rw [requests, List.forall_mem_cons, List.forall_mem_append, List.forall_mem_map,
    List.forall_mem_singleton]
  exact ⟨hfirst, hfits, hlast⟩

/-- What is printed before a session. -/
def presenceLine : String := "Interrupt: " ++ Hex.ofBytes [0x50, 0x03]

omit [SmartCard κ] in
theorem runs_reportPresence :
    Runs (reportPresence : Command (Reassembler κ) Unit) r files () r [presenceLine] files := rfl

/-- The command reports the card, has the session with it and leaves its own state alone. -/
theorem runs_cardSession {σ : Type} {atr : String} {voltage : UInt8} {apdus : List String}
    {bytes : SessionBytes} {last : Reassembler VirtualCard} {lines : List String}
    {between : Files} (hparse : SessionBytes.parse atr apdus = .ok bytes)
    (h : Runs (converse voltage bytes.apdus) (.new ({ atr := bytes.atr } : VirtualCard)) files ()
      last lines between) (state : σ) :
    Runs (cardSession atr voltage apdus) state files () state (presenceLine :: lines) between := by
  let session : Command (Reassembler VirtualCard) Unit := do
    reportPresence
    converse voltage bytes.apdus
  have hsession : Runs session (.new { atr := bytes.atr }) files () last
    (presenceLine :: lines) between := run_bind_of_runs runs_reportPresence h
  have hcommand : cardSession atr voltage apdus state =
      (fun answer => (answer.1, state)) <$> session (.new { atr := bytes.atr }) := by
    rw [cardSession, hparse]
  rw [Runs, run, hcommand, Interaction.run_map, ← run, hsession]

/-- A session with a card whose answer to reset is not too long succeeds with any number of APDUs
that fit a message.  Every exchange is answered, under its own number; the card receives the APDUs
once and in order, with all their bytes, and answers all of them with success; and slot and card
are inactive in the end. -/
theorem cardSession_delivers {σ : Type} {atr : String} {voltage : UInt8} {apdus : List String}
    {bytes : SessionBytes} (hparse : SessionBytes.parse atr apdus = .ok bytes)
    (hatr : bytes.atr.length ≤ maxAtr) (hvoltage : voltage ≤ 3)
    (hfits : ∀ apdu ∈ bytes.apdus, apdu.length ≤ maxPayload) (state : σ) (files : Files) :
    ∃ (talk : Talk) (last : Reassembler VirtualCard),
      Runs (cardSession atr voltage apdus) state files () state
        (presenceLine :: talk.lines bytes.apdus) files ∧
      Runs (converse voltage bytes.apdus) (.new { atr := bytes.atr }) files () last
        (talk.lines bytes.apdus) files ∧
      Exchanged 0 (.new { atr := bytes.atr }) (requests voltage bytes.apdus) talk.responses last ∧
      (∀ k response, talk.responses[k]? = some response →
        response.slot = 0 ∧ response.seq = UInt8.ofNat k) ∧
      talk.answers.length = bytes.apdus.length ∧ (∀ answer ∈ talk.answers, Succeeded answer) ∧
      last.card.apdus = bytes.apdus ∧ last.card.powered = false ∧ last.slot.powered = false := by
  obtain ⟨talk, hexchanged, hactivated, hlength, hsucceeded⟩ :=
    exchanged_session hatr hvoltage hfits
  have hechoes := hexchanged.echoes rfl rfl (fits_requests voltage hfits)
  have hfailed : talk.activated.failed = false := by
    rw [hactivated]
    exact not_failed_dataBlock _ _
  let first : Reassembler VirtualCard := .new { atr := bytes.atr }
  let last : Reassembler VirtualCard := .new { atr := bytes.atr, apdus := bytes.apdus }
  have hconverse : Runs (converse voltage bytes.apdus) first files () last
    (talk.lines bytes.apdus) files :=
    runs_converse_iff.2 ⟨rfl, talk, hexchanged, hfailed, hlength, rfl⟩
  refine ⟨talk, last, runs_cardSession hparse hconverse state, hconverse, hexchanged, ?_, hlength,
    hsucceeded, rfl, rfl, rfl⟩
  intro k response hresponse
  rw [← UInt8.zero_add (UInt8.ofNat k)]
  exact hechoes k response hresponse

/-- An APDU of 54 bytes fills a packet together with its header, and another one is empty. -/
theorem cardSession_of_two_apdus :
    let atr := "3B 02 14 50"
    let apdus := [Hex.ofBytes (List.replicate 54 0xA5), ""]
    let bytes : SessionBytes := ⟨[0x3B, 0x02, 0x14, 0x50], [List.replicate 54 0xA5, []]⟩
    SessionBytes.parse atr apdus = .ok bytes ∧ bytes.atr.length ≤ maxAtr ∧ (3 : UInt8) ≤ 3 ∧
      (∀ apdu ∈ bytes.apdus, apdu.length ≤ maxPayload) ∧
      ∃ (talk : Talk) (last : Reassembler VirtualCard),
        Runs (cardSession atr 3 apdus) () {} () () (presenceLine :: talk.lines bytes.apdus) {} ∧
        Exchanged 0 (.new { atr := bytes.atr }) (requests 3 bytes.apdus) talk.responses last ∧
        last.card.apdus = bytes.apdus := by
  intro atr apdus bytes
  have hparse : SessionBytes.parse atr apdus = .ok bytes := by decide +kernel
  have hatr : bytes.atr.length ≤ maxAtr := by decide
  have hvoltage : (3 : UInt8) ≤ 3 := by decide
  have hfits : ∀ apdu ∈ bytes.apdus, apdu.length ≤ maxPayload := by decide
  obtain ⟨talk, last, hruns, -, hexchanged, -, -, -, hapdus, -⟩ :=
    cardSession_delivers hparse hatr hvoltage hfits () {}
  exact ⟨hparse, hatr, hvoltage, hfits, talk, last, hruns, hexchanged, hapdus⟩

end CardReader.Command
