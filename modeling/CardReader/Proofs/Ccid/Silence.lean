import CardReader.Proofs.Ccid.Answer

/-!
# Data in a response that failed

A response is marked as failed by its outcome code, but it keeps its data back by its error byte.
The two agree on all codes but one: the code of a command that is not supported marks the response
as failed and leaves its error byte zero, so whatever data the response was offered goes out.

What is proved here:

* `failed_build` and `data_build_of_failed` — what a code other than that of success makes of a
  response and of its data;
* `silent_iff_of_failed` — a response that failed is silent if and only if its code is not zero or
  it was offered no data;
* `failed_with_data` — one that is not silent.
-/

namespace CardReader.Ccid

namespace Response

/-! ## Responses and what they are offered -/

/-- The response is built from an outcome code, and `data` is what it is offered as data. -/
inductive Offered (echo : Echo) (icc code : UInt8) : List UInt8 → Response → Prop
  /-- Data from the card. -/
  | dataBlock (data : List UInt8) : Offered echo icc code data (.dataBlock echo icc code data)
  /-- The status of the slot comes without data. -/
  | slotStatus (clockStatus : UInt8) :
    Offered echo icc code [] (.slotStatus echo icc code clockStatus)
  /-- The protocol parameters. -/
  | parameters (protocol : UInt8) (data : List UInt8) :
    Offered echo icc code data (.parameters echo icc code protocol data)
  /-- The answer to a vendor's command comes without data. -/
  | escape : Offered echo icc code [] (.escape echo icc code)
  /-- The clock frequency and the data rate. -/
  | dataRate (clock rate : UInt32) :
    Offered echo icc code (bytes32 clock.toNat ++ bytes32 rate.toNat)
      (.dataRate echo icc code clock rate)

variable {echo : Echo} {icc code : UInt8} {data : List UInt8} {response : Response}

/-- Whatever the response is offered, its family builds it in the same way. -/
theorem Offered.exists_build (h : Offered echo icc code data response) :
    ∃ family specific, response = build family echo icc code specific data := by
  cases h with
  | dataBlock data => exact ⟨.dataBlock, 0, rfl⟩
  | slotStatus clockStatus => exact ⟨.slotStatus, clockStatus, rfl⟩
  | parameters protocol data => exact ⟨.parameters, protocol, rfl⟩
  | escape => exact ⟨.escape, 0, rfl⟩
  | dataRate clock rate => exact ⟨.dataRate, 0, rfl⟩

/-! ## What a failure makes of a response -/

theorem or_and_commandFailed (icc : UInt8) :
    (icc ||| commandFailed) &&& commandFailed = commandFailed := by
  apply UInt8.eq_of_toBitVec_eq
  ext i hi
  simp only [UInt8.toBitVec_and, UInt8.toBitVec_or, BitVec.getElem_and, BitVec.getElem_or]
  cases commandFailed.toBitVec[i] <;> simp

variable (family : ResponseType) (specific : UInt8)

/-- The state of the card does not hide the failure. -/
theorem failed_build (hcode : code ≠ noError) :
    (build family echo icc code specific data).failed = true := by
  have hstatus : (build family echo icc code specific data).status = icc ||| commandFailed := by
    simp [build, hcode]
  rw [failed, hstatus, or_and_commandFailed]
  decide

theorem error_build_of_failed (hcode : code ≠ noError) :
    (build family echo icc code specific data).error = code := by
  simp [build, hcode]

/-- The data is kept back by the error byte. -/
theorem data_build_of_failed (hcode : code ≠ noError) :
    (build family echo icc code specific data).data =
      if code = 0 then data.take maxPayload else [] := by
  simp [build, hcode]

theorem data_build_eq_nil_iff (hcode : code ≠ noError) :
    (build family echo icc code specific data).data = [] ↔ code ≠ 0 ∨ data = [] := by
  rw [data_build_of_failed family specific hcode]
  by_cases hzero : code = 0
  · have hroom : maxPayload ≠ 0 := by decide
    simp [hzero, hroom]
  · simp [hzero]

/-- A response with a code other than that of success is marked as failed and carries the code; its
length field counts the bytes that come after the header, and there are none if and only if the
code is not that of a command that is not supported or the response was offered no data. -/
theorem silent_iff_of_failed (h : Offered echo icc code data response) (hcode : code ≠ noError) :
    response.failed = true ∧
      ResponseHeader.parse? response.bytes = some response.header ∧
      response.header.error = code ∧
      response.header.length = (response.bytes.drop headerSize).length ∧
      (response.bytes.drop headerSize = [] ↔ code ≠ SlotError.notSupported.code ∨ data = []) := by
  obtain ⟨family, specific, rfl⟩ := h.exists_build
  have hroom := length_data_build family echo icc specific data code
  refine ⟨failed_build family specific hcode, parse?_bytes hroom, ?_, ?_, ?_⟩
  · show (build family echo icc code specific data).error = code
    exact error_build_of_failed family specific hcode
  · rw [drop_bytes]
    rfl
  · rw [drop_bytes]
    exact data_build_eq_nil_iff family specific hcode

/-- The answer of a mute card is offered two bytes and has none. -/
theorem silent_of_mute :
    let response := Response.dataBlock ⟨0, 9⟩ iccActive SlotError.iccMute.code [0x01, 0x02]
    SlotError.iccMute.code ≠ noError ∧ response.failed = true ∧ response.header.length = 0 ∧
      response.bytes.drop headerSize = [] := by
  intro response
  have hcode : SlotError.iccMute.code ≠ noError := by decide
  obtain ⟨hfailed, -, -, hlength, hsilent⟩ := silent_iff_of_failed
    (.dataBlock [0x01, 0x02] : Offered ⟨0, 9⟩ iccActive _ _ response) hcode
  have hnone := hsilent.2 (.inl (by decide))
  refine ⟨hcode, hfailed, ?_, hnone⟩
  rw [hlength, hnone]
  rfl

/-- The answer to a command that is not supported is offered two bytes and shows them. -/
theorem failed_with_data :
    let response := Response.dataBlock ⟨0, 9⟩ iccActive SlotError.notSupported.code [0x01, 0x02]
    SlotError.notSupported.code ≠ noError ∧ response.failed = true ∧
      response.header.length = 2 ∧ response.bytes.drop headerSize = [0x01, 0x02] := by
  decide

end Response

end CardReader.Ccid
