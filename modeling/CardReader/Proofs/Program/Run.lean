import CardReader.Proofs.Cipher
import CardReader.Proofs.Outcome
import CardReader.Proofs.Program.Plan

/-!
# A program carries out its plan

A program sends the pieces of its plan one after another and stops at the first that fails, which
it reports as a failure of the window of that piece.  Whatever one piece keeps, over the pieces
sent so far, is therefore kept by the whole program; and its statistics are read off the plan.

What is proved here:

* `ends_programWindows` and `ends_programTail` — the two loops send their part of the plan;
* `ends_program_of_passes` and `ends_program_of_not_passes` — a program passes its checks and
  carries out its plan, or sends nothing.
-/

namespace CardReader.Flash

/-! ## Windows in failures -/

/-- A mode that cannot be driven is refused as such. -/
theorem BusMode.check_error {mode : BusMode} {features : BusFeatures} {failure : Failure}
    (h : mode.check features = .error failure) : failure = .busModeNotSupported := by
  rw [check] at h
  split at h
  · cases h
  · exact (Except.error.inj h).symm

namespace Failure

/-- The window that a failure names. -/
def window? : Failure → Option Nat
  | programTimeout window | programRefused window => some window
  | _ => none

end Failure

namespace Controller

variable {σ : Type} [Bus σ]

/-- A failure that named no window is reported under the window in which it happened. -/
theorem window?_programFailure {failure : Failure} {addr window : Nat}
    (h : failure.window? = none) (hwindow : (programFailure addr failure).window? = some window) :
    window = addr := by
  cases failure with
  | programTimeout | programRefused => cases h
  | commandTimeout | busyTimeout | dmaTimeout | fifoOverflow | dmaChannelBusy =>
    exact (Option.some.inj hwindow).symm
  | _ => cases hwindow

/-! ## Loops -/

/-- Sends one piece. -/
def sendPiece (config : ControllerConfig) (useDma : Bool) (piece : Piece) : Op σ Unit :=
  if useDma then programChunkDma config piece.addr piece.data
  else programChunk config piece.addr piece.data

/-- Every piece of the plan, sent after those before it, keeps an invariant over the pieces sent
or fails as `err` says. -/
structure Carries (config : ControllerConfig) (useDma : Bool) (plan : List Piece)
    (inv : List Piece → Rig σ → Prop) (err : Failure → Rig σ → Prop) : Prop where
  /-- A report changes nothing. -/
  report : ∀ sent rig event, inv sent rig →
    inv sent { rig with progress := rig.progress.push event }
  /-- A piece keeps the invariant. -/
  piece : ∀ sent piece rest rig, plan = sent ++ piece :: rest → inv sent rig →
    Op.Ends (sendPiece config useDma piece) rig (fun _ r => inv (sent ++ [piece]) r)
      (fun failure r => err (programFailure piece.window.start failure) r)

section Loops

variable {config : ControllerConfig} {useDma : Bool} {plan : List Piece}
  {inv : List Piece → Rig σ → Prop} {err : Failure → Rig σ → Prop}

theorem programChunks_cons (addr : Nat) (data : List UInt8) (list : List (List UInt8))
    (window : Window) :
    (programChunks config useDma addr (data :: list) : Op σ Unit) =
      sendPiece config useDma ⟨window, addr, data⟩ >>= fun _ =>
        programChunks config useDma (addr + data.length) list := by
  cases useDma <;> rfl

/-- The chunks of a window are sent one after another. -/
theorem ends_programChunks (hcarries : Carries config useDma plan inv err) {window : Window}
    (list : List (List UInt8)) :
    ∀ (addr : Nat) (sent rest : List Piece) (rig : Rig σ),
      plan = sent ++ (place window addr list ++ rest) → inv sent rig →
      Op.Ends (programChunks config useDma addr list) rig
        (fun _ r => inv (sent ++ place window addr list) r)
        (fun failure r => err (programFailure window.start failure) r) := by
  induction list with
  | nil =>
    intro addr sent rest rig _ hinv
    rw [place, List.append_nil]
    exact hinv
  | cons data list ih =>
    intro addr sent rest rig hplan hinv
    rw [programChunks_cons addr data list window, Op.ends_bind]
    refine (hcarries.piece sent ⟨window, addr, data⟩ _ rig hplan hinv).mono (fun _ r h => ?_)
      fun _ _ h => h
    rw [place, ← List.singleton_append, ← List.append_assoc]
    refine ih _ (sent ++ [⟨window, addr, data⟩]) rest r ?_ h
    rw [hplan, place, List.append_assoc]
    rfl

/-- A window sends its pieces. -/
theorem ends_programWindow (hcarries : Carries config useDma plan inv err) {window : Window}
    {size : Nat} {data : List UInt8} {sent rest : List Piece} {rig : Rig σ}
    (hplan : plan = sent ++ (windowPieces size window data ++ rest)) (hinv : inv sent rig) :
    Op.Ends (programWindow config useDma size window.start data) rig
      (fun count r => count = (windowPieces size window data).length ∧
        inv (sent ++ windowPieces size window data) r) err := by
  rw [programWindow, Op.ends_bind, Op.ends_mapFailure]
  refine (ends_programChunks hcarries _ window.start sent rest rig hplan hinv).mono
    (fun _ r h => ?_) fun _ _ h => h
  exact ⟨(length_place _ _).symm, h⟩

/-- The windows of a body send their pieces. -/
theorem ends_programWindows (hcarries : Carries config useDma plan inv err)
    {windows : PageWindows} :
    ∀ {data : List UInt8} {stats : ProgramStats} {sent rest : List Piece} {rig : Rig σ},
      data.length = windows.stop - windows.start →
      plan = sent ++ (bodyPieces (chunkSize useDma) windows.toList data ++ rest) → inv sent rig →
      Op.Ends (programWindows config useDma windows data stats) rig
        (fun after r => after = { stats with
            windows := stats.windows + windows.toList.length
            transfers := stats.transfers +
              (bodyPieces (chunkSize useDma) windows.toList data).length
            bytesProgrammed := stats.bytesProgrammed + data.length } ∧
          inv (sent ++ bodyPieces (chunkSize useDma) windows.toList data) r) err := by
  induction windows using PageWindows.toList.induct with
  | case1 windows hnext =>
    intro data stats sent rest rig hlength hplan hinv
    have hempty := PageWindows.next?_eq_none.1 hnext
    have hdata : data = [] := List.eq_nil_of_length_eq_zero (by omega)
    rw [programWindows, hnext, PageWindows.toList_of_le hempty, hdata]
    simp only [bodyPieces, List.append_nil, List.length_nil, Nat.add_zero]
    exact ⟨rfl, hinv⟩
  | case2 windows first left hnext ih =>
    intro data stats sent rest rig hlength hplan hinv
    obtain ⟨hlt, rfl, rfl⟩ := PageWindows.next?_eq_some hnext
    have hcut := PageWindows.lt_cut hlt
    have hstop := windows.cut_le
    rw [bodyPieces_of_lt hlt, List.append_assoc] at hplan
    rw [programWindows, hnext]
    simp only [Op.ends_bind, Op.ends_report]
    refine (ends_programWindow hcarries hplan hinv).mono ?_ fun _ _ h => h
    rintro count r ⟨rfl, h⟩
    have hrest : (data.drop (windows.cut - windows.start)).length = windows.stop - windows.cut := by
      rw [List.length_drop]
      omega
    refine (ih hrest (by rw [hplan, List.append_assoc]) (hcarries.report _ r _ h)).mono ?_
      fun _ _ h => h
    rintro after r' ⟨rfl, h'⟩
    rw [bodyPieces_of_lt hlt]
    refine ⟨?_, by rwa [← List.append_assoc]⟩
    have htaken : (data.take (windows.cut - windows.start)).length + (data.drop
        (windows.cut - windows.start)).length = data.length := by
      rw [← List.length_append, List.take_append_drop]
    rw [PageWindows.toList_of_lt hlt, List.length_cons, List.length_append, ← htaken]
    simp only [Window.length, ProgramStats.mk.injEq, true_and]
    refine ⟨?_, ?_, ?_⟩
    all_goals omega

/-- A padded tail sends its piece. -/
theorem ends_programTail (hcarries : Carries config useDma plan inv err) {addr : Nat}
    {tail : Option (List UInt8)} (stats : ProgramStats) {sent : List Piece} {rig : Rig σ}
    (hplan : plan = sent ++ tailPieces addr tail) (hinv : inv sent rig) :
    Op.Ends (programTail config useDma addr tail stats) rig
      (fun after r => after = { stats with
          tailTransfers := if tail.isSome then 1 else stats.tailTransfers
          bytesProgrammed := stats.bytesProgrammed + (tail.getD []).length } ∧
        inv (sent ++ tailPieces addr tail) r) err := by
  cases tail with
  | none =>
    rw [tailPieces, List.append_nil]
    exact ⟨rfl, hinv⟩
  | some block =>
    unfold programTail
    simp only [Op.ends_bind, Op.ends_report]
    have hwindow : plan = sent ++
        (windowPieces Cipher.blockSize ⟨addr, addr + block.length⟩ block ++ []) := by
      rw [List.append_nil]
      exact hplan
    refine (ends_programWindow hcarries hwindow hinv).mono ?_ fun _ _ h => h
    rintro count r ⟨rfl, h⟩
    exact ⟨rfl, hcarries.report _ r _ h⟩

end Loops

/-! ## Payloads -/

/-- What a program of this payload reports when it is complete. -/
def statsOf (base : Nat) (useDma : Bool) (enciphered : Cipher.Enciphered) : ProgramStats where
  windows := (⟨base, base + enciphered.body.length⟩ : PageWindows).toList.length
  transfers := transferCount (chunkSize useDma)
    (⟨base, base + enciphered.body.length⟩ : PageWindows).toList
  tailTransfers := if enciphered.tail.isSome then 1 else 0
  bytesProgrammed := enciphered.image.length

/-- The payload has passed the checks. -/
structure Passes (config : ControllerConfig) (base : Nat) (payload : List UInt8) (useDma : Bool)
    (cipher : CipherMode) (features : BusFeatures) : Prop where
  check_eq : checkProgram base payload cipher = .ok ()
  dma : useDma = true → features.dma = true
  mode : config.programMode.check features = .ok ()

section Payloads

variable {config : ControllerConfig} {base : Nat} {payload : List UInt8} {useDma : Bool}
  {cipher : CipherMode} {features : BusFeatures}

theorem checkProgram_eq (base : Nat) (payload : List UInt8) (cipher : CipherMode) :
    checkProgram base payload cipher =
      if base < addressSpace ∧ base + payload.length ≤ addressSpace then
        if cipher = .none then .ok ()
        else if base % Cipher.blockSize = 0 then
          checkRange base (Cipher.paddedLength payload.length cipher)
        else .error .invalidAlignment
      else .error .addressOutOfBounds := by
  rw [checkProgram, checkRange]
  by_cases hrange : base < addressSpace ∧ base + payload.length ≤ addressSpace
  · by_cases hcipher : cipher = .none
    · simp only [hrange, hcipher, and_self, if_true, ne_eq, not_true_eq_false, if_false]
      rfl
    · by_cases halign : base % Cipher.blockSize = 0
      · simp only [hrange, hcipher, halign, and_self, if_true, ne_eq, not_true_eq_false,
          not_false_eq_true, if_false]
        rfl
      · simp only [hrange, hcipher, halign, and_self, if_true, ne_eq, not_false_eq_true, if_false]
        rfl
  · rw [if_neg hrange, if_neg hrange]
    rfl

/-- A payload passes if it and its padding lie inside the address space, and starts at a block if
it is transformed. -/
theorem checkProgram_eq_ok_iff : checkProgram base payload cipher = .ok () ↔
    base < addressSpace ∧ base + Cipher.paddedLength payload.length cipher ≤ addressSpace ∧
      (cipher ≠ .none → base % Cipher.blockSize = 0) := by
  have hle := Cipher.length_le_paddedLength payload.length cipher
  rw [checkProgram_eq]
  by_cases hcipher : cipher = .none
  · subst hcipher
    have hpadded : Cipher.paddedLength payload.length .none = payload.length := rfl
    rw [hpadded]
    by_cases hrange : base < addressSpace ∧ base + payload.length ≤ addressSpace
    · rw [if_pos hrange]
      exact ⟨fun _ => ⟨hrange.1, hrange.2, fun h => absurd rfl h⟩, fun _ => rfl⟩
    · rw [if_neg hrange]
      exact ⟨nofun, fun h => absurd ⟨h.1, h.2.1⟩ hrange⟩
  · by_cases hrange : base < addressSpace ∧ base + payload.length ≤ addressSpace
    · rw [if_pos hrange, if_neg hcipher]
      by_cases halign : base % Cipher.blockSize = 0
      · rw [if_pos halign, checkRange_eq_ok_iff]
        exact ⟨fun h => ⟨h.1, h.2, fun _ => halign⟩, fun h => ⟨h.1, h.2.1⟩⟩
      · rw [if_neg halign]
        exact ⟨nofun, fun h => absurd (h.2.2 hcipher) halign⟩
    · rw [if_neg hrange]
      exact ⟨nofun, fun h => absurd ⟨h.1, by omega⟩ hrange⟩

/-- A payload is turned away for its range or for its alignment. -/
theorem checkProgram_error {failure : Failure}
    (h : checkProgram base payload cipher = .error failure) :
    failure = .addressOutOfBounds ∨ failure = .invalidAlignment := by
  have hrange : ∀ len, checkRange base len = .error failure → failure = .addressOutOfBounds := by
    intro len hlen
    rw [checkRange] at hlen
    split at hlen
    · cases hlen
    · exact (Except.error.inj hlen).symm
  rw [checkProgram_eq] at h
  split at h
  · split at h
    · cases h
    split at h
    · exact .inl (hrange _ h)
    · exact .inr (Except.error.inj h).symm
  · exact .inl (Except.error.inj h).symm

/-- A payload that is turned away names no window. -/
theorem window?_of_checkProgram {failure : Failure}
    (h : checkProgram base payload cipher = .error failure) : failure.window? = none := by
  obtain rfl | rfl := checkProgram_error h
  all_goals rfl

/-- The body of a payload that is not turned away lies inside the address space. -/
theorem ofRange_of_checkProgram (h : checkProgram base payload cipher = .ok ()) :
    PageWindows.ofRange base (Cipher.encipher payload cipher).body.length =
      .ok ⟨base, base + (Cipher.encipher payload cipher).body.length⟩ := by
  obtain ⟨hbase, hfit, -⟩ := checkProgram_eq_ok_iff.1 h
  have hbody := Cipher.length_body_le payload cipher
  have hpadded := Cipher.length_le_paddedLength payload.length cipher
  rw [PageWindows.ofRange, checkRange_eq_ok_iff.2 ⟨hbase, by omega⟩]
  rfl

/-- A payload that passes its checks has a tail that stays inside a page. -/
theorem Passes.tailFits (h : Passes config base payload useDma cipher features) :
    TailFits (base + (Cipher.encipher payload cipher).body.length)
      (Cipher.encipher payload cipher).tail := by
  refine ⟨fun block hblock => (Cipher.length_tail hblock).2, fun hsome => ?_⟩
  obtain ⟨block, hblock⟩ := Option.isSome_iff_exists.1 hsome
  have hmode := (Cipher.length_tail hblock).1
  have halign := (checkProgram_eq_ok_iff.1 h.check_eq).2.2 hmode
  rw [Cipher.length_body hmode]
  simp only [Cipher.blockSize, pageSize] at halign ⊢
  omega

/-- A plan has no more pieces than bytes. -/
theorem Passes.length_plan_le (h : Passes config base payload useDma cipher features) :
    (plan base useDma (Cipher.encipher payload cipher)).length ≤
      Cipher.paddedLength payload.length cipher := by
  have hproper : ∀ piece ∈ plan base useDma (Cipher.encipher payload cipher), piece.data ≠ [] :=
    fun piece hpiece => (mem_plan h.tailFits hpiece).2.1.nonempty
  have hlength := length_le_length_bytes hproper
  rwa [bytes_plan, Cipher.length_image] at hlength

/-- For anything but nothing there is a piece to send. -/
theorem plan_ne_nil (hpayload : payload ≠ []) :
    plan base useDma (Cipher.encipher payload cipher) ≠ [] := by
  intro hnone
  have hlength := Cipher.length_image payload cipher
  rw [← bytes_plan base useDma, hnone, bytes_nil, List.length_nil] at hlength
  have hpos := List.length_pos_iff.2 hpayload
  have hpadded := Cipher.length_le_paddedLength payload.length cipher
  omega

/-- A payload that passes is sent as planned. -/
theorem ends_program_of_passes {rig : Rig σ} {inv : List Piece → Rig σ → Prop}
    {err : Failure → Rig σ → Prop}
    (hpasses : Passes config base payload useDma cipher (Bus.features rig.bus)) (hinv : inv [] rig)
    (hcarries :
      Carries config useDma (plan base useDma (Cipher.encipher payload cipher)) inv err) :
    Op.Ends (program config base payload useDma cipher) rig
      (fun stats r => stats = statsOf base useDma (Cipher.encipher payload cipher) ∧
        inv (plan base useDma (Cipher.encipher payload cipher)) r) err := by
  obtain ⟨hcheck, hdma, hmode⟩ := hpasses
  have hrange := ofRange_of_checkProgram hcheck
  have hclaim : ¬(useDma && !(Bus.features rig.bus).dma) = true := by
    cases useDma with
    | false => simp
    | true => simp [hdma rfl]
  rw [program, Op.ends_bind, hcheck, Op.ends_check_ok, Op.ends_bind, Op.ends_inspect,
    if_neg hclaim]
  simp only [Op.ends_bind, Op.ends_report, Op.ends_pure, hmode, Op.ends_check_ok]
  generalize Cipher.encipher payload cipher = enciphered at *
  rw [hrange, Op.ends_check_ok]
  refine (ends_programWindows hcarries (by simp only; omega) rfl
    (hcarries.report _ _ _ hinv)).mono ?_ fun _ _ h => h
  rintro stats r ⟨rfl, h⟩
  refine (ends_programTail hcarries _ rfl h).mono ?_ fun _ _ h => h
  rintro stats r ⟨rfl, h⟩
  refine ⟨?_, hcarries.report _ _ _ h⟩
  rw [statsOf, Cipher.Enciphered.image, List.length_append,
    length_bodyPieces (chunkSize_pos useDma) (by simp only; omega)]
  simp

/-- A payload that does not pass is turned away before anything is sent. -/
theorem ends_program_of_not_passes {rig : Rig σ}
    (h : ¬Passes config base payload useDma cipher (Bus.features rig.bus)) :
    Op.Ends (program config base payload useDma cipher) rig (fun _ _ => False)
      (fun failure r => r = rig ∧ failure.window? = none) := by
  rw [program, Op.ends_bind, Op.ends_check]
  refine ⟨fun _ hcheck => ?_, fun failure h => ⟨rfl, window?_of_checkProgram h⟩⟩
  rw [Op.ends_bind, Op.ends_inspect]
  by_cases hdma : (useDma && !(Bus.features rig.bus).dma) = true
  · rw [if_pos hdma]
    exact ⟨rfl, rfl⟩
  rw [if_neg hdma, Op.ends_bind, Op.ends_check]
  refine ⟨fun _ hmode => (h ⟨hcheck, fun huse => ?_, hmode⟩).elim, fun failure hmode => ⟨rfl, ?_⟩⟩
  · rw [huse] at hdma
    simpa using hdma
  · rw [BusMode.check_error hmode]
    rfl

end Payloads

end Controller

end CardReader.Flash
