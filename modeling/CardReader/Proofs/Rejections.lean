import CardReader.Proofs.Program.Run
import CardReader.Proofs.Reachable

/-!
# Rejected requests

A request whose range leaves the address space, whose address is not aligned or whose bus mode the
controller cannot drive is rejected before the first call that could change the part.  Once a call
is under way it cannot fail in one of these ways any more, whatever state the part is in: the
commands that it sends go out in modes that have been checked, and no call of the bus looks at an
address.

What is proved here:

* `underWayWalk` and `ends_underWay` — how operations can fail once the checks before them have been
  passed;
* `rejectsFirst_run` — a call that rejects its request has left everything as it was;
* `rejected_untouched` — this, and that every request outside the address space is rejected.
-/

namespace CardReader

open Flash

namespace Flash

/-! ## Failures on the way -/

namespace Failure

/-- The request itself cannot be met: its range, its alignment or its bus mode. -/
def isRejection : Failure → Bool
  | addressOutOfBounds | invalidAlignment | busModeNotSupported => true
  | _ => false

/-- A failure that a call meets on its way: it rejects no request, and there is no DMA path only
where the part has no such channel. -/
structure UnderWay (before : Part) (channel : Nat) (failure : Failure) : Prop where
  not_rejection : failure.isRejection = false
  no_channel : failure = .dmaNotSupported → before.config.dmaChannels ≤ channel

variable {before : Part} {channel : Nat} {failure : Failure}

/-- Most failures have nothing to do with the request or with a DMA path. -/
theorem underWay_of_ne (hrejection : failure.isRejection = false)
    (hdma : failure ≠ .dmaNotSupported) : failure.UnderWay before channel :=
  ⟨hrejection, fun h => absurd h hdma⟩

/-- A failure under the name of a window is a rejection only if it was one before. -/
theorem isRejection_programFailure (window : Nat) (failure : Failure) :
    (Controller.programFailure window failure).isRejection = failure.isRejection := by
  cases failure <;> rfl

theorem programFailure_eq_dmaNotSupported_iff {window : Nat} :
    Controller.programFailure window failure = .dmaNotSupported ↔ failure = .dmaNotSupported := by
  constructor
  · intro h
    cases failure with
    | dmaNotSupported => rfl
    | _ => cases h
  · rintro rfl
    rfl

theorem UnderWay.program (h : failure.UnderWay before channel) (window : Nat) :
    (Controller.programFailure window failure).UnderWay before channel :=
  ⟨(isRejection_programFailure window failure).trans h.not_rejection,
    fun hdma => h.no_channel (programFailure_eq_dmaNotSupported_iff.1 hdma)⟩

theorem UnderWay.erase (h : failure.UnderWay before channel) (addr : Nat) :
    (Controller.eraseFailure addr failure).UnderWay before channel := by
  cases failure with
  | commandTimeout | busyTimeout => exact underWay_of_ne rfl nofun
  | _ => exact h

end Failure

namespace Controller

/-! ## Operations under way -/

section UnderWay

variable {config : ControllerConfig} {before : Part}

/-- What an operation can fail with that is under way. -/
def underWayTerms (before : Part) (channel : Nat) : Terms where
  before := before
  Allows := Failure.UnderWay before channel
  allows_of_isTimeout {failure} h := by
    cases failure with
    | commandTimeout | busyTimeout | dmaTimeout | eraseTimeout | programTimeout =>
      exact Failure.underWay_of_ne rfl nofun
    | _ => cases h

def underWayWalk (config : ControllerConfig) (before : Part) : Walk Part Part config :=
  (underWayTerms before config.dmaChannel).walk config (fun _ window h => h.program window)
    (fun hchannel => ⟨rfl, fun _ => hchannel⟩) fun _ => Failure.underWay_of_ne rfl nofun

theorem underWay_fifoOverflow {channel : Nat} :
    Failure.fifoOverflow.UnderWay before channel := Failure.underWay_of_ne rfl nofun

variable {rig : Rig Part}

theorem ends_underWay {α : Type} {n : Nat} {op : Op Part α}
    (h : (underWayWalk config rig.bus).Rel n op op) :
    op.Ends rig (fun _ _ => True) fun failure _ => failure.UnderWay rig.bus config.dmaChannel := by
  have hends : op.Ends rig _ fun failure _ => failure.UnderWay rig.bus config.dmaChannel :=
    Op.Respects.ends_error h rfl
  exact hends.imp fun _ _ _ => trivial

/-- A program that has passed its checks is under way. -/
theorem ends_program_underWay {base : Nat} {payload : List UInt8} {useDma : Bool}
    {cipher : CipherMode}
    (hpasses : Passes config base payload useDma cipher (Bus.features rig.bus)) :
    Op.Ends (program config base payload useDma cipher) rig (fun _ _ => True)
      fun failure _ => failure.UnderWay rig.bus config.dmaChannel :=
  ends_underWay <| (underWayWalk config rig.bus).rel_program
    (Op.Rules.accepts_of_ok _ hpasses.check_eq) (Terms.acceptsMode_of_ok hpasses.mode)
    fun _ _ _ => .inl underWay_fifoOverflow

end UnderWay

/-! ## Rejections -/

/-- If the operation rejects its request, it has left the rig as it was. -/
def RejectsFirst {α : Type} (op : Op Part α) (rig : Rig Part) : Prop :=
  Op.Ends op rig (fun _ _ => True) fun failure r => failure.isRejection = true → r = rig

section Rejections

variable {config : ControllerConfig} {α β : Type} {rig : Rig Part} {n : Nat}

/-- What is under way rejects nothing. -/
theorem rejectsFirst_of_underWay {op : Op Part α} (h : op.Ends rig (fun _ _ => True)
      fun failure _ => failure.UnderWay rig.bus config.dmaChannel) : RejectsFirst op rig := by
  refine h.mono (fun _ _ _ => trivial) ?_
  intro failure r hfailure hrejection
  rw [hfailure.not_rejection] at hrejection
  cases hrejection

/-- A check changes nothing, and what follows it may rely on it. -/
theorem rejectsFirst_check_bind {outcome : Except Failure β} {next : β → Op Part α}
    (hnext : ∀ b, outcome = .ok b → RejectsFirst (next b) rig) :
    RejectsFirst (Op.check outcome >>= next) rig :=
  Op.ends_bind.2 ((Op.ends_check outcome).2 ⟨hnext, fun _ _ _ => rfl⟩)

theorem rejectsFirst_inspect_bind {view : Part → β} {next : β → Op Part α}
    (hnext : RejectsFirst (next (view rig.bus)) rig) :
    RejectsFirst (Op.inspect view >>= next) rig := Op.ends_bind.2 hnext

theorem rejectsFirst_discard {op : Op Part α} (h : RejectsFirst op rig) :
    RejectsFirst (op >>= fun _ => pure ()) rig :=
  Op.ends_bind.2 (h.mono (fun _ _ _ => trivial) fun _ _ hfailure => hfailure)

theorem rejectsFirst_program (config : ControllerConfig) (base : Nat) (payload : List UInt8)
    (useDma : Bool) (cipher : CipherMode) (rig : Rig Part) :
    RejectsFirst (program config base payload useDma cipher) rig := by
  by_cases hpasses : Passes config base payload useDma cipher (Bus.features rig.bus)
  · exact rejectsFirst_of_underWay (ends_program_underWay hpasses)
  · exact (ends_program_of_not_passes hpasses).mono (fun _ _ h => h.elim) fun _ _ h _ => h.1

/-- A page is streamed once its mode has been checked. -/
theorem rejectsFirst_streamPage (config : ControllerConfig) (addr : Nat) (payload : List UInt8)
    (rig : Rig Part) : RejectsFirst (streamPage config addr payload) rig := by
  by_cases hmode : config.programMode.check rig.bus.features = .ok ()
  · exact rejectsFirst_of_underWay <| ends_underWay ((underWayWalk config rig.bus).rel_streamPage
      (Terms.acceptsMode_of_ok hmode) (fun _ _ _ _ => .inl underWay_fifoOverflow) addr payload)
  · exact rejectsFirst_inspect_bind (rejectsFirst_check_bind fun _ h => absurd h hmode)

theorem rejectsFirst_programOnePage (config : ControllerConfig) (addr : Nat) (payload : List UInt8)
    (rig : Rig Part) : RejectsFirst (programOnePage config addr payload) rig := by
  rw [programOnePage_eq]
  refine rejectsFirst_check_bind fun _ _ => ?_
  split
  · exact fun _ => rfl
  split
  · trivial
  · refine (Op.ends_mapFailure _).2 ((rejectsFirst_streamPage config addr payload rig).mono
      (fun _ _ _ => trivial) ?_)
    intro failure r hspared hrejection
    rw [Failure.isRejection_programFailure] at hrejection
    exact hspared hrejection

theorem rejectsFirst_read (config : ControllerConfig) (addr len : Nat) (rig : Rig Part) :
    RejectsFirst (read config addr len) rig := by
  refine rejectsFirst_check_bind fun _ _ => rejectsFirst_inspect_bind
    (rejectsFirst_check_bind fun _ hmode => rejectsFirst_inspect_bind ?_)
  exact rejectsFirst_of_underWay <| ends_underWay ((underWayWalk config rig.bus).rel_readPieces
    ⟨rig.bus, ⟨rig, rfl, rfl⟩, hmode⟩
    (fun _ _ => .inl ⟨underWay_fifoOverflow, Failure.underWay_of_ne rfl nofun⟩) _ _ _)

/-- Whatever is called, a request that is rejected has changed nothing. -/
theorem rejectsFirst_run (config : ControllerConfig) (call : Call) (rig : Rig Part) :
    RejectsFirst (call.run config) rig := by
  -- the calls without checks of their own are under way from the start
  have hfree (hpasses : (underWayWalk config rig.bus).Passes call)
      (hmode : ∀ mode, call = .softReset mode → mode.check rig.bus.features = .ok ()) :
      RejectsFirst (call.run config) rig := rejectsFirst_of_underWay <| ends_underWay <|
    (underWayWalk config rig.bus).rel_run hpasses fun _ hcommand =>
      Terms.sends_of_mem_commands hcommand fun mode h => .inr (hmode mode h)
  cases call with
  | program base payload useDma cipher =>
    exact rejectsFirst_discard (rejectsFirst_program config base payload useDma cipher rig)
  | programOnePage addr payload => exact rejectsFirst_programOnePage config addr payload rig
  | read addr len => exact rejectsFirst_discard (rejectsFirst_read config addr len rig)
  | erase unit addr =>
    by_cases haddr : unit ≠ .chip → checkAddress addr = .ok ()
    · refine hfree ⟨fun hunit => ?_, fun addr _ h => h.erase addr⟩ nofun
      exact Op.Rules.accepts_of_ok _ (haddr hunit)
    · cases unit with
      | chip => exact absurd nofun haddr
      | _ => exact rejectsFirst_check_bind fun _ h => absurd (fun _ => h) haddr
  | softReset mode =>
    by_cases hmode : mode.check rig.bus.features = .ok ()
    · refine hfree (Terms.acceptsMode_of_ok hmode) ?_
      rintro _ ⟨⟩
      exact hmode
    · exact rejectsFirst_inspect_bind (rejectsFirst_check_bind fun _ h => absurd h hmode)
  | _ => exact hfree trivial nofun

end Rejections

/-! ## Ranges -/

/-- A range that does not lie in the address space.  An empty one still has to start inside it. -/
def LeavesSpace (start len : Nat) : Prop :=
  ¬(start < addressSpace ∧ start + len ≤ addressSpace)

/-- The ranges of a call, where they start and how long they are: that of its data, that of its data
with padding, and for an erase the byte at its address. -/
def Call.ranges : Call → List (Nat × Nat)
  | .program base payload _ cipher =>
    [(base, payload.length), (base, Cipher.paddedLength payload.length cipher)]
  | .programOnePage addr payload => [(addr, payload.length)]
  | .read addr len => [(addr, len)]
  | .erase .sector addr | .erase .block32 addr | .erase .block64 addr => [(addr, 1)]
  | _ => []

/-- The operation turns its request away at once, for its range or for its alignment. -/
def TurnsAway {α : Type} (op : Op Part α) (rig : Rig Part) : Prop :=
  ∃ failure, op rig = (.error failure, rig) ∧
    (failure = .addressOutOfBounds ∨ failure = .invalidAlignment)

section Ranges

variable {α β : Type} {rig : Rig Part} {start len : Nat}

theorem turnsAway_check_bind {outcome : Except Failure β} {next : β → Op Part α}
    (h : outcome = .error .addressOutOfBounds ∨ outcome = .error .invalidAlignment) :
    TurnsAway (Op.check outcome >>= next) rig := by
  obtain rfl | rfl := h
  · exact ⟨.addressOutOfBounds, rfl, .inl rfl⟩
  · exact ⟨.invalidAlignment, rfl, .inr rfl⟩

theorem turnsAway_discard {op : Op Part α} (h : TurnsAway op rig) :
    TurnsAway (op >>= fun _ => pure ()) rig := by
  obtain ⟨failure, hrun, hreason⟩ := h
  refine ⟨failure, ?_, hreason⟩
  show Op.bind op _ rig = _
  rw [Op.bind, hrun]

theorem checkRange_of_leaves (h : LeavesSpace start len) :
    checkRange start len = .error .addressOutOfBounds := if_neg h

theorem checkAddress_of_leaves (h : LeavesSpace start 1) :
    checkAddress start = .error .addressOutOfBounds :=
  if_neg fun hstart => h ⟨hstart, Nat.succ_le_of_lt hstart⟩

/-- A payload whose range or whose padded range leaves the address space is turned away, if not for
its range then for its alignment. -/
theorem checkProgram_of_leaves {base : Nat} {payload : List UInt8} {cipher : CipherMode}
    (h : LeavesSpace base payload.length ∨
      LeavesSpace base (Cipher.paddedLength payload.length cipher)) :
    checkProgram base payload cipher = .error .addressOutOfBounds ∨
      checkProgram base payload cipher = .error .invalidAlignment := by
  rw [checkProgram_eq]
  by_cases hrange : base < addressSpace ∧ base + payload.length ≤ addressSpace
  · rw [if_pos hrange]
    have hpadded : LeavesSpace base (Cipher.paddedLength payload.length cipher) :=
      h.resolve_left fun hleaves => hleaves hrange
    by_cases hcipher : cipher = .none
    · subst hcipher
      exact absurd hrange hpadded
    · rw [if_neg hcipher]
      split
      · exact .inl (checkRange_of_leaves hpadded)
      · exact .inr rfl
  · rw [if_neg hrange]
    exact .inl rfl

/-- A call with a range outside the address space is turned away at once. -/
theorem turnsAway_run (config : ControllerConfig) {call : Call} (rig : Rig Part)
    (hmem : (start, len) ∈ call.ranges) (hleaves : LeavesSpace start len) :
    TurnsAway (call.run config) rig := by
  cases call with
  | program base payload useDma cipher =>
    have heither : LeavesSpace base payload.length ∨
        LeavesSpace base (Cipher.paddedLength payload.length cipher) := by
      simp only [Call.ranges, List.mem_cons, Prod.mk.injEq, List.not_mem_nil, or_false] at hmem
      obtain ⟨rfl, rfl⟩ | ⟨rfl, rfl⟩ := hmem
      · exact .inl hleaves
      · exact .inr hleaves
    exact turnsAway_discard (turnsAway_check_bind (checkProgram_of_leaves heither))
  | programOnePage addr payload =>
    cases List.mem_singleton.1 hmem
    exact turnsAway_check_bind (.inl (checkRange_of_leaves hleaves))
  | read addr count =>
    cases List.mem_singleton.1 hmem
    exact turnsAway_discard (turnsAway_check_bind (.inl (checkRange_of_leaves hleaves)))
  | erase unit addr =>
    cases unit with
    | chip => cases hmem
    | sector | block32 | block64 =>
      cases List.mem_singleton.1 hmem
      exact turnsAway_check_bind (.inl (checkAddress_of_leaves hleaves))
  | _ => cases hmem

end Ranges

/-! ## Rejected requests -/

/-- Whatever state a part is in, a call that rejects its request, for its range, its alignment or
its bus mode, has changed nothing: not the part with its log, not the clock, and it has reported no
progress.  And a call of which a range leaves the address space is rejected. -/
theorem rejected_untouched (config : ControllerConfig) (call : Call) (rig : Rig Part) :
    (∀ failure after, call.run config rig = (.error failure, after) →
      failure = .addressOutOfBounds ∨ failure = .invalidAlignment ∨
        failure = .busModeNotSupported → after = rig) ∧
    ∀ start len, (start, len) ∈ call.ranges →
      ¬(start < addressSpace ∧ start + len ≤ addressSpace) →
      ∃ failure, call.run config rig = (.error failure, rig) ∧
        (failure = .addressOutOfBounds ∨ failure = .invalidAlignment) := by
  constructor
  · intro failure after hrun hreason
    have hrejection : failure.isRejection = true := by
      obtain rfl | rfl | rfl := hreason
      all_goals rfl
    exact (Op.ends_of_error hrun).1 (rejectsFirst_run config call rig) hrejection
  · intro start len hmem hleaves
    exact turnsAway_run config rig hmem hleaves

/-- In the middle of a streamed page, with a channel claimed, a reset on four lines and a payload
of which only the padding leaves the address space are rejected, and the page waits on. -/
theorem rejected_untouched_in_stream :
    let part : Part :=
      { Part.new { size := 16, quad := false } with
        busyUntil := 5
        dma := some { channel := 0 }
        transaction := some (.streaming 0 4 [0x7F]) }
    let rig : Rig Part := { bus := part, clock := .start, progress := #[.programming 4] }
    let reset : Call := .softReset .quadIo
    let call : Call := .program 0xFFFFF0 [1, 2, 3, 4] false .modeA
    (reset.run {} rig).1 = .error .busModeNotSupported ∧ (reset.run {} rig).2 = rig ∧
      (0xFFFFF0, 32) ∈ call.ranges ∧
      ¬(0xFFFFF0 < addressSpace ∧ 0xFFFFF0 + 32 ≤ addressSpace) ∧
      ∃ failure, call.run {} rig = (.error failure, rig) ∧
        (failure = .addressOutOfBounds ∨ failure = .invalidAlignment) := by
  intro part rig reset call
  have hreset : (reset.run {} rig).1 = .error .busModeNotSupported := rfl
  have hmem : (0xFFFFF0, 32) ∈ call.ranges := by decide
  have hleaves : ¬(0xFFFFF0 < addressSpace ∧ 0xFFFFF0 + 32 ≤ addressSpace) := by decide
  refine ⟨hreset, ?_, hmem, hleaves, (rejected_untouched {} call rig).2 _ _ hmem hleaves⟩
  exact (rejected_untouched {} reset rig).1 _ _ (Prod.ext hreset rfl) (.inr (.inr rfl))

end Controller

end Flash

end CardReader
