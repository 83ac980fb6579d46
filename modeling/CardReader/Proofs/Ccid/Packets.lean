import CardReader.Ccid.Reassembler

/-!
# Headers and packets of a command

A host sends the header of a command in the first of its packets, whatever the length of the
command, and every packet but the last is full.

What is proved here:

* `CommandHeader.parse?_bytes` — a header is read back as it was written, if its length fits the
  length field;
* `CommandHeader.parse?_take` — the header of a message is that of its first packet;
* `packets_of_lt`, `packets_of_le` and `length_packets` — the packets of a message one by one.
-/

namespace CardReader.Ccid

/-! ## Headers -/

/-- Numbers below this one fit the length field of a header. -/
def lengthLimit : Nat := 0x100000000

theorem number32_bytes {value : Nat} (h : value < lengthLimit) :
    number32 (UInt8.ofNat value) (UInt8.ofNat (value / 0x100)) (UInt8.ofNat (value / 0x10000))
      (UInt8.ofNat (value / 0x1000000)) = value := by
  simp only [lengthLimit] at h
  simp only [number32, UInt8.toNat_ofNat']
  omega

namespace CommandHeader

variable {bytes : List UInt8}

/-- A header is read back as it was written. -/
theorem parse?_bytes {header : CommandHeader} (h : header.length < lengthLimit)
    (rest : List UInt8) : parse? (header.bytes ++ rest) = some header := by
  simp [parse?, CommandHeader.bytes, bytes32, CommandParams.bytes, number32_bytes h]

theorem length_bytes (header : CommandHeader) : header.bytes.length = headerSize := rfl

/-- Ten bytes make a header, and fewer do not. -/
theorem isSome_parse? : (parse? bytes).isSome ↔ headerSize ≤ bytes.length := by
  unfold parse?
  split
  · simp [headerSize]
  · rename_i hshort
    refine iff_of_false (by simp) fun hlong => ?_
    match bytes, hlong with
    | _ :: _ :: _ :: _ :: _ :: _ :: _ :: _ :: _ :: _ :: _, _ => exact hshort _ _ _ _ _ _ _ _ _ _ _ rfl

theorem exists_parse? (h : headerSize ≤ bytes.length) : ∃ header, parse? bytes = some header :=
  Option.isSome_iff_exists.1 (isSome_parse?.2 h)

/-- What comes after the header does not matter. -/
theorem parse?_append (h : headerSize ≤ bytes.length) (rest : List UInt8) :
    parse? (bytes ++ rest) = parse? bytes := by
  match bytes, h with
  | _ :: _ :: _ :: _ :: _ :: _ :: _ :: _ :: _ :: _ :: _, _ => rfl

/-- The header of a message is that of its first packet. -/
theorem parse?_take {size : Nat} (hsize : headerSize ≤ size) (h : headerSize ≤ bytes.length) :
    parse? (bytes.take size) = parse? bytes := by
  have htake : headerSize ≤ (bytes.take size).length := by
    rw [List.length_take]
    omega
  rw [← parse?_append htake (bytes.drop size), List.take_append_drop]

end CommandHeader

/-! ## Packets -/

theorem packets_of_lt {message : List UInt8} (h : message.length < packetSize) :
    packets message = [message] := by
  rw [packets, if_neg (Nat.not_le.2 h)]

theorem packets_of_le {message : List UInt8} (h : packetSize ≤ message.length) :
    packets message = message.take packetSize :: packets (message.drop packetSize) := by
  rw [packets, if_pos h]

/-- One packet for every full packet size, and a short one. -/
theorem length_packets (message : List UInt8) :
    (packets message).length = message.length / packetSize + 1 := by
  fun_induction packets message with
  | case1 message hfull ih =>
    rw [List.length_cons, ih, List.length_drop]
    simp only [packetSize] at hfull ⊢
    omega
  | case2 message hshort =>
    rw [List.length_singleton, Nat.div_eq_of_lt (Nat.not_le.1 hshort)]

/-- A message has a first packet. -/
theorem exists_packets_eq_cons (message : List UInt8) :
    ∃ packet rest, packets message = packet :: rest ∧ packet.length ≤ packetSize ∧
      rest.length = message.length / packetSize := by
  have hlength := length_packets message
  by_cases h : packetSize ≤ message.length
  · rw [packets_of_le h, List.length_cons, Nat.add_left_inj] at hlength
    exact ⟨_, _, packets_of_le h, List.length_take_le _ _, hlength⟩
  · have hshort := Nat.not_le.1 h
    exact ⟨_, _, packets_of_lt hshort, Nat.le_of_lt hshort, (Nat.div_eq_of_lt hshort).symm⟩

end CardReader.Ccid
