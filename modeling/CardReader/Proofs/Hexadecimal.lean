import CardReader.Text.Hex
import CardReader.Text.Unsigned

/-!
# Reading hexadecimal text

Hexadecimal text is read by its bytes, while what it means is a matter of its characters: the
digits of a byte string, two each, with white space anywhere between them.  The two agree because
a character beyond ASCII has no byte in common with a digit or with white space.

The reader takes one liberty.  Each pair is read as a numeral, and a numeral may have a plus sign,
so that a plus sign in the first place of a pair is read like the digit zero.

What is proved here:

* `significant_eq` — dropping white space by bytes and by characters comes to the same;
* `pairs?_eq_some_iff` — which characters are read, and as what;
* `parse_eq_ok_iff` — the same of the reader, and its limits: text without a plus sign is read if
  and only if it is made of pairs of digits, and what has been written is read back;
* `parse_plus` — text that is read although it is not hexadecimal.
-/

namespace CardReader.Hex

open String (utf8EncodeChar)

/-! ## Characters -/

/-- Space, tab, line feed, form feed and carriage return. -/
def isBlankChar (c : Char) : Bool :=
  c == ' ' || c == '\t' || c == '\n' || c == '\x0c' || c == '\r'

/-- The characters of a text that are not white space. -/
def characters (text : String) : List Char := text.toList.filter fun c => !isBlankChar c

/-- The value of a hexadecimal digit in either case. -/
abbrev digit? (c : Char) : Option Nat := Unsigned.digit? 16 c

/-- The characters are the digits of a byte string, two for each byte. -/
inductive Spells : List Char → List UInt8 → Prop
  /-- No digits spell no bytes. -/
  | nil : Spells [] []
  /-- The first two digits spell the first byte. -/
  | cons {high low : Char} {rest : List Char} {sixteens units : Nat} {bytes : List UInt8}
    (high_eq : digit? high = some sixteens) (low_eq : digit? low = some units)
    (spells : Spells rest bytes) :
    Spells (high :: low :: rest) (UInt8.ofNat (16 * sixteens + units) :: bytes)

/-- The characters with a zero for every plus sign that stands first in its pair. -/
def unsigned : List Char → List Char
  | high :: low :: rest => (if high = '+' then '0' else high) :: low :: unsigned rest
  | rest => rest

variable {c high low : Char} {chars : List Char} {byte : UInt8} {bytes : List UInt8}

/-- Lists are cut into pairs. -/
theorem pairs_induction {α : Type} {motive : List α → Prop} (nil : motive [])
    (single : ∀ a, motive [a]) (pair : ∀ a b rest, motive rest → motive (a :: b :: rest)) :
    ∀ list, motive list
  | [] => nil
  | [a] => single a
  | a :: b :: rest => pair a b rest (pairs_induction nil single pair rest)

theorem unsigned_of_not_mem (h : '+' ∉ chars) : unsigned chars = chars := by
  induction chars using pairs_induction with
  | nil => rfl
  | single c => rfl
  | pair high low rest ih =>
    simp only [List.mem_cons, not_or] at h
    rw [unsigned, ih h.2.2, if_neg (Ne.symm h.1)]

/-- An even number of digits spells something, and nothing else does. -/
theorem exists_spells_iff : (∃ bytes, Spells chars bytes) ↔
    chars.length % 2 = 0 ∧ ∀ c ∈ chars, (digit? c).isSome := by
  induction chars using pairs_induction with
  | nil => exact iff_of_true ⟨[], .nil⟩ ⟨rfl, nofun⟩
  | single c => exact iff_of_false nofun nofun
  | pair high low rest ih =>
    have hlength : (high :: low :: rest).length % 2 = 0 ↔ rest.length % 2 = 0 := by
      simp only [List.length_cons]
      omega
    rw [hlength, List.forall_mem_cons, List.forall_mem_cons]
    constructor
    · rintro ⟨bytes, hspells⟩
      cases hspells with
      | cons high_eq low_eq spells =>
        obtain ⟨heven, hrest⟩ := ih.1 ⟨_, spells⟩
        exact ⟨heven, by rw [high_eq]; rfl, by rw [low_eq]; rfl, hrest⟩
    · rintro ⟨heven, hhigh, hlow, hrest⟩
      obtain ⟨sixteens, high_eq⟩ := Option.isSome_iff_exists.1 hhigh
      obtain ⟨units, low_eq⟩ := Option.isSome_iff_exists.1 hlow
      obtain ⟨bytes, hspells⟩ := ih.2 ⟨heven, hrest⟩
      exact ⟨_, .cons high_eq low_eq hspells⟩

/-! ## Characters and their bytes -/

/-- The byte of an ASCII character. -/
def asciiByte (c : Char) : UInt8 := UInt8.ofNat c.toNat

theorem toNat_asciiByte (h : c.toNat < 128) : (asciiByte c).toNat = c.toNat := by
  rw [asciiByte, UInt8.toNat_ofNat']
  omega

theorem utf8EncodeChar_of_ascii (h : c.toNat < 128) : utf8EncodeChar c = [asciiByte c] := by
  have hle : c.val.toNat ≤ 127 := Nat.le_of_lt_succ h
  simp only [utf8EncodeChar, if_pos hle]
  rfl

/-- A character beyond ASCII has no ASCII byte. -/
theorem le_of_mem_utf8EncodeChar (h : 128 ≤ c.toNat)
    (hmem : byte ∈ utf8EncodeChar c) : 128 ≤ byte.toNat := by
  have hlarge : ¬c.val.toNat ≤ 127 := Nat.not_le.2 h
  simp only [utf8EncodeChar, if_neg hlarge] at hmem
  split at hmem
  · simp only [List.mem_cons, List.not_mem_nil, or_false] at hmem
    rcases hmem with rfl | rfl
    all_goals
      rw [UInt8.toNat_ofNat']
      omega
  split at hmem
  · simp only [List.mem_cons, List.not_mem_nil, or_false] at hmem
    rcases hmem with rfl | rfl | rfl
    all_goals
      rw [UInt8.toNat_ofNat']
      omega
  · simp only [List.mem_cons, List.not_mem_nil, or_false] at hmem
    rcases hmem with rfl | rfl | rfl | rfl
    all_goals
      rw [UInt8.toNat_ofNat']
      omega

/-- ASCII characters are told apart by their bytes. -/
theorem asciiByte_beq {d : Char} (h : c.toNat < 128) (hd : d.toNat < 128) :
    (asciiByte c == asciiByte d) = (c == d) := by
  rw [Bool.eq_iff_iff, beq_iff_eq, beq_iff_eq, ← UInt8.toNat_inj, toNat_asciiByte h,
    toNat_asciiByte hd]
  exact Char.toNat_inj

theorem isBlank_asciiByte (h : c.toNat < 128) : isBlank (asciiByte c) = isBlankChar c := by
  rw [isBlankChar, ← asciiByte_beq h (by decide : ' '.toNat < 128),
    ← asciiByte_beq h (by decide : '\t'.toNat < 128),
    ← asciiByte_beq h (by decide : '\n'.toNat < 128),
    ← asciiByte_beq h (by decide : '\x0c'.toNat < 128),
    ← asciiByte_beq h (by decide : '\r'.toNat < 128)]
  rfl

theorem isBlank_of_le (h : 128 ≤ byte.toNat) : isBlank byte = false := by
  have hne {other : UInt8} (hother : other.toNat < 128) : (byte == other) = false := by
    rw [beq_eq_false_iff_ne]
    rintro rfl
    omega
  simp only [isBlank, hne (by decide : (32 : UInt8).toNat < 128),
    hne (by decide : (9 : UInt8).toNat < 128), hne (by decide : (10 : UInt8).toNat < 128),
    hne (by decide : (12 : UInt8).toNat < 128), hne (by decide : (13 : UInt8).toNat < 128),
    Bool.or_self]

theorem isBlankChar_of_le (h : 128 ≤ c.toNat) : isBlankChar c = false := by
  have hne {other : Char} (hother : other.toNat < 128) : (c == other) = false := by
    rw [beq_eq_false_iff_ne]
    rintro rfl
    omega
  simp only [isBlankChar, hne (by decide : ' '.toNat < 128),
    hne (by decide : '\t'.toNat < 128), hne (by decide : '\n'.toNat < 128),
    hne (by decide : '\x0c'.toNat < 128), hne (by decide : '\r'.toNat < 128), Bool.or_self]

/-- A character is white space if its byte is, and no part of one that is not. -/
theorem filter_utf8EncodeChar (c : Char) :
    (utf8EncodeChar c).filter (fun byte => !isBlank byte) =
      if isBlankChar c then [] else utf8EncodeChar c := by
  by_cases h : c.toNat < 128
  · rw [utf8EncodeChar_of_ascii h, List.filter_cons, List.filter_nil, isBlank_asciiByte h]
    cases isBlankChar c <;> rfl
  · have hlarge := Nat.le_of_not_lt h
    rw [isBlankChar_of_le hlarge, if_neg Bool.false_ne_true, List.filter_eq_self]
    intro byte hmem
    rw [isBlank_of_le (le_of_mem_utf8EncodeChar hlarge hmem)]
    rfl

/-- The bytes that are read are those of the characters that are not white space. -/
theorem significant_eq (text : String) :
    significant text = (characters text).flatMap utf8EncodeChar := by
  have hbytes : text.toUTF8.data.toList = text.toList.flatMap utf8EncodeChar := by
    rw [show text.toUTF8 = text.toList.utf8Encode from String.utf8Encode_toList.symm]
    exact List.toList_data_toByteArray
  rw [significant, hbytes, characters]
  induction text.toList with
  | nil => rfl
  | cons c rest ih =>
    rw [List.flatMap_cons, List.filter_append, ih, filter_utf8EncodeChar, List.filter_cons]
    cases isBlankChar c <;> rfl

/-! ## Digits and pairs -/

theorem digitValue?_asciiByte (h : c.toNat < 128) : digitValue? (asciiByte c) = digit? c := by
  simp only [digitValue?, toNat_asciiByte h, Unsigned.digit?]
  split
  · rw [Option.filter_some, if_pos (by simp; omega)]
  split
  · rw [if_pos (by omega), Option.filter_some, if_pos (by simp; omega)]
  split
  · rw [if_neg (by omega), if_pos (by omega), Option.filter_some, if_pos (by simp; omega)]
  · split
    · rw [Option.filter_some, if_neg (by simp; omega)]
    split
    · rw [Option.filter_some, if_neg (by simp; omega)]
    · rfl

/-- Digits are ASCII characters. -/
theorem lt_of_digit? (h : (digit? c).isSome) : c.toNat < 128 := by
  by_cases hsmall : c.toNat < 128
  · exact hsmall
  · simp only [Unsigned.digit?] at h
    rw [if_neg (by omega), if_neg (by omega), if_neg (by omega)] at h
    cases h

theorem lt_of_digitValue? (h : (digitValue? byte).isSome) : byte.toNat < 128 := by
  by_cases hsmall : byte.toNat < 128
  · exact hsmall
  · simp only [digitValue?] at h
    rw [if_neg (by omega), if_neg (by omega), if_neg (by omega)] at h
    cases h

/-- A pair of characters is read as two digits, a plus sign in the first place as a zero. -/
theorem pairValue?_asciiByte (hhigh : high.toNat < 128) (hlow : low.toNat < 128) :
    pairValue? (asciiByte high) (asciiByte low) = some byte ↔
      ∃ sixteens units, digit? (if high = '+' then '0' else high) = some sixteens ∧
        digit? low = some units ∧ byte = UInt8.ofNat (16 * sixteens + units) := by
  have hplus : asciiByte high = 43 ↔ high = '+' := by
    have h := asciiByte_beq hhigh (by decide : '+'.toNat < 128)
    rw [Bool.eq_iff_iff, beq_iff_eq, beq_iff_eq] at h
    exact h
  simp only [pairValue?, digitValue?_asciiByte hhigh, digitValue?_asciiByte hlow, hplus]
  cases digit? low with
  | none => simp
  | some units =>
    by_cases hsign : high = '+'
    · have hzero : digit? '0' = some 0 := by decide
      simp [hsign, hzero, eq_comm]
    · simp only [if_neg hsign, Option.map_eq_some_iff, Option.some.injEq]
      constructor
      · rintro ⟨sixteens, high_eq, rfl⟩
        exact ⟨sixteens, units, high_eq, rfl, rfl⟩
      · rintro ⟨sixteens, _, high_eq, rfl, rfl⟩
        exact ⟨sixteens, high_eq, rfl⟩

theorem pairsOnto?_eq (list : List UInt8) :
    ∀ done, pairsOnto? done list = (pairs? list).map (done.reverse ++ ·) := by
  induction list using pairs_induction with
  | nil => simp [pairs?, pairsOnto?]
  | single byte => simp [pairs?, pairsOnto?]
  | pair high low rest ih =>
    intro done
    rw [pairs?, pairsOnto?, pairsOnto?]
    cases pairValue? high low with
    | none => rfl
    | some byte =>
      dsimp only
      rw [ih, ih, Option.map_map]
      congr 1
      funext bytes
      simp

theorem pairs?_cons_cons (high low : UInt8) (rest : List UInt8) :
    pairs? (high :: low :: rest) =
      (pairValue? high low).bind fun byte => (pairs? rest).map (byte :: ·) := by
  rw [pairs?, pairsOnto?]
  cases pairValue? high low with
  | none => rfl
  | some byte => exact pairsOnto?_eq rest [byte]

theorem pairs?_map_asciiByte (hascii : ∀ c ∈ chars, c.toNat < 128) :
    ∀ {bytes}, pairs? (chars.map asciiByte) = some bytes ↔ Spells (unsigned chars) bytes := by
  induction chars using pairs_induction with
  | nil =>
    intro bytes
    constructor
    · intro h
      cases h
      exact .nil
    · intro h
      cases h
      rfl
  | single c =>
    intro bytes
    exact iff_of_false nofun nofun
  | pair high low rest ih =>
    intro bytes
    rw [List.forall_mem_cons, List.forall_mem_cons] at hascii
    obtain ⟨hhigh, hlow, hrest⟩ := hascii
    rw [List.map_cons, List.map_cons, pairs?_cons_cons, unsigned, Option.bind_eq_some_iff]
    constructor
    · rintro ⟨byte, hpair, hothers⟩
      obtain ⟨sixteens, units, high_eq, low_eq, rfl⟩ := (pairValue?_asciiByte hhigh hlow).1 hpair
      obtain ⟨others, hread, rfl⟩ := Option.map_eq_some_iff.1 hothers
      exact .cons high_eq low_eq ((ih hrest).1 hread)
    · rintro (_ | ⟨high_eq, low_eq, spells⟩)
      refine ⟨_, (pairValue?_asciiByte hhigh hlow).2 ⟨_, _, high_eq, low_eq, rfl⟩, ?_⟩
      rw [(ih hrest).2 spells, Option.map_some]

/-- A pair that is read is ASCII. -/
theorem lt_of_pairValue? {high low : UInt8} (h : (pairValue? high low).isSome) :
    high.toNat < 128 ∧ low.toNat < 128 := by
  rw [pairValue?] at h
  cases hlow : digitValue? low with
  | none =>
    rw [hlow] at h
    cases h
  | some units =>
    refine ⟨?_, lt_of_digitValue? (by rw [hlow]; rfl)⟩
    by_cases hsign : high = 43
    · rw [hsign]
      decide
    · simp only [hlow, if_neg hsign, Option.isSome_map] at h
      exact lt_of_digitValue? h

/-- All that is read is ASCII. -/
theorem lt_of_pairs? : ∀ {list bytes : List UInt8}, pairs? list = some bytes →
    ∀ byte ∈ list, byte.toNat < 128 := by
  intro list
  induction list using pairs_induction with
  | nil => exact fun _ => nofun
  | single byte => nofun
  | pair high low rest ih =>
    intro bytes h
    rw [pairs?_cons_cons, Option.bind_eq_some_iff] at h
    obtain ⟨byte, hpair, hothers⟩ := h
    obtain ⟨others, hread, -⟩ := Option.map_eq_some_iff.1 hothers
    obtain ⟨hhigh, hlow⟩ := lt_of_pairValue? (by rw [hpair]; rfl)
    rw [List.forall_mem_cons, List.forall_mem_cons]
    exact ⟨hhigh, hlow, ih hread⟩

/-- Nothing else than a plus sign is lost. -/
theorem mem_unsigned (h : c ∈ chars) : c = '+' ∨ c ∈ unsigned chars := by
  induction chars using pairs_induction with
  | nil => cases h
  | single first => exact .inr h
  | pair high low rest ih =>
    rw [unsigned]
    rcases List.mem_cons.1 h with rfl | h
    · by_cases hsign : c = '+'
      · exact .inl hsign
      · rw [if_neg hsign]
        exact .inr List.mem_cons_self
    rcases List.mem_cons.1 h with rfl | h
    · exact .inr (List.mem_cons_of_mem _ List.mem_cons_self)
    · exact (ih h).imp id fun hmem => List.mem_cons_of_mem _ (List.mem_cons_of_mem _ hmem)

theorem flatMap_utf8EncodeChar_of_ascii (hascii : ∀ c ∈ chars, c.toNat < 128) :
    chars.flatMap utf8EncodeChar = chars.map asciiByte := by
  induction chars with
  | nil => rfl
  | cons c rest ih =>
    obtain ⟨hc, hrest⟩ := List.forall_mem_cons.1 hascii
    rw [List.flatMap_cons, utf8EncodeChar_of_ascii hc, ih hrest]
    rfl

/-- The bytes of some characters are read if the characters, without plus signs, spell them. -/
theorem pairs?_eq_some_iff :
    pairs? (chars.flatMap utf8EncodeChar) = some bytes ↔ Spells (unsigned chars) bytes := by
  by_cases hascii : ∀ c ∈ chars, c.toNat < 128
  · rw [flatMap_utf8EncodeChar_of_ascii hascii]
    exact pairs?_map_asciiByte hascii
  · refine iff_of_false (fun hread => hascii ?_) fun hspells => hascii ?_
    · intro c hmem
      by_cases hsmall : c.toNat < 128
      · exact hsmall
      obtain ⟨byte, rest, hbytes⟩ := List.exists_cons_of_ne_nil String.utf8EncodeChar_ne_nil
      have hfirst : byte ∈ utf8EncodeChar c := by
        rw [hbytes]
        exact List.mem_cons_self
      have hlarge := le_of_mem_utf8EncodeChar (Nat.le_of_not_lt hsmall) hfirst
      have hread := lt_of_pairs? hread byte (List.mem_flatMap.2 ⟨c, hmem, hfirst⟩)
      omega
    · intro c hmem
      rcases mem_unsigned hmem with rfl | hunsigned
      · decide
      · exact lt_of_digit? ((exists_spells_iff.1 ⟨bytes, hspells⟩).2 c hunsigned)

/-! ## The reader -/

/-- There is a whole number of pairs in what is read. -/
theorem length_of_pairs? : ∀ {list bytes : List UInt8}, pairs? list = some bytes →
    list.length % 2 = 0 := by
  intro list
  induction list using pairs_induction with
  | nil => exact fun _ => rfl
  | single byte => nofun
  | pair high low rest ih =>
    intro bytes h
    rw [pairs?_cons_cons, Option.bind_eq_some_iff] at h
    obtain ⟨byte, hpair, hothers⟩ := h
    obtain ⟨others, hread, -⟩ := Option.map_eq_some_iff.1 hothers
    have hrest := ih hread
    simp only [List.length_cons]
    omega

theorem parse_eq_ok {text : String} : parse text = .ok bytes ↔
    Spells (unsigned (characters text)) bytes := by
  rw [← pairs?_eq_some_iff, ← significant_eq, parse]
  cases hread : pairs? (significant text) with
  | none =>
    refine iff_of_false ?_ nofun
    dsimp only
    split <;> nofun
  | some value => simp [length_of_pairs? hread]

/-! ## Written text -/

theorem digit?_upperDigit : ∀ value < 16, digit? (upperDigit value) = some value := by
  decide

theorem upperDigit_ne_plus : ∀ value < 16, upperDigit value ≠ '+' := by
  decide

theorem isBlankChar_upperDigit : ∀ value < 16, isBlankChar (upperDigit value) = false := by
  decide

/-- The two digits of a byte. -/
def bytePair (byte : UInt8) : List Char :=
  [upperDigit (byte.toNat / 16), upperDigit (byte.toNat % 16)]

theorem forall_mem_bytePair {p : Char → Prop} (h : ∀ value < 16, p (upperDigit value))
    (bytes : List UInt8) : ∀ c ∈ bytes.flatMap bytePair, p c := by
  intro c hmem
  obtain ⟨byte, -, hdigit⟩ := List.mem_flatMap.1 hmem
  have hbyte := byte.toNat_lt
  simp only [bytePair, List.mem_cons, List.not_mem_nil, or_false] at hdigit
  rcases hdigit with rfl | rfl
  · exact h _ (by omega)
  · exact h _ (by omega)

theorem spells_flatMap_bytePair (bytes : List UInt8) :
    Spells (bytes.flatMap bytePair) bytes := by
  induction bytes with
  | nil => exact .nil
  | cons byte rest ih =>
    have hbyte := byte.toNat_lt
    have hvalue : UInt8.ofNat (16 * (byte.toNat / 16) + byte.toNat % 16) = byte := by
      rw [Nat.div_add_mod, UInt8.ofNat_toNat]
    have hspells := Spells.cons (digit?_upperDigit (byte.toNat / 16) (by omega))
      (digit?_upperDigit (byte.toNat % 16) (by omega)) ih
    rwa [hvalue] at hspells

theorem characters_ofBytes (bytes : List UInt8) :
    characters (ofBytes bytes) = bytes.flatMap bytePair := by
  rw [characters, ofBytes, String.toList_ofList]
  refine List.filter_eq_self.2 fun c hmem => ?_
  rw [forall_mem_bytePair (p := fun c => isBlankChar c = false) isBlankChar_upperDigit bytes c hmem]
  rfl

/-- Text is read as the bytes that its characters spell once white space is dropped and a plus sign
in the first place of a pair counts as a zero.  So text without a plus sign is read if and only if
it is an even number of digits besides white space, as the bytes whose digits they are; and what has
been written is read back. -/
theorem parse_eq_ok_iff (text : String) (bytes : List UInt8) :
    (parse text = .ok bytes ↔ Spells (unsigned (characters text)) bytes) ∧
      ('+' ∉ text.toList →
        (parse text = .ok bytes ↔ Spells (characters text) bytes) ∧
        ((∃ value, parse text = .ok value) ↔
          (characters text).length % 2 = 0 ∧ ∀ c ∈ characters text, (digit? c).isSome)) ∧
      parse (ofBytes bytes) = .ok bytes := by
  refine ⟨parse_eq_ok, fun hplain => ?_, parse_eq_ok.2 ?_⟩
  · have hsame : unsigned (characters text) = characters text :=
      unsigned_of_not_mem fun hmem => hplain (List.mem_filter.1 hmem).1
    have hread {value : List UInt8} : parse text = .ok value ↔ Spells (characters text) value := by
      rw [parse_eq_ok, hsame]
    exact ⟨hread, (exists_congr fun _ => hread).trans exists_spells_iff⟩
  · have hne := forall_mem_bytePair (p := (· ≠ '+')) upperDigit_ne_plus bytes
    have hplain : '+' ∉ bytes.flatMap bytePair := fun hmem => hne '+' hmem rfl
    rw [characters_ofBytes, unsigned_of_not_mem hplain]
    exact spells_flatMap_bytePair bytes

/-- Digits in either case, with white space between and inside the pairs. -/
theorem parse_of_four_digits :
    let text := "0 0a\tF\n"
    '+' ∉ text.toList ∧ Spells (characters text) [0x00, 0xAF] ∧ parse text = .ok [0x00, 0xAF] ∧
      parse (ofBytes [0x00, 0xAF]) = .ok [0x00, 0xAF] := by
  intro text
  have hplain : '+' ∉ text.toList := by decide
  have hspells : Spells (characters text) [0x00, 0xAF] := by
    have hdigits : Spells ['0', '0', 'a', 'F']
        [UInt8.ofNat (16 * 0 + 0), UInt8.ofNat (16 * 10 + 15)] :=
      .cons rfl rfl (.cons rfl rfl .nil)
    rwa [show ['0', '0', 'a', 'F'] = characters text by decide] at hdigits
  obtain ⟨-, hread, hback⟩ := parse_eq_ok_iff text [0x00, 0xAF]
  exact ⟨hplain, hspells, (hread hplain).1.2 hspells, hback⟩

/-- A plus sign and a digit are read as a byte, and are no digits of one. -/
theorem parse_plus :
    parse "+1" = .ok [0x01] ∧ ¬(digit? '+').isSome ∧
      ¬∃ bytes, Spells (characters "+1") bytes := by
  have hsign : ¬(digit? '+').isSome := by decide
  have hspells : Spells ['0', '1'] [UInt8.ofNat (16 * 0 + 1)] := .cons rfl rfl .nil
  rw [show ['0', '1'] = unsigned (characters "+1") by decide] at hspells
  refine ⟨parse_eq_ok.2 hspells, hsign, fun hread => hsign ?_⟩
  exact (exists_spells_iff.1 hread).2 '+' (by decide)

end CardReader.Hex
