import Giffy.Foundation.Base32
import Giffy.Foundation.Crc
import Giffy.Host

/-! The browser's check of a public key's text, and the keys it accepts. -/

namespace Giffy.Client

def base32Alphabet : Text := "ABCDEFGHIJKLMNOPQRSTUVWXYZ234567".toList

/-- The loop variables of `base32Decode`. `value` is a 32-bit integer; groups that have been
written out stay in it and are shifted out of the top. -/
structure Decoder where
  bits : Nat
  value : BitVec 32
  out : List UInt8
deriving DecidableEq

def Decoder.read (d : Decoder) (idx : Nat) : Decoder :=
  let value := (d.value <<< 5) ||| BitVec.ofNat 32 idx
  let bits := d.bits + 5
  if 8 ≤ bits then
    ⟨bits - 8, value, d.out ++ [UInt8.ofNat ((value >>> (bits - 8)) &&& 0xff#32).toNat]⟩
  else ⟨bits, value, d.out⟩

def readChar (d : Decoder) (char : Char) : Option Decoder :=
  (base32Alphabet.idxOf? char).map d.read

def base32Decode (input : Text) : Option (List UInt8) :=
  (input.foldlM readChar ⟨0, 0#32, []⟩).map Decoder.out

def crcBit (crc : BitVec 32) : BitVec 32 :=
  if crc &&& 0x8000#32 ≠ 0#32 then ((crc <<< 1) ^^^ 0x1021#32) &&& 0xffff#32
  else (crc <<< 1) &&& 0xffff#32

def crcByte (crc : BitVec 32) (byte : UInt8) : BitVec 32 :=
  crcBit^[8] (crc ^^^ (BitVec.ofNat 32 byte.toNat <<< 8))

def crc16xmodem (data : List UInt8) : BitVec 32 := data.foldl crcByte 0#32

def isKeyChar (c : Char) : Bool := ('A' ≤ c && c ≤ 'Z') || ('2' ≤ c && c ≤ '7')

/-- `/^G[A-Z2-7]{55}$/` -/
def keyPattern : Text → Bool
  | 'G' :: rest => rest.length == 55 && rest.all isKeyChar
  | _ => false

def isValidPublicKey (value : Text) : Bool :=
  keyPattern value &&
    match base32Decode value with
    | none => false
    | some decoded =>
        if decoded.length ≠ 35 then false
        else
          let payload := decoded.take 33
          let checksum := BitVec.ofNat 32 (decoded.getD 33 0).toNat |||
            (BitVec.ofNat 32 (decoded.getD 34 0).toNat <<< 8)
          crc16xmodem payload == checksum

section Keys

def xmodem : BitVec 16 := 0x1021#16

def checksum (bytes : List UInt8) : BitVec 16 := Crc.run xmodem 0#16 (Bytes.bits bytes)

def littleEndian (word : BitVec 16) : List UInt8 :=
  [UInt8.ofNat word.toNat, UInt8.ofNat (word.toNat / 256)]

/-- The text of a version byte, a payload and the checksum of both. -/
def strKey (version : UInt8) (payload : BytesN 32) : Text :=
  Base32.encode (version :: payload.data ++ littleEndian (checksum (version :: payload.data)))

end Keys

section Decoding

/-- The decoder has read `seen`: whole bytes are written out and the rest is in the low bits. -/
structure Decoder.Holds (d : Decoder) (seen : List Bool) : Prop where
  partly : d.bits < 8
  bits : seen = Bytes.bits d.out ++ Bits.ofNat d.bits d.value.toNat

theorem or_word (high : BitVec 32) {low count : Nat} (small : low < 2 ^ count)
    (room : count ≤ 32) :
    ((high <<< count) ||| BitVec.ofNat 32 low).toNat =
      (2 ^ count * high.toNat + low) % 2 ^ 32 := by
  have whole : low % 2 ^ 32 = low :=
    Nat.mod_eq_of_lt (small.trans_le (Nat.pow_le_pow_right (by decide) room))
  apply Nat.eq_of_testBit_eq
  intro i
  rw [BitVec.toNat_or, BitVec.toNat_shiftLeft, BitVec.toNat_ofNat, whole, Nat.testBit_or,
    Nat.testBit_mod_two_pow, Nat.testBit_mod_two_pow, Nat.testBit_shiftLeft,
    Nat.testBit_two_pow_mul_add _ small]
  by_cases below : i < count
  · have inside : i < 32 := Nat.lt_of_lt_of_le below room
    simp [below, inside]
  · have beyond : count ≤ i := Nat.le_of_not_lt below
    have above : low.testBit i = false :=
      Nat.testBit_lt_two_pow (small.trans_le (Nat.pow_le_pow_right (by decide) beyond))
    simp [below, beyond, above]

theorem shifted_bits (value : BitVec 32) (count : Nat) {idx : Nat} (room : count + 5 ≤ 32)
    (group : idx < 2 ^ 5) :
    Bits.ofNat (count + 5) ((value <<< 5) ||| BitVec.ofNat 32 idx).toNat =
      Bits.ofNat count value.toNat ++ Bits.ofNat 5 idx := by
  have upper : (2 ^ 5 * value.toNat + idx) / 2 ^ 5 = value.toNat := by omega
  have lower : Bits.ofNat 5 (2 ^ 5 * value.toNat + idx) = Bits.ofNat 5 idx := by
    rw [← Bits.ofNat_mod le_rfl, Nat.mul_add_mod, Bits.ofNat_mod le_rfl]
  rw [or_word value group (by decide), Bits.ofNat_mod room, Bits.ofNat_add, upper, lower]

theorem masked_bits (word : BitVec 32) :
    Bits.ofNat 8 (UInt8.ofNat (word &&& 0xff#32).toNat).toNat = Bits.ofNat 8 word.toNat := by
  have mask : (0xff#32).toNat = 2 ^ 8 - 1 := rfl
  rw [UInt8.toNat_ofNat', Bits.ofNat_mod le_rfl, BitVec.toNat_and, mask,
    Nat.and_two_pow_sub_one_eq_mod, Bits.ofNat_mod le_rfl]

theorem read_holds {d : Decoder} {seen : List Bool} (holds : d.Holds seen) {idx : Nat}
    (group : idx < 32) : (d.read idx).Holds (seen ++ Bits.ofNat 5 idx) := by
  have low := holds.partly
  have grown := shifted_bits d.value d.bits (by omega) group
  have read : seen ++ Bits.ofNat 5 idx = Bytes.bits d.out ++
      Bits.ofNat (d.bits + 5) ((d.value <<< 5) ||| BitVec.ofNat 32 idx).toNat := by
    rw [holds.bits, grown, List.append_assoc]
  unfold Decoder.read
  by_cases full : 8 ≤ d.bits + 5
  · simp only [if_pos full]
    refine ⟨by simp only; omega, ?_⟩
    have split : d.bits + 5 = 8 + (d.bits + 5 - 8) := by omega
    rw [read, split, Bits.ofNat_add, Base32.bits_bytes_append, Base32.bits_bytes_singleton,
      masked_bits, BitVec.toNat_ushiftRight, Nat.shiftRight_eq_div_pow, List.append_assoc,
      Nat.add_sub_cancel_left]
  · simp only [if_neg full]
    exact ⟨by simp only; omega, read⟩

theorem readChar_of_mem (d : Decoder) {c : Char} (member : c ∈ Base32.alphabet) :
    readChar d c = some (d.read (Base32.digit c)) := by
  rcases Option.isSome_iff_exists.mp (List.isSome_idxOf?.mpr member) with ⟨idx, found⟩
  have place : Base32.digit c = idx := by
    rw [Base32.digit, List.idxOf_eq_getD_idxOf?, found, Option.getD_some]
  rw [place]
  exact congrArg (Option.map d.read) found

theorem foldlM_holds {text : Text} (alphabetic : ∀ c ∈ text, c ∈ Base32.alphabet) {d : Decoder}
    {seen : List Bool} (holds : d.Holds seen) :
    ∃ d', text.foldlM readChar d = some d' ∧ d'.Holds (seen ++ Base32.bits text) := by
  induction text generalizing d seen with
  | nil => exact ⟨d, rfl, (List.append_nil seen).symm ▸ holds⟩
  | cons c text ih =>
      have member := alphabetic c List.mem_cons_self
      have next := read_holds holds (Base32.digit_lt member)
      obtain ⟨d', ran, holds'⟩ := ih (fun c later => alphabetic c (List.mem_cons_of_mem _ later)) next
      refine ⟨d', ?_, ?_⟩
      · rw [List.foldlM_cons, readChar_of_mem d member]
        exact ran
      · rwa [Base32.bits_cons, ← List.append_assoc]

/-- Fifty-six letters are read to thirty-five bytes with nothing left over. -/
theorem base32Decode_full {text : Text} (alphabetic : ∀ c ∈ text, c ∈ Base32.alphabet)
    (full : text.length = 56) :
    ∃ decoded, base32Decode text = some decoded ∧ decoded.length = 35 ∧
      Bytes.bits decoded = Base32.bits text := by
  have started : Decoder.Holds ⟨0, 0#32, []⟩ [] := ⟨by decide, rfl⟩
  rcases foldlM_holds alphabetic started with ⟨d, ran, low, spelled⟩
  rw [List.nil_append] at spelled
  have lengths := congrArg List.length spelled
  rw [Base32.length_bits, List.length_append, Base32.length_bits_bytes, Bits.length_ofNat,
    full] at lengths
  have none_left : d.bits = 0 := by omega
  refine ⟨d.out, by rw [base32Decode, ran]; rfl, by omega, ?_⟩
  rw [spelled, none_left]
  exact (List.append_nil _).symm

end Decoding

section Checksum

theorem mask_word (word : BitVec 32) : word &&& 0xffff#32 = (word.setWidth 16).setWidth 32 := by
  apply BitVec.eq_of_toNat_eq
  have mask : (0xffff#32).toNat = 2 ^ 16 - 1 := rfl
  rw [BitVec.toNat_and, mask, Nat.and_two_pow_sub_one_eq_mod, BitVec.toNat_setWidth,
    BitVec.toNat_setWidth]
  omega

theorem crcBit_setWidth (crc : BitVec 16) :
    crcBit (crc.setWidth 32) = (Crc.shift xmodem crc).setWidth 32 := by
  have carry : (crc.setWidth 32 &&& 0x8000#32 ≠ 0#32) ↔ crc.msb = true := by
    have power : 0x8000#32 = BitVec.twoPow 32 15 := by decide
    rw [power, BitVec.and_twoPow, BitVec.getLsbD_setWidth, BitVec.msb_eq_getLsbD_last]
    cases crc.getLsbD 15 <;> decide
  have moved : (crc.setWidth 32 <<< 1).setWidth 16 = crc <<< 1 := by
    apply BitVec.eq_of_toNat_eq
    simp
  unfold crcBit Crc.shift
  rw [mask_word, mask_word, BitVec.setWidth_xor, moved]
  by_cases leading : crc.msb = true
  · rw [if_pos (carry.mpr leading), if_pos leading]
    rfl
  · rw [if_neg (mt carry.mp leading), if_neg leading]

theorem shifted_byte (byte : UInt8) : BitVec.ofNat 32 byte.toNat <<< 8 =
    (Crc.place (Bits.ofNat 8 byte.toNat) : BitVec 16).setWidth 32 := by
  have every : ∀ n : Fin 256, BitVec.ofNat 32 n <<< 8 =
      (Crc.place (Bits.ofNat 8 n) : BitVec 16).setWidth 32 := by
    decide +kernel
  exact every ⟨byte.toNat, byte.toNat_lt⟩

theorem crcByte_setWidth (crc : BitVec 16) (byte : UInt8) :
    crcByte (crc.setWidth 32) byte =
      (Crc.run xmodem crc (Bits.ofNat 8 byte.toNat)).setWidth 32 := by
  have through : Function.Semiconj (BitVec.setWidth 32) (Crc.shift xmodem) crcBit :=
    fun word => (crcBit_setWidth word).symm
  have eight := through.iterate_right 8
  have fits : (Bits.ofNat 8 byte.toNat).length ≤ 16 := by simp
  rw [crcByte, shifted_byte, ← BitVec.setWidth_xor, ← eight.eq, Crc.run_eq_iterate xmodem fits,
    Bits.length_ofNat]

theorem crc16xmodem_eq (data : List UInt8) : crc16xmodem data = (checksum data).setWidth 32 := by
  suffices every : ∀ crc : BitVec 16, data.foldl crcByte (crc.setWidth 32) =
      (Crc.run xmodem crc (Bytes.bits data)).setWidth 32 from every 0#16
  induction data with
  | nil => exact fun crc => rfl
  | cons byte data ih =>
      intro crc
      rw [List.foldl_cons, crcByte_setWidth, ih, ← Crc.run_append]
      rfl

theorem checksum_bytes (low high : UInt8) (word : BitVec 16) :
    word.setWidth 32 = BitVec.ofNat 32 low.toNat ||| (BitVec.ofNat 32 high.toNat <<< 8) ↔
      [low, high] = littleEndian word := by
  have low_lt := low.toNat_lt
  have high_lt := high.toNat_lt
  have word_lt := word.isLt
  have joined : (BitVec.ofNat 32 low.toNat ||| (BitVec.ofNat 32 high.toNat <<< 8)).toNat =
      256 * high.toNat + low.toNat := by
    rw [BitVec.or_comm, or_word _ low_lt (by decide), BitVec.toNat_ofNat]
    omega
  have left : (word.setWidth 32).toNat = word.toNat := by
    rw [BitVec.toNat_setWidth]
    omega
  rw [← BitVec.toNat_inj, joined, left, littleEndian, List.cons.injEq, List.cons.injEq,
    ← UInt8.toNat_inj, ← UInt8.toNat_inj, UInt8.toNat_ofNat', UInt8.toNat_ofNat']
  constructor
  · intro same
    refine ⟨by omega, by omega, rfl⟩
  · intro same
    rcases same with ⟨sameLow, sameHigh, _⟩
    omega

end Checksum

section Texts

theorem littleEndian_length (word : BitVec 16) : (littleEndian word).length = 2 := rfl

theorem bits_strKey (version : UInt8) (payload : BytesN 32) :
    Base32.bits (strKey version payload) = Bytes.bits (version :: payload.data ++
      littleEndian (checksum (version :: payload.data))) := by
  apply Base32.bits_encode
  rw [List.length_append, List.length_cons, payload.width, littleEndian_length]
  decide

theorem strKey_length (version : UInt8) (payload : BytesN 32) :
    (strKey version payload).length = 56 := by
  have lengths := congrArg List.length (bits_strKey version payload)
  rw [Base32.length_bits, Base32.length_bits_bytes, List.length_append, List.length_cons,
    payload.width, littleEndian_length] at lengths
  omega

theorem strKey_injective {version version' : UInt8} {payload payload' : BytesN 32}
    (same : strKey version payload = strKey version' payload') :
    version = version' ∧ payload = payload' := by
  have bits := congrArg Base32.bits same
  rw [bits_strKey, bits_strKey] at bits
  have bytes := Base32.bits_bytes_injective bits
  rw [List.cons_append, List.cons_append, List.cons.injEq] at bytes
  exact ⟨bytes.1, BytesN.ext (List.append_inj bytes.2 (payload.width.trans payload'.width.symm)).1⟩

theorem head_strKey (version : UInt8) (payload : BytesN 32) :
    (strKey version payload).head? = some (Base32.letter (version.toNat / 8)) := by
  have length := strKey_length version payload
  have spelled := bits_strKey version payload
  have alphabetic := Base32.encode_mem (version :: payload.data ++
    littleEndian (checksum (version :: payload.data)))
  change ∀ c ∈ strKey version payload, c ∈ Base32.alphabet at alphabetic
  generalize strKey version payload = value at length spelled alphabetic ⊢
  cases value with
  | nil => cases length
  | cons first rest =>
      have version_lt := version.toNat_lt
      have member := alphabetic first List.mem_cons_self
      have upper : Bits.ofNat 8 version.toNat =
          Bits.ofNat 5 (version.toNat / 8) ++ Bits.ofNat 3 version.toNat :=
        Bits.ofNat_add 5 3 _
      rw [Base32.bits_cons, List.cons_append, Bytes.bits, List.map_cons, Bits.spread_cons, upper,
        List.append_assoc] at spelled
      have group := (List.append_inj spelled (by simp)).1
      have place := Bits.ofNat_injective (Base32.digit_lt member) (by omega) group
      rw [List.head?_cons, ← place, Base32.letter_digit member]

end Texts

section Acceptance

theorem isKeyChar_iff (c : Char) : isKeyChar c = true ↔ c ∈ Base32.alphabet := by
  constructor
  · intro key
    have upper : ∀ n : Fin 26, Char.ofNat (65 + n) ∈ Base32.alphabet := by decide
    have figures : ∀ n : Fin 6, Char.ofNat (50 + n) ∈ Base32.alphabet := by decide
    have spelled : Char.ofNat c.toNat = c := Char.ofNat_toNat c
    rw [isKeyChar, Bool.or_eq_true, Bool.and_eq_true, Bool.and_eq_true, decide_eq_true_eq,
      decide_eq_true_eq, decide_eq_true_eq, decide_eq_true_eq] at key
    rcases key with ⟨from', to'⟩ | ⟨from', to'⟩
    · have low : 65 ≤ c.toNat := from'
      have high : c.toNat ≤ 90 := to'
      have place := upper ⟨c.toNat - 65, by omega⟩
      rwa [Nat.add_sub_cancel' low, spelled] at place
    · have low : 50 ≤ c.toNat := from'
      have high : c.toNat ≤ 55 := to'
      have place := figures ⟨c.toNat - 50, by omega⟩
      rwa [Nat.add_sub_cancel' low, spelled] at place
  · intro member
    exact List.all_eq_true.mp (by decide : Base32.alphabet.all isKeyChar = true) c member

theorem keyPattern_iff (value : Text) : keyPattern value = true ↔
    value.head? = some 'G' ∧ value.length = 56 ∧ ∀ c ∈ value, c ∈ Base32.alphabet := by
  cases value with
  | nil => simp [keyPattern]
  | cons first rest =>
      by_cases same : first = 'G'
      · subst same
        have letters : rest.all isKeyChar = true ↔ ∀ c ∈ rest, c ∈ Base32.alphabet := by
          simp only [List.all_eq_true, isKeyChar_iff]
        have leading : 'G' ∈ Base32.alphabet := by decide
        simp only [keyPattern, Bool.and_eq_true, beq_iff_eq, letters, List.head?_cons, true_and,
          List.length_cons, Nat.reduceEqDiff, List.forall_mem_cons, leading]
      · simp [keyPattern, same]

theorem eq_take_append {decoded : List UInt8} (full : decoded.length = 35) :
    decoded = decoded.take 33 ++ [decoded.getD 33 0, decoded.getD 34 0] := by
  have rest : decoded.drop 33 = [decoded.getD 33 0, decoded.getD 34 0] := by
    rw [List.drop_eq_getElem_cons (by omega), List.drop_eq_getElem_cons (by omega),
      List.drop_eq_nil_of_le (by omega)]
    simp [List.getD_eq_getElem?_getD, full]
  conv_lhs => rw [← List.take_append_drop 33 decoded, rest]

theorem isValidPublicKey_iff (value : Text) : isValidPublicKey value = true ↔
    keyPattern value = true ∧ ∃ body : List UInt8, body.length = 33 ∧
      value = Base32.encode (body ++ littleEndian (checksum body)) := by
  rw [isValidPublicKey, Bool.and_eq_true]
  apply and_congr_right
  intro pattern
  rcases (keyPattern_iff value).mp pattern with ⟨_, full, alphabetic⟩
  rcases base32Decode_full alphabetic full with ⟨decoded, ran, width, spelled⟩
  have whole : ∀ body : List UInt8, body.length = 33 →
      5 ∣ 8 * (body ++ littleEndian (checksum body)).length := by
    intro body length
    rw [List.length_append, length, littleEndian_length]
    decide
  have encoded : ∀ body : List UInt8, body.length = 33 →
      (value = Base32.encode (body ++ littleEndian (checksum body)) ↔
        decoded = body ++ littleEndian (checksum body)) := by
    intro body length
    rw [Base32.encode_eq_iff (whole body length), and_iff_right alphabetic, ← spelled]
    exact ⟨Base32.bits_bytes_injective, congrArg _⟩
  rw [ran]
  simp only [width, ne_eq, not_true_eq_false, if_false, beq_iff_eq, crc16xmodem_eq,
    checksum_bytes]
  constructor
  · intro same
    have body : (decoded.take 33).length = 33 := by
      rw [List.length_take]
      omega
    refine ⟨decoded.take 33, body, (encoded _ body).mpr ?_⟩
    rw [← same]
    exact eq_take_append width
  · intro spelled
    rcases spelled with ⟨body, length, same⟩
    have split := ((eq_take_append width).symm.trans ((encoded body length).mp same))
    rcases List.append_inj split (by rw [List.length_take, length]; omega) with ⟨front, back⟩
    rw [front]
    exact back

theorem keyPattern_strKey (version : UInt8) (payload : BytesN 32) :
    keyPattern (strKey version payload) = true ↔ version.toNat / 8 = 6 := by
  have version_lt := version.toNat_lt
  have bound : version.toNat / 8 < 32 := by omega
  rw [keyPattern_iff, head_strKey, and_iff_left ⟨strKey_length version payload, Base32.encode_mem _⟩,
    Option.some_inj]
  constructor
  · intro leading
    rw [← Base32.digit_letter bound, leading]
    decide
  · intro six
    rw [six]
    decide

/-- What is accepted: any of the eight version bytes that start with the letter G. -/
theorem accepted_iff (value : Text) : isValidPublicKey value = true ↔
    ∃ version payload, 0x30 ≤ version ∧ version ≤ 0x37 ∧ value = strKey version payload := by
  have range : ∀ version : UInt8,
      (version.toNat / 8 = 6 ↔ 0x30 ≤ version ∧ version ≤ 0x37) := by
    intro version
    have low : (0x30 : UInt8) ≤ version ↔ 48 ≤ version.toNat := UInt8.le_iff_toNat_le
    have high : version ≤ (0x37 : UInt8) ↔ version.toNat ≤ 55 := UInt8.le_iff_toNat_le
    rw [low, high]
    omega
  rw [isValidPublicKey_iff]
  constructor
  · intro accepted
    rcases accepted with ⟨pattern, body, length, rfl⟩
    cases body with
    | nil => cases length
    | cons version payload =>
        have within := (keyPattern_strKey version ⟨payload, Nat.succ.inj length⟩).mp pattern
        exact ⟨version, ⟨payload, Nat.succ.inj length⟩, ((range version).mp within).1,
          ((range version).mp within).2, rfl⟩
  · intro key
    rcases key with ⟨version, payload, low, high, rfl⟩
    exact ⟨(keyPattern_strKey version payload).mpr ((range version).mpr ⟨low, high⟩),
      version :: payload.data, by simp [payload.width], rfl⟩

/-- The check tells a public key from every text but those of the seven neighbouring version
bytes. -/
theorem public_key_check_iff (value : Text) :
    (isValidPublicKey value = true ↔ ∃ payload, value = strKey 0x30 payload) ↔
      ¬∃ version payload, 0x31 ≤ version ∧ version ≤ 0x37 ∧ value = strKey version payload := by
  constructor
  · intro exactly neighbour
    rcases neighbour with ⟨version, payload, low, high, rfl⟩
    have wider : (0x30 : UInt8) ≤ version := UInt8.le_trans (by decide) low
    obtain ⟨payload', same⟩ := exactly.mp ((accepted_iff _).mpr ⟨version, payload, wider, high, rfl⟩)
    rw [(strKey_injective same).1] at low
    exact absurd low (by decide)
  · intro other
    rw [accepted_iff]
    constructor
    · intro accepted
      rcases accepted with ⟨version, payload, low, high, rfl⟩
      by_cases own : version = 0x30
      · exact ⟨payload, own ▸ rfl⟩
      · refine absurd ⟨version, payload, ?_, high, rfl⟩ other
        have apart : version.toNat ≠ 48 := fun same => own (UInt8.toNat_inj.mp same)
        have low' : 48 ≤ version.toNat := UInt8.le_iff_toNat_le.mp low
        have next : 49 ≤ version.toNat := by omega
        exact UInt8.le_iff_toNat_le.mpr next
    · intro key
      rcases key with ⟨payload, rfl⟩
      exact ⟨0x30, payload, UInt8.le_refl _, by decide, rfl⟩

theorem neighbour_version_accepted :
    let value := "GEAAAAAAAAAAAAAAAAAAAAAAAAAAAAAAAAAAAAAAAAAAAAAAAAAABBDI".toList
    isValidPublicKey value = true ∧ ¬∃ payload, value = strKey 0x30 payload := by
  have spelled : "GEAAAAAAAAAAAAAAAAAAAAAAAAAAAAAAAAAAAAAAAAAAAAAAAAAABBDI".toList =
      strKey 0x31 ⟨List.replicate 32 0, List.length_replicate⟩ := by decide +kernel
  refine ⟨by decide +kernel, ?_⟩
  intro key
  rcases key with ⟨payload, same⟩
  have version := (strKey_injective (spelled.symm.trans same)).1
  exact absurd version (by decide)

end Acceptance

end Giffy.Client
