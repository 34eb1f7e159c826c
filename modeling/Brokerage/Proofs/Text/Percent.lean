import Brokerage.Proofs.Text.Utf8
import Brokerage.Text.Percent

/-! Percent-encoding is undone by decoding, whatever the text. An encoded text is made of letters,
digits and five marks, so that no separator of an address stands in it. -/

namespace Brokerage.Text.Percent

/-! ### Bytes -/

theorem utf8_encode_cons {c : Char} (ascii : c.toNat < 128) (cs : List Char) :
    Utf8.encode (c :: cs) = UInt8.ofNat c.toNat :: Utf8.encode cs := by
  have single : String.utf8EncodeChar c = [UInt8.ofNat c.toNat] := by
    rw [String.utf8EncodeChar]
    exact if_pos (Nat.le_of_lt_succ ascii)
  have first : Utf8.encode (c :: cs) = String.utf8EncodeChar c ++ Utf8.encode cs :=
    List.flatMap_cons
  rw [first, single, List.singleton_append]

theorem decodeBytes_cons_of_ne {b : UInt8} (plain : b ≠ mark) (rest : List UInt8) :
    decodeBytes (b :: rest) = b :: decodeBytes rest := by
  match rest with
  | [] | [_] => rfl
  | _ :: _ :: _ => rw [decodeBytes, if_neg plain]

theorem hexDigit_read : ∀ n < 16,
    (hexDigit n).toNat < 128 ∧ hexValue? (UInt8.ofNat (hexDigit n).toNat) = some n := by
  decide

theorem isPlain_lt {b : UInt8} (plain : isPlain b = true) : b.toNat < 128 ∧ b ≠ mark := by
  simp only [isPlain, isAlphanumericByte, Bool.or_eq_true, Bool.and_eq_true, decide_eq_true_eq,
    beq_iff_eq] at plain
  refine ⟨by omega, ?_⟩
  rintro rfl
  have sign : mark.toNat = 37 := rfl
  omega

theorem bytes_escapeByte (b : UInt8) (cs : List Char) :
    bytes (escapeByte b ++ cs) = b :: bytes cs := by
  have room : b.toNat < 256 := b.toNat_lt
  obtain ⟨asciiHigh, high⟩ := hexDigit_read (b.toNat / 16) (by omega)
  obtain ⟨asciiLow, low⟩ := hexDigit_read (b.toNat % 16) (by omega)
  have byte : 16 * (b.toNat / 16) + b.toNat % 16 = b.toNat := Nat.div_add_mod ..
  have sign : UInt8.ofNat ('%' : Char).toNat = mark := rfl
  rw [bytes, escapeByte, List.cons_append, List.cons_append, List.singleton_append,
    utf8_encode_cons (by decide), utf8_encode_cons asciiHigh, utf8_encode_cons asciiLow, sign,
    decodeBytes, if_pos rfl, high, low]
  simp only [byte, UInt8.ofNat_toNat]
  rfl

/-- An encoded byte stands for that byte, whatever follows it. -/
theorem bytes_encodeByte (b : UInt8) (cs : List Char) :
    bytes (encodeByte b ++ cs) = b :: bytes cs := by
  rw [encodeByte]
  split
  · rename_i plain
    obtain ⟨small, other⟩ := isPlain_lt plain
    have code : (Char.ofNat b.toNat).toNat = b.toNat := by
      rw [Char.ofNat, dif_pos (.inl (by omega))]
      rfl
    rw [bytes, List.singleton_append, utf8_encode_cons (by rw [code]; exact small), code,
      UInt8.ofNat_toNat, decodeBytes_cons_of_ne other]
    rfl
  · exact bytes_escapeByte b cs

/-! ### Texts -/

theorem bytes_encodeChars (cs : List Char) : bytes (encodeChars cs) = Utf8.encode cs := by
  rw [encodeChars]
  induction Utf8.encode cs with
  | nil => rfl
  | cons b rest ih => rw [List.flatMap_cons, bytes_encodeByte, ih]

/-- An encoded text is decoded to that text. -/
@[simp] theorem decode_encodeChars (cs : List Char) : decode (encodeChars cs) = .ok cs := by
  rw [decode, bytes_encodeChars, Utf8.decode_encode]

/-- The characters that an encoded text is made of. -/
def isSafe (c : Char) : Bool := c.isAlphanum || ['-', '.', '_', '~', '%'].contains c

theorem isSafe_hexDigit : ∀ n < 16, isSafe (hexDigit n) = true := by decide

theorem isSafe_ofNat : ∀ n < 128, isPlain (UInt8.ofNat n) = true → isSafe (Char.ofNat n) = true := by
  decide

theorem isSafe_of_mem_encodeByte {b : UInt8} {c : Char} (h : c ∈ encodeByte b) :
    isSafe c = true := by
  have room : b.toNat < 256 := b.toNat_lt
  rw [encodeByte] at h
  split at h
  · rename_i plain
    obtain rfl := List.mem_singleton.mp h
    exact isSafe_ofNat b.toNat (isPlain_lt plain).1 (by rwa [UInt8.ofNat_toNat])
  · simp only [escapeByte, List.mem_cons, List.not_mem_nil, or_false] at h
    rcases h with rfl | rfl | rfl
    · decide
    · exact isSafe_hexDigit _ (by omega)
    · exact isSafe_hexDigit _ (by omega)

theorem isSafe_of_mem_encodeChars {cs : List Char} {c : Char} (h : c ∈ encodeChars cs) :
    isSafe c = true := by
  obtain ⟨b, -, hc⟩ := List.mem_flatMap.mp h
  exact isSafe_of_mem_encodeByte hc

/-- No other character stands in an encoded text. -/
theorem not_mem_encodeChars {c : Char} (reserved : isSafe c = false) (cs : List Char) :
    c ∉ encodeChars cs :=
  fun h => Bool.false_ne_true (reserved.symm.trans (isSafe_of_mem_encodeChars h))

end Brokerage.Text.Percent
