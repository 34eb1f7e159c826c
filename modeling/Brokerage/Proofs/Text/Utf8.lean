import Brokerage.Text.Utf8

/-! UTF-8 is read back: the bytes of a character are scanned as that character, whatever follows them,
so that the bytes of a text are the text again. -/

namespace Brokerage.Text.Utf8

/-! ### Bytes -/

theorem toNat_ofNat {n : Nat} (fits : n < 256) : (UInt8.ofNat n).toNat = n :=
  Nat.mod_eq_of_lt fits

theorem scan_cons (state : Option Pending) (b : UInt8) (rest : List UInt8) :
    scan state (b :: rest) = (advance state b).1 ++ scan (advance state b).2 rest := by
  cases state <;> rfl

variable {n left low high value seen : Nat} {rest : List UInt8}

/-- A byte that goes on with a character gives six bits of it. -/
theorem advance_pending (atLeast : low ≤ n % 64 + 128) (atMost : n % 64 + 128 ≤ high) :
    advance (some ⟨left, low, high, value, seen⟩) (UInt8.ofNat (n % 64 + 128)) =
      if left ≤ 1 then ([.char (Char.ofNat (value * 64 + n % 64)) (seen + 1)], none)
      else ([], some ⟨left - 1, 0x80, 0xbf, value * 64 + n % 64, seen + 1⟩) := by
  have bits : (n % 64 + 128) % 64 = n % 64 := by omega
  simp only [advance, toNat_ofNat (show n % 64 + 128 < 256 by omega), atLeast, atMost, bits,
    decide_true, Bool.and_true, if_true]

theorem scan_last (atLeast : low ≤ n % 64 + 128) (atMost : n % 64 + 128 ≤ high) :
    scan (some ⟨1, low, high, value, seen⟩) (UInt8.ofNat (n % 64 + 128) :: rest) =
      .char (Char.ofNat (value * 64 + n % 64)) (seen + 1) :: scan none rest := by
  rw [scan_cons, advance_pending atLeast atMost]
  rfl

theorem scan_more (left : Nat) (atLeast : low ≤ n % 64 + 128) (atMost : n % 64 + 128 ≤ high) :
    scan (some ⟨left + 2, low, high, value, seen⟩) (UInt8.ofNat (n % 64 + 128) :: rest) =
      scan (some ⟨left + 1, 0x80, 0xbf, value * 64 + n % 64, seen + 1⟩) rest := by
  rw [scan_cons, advance_pending atLeast atMost]
  rfl

theorem scan_begin {b : UInt8} {p : Pending} (begins : begin b = ([], some p)) :
    scan none (b :: rest) = scan (some p) rest := by
  rw [scan_cons, advance, begins]
  rfl

/-! ### First bytes -/

theorem begin_of_two (least : 0x80 ≤ n) (most : n < 0x800) :
    begin (UInt8.ofNat (n / 64 % 32 + 192)) = ([], some ⟨1, 0x80, 0xbf, n / 64, 1⟩) := by
  have byte : (UInt8.ofNat (n / 64 % 32 + 192)).toNat = n / 64 + 192 := by
    rw [toNat_ofNat (by omega)]
    omega
  simp only [begin, byte]
  rw [if_neg (by omega), if_neg (by omega), if_pos (by omega), Nat.add_sub_cancel]

/-- Of the characters of three bytes, the least ones and those below the surrogates leave less room
for the second byte. -/
theorem begin_of_three (least : 0x800 ≤ n) (most : n < 0x10000) (scalar : n < 0xd800 ∨ 0xdfff < n) :
    ∃ low high, begin (UInt8.ofNat (n / 4096 % 16 + 224)) =
        ([], some ⟨2, low, high, n / 4096, 1⟩) ∧
      low ≤ n / 64 % 64 + 128 ∧ n / 64 % 64 + 128 ≤ high := by
  have byte : (UInt8.ofNat (n / 4096 % 16 + 224)).toNat = n / 4096 + 224 := by
    rw [toNat_ofNat (by omega)]
    omega
  simp only [begin, byte]
  rw [if_neg (by omega), if_neg (by omega), if_neg (by omega), Nat.add_sub_cancel]
  by_cases first : n / 4096 = 0
  · rw [if_pos (by omega)]
    exact ⟨_, _, rfl, by omega, by omega⟩
  · rw [if_neg (by omega)]
    by_cases surrogate : n / 4096 = 13
    · rw [if_pos (by omega)]
      exact ⟨_, _, rfl, by omega, by omega⟩
    · rw [if_neg (by omega), if_pos (by omega)]
      exact ⟨_, _, rfl, by omega, by omega⟩

/-- Of the characters of four bytes, the least and the greatest ones leave less room for the second
byte. -/
theorem begin_of_four (least : 0x10000 ≤ n) (most : n < 0x110000) :
    ∃ low high, begin (UInt8.ofNat (n / 262144 % 8 + 240)) =
        ([], some ⟨3, low, high, n / 262144, 1⟩) ∧
      low ≤ n / 4096 % 64 + 128 ∧ n / 4096 % 64 + 128 ≤ high := by
  have byte : (UInt8.ofNat (n / 262144 % 8 + 240)).toNat = n / 262144 + 240 := by
    rw [toNat_ofNat (by omega)]
    omega
  simp only [begin, byte]
  rw [if_neg (by omega), if_neg (by omega), if_neg (by omega), if_neg (by omega), if_neg (by omega),
    if_neg (by omega), Nat.add_sub_cancel]
  by_cases first : n / 262144 = 0
  · rw [if_pos (by omega)]
    exact ⟨_, _, rfl, by omega, by omega⟩
  · rw [if_neg (by omega)]
    by_cases last : n / 262144 = 4
    · rw [if_neg (by omega), if_pos (by omega)]
      exact ⟨_, _, rfl, by omega, by omega⟩
    · rw [if_pos (by omega)]
      exact ⟨_, _, rfl, by omega, by omega⟩

/-! ### Texts -/

/-- The bytes of a character are scanned as that character. -/
theorem scan_utf8EncodeChar (c : Char) (rest : List UInt8) :
    ∃ width, scan none (String.utf8EncodeChar c ++ rest) = .char c width :: scan none rest := by
  have scalar : c.val.toNat < 0xd800 ∨ 0xdfff < c.val.toNat ∧ c.val.toNat < 0x110000 := c.valid
  have ofBits : ∀ {n : Nat}, n = c.val.toNat → Char.ofNat n = c := by
    rintro n rfl
    exact Char.ofNat_toNat c
  rw [String.utf8EncodeChar]
  generalize c.val.toNat = v at scalar ofBits
  split
  · have byte : (UInt8.ofNat v).toNat = v := toNat_ofNat (by omega)
    refine ⟨1, ?_⟩
    rw [List.singleton_append, scan_cons, advance, begin, byte, if_pos (by omega), ofBits rfl]
    rfl
  split
  · refine ⟨2, ?_⟩
    rw [List.cons_append, List.singleton_append, scan_begin (begin_of_two (by omega) (by omega)),
      scan_last (by omega) (by omega), ofBits (by omega)]
  split
  · obtain ⟨low, high, begins, atLeast, atMost⟩ :=
      begin_of_three (n := v) (by omega) (by omega) (by omega)
    refine ⟨3, ?_⟩
    rw [List.cons_append, List.cons_append, List.singleton_append, scan_begin begins,
      scan_more 0 atLeast atMost, scan_last (by omega) (by omega), ofBits (by omega)]
  · obtain ⟨low, high, begins, atLeast, atMost⟩ :=
      begin_of_four (n := v) (by omega) (by omega)
    refine ⟨4, ?_⟩
    rw [List.cons_append, List.cons_append, List.cons_append, List.singleton_append,
      scan_begin begins, scan_more 1 atLeast atMost,
      scan_more 0 (by omega) (by omega), scan_last (by omega) (by omega),
      ofBits (by omega)]

theorem characters_scan_encode (cs : List Char) (index : Nat) :
    characters index (scan none (encode cs)) = .ok cs := by
  induction cs generalizing index with
  | nil => rfl
  | cons c cs ih =>
    obtain ⟨width, scanned⟩ := scan_utf8EncodeChar c (encode cs)
    have first : encode (c :: cs) = String.utf8EncodeChar c ++ encode cs := List.flatMap_cons
    rw [first, scanned, characters, ih]
    rfl

/-- The bytes of a text are that text. -/
@[simp] theorem decode_encode (cs : List Char) : decode (encode cs) = .ok cs :=
  characters_scan_encode cs 0

end Brokerage.Text.Utf8
