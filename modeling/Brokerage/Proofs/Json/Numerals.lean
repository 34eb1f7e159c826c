import Brokerage.Json.Printer
import Brokerage.Json.Reading

/-! Whole numbers are read back as they are printed: their digits are all scanned, in front of what
cannot go on a number, and mean the number if 64 bits hold it. -/

namespace Brokerage.Json

open Text.Numeral (isDigit digitValue)

/-! ### Digits -/

theorem isDigit_eq (c : Char) : isDigit c = c.isDigit := rfl

theorem isDigit_of_mem_toDigits {n : Nat} {c : Char} (h : c ∈ Nat.toDigits 10 n) :
    isDigit c = true := by
  rw [isDigit_eq]
  exact Nat.isDigit_of_mem_toDigits (by decide) (by decide) h

theorem toDigits_cons (n : Nat) : ∃ c cs, Nat.toDigits 10 n = c :: cs ∧ isDigit c = true := by
  obtain ⟨c, cs, digits⟩ := List.exists_cons_of_ne_nil (Nat.toDigits_ne_nil (n := n) (b := 10))
  exact ⟨c, cs, digits, isDigit_of_mem_toDigits (digits ▸ List.mem_cons_self)⟩

theorem digitValue_digitChar {n : Nat} (h : n < 10) : digitValue n.digitChar = n :=
  Nat.toNat_digitChar_sub_48_of_lt_ten h

/-- Only zero is printed with a zero in front. -/
theorem eq_zero_of_toDigits {n : Nat} {rest : List Char} (h : Nat.toDigits 10 n = '0' :: rest) :
    n = 0 := by
  induction n using Nat.strongRecOn generalizing rest with
  | ind n ih =>
    by_cases small : n < 10
    · rw [Nat.toDigits_of_lt_base small] at h
      exact Nat.digitChar_eq_zero.mp (List.cons.inj h).1
    · rw [Nat.toDigits_of_base_le (by decide) (by omega)] at h
      obtain ⟨c, cs, digits, -⟩ := toDigits_cons (n / 10)
      rw [digits] at h
      obtain ⟨rfl, -⟩ := List.cons.inj h
      have := ih (n / 10) (by omega) digits
      omega

/-! ### Scanning -/

/-- What may follow a value without becoming part of it. -/
def Delimited : List Char → Prop
  | [] => True
  | c :: _ => c = ',' ∨ c = ']' ∨ c = '\x7d'

theorem scanDigits_toDigits (n : Nat) {rest : List Char} (ends : Delimited rest) :
    Spelling.scanDigits (Nat.toDigits 10 n ++ rest) = some (Nat.toDigits 10 n, rest) := by
  have digits : ∀ c ∈ Nat.toDigits 10 n, isDigit c = true := fun c h => isDigit_of_mem_toDigits h
  have stops : rest.takeWhile isDigit = [] ∧ rest.dropWhile isDigit = rest := by
    cases rest with
    | nil => exact ⟨rfl, rfl⟩
    | cons c cs => rcases ends with rfl | rfl | rfl <;> exact ⟨rfl, rfl⟩
  rw [Spelling.scanDigits, List.takeWhile_append_of_pos digits, List.dropWhile_append_of_pos digits,
    stops.1, stops.2, List.append_nil]
  cases found : Nat.toDigits 10 n with
  | nil => exact absurd found Nat.toDigits_ne_nil
  | cons => rfl

theorem scanWhole_toDigits (n : Nat) {rest : List Char} (ends : Delimited rest) :
    Spelling.scanWhole (Nat.toDigits 10 n ++ rest) = some (Nat.toDigits 10 n, rest) := by
  rw [Spelling.scanWhole, scanDigits_toDigits n ends]
  split
  · rename_i c cs _ found
    obtain ⟨digits, -⟩ := Prod.mk.inj (Option.some.inj found)
    rw [eq_zero_of_toDigits digits] at digits
    cases digits
  · rfl

theorem scanUnsigned_toDigits (negative : Bool) (n : Nat) {rest : List Char}
    (ends : Delimited rest) :
    Spelling.scanUnsigned negative (Nat.toDigits 10 n ++ rest) =
      some (.number ⟨negative, Nat.toDigits 10 n, [], none⟩, rest) := by
  have stops : Spelling.scanFraction rest = some ([], rest) ∧
      Spelling.scanExponent rest = some (none, rest) := by
    cases rest with
    | nil => exact ⟨rfl, rfl⟩
    | cons c cs => rcases ends with rfl | rfl | rfl <;> exact ⟨rfl, rfl⟩
  simp only [Spelling.scanUnsigned, scanWhole_toDigits n ends, stops.1, stops.2, Option.map_some]

/-- The literal that a whole number is printed as. -/
def wholeLiteral (n : Int) : Literal := ⟨n < 0, Nat.toDigits 10 n.natAbs, [], none⟩

theorem scanNumber_printWhole (n : Int) {rest : List Char} (ends : Delimited rest) :
    Spelling.scanNumber (printWhole n ++ rest) = some (.number (wholeLiteral n), rest) := by
  rw [printWhole, wholeLiteral]
  by_cases negative : n < 0
  · rw [if_pos negative, decide_eq_true negative]
    exact scanUnsigned_toDigits true n.natAbs ends
  · rw [if_neg negative, decide_eq_false negative, ← scanUnsigned_toDigits false n.natAbs ends]
    obtain ⟨c, cs, digits, digit⟩ := toDigits_cons n.natAbs
    rw [digits, List.cons_append, Spelling.scanNumber]
    rintro rest' same
    rw [(List.cons.inj same).1] at digit
    cases digit

/-! ### Meaning -/

theorem whole_digitChar {m d : Nat} (digit : d < 10) (fits : m * 10 + d < Nat.pow 2 64) :
    Literal.Scaled.whole ⟨m, 0, false⟩ d.digitChar = ⟨m * 10 + d, 0, false⟩ := by
  have held : ¬ Nat.pow 2 64 ≤ m * 10 + d := Nat.not_le.mpr fits
  simp only [Literal.Scaled.whole, digitValue_digitChar digit, Bool.false_or, decide_eq_true_eq]
  rw [if_neg held]

theorem foldl_whole_toDigits {n : Nat} (fits : n < Nat.pow 2 64) :
    (Nat.toDigits 10 n).foldl Literal.Scaled.whole ⟨0, 0, false⟩ = ⟨n, 0, false⟩ := by
  induction n using Nat.strongRecOn with
  | ind n ih =>
    by_cases small : n < 10
    · rw [Nat.toDigits_of_lt_base small, List.foldl_cons, List.foldl_nil,
        whole_digitChar small (by omega), Nat.zero_mul, Nat.zero_add]
    · have parts : n / 10 * 10 + n % 10 = n := Nat.div_add_mod' n 10
      rw [Nat.toDigits_of_base_le (by decide) (by omega), List.foldl_append,
        ih (n / 10) (by omega) (by omega), List.foldl_cons, List.foldl_nil,
        whole_digitChar (Nat.mod_lt n (by decide)) (by omega), parts]

/-- A whole number in 64 bits is what its literal means. -/
theorem number?_wholeLiteral {n : Int} (low : -(Nat.pow 2 63 : Int) ≤ n)
    (high : n < Nat.pow 2 64) : (wholeLiteral n).number? = some (.whole n) := by
  have wider : Nat.pow 2 63 < Nat.pow 2 64 := by decide
  have digits : (wholeLiteral n).wholePart = ⟨n.natAbs, 0, false⟩ :=
    foldl_whole_toDigits (by omega)
  have whole : (wholeLiteral n).number? =
      if !decide (n < 0) then some (.whole n.natAbs)
      else if n.natAbs = 0 || Nat.pow 2 63 < n.natAbs then (wholeLiteral n).float?
      else some (.whole (-n.natAbs)) := by
    rw [Literal.number?, digits]
    rfl
  rw [whole]
  by_cases negative : n < 0
  · have nonzero : n.natAbs ≠ 0 := by omega
    have held : ¬ Nat.pow 2 63 < n.natAbs := Nat.not_lt.mpr (by omega : n.natAbs ≤ Nat.pow 2 63)
    have back : -(n.natAbs : Int) = n := by omega
    rw [decide_eq_true negative, decide_eq_false nonzero, decide_eq_false held, back]
    rfl
  · have back : (n.natAbs : Int) = n := by omega
    rw [decide_eq_false negative, back]
    rfl

end Brokerage.Json
