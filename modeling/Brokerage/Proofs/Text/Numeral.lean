import Brokerage.Text.Blank
import Brokerage.Text.Numeral
import Mathlib.Data.Nat.Digits.Defs

/-! Decimal numerals by their grammar. What is read as a number is a row of digits, perhaps behind a
plus sign, that has the number in the decimal system; and every such row is read, whatever zeros it
begins with, if its number lies below the bound. -/

namespace Brokerage.Text

/-- No blank character is a digit. -/
theorem isDigit_of_isBlankChar {c : Char} (blank : isBlankChar c = true) :
    Numeral.isDigit c = false := by
  have ranges : ¬ (48 ≤ c.toNat ∧ c.toNat ≤ 57) := by
    simp only [isBlankChar, inRanges, blankRanges, List.any_cons, List.any_nil, Bool.or_eq_true,
      Bool.and_eq_true, decide_eq_true_eq, Bool.or_false] at blank
    omega
  refine Bool.eq_false_iff.mpr fun digit => ranges ?_
  simpa [Numeral.isDigit, Char.le_def, UInt32.le_iff_toNat_le] using digit

namespace Numeral

variable {bound n m : Nat} {cs digits : List Char} {c : Char}

/-- The number that a row of digits has in the decimal system. -/
def decimal (digits : List Char) : Nat :=
  Nat.ofDigits 10 (digits.reverse.map fun c => c.toNat - '0'.toNat)

/-- `cs` is a numeral of `n`. -/
def Denotes (cs : List Char) (n : Nat) : Prop :=
  ∃ digits, (cs = digits ∨ cs = '+' :: digits) ∧ digits ≠ [] ∧ (∀ c ∈ digits, c.isDigit = true) ∧
    decimal digits = n

theorem ofDigits_eq_decimal (digits : List Char) : ofDigits digits = decimal digits := by
  rw [decimal, Nat.ofDigits_eq_foldr, List.foldr_map, List.foldr_reverse, ofDigits]
  congr 1
  funext n c
  simp [digitValue, Nat.add_comm]

theorem unsigned_of_digits (all : ∀ c ∈ digits, c.isDigit = true) : unsigned digits = digits := by
  cases digits with
  | nil => rfl
  | cons c rest =>
    rw [unsigned]
    rintro _ opened
    cases opened
    cases all '+' List.mem_cons_self

theorem denotes_iff : Denotes cs n ↔ unsigned cs ≠ [] ∧ (∀ c ∈ unsigned cs, c.isDigit = true) ∧
    ofDigits (unsigned cs) = n := by
  constructor
  · rintro ⟨digits, signed, filled, all, rfl⟩
    have found : unsigned cs = digits := by
      rcases signed with rfl | rfl
      · exact unsigned_of_digits all
      · rfl
    rw [found, ofDigits_eq_decimal]
    exact ⟨filled, all, rfl⟩
  · rintro ⟨filled, all, rfl⟩
    refine ⟨unsigned cs, ?_, filled, all, (ofDigits_eq_decimal _).symm⟩
    unfold unsigned
    split
    · exact .inr rfl
    · exact .inl rfl

theorem read?_eq_some_iff {s : String} :
    read? bound s = some n ↔ Denotes s.toList n ∧ n < bound := by
  have same : ∀ c : Char, isDigit c = c.isDigit := fun _ => rfl
  rw [denotes_iff]
  simp only [read?]
  split
  · rename_i accepted
    have parts : (unsigned s.toList ≠ [] ∧ ∀ c ∈ unsigned s.toList, c.isDigit = true) ∧
        ofDigits (unsigned s.toList) < bound := by simpa [same] using accepted
    obtain ⟨⟨filled, all⟩, small⟩ := parts
    constructor
    · rintro ⟨⟩
      exact ⟨⟨filled, all, rfl⟩, small⟩
    · rintro ⟨⟨-, -, rfl⟩, -⟩
      rfl
  · rename_i refused
    refine iff_of_false nofun ?_
    rintro ⟨⟨filled, all, rfl⟩, small⟩
    exact refused (by simpa [same] using ⟨⟨filled, all⟩, small⟩)

/-- Nothing in a numeral is blank. -/
theorem Denotes.solid (written : Denotes cs n) (h : c ∈ cs) : isBlankChar c = false := by
  obtain ⟨digits, signed, -, all, -⟩ := written
  have solid : ∀ d ∈ digits, isBlankChar d = false := fun d hd =>
    Bool.eq_false_iff.mpr fun blank => by
      have digit : isDigit d = true := all d hd
      rw [isDigit_of_isBlankChar blank] at digit
      cases digit
  rcases signed with rfl | rfl
  · exact solid c h
  · rcases List.mem_cons.mp h with rfl | later
    · rfl
    · exact solid c later

theorem Denotes.filled (written : Denotes cs n) : cs ≠ [] := by
  obtain ⟨digits, signed, filled, -⟩ := written
  rcases signed with rfl | rfl
  · exact filled
  · exact List.cons_ne_nil _ _

end Numeral

end Brokerage.Text
