/-!
Blank characters: the 25 code points with the property White_Space, and the two questions asked
of them: is a text blank, and what is left of it without the blanks at its ends.
-/

namespace Brokerage.Text

/-- The ranges of code points that are blank, in ascending order, both ends included. -/
def blankRanges : List (Nat × Nat) :=
  [(0x9, 0xd), (0x20, 0x20), (0x85, 0x85), (0xa0, 0xa0), (0x1680, 0x1680), (0x2000, 0x200a),
    (0x2028, 0x2029), (0x202f, 0x202f), (0x205f, 0x205f), (0x3000, 0x3000)]

/-- Whether `c` lies in one of `ranges`. -/
def inRanges (ranges : List (Nat × Nat)) (c : Char) : Bool :=
  ranges.any fun (low, high) => low ≤ c.toNat && c.toNat ≤ high

def isBlankChar (c : Char) : Bool := inRanges blankRanges c

/-- Every character of `s` is blank; the empty text is blank. -/
def isBlank (s : String) : Bool := s.toList.all isBlankChar

/-- `cs` without the blanks at both ends. -/
def trimChars (cs : List Char) : List Char :=
  ((cs.dropWhile isBlankChar).reverse.dropWhile isBlankChar).reverse

/-- `s` without the blanks at both ends. -/
def trim (s : String) : String := String.ofList (trimChars s.toList)

/-- Only blanks are trimmed off. -/
theorem exists_trimChars (cs : List Char) : ∃ before after, cs = before ++ trimChars cs ++ after ∧
    ∀ c ∈ before ++ after, isBlankChar c = true := by
  let rest := cs.dropWhile isBlankChar
  refine ⟨cs.takeWhile isBlankChar, (rest.reverse.takeWhile isBlankChar).reverse, ?_, ?_⟩
  · have ends : trimChars cs ++ (rest.reverse.takeWhile isBlankChar).reverse = rest := by
      rw [trimChars, ← List.reverse_append, List.takeWhile_append_dropWhile, List.reverse_reverse]
    rw [List.append_assoc, ends, List.takeWhile_append_dropWhile]
  · intro c h
    rcases List.mem_append.mp h with front | back
    · exact List.all_eq_true.mp List.all_takeWhile c front
    · exact List.all_eq_true.mp List.all_takeWhile c (List.mem_reverse.mp back)

/-- All blanks around characters that are none are trimmed off. -/
theorem trimChars_of_padded {before middle after : List Char}
    (blank : ∀ c ∈ before ++ after, isBlankChar c = true) (filled : middle ≠ [])
    (solid : ∀ c ∈ middle, isBlankChar c = false) :
    trimChars (before ++ middle ++ after) = middle := by
  have front : ∀ c ∈ before, isBlankChar c = true := fun c h => blank c (List.mem_append_left _ h)
  have back : ∀ c ∈ after.reverse, isBlankChar c = true := fun c h =>
    blank c (List.mem_append_right _ (List.mem_reverse.mp h))
  have stays : ∀ {cs : List Char} (rest : List Char), cs ≠ [] →
      (∀ c ∈ cs, isBlankChar c = false) → (cs ++ rest).dropWhile isBlankChar = cs ++ rest := by
    rintro (_ | ⟨c, cs⟩) rest filled solid
    · exact absurd rfl filled
    · exact List.dropWhile_cons_of_neg (by simp [solid c List.mem_cons_self])
  have solid' : ∀ c ∈ middle.reverse, isBlankChar c = false := fun c h =>
    solid c (List.mem_reverse.mp h)
  have ends := stays [] (List.reverse_ne_nil_iff.mpr filled) solid'
  rw [List.append_nil] at ends
  rw [trimChars, List.append_assoc, List.dropWhile_append_of_pos front, stays after filled solid,
    List.reverse_append, List.dropWhile_append_of_pos back, ends, List.reverse_reverse]

end Brokerage.Text
