/-!
Pieces of a text: what stands between the occurrences of a separator. There is always one piece
more than there are separators, so the empty text is one empty piece.
-/

namespace Brokerage.Text

/-- The pieces of `cs` between occurrences of `c`. -/
def pieces (c : Char) : List Char → List (List Char)
  | [] => [[]]
  | d :: rest =>
    if d = c then [] :: pieces c rest
    else
      match pieces c rest with
      | [] => [[d]]
      | piece :: more => (d :: piece) :: more

/-- Pieces with a separator between two. -/
def joined (c : Char) (parts : List (List Char)) : List Char := List.intercalate [c] parts

/-- What stands before the first `c`, and what stands after it. -/
def cut (c : Char) (cs : List Char) : List Char × List Char :=
  (cs.takeWhile (· != c), (cs.dropWhile (· != c)).drop 1)

/-- `cs` without `start`, if it starts so. -/
def after? (start : String) (cs : List Char) : Option (List Char) :=
  if start.toList.isPrefixOf cs then some (cs.drop start.length) else none

/-- Nothing of a text is lost behind its start. -/
theorem after?_append (start : String) (cs : List Char) :
    after? start (start.toList ++ cs) = some cs := by
  rw [after?, if_pos (by simp), ← String.length_toList, List.drop_left]

theorem pieces_ne_nil (c : Char) (cs : List Char) : pieces c cs ≠ [] := by
  cases cs with
  | nil => simp [pieces]
  | cons d rest =>
    simp only [pieces]
    split
    · simp
    · split <;> simp

variable {c : Char} {cs : List Char}

theorem cut_append (absent : c ∉ cs) (rest : List Char) : cut c (cs ++ c :: rest) = (cs, rest) := by
  have passed : ∀ d ∈ cs, (d != c) = true := fun d hd => bne_iff_ne.mpr fun same => absent (same ▸ hd)
  rw [cut, List.takeWhile_append_of_pos passed, List.dropWhile_append_of_pos passed]
  simp

theorem pieces_of_absent (absent : c ∉ cs) : pieces c cs = [cs] := by
  induction cs with
  | nil => rfl
  | cons d rest ih =>
    have other : d ≠ c := fun same => absent (List.mem_cons.mpr (.inl same.symm))
    rw [pieces, if_neg other, ih fun h => absent (List.mem_cons_of_mem d h)]

/-- A separator parts the pieces before it from those after it. -/
theorem pieces_append (cs rest : List Char) :
    pieces c (cs ++ c :: rest) = pieces c cs ++ pieces c rest := by
  induction cs with
  | nil => simp [pieces]
  | cons d cs ih =>
    rw [List.cons_append, pieces, pieces]
    split
    · rw [ih, List.cons_append]
    · rw [ih]
      cases hp : pieces c cs with
      | nil => exact absurd hp (pieces_ne_nil c cs)
      | cons piece more => rfl

/-- Parts that are added behind separators of their own are the last pieces. -/
theorem pieces_append_flatMap {parts : List (List Char)} (absent : ∀ part ∈ parts, c ∉ part)
    (cs : List Char) : pieces c (cs ++ parts.flatMap (c :: ·)) = pieces c cs ++ parts := by
  induction parts generalizing cs with
  | nil => rw [List.flatMap_nil, List.append_nil, List.append_nil]
  | cons part parts ih =>
    obtain ⟨first, others⟩ := List.forall_mem_cons.mp absent
    rw [List.flatMap_cons, List.cons_append, pieces_append, ih others, pieces_of_absent first]
    rfl

end Brokerage.Text
