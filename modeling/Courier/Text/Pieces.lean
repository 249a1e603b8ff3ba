/-!
# Pieces of a text

A text is cut at every occurrence of a separator, so there is always one piece more than there
are separators, and none of them holds the separator.
-/

namespace Courier.Text

/-- The stretches of `cs` between the occurrences of `sep`; empty stretches count. -/
def pieces (sep : Char) : List Char → List (List Char)
  | [] => [[]]
  | c :: rest =>
    if c = sep then [] :: pieces sep rest
    else
      match pieces sep rest with
      | [] => [[c]]
      | piece :: others => (c :: piece) :: others

theorem pieces_ne_nil (sep : Char) (cs : List Char) : pieces sep cs ≠ [] := by
  cases cs with
  | nil => simp [pieces]
  | cons c rest =>
    unfold pieces
    split
    · simp
    · split <;> simp

/-- No piece holds the separator. -/
theorem not_mem_of_mem_pieces {sep : Char} {cs piece : List Char}
    (h : piece ∈ pieces sep cs) : sep ∉ piece := by
  induction cs generalizing piece with
  | nil => simp_all [pieces]
  | cons c rest ih =>
    unfold pieces at h
    split at h
    · rcases List.mem_cons.1 h with rfl | h
      · simp
      · exact ih h
    · rename_i hc
      split at h
      · rename_i hp
        exact absurd hp (pieces_ne_nil sep rest)
      · rename_i first others hp
        rcases List.mem_cons.1 h with rfl | h
        · have := @ih first (by simp [hp])
          simp [this, Ne.symm hc]
        · exact ih (by simp [hp, h])

/-- The texts one after another with `sep` between neighbours. -/
def join (sep : String) : List String → String
  | [] => ""
  | [text] => text
  | text :: rest => text ++ sep ++ join sep rest

end Courier.Text
