/-!
# Pieces of texts

Splitting a text at every occurrence of a character, and its line ends.

* `splitOn_join`: the pieces, joined by the character, are the text.
-/

namespace RoleSchema.Text

/-- The pieces between occurrences of a character; one more than there are occurrences. -/
def splitOn (separator : Char) : List Char → List (List Char)
  | [] => [[]]
  | c :: rest =>
    match splitOn separator rest with
    | [] => [[c]]
    | piece :: pieces =>
      if c = separator then [] :: piece :: pieces else (c :: piece) :: pieces

/-- Joins pieces by a character. -/
def joinBy (separator : Char) : List (List Char) → List Char
  | [] => []
  | [piece] => piece
  | piece :: pieces => piece ++ separator :: joinBy separator pieces

theorem splitOn_ne_nil (separator : Char) (cs : List Char) : splitOn separator cs ≠ [] := by
  cases cs with
  | nil => simp [splitOn]
  | cons c rest =>
    rw [splitOn]
    split
    · simp
    · split <;> simp

theorem splitOn_join (separator : Char) (cs : List Char) :
    joinBy separator (splitOn separator cs) = cs := by
  induction cs with
  | nil => rfl
  | cons c rest ih =>
    rw [splitOn]
    split
    · exact absurd ‹_› (splitOn_ne_nil separator rest)
    · rename_i piece pieces h
      rw [h] at ih
      by_cases hc : c = separator
      · simp [hc, joinBy, ih]
      · cases pieces with
        | nil => simpa [hc, joinBy] using ih
        | cons q qs => simpa [hc, joinBy] using ih

/-- A text in which every line end is one line feed, however it was written. -/
def unifyLineEnds : List Char → List Char
  | '\r' :: '\n' :: rest => '\n' :: unifyLineEnds rest
  | '\r' :: rest => '\n' :: unifyLineEnds rest
  | c :: rest => c :: unifyLineEnds rest
  | [] => []

/-- The characters that end a line on a screen or separate records. -/
def endsLine (c : Char) : Bool :=
  let n := c.toNat
  (0x0A ≤ n && n ≤ 0x0D) || (0x1C ≤ n && n ≤ 0x1E) || n == 0x85 || n == 0x2028 || n == 0x2029

/-- The lines of a text, whichever character ends them; a carriage return and a line feed are one
end. The last line may lack its end. `line` holds the characters since the last end, from the
nearest on. -/
def screenLinesFrom (line : List Char) : List Char → List (List Char)
  | [] => if line.isEmpty then [] else [line.reverse]
  | '\r' :: '\n' :: rest => line.reverse :: screenLinesFrom [] rest
  | c :: rest =>
    if endsLine c then line.reverse :: screenLinesFrom [] rest
    else screenLinesFrom (c :: line) rest

/-- The lines of a text, whichever character ends them. -/
def screenLines (s : String) : List String := (screenLinesFrom [] s.toList).map String.ofList

/-- The lines of a text; the last one may lack its line feed. -/
def lines (cs : List Char) : List (List Char) :=
  match (splitOn '\n' cs).reverse with
  | [] :: pieces => pieces.reverse
  | pieces => pieces.reverse

end RoleSchema.Text
