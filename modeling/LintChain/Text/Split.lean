/-!
Cutting a text at a character, and into lines. A line ends at a line feed, and a carriage return
right before that line feed belongs to the line's end; a carriage return anywhere else is text.
-/

namespace LintChain.Text

/-- The pieces between the occurrences of `sep`: one more than there are occurrences. -/
def fields (sep : Char) (text : List Char) : List (List Char) :=
  text.foldr
    (fun c pieces =>
      if c = sep then [] :: pieces
      else
        match pieces with
        | [] => [[c]]
        | piece :: rest => (c :: piece) :: rest)
    [[]]

/-- The pieces put together again with `sep` between them. -/
def unfields (sep : Char) : List (List Char) → List Char
  | [] => []
  | [piece] => piece
  | piece :: rest => piece ++ sep :: unfields sep rest

/-- Without a carriage return at its end, if there is one. -/
def dropReturn (line : List Char) : List Char :=
  if line.getLast? = some '\r' then line.dropLast else line

/-- A text that ends with a line feed has no line after it. -/
def lineChars (text : List Char) : List (List Char) :=
  let pieces := fields '\n' text
  let ended := pieces.dropLast.map dropReturn
  match pieces.getLast? with
  | some (c :: rest) => ended ++ [c :: rest]
  | _ => ended

def lines (text : String) : List String := (lineChars text.toList).map String.ofList

@[simp] theorem fields_nil (sep : Char) : fields sep [] = [[]] := rfl

theorem fields_ne_nil (sep : Char) (text : List Char) : fields sep text ≠ [] := by
  cases text with
  | nil => simp
  | cons c rest =>
    simp only [fields, List.foldr_cons]
    split
    · simp
    · split <;> simp

@[simp] theorem fields_cons_sep (sep : Char) (rest : List Char) :
    fields sep (sep :: rest) = [] :: fields sep rest := by
  simp [fields]

theorem fields_cons_of_ne {sep c : Char} (h : c ≠ sep) {rest piece : List Char}
    {pieces : List (List Char)} (hrest : fields sep rest = piece :: pieces) :
    fields sep (c :: rest) = (c :: piece) :: pieces := by
  simp only [fields, List.foldr_cons, h, if_false] at *
  rw [hrest]

/-- Cutting loses nothing. -/
theorem unfields_fields (sep : Char) (text : List Char) :
    unfields sep (fields sep text) = text := by
  induction text with
  | nil => rfl
  | cons c rest ih =>
    cases hf : fields sep rest with
    | nil => exact absurd hf (fields_ne_nil sep rest)
    | cons piece pieces =>
      rw [hf] at ih
      by_cases hc : c = sep
      · subst hc
        rw [fields_cons_sep, hf]
        simp [unfields, ih]
      · rw [fields_cons_of_ne hc hf]
        cases pieces with
        | nil => simpa [unfields] using ih
        | cons p ps => simpa [unfields] using ih

end LintChain.Text
