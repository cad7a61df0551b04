/-
  Connectivity.Text.Fields — cutting a text at a separator character. `n` separators give
  `n + 1` fields, so an empty text is one empty field.
-/

namespace Connectivity.Text

/-- The fields of a text between the separators. -/
def fields (sep : Char) : List Char → List (List Char)
  | [] => [[]]
  | c :: cs =>
    if c = sep then [] :: fields sep cs
    else
      match fields sep cs with
      | [] => [[c]]
      | f :: fs => (c :: f) :: fs

/-- The fields joined by the separator again. -/
def join (sep : Char) : List (List Char) → List Char
  | [] => []
  | [f] => f
  | f :: fs => f ++ sep :: join sep fs

theorem fields_ne_nil (sep : Char) (cs : List Char) : fields sep cs ≠ [] := by
  cases cs with
  | nil => simp [fields]
  | cons c cs =>
    unfold fields
    split
    · simp
    · split <;> simp

theorem join_fields (sep : Char) (cs : List Char) : join sep (fields sep cs) = cs := by
  induction cs with
  | nil => rfl
  | cons c cs ih =>
    have hne := fields_ne_nil sep cs
    cases hf : fields sep cs with
    | nil => exact absurd hf hne
    | cons f fs =>
      rw [hf] at ih
      by_cases h : c = sep
      · subst h
        simp [fields, hf, join, ih]
      · cases fs with
        | nil => simp_all [fields, join]
        | cons g gs => simp_all [fields, join]

end Connectivity.Text
