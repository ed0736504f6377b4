/-!
# Scanning

Cutting a text at the first character of a kind, or at all of them. The lengths matter to readers
that call themselves on what is left.
-/

namespace CoverageQuery.Text

theorem length_dropWhile_le {α : Type} (p : α → Bool) (xs : List α) :
    (xs.dropWhile p).length ≤ xs.length := by
  induction xs with
  | nil => exact Nat.le_refl 0
  | cons x xs ih =>
    rw [List.dropWhile_cons]
    split
    · exact Nat.le_succ_of_le ih
    · exact Nat.le_refl _

/-- The text before the first occurrence of a character and the text after it, none where the
character does not occur. -/
def splitAt? (c : Char) : List Char → Option (List Char × List Char)
  | [] => none
  | d :: text =>
    if d = c then some ([], text)
    else (splitAt? c text).map fun (before, after) => (d :: before, after)

theorem splitAt?_eq_some {c : Char} {text before after : List Char}
    (h : splitAt? c text = some (before, after)) : text = before ++ c :: after := by
  induction text generalizing before with
  | nil => cases h
  | cons d text ih =>
    rw [splitAt?] at h
    split at h
    · next hd => cases h; rw [hd]; rfl
    · obtain ⟨⟨b, a⟩, hb, he⟩ := Option.map_eq_some_iff.mp h
      cases he
      rw [List.cons_append, ← ih hb]

theorem length_of_splitAt? {c : Char} {text before after : List Char}
    (h : splitAt? c text = some (before, after)) :
    text.length = before.length + 1 + after.length := by
  rw [splitAt?_eq_some h, List.length_append, List.length_cons]
  omega

/-- Like `splitAt?`, with the whole text before where the character does not occur. -/
def splitAt (c : Char) (text : List Char) : List Char × List Char :=
  (splitAt? c text).getD (text, [])

theorem length_splitAt_le (c : Char) (text : List Char) :
    (splitAt c text).2.length ≤ text.length := by
  rw [splitAt]
  cases h : splitAt? c text with
  | none => exact Nat.zero_le _
  | some p =>
    obtain ⟨before, after⟩ := p
    have := length_of_splitAt? h
    simp only [Option.getD_some]
    omega

/-- The texts between the occurrences of a character, of which there is always one. -/
def fields (c : Char) : List Char → List (List Char)
  | [] => [[]]
  | d :: text =>
    if d = c then [] :: fields c text
    else
      match fields c text with
      | [] => [[d]]
      | field :: rest => (d :: field) :: rest

@[simp] theorem fields_nil (c : Char) : fields c [] = [[]] := rfl

theorem fields_ne_nil (c : Char) (text : List Char) : fields c text ≠ [] := by
  cases text with
  | nil => exact List.cons_ne_nil _ _
  | cons d text =>
    rw [fields]
    split
    · exact List.cons_ne_nil _ _
    · split <;> exact List.cons_ne_nil _ _

end CoverageQuery.Text
