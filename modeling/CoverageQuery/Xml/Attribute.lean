import CoverageQuery.Xml.Event

/-!
# Attributes of a tag

Attributes are read one after the other; one that is malformed or repeats a name is passed over.
Reading goes on at the next white space after an unquoted value and after the equals sign of a
repeated name, and ends where a value or a closing quote is missing.
-/

namespace CoverageQuery.Xml

def isQuote (c : Char) : Bool := c == '"' || c == '\''

def skipWord (text : List Char) : List Char := text.dropWhile (fun c => !isSpace c)

theorem length_skipWord_le (text : List Char) : (skipWord text).length ≤ text.length :=
  Text.length_dropWhile_le _ text

/-- What stands after a name and an equals sign. -/
inductive AttributeValue where
  | quoted (raw rest : List Char)
  | unquoted (rest : List Char)
  | missing

def attributeValue (text : List Char) : AttributeValue :=
  match text.dropWhile isSpace with
  | [] => .missing
  | c :: rest =>
    if isQuote c then
      match Text.splitAt? c rest with
      | some (raw, rest) => .quoted raw rest
      | none => .missing
    else .unquoted (skipWord (c :: rest))

theorem length_of_quoted {text raw rest : List Char}
    (h : attributeValue text = .quoted raw rest) : rest.length < text.length + 1 := by
  have hd := Text.length_dropWhile_le isSpace text
  rw [attributeValue] at h
  split at h
  · cases h
  · next c body hc =>
    rw [hc, List.length_cons] at hd
    split at h
    · split at h
      · next p raw' rest' hs =>
        cases h
        have := Text.length_of_splitAt? hs
        omega
      · cases h
    · cases h

theorem length_of_unquoted {text rest : List Char}
    (h : attributeValue text = .unquoted rest) : rest.length < text.length + 1 := by
  have hd := Text.length_dropWhile_le isSpace text
  rw [attributeValue] at h
  split at h
  · cases h
  · next c body hc =>
    rw [hc, List.length_cons] at hd
    split at h
    · split at h <;> cases h
    · cases h
      have := length_skipWord_le (c :: body)
      rw [List.length_cons] at this
      omega

/-- The text from the first character after a name that is not white space. -/
def afterName (rest : List Char) : List Char :=
  (rest.dropWhile (fun c => c != '=' && !isSpace c)).dropWhile isSpace

theorem length_afterName_le (rest : List Char) : (afterName rest).length ≤ rest.length :=
  Nat.le_trans (Text.length_dropWhile_le _ _) (Text.length_dropWhile_le _ _)

/-- The attributes in a text, given the names that were read before it. -/
def attributes (seen : List (List Char)) (text : List Char) : List Attribute :=
  match _hs : text.dropWhile isSpace with
  | [] => []
  | c :: rest =>
    let name := c :: rest.takeWhile (fun c => c != '=' && !isSpace c)
    match _ha : afterName rest with
    | [] => []
    | '=' :: value =>
      if name ∈ seen then attributes seen (skipWord value)
      else
        match _hv : attributeValue value with
        | .quoted raw after => ⟨name, raw⟩ :: attributes (name :: seen) after
        | .unquoted after => attributes (name :: seen) after
        | .missing => []
    | d :: next => attributes seen (d :: next)
termination_by text.length
decreasing_by
  all_goals
    have hd := Text.length_dropWhile_le isSpace text
    have hr := length_afterName_le rest
    rw [_hs, List.length_cons] at hd
    rw [_ha, List.length_cons] at hr
  · have := length_skipWord_le value
    omega
  · have := length_of_quoted _hv
    omega
  · have := length_of_unquoted _hv
    omega
  · rw [List.length_cons]
    omega

end CoverageQuery.Xml
