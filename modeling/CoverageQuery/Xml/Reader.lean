import CoverageQuery.Xml.Attribute

/-!
# Reading events

The events of a text up to its end or to the first markup that is malformed: an end tag that does
not match the tag it closes, a comment, declaration or character data that is not ended, or a
processing instruction without its second question mark. A tag that the text ends in is still
reported. Runs of text are trimmed, and empty ones are not reported.
-/

namespace CoverageQuery.Xml

/-- The content of a tag up to the `>` that is not quoted, or up to the end of the text. -/
def splitTag (quote : Option Char) : List Char → List Char × List Char
  | [] => ([], [])
  | c :: rest =>
    match quote with
    | none =>
      if c = '>' then ([], rest)
      else
        let (content, after) := splitTag (if isQuote c then some c else none) rest
        (c :: content, after)
    | some q =>
      let (content, after) := splitTag (if c = q then none else some q) rest
      (c :: content, after)

theorem length_splitTag_le (quote : Option Char) (text : List Char) :
    (splitTag quote text).2.length ≤ text.length := by
  induction text generalizing quote with
  | nil => exact Nat.le_refl _
  | cons c rest ih =>
    unfold splitTag
    split
    · split
      · exact Nat.le_succ _
      · exact Nat.le_succ_of_le (ih _)
    · exact Nat.le_succ_of_le (ih _)

/-- The text before the first `>` that `closes`, given the text before it, and the text after. -/
def splitClosed (closes : List Char → Bool) (before : List Char) :
    List Char → Option (List Char × List Char)
  | [] => none
  | c :: rest =>
    if c = '>' ∧ closes before.reverse then some (before.reverse, rest)
    else splitClosed closes (c :: before) rest

theorem length_of_splitClosed {closes : List Char → Bool} {before text content after : List Char}
    (h : splitClosed closes before text = some (content, after)) :
    after.length < text.length := by
  induction text generalizing before with
  | nil => cases h
  | cons c rest ih =>
    rw [splitClosed] at h
    split at h
    · cases h; exact Nat.lt_succ_self _
    · exact Nat.lt_succ_of_lt (ih h)

def endsWith (ending text : List Char) : Bool := ending.isSuffixOf text

/-- Does the text begin with this word, in either case of its letters? -/
def beginsWith (word text : List Char) : Bool :=
  word == (text.take word.length).map Char.toUpper

/-- The angle brackets in the text are balanced. -/
def balanced (text : List Char) : Bool := text.count '<' == text.count '>'

/-- What a `<!` begins, with the rest of the text, given the text after it. -/
def bang? (text : List Char) : Option (Event × List Char) :=
  match text with
  | '[' :: _ => do
    let (content, after) ← splitClosed (endsWith [']', ']']) [] text
    if beginsWith "[CDATA[".toList content then
      some (.data ((content.drop 7).dropLast.dropLast), after)
    else none
  | '-' :: _ => do
    let (content, after) ←
      splitClosed (fun c => 4 ≤ c.length && endsWith ['-', '-'] c) [] text
    if content.take 2 = ['-', '-'] then some (.other, after) else none
  | c :: _ =>
    if c = 'D' ∨ c = 'd' then do
      let (content, after) ← splitClosed balanced [] text
      if beginsWith "DOCTYPE".toList content ∧ (content.drop 7).any (fun c => !isSpace c) then
        some (.other, after)
      else none
    else none
  | [] => none

theorem length_of_bang? {text after : List Char} {e : Event}
    (h : bang? text = some (e, after)) : after.length < text.length := by
  have key : ∀ (closes : List Char → Bool) (f : List Char × List Char → Option (Event × List Char)),
      (∀ content rest, f (content, rest) = some (e, after) → rest = after) →
      (splitClosed closes [] text).bind f = some (e, after) → after.length < text.length := by
    intro closes f hf hb
    obtain ⟨⟨content, rest⟩, hs, hr⟩ := Option.bind_eq_some_iff.mp hb
    rw [← hf content rest hr]
    exact length_of_splitClosed hs
  unfold bang? at h
  split at h
  · refine key _ _ ?_ h
    intro content rest hr
    dsimp only at hr
    split at hr <;> cases hr
    rfl
  · refine key _ _ ?_ h
    intro content rest hr
    dsimp only at hr
    split at hr <;> cases hr
    rfl
  · split at h
    · refine key _ _ ?_ h
      intro content rest hr
      dsimp only at hr
      split at hr <;> cases hr
      rfl
    · cases h
  · cases h

def trimEnd (isBlank : Char → Bool) (text : List Char) : List Char :=
  (text.reverse.dropWhile isBlank).reverse

/-- The tag of an opening or self-closed element, and the names of the elements open after it. -/
def openTag (opened : List (List Char)) (content : List Char) : Event × List (List Char) :=
  let isName := fun c => !isSpace c
  if content.getLast? = some '/' then
    let inner := content.dropLast
    (.empty ⟨inner.takeWhile isName, attributes [] (inner.dropWhile isName)⟩, opened)
  else
    let name := content.takeWhile isName
    (.opening ⟨name, attributes [] (content.dropWhile isName)⟩, name :: opened)

/-- The name in an end tag: white space after it is no part of it unless there is nothing else. -/
def closedName (content : List Char) : List Char :=
  match trimEnd isSpace content with
  | [] => content
  | name => name

/-- The end tag of the innermost open element, with the elements that stay open. -/
def closeTag? (opened : List (List Char)) (content : List Char) :
    Option (Event × List (List Char)) :=
  match opened with
  | [] => none
  | name :: opened => if closedName content = name then some (.closing name, opened) else none

/-- Something and a question mark after it make a processing instruction or a declaration. -/
def IsInstruction (content : List Char) : Prop :=
  2 ≤ content.length ∧ content.getLast? = some '?'

instance (content : List Char) : Decidable (IsInstruction content) :=
  inferInstanceAs (Decidable (_ ∧ _))

/-- The event that a `<` begins, given the text after it. -/
def markup? (opened : List (List Char)) (text : List Char) :
    Option (Event × List (List Char) × List Char) :=
  match text with
  | [] => none
  | '!' :: rest => (bang? rest).map fun (event, after) => (event, opened, after)
  | '/' :: rest =>
    (closeTag? opened (Text.splitAt '>' rest).1).map fun (event, opened) =>
      (event, opened, (Text.splitAt '>' rest).2)
  | '?' :: rest =>
    if IsInstruction (Text.splitAt '>' rest).1 then
      some (.other, opened, (Text.splitAt '>' rest).2)
    else none
  | text =>
    let tag := openTag opened (splitTag none text).1
    some (tag.1, tag.2, (splitTag none text).2)

theorem length_of_markup? {opened opened' : List (List Char)} {text after : List Char} {e : Event}
    (h : markup? opened text = some (e, opened', after)) : after.length ≤ text.length := by
  unfold markup? at h
  split at h
  · cases h
  · next rest =>
    obtain ⟨⟨event, after'⟩, hb, he⟩ := Option.map_eq_some_iff.mp h
    cases he
    have := length_of_bang? hb
    simp only [List.length_cons]
    omega
  · next rest =>
    have := Text.length_splitAt_le '>' rest
    obtain ⟨⟨event, opened''⟩, hb, he⟩ := Option.map_eq_some_iff.mp h
    cases he
    simp only [List.length_cons]
    omega
  · next rest =>
    have := Text.length_splitAt_le '>' rest
    split at h
    · cases h
      simp only [List.length_cons]
      omega
    · cases h
  · cases h
    exact length_splitTag_le none _

/-- The events of a text inside elements of these names, the innermost first. -/
def eventsIn (opened : List (List Char)) (text : List Char) : List Event :=
  match _hs : text.dropWhile isSpace with
  | [] => []
  | '<' :: rest =>
    match _hm : markup? opened rest with
    | some (event, opened, after) => event :: eventsIn opened after
    | none => []
  | c :: rest =>
    .text (trimEnd isSpace (c :: rest.takeWhile (· != '<'))) ::
      eventsIn opened (rest.dropWhile (· != '<'))
termination_by text.length
decreasing_by
  all_goals
    have hd := Text.length_dropWhile_le isSpace text
    rw [_hs, List.length_cons] at hd
  · have := length_of_markup? _hm
    omega
  · have := Text.length_dropWhile_le (· != '<') rest
    omega

/-- The events of a document, a byte order mark at its start aside. -/
def events (document : List Char) : List Event :=
  eventsIn [] (match document with | '\ufeff' :: text => text | text => text)

end CoverageQuery.Xml
