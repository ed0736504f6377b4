import CoverageQuery.Text.Scan

/-!
# Punycode

A text of any characters as one of letters, digits and hyphens. The ASCII characters come first; the
others follow in ascending order, each as the distance from the one before it.
-/

namespace CoverageQuery.Domain.Punycode

/-- The letters are the digits up to 25 and the numerals those from 26 to 35. -/
def digitChar (d : Nat) : Char :=
  if d < 26 then Char.ofNat ('a'.toNat + d) else Char.ofNat ('0'.toNat + (d - 26))

def digitValue? (c : Char) : Option Nat :=
  if 'a' ≤ c ∧ c ≤ 'z' then some (c.toNat - 'a'.toNat)
  else if c.isDigit then some (c.toNat - '0'.toNat + 26)
  else none

/-- Smaller digits end a number. The places of a number are 36, 72 and so on. -/
def threshold (bias place : Nat) : Nat := min (max (place - bias) 1) 26

theorem threshold_pos (bias place : Nat) : 0 < threshold bias place := by
  unfold threshold
  omega

/-- The bias that goes with a distance: how often it has to be divided to become small. -/
def biasOf (distance bias : Nat) : Nat :=
  if 455 < distance then biasOf (distance / 35) (bias + 36)
  else bias + 36 * distance / (distance + 38)
termination_by distance
decreasing_by omega

/-- The bias after a distance, once `count` characters are written. -/
def adapt (distance count : Nat) (first : Bool) : Nat :=
  let damped := if first then distance / 700 else distance / 2
  biasOf (damped + damped / count) 0

/-- The digits of a number, the least one first. -/
def writeNumber (bias place n : Nat) : List Char :=
  let t := threshold bias place
  if n < t then [digitChar n]
  else digitChar (t + (n - t) % (36 - t)) :: writeNumber bias (place + 36) ((n - t) / (36 - t))
termination_by n
decreasing_by
  have _hp := threshold_pos bias place
  have _hd := Nat.div_le_self (n - threshold bias place) (36 - threshold bias place)
  omega

/-- A number and the text after its digits. -/
def readNumber? (bias place weight : Nat) : List Char → Option (Nat × List Char)
  | [] => none
  | c :: rest => do
    let d ← digitValue? c
    let t := threshold bias place
    if d < t then some (d * weight, rest)
    else
      let (n, after) ← readNumber? bias (place + 36) (weight * (36 - t)) rest
      some (d * weight + n, after)

theorem length_of_readNumber? {bias place weight n : Nat} {text after : List Char}
    (h : readNumber? bias place weight text = some (n, after)) : after.length < text.length := by
  induction text generalizing place weight n with
  | nil => cases h
  | cons c rest ih =>
    rw [readNumber?] at h
    cases hd : digitValue? c with
    | none => rw [hd] at h; cases h
    | some d =>
      rw [hd] at h
      simp only [Option.bind_eq_bind, Option.bind_some] at h
      split at h
      · cases h; exact Nat.lt_succ_self _
      · cases hn : readNumber? bias (place + 36) (weight * (36 - threshold bias place)) rest with
        | none => rw [hn] at h; cases h
        | some p => rw [hn] at h; cases h; exact Nat.lt_succ_of_lt (ih hn)

/-- What has been written: the digits, the distance that has grown since and the bias of the next
number. -/
structure Progress where
  digits : List Char
  distance : Nat
  bias : Nat
  written : Nat

/-- Passes by one character of the text while writing those at a code point. -/
def Progress.pass (basic point : Nat) (p : Progress) (c : Char) : Progress :=
  if c.toNat < point then { p with distance := p.distance + 1 }
  else if c.toNat = point then
    ⟨p.digits ++ writeNumber p.bias 36 p.distance, 0,
      adapt p.distance (p.written + 1) (p.written == basic), p.written + 1⟩
  else p

/-- Writes the characters at some ascending code points, the first of which is at least `low`. -/
def writePoints (text : List Char) (basic : Nat) (low : Nat) (p : Progress) : List Nat → Progress
  | [] => p
  | point :: points =>
    let start := { p with distance := p.distance + (point - low) * (p.written + 1) }
    let passed := text.foldl (Progress.pass basic point) start
    writePoints text basic (point + 1) { passed with distance := passed.distance + 1 } points

def isBasic (c : Char) : Bool := c.toNat < 128

def encode (text : List Char) : List Char :=
  let basic := text.filter isBasic
  let points := ((text.filter (!isBasic ·)).map Char.toNat).mergeSort.eraseDups
  let digits := (writePoints text basic.length 128 ⟨[], 0, 72, basic.length⟩ points).digits
  if basic = [] then digits else basic ++ '-' :: digits

/-- Reads the numbers of a text and puts the character of each one in its place. -/
def insertNumbers (bias point index : Nat) (text : List Char) : List Char → Option (List Char)
  | [] => some text
  | c :: rest =>
    match _h : readNumber? bias 36 1 (c :: rest) with
    | none => none
    | some (distance, after) =>
      let count := text.length + 1
      let next := point + (index + distance) / count
      let place := (index + distance) % count
      if next.isValidChar then
        insertNumbers (adapt distance count (index == 0)) next (place + 1)
          (text.insertIdx place (Char.ofNat next)) after
      else none
termination_by digits => digits.length
decreasing_by exact length_of_readNumber? _h

/-- The text that a code stands for. Where there is no hyphen after a character, none of the code
is ASCII text. -/
def decode? (code : List Char) : Option (List Char) :=
  match Text.splitAt? '-' code.reverse with
  | some (digits, c :: basic) => insertNumbers 72 128 0 (c :: basic).reverse digits.reverse
  | _ => insertNumbers 72 128 0 [] code

end CoverageQuery.Domain.Punycode
