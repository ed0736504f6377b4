import CoverageQuery.Domain.Direction
import CoverageQuery.Domain.Joining
import CoverageQuery.Domain.Mapping
import CoverageQuery.Domain.Punycode
import CoverageQuery.Text.Joined

/-!
# Domain names

Labels with full stops between them. A name in any script is written in ASCII after it has been
mapped: each label that is not ASCII becomes `xn--` and its code. A label that already has this form
must be the code of a label that mapping keeps.
-/

namespace CoverageQuery.Domain

/-- ASCII characters that end a host or have a meaning in an address. -/
def isForbidden (c : Char) : Bool :=
  c.toNat ≤ 0x20 || c.toNat == 0x7F || "%#/:<>?@[\\]^|".toList.contains c

/-- Whether a mapped label is one that a name may hold. -/
def isLabel (label : List Char) : Bool :=
  !label.head?.any Text.isMark && joinersFit [] label

/-- The label that a code stands for. -/
def decodeLabel? (code : List Char) : Option (List Char) :=
  match code.getLast? with
  | none | some '-' => none
  | some _ =>
    if code.all Punycode.isBasic then
      (Punycode.decode? code).filter fun label =>
        label.all isKept && decide (Text.IsNormal label) && isLabel label
    else none

/-- The label that is written in a mapped name. -/
def readLabel? (label : List Char) : Option (List Char) :=
  match label with
  | 'x' :: 'n' :: '-' :: '-' :: code => decodeLabel? code
  | _ => if isLabel label then some label else none

def writeLabel (label : List Char) : List Char :=
  if label.all Punycode.isBasic then label else "xn--".toList ++ Punycode.encode label

/-- The labels of a name in any script, none if it is no domain name. -/
def labels? (name : List Char) : Option (List (List Char)) := do
  let mapped ← map? name
  if mapped.any isForbidden then none
  else
    let labels ← (Text.fields '.' mapped).mapM readLabel?
    if labels.any runsRight && !labels.all isDirected then none else some labels

/-- A name in any script as it is written in ASCII. -/
def toAscii? (name : List Char) : Option (List Char) :=
  (labels? name).map fun labels => Text.joined ['.'] (labels.map writeLabel)

end CoverageQuery.Domain
