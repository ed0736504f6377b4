import CoverageQuery.Decimal.Basic
import CoverageQuery.Kind
import CoverageQuery.Text.Quoted

/-!
# What can go wrong while a query is built

Each error is a cause with the data it concerns; `QueryError.message` is the one place where the
wording is decided.
-/

namespace CoverageQuery

inductive DatePart where
  | year | month | day
deriving DecidableEq, Repr

inductive ColorChannel where
  | red | green | blue
deriving DecidableEq, Repr

def ColorChannel.name : ColorChannel → String
  | red => "red"
  | green => "green"
  | blue => "blue"

/-- What a reader of subset texts was looking for where it stopped. -/
inductive Expected where
  | name
  | punctuation
  | digit
  | dateDigits
deriving DecidableEq, Repr

/-- The name under which an expectation is reported. -/
def Expected.label : Expected → String
  | name => "TakeWhile1"
  | punctuation => "Char"
  | digit => "Digit"
  | dateDigits => "TakeWhileMN"

/-- Why a text is not an axis subset or a date label. -/
inductive ReadError where
  | stuck (rest : List Char) (expected : Expected)
  | leftover (rest : List Char)
deriving DecidableEq, Repr

inductive AxisFault where
  | blankName
  | nonFinite (name : String)
deriving DecidableEq, Repr

/-- What is wrong with a tuple of a grid or of a polygon. -/
inductive TupleFault where
  | length (found : Nat)
  | kind (found : Kind)
  | nonFinite
deriving DecidableEq, Repr

/-- Why a value may not stand in an expression. -/
inductive OperandFault where
  | nonFinite
  | kind (found : Kind)
deriving DecidableEq, Repr

inductive QueryError where
  | operand (fault : OperandFault)
  | condition (found : Kind)
  | arity (expected found : Nat)
  | element (index : Nat) (fault : TupleFault)
  | emptyCases
  | unknownFormat (name : String)
  | noCoverage
  | emptySubset
  | invalidAxis (fault : AxisFault)
  | mismatchedBounds
  | invalidDate (part : DatePart) (found : Int)
  | colorOutOfRange (channel : ColorChannel) (found : Int)
  | unreadable (error : ReadError)
  | missingCoverageId (request : RequestKind)
deriving DecidableEq, Repr

/-- The values that a part of a date may have. -/
def DatePart.Allows : DatePart → Int → Prop
  | year, n => 1000 ≤ n ∧ n ≤ 9999
  | month, n => 1 ≤ n ∧ n ≤ 12
  | day, n => 1 ≤ n ∧ n ≤ 31

instance (part : DatePart) (n : Int) : Decidable (part.Allows n) :=
  match part with
  | .year => inferInstanceAs (Decidable (1000 ≤ n ∧ n ≤ 9999))
  | .month => inferInstanceAs (Decidable (1 ≤ n ∧ n ≤ 12))
  | .day => inferInstanceAs (Decidable (1 ≤ n ∧ n ≤ 31))

def DatePart.requirement : DatePart → String
  | year => "year must have four digits"
  | month => "month must be between 1 and 12"
  | day => "day must be between 1 and 31"

def intText (n : Int) : String := String.ofList (intChars n)

def natText (n : Nat) : String := String.ofList (digitChars n)

def ReadError.message : ReadError → String
  | stuck rest expected =>
    "Parse error: Error(Error \x7b input: " ++ String.ofList (Text.quoted rest) ++ ", code: " ++
      expected.label ++ " \x7d)"
  | leftover rest => "Unexpected input after subset: '" ++ String.ofList rest ++ "'"

def AxisFault.message : AxisFault → String
  | blankName => "axis name must not be empty"
  | nonFinite name => "non-finite bound on axis " ++ name

def TupleFault.message (index : Nat) : TupleFault → String
  | length found =>
    "tuple " ++ natText index ++ " must hold exactly 2 numbers, found " ++ natText found ++
      " elements"
  | kind found =>
    "tuple " ++ natText index ++ " holds a " ++ found.name ++ ", expected a number"
  | nonFinite => "tuple " ++ natText index ++ " holds a non-finite number"

def OperandFault.name : OperandFault → String
  | nonFinite => "non-finite number"
  | kind found => found.name

namespace QueryError

def message : QueryError → String
  | operand fault =>
    "Invalid operand kind: " ++ fault.name ++ " is not allowed in an expression"
  | condition found => "Invalid condition: expected a comparison, got " ++ found.name
  | arity expected found =>
    "Arity error: expected " ++ natText expected ++ " tuples, got " ++ natText found
  | element index fault => "Element type error: " ++ fault.message index
  | emptyCases => "Switch requires at least one case"
  | unknownFormat name => "Unknown output format: " ++ name
  | noCoverage => "No coverage specified"
  | emptySubset => "No axes provided for subset"
  | invalidAxis fault => "Invalid axis: " ++ fault.message
  | mismatchedBounds => "Interval bounds must both be numbers or both be dates"
  | invalidDate part found => "Invalid date: " ++ part.requirement ++ ", got " ++ intText found
  | colorOutOfRange channel found =>
    "Color channel " ++ channel.name ++ " out of range: " ++ intText found
  | unreadable error => "Parse error: " ++ error.message
  | missingCoverageId request =>
    "Invalid request: Missing coverageId parameter for " ++ request.name

end QueryError

end CoverageQuery
