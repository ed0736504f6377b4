/-!
# Kinds

The short names under which values and requests appear in messages.
-/

namespace CoverageQuery

/-- What a value offered as an operand is. -/
inductive Kind where
  | coverage | arithmetic | comparison | number | aggregation | mathFunction
  | text | boolean | date | color
deriving DecidableEq, Repr

def Kind.name : Kind → String
  | coverage => "coverage"
  | arithmetic => "arithmetic expression"
  | comparison => "comparison expression"
  | number => "number"
  | aggregation => "aggregation"
  | mathFunction => "math function"
  | text => "text"
  | boolean => "boolean"
  | date => "date"
  | color => "color"

/-- The requests that a coverage service answers. -/
inductive RequestKind where
  | capabilities | describe | coverage | process
deriving DecidableEq, Repr

def RequestKind.name : RequestKind → String
  | capabilities => "GetCapabilities"
  | describe => "DescribeCoverage"
  | coverage => "GetCoverage"
  | process => "ProcessCoverages"

end CoverageQuery
