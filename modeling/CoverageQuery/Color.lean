import CoverageQuery.QueryError

/-!
# Colors

Three channels between 0 and 255, checked in the order red, green, blue.
-/

namespace CoverageQuery

structure Color where
  red : UInt8
  green : UInt8
  blue : UInt8
deriving DecidableEq, Repr

namespace Color

def channel (which : ColorChannel) (value : Int) : Except QueryError UInt8 :=
  if 0 ≤ value ∧ value ≤ 255 then .ok (UInt8.ofNat value.toNat)
  else .error (.colorOutOfRange which value)

def ofChannels (red green blue : Int) : Except QueryError Color := do
  let red ← channel .red red
  let green ← channel .green green
  let blue ← channel .blue blue
  pure ⟨red, green, blue⟩

def chars (c : Color) : List Char :=
  "\x7bred: ".toList ++ digitChars c.red.toNat ++ "; green: ".toList ++ digitChars c.green.toNat ++
    "; blue: ".toList ++ digitChars c.blue.toNat ++ "\x7d".toList

end Color

end CoverageQuery
