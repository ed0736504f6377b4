import CoverageQuery.Text.Mark

/-!
# Direction

The rule for labels of a name in which some text runs from right to left. It keeps the characters of
a label together where the name is displayed.
-/

namespace CoverageQuery.Domain

inductive Direction where
  | left
  | right
  | europeanNumber
  | arabicNumber
  | weak
  | nonspacing
deriving DecidableEq, Repr

/-- The characters of a domain name that do not run from left to right (Unicode 17.0), marks
apart. -/
def directionRanges : List (Nat × Nat × Direction) :=
  [(0x0, 0x2F, .weak), (0x30, 0x39, .europeanNumber), (0x3A, 0x60, .weak), (0x7B, 0xD7, .weak),
   (0xF7, 0xF7, .weak), (0x2B9, 0x2BA, .weak), (0x2C2, 0x2CF, .weak), (0x2D2, 0x2ED, .weak),
   (0x2EF, 0x2FF, .weak), (0x375, 0x375, .weak), (0x3F6, 0x3F6, .weak), (0x58A, 0x58F, .weak),
   (0x5BE, 0x5BE, .right), (0x5C0, 0x5C0, .right), (0x5C3, 0x5C3, .right), (0x5C6, 0x5C6, .right),
   (0x5D0, 0x5F4, .right), (0x606, 0x607, .weak), (0x608, 0x608, .right), (0x609, 0x60A, .weak),
   (0x60B, 0x60B, .right), (0x60C, 0x60C, .weak), (0x60D, 0x60D, .right), (0x60E, 0x60F, .weak),
   (0x61B, 0x64A, .right), (0x660, 0x669, .arabicNumber), (0x66A, 0x66A, .weak),
   (0x66B, 0x66C, .arabicNumber), (0x66D, 0x66F, .right), (0x671, 0x6D5, .right),
   (0x6DE, 0x6DE, .weak), (0x6E5, 0x6E6, .right), (0x6E9, 0x6E9, .weak), (0x6EE, 0x6EF, .right),
   (0x6F0, 0x6F9, .europeanNumber), (0x6FA, 0x710, .right), (0x712, 0x72F, .right),
   (0x74D, 0x7A5, .right), (0x7B1, 0x7EA, .right), (0x7F4, 0x7F5, .right), (0x7F6, 0x7F9, .weak),
   (0x7FA, 0x7FA, .right), (0x7FE, 0x815, .right), (0x81A, 0x81A, .right), (0x824, 0x824, .right),
   (0x828, 0x828, .right), (0x830, 0x858, .right), (0x85E, 0x88F, .right), (0x8A0, 0x8C9, .right),
   (0x9F2, 0x9F3, .weak), (0x9FB, 0x9FB, .weak), (0xAF1, 0xAF1, .weak), (0xBF3, 0xBFA, .weak),
   (0xC78, 0xC7E, .weak), (0xE3F, 0xE3F, .weak), (0xF3A, 0xF3D, .weak), (0x1390, 0x1399, .weak),
   (0x1400, 0x1400, .weak), (0x169B, 0x169C, .weak), (0x17DB, 0x17DB, .weak),
   (0x17F0, 0x180A, .weak), (0x1940, 0x1945, .weak), (0x19DE, 0x19FF, .weak),
   (0x200C, 0x20C1, .weak), (0x2104, 0x214D, .weak), (0x218A, 0x2335, .weak),
   (0x237B, 0x2394, .weak), (0x2396, 0x26AB, .weak), (0x26AD, 0x27FF, .weak),
   (0x2900, 0x2BFF, .weak), (0x2CE5, 0x2CEA, .weak), (0x2CF9, 0x2CFF, .weak),
   (0x2E00, 0x3004, .weak), (0x3008, 0x3020, .weak), (0x3030, 0x3030, .weak),
   (0x3037, 0x3037, .weak), (0x303D, 0x303F, .weak), (0x30A0, 0x30A0, .weak),
   (0x30FB, 0x30FB, .weak), (0x31C0, 0x31E5, .weak), (0x4DC0, 0x4DFF, .weak),
   (0xA490, 0xA4C6, .weak), (0xA60D, 0xA60F, .weak), (0xA673, 0xA673, .weak),
   (0xA67E, 0xA67F, .weak), (0xA700, 0xA721, .weak), (0xA788, 0xA788, .weak),
   (0xA828, 0xA82B, .weak), (0xA838, 0xA839, .weak), (0xA874, 0xA877, .weak),
   (0xAB6A, 0xAB6B, .weak), (0xFBB2, 0xFBC2, .right), (0xFBC3, 0xFDFF, .weak),
   (0xFE45, 0xFE46, .weak), (0xFE73, 0xFE73, .right), (0x10101, 0x10101, .weak),
   (0x10140, 0x1018C, .weak), (0x10190, 0x101A0, .weak), (0x102E1, 0x102FB, .europeanNumber),
   (0x10800, 0x1091B, .right), (0x1091F, 0x1091F, .weak), (0x10920, 0x10A00, .right),
   (0x10A10, 0x10A35, .right), (0x10A40, 0x10AE4, .right), (0x10AEB, 0x10B35, .right),
   (0x10B39, 0x10B3F, .weak), (0x10B40, 0x10D23, .right), (0x10D30, 0x10D49, .arabicNumber),
   (0x10D4A, 0x10D4F, .right), (0x10D6E, 0x10D6E, .weak), (0x10D6F, 0x10D8F, .right),
   (0x10E60, 0x10E7E, .arabicNumber), (0x10E80, 0x10EA9, .right), (0x10EAD, 0x10EC7, .right),
   (0x10ED0, 0x10ED8, .weak), (0x10F00, 0x10F45, .right), (0x10F51, 0x10F81, .right),
   (0x10F86, 0x10FF6, .right), (0x11052, 0x11065, .weak), (0x11660, 0x1166C, .weak),
   (0x11FD5, 0x11FF1, .weak), (0x16FE2, 0x16FE2, .weak), (0x1CC00, 0x1CEF0, .weak),
   (0x1D1E9, 0x1D241, .weak), (0x1D245, 0x1D245, .weak), (0x1D300, 0x1D356, .weak),
   (0x1E2FF, 0x1E2FF, .weak), (0x1E800, 0x1E8CF, .right), (0x1E922, 0x1E943, .right),
   (0x1E94B, 0x1ED3D, .right), (0x1EEF0, 0x1F12F, .weak), (0x1F16D, 0x1F16F, .weak),
   (0x1F1AD, 0x1F1AD, .weak), (0x1F260, 0x1FBFA, .weak)]

/-- Marks that run from left to right like letters. -/
def spacedMarks : List Nat := [0xCBF, 0xCC6, 0x11A07, 0x11A08, 0x11C3F]

def direction (c : Char) : Direction :=
  if spacedMarks.contains c.toNat then .left
  else if Text.isNonspacing c then .nonspacing
  else (Text.valueIn? directionRanges c.toNat).getD .left

/-- Whether the directions in a label may stand together, given the first of them. -/
def Direction.leads (first : Direction) (all : List Direction) : Bool :=
  let last? := (all.filter (· ≠ nonspacing)).getLast?
  match first with
  | left =>
    all.all (fun d => d ≠ right && d ≠ arabicNumber) &&
      last?.all fun d => d == left || d == europeanNumber
  | right =>
    all.all (· ≠ left) && last?.all (fun d => d ≠ weak) &&
      !(all.contains europeanNumber && all.contains arabicNumber)
  | _ => false

/-- Whether a label may stand in a name with text from right to left. -/
def isDirected (label : List Char) : Bool :=
  match label.map direction with
  | [] => true
  | first :: rest => first.leads (first :: rest)

/-- Whether there is text from right to left in a label. -/
def runsRight (label : List Char) : Bool :=
  label.any fun c => direction c == .right || direction c == .arabicNumber

end CoverageQuery.Domain
