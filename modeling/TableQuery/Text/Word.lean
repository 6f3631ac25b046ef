import TableQuery.Text.Alphabetic
import TableQuery.Text.Interval
import TableQuery.Text.Mark
import TableQuery.Text.Numeral

/-! The characters of words and of identifiers.

Identifiers follow version 17 of the Unicode standard, words keep to version 16.
-/

set_option autoImplicit false

namespace TableQuery.Text

def isAlphanumeric (c : Char) : Bool :=
  covers alphabetic c.toNat || covers decimalNumber c.toNat || covers otherNumber c.toNat

def connector : List (Nat × Nat) :=
  [(0x5F, 0x5F), (0x203F, 0x2040), (0x2054, 0x2054), (0xFE33, 0xFE34), (0xFE4D, 0xFE4F),
   (0xFF3F, 0xFF3F)]

def joinControl : List (Nat × Nat) :=
  [(0x200C, 0x200D)]

def recentWord : List (Nat × Nat) :=
  [(0x88F, 0x88F), (0xC5C, 0xC5C), (0xCDC, 0xCDC), (0x1ACF, 0x1ADD), (0x1AE0, 0x1AEB),
   (0xA7CE, 0xA7CF), (0xA7D2, 0xA7D2), (0xA7D4, 0xA7D4), (0xA7F1, 0xA7F1), (0x10940, 0x10959),
   (0x10EC5, 0x10EC7), (0x10EFA, 0x10EFB), (0x11B60, 0x11B67), (0x11DB0, 0x11DDB),
   (0x11DE0, 0x11DE9), (0x16EA0, 0x16EB8), (0x16EBB, 0x16ED3), (0x16FF2, 0x16FF6),
   (0x187F8, 0x187FF), (0x18D09, 0x18D1E), (0x18D80, 0x18DF2), (0x1E6C0, 0x1E6DE),
   (0x1E6E0, 0x1E6F5), (0x1E6FE, 0x1E6FF), (0x2B73A, 0x2B73F), (0x2CEA2, 0x2CEAD),
   (0x323B0, 0x33479)]

/-- Word characters: alphabetic, marks, decimal digits, connectors and join controls. Those of
version 17 are not counted. -/
def isWord (c : Char) : Bool :=
  (covers alphabetic c.toNat || covers mark c.toNat || covers decimalNumber c.toNat ||
    covers connector c.toNat || covers joinControl c.toNat) && !covers recentWord c.toNat

end TableQuery.Text
