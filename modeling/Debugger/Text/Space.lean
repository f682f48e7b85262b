/-! # Blank space

The characters that stand for blank space in any script.
-/

namespace Debugger.Text

def isSpace (c : Char) : Bool :=
  let n := c.toNat
  9 ≤ n && n ≤ 13 || n = 0x20 || n = 0x85 || n = 0xa0 || n = 0x1680 || 0x2000 ≤ n && n ≤ 0x200a ||
    n = 0x2028 || n = 0x2029 || n = 0x202f || n = 0x205f || n = 0x3000

/-- The characters without blank space at either end. -/
def trimChars (cs : List Char) : List Char :=
  ((cs.dropWhile isSpace).reverse.dropWhile isSpace).reverse

/-- The text without blank space at either end. -/
def trim (s : String) : String := String.ofList (trimChars s.toList)

/-- Small letters for the capital letters of the basic alphabet. -/
def lower (s : String) : String := String.ofList (s.toList.map Char.toLower)

end Debugger.Text
