/-! White space of all scripts, and trimming. -/

namespace HybridTx.Text

/-- The characters with the `White_Space` property. -/
def isBlank (c : Char) : Bool :=
  let n := c.toNat
  (9 ≤ n && n ≤ 13) || n == 0x20 || n == 0x85 || n == 0xa0 || n == 0x1680
    || (0x2000 ≤ n && n ≤ 0x200a) || n == 0x2028 || n == 0x2029 || n == 0x202f || n == 0x205f
    || n == 0x3000

/-- Drops blanks from both ends. -/
def trimChars (text : List Char) : List Char :=
  ((text.dropWhile isBlank).reverse.dropWhile isBlank).reverse

/-- Drops blanks from both ends. -/
def trim (text : String) : String := String.ofList (trimChars text.toList)

/-- Drops one leading `0x`; a capital `X` is no mark of hexadecimal digits. -/
def dropHexMark : List Char → List Char
  | '0' :: 'x' :: digits => digits
  | text => text

end HybridTx.Text
