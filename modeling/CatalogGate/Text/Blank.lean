-- White space as Unicode has it, and trimming by it.
namespace CatalogGate.Text

/-- The characters with the Unicode property White_Space. -/
def isSpace (c : Char) : Bool :=
  let n := c.toNat
  (9 ≤ n && n ≤ 13) || n == 0x20 || n == 0x85 || n == 0xA0 || n == 0x1680
    || (0x2000 ≤ n && n ≤ 0x200A) || n == 0x2028 || n == 0x2029 || n == 0x202F || n == 0x205F
    || n == 0x3000

/-- Without the characters of a kind at the end. -/
def dropEndWhile (p : Char → Bool) (cs : List Char) : List Char := (cs.reverse.dropWhile p).reverse

def trimStart (cs : List Char) : List Char := cs.dropWhile isSpace

def trimEnd (cs : List Char) : List Char := dropEndWhile isSpace cs

def trim (cs : List Char) : List Char := trimEnd (trimStart cs)

/-- Trimming a string on both sides. -/
def trimmed (s : String) : String := String.ofList (trim s.toList)

/-- Lower case of the letters `A` to `Z`; all else stays. -/
def lowerAscii (cs : List Char) : List Char := cs.map Char.toLower

end CatalogGate.Text
