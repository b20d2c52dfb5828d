/-!
# Blank characters

The White_Space class of Unicode, and the operations that see text through it: dropping it at the
ends, and cutting a text into its words between blanks.
-/

namespace ValidityTables.Text

/-- White_Space: the ASCII separators, NEL, the no-break space and the space separators. The zero
width space and the byte order mark are not in it. -/
def isBlank (c : Char) : Bool :=
  let n := c.toNat
  (9 ≤ n && n ≤ 13) || n == 0x20 || n == 0x85 || n == 0xA0 || n == 0x1680 ||
    (0x2000 ≤ n && n ≤ 0x200A) || n == 0x2028 || n == 0x2029 || n == 0x202F || n == 0x205F ||
    n == 0x3000

def trimStart (cs : List Char) : List Char := cs.dropWhile isBlank

def trimEnd (cs : List Char) : List Char := (cs.reverse.dropWhile isBlank).reverse

def trim (cs : List Char) : List Char := trimEnd (trimStart cs)

def words (cs : List Char) : List (List Char) :=
  (cs.splitOnP isBlank).filter fun piece => !piece.isEmpty

def edit (f : List Char → List Char) (s : String) : String := String.ofList (f s.toList)

end ValidityTables.Text
