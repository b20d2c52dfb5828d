import ValidityTables.Number.Notation

/-!
# Escapes

Characters that are written after a backslash in the texts that programs print.
-/

namespace ValidityTables

def letterEscape? : Char → Option Char
  | 'a' => some (Char.ofNat 7)
  | 'b' => some (Char.ofNat 8)
  | 'f' => some (Char.ofNat 12)
  | 'n' => some '\n'
  | 'r' => some '\r'
  | 't' => some '\t'
  | 'v' => some (Char.ofNat 11)
  | '\\' => some '\\'
  | _ => none

def escapeCharacter : Char := Char.ofNat 27

/-- At most so many digits of a base at the start of a text: the byte that they give, how many there
are, and the rest. -/
def takeByte (base limit : Nat) (text : Octets) : Char × Nat × Octets :=
  let digits := (text.take limit).takeWhile (Number.isDigitOf base)
  (Char.ofNat (Number.ofDigits base digits % 256), digits.length, text.drop digits.length)

end ValidityTables
