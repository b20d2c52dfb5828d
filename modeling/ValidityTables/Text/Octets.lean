import ValidityTables.Text.Utf8

/-!
# Octets

Programs pass bytes around, and the texts in them need not be UTF-8. Here a byte is the character
with its number, so that text and bytes are looked at in the same way.
-/

namespace ValidityTables

/-- A sequence of bytes, each as the character with its number. -/
abbrev Octets : Type := List Char

namespace Octets

def ofBytes (bytes : List UInt8) : Octets := bytes.map fun b => Char.ofNat b.toNat

def toBytes (octets : Octets) : List UInt8 := octets.map fun c => UInt8.ofNat c.toNat

def ofText (s : String) : Octets := ofBytes (Text.Utf8.encode s)

def ofNat (n : Nat) : Octets := (toString n).toList

def ofInt (n : Int) : Octets := (toString n).toList

def decimal (digits : Octets) : Nat := digits.foldl (fun n c => n * 10 + (c.toNat - 48)) 0

def precedes : Octets → Octets → Bool
  | [], _ => true
  | _ :: _, [] => false
  | c :: cs, d :: ds => c < d || (c == d && precedes cs ds)

end Octets

end ValidityTables
