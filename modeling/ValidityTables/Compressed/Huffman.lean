/-!
# Canonical prefix codes

A prefix code given by the length of the code word of each symbol. Code words of one length are
consecutive numbers in the order of their symbols, and shorter ones come first. A code is complete
if every sequence of bits begins with a code word; other codes are of use only if they have no word
or one word of one bit.
-/

namespace ValidityTables.Compressed

inductive Huffman
  /-- How many code words there are of each length from one on, and their symbols in order. -/
  | complete (counts : List Nat) (symbols : Array Nat)
  /-- The one code word is a zero. -/
  | single (symbol : Nat)
  | empty
  deriving DecidableEq, Repr

namespace Huffman

def maxLength : Nat := 15

def symbolsOfLength (lengths : List Nat) (length : Nat) : List Nat :=
  (lengths.zipIdx.filter fun entry => entry.1 == length).map (·.2)

/-- Of the code words of the greatest length, how many the code words of `counts` stand for, where
the first count belongs to words that stand for `share` each. -/
def weight (share : Nat) : List Nat → Nat
  | [] => 0
  | n :: counts => n * share + weight (share / 2) counts

def isComplete (counts : List Nat) : Bool :=
  weight (1 <<< (maxLength - 1)) counts == 1 <<< maxLength

def ofLengths? (lengths : List Nat) : Option Huffman :=
  let groups := (List.range maxLength).map fun i => symbolsOfLength lengths (i + 1)
  let counts := groups.map List.length
  match groups.flatten with
  | [] => some .empty
  | [symbol] => if counts.head? = some 1 then some (.single symbol) else none
  | symbols => if isComplete counts then some (.complete counts symbols.toArray) else none

def completeOfLengths? (lengths : List Nat) : Option Huffman :=
  match ofLengths? lengths with
  | some (.complete counts symbols) => some (.complete counts symbols)
  | _ => none

end Huffman

end ValidityTables.Compressed
