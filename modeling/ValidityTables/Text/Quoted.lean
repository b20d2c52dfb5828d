import ValidityTables.Text.Octets

/-!
# Quoted names

How programs show names and arguments in messages: between apostrophes with backslash escapes, or as
a word that a shell reads back to the same text, with no more quoting than that needs.
-/

namespace ValidityTables.Quoted

def isPrintable (c : Char) : Bool := 32 ≤ c.toNat && c.toNat < 127

def octal (c : Char) : Octets :=
  let digit (n : Nat) : Char := Char.ofNat (48 + n % 8)
  [digit (c.toNat / 64), digit (c.toNat / 8), digit c.toNat]

def controlLetter? (c : Char) : Option Char :=
  match c.toNat with
  | 7 => some 'a'
  | 8 => some 'b'
  | 9 => some 't'
  | 10 => some 'n'
  | 11 => some 'v'
  | 12 => some 'f'
  | 13 => some 'r'
  | _ => none

/-- A character after a backslash, where it cannot stand for itself. -/
def escape? (c : Char) : Option Octets :=
  match controlLetter? c with
  | some letter => some ['\\', letter]
  | none => if isPrintable c then none else some ('\\' :: octal c)

def inApostrophes (text : Octets) : Octets :=
  '\'' :: text.flatMap (fun c =>
    if c == '\'' || c == '\\' then ['\\', c] else (escape? c).getD [c]) ++ ['\'']

/-- Characters that mean nothing to a shell, wherever they stand. -/
def isPlain (c : Char) : Bool := c.isAlphanum || "%+,-./:]_@".toList.contains c

/-- Characters that mean something to a shell only at the start of a word. -/
def isPlainInside (c : Char) : Bool := c == '#' || c == '~'

/-- Whether a text can stand unquoted in a shell command. The characters of `besides` cannot. -/
def needsNoQuotes (besides : List Char) (text : Octets) : Bool :=
  match text with
  | [] => false
  | c :: cs =>
    text.all (fun c => !besides.contains c) &&
      (isPlain c || ((c == '\x7b' || c == '\x7d') && !cs.isEmpty)) &&
      cs.all fun c => isPlain c || isPlainInside c || c == '\x7b' || c == '\x7d'

/-- The inside of a quoted shell word; `escaping` says whether escapes are being written. -/
def shellInside (escaping : Bool) : Octets → Octets
  | [] => []
  | c :: cs =>
    match escape? c with
    | some escaped => (if escaping then [] else "'$'".toList) ++ escaped ++ shellInside true cs
    | none =>
      if c == '\'' then "'\\''".toList ++ shellInside false cs
      else (if escaping then "''".toList else []) ++ c :: shellInside false cs

def suitsQuotationMarks (text : Octets) : Bool :=
  let suits (c : Char) : Bool := isPlain c || c == ' ' || c == '\''
  text.contains '\'' && match text with
    | [] => true
    | c :: cs => (suits c || isPlainInside c) && cs.all suits

/-- Whether the inside of a quoted word starts as if escapes were being written: it does if the word
ends with an escape and holds an apostrophe. -/
def startsEscaping (text : Octets) : Bool :=
  text.contains '\'' && (text.getLast?.bind escape?).isSome

def forShell (besides : List Char) (text : Octets) : Octets :=
  if needsNoQuotes besides text then text
  else if suitsQuotationMarks text then '"' :: text ++ ['"']
  else '\'' :: shellInside (startsEscaping text) text ++ ['\'']

end ValidityTables.Quoted
