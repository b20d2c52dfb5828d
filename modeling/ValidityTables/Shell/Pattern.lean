import ValidityTables.Text.Octets

/-!
# Patterns

Patterns with stars, question marks and sets of characters, as they select branches, cut values and
name files. A quoted character stands for itself.
-/

namespace ValidityTables.Shell

structure PatternChar where
  char : Char
  quoted : Bool
  deriving DecidableEq, Repr

inductive SetMember
  | range (low high : Char)
  | class (test : Char → Bool)

inductive PatternItem
  | anyText
  | anyChar
  | exactly (c : Char)
  | oneOf (excluded : Bool) (members : List SetMember)

namespace Pattern

/-- The number of a byte as a signed one, by which ranges are ordered. -/
def signedByte (c : Char) : Int := if c.toNat < 128 then c.toNat else (c.toNat : Int) - 256

def isGraph (c : Char) : Bool := 33 ≤ c.toNat && c.toNat < 127

def isSpace (c : Char) : Bool := c == ' ' || (9 ≤ c.toNat && c.toNat ≤ 13)

def isHexDigit (c : Char) : Bool := c.isDigit || "abcdefABCDEF".toList.contains c

def classes : List (String × (Char → Bool)) :=
  [("alnum", Char.isAlphanum), ("cntrl", fun c => c.toNat < 32 || c.toNat = 127),
    ("lower", Char.isLower), ("space", isSpace), ("alpha", Char.isAlpha), ("digit", Char.isDigit),
    ("print", fun c => c == ' ' || isGraph c), ("upper", Char.isUpper),
    ("blank", fun c => c == ' ' || c == '\t'), ("graph", isGraph),
    ("punct", fun c => isGraph c && !c.isAlphanum), ("xdigit", isHexDigit)]

def SetMember.holds (c : Char) : SetMember → Bool
  | .range low high => signedByte low ≤ signedByte c && signedByte c ≤ signedByte high
  | .class test => test c

def readClass (pattern : List PatternChar) : Option (SetMember × List PatternChar) :=
  classes.findSome? fun (name, test) =>
    let marked := (":" ++ name ++ ":]").toList.map fun c => (⟨c, false⟩ : PatternChar)
    if marked.isPrefixOf pattern then some (.class test, pattern.drop marked.length) else none

/-- Reads the members of a set, and the pattern after it; none if the set is not closed. Each member
takes a character, which bounds their number. -/
def readSet (members : List SetMember) (first : Bool) :
    Nat → List PatternChar → Option (List SetMember × List PatternChar)
  | 0, _ | _, [] => none
  | bound + 1, c :: rest =>
    if c = ⟨']', false⟩ && !first then some (members, rest)
    else match if c = ⟨'[', false⟩ then readClass rest else none with
      | some (member, rest) => readSet (member :: members) false bound rest
      | none =>
        match rest with
        | ⟨'-', false⟩ :: high :: more =>
          if high = ⟨']', false⟩ then readSet (.range c.char c.char :: members) false bound rest
          else readSet (.range c.char high.char :: members) false bound more
        | _ => readSet (.range c.char c.char :: members) false bound rest

/-- A backslash that is not quoted quotes the next character. -/
def applyBackslashes : List PatternChar → List PatternChar
  | [] => []
  | ⟨'\\', false⟩ :: [] => [⟨'\\', true⟩]
  | ⟨'\\', false⟩ :: c :: rest =>
    if c.quoted then ⟨'\\', true⟩ :: ⟨c.char, false⟩ :: applyBackslashes rest
    else ⟨c.char, true⟩ :: applyBackslashes rest
  | c :: rest => c :: applyBackslashes rest

def readItems : Nat → List PatternChar → List PatternItem
  | 0, _ | _, [] => []
  | bound + 1, c :: rest =>
    if c.quoted then .exactly c.char :: readItems bound rest
    else match c.char with
      | '*' => .anyText :: readItems bound rest
      | '?' => .anyChar :: readItems bound rest
      | '[' =>
        let (excluded, inner) := match rest with
          | ⟨'!', false⟩ :: inner => (true, inner)
          | _ => (false, rest)
        match readSet [] true inner.length inner with
        | some (members, rest) => .oneOf excluded members :: readItems bound rest
        | none => .exactly '[' :: readItems bound rest
      | char => .exactly char :: readItems bound rest

def items (pattern : List PatternChar) : List PatternItem :=
  readItems pattern.length (applyBackslashes pattern)

def accepts (c : Char) : PatternItem → Bool
  | .anyText => false
  | .anyChar => true
  | .exactly d => c == d
  | .oneOf excluded members => members.any (SetMember.holds c) != excluded

/-- Passes items that can match nothing. For every item a flag says whether the text so far can lead
to it, and the last flag whether it can lead to the end. -/
def passEmpty : List PatternItem → List Bool → List Bool
  | .anyText :: items, here :: next :: rest => here :: passEmpty items ((here || next) :: rest)
  | _ :: items, here :: rest => here :: passEmpty items rest
  | _, flags => flags

/-- The flags after one more character; `reached` says whether the item before led here. -/
def passChar (c : Char) (reached : Bool) : List PatternItem → List Bool → List Bool
  | item :: items, here :: rest =>
    let stays := match item with
      | .anyText => here
      | _ => false
    (reached || stays) :: passChar c (here && accepts c item) items rest
  | _, _ => [reached]

def initialFlags (items : List PatternItem) : List Bool :=
  passEmpty items (true :: items.map fun _ => false)

def advance (items : List PatternItem) (flags : List Bool) (c : Char) : List Bool :=
  passEmpty items (passChar c false items flags)

def isFinal (flags : List Bool) : Bool := flags.getLast?.getD false

def matchesItems (items : List PatternItem) (text : Octets) : Bool :=
  isFinal (text.foldl (advance items) (initialFlags items))

/-- The lengths of the starts of a text that items match, longest first; `count` is the length of
the text so far. -/
def matchedLengths (items : List PatternItem) (flags : List Bool) (count : Nat)
    (found : List Nat) : Octets → List Nat
  | [] => if isFinal flags then count :: found else found
  | c :: cs =>
    matchedLengths items (advance items flags c) (count + 1)
      (if isFinal flags then count :: found else found) cs

def matchedStart? (items : List PatternItem) (longest : Bool) (text : Octets) : Option Nat :=
  let lengths := matchedLengths items (initialFlags items) 0 [] text
  if longest then lengths.head? else lengths.getLast?

def matchesText (pattern : List PatternChar) (text : Octets) : Bool :=
  matchesItems (items pattern) text

def isPattern (pattern : List PatternChar) : Bool :=
  pattern.any fun c => !c.quoted && (c.char == '*' || c.char == '?' || c.char == '[')

end Pattern

end ValidityTables.Shell
