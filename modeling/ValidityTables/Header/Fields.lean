import ValidityTables.Text.Blank
import ValidityTables.Text.Digit
import ValidityTables.Text.Word

/-!
# The fields of a header line

The marker, a table name, two quoted dates, a number, a quoted date and an optional tail, with
blanks between them. A quoted field holds no line feed but may hold quotes: it ends at the first
quote after which the rest of the line can be read. What can be read from each place of the line is
noted from right to left, the last field first, so that no place is looked at twice.
-/

namespace ValidityTables.Header

open Text

structure Fields where
  table : List Char
  validFrom : List Char
  validTo : List Char
  aggregate : List Char
  created : List Char
  tail : Option (List Char)
  deriving DecidableEq, Repr

def dropMarker? : List Char → List Char → Option (List Char)
  | [], cs => some cs
  | _ :: _, [] => none
  | m :: ms, c :: cs => if m = c then dropMarker? ms cs else none

/-- A place in a text: the character there, and what is known of the text from there on. -/
structure Place (β : Type) where
  char : Char
  note : β

variable {α β : Type}

/-- The characters of a text with a note at each place, made of the character there, the places
behind it and the note behind it. -/
def noted (atEnd : β) (note : Char → List (Place α) → β → β) (text : List (Place α)) :
    List (Place β) :=
  (text.foldr (fun place (behind, notes) =>
    let last := match notes with
      | [] => atEnd
      | next :: _ => next.note
    (place :: behind, ⟨place.char, note place.char behind last⟩ :: notes)) ([], [])).2

def skipBlanks? : List (Place β) → Option (List (Place β))
  | [] => none
  | place :: rest => if isBlank place.char then some (rest.dropWhile (isBlank ·.char)) else none

def openQuote? (text : List (Place β)) : Option (List (Place β)) :=
  match skipBlanks? text with
  | some (place :: rest) => if place.char = '\'' then some rest else none
  | _ => none

/-- The longest run of characters of a class, unless it is empty, and the places after it. -/
def run? (p : Char → Bool) (text : List (Place β)) : Option (List Char × List (Place β)) :=
  match text.takeWhile (p ·.char) with
  | [] => none
  | taken => some (taken.map (·.char), text.dropWhile (p ·.char))

def firstNote? (text : List (Place (Option β))) : Option β :=
  match text with
  | [] => none
  | place :: _ => place.note

/-- Notes at each place how a quoted field goes on that is open there, with what follows it. It ends
at the first quote after which `next` accepts the rest. -/
def noteField (next : List (Place α) → Option β) (text : List (Place α)) :
    List (Place (Option (List Char × β))) :=
  noted none (fun c behind later =>
    let longer := later.map fun (field, result) => (c :: field, result)
    if c = '\'' then
      match next behind with
      | some result => some ([], result)
      | none => longer
    else if c = '\n' then none
    else longer) text

/-- Notes at each place the text from there on, unless there is a line feed in it. -/
def noteLine (text : List (Place Unit)) : List (Place (Option (List Char))) :=
  noted (some []) (fun c _ later => if c = '\n' then none else later.map (c :: ·)) text

/-- What may follow the last date: nothing, or blanks and a tail on the same line. -/
def tail? (text : List (Place (Option (List Char)))) : Option (Option (List Char)) :=
  match text with
  | [] => some none
  | _ =>
    match skipBlanks? text with
    | none => none
    | some [] => some (some [])
    | some (place :: _) => place.note.map some

def readAggregate? (text : List (Place (Option β))) : Option (List Char × β) := do
  let (aggregate, text) ← run? isDigit (← skipBlanks? text)
  return (aggregate, ← firstNote? (← openQuote? text))

def readDate? (text : List (Place (Option β))) : Option β := do firstNote? (← openQuote? text)

def marker : List Char := "BEGIN_TABLE".toList

/-- Splits a header line without blanks at its ends. -/
def Fields.read? (line : List Char) : Option Fields := do
  let text := (← dropMarker? marker line).map fun c => (⟨c, ()⟩ : Place Unit)
  let (table, text) ← run? isWord (← skipBlanks? text)
  let inLast := noteField tail? (noteLine text)
  let inSecond := noteField readAggregate? inLast
  let inFirst := noteField readDate? inSecond
  let (validFrom, validTo, aggregate, created, tail) ← readDate? inFirst
  return ⟨table, validFrom, validTo, aggregate, created, tail⟩

end ValidityTables.Header
