import ValidityTables.Shell.Pattern

/-!
# Splitting expanded text

Expanded text is a row of stretches, of which some are split into fields: results of unquoted
expansions at the separators, and lists of all arguments between the arguments. Blanks among the
separators count as one, and those at the ends of a field belong to no field.
-/

namespace ValidityTables.Shell

inductive Glyph
  | char (c : PatternChar)
  /-- The place of a quotation mark, which shows that there is a field even if it is empty. -/
  | mark
  deriving DecidableEq, Repr

inductive Splitting
  | never
  | atSeparators
  | betweenArguments
  deriving DecidableEq, Repr

structure Stretch where
  glyphs : List Glyph
  splitting : Splitting := .never

namespace Stretch

def ofText (quoted : Bool) (splitting : Splitting) (text : Octets) : Stretch :=
  ⟨text.map fun c => .char ⟨c, quoted⟩, splitting⟩

def pattern (stretches : List Stretch) : List PatternChar :=
  stretches.flatMap fun stretch => stretch.glyphs.filterMap fun glyph => match glyph with
    | .char c => some c
    | .mark => none

def text (stretches : List Stretch) : Octets := (pattern stretches).map (·.char)

def usualSeparators : Octets := [' ', '\t', '\n']

/-- The field that is being built, and those before it, last ones first. -/
structure Splitter where
  fields : List (List Glyph) := []
  current : List Glyph := []
  afterBlank : Bool := false
  trimmed : Option (List Glyph) := none
  room : Option Nat := none

def Splitter.keep (splitter : Splitter) (glyph : Glyph) (separates blank : Bool) : Splitter :=
  let current := glyph :: splitter.current
  if blank then
    { splitter with current, trimmed := some (splitter.trimmed.getD splitter.current) }
  else
    let trimmed := if separates && splitter.afterBlank then splitter.trimmed else none
    { splitter with current, trimmed, afterBlank := false }

def Splitter.separate (splitter : Splitter) (glyph : Glyph) (blank marksBlank : Bool) : Splitter :=
  let afterBlank := if marksBlank then blank else splitter.afterBlank
  if splitter.current.isEmpty && afterBlank then { splitter with afterBlank := false }
  else
    let room := splitter.room.map (· - 1)
    if room = some 0 then
      { splitter with
        afterBlank, room
        current := glyph :: splitter.current
        trimmed := some splitter.current }
    else
      { splitter with
        afterBlank, room
        fields := splitter.current.reverse :: splitter.fields
        current := [] }

def Splitter.take (separators : Octets) (marksBlank : Bool) (splitter : Splitter) (glyph : Glyph) :
    Splitter :=
  match glyph with
  | .mark => { splitter with current := glyph :: splitter.current }
  | .char c =>
    let separates := c.char == '\x00' || separators.contains c.char
    let blank := separates && (c.char == '\x00' || usualSeparators.contains c.char)
    if splitter.room = some 0 then splitter.keep glyph separates blank
    else if splitter.afterBlank then
      if separates then { splitter with current := [], afterBlank := blank }
      else { splitter with current := [glyph], afterBlank := false }
    else if separates then splitter.separate glyph blank marksBlank
    else { splitter with current := glyph :: splitter.current }

/-- Takes a stretch; `afterArguments` says whether the last one that is split was a list of
arguments. -/
def Splitter.takeStretch (separators : Octets) (state : Splitter × Bool) (stretch : Stretch) :
    Splitter × Bool :=
  let (splitter, afterArguments) := state
  match stretch.splitting with
  | .never =>
    ({ splitter with current := stretch.glyphs.reverse ++ splitter.current }, afterArguments)
  | .atSeparators =>
    (stretch.glyphs.foldl (take separators (!afterArguments))
      { splitter with afterBlank := false }, false)
  | .betweenArguments =>
    (stretch.glyphs.foldl (take [] false) { splitter with afterBlank := false }, true)

def fields (separators : Octets) (room : Option Nat) (stretches : List Stretch) :
    List (List Glyph) :=
  let (splitter, afterArguments) :=
    stretches.foldl (Splitter.takeStretch separators) ({ room }, false)
  let last := if afterArguments then splitter.current
    else splitter.trimmed.getD splitter.current
  if last.isEmpty && !afterArguments then splitter.fields.reverse
  else (last.reverse :: splitter.fields).reverse

def fieldText (field : List Glyph) : Octets := text [⟨field, .never⟩]

end Stretch

end ValidityTables.Shell
