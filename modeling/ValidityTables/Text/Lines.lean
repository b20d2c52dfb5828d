/-!
# Lines

Cutting a sequence of characters or bytes at its line feeds. A carriage return directly before a
line feed belongs to the line end; a last line without a line feed is kept as it is.
-/

namespace ValidityTables.Text

/-- Continues a line whose units so far are `line`, last first. -/
def linesFrom {α : Type} [DecidableEq α] (feed ret : α) (line : List α) : List α → List (List α)
  | [] => if line.isEmpty then [] else [line.reverse]
  | c :: rest =>
    if c = feed then
      let ended := match line with
        | [] => []
        | last :: before => if last = ret then before else line
      ended.reverse :: linesFrom feed ret [] rest
    else linesFrom feed ret (c :: line) rest

def lines (cs : List Char) : List (List Char) := linesFrom '\n' '\r' [] cs

def byteLines (bytes : List UInt8) : List (List UInt8) := linesFrom 10 13 [] bytes

/-- The lines of a text in which nothing but the line feed belongs to the line end. -/
def feedLines (cs : List Char) : List (List Char) :=
  match (cs.splitOn '\n').reverse with
  | [] :: before => before.reverse
  | _ => cs.splitOn '\n'

end ValidityTables.Text
