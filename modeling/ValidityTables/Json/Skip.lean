import ValidityTables.Json.Token

/-!
# Skipping JSON values

A value that nobody looks at has to be well formed, however deep it is nested.
-/

namespace ValidityTables.Json

inductive Expected
  | value
  | valueOrClose
  | keyOrClose
  | key
  | colon
  | separator
  deriving DecidableEq, Repr

inductive Container
  | object
  | array
  deriving DecidableEq, Repr

/-- Skips the rest of a value inside the given containers, the innermost first. -/
def skipFrom : List Container → Expected → List Token → Option (List Token)
  | [], .separator, rest => some rest
  | _, _, [] => none
  | stack, expected, token :: rest =>
    let close (stack : List Container) := skipFrom stack .separator rest
    match expected, token with
    | .value, .openObject | .valueOrClose, .openObject =>
      skipFrom (.object :: stack) .keyOrClose rest
    | .value, .openArray | .valueOrClose, .openArray =>
      skipFrom (.array :: stack) .valueOrClose rest
    | .valueOrClose, .closeArray => close stack.tail
    | .value, .null | .value, .bool _ | .value, .natural _ | .value, .number | .value, .string _
    | .valueOrClose, .null | .valueOrClose, .bool _ | .valueOrClose, .natural _
    | .valueOrClose, .number | .valueOrClose, .string _ => close stack
    | .keyOrClose, .closeObject => close stack.tail
    | .keyOrClose, .string _ | .key, .string _ => skipFrom stack .colon rest
    | .colon, .colon => skipFrom stack .value rest
    | .separator, .comma =>
      match stack with
      | .object :: _ => skipFrom stack .key rest
      | _ => skipFrom stack .value rest
    | .separator, .closeObject => if stack.head? = some .object then close stack.tail else none
    | .separator, .closeArray => if stack.head? = some .array then close stack.tail else none
    | _, _ => none

def skipValue? (tokens : List Token) : Option (List Token) := skipFrom [] .value tokens

end ValidityTables.Json
