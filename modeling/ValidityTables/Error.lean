import ValidityTables.Host.Fault

/-!
# What can go wrong

The causes of a failed update. `BlockError` is a reason to refuse one block before anything is
written; `UpdateError` is what ends an operation. Each cause has one text and one code, and an error
that wraps another one lists it among its causes.
-/

namespace ValidityTables

inductive IoFault
  | system (fault : SystemFault)
  | nulInArgument
  | nulInName
  | invalidUtf8
  | damaged
  | other (text : String)
  deriving DecidableEq, Repr

def IoFault.message : IoFault → String
  | .system fault => fault.message
  | .nulInArgument => "nul byte found in provided data"
  | .nulInName => "file name contained an unexpected NUL byte"
  | .invalidUtf8 => "stream did not contain valid UTF-8"
  | .damaged => "compressed data is damaged or incomplete"
  | .other text => text

inductive BlockError
  | parse (line : String)
  | options (tail : String)
  | unknownKey (key : String)
  | badValue (key value : String)
  | badDate (date line : String)
  | tableNotFound (table : String)
  | empty (table : String)
  | closed (table : String)
  deriving DecidableEq, Repr

def BlockError.message : BlockError → String
  | .parse line => "cannot parse line: " ++ line
  | .options tail => "cannot parse options: '" ++ tail ++ "'"
  | .unknownKey key => "bad option key: '" ++ key ++ "'"
  | .badValue key value => "bad " ++ key ++ " option value: '" ++ value ++ "'"
  | .badDate date line => "bad date '" ++ date ++ "' in " ++ line
  | .tableNotFound table => "table " ++ table ++ " does not exist"
  | .empty table => "block for table " ++ table ++ " has no rows"
  | .closed table => "block for table " ++ table ++ " is already applied or failed"

inductive ErrorCode
  | io
  | spawn
  | invalidConfig
  | unavailable
  | notAuthorising
  | parse
  | badOption
  | badDate
  | tableNotFound
  | emptyBlock
  | blockClosed
  | rowOutsideBlock
  | unterminatedSql
  | execution
  | transientExhausted
  | allocation
  | applyFailed
  deriving DecidableEq, Repr

def ErrorCode.name : ErrorCode → String
  | .io => "io"
  | .spawn => "spawn"
  | .invalidConfig => "invalid_config"
  | .unavailable => "unavailable"
  | .notAuthorising => "not_authorising"
  | .parse => "parse"
  | .badOption => "bad_option"
  | .badDate => "bad_date"
  | .tableNotFound => "table_not_found"
  | .emptyBlock => "empty_block"
  | .blockClosed => "block_closed"
  | .rowOutsideBlock => "row_outside_block"
  | .unterminatedSql => "unterminated_sql"
  | .execution => "execution"
  | .transientExhausted => "transient_exhausted"
  | .allocation => "allocation"
  | .applyFailed => "apply_failed"

def BlockError.code : BlockError → ErrorCode
  | .parse _ | .options _ => .parse
  | .unknownKey _ | .badValue _ _ => .badOption
  | .badDate _ _ => .badDate
  | .tableNotFound _ => .tableNotFound
  | .empty _ => .emptyBlock
  | .closed _ => .blockClosed

inductive UpdateError
  | io (fault : IoFault)
  | spawn (program : String) (fault : IoFault)
  | invalidConfig (message : String)
  | unavailable (account : String)
  | notAuthorising
  | block (reason : BlockError)
  | rowOutsideBlock (lineNumber : Nat)
  | unterminatedSql (lineNumber : Nat) (statement : String)
  | execution (statement : String) (exitCode : Int) (output : List String)
  | transientExhausted (attempts : Nat) (statement : String)
  | allocation (table message : String)
  | applyFailed (table validFrom validTo : String) (source : UpdateError)
  deriving DecidableEq, Repr

namespace UpdateError

def message : UpdateError → String
  | .io fault => "io error: " ++ fault.message
  | .spawn program fault => "cannot run '" ++ program ++ "': " ++ fault.message
  | .invalidConfig text => "invalid config: " ++ text
  | .unavailable account => "database unavailable with account info: " ++ account
  | .notAuthorising =>
    "connected database is not authorising i.e. does not have a GLOBALSEQNO table"
  | .block reason => "failing update; " ++ reason.message
  | .rowOutsideBlock n => "line " ++ toString n ++ ": data row outside of a BEGIN_TABLE block"
  | .unterminatedSql n statement =>
    "line " ++ toString n ++ ": SQL statement is not terminated by ';': " ++ statement
  | .execution statement exitCode _ =>
    "statement failed with exit code " ++ toString exitCode ++ ": " ++ statement
  | .transientExhausted attempts statement =>
    "client failed to execute the statement on all " ++ toString attempts ++ " attempts: " ++
      statement
  | .allocation table text =>
    "failed to allocate a sequence number for " ++ table ++ ": " ++ text
  | .applyFailed table validFrom validTo source =>
    "update of " ++ table ++ " for validity range '" ++ validFrom ++ "' - '" ++ validTo ++
      "' failed: " ++ source.message

def code : UpdateError → ErrorCode
  | .io _ => .io
  | .spawn _ _ => .spawn
  | .invalidConfig _ => .invalidConfig
  | .unavailable _ => .unavailable
  | .notAuthorising => .notAuthorising
  | .block reason => reason.code
  | .rowOutsideBlock _ => .rowOutsideBlock
  | .unterminatedSql _ _ => .unterminatedSql
  | .execution _ _ _ => .execution
  | .transientExhausted _ _ => .transientExhausted
  | .allocation _ _ => .allocation
  | .applyFailed _ _ _ _ => .applyFailed

/-- The code of the innermost error. -/
def rootCode : UpdateError → ErrorCode
  | .applyFailed _ _ _ source => source.rootCode
  | error => error.code

/-- The texts of an error and of what caused it, outermost first. -/
def causes (error : UpdateError) : List String :=
  error.message :: match error with
    | .io fault => [fault.message]
    | .spawn _ fault => [fault.message]
    | .block reason => [reason.message]
    | .applyFailed _ _ _ source => source.causes
    | _ => []

end UpdateError

end ValidityTables
