import ValidityTables.Text.Octets

/-!
# Signals

The signals that programs send each other, by their numbers: how they are named, how they are
described when a program was ended by one, and which of them end a program at all.
-/

namespace ValidityTables.Signal

def table : List (String × String) :=
  [("EXIT", ""), ("HUP", "Hangup"), ("INT", "Interrupt"), ("QUIT", "Quit"),
    ("ILL", "Illegal instruction"), ("TRAP", "Trace/breakpoint trap"), ("ABRT", "Aborted"),
    ("BUS", "Bus error"), ("FPE", "Floating point exception"), ("KILL", "Killed"),
    ("USR1", "User defined signal 1"), ("SEGV", "Segmentation fault"),
    ("USR2", "User defined signal 2"), ("PIPE", "Broken pipe"), ("ALRM", "Alarm clock"),
    ("TERM", "Terminated"), ("16", "Stack fault"), ("CHLD", "Child exited"),
    ("CONT", "Continued"), ("STOP", "Stopped (signal)"), ("TSTP", "Stopped"),
    ("TTIN", "Stopped (tty input)"), ("TTOU", "Stopped (tty output)"),
    ("URG", "Urgent I/O condition"), ("XCPU", "CPU time limit exceeded"),
    ("XFSZ", "File size limit exceeded"), ("VTALRM", "Virtual timer expired"),
    ("PROF", "Profiling timer expired"), ("WINCH", "Window changed"), ("IO", "I/O possible"),
    ("PWR", "Power failure"), ("SYS", "Bad system call"), ("32", "Unknown signal 32"),
    ("33", "Unknown signal 33")]

def firstRealTime : Nat := 34

def last : Nat := 64

/-- The name of a signal. Real-time signals are counted from the nearer end of their range. -/
def name (signal : Nat) : Octets :=
  match table[signal]? with
  | some (name, _) => name.toList
  | none =>
    let first := signal - firstRealTime
    let second := last - signal
    if first = 0 then "RTMIN".toList
    else if second = 0 then "RTMAX".toList
    else if first ≤ 15 then "RTMIN+".toList ++ Octets.ofNat first
    else "RTMAX-".toList ++ Octets.ofNat second

def description (signal : Nat) : Octets :=
  match table[signal]? with
  | some (_, text) => text.toList
  | none => "Real-time signal ".toList ++ Octets.ofNat (signal - firstRealTime)

def interrupt : Nat := 2
def kill : Nat := 9
def segmentation : Nat := 11
def pipe : Nat := 13
def terminate : Nat := 15

/-- Signals that do not end a program: it stops, goes on, or takes no notice. -/
def harmless : List String := ["CHLD", "CONT", "STOP", "TSTP", "TTIN", "TTOU", "URG", "WINCH"]

def ends (signal : Nat) : Bool :=
  match table[signal]? with
  | some (name, _) => signal != 0 && !harmless.contains name
  | none => signal ≤ last

/-- The signal that a text stands for: a number, or a name in letters of either size. Names are
looked up from the number `least` on. -/
def ofText? (least : Nat) (text : Octets) : Option Nat :=
  if !text.isEmpty && text.all Char.isDigit then
    let number := Octets.decimal text
    if number ≤ last then some number else none
  else
    let wanted := text.map Char.toUpper
    (List.range' least (last + 1 - least)).find? fun signal => name signal = wanted

end ValidityTables.Signal
