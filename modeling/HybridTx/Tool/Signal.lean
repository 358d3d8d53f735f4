/-! Signals that end programs. -/

namespace HybridTx

/-- A signal, by its number. -/
abbrev Signal := Nat

namespace Signal

/-- The short names of the signals, from the first on. -/
def names : List String :=
  ["HUP", "INT", "QUIT", "ILL", "TRAP", "ABRT", "BUS", "FPE", "KILL", "USR1", "SEGV", "USR2",
    "PIPE", "ALRM", "TERM", "STKFLT", "CHLD", "CONT", "STOP", "TSTP", "TTIN", "TTOU", "URG", "XCPU",
    "XFSZ", "VTALRM", "PROF", "WINCH", "IO", "PWR", "SYS"]

/-- What is said of a program that a signal ended, for the signals from the first on. -/
def remarks : List String :=
  ["Hangup", "Interrupt", "Quit", "Illegal instruction", "Trace/breakpoint trap", "Aborted",
    "Bus error", "Floating point exception", "Killed", "User defined signal 1",
    "Segmentation fault", "User defined signal 2", "Broken pipe", "Alarm clock", "Terminated",
    "Stack fault", "Child exited", "Continued", "Stopped (signal)", "Stopped",
    "Stopped (tty input)", "Stopped (tty output)", "Urgent I/O condition",
    "CPU time limit exceeded", "File size limit exceeded", "Virtual timer expired",
    "Profiling timer expired", "Window changed", "I/O possible", "Power failure", "Bad system call"]

/-- The name of a signal, if it has one. -/
def name? (signal : Signal) : Option String :=
  if signal = 0 then none else names[signal - 1]?

/-- The signal with a name, in letters of any case. -/
def ofName? (name : String) : Option Signal :=
  (names.idxOf? name.toUpper).map (· + 1)

/-- What is said of a program that the signal ended. -/
def remark (signal : Signal) : String :=
  if signal = 0 then "" else (remarks[signal - 1]?).getD s!"Unknown signal {signal}"

/-- Signals that leave a program alone unless it waits for them: a child's end, going on, urgent
data and a window's size. -/
def isIgnored (signal : Signal) : Bool := signal ∈ [17, 18, 23, 28]

end Signal

end HybridTx
