/-! Signals of the system. -/

namespace FirmwareKit

/-- The signals with their numbers, their names, and what is said of a program that one ends; the
text is empty for those that end no program. -/
def signals : List (Nat × String × String) :=
  [(1, "HUP", "Hangup"), (2, "INT", "Interrupt"), (3, "QUIT", "Quit"),
    (4, "ILL", "Illegal instruction"), (5, "TRAP", "Trace/breakpoint trap"), (6, "ABRT", "Aborted"),
    (7, "BUS", "Bus error"), (8, "FPE", "Floating point exception"), (9, "KILL", "Killed"),
    (10, "USR1", "User defined signal 1"), (11, "SEGV", "Segmentation fault"),
    (12, "USR2", "User defined signal 2"), (13, "PIPE", "Broken pipe"), (14, "ALRM", "Alarm clock"),
    (15, "TERM", "Terminated"), (16, "STKFLT", "Stack fault"), (17, "CHLD", ""), (18, "CONT", ""),
    (19, "STOP", "Stopped (signal)"), (20, "TSTP", "Stopped"), (21, "TTIN", "Stopped (tty input)"),
    (22, "TTOU", "Stopped (tty output)"), (23, "URG", ""), (24, "XCPU", "CPU time limit exceeded"),
    (25, "XFSZ", "File size limit exceeded"), (26, "VTALRM", "Virtual timer expired"),
    (27, "PROF", "Profiling timer expired"), (28, "WINCH", ""), (29, "IO", "I/O possible"),
    (30, "PWR", "Power failure"), (31, "SYS", "Bad system call")]

/-- The number of the greatest signal. -/
def lastSignal : Nat := 64

/-- The name of a signal. -/
def signalName? (signal : Nat) : Option String :=
  (signals.lookup signal).map (·.1)

/-- What is said of a program that a signal ends. -/
def signalText (signal : Nat) : String :=
  ((signals.lookup signal).map (·.2)).getD ("Unknown signal " ++ toString signal)

/-- The signal ends no program that does not wait for it. -/
def isIgnoredSignal (signal : Nat) : Bool :=
  signal = 0 || signalText signal = ""

end FirmwareKit
