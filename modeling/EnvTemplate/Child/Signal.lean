import EnvTemplate.Child.Numeral

namespace EnvTemplate.Child.Signal

def names : List String :=
  ["HUP", "INT", "QUIT", "ILL", "TRAP", "ABRT", "BUS", "FPE", "KILL", "USR1", "SEGV", "USR2",
    "PIPE", "ALRM", "TERM", "STKFLT", "CHLD", "CONT", "STOP", "TSTP", "TTIN", "TTOU", "URG",
    "XCPU", "XFSZ", "VTALRM", "PROF", "WINCH", "IO", "PWR", "SYS", "32", "33", "RTMIN", "RTMIN+1",
    "RTMIN+2", "RTMIN+3", "RTMIN+4", "RTMIN+5", "RTMIN+6", "RTMIN+7", "RTMIN+8", "RTMIN+9",
    "RTMIN+10", "RTMIN+11", "RTMIN+12", "RTMIN+13", "RTMIN+14", "RTMIN+15", "RTMAX-14", "RTMAX-13",
    "RTMAX-12", "RTMAX-11", "RTMAX-10", "RTMAX-9", "RTMAX-8", "RTMAX-7", "RTMAX-6", "RTMAX-5",
    "RTMAX-4", "RTMAX-3", "RTMAX-2", "RTMAX-1", "RTMAX"]

def kill : Nat := 9

def outOfMemory : Nat := 11

def terminate : Nat := 15

/-- What lets a process do nothing, whatever it has to say to that, and what lets it go on. -/
def stop : Nat := 19

def goOn : Nat := 18

def stopping : List Nat := [20, 21, 22]

/-- The signals that a process does not end by: none at all, and what is told of children, of going
on, of urgent data and of windows. -/
def harmless : List Nat := [0, 17, 18, 23, 28]

def brokenPipe : Nat := 13

def fileTooLarge : Nat := 25

def timeUsedUp : Nat := 24

def childEnded : Nat := 17

/-- The signals that come from a keyboard. What runs in the background takes no notice of them. -/
def fromKeyboard : List Nat := [2, 3]

def interrupt : Nat := 2

def forPrograms : List Nat := [3, 15]

def ofText? (text : String) : Option Nat :=
  match Numeral.ofDigits? text.toList with
  | some n => if n ≤ names.length then some n else none
  | none =>
    let upper := String.ofList (text.toList.map Char.toUpper)
    if upper = "EXIT" then some 0
    else if upper ∈ names then some (names.idxOf upper + 1)
    else none

def nameOf (number : Nat) : String :=
  match number with
  | 0 => "EXIT"
  | n + 1 => names.getD n ""

def descriptions : List String :=
  ["Hangup", "Interrupt", "Quit", "Illegal instruction", "Trace/breakpoint trap", "Aborted",
    "Bus error", "Floating point exception", "Killed", "User defined signal 1",
    "Segmentation fault", "User defined signal 2", "Broken pipe", "Alarm clock", "Terminated",
    "Stack fault", "Child exited", "Continued", "Stopped (signal)", "Stopped",
    "Stopped (tty input)", "Stopped (tty output)", "Urgent I/O condition",
    "CPU time limit exceeded", "File size limit exceeded", "Virtual timer expired",
    "Profiling timer expired", "Window changed", "I/O possible", "Power failure",
    "Bad system call"]

def anyDescription (number : Nat) : String :=
  if number ≤ 31 then descriptions.getD (number - 1) ""
  else if number = 32 ∨ number = 33 then s!"Unknown signal {number}"
  else s!"Real-time signal {number - 34}"

/-- What is said of a process that a signal ended; nothing of one that was interrupted, or that
wrote to a pipe nobody reads. -/
def description? (number : Nat) : Option String :=
  if number = 2 ∨ number = 13 then none else some (anyDescription number)

end EnvTemplate.Child.Signal
