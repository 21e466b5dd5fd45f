import LintChain.Text.Octets

/-!
Signals: their names, what each does to a process that did not prepare for it, and what a shell says
of a program that one of them ended.
-/

namespace LintChain.Shell.Signal

open Text (Octets)

/-- What a signal does. -/
inductive Effect
  | nothing
  /-- The process stays as it is for good. -/
  | stops
  | ends
  deriving DecidableEq, Repr

/-- The highest number of a signal. -/
def last : Nat := 64

/-- The default, from which `kill` departs only when it is told another signal. -/
def terminate : Nat := 15

/-- The names of the signals from 0 on; one without a name of its own has its number for a name. -/
def names : List String := [
  "EXIT", "HUP", "INT", "QUIT", "ILL", "TRAP", "ABRT", "BUS", "FPE", "KILL", "USR1", "SEGV", "USR2",
  "PIPE", "ALRM", "TERM", "16", "CHLD", "CONT", "STOP", "TSTP", "TTIN", "TTOU", "URG", "XCPU",
  "XFSZ", "VTALRM", "PROF", "WINCH", "IO", "PWR", "SYS", "32", "33", "RTMIN"] ++
  (List.range 15).map (fun i => "RTMIN+" ++ toString (i + 1)) ++
  (List.range 14).map (fun i => "RTMAX-" ++ toString (14 - i)) ++ ["RTMAX"]

def name (signal : Nat) : String := names.getD signal ""

/-- The signal with a number or name, in capital or small letters. -/
def ofText? (text : Octets) : Option Nat :=
  match Octets.toNat? text with
  | some n => if n ≤ last then some n else none
  | none =>
    let wanted := String.ofList (text.map Char.toUpper)
    (names.tail.idxOf? wanted).map (· + 1)

/-- The same, with the number 0 for the end of the shell. -/
def ofTextOrEnd? (text : Octets) : Option Nat :=
  if text.map Char.toUpper = "EXIT".toList then some 0 else ofText? text

/-- Whether no process can prepare for a signal. -/
def isCertain (signal : Nat) : Bool := signal = 9 || signal = 19

def effect (signal : Nat) : Effect :=
  if [0, 17, 18, 23, 28].contains signal then .nothing
  else if [19, 20, 21, 22].contains signal then .stops
  else .ends

/-- What is said of a program that a signal ended; nothing for an interrupt or a broken pipe. -/
def obituary (signal : Nat) : String :=
  match signal with
  | 1 => "Hangup"
  | 3 => "Quit"
  | 4 => "Illegal instruction"
  | 5 => "Trace/breakpoint trap"
  | 6 => "Aborted"
  | 7 => "Bus error"
  | 8 => "Floating point exception"
  | 9 => "Killed"
  | 10 => "User defined signal 1"
  | 11 => "Segmentation fault"
  | 12 => "User defined signal 2"
  | 14 => "Alarm clock"
  | 15 => "Terminated"
  | 16 => "Stack fault"
  | 24 => "CPU time limit exceeded"
  | 25 => "File size limit exceeded"
  | 26 => "Virtual timer expired"
  | 27 => "Profiling timer expired"
  | 29 => "I/O possible"
  | 30 => "Power failure"
  | 31 => "Bad system call"
  | 2 | 13 => ""
  | n => if 34 ≤ n then "Real-time signal " ++ toString (n - 34) else ""

end LintChain.Shell.Signal
