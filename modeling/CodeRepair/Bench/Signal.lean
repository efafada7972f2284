/-!
Signals by their names and numbers, as the operating system has them that the computer in memory stands in for.
-/
namespace CodeRepair.Bench.Signal

def names : List (String × Nat) :=
  [("EXIT", 0), ("HUP", 1), ("INT", 2), ("QUIT", 3), ("ILL", 4), ("TRAP", 5), ("ABRT", 6), ("BUS", 7), ("FPE", 8),
   ("KILL", 9), ("USR1", 10), ("SEGV", 11), ("USR2", 12), ("PIPE", 13), ("ALRM", 14), ("TERM", 15), ("STKFLT", 16),
   ("CHLD", 17), ("CONT", 18), ("STOP", 19), ("TSTP", 20), ("TTIN", 21), ("TTOU", 22), ("URG", 23), ("XCPU", 24),
   ("XFSZ", 25), ("VTALRM", 26), ("PROF", 27), ("WINCH", 28), ("IO", 29), ("PWR", 30), ("SYS", 31)]

def number? (s : String) : Option Nat :=
  match s.toNat? with
  | some n => if n ≤ 64 then some n else none
  | none =>
    let name := String.ofList (s.toList.map Char.toUpper)
    let name := if name.startsWith "SIG" then (name.drop 3).toString else name
    (names.find? (·.1 = name)).map (·.2)

def report (n : Nat) : String :=
  match n with
  | 1 => "Hangup"
  | 3 => "Quit"
  | 4 => "Illegal instruction"
  | 6 => "Aborted"
  | 8 => "Floating point exception"
  | 9 => "Killed"
  | 11 => "Segmentation fault"
  | 13 => "Broken pipe"
  | 14 => "Alarm clock"
  | 15 => "Terminated"
  | _ => "Signal " ++ toString n

/-- The signals that nothing comes of when they are not waited for. -/
def isHarmless (n : Nat) : Bool := n = 0 || n = 17 || n = 18 || n = 23 || n = 28

/-- The signals that stop a process until it is told to go on. -/
def suspends (n : Nat) : Bool := 19 ≤ n && n ≤ 22

end CodeRepair.Bench.Signal
