namespace EngineBench

inductive OsError
  | notPermitted | notFound | badDescriptor | denied | exists | notDirectory | isDirectory
  | invalidArgument | textBusy | execFormat | brokenPipe | nameTooLong | notEmpty | tooManyLinks
  | invalidText
  | nulInPath
  | nulInArgument
  | interrupted
  deriving DecidableEq, Repr

namespace OsError

def numbered (text : String) (code : Nat) : String :=
  text ++ " (os error " ++ toString code ++ ")"

-- What the system calls the reason, without its number.
def reason : OsError → String
  | notPermitted => "Operation not permitted"
  | notFound => "No such file or directory"
  | badDescriptor => "Bad file descriptor"
  | denied => "Permission denied"
  | .exists => "File exists"
  | notDirectory => "Not a directory"
  | isDirectory => "Is a directory"
  | invalidArgument => "Invalid argument"
  | textBusy => "Text file busy"
  | execFormat => "Exec format error"
  | brokenPipe => "Broken pipe"
  | nameTooLong => "File name too long"
  | notEmpty => "Directory not empty"
  | tooManyLinks => "Too many levels of symbolic links"
  | invalidText => "stream did not contain valid UTF-8"
  | nulInPath => "file name contained an unexpected NUL byte"
  | nulInArgument => "nul byte found in provided data"
  | interrupted => "Interrupted system call"

def code? : OsError → Option Nat
  | notPermitted => some 1
  | notFound => some 2
  | badDescriptor => some 9
  | denied => some 13
  | .exists => some 17
  | notDirectory => some 20
  | isDirectory => some 21
  | invalidArgument => some 22
  | textBusy => some 26
  | execFormat => some 8
  | brokenPipe => some 32
  | nameTooLong => some 36
  | notEmpty => some 39
  | tooManyLinks => some 40
  | interrupted => some 4
  | invalidText | nulInPath | nulInArgument => none

def message (e : OsError) : String :=
  match e.code? with
  | some code => numbered e.reason code
  | none => e.reason

end OsError

-- How a process ended.
inductive ExitStatus
  | code (n : Int)
  | signal (n : Nat)
  deriving DecidableEq, Repr

namespace ExitStatus

def success : ExitStatus → Bool
  | code n => n = 0
  | signal _ => false

-- The exit code, which a process that a signal ended does not have.
def code? : ExitStatus → Option Int
  | code n => some n
  | signal _ => none

def signalNames : List (Nat × String) :=
  [(1, "SIGHUP"), (2, "SIGINT"), (3, "SIGQUIT"), (4, "SIGILL"), (5, "SIGTRAP"), (6, "SIGABRT"),
   (7, "SIGBUS"), (8, "SIGFPE"), (9, "SIGKILL"), (10, "SIGUSR1"), (11, "SIGSEGV"),
   (12, "SIGUSR2"), (13, "SIGPIPE"), (14, "SIGALRM"), (15, "SIGTERM"), (16, "SIGSTKFLT"),
   (17, "SIGCHLD"), (18, "SIGCONT"), (19, "SIGSTOP"), (20, "SIGTSTP"), (21, "SIGTTIN"),
   (22, "SIGTTOU"), (23, "SIGURG"), (24, "SIGXCPU"), (25, "SIGXFSZ"), (26, "SIGVTALRM"),
   (27, "SIGPROF"), (28, "SIGWINCH"), (29, "SIGIO"), (30, "SIGPWR"), (31, "SIGSYS")]

def text : ExitStatus → String
  | code n => "exit status: " ++ toString n
  | signal n =>
    match signalNames.lookup n with
    | some name => "signal: " ++ toString n ++ " (" ++ name ++ ")"
    | none => "signal: " ++ toString n

instance : ToString ExitStatus := ⟨text⟩

end ExitStatus

end EngineBench
