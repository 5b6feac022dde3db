import CollectorBench.Script.Shell
/-! Parts of a script that are carried out as a whole: texts, subshells, traps and jobs.
An engine carries out single commands; it is given the parts of a command, never that command
itself. -/
namespace CollectorBench.Script
open Text Programs

/-- Carries out commands, and starts other programs. A command that is tested may fail without
consequences. -/
structure Engine where
  carryOut : (tested : Bool) → Command → Run Unit
  start : Start

namespace Engine
open Shell

def runSource (engine : Engine) (tested : Bool) : Nat → Source → Run Bool
  | 0, _ => pure false
  | lines + 1, source => do
    if source.isEmpty then pure false
    else
      match { source with aliases := (← get).aliases }.readLine with
      | .error fault => do
        modify fun shell => { shell with line := fault.line }
        refuse fault.text.toList
      | .ok (none,rest) => runSource engine tested lines rest
      | .ok (some command,rest) => do
        modify fun shell => { shell with reached := rest.line }
        unless (← get).hasOption 'n' do
          engine.carryOut tested command
        let _ ← runSource engine tested lines rest
        pure true

def runText (engine : Engine) (tested : Bool) (text : List Char) : Run Bool := do
  let reached := (← get).reached
  let any ← engine.runSource tested (text.length + 1) { rest := text }
  modify fun shell => { shell with reached }
  pure any

-- signals

def signalNames : List (String × Nat) :=
  [("EXIT",0),("HUP",1),("INT",2),("QUIT",3),("ILL",4),("TRAP",5),("ABRT",6),
    ("BUS",7),("FPE",8),("KILL",9),("USR1",10),("SEGV",11),("USR2",12),("PIPE",13),
    ("ALRM",14),("TERM",15),("STKFLT",16),("CHLD",17),("CONT",18),("STOP",19),
    ("TSTP",20),("TTIN",21),("TTOU",22),("URG",23),("XCPU",24),("XFSZ",25),
    ("VTALRM",26),("PROF",27),("WINCH",28),("POLL",29),("PWR",30),("SYS",31)]

def idleSignals : List Nat :=
  [0,17,18,23,28]

def signalTexts : List (Nat × String) :=
  [(1,"Hangup"),(3,"Quit"),(4,"Illegal instruction"),(5,"Trace/breakpoint trap"),
    (6,"Aborted"),(7,"Bus error"),(8,"Floating point exception"),(9,"Killed"),
    (10,"User defined signal 1"),(11,"Segmentation fault"),(12,"User defined signal 2"),
    (14,"Alarm clock"),(15,"Terminated"),(16,"Stack fault"),(24,"CPU time limit exceeded"),
    (25,"File size limit exceeded"),(26,"Virtual timer expired"),
    (27,"Profiling timer expired"),(29,"I/O possible"),(30,"Power failure"),
    (31,"Bad system call")]

/-- Carries out the action of a trap; the status is afterwards what it was. -/
def runTrap (engine : Engine) (action : List Char) : Run Unit := do
  let status := (← get).status
  let _ ← engine.runText false action
  setStatus status

def receive (engine : Engine) (signal : Nat) : Run Unit := do
  let shell ← get
  match if signal = 9 then none else shell.traps.lookup signal with
  | some action => engine.runTrap action
  | none => if idleSignals.contains signal then pure () else throw (.killed signal)

def receivePending (engine : Engine) : Run Unit := do
  let shell ← get
  unless shell.nested || shell.pending.isEmpty do
    set { shell with pending := [] }
    for signal in shell.pending do
      engine.receive signal

/-- The trap for the exit of a shell. It is carried out once. -/
def farewell (engine : Engine) : Run Unit := do
  let shell ← get
  match shell.traps.lookup 0 with
  | some action => do
    set { shell with traps := shell.traps.filter fun trap => trap.1 ≠ 0 }
    engine.runTrap action
  | none => pure ()

def takeOver (ending : Ending) : Run Unit := do
  match ending with
  | .signal signal =>
    match signalTexts.lookup signal with
    | some text => do
      let _ ← work (write Process.errorNumber (text ++ "\n").toList)
    | none => pure ()
  | .status _ => pure ()
  setStatus ending.code

-- subshells

/-- A shell that begins as a copy of another: it has its own jobs, and of the traps only those that
do nothing. -/
def forked (shell : Shell) : Shell :=
  { shell with
    nested := true
    jobs := []
    pending := []
    traps := shell.traps.filter fun trap => trap.2 = [] }

/-- Carries out an action in a shell of its own. Only what it does to files and streams stays. -/
def aside (shell : Shell) (action : StateM Shell Ending) : Run Ending := do
  let outer ← get
  let (ending,inner) := action.run shell
  set { outer with
    process := { inner.process with
      tree := { inner.process.tree with here := outer.process.tree.here }
      handles := outer.process.handles }
    pending := outer.pending ++ inner.pending }
  pure ending

def runJob (engine : Engine) (job : Job) : Run Job := do
  match job.ending with
  | some _ => pure job
  | none => do
    let shell ← get
    let process := { shell.process with
      tree := { shell.process.tree with here := job.here }
      handles := job.handles }
    let inner : Shell := forked { toSetting := job.setting, process }
    let ending ← aside inner (settle (engine.carryOut false job.command) engine.farewell)
    pure { job with ending := some ending }

def runJobs (engine : Engine) : Run Unit := do
  let jobs ← (← get).jobs.mapM engine.runJob
  modify fun shell => { shell with jobs }

def whole (engine : Engine) (action : Run Unit) : StateM Shell Ending := do
  let ending ← settle action engine.farewell
  let _ ← engine.runJobs.run
  pure ending

def inSubshell (engine : Engine) (action : Run Unit) : Run Ending := do
  aside (forked (← get)) (engine.whole action)

def capture (engine : Engine) (command : Command) : Run (List Char) := do
  let shell ← get
  let (index,process) := shell.process.addStream { channel := .pipe [] }
  set { shell with process }
  let ending ← engine.inSubshell do
    modify fun shell => { shell with process := shell.process.bind Process.outputNumber index }
    engine.carryOut false command
  modify fun shell => { shell with substituted := ending.code }
  let shell ← get
  match shell.process.streams[index]? with
  | some stream =>
    let text := (ofBytes (shell.process.contentOf stream.channel)).filter (· ≠ '\x00')
    pure (text.reverse.dropWhile (· = '\n')).reverse
  | none => pure []

end Engine
end CollectorBench.Script
