import CollectorBench.Programs.Editing
import CollectorBench.Programs.Fields
import CollectorBench.Programs.Search
import CollectorBench.Programs.Starters
import CollectorBench.Programs.Transfer
/-! The programs that every system has. -/
namespace CollectorBench.Programs

def plainPrograms : List (String × Program) :=
  [("mkdir",mkdir),("rmdir",rmdir),("rm",rm),("unlink",unlinkOne),("touch",touch),
    ("mkfifo",mkfifo),("chmod",chmod),("cp",cp),("mv",mv),("ln",ln),("ls",ls),
    ("readlink",readlink),("realpath",realpath),("pwd",workingDirectory),("stat",stat),
    ("cat",cat),("tac",tac),("rev",rev),("nl",nl),("head",head),("tail",tail),
    ("wc",wc),("tee",tee),("sort",sort),("uniq",uniq),("cut",cut),("tr",tr),
    ("paste",paste),("grep",grep),("sed",sed),
    ("basename",basename),("dirname",dirname),("echo",echo),
    ("printf",printfProgram),("yes",yes),("seq",seq),("expr",expr),("sleep",sleep),
    ("date",date),("printenv",printenv),("true",quietly 0),("false",quietly 1),
    ("sync",quietly 0),("uname",tellName "Linux"),("whoami",tellName "root"),
    ("nproc",tellName "1"),("arch",tellName "x86_64")]

def catalog : List (String × Starter) :=
  starters ++ plainPrograms.map fun (name,program) =>
    (name,fun _ call => do pure (.status (← program call)))

end CollectorBench.Programs
