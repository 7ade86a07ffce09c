import AdTemplates.CommandLine.Report

/-! Logging. What a run logs goes to the error output, ahead of the report; other commands log
nothing. A variable of the environment filters the log, or a flag where the variable has no value
that can be read. Reading filters and writing log lines is left to a logger. -/
namespace AdTemplates.CommandLine

/-- How much is logged if the environment does not say. -/
inductive LogLevel where
  | warn
  | debug
  deriving DecidableEq, Repr

structure Logger (Filter : Type) where
  ofVariable? : List UInt8 → Option Filter
  ofLevel : LogLevel → Filter
  /-- What is logged of a run on files. -/
  log : Filter → Run.Request → FileTree → Config.Traversal → String

/-- The logger that never logs. -/
def Logger.silent : Logger Unit where
  ofVariable? _ := some ()
  ofLevel _ := ()
  log _ _ _ _ := ""

variable {Filter : Type}

/-- The filter in force. `value` is that of the variable. -/
def Logger.filter (l : Logger Filter) (value : Option (List UInt8)) (level : LogLevel) : Filter :=
  (value.bind l.ofVariable?).getD (l.ofLevel level)

def Arguments.logLevel (a : Arguments) : LogLevel :=
  if a.flags.contains .verbose then .debug else .warn

/-- What is logged before a report. -/
def Logger.logged (l : Logger Filter) (value : Option (List UInt8)) (words : List Word)
    (t : FileTree) (o : Config.Traversal := .asWritten) : String :=
  match Arguments.read words, Command.read words with
  | .ok a, .ok (.run r) => l.log (l.filter value a.logLevel) r t o
  | _, _ => ""

/-- A report with a log in front of it. -/
def Report.behind (r : Report) (log : String) : Report := { r with stderr := log ++ r.stderr }

/-- Reads arguments and obeys them, with a log. -/
def executeLogged (l : Logger Filter) (value : Option (List UInt8)) (words : List Word)
    (t : FileTree) (o : Config.Traversal := .asWritten) : Report × FileTree :=
  ((executeWords words t o).1.behind (l.logged value words t o), (executeWords words t o).2)

/-- Without a log the program answers what `executeWords` does. -/
@[simp] theorem executeLogged_silent (value : Option (List UInt8)) (words : List Word)
    (t : FileTree) (o : Config.Traversal) :
    executeLogged .silent value words t o = executeWords words t o := by
  have hlogged : Logger.silent.logged value words t o = "" := by
    unfold Logger.logged
    split <;> rfl
  rw [executeLogged, hlogged, Report.behind, String.empty_append]

end AdTemplates.CommandLine
