/-
  AnalysisDiagram.Journal.Record
  ──────────────────────────────
  Log records and their levels.

  A level is a whole number; six of them have names, and five of these are
  shown in colour.  Work that keeps a journal returns a `Report`: its result
  with the records made on the way, whatever their level.  Which of them are
  printed is decided by a threshold at the very end.
-/
import AnalysisDiagram.Number.Decimal
import AnalysisDiagram.Text.Loose

namespace AnalysisDiagram.Journal

/-! ## §1. Levels. -/

/-- The levels that settings may name. -/
inductive Severity where
  | debug
  | info
  | warning
  | error
  | critical
  deriving Repr, DecidableEq

namespace Severity

/-- All severities, the least one first. -/
def all : List Severity := [.debug, .info, .warning, .error, .critical]

/-- The level of a severity. -/
def level : Severity → Int
  | .debug => 10
  | .info => 20
  | .warning => 30
  | .error => 40
  | .critical => 50

/-- The name of a severity. -/
def name : Severity → String
  | .debug => "DEBUG"
  | .info => "INFO"
  | .warning => "WARNING"
  | .error => "ERROR"
  | .critical => "CRITICAL"

/-- The colour of a severity on a terminal. -/
def colour : Severity → String
  | .debug => "\x1b[36m"
  | .info => "\x1b[32m"
  | .warning => "\x1b[33m"
  | .error => "\x1b[31m"
  | .critical => "\x1b[35m"

/-- The severity of a level. -/
def ofLevel? (level : Int) : Option Severity := all.find? (·.level == level)

end Severity

/-- The name of any level. -/
def levelName (level : Int) : String :=
  match Severity.ofLevel? level with
  | some severity => severity.name
  | none => if level == 0 then "NOTSET" else "Level " ++ Number.intText level

/-- The name of any level, in colour if it is a severity. -/
def colouredName (level : Int) : String :=
  match Severity.ofLevel? level with
  | some severity => severity.colour ++ severity.name ++ "\x1b[0m"
  | none => levelName level

/-- The level of a name, exactly as it is spelt. -/
def levelOfName? : String → Option Int
  | "NOTSET" => some 0
  | "DEBUG" => some 10
  | "INFO" => some 20
  | "WARNING" => some 30
  | "WARN" => some 30
  | "ERROR" => some 40
  | "CRITICAL" => some 50
  | "FATAL" => some 50
  | _ => none

/-! ## §2. Records. -/

/-- One entry of a log. -/
structure Record where
  /-- The name of the logger. -/
  logger : String
  level : Int
  message : LooseText
  deriving Repr, DecidableEq

/-- A record as it is printed, the time apart. -/
def Record.line (r : Record) : LooseText :=
  (r.logger ++ " | " ++ colouredName r.level ++ " | ") ++ r.message

/-- The level in force where no logger has one. -/
def rootLevel : Int := Severity.warning.level

/-- The lines of the records at or above a threshold; zero is no threshold of
its own. -/
def lines (threshold : Int) (records : List Record) : List LooseText :=
  let threshold := if threshold == 0 then rootLevel else threshold
  (records.filter fun r => decide (threshold ≤ r.level)).map Record.line

/-! ## §3. Work that keeps a journal. -/

/-- A result, with the records made on the way. -/
structure Report (α : Type) where
  records : List Record
  result : α
  deriving Repr

namespace Report

/-- A result without records. -/
def plain {α : Type} (result : α) : Report α := ⟨[], result⟩

/-- A report with its result changed. -/
def map {α β : Type} (f : α → β) (r : Report α) : Report β := ⟨r.records, f r.result⟩

/-- Further work on a result, its records after those made so far. -/
def andThen {α β : Type} (r : Report α) (f : α → Report β) : Report β :=
  let next := f r.result
  ⟨r.records ++ next.records, next.result⟩

end Report

end AnalysisDiagram.Journal
