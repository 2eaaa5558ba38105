/-
  AnalysisDiagram.Journal.Loggers
  ───────────────────────────────
  Loggers by name.

  A logger is made when it is first asked for and kept from then on; its level
  changes only when the level of all loggers is set.  A record passes when its
  level is above zero, at or above the level in force for the logger and at or
  above that of its output.  A logger at level zero leaves the first decision
  to its nearest ancestor that has a level, or else to the root.
-/
import AnalysisDiagram.Journal.Clock
import AnalysisDiagram.Journal.Record
import AnalysisDiagram.Journal.Template

namespace AnalysisDiagram.Journal

/-! ## §1. Levels as values. -/

/-- Why a request to a logger fails. -/
inductive LoggerFault where
  /-- A level that does not exist. -/
  | unknownLevel
  /-- A level that is neither number nor name. -/
  | notLevel
  /-- No logger of this name was made. -/
  | unknownLogger
  /-- The level cannot be shown. -/
  | unshowable (fault : Value.ShowFault)
  /-- The message cannot be made. -/
  | template (fault : TemplateFault)
  /-- The time of the record cannot be shown. -/
  | clock (fault : ClockFault)
  deriving Repr, DecidableEq

/-- The level that a value stands for. -/
def levelOf : Value → Except LoggerFault Int
  | .int i => .ok i
  | .bool b => .ok (if b then 1 else 0)
  | .text name =>
      match levelOfName? name with
      | some level => .ok level
      | none => .error .unknownLevel
  | .loose _ => .error .unknownLevel
  | _ => .error .notLevel

/-- Whether a level is given as a truth value. -/
def isTruthValue : Value → Bool
  | .bool _ => true
  | _ => false

/-- What a record shows for a level. -/
inductive Title where
  /-- The number of a name. -/
  | level (number : Int)
  /-- The name of a number, or words. -/
  | words (t : LooseText)
  deriving Repr, DecidableEq

/-- A title as it is printed. -/
def Title.shown : Title → LooseText
  | .level number => Number.intText number
  | .words t => t

/-- The title of a level: the name of a number, the number of a name, and else
the value itself. -/
def levelTitle (depth : Nat) : Value → Except LoggerFault Title
  | .text name =>
      match levelOfName? name with
      | some level => .ok (.level level)
      | none => .ok (.words ("Level " ++ name))
  | .loose name => .ok (.words ("Level " ++ name))
  | .list _ => .error .notLevel
  | .object _ => .error .notLevel
  | level =>
      let known := fun i : Int => i == 0 || (Severity.ofLevel? i).isSome
      let number := match level with
        | .float x => if x.isWhole then x.floor? else none
        | level => (whole level).toOption
      match number.filter known with
      | some i => .ok (.words (levelName i))
      | none =>
          ((level.literal depth).map fun s => Title.words ("Level " ++ s)).mapError .unshowable

/-- The title of a level, in colour if it is that of a severity. -/
def colouredTitle (title : Title) : LooseText :=
  match Severity.all.find? (fun severity => some severity.name == title.shown.string?) with
  | some severity => severity.colour ++ severity.name ++ "\x1b[0m"
  | none => title.shown

/-- A record as it is printed, the time apart. -/
def titledLine (name : LooseText) (title : Title) (message : LooseText) : LooseText :=
  name ++ " | " ++ colouredTitle title ++ " | " ++ message

/-! ## §2. Loggers. -/

/-- A logger with its output; the two levels are always set together. -/
structure Logger where
  name : LooseText
  level : Int
  outputLevel : Int
  /-- Whether the level was given as a truth value, and is told as one. -/
  isTruth : Bool := false
  deriving Repr, DecidableEq

/-- The loggers made so far, in that order. -/
structure Loggers where
  made : List Logger := []

namespace Loggers

/-- The logger of a name. -/
def find? (ls : Loggers) (name : LooseText) : Option Logger :=
  ls.made.find? (·.name == name)

/-- The logger of a name, made at a level if there is none yet; and whether it
was there.  Where no level is given, the usual one is taken. -/
def get (ls : Loggers) (usual : Severity) (name : LooseText) (level : Value) :
    Except LoggerFault ((Logger × Bool) × Loggers) :=
  match ls.find? name with
  | some logger => .ok ((logger, true), ls)
  | none =>
      let asked : Except LoggerFault Int := match level with
        | .null => .ok usual.level
        | level => levelOf level
      match asked with
      | .error fault => .error fault
      | .ok number =>
          let logger : Logger :=
            { name, level := number, outputLevel := number, isTruth := isTruthValue level }
          .ok ((logger, false), ⟨ls.made ++ [logger]⟩)

/-- All loggers set to a level.  Without loggers the level is not looked at. -/
def setLevel (ls : Loggers) (level : Value) : Except LoggerFault Loggers :=
  if ls.made.isEmpty then .ok ls
  else
    match levelOf level with
    | .error fault => .error fault
    | .ok number =>
        let reset := fun l : Logger =>
          { l with level := number, outputLevel := number, isTruth := isTruthValue level }
        .ok ⟨ls.made.map reset⟩

/-- The loggers in the order of their names. -/
def sorted (ls : Loggers) : List Logger :=
  ls.made.mergeSort fun a b => a.name.isUpTo b.name

/-- The names before the dots of a name that is given backwards, the longest
first.  Of two dots side by side only the second one counts, and a dot at the
very beginning does not. -/
def stems : Nat → List Code → List LooseText
  | 0, _ => []
  | fuel + 1, cs =>
      match cs.dropWhile (· != .char '.') with
      | [] => []
      | _ :: rest =>
          if rest.isEmpty then [] else LooseText.ofCodes rest.reverse :: stems fuel rest.tail

/-- The names of the ancestors of a dotted name, nearest first. -/
def ancestors (name : LooseText) : List LooseText :=
  stems name.codes.length name.codes.reverse

/-- The level in force for a logger: its own, or that of the nearest ancestor
that has one. -/
def effectiveLevel (ls : Loggers) (logger : Logger) : Int :=
  if logger.level != 0 then logger.level
  else
    ((ancestors logger.name).findSome? fun name =>
      match ls.find? name with
      | some l => if l.level != 0 then some l.level else none
      | none => none).getD rootLevel

/-- Whether a record of a level passes a logger and its output. -/
def passes (ls : Loggers) (logger : Logger) (level : Int) : Bool :=
  decide (0 < level) && decide (ls.effectiveLevel logger ≤ level)
    && decide (logger.outputLevel ≤ level)

/-- The lines that a message to a logger prints; one that cannot be made prints
nothing, unless it is nested too deep. -/
def log (ls : Loggers) (depth : Nat) (name : LooseText) (level : Value) (template : Value)
    (args : List Value) : Except LoggerFault (List LooseText) :=
  match ls.find? name, whole level with
  | none, _ => .error .unknownLogger
  | some _, .error _ => .error .notLevel
  | some logger, .ok number =>
      if ls.passes logger number then do
        let title ← levelTitle depth level
        match filled depth template args with
        | .ok message => return [titledLine name title message]
        | .error (.unshowable .tooDeep) => .error (.template (.unshowable .tooDeep))
        | .error _ => return []
      else .ok []

end Loggers

/-! ## §3. Records on their own. -/

/-- The point in time that a value stands for, in whole seconds. -/
def secondsOf : Value → Except ClockFault Int
  | .null => .ok 0
  | .bool b => .ok (if b then 1 else 0)
  | .int i => .ok i
  | .float .nan => .error .notNumber
  | .float x =>
      match x.floor? with
      | some i => .ok i
      | none => .error .tooFar
  | _ => .error .notTime

/-- A record as it is printed, with its time. -/
def formatRecord (depth : Nat) (name : LooseText) (title : Title) (template : Value)
    (args : List Value) (time : Value) : Except LoggerFault LooseText :=
  match filled depth template args, secondsOf time with
  | .error fault, _ => .error (.template fault)
  | .ok _, .error fault => .error (.clock fault)
  | .ok message, .ok seconds =>
      match clockFault? seconds with
      | some fault => .error (.clock fault)
      | none => .ok ((timestamp seconds ++ " | ") ++ titledLine name title message)

end AnalysisDiagram.Journal
