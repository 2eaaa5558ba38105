/-
  AnalysisDiagram.Command.Overview
  ────────────────────────────────
  The settings in force, as a table in a frame or as JSON.
-/
import AnalysisDiagram.Json.Text
import AnalysisDiagram.Settings

namespace AnalysisDiagram.Command

/-! ## §1. Tables. -/

/-- Text filled up with blanks to a width. -/
def padRight (width : Nat) (s : String) : String :=
  s ++ String.ofList (List.replicate (width - s.length) ' ')

/-- Text in the middle of a width; an odd blank goes to the right. -/
def centred (width : Nat) (s : String) : String :=
  padRight width (String.ofList (List.replicate ((width - s.length) / 2) ' ') ++ s)

/-- The width of a column: that of its longest text. -/
def columnWidth (texts : List String) : Nat := (texts.map String.length).foldl max 0

/-- A line between rows, with what stands at its ends and at the columns. -/
def rule (left middle right : String) (widths : List Nat) : String :=
  let dashes := widths.map fun w => String.ofList (List.replicate (w + 2) '─')
  left ++ String.intercalate middle dashes ++ right

/-- A row of a table. -/
def row (widths : List Nat) (cells : List String) : String :=
  "│ " ++ String.intercalate " │ " ((widths.zip cells).map fun (w, s) => padRight w s) ++ " │"

/-- A table with its title in the middle above it. -/
def table (title : String) (header : List String) (rows : List (List String)) : String :=
  let column := fun i => (header :: rows).map fun cells => cells[i]?.getD ""
  let widths := (List.range header.length).map fun i => columnWidth (column i)
  let top := rule "╭" "┬" "╮" widths
  let lines :=
    [centred top.length title, top, row widths header, rule "├" "┼" "┤" widths]
      ++ rows.map (row widths) ++ [rule "╰" "┴" "╯" widths]
  String.join (lines.map (· ++ "\n"))

/-! ## §2. Settings. -/

/-- The indent in digits, or a word where there is none. -/
def indentText (s : Settings) (unset : String) : Except Value.ShowFault String :=
  match s.jsonIndent with
  | some n => Value.wholeLiteral n
  | none => .ok unset

/-- The settings as a table. -/
def settingsTable (s : Settings) : Except Value.ShowFault String := do
  return table "PAD Configuration" ["Setting", "Env Variable", "Value"]
    [["log_level", "PAD_LOG_LEVEL", s.logLevel.name],
     ["default_language", "PAD_DEFAULT_LANGUAGE", s.defaultLanguage.name],
     ["json_indent", "PAD_JSON_INDENT", ← indentText s "not set"]]

/-- The settings as JSON. -/
def settingsJson (s : Settings) : Except Value.ShowFault String := do
  return "\x7b\n  \"log_level\": " ++ Json.encodeAscii s.logLevel.name
    ++ ",\n  \"default_language\": " ++ Json.encodeAscii s.defaultLanguage.name
    ++ ",\n  \"json_indent\": " ++ (← indentText s "null") ++ "\n\x7d\n"

end AnalysisDiagram.Command
