/-
  AnalysisDiagram.Compiler
  ────────────────────────
  From source text to a diagram, and on to a payload.

      Compiler.build      — the sequence of the diagrams of all functions, or
                            why there is none
      Compiler.transform  — the payload of that sequence, or of an error node

  The parser is not part of this library: a source comes with its syntax tree.
  A language that is not known is shown in the message about it, for which
  there are so many levels to go down (`depth`).
  The journal tells how many functions were found and which sources were
  rejected.
-/
import AnalysisDiagram.Registry
import AnalysisDiagram.Settings
import AnalysisDiagram.Tree.Fault
import AnalysisDiagram.Wire.Payload

namespace AnalysisDiagram

open AnalysisDiagram.Journal

/-! ## §1. Sources. -/

/-- Why a source has no diagram. -/
inductive Refusal where
  /-- No such language; the language as messages show it. -/
  | unknownLanguage (shown : LooseText)
  /-- No such language, and no message can show it. -/
  | unshowable (fault : Value.ShowFault)
  /-- The source is no text, but of another type. -/
  | notText (typeName : String)
  /-- The source has no UTF-8 form. -/
  | notEncodable
  /-- The parser met a fault. -/
  | faulty (description : String)
  /-- There is no function in the source. -/
  | noFunction
  /-- A function lacks a part that its kind must have. -/
  | incomplete (defect : Defect)
  deriving Repr, DecidableEq

/-- A refusal in words. -/
def Refusal.message : Refusal → LooseText
  | .unknownLanguage shown => "Unsupported language '" ++ shown ++ "'"
  | .unshowable .tooManyDigits => "Exceeds the limit of digits for whole numbers"
  | .unshowable .tooDeep => "Nested too deep"
  | .notText typeName => "Unsupported payload type " ++ typeName ++ "; expected str"
  | .notEncodable => "source is not valid UTF-8 text: surrogates not allowed"
  | .faulty description => description
  | .noFunction => "No function found"
  | .incomplete _ => "Missing part"

/-- A source that the parser found no fault in. -/
structure ParsedSource where
  language : Language
  source : Source
  root : Node

/-- The functions of a source: the nodes of the right kinds at its top. -/
def ParsedSource.functions (p : ParsedSource) : List Node :=
  p.root.namedChildren.filter fun n => p.language.functionKinds.contains (LooseText.ofString n.kind)

namespace Compiler

/-- The bytes of a source that must be a text. -/
def encodeSource : Value → Except Refusal Source
  | .text s => .ok (Text.utf8 s)
  | .loose _ => .error .notEncodable
  | v => .error (.notText v.typeName)

/-- The refusal of a language that is not known. -/
def refusedLanguage (depth : Nat) (language : Value) : Refusal :=
  match language.shown depth with
  | .ok shown => .unknownLanguage shown
  | .error fault => .unshowable fault

/-- A source with its syntax tree, checked in this order: the language, the
type of the source, its UTF-8 form, the parser's verdict. -/
def parse (depth : Nat) (registry : Registry) (payload language : Value) (tree : Node) :
    Except Refusal ParsedSource :=
  match registry.get? language with
  | none => .error (refusedLanguage depth language)
  | some found =>
      match encodeSource payload with
      | .error refusal => .error refusal
      | .ok source =>
          if tree.info.faulty then .error (.faulty (tree.describeFault source))
          else .ok { language := found, source, root := tree }

/-! ## §2. Diagrams. -/

/-- The journal's name for the compiler. -/
def loggerName : String := "pad_compiler"

/-- The record of how many functions were found. -/
def foundRecord (p : ParsedSource) : Record :=
  { logger := loggerName
    level := Severity.debug.level
    message := ("found " ++ toString p.functions.length ++ " function(s) in ")
      ++ p.language.name ++ " source" }

/-- The record of a source that was rejected. -/
def rejectedRecord (refusal : Refusal) : Record :=
  { logger := loggerName
    level := Severity.info.level
    message := "rejecting source: " ++ refusal.message }

/-- The diagram of a parsed source: its functions one after the other. -/
def diagram (p : ParsedSource) : Except Refusal Diagram :=
  match p.functions with
  | [] => .error .noFunction
  | functions =>
      match functions.mapM (p.language.dialect.run p.source .function) with
      | .error defect => .error (.incomplete defect)
      | .ok blocks => .ok (.sequence blocks)

/-- The language that a request means. -/
def effectiveLanguage (settings : Settings) (language : Value) : Value :=
  if language.isVoid then .text settings.defaultLanguage.name else language

/-- The diagram of a source, or why there is none. -/
def build (depth : Nat) (settings : Settings) (registry : Registry) (payload language : Value)
    (tree : Node) : Report (Except Refusal Diagram) :=
  match parse depth registry payload (effectiveLanguage settings language) tree with
  | .error refusal => .plain (.error refusal)
  | .ok p => ⟨[foundRecord p], diagram p⟩

/-! ## §3. Payloads. -/

/-- The node that tells of an error. -/
def errorNode (message : LooseText) : Draft := .tagged .error [(.message, .text message)]

/-- What stops the way to a payload. -/
inductive Stop where
  /-- The language is not known, and no message can show it. -/
  | unshowable (fault : Value.ShowFault)
  /-- A function is incomplete. -/
  | incomplete (defect : Defect)
  /-- The diagram cannot be written. -/
  | unwritable (fault : WriteFault)
  deriving Repr, DecidableEq

/-- What is sent for a source: its diagram, or an error node; nothing if a
function is incomplete or the language cannot be shown. -/
def root (built : Except Refusal Diagram) : Report (Except Stop Draft) :=
  match built with
  | .ok d => .plain (.ok d.toDraft)
  | .error (.unshowable fault) => .plain (.error (.unshowable fault))
  | .error (.incomplete defect) => .plain (.error (.incomplete defect))
  | .error .noFunction => .plain (.ok (errorNode Refusal.noFunction.message))
  | .error refusal =>
      ⟨[rejectedRecord refusal], .ok (errorNode ("Parse error: " ++ refusal.message))⟩

/-- The payload of a source. -/
def transform (depth : Nat) (settings : Settings) (registry : Registry) (layout : Layout)
    (payload language : Value) (tree : Node) : Report (Except Stop LooseText) :=
  ((build depth settings registry payload language tree).andThen root).andThen fun made =>
    match made with
    | .error stop => .plain (.error stop)
    | .ok d =>
        (d.payload layout).map fun written => written.mapError Stop.unwritable

end Compiler

end AnalysisDiagram
