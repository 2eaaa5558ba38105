/-
  AnalysisDiagram.Registry
  ────────────────────────
  The languages that can be compiled, by name.

  A language is registered under its name as it is spelt; a request is looked
  up in small letters.  A name with capitals is therefore listed, but cannot be
  asked for.
-/
import AnalysisDiagram.Dialect.JavaScript
import AnalysisDiagram.Dialect.Rust
import AnalysisDiagram.Text.Lowercase
import AnalysisDiagram.Value

namespace AnalysisDiagram

/-- A language: how it is read, and what counts as a function in it. -/
structure Language where
  name : LooseText
  dialect : Dialect
  functionKinds : List LooseText

namespace Language

/-- A language under a name of its own that is read in a given way. -/
def ofDialect (name : LooseText) (dialect : Dialect) : Language :=
  { name, dialect, functionKinds := dialect.functionKinds.map LooseText.ofString }

/-- Rust. -/
def rust : Language := ofDialect "rust" Dialect.rust

/-- JavaScript. -/
def javaScript : Language := ofDialect "javascript" Dialect.javaScript

end Language

/-- Languages by name, in the order in which the names came up. -/
structure Registry where
  entries : List (LooseText × Language)

namespace Registry

/-- No languages. -/
def empty : Registry := ⟨[]⟩

/-- A language under a given key; one that is there already gives way. -/
def insert (r : Registry) (key : LooseText) (language : Language) : Registry :=
  if r.entries.any (·.1 == key) then
    ⟨r.entries.map fun entry => if entry.1 == key then (key, language) else entry⟩
  else ⟨r.entries ++ [(key, language)]⟩

/-- A language under its own name. -/
def register (r : Registry) (language : Language) : Registry :=
  r.insert language.name language

/-- The language under a key, exactly as it is spelt. -/
def find? (r : Registry) (key : LooseText) : Option Language :=
  (r.entries.find? (·.1 == key)).map (·.2)

/-- The language that a request names.  A lone surrogate code has no small form,
and the letters on its two sides do not depend on each other. -/
def get? (r : Registry) (request : Value) : Option Language :=
  request.text?.bind fun name => r.find? (name.mapRuns Text.lowercase)

/-- All keys, in the order of their codes. -/
def names (r : Registry) : List LooseText :=
  (r.entries.map (·.1)).mergeSort LooseText.isUpTo

/-- The registry that is used when none is given. -/
def standard : Registry :=
  (empty.register Language.rust).register Language.javaScript

end Registry

end AnalysisDiagram
