/-
  AnalysisDiagram.Command.Files
  ─────────────────────────────
  Paths, and the files that a command can see.

  The system knows files by bytes.  A path is given as a text; characters stand
  for their UTF-8 form, and a lone code for a byte that is part of none.

  Files are given by the parts of their paths, from the working directory or,
  after a first part `/`, from the root; parts `..` at the beginning lead out
  of the working directory.  A directory is there when a file lies below it or
  when it is known by itself.  Looking a path up ends in a file, in a directory,
  in nothing, at a file where a directory was needed, or at a name that is too
  long.
-/
import AnalysisDiagram.Text.Loose
import AnalysisDiagram.Text.Utf8

namespace AnalysisDiagram.Command

/-! ## §1. Names. -/

/-- A path, or a part of one, in bytes. -/
abbrev Name := List UInt8

namespace Name

/-- What separates the parts of a path. -/
def slash : UInt8 := 0x2F

/-- The name of a directory inside itself. -/
def here : Name := [0x2E]

/-- The name of the directory above. -/
def parent : Name := [0x2E, 0x2E]

/-- What stands for the root as the first part of a path. -/
def root : Name := [slash]

end Name

/-- The bytes that a code of a path stands for: U+DC80 to U+DCFF for one byte
each, other lone codes for none. -/
def codeBytes? : Code → Option Name
  | .char c => some (Text.utf8 (String.singleton c)).toList
  | .lone n => if 0x480 ≤ n.val ∧ n.val < 0x500 then some [(n.val - 0x400).toUInt8] else none

/-- The bytes of a path, if all its codes stand for some. -/
def nameOf? (path : LooseText) : Option Name := (path.codes.mapM codeBytes?).map List.flatten

/-! ## §2. Parts of paths. -/

/-- The parts between separators, the first of which goes on from what was read
so far (last one first). -/
def partsFrom {α : Type} [DecidableEq α] (separator : α) (done : List α) : List α → List (List α)
  | [] => [done.reverse]
  | x :: xs =>
      if x = separator then done.reverse :: partsFrom separator [] xs
      else partsFrom separator (x :: done) xs

/-- The parts of a path between its slashes. -/
def components (path : Name) : List Name := partsFrom Name.slash [] path

/-- The parts of a path that name something. -/
def plainComponents (path : Name) : List Name :=
  (components path).filter fun part => !part.isEmpty && part != Name.here

/-- The suffix of a file's name: from its last dot on, unless that is the first
or the last character. -/
def suffix (path : LooseText) : LooseText :=
  let parts := (partsFrom (Code.char '/') [] path.codes).filter fun part =>
    !part.isEmpty && part != [.char '.']
  let name := parts.getLast?.getD []
  let after := name.reverse.takeWhile (· != .char '.')
  let start := name.length - after.length - 1
  if after.length < name.length && 0 < start && !after.isEmpty then
    LooseText.ofCodes (name.drop start)
  else ""

/-! ## §3. Files. -/

/-- The files that a command can see, by the parts of their paths. -/
structure Files where
  entries : List (List Name × List UInt8)
  /-- Directories that are there whatever lies below them. -/
  directories : List (List Name) := []

/-- What a path leads to. -/
inductive Target where
  | file (path : List Name) (content : List UInt8)
  | directory (path : List Name)
  | nothing
  /-- A file stands where a directory was needed. -/
  | blocked
  /-- A name is longer than names can be, or the whole path is. -/
  | tooLong

namespace Files

/-- The most bytes that a name in a path may have. -/
def longestName : Nat := 255

/-- The most bytes that a path may have. -/
def longestPath : Nat := 4095

/-- The content of a file. -/
def content? (fs : Files) (path : List Name) : Option (List UInt8) :=
  (fs.entries.find? (·.1 == path)).map (·.2)

/-- The parts of a path up to the directory that it starts from. -/
def base (path : Name) : List Name := if path.head? = some Name.slash then [Name.root] else []

/-- The directory above a directory. -/
def above (path : List Name) : List Name :=
  if path == [Name.root] then path
  else if path.all (· == Name.parent) then path ++ [Name.parent]
  else path.dropLast

/-- Whether a directory is there. -/
def isDirectory (fs : Files) (path : List Name) : Bool :=
  path.all (· == Name.parent) || path == [Name.root] || fs.directories.contains path
    || fs.entries.any fun (p, _) => path.isPrefixOf p && path.length < p.length

/-- What the rest of a path leads to from a directory. -/
def follow (fs : Files) (here : List Name) : List Name → Target
  | [] => .directory here
  | name :: rest =>
      let there := here ++ [name]
      if name.isEmpty || name == Name.here then follow fs here rest
      else if name == Name.parent then follow fs (above here) rest
      else if longestName < name.length then .tooLong
      else
        match fs.content? there with
        | some content => if rest.isEmpty then .file there content else .blocked
        | none => if fs.isDirectory there then follow fs there rest else .nothing

/-- What a path leads to. -/
def lookup (fs : Files) (path : Name) : Target :=
  if path.isEmpty then .nothing
  else if longestPath < path.length then .tooLong
  else fs.follow (base path) (components path)

/-- Where a file of a given path would be written.  The parts of the path that
name nothing are left out first. -/
def place (fs : Files) (path : Name) : Except Target (List Name) :=
  let parts := plainComponents path
  let size := (base path).length + ([Name.slash].intercalate parts).length
  if longestPath < size then .error .tooLong
  else
    match fs.follow (base path) parts, parts.getLast?, fs.follow (base path) parts.dropLast with
    | .file there _, _, _ => .ok there
    | .nothing, some name, .directory here => .ok (here ++ [name])
    | other, _, _ => .error other

/-- The files after one of them is written. -/
def write (fs : Files) (path : List Name) (content : List UInt8) : Files :=
  let entries :=
    if fs.entries.any (·.1 == path) then
      fs.entries.map fun entry => if entry.1 == path then (path, content) else entry
    else fs.entries ++ [(path, content)]
  { fs with entries }

/-- The files that are new or have another content than before. -/
def changes (before after : Files) : List (List Name × List UInt8) :=
  after.entries.filter fun (path, content) => before.content? path != some content

end Files

end AnalysisDiagram.Command
