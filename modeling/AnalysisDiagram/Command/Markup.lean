/-
  AnalysisDiagram.Command.Markup
  ──────────────────────────────
  Messages with style tags, on a terminal without styles.

  A tag is a bracket, a letter or one of `#`, `/`, `@`, and all up to the next
  closing bracket; a tag that starts with a slash closes the last open one, or
  the last open one of the same style.  A backslash before a tag makes it plain
  text.  A tag that starts with `@` names a handler, whose arguments are looked
  at when the tag is closed.  Tags leave no trace in what is printed, and
  neither do five control characters; emoji are put for their names and blanks
  for tabs.
-/
import AnalysisDiagram.Command.Literal
import AnalysisDiagram.Command.Style
import AnalysisDiagram.Text.Emoji
import AnalysisDiagram.Text.Width

namespace AnalysisDiagram.Command

/-! ## §1. Pieces. -/

/-- A piece of a message. -/
inductive Markup where
  | plain (cs : List Code)
  | tag (cs : List Code)
  deriving Repr

/-- The inside of a tag that starts here, and the text after it. -/
def tag? : List Code → Option (List Code × List Code)
  | .char '[' :: .char c :: rest =>
      if ('a' ≤ c ∧ c ≤ 'z') ∨ c = '#' ∨ c = '/' ∨ c = '@' then
        let isInside := fun c : Code => c != .char ']' && c != .char '['
        match rest.dropWhile isInside with
        | .char ']' :: after => some (.char c :: rest.takeWhile isInside, after)
        | _ => none
      else none
  | _ => none

/-- The pieces of a message, after plain text read so far (last code first).
Each turn uses up a code, of which there are at most `fuel`. -/
def markupFrom : Nat → List Code → List Code → List Markup
  | _, done, [] => [.plain done.reverse]
  | 0, done, _ :: _ => [.plain done.reverse]
  | fuel + 1, done, c :: cs =>
      let slashes := (c :: cs).takeWhile (· == .char '\\')
      match tag? ((c :: cs).dropWhile (· == .char '\\')) with
      | some (inside, rest) =>
          let kept := List.replicate (slashes.length / 2) (Code.char '\\')
          if slashes.length % 2 = 1 then
            .plain done.reverse :: .plain kept
              :: .plain (.char '[' :: (inside ++ [.char ']']))
              :: markupFrom fuel [] rest
          else .plain done.reverse :: .plain kept :: .tag inside :: markupFrom fuel [] rest
      | none =>
          if slashes.isEmpty then markupFrom fuel (c :: done) cs
          else
            markupFrom fuel (slashes ++ done) ((c :: cs).dropWhile (· == .char '\\'))

/-- The pieces of a message. -/
def markup (cs : List Code) : List Markup := markupFrom cs.length [] cs

/-! ## §2. Tags. -/

/-- Why a message cannot be printed. -/
inductive MessageFault where
  /-- Its tags do not fit together. -/
  | tags
  /-- A number in a tag lacks its digits. -/
  | noNumber
  deriving Repr, DecidableEq

/-- A tag that is open: the normal form of its name, what follows an equals
sign, and how many codes are printed before it. -/
structure OpenTag where
  name : LooseText
  parameters : Option (List Code)
  start : Nat
  deriving Repr, DecidableEq

/-- The normal form of the name in a tag. -/
def tagName (inside : List Code) : Except MessageFault LooseText :=
  match Style.normal (LooseText.ofCodes (inside.takeWhile (· != .char '='))) with
  | .ok name => .ok name
  | .error _ => .error .noNumber

/-- The tag that is opened. -/
def opening (inside : List Code) (start : Nat) : Except MessageFault OpenTag :=
  let parameters := match inside.dropWhile (· != .char '=') with
    | _ :: cs => some cs
    | [] => none
  (tagName inside).map ({ name := ·, parameters, start })

/-- The style that a tag describes, in words. -/
def OpenTag.description (tag : OpenTag) : LooseText :=
  match tag.parameters with
  | none => tag.name
  | some cs => tag.name ++ " " ++ LooseText.ofCodes cs

/-- Whether the arguments of a handler can be read, which have no lone code in
them. -/
def OpenTag.isReadable (tag : OpenTag) : Bool :=
  match tag.name.codes, tag.parameters with
  | .char '@' :: _, some (c :: cs) =>
      match (c :: cs).mapM Code.char? with
      | some chars => isArguments (Text.trimBoth Text.isBlank chars)
      | none => false
  | _, _ => true

/-- The tag that is closed, and the tags that stay open: the last one, or the
last one of a name. -/
def close? (name : Option LooseText) (opened : List OpenTag) :
    Option (OpenTag × List OpenTag) :=
  match name with
  | none => opened.head?.map (·, opened.tail)
  | some name => (opened.find? (·.name == name)).map fun tag => (tag, opened.erase tag)

/-- The tag that a closing one, given without its slash, closes, and the tags
that stay open. -/
def closing (inside : List Code) (opened : List OpenTag) :
    Except MessageFault (OpenTag × List OpenTag) := do
  let isBlank := fun c : Code => Text.isBlank c.face
  let name ←
    if (inside.takeWhile (· != .char '=')).all isBlank then .ok none
    else (tagName (Text.trimBoth isBlank inside)).map some
  match close? name opened with
  | some (tag, opened) => if tag.isReadable then .ok (tag, opened) else .error .tags
  | none => .error .tags

/-! ## §3. Printing. -/

/-- A bracket keeps no backslash that stands before it. -/
def unescape : List Code → List Code
  | .char '\\' :: .char '[' :: rest => .char '[' :: unescape rest
  | c :: rest => c :: unescape rest
  | [] => []

/-- The control characters that are not printed. -/
def isSilent (c : Code) : Bool :=
  c.toNat == 7 || c.toNat == 8 || c.toNat == 11 || c.toNat == 12 || c.toNat == 13

/-- Plain text as it is printed. -/
def visible (cs : List Code) : List Code :=
  (Text.emojify (unescape cs)).filter fun c => !isSilent c

/-- A tag, and how many codes are printed before its end. -/
abbrev Span := OpenTag × Nat

/-- The text and the tags of pieces, with the tags open before them (last one
first) and the number of codes printed before them. -/
def printFrom (opened : List OpenTag) (before : Nat) :
    List Markup → Except MessageFault (List Code × List Span)
  | [] => .ok ([], opened.map (·, before))
  | .plain cs :: rest =>
      (printFrom opened (before + (visible cs).length) rest).map fun (text, spans) =>
        (visible cs ++ text, spans)
  | .tag (.char '/' :: inside) :: rest =>
      match closing inside opened with
      | .ok (tag, opened) =>
          (printFrom opened before rest).map fun (text, spans) => (text, (tag, before) :: spans)
      | .error fault => .error fault
  | .tag inside :: rest =>
      match opening inside before with
      | .ok tag => printFrom (tag :: opened) before rest
      | .error fault => .error fault

/-- Whether the style of a tag is looked up.  In a text that is cut at line ends
or tabs, that of a tag around no character of a line is not. -/
def isLookedUp (text : List Code) : Span → Bool
  | (tag, stop) =>
      !text.any (fun c => c == .char '\n' || c == .char '\t')
        || ((text.drop tag.start).take (stop - tag.start)).any (· != .char '\n')

/-- Whether a style can be looked up.  One that is no style can, and changes
nothing. -/
def isUsable (description : LooseText) : Bool :=
  match Style.read description with
  | .error .noNumber => false
  | _ => true

/-- A message as it is printed. -/
def printed (message : LooseText) : Except MessageFault LooseText :=
  match printFrom [] 0 (markup message.codes) with
  | .error fault => .error fault
  | .ok (text, spans) =>
      if spans.all fun span => isUsable span.1.description || !isLookedUp text span then
        .ok (LooseText.ofCodes (Text.untab text))
      else .error .noNumber

end AnalysisDiagram.Command
