/-
  AnalysisDiagram.Text.Loose
  ──────────────────────────
  Texts in which surrogate codes may stand alone.

  A `String` holds characters only.  A text from outside may also hold one of
  the 2048 surrogate codes, which are no characters and have no UTF-8 form, and
  messages about such a text show it.  A loose text is cut at these codes:

      run ⟨lone⟩ run ⟨lone⟩ … run

  Every sequence of codes has exactly one such form, and a `String` is a loose
  text of a single run.
-/

namespace AnalysisDiagram

/-! ## §1. Codes. -/

/-- A code of a text. -/
inductive Code where
  | char (c : Char)
  /-- The surrogate code U+D800 + `n`, on its own. -/
  | lone (n : Fin 2048)
  deriving Repr, DecidableEq

namespace Code

/-- The code of a number. -/
def ofNat (n : Nat) : Code :=
  if 0xD800 ≤ n ∧ n < 0xE000 then .lone (Fin.ofNat 2048 (n - 0xD800)) else .char (Char.ofNat n)

/-- The number of a code. -/
def toNat : Code → Nat
  | .char c => c.toNat
  | .lone n => 0xD800 + n.val

/-- The character that a code is. -/
def char? : Code → Option Char
  | .char c => some c
  | .lone _ => none

/-- The character that a code is taken for where only characters will do. -/
def face (code : Code) : Char := code.char?.getD '\uFFFD'

end Code

/-! ## §2. Loose texts. -/

/-- A text in which surrogate codes may stand alone. -/
structure LooseText where
  /-- Runs of characters, each with the lone code after it. -/
  lead : List (String × Fin 2048)
  /-- The characters after the last lone code. -/
  last : String
  deriving Repr, DecidableEq, Inhabited

namespace LooseText

/-- A text of characters. -/
def ofString (s : String) : LooseText := ⟨[], s⟩

instance : Coe String LooseText := ⟨ofString⟩

/-- One text after the other. -/
def append (a b : LooseText) : LooseText :=
  match b.lead with
  | [] => ⟨a.lead, a.last ++ b.last⟩
  | (run, n) :: rest => ⟨a.lead ++ (a.last ++ run, n) :: rest, b.last⟩

instance : Append LooseText := ⟨append⟩

/-- The text as a `String`, if no code stands alone in it. -/
def string? (t : LooseText) : Option String :=
  match t.lead with
  | [] => some t.last
  | _ :: _ => none

/-- Runs and the text after them, with U+FFFD in place of each lone code. -/
def join : List (String × Fin 2048) → String → String
  | [], last => last
  | (run, _) :: rest, last => run ++ "\uFFFD" ++ join rest last

/-- The text as a `String`, with U+FFFD in place of each lone code. -/
def string (t : LooseText) : String := join t.lead t.last

/-- Whether there is nothing in a text. -/
def isEmpty (t : LooseText) : Bool := t.lead.isEmpty && t.last.isEmpty

/-- A text with each run of characters changed. -/
def mapRuns (f : String → String) (t : LooseText) : LooseText :=
  ⟨t.lead.map fun (run, n) => (f run, n), f t.last⟩

/-! ## §3. Texts and their codes. -/

/-- The codes of a text. -/
def codes (t : LooseText) : List Code :=
  (t.lead.flatMap fun (run, n) => run.toList.map Code.char ++ [.lone n])
    ++ t.last.toList.map Code.char

/-- The text of codes, after a run read so far (last character first). -/
def ofCodesFrom (run : List Char) : List Code → LooseText
  | [] => ⟨[], String.ofList run.reverse⟩
  | .char c :: rest => ofCodesFrom (c :: run) rest
  | .lone n :: rest =>
      let t := ofCodesFrom [] rest
      ⟨(String.ofList run.reverse, n) :: t.lead, t.last⟩

/-- The text of codes. -/
def ofCodes (cs : List Code) : LooseText := ofCodesFrom [] cs

/-- Whether codes stand before or at others by their numbers. -/
def codesUpTo : List Code → List Code → Bool
  | [], _ => true
  | _ :: _, [] => false
  | a :: as, b :: bs => a.toNat < b.toNat || (a.toNat == b.toNat && codesUpTo as bs)

/-- Whether a text stands before or at another by the numbers of its codes. -/
def isUpTo (a b : LooseText) : Bool := codesUpTo a.codes b.codes

/-- Texts one after the other, with a text between each two. -/
def intercalate (between : LooseText) : List LooseText → LooseText
  | [] => ofString ""
  | [t] => t
  | t :: rest => t ++ between ++ intercalate between rest

/-! ## §4. Laws. -/

@[simp]
theorem string_ofString (s : String) : (ofString s).string = s := rfl

@[simp]
theorem ofString_append (s t : String) : ofString s ++ ofString t = ofString (s ++ t) := rfl

theorem join_append (xs : List (String × Fin 2048)) (s run : String) (n : Fin 2048)
    (ys : List (String × Fin 2048)) (last : String) :
    join (xs ++ (s ++ run, n) :: ys) last = join xs s ++ join ((run, n) :: ys) last := by
  induction xs with
  | nil => simp [join, String.append_assoc]
  | cons x xs ih => simp [join, ih, String.append_assoc]

theorem join_last (xs : List (String × Fin 2048)) (s t : String) :
    join xs (s ++ t) = join xs s ++ t := by
  induction xs with
  | nil => rfl
  | cons x xs ih => simp [join, ih, String.append_assoc]

/-- Texts put together read as their readings put together. -/
@[simp]
theorem string_append (a b : LooseText) : (a ++ b).string = a.string ++ b.string := by
  obtain ⟨lead, last⟩ := b
  cases lead with
  | nil => exact join_last a.lead a.last last
  | cons x rest => exact join_append a.lead a.last x.1 x.2 rest last

end LooseText

end AnalysisDiagram
