/-
  AnalysisDiagram.Proofs.Json.Spelling
  ────────────────────────────────────
  Texts that spell a JSON value, whatever comes after them.

      nesting text       — how deep the brackets of a text nest, apart from
                           those inside strings
      Spells n text v    — the reader takes `v` off the front of any text that
                           starts with `text` and lets at least `n` levels
                           nest, and `text` nests `n` levels itself

  Spellings are put together as values are: strings, items and members first,
  then arrays and objects.
-/
import AnalysisDiagram.Json.Reader
import AnalysisDiagram.Json.Text
import Mathlib.Tactic.Common

namespace AnalysisDiagram.Json

/-! ## §1. Escapes. -/

/-- The three ways to write a character in a string: as it is, by a letter, or
by its code. -/
theorem encodeChar_cases (c : Char) :
    (encodeChar c = [c] ∧ c ≠ '"' ∧ c ≠ '\\' ∧ ¬ c.toNat < 0x20) ∨
    (∃ x, encodeChar c = ['\\', x] ∧ x ≠ 'u' ∧ letterEscape? x = some c) ∨
    (c.toNat < 0x20 ∧ ∃ a b, encodeChar c = ['\\', 'u', '0', '0', a, b] ∧
      unit? '0' '0' a b = some c.toNat ∧ a ≠ '"' ∧ a ≠ '\\' ∧ b ≠ '"' ∧ b ≠ '\\') := by
  -- two control characters with letters are known by their codes alone
  have hcode : ∀ n, c.toNat = n → c = Char.ofNat n := by
    rintro n rfl
    exact (Char.ofNat_toNat c).symm
  have hunit : ∀ n < 0x20, unitEscape n
        = ['\\', 'u', '0', '0', Nat.digitChar (n / 16), Nat.digitChar (n % 16)] ∧
      unit? '0' '0' (Nat.digitChar (n / 16)) (Nat.digitChar (n % 16)) = some n ∧
      Nat.digitChar (n / 16) ≠ '"' ∧ Nat.digitChar (n / 16) ≠ '\\' ∧
      Nat.digitChar (n % 16) ≠ '"' ∧ Nat.digitChar (n % 16) ≠ '\\' := by
    decide
  unfold encodeChar escape?
  by_cases hquote : (c == '"') = true
  · rw [if_pos hquote]
    exact .inr (.inl ⟨'"', rfl, by decide, by rw [eq_of_beq hquote]; rfl⟩)
  rw [if_neg hquote]
  by_cases hslash : (c == '\\') = true
  · rw [if_pos hslash]
    exact .inr (.inl ⟨'\\', rfl, by decide, by rw [eq_of_beq hslash]; rfl⟩)
  rw [if_neg hslash]
  by_cases hline : (c == '\n') = true
  · rw [if_pos hline]
    exact .inr (.inl ⟨'n', rfl, by decide, by rw [eq_of_beq hline]; rfl⟩)
  rw [if_neg hline]
  by_cases hreturn : (c == '\r') = true
  · rw [if_pos hreturn]
    exact .inr (.inl ⟨'r', rfl, by decide, by rw [eq_of_beq hreturn]; rfl⟩)
  rw [if_neg hreturn]
  by_cases htab : (c == '\t') = true
  · rw [if_pos htab]
    exact .inr (.inl ⟨'t', rfl, by decide, by rw [eq_of_beq htab]; rfl⟩)
  rw [if_neg htab]
  by_cases hback : (c.toNat == 8) = true
  · rw [if_pos hback]
    exact .inr (.inl ⟨'b', rfl, by decide, by rw [hcode 8 (eq_of_beq hback)]; rfl⟩)
  rw [if_neg hback]
  by_cases hfeed : (c.toNat == 12) = true
  · rw [if_pos hfeed]
    exact .inr (.inl ⟨'f', rfl, by decide, by rw [hcode 12 (eq_of_beq hfeed)]; rfl⟩)
  rw [if_neg hfeed]
  by_cases hlow : c.toNat < 0x20
  · rw [if_pos hlow]
    exact .inr (.inr ⟨hlow, _, _, (hunit _ hlow).1, (hunit _ hlow).2⟩)
  · rw [if_neg hlow]
    refine .inl ⟨rfl, ?_, ?_, hlow⟩
    · rintro rfl
      exact hquote rfl
    · rintro rfl
      exact hslash rfl

theorem stringBody_plain {c : Char} (hquote : c ≠ '"') (hslash : c ≠ '\\')
    (done rest : List Char) :
    stringBody done (c :: rest) = if c.toNat < 0x20 then none else stringBody (c :: done) rest := by
  rw [stringBody]
  · exact hquote
  · intro a b c d rest h
    exact absurd h hslash
  · intro a rest h
    exact absurd h hslash

theorem stringBody_letter {x c : Char} (hx : x ≠ 'u') (hc : letterEscape? x = some c)
    (done rest : List Char) :
    stringBody done ('\\' :: x :: rest) = stringBody (c :: done) rest := by
  rw [stringBody, hc]
  intro a b c d rest h
  exact absurd h hx

/-- A character is read back from the way in which it is written. -/
theorem stringBody_encodeChar (c : Char) (done rest : List Char) :
    stringBody done (encodeChar c ++ rest) = stringBody (c :: done) rest := by
  rcases encodeChar_cases c with ⟨h, hquote, hslash, hlow⟩ | ⟨x, h, hx, hc⟩ |
    ⟨hlow, a, b, h, hab, _⟩
  · rw [h]
    show stringBody done (c :: rest) = _
    rw [stringBody_plain hquote hslash, if_neg hlow]
  · rw [h]
    exact stringBody_letter hx hc done rest
  · rw [h]
    show stringBody done ('\\' :: 'u' :: '0' :: '0' :: a :: b :: rest) = _
    -- a code this low is no half of a pair
    have hhigh : isHighUnit c.toNat = false := by
      unfold isHighUnit
      rw [Bool.and_eq_false_iff, decide_eq_false_iff_not]
      exact .inl (by omega)
    have hlone : isLowUnit c.toNat = false := by
      unfold isLowUnit
      rw [Bool.and_eq_false_iff, decide_eq_false_iff_not]
      exact .inl (by omega)
    rw [stringBody, hab]
    simp only [hhigh, hlone, Bool.false_eq_true, if_false, Char.ofNat_toNat]

theorem stringBody_encoded (cs done rest : List Char) :
    stringBody done (cs.flatMap encodeChar ++ '"' :: rest) = some (done.reverse ++ cs, rest) := by
  induction cs generalizing done with
  | nil =>
    rw [List.append_nil]
    show stringBody done ('"' :: rest) = _
    rw [stringBody]
  | cons c cs ih =>
    rw [List.flatMap_cons, List.append_assoc, stringBody_encodeChar, ih, List.reverse_cons,
      List.append_assoc]
    rfl

theorem toList_encode (s : String) :
    (encode s).toList = '"' :: (s.toList.flatMap encodeChar ++ ['"']) :=
  String.toList_ofList

/-! ## §2. Nesting. -/

/-- Where a character of a text stands. -/
inductive Place where
  | outside
  /-- In a string. -/
  | inside
  /-- In a string, right after a backslash. -/
  | escaped

/-- The place after a character. -/
def Place.after : Place → Char → Place
  | .outside, c => if c = '"' then .inside else .outside
  | .inside, c => if c = '"' then .outside else if c = '\\' then .escaped else .inside
  | .escaped, _ => .inside

/-- The number of open brackets after a character. -/
def levelAfter (level : Nat) : Place → Char → Nat
  | .outside, c =>
      if c = '[' ∨ c = '\x7b' then level + 1
      else if c = ']' ∨ c = '\x7d' then level - 1
      else level
  | _, _ => level

/-- The most brackets that are open at once in a text. -/
def deepest (place : Place) (level : Nat) : List Char → Nat
  | [] => level
  | c :: cs => max level (deepest (place.after c) (levelAfter level place c) cs)

/-- How deep the arrays and objects of a text nest. -/
def nesting (text : String) : Nat := deepest .outside 0 text.toList

theorem le_deepest (place : Place) (level : Nat) (cs : List Char) :
    level ≤ deepest place level cs := by
  cases cs with
  | nil => exact Nat.le_refl level
  | cons c cs => exact Nat.le_max_left level _

/-- A character that opens and closes nothing does not count. -/
theorem deepest_cons_of_level {place : Place} {level : Nat} {c : Char}
    (h : levelAfter level place c = level) (cs : List Char) :
    deepest place level (c :: cs) = deepest (place.after c) level cs := by
  rw [deepest, h]
  exact Nat.max_eq_right (le_deepest _ _ _)

theorem deepest_open {c : Char} (h : c = '[' ∨ c = '\x7b') (level : Nat) (cs : List Char) :
    deepest .outside level (c :: cs) = deepest .outside (level + 1) cs := by
  have hlevel : levelAfter level .outside c = level + 1 := if_pos h
  have hplace : Place.outside.after c = .outside := by
    rcases h with rfl | rfl <;> rfl
  have hle := le_deepest .outside (level + 1) cs
  rw [deepest, hlevel, hplace]
  exact Nat.max_eq_right (by omega)

theorem deepest_close {c : Char} (h : c = ']' ∨ c = '\x7d') (level : Nat) (cs : List Char) :
    deepest .outside (level + 1) (c :: cs) = max (level + 1) (deepest .outside level cs) := by
  rcases h with rfl | rfl <;> rfl

theorem deepest_inside {c : Char} (hquote : c ≠ '"') (hslash : c ≠ '\\') (level : Nat)
    (cs : List Char) : deepest .inside level (c :: cs) = deepest .inside level cs := by
  have hplace : Place.inside.after c = .inside := by
    rw [Place.after, if_neg hquote, if_neg hslash]
  rw [deepest_cons_of_level rfl, hplace]

theorem deepest_escape (x : Char) (level : Nat) (cs : List Char) :
    deepest .inside level ('\\' :: x :: cs) = deepest .inside level cs := by
  rw [deepest_cons_of_level rfl]
  exact deepest_cons_of_level rfl cs

theorem deepest_encodeChar (c : Char) (level : Nat) (rest : List Char) :
    deepest .inside level (encodeChar c ++ rest) = deepest .inside level rest := by
  rcases encodeChar_cases c with ⟨h, hquote, hslash, _⟩ | ⟨x, h, _, _⟩ |
    ⟨_, a, b, h, _, ha, ha', hb, hb'⟩
  · rw [h]
    exact deepest_inside hquote hslash level rest
  · rw [h]
    exact deepest_escape x level rest
  · rw [h]
    show deepest .inside level ('\\' :: 'u' :: '0' :: '0' :: a :: b :: rest) = _
    rw [deepest_escape, deepest_inside (by decide) (by decide),
      deepest_inside (by decide) (by decide), deepest_inside ha ha', deepest_inside hb hb']

/-- Brackets in a string do not count. -/
theorem deepest_encode (s : String) (level : Nat) (rest : List Char) :
    deepest .outside level ((encode s).toList ++ rest) = deepest .outside level rest := by
  have hchars : ∀ cs : List Char,
      deepest .inside level (cs.flatMap encodeChar ++ '"' :: rest)
        = deepest .outside level rest := by
    intro cs
    induction cs with
    | nil => exact deepest_cons_of_level rfl rest
    | cons c cs ih => rw [List.flatMap_cons, List.append_assoc, deepest_encodeChar, ih]
  rw [toList_encode, List.cons_append, deepest_cons_of_level rfl, List.append_assoc]
  exact hchars s.toList

/-! ## §3. Gaps. -/

/-- Blanks alone. -/
def Gap (cs : List Char) : Prop := ∀ c ∈ cs, isGap c = true

theorem skipGap_gap {gap : List Char} (h : Gap gap) (cs : List Char) :
    skipGap (gap ++ cs) = skipGap cs := by
  unfold skipGap
  exact List.dropWhile_append_of_pos h

theorem value?_gap {gap : List Char} (h : Gap gap) (fuel depth : Nat) (cs : List Char) :
    value? fuel depth (gap ++ cs) = value? fuel depth cs := by
  cases fuel with
  | zero => rw [value?, value?]
  | succ fuel => rw [value?, value?, skipGap_gap h]

theorem items?_gap {gap : List Char} (h : Gap gap) (fuel depth : Nat) (cs : List Char) :
    items? fuel depth (gap ++ cs) = items? fuel depth cs := by
  cases fuel with
  | zero => rw [items?, items?]
  | succ fuel => rw [items?, items?, value?_gap h]

theorem members?_gap {gap : List Char} (h : Gap gap) (fuel depth : Nat) (cs : List Char) :
    members? fuel depth (gap ++ cs) = members? fuel depth cs := by
  cases fuel with
  | zero => rw [members?, members?]
  | succ fuel => rw [members?, members?, skipGap_gap h]

theorem deepest_gap {gap : List Char} (h : Gap gap) (level : Nat) (cs : List Char) :
    deepest .outside level (gap ++ cs) = deepest .outside level cs := by
  induction gap with
  | nil => rfl
  | cons c gap ih =>
    obtain ⟨hc, hgap⟩ := List.forall_mem_cons.1 h
    have hblank : c = ' ' ∨ c = '\t' ∨ c = '\n' ∨ c = '\r' := by
      simpa [isGap, or_assoc] using hc
    have hplain : levelAfter level .outside c = level ∧ Place.outside.after c = .outside := by
      rcases hblank with rfl | rfl | rfl | rfl <;> exact ⟨rfl, rfl⟩
    rw [List.cons_append, deepest_cons_of_level hplain.1, hplain.2, ih hgap]

theorem deepest_comma {gap : List Char} (h : Gap gap) (level : Nat) (cs : List Char) :
    deepest .outside level (',' :: (gap ++ cs)) = deepest .outside level cs := by
  rw [deepest_cons_of_level rfl]
  exact deepest_gap h level cs

/-! ## §4. Spellings. -/

/-- Starts like a string, an array or an object. -/
def Begins (cs : List Char) : Prop :=
  ∃ c rest, cs = c :: rest ∧ (c = '"' ∨ c = '[' ∨ c = '\x7b')

theorem Begins.append {cs : List Char} (h : Begins cs) (more : List Char) :
    Begins (cs ++ more) := by
  obtain ⟨c, rest, rfl, hc⟩ := h
  exact ⟨c, rest ++ more, rfl, hc⟩

theorem begins_encode (s : String) : Begins (encode s).toList := by
  rw [toList_encode]
  exact ⟨'"', _, rfl, .inl rfl⟩

/-- A text that spells a value: it nests `n` levels, and a reader that lets as
many nest takes the value off the front of any text that starts with it. -/
structure Spells (n : Nat) (text : List Char) (v : Value) : Prop where
  begins : Begins text
  reads : ∀ fuel depth rest, text.length ≤ fuel → n ≤ depth →
    value? fuel depth (text ++ rest) = some (v, rest)
  nests : ∀ level rest,
    max (level + n) (deepest .outside level rest) ≤ deepest .outside level (text ++ rest)

/-- A text that spells the inside of an array or an object, up to and with the
closing bracket. -/
structure SpellsInside {α : Type} (read : Nat → Nat → List Char → Option (α × List Char))
    (n : Nat) (text : List Char) (a : α) : Prop where
  begins : Begins text
  reads : ∀ fuel depth rest, text.length ≤ fuel → n ≤ depth →
    read fuel depth (text ++ rest) = some (a, rest)
  nests : ∀ level rest, max (level + 1 + n) (deepest .outside level rest)
    ≤ deepest .outside (level + 1) (text ++ rest)

theorem Begins.skipGap_eq {cs gap : List Char} (h : Begins cs) (hgap : Gap gap) :
    skipGap (gap ++ cs) = cs := by
  rw [skipGap_gap hgap]
  obtain ⟨c, rest, rfl, rfl | rfl | rfl⟩ := h <;> rfl

theorem value?_array {cs gap : List Char} (h : Begins cs) (hgap : Gap gap) (fuel depth : Nat) :
    value? (fuel + 1) (depth + 1) ('[' :: (gap ++ cs))
      = (items? fuel depth cs).map fun (items, rest) => (.list items, rest) := by
  have hopen : skipGap ('[' :: (gap ++ cs)) = '[' :: (gap ++ cs) := rfl
  simp only [value?, hopen, h.skipGap_eq hgap]
  obtain ⟨c, rest, rfl, rfl | rfl | rfl⟩ := h <;> rfl

theorem value?_object {cs gap : List Char} (h : Begins cs) (hgap : Gap gap) (fuel depth : Nat) :
    value? (fuel + 1) (depth + 1) ('\x7b' :: (gap ++ cs))
      = (members? fuel depth cs).map fun (entries, rest) => (.object entries, rest) := by
  have hopen : skipGap ('\x7b' :: (gap ++ cs)) = '\x7b' :: (gap ++ cs) := rfl
  simp only [value?, hopen, h.skipGap_eq hgap]
  obtain ⟨c, rest, rfl, rfl | rfl | rfl⟩ := h <;> rfl

namespace Spells

/-- A string. -/
theorem text (s : String) : Spells 0 (encode s).toList (.text s) where
  begins := begins_encode s
  reads := by
    intro fuel depth rest hfuel _
    rw [toList_encode] at hfuel ⊢
    simp only [List.length_cons] at hfuel
    obtain ⟨fuel, rfl⟩ : ∃ f, fuel = f + 1 := ⟨fuel - 1, by omega⟩
    show (stringBody [] (s.toList.flatMap encodeChar ++ ['"'] ++ rest)).map _ = _
    rw [List.append_assoc, List.singleton_append, stringBody_encoded]
    show some (Value.text (String.ofList s.toList), rest) = _
    rw [String.ofList_toList]
  nests := by
    intro level rest
    rw [deepest_encode]
    exact Nat.max_le.2 ⟨le_deepest _ _ _, Nat.le_refl _⟩

/-- An empty array. -/
theorem nil : Spells 0 ['[', ']'] (.list []) where
  begins := ⟨'[', _, rfl, .inr (.inl rfl)⟩
  reads := by
    intro fuel depth rest hfuel _
    simp only [List.length_cons] at hfuel
    obtain ⟨fuel, rfl⟩ : ∃ f, fuel = f + 1 := ⟨fuel - 1, by omega⟩
    rfl
  nests := by
    intro level rest
    show _ ≤ deepest .outside level ('[' :: ']' :: rest)
    rw [deepest_open (.inl rfl), deepest_close (.inl rfl)]
    omega

variable {n m : Nat} {gap text : List Char}

/-- Brackets of either sort around what they hold. -/
theorem around {α : Type} {read : Nat → Nat → List Char → Option (α × List Char)}
    {make : α → Value} {a : α} {c : Char} (hc : c = '[' ∨ c = '\x7b')
    (hvalue : ∀ fuel depth cs, Begins cs → value? (fuel + 1) (depth + 1) (c :: (gap ++ cs))
      = (read fuel depth cs).map fun (a, rest) => (make a, rest))
    (h : SpellsInside read n text a) (hgap : Gap gap) :
    Spells (1 + n) (c :: (gap ++ text)) (make a) where
  begins := ⟨c, _, rfl, .inr hc⟩
  reads := by
    intro fuel depth rest hfuel hdepth
    simp only [List.length_cons, List.length_append] at hfuel
    obtain ⟨fuel, rfl⟩ : ∃ f, fuel = f + 1 := ⟨fuel - 1, by omega⟩
    obtain ⟨depth, rfl⟩ : ∃ d, depth = d + 1 := ⟨depth - 1, by omega⟩
    rw [List.cons_append, List.append_assoc, hvalue fuel depth _ (h.begins.append rest),
      h.reads fuel depth rest (by omega) (by omega)]
    rfl
  nests := by
    intro level rest
    have hnests := h.nests level rest
    rw [List.cons_append, deepest_open hc, List.append_assoc, deepest_gap hgap]
    omega

/-- An array around its items. -/
theorem list {vs : List Value} (h : SpellsInside items? n text vs) (hgap : Gap gap) :
    Spells (1 + n) ('[' :: (gap ++ text)) (.list vs) :=
  around (.inl rfl) (fun fuel depth _ hcs => value?_array hcs hgap fuel depth) h hgap

/-- An object around its members. -/
theorem object {es : List (String × Value)} (h : SpellsInside members? n text es)
    (hgap : Gap gap) : Spells (1 + n) ('\x7b' :: (gap ++ text)) (.object es) :=
  around (.inr rfl) (fun fuel depth _ hcs => value?_object hcs hgap fuel depth) h hgap

/-- The last item of an array. -/
theorem lastItem {v : Value} (h : Spells n text v) (hgap : Gap gap) :
    SpellsInside items? n (text ++ (gap ++ [']'])) [v] where
  begins := h.begins.append _
  reads := by
    intro fuel depth rest hfuel hdepth
    simp only [List.length_append, List.length_cons] at hfuel
    obtain ⟨fuel, rfl⟩ : ∃ f, fuel = f + 1 := ⟨fuel - 1, by omega⟩
    rw [List.append_assoc, items?, h.reads fuel depth _ (by omega) hdepth]
    simp only [List.append_assoc, skipGap_gap hgap]
    rfl
  nests := by
    intro level rest
    have hnests := h.nests (level + 1) (gap ++ ']' :: rest)
    rw [deepest_gap hgap, deepest_close (.inl rfl)] at hnests
    rw [List.append_assoc, List.append_assoc, List.singleton_append]
    omega

/-- An item of an array before others. -/
theorem consItem {v : Value} {more : List Char} {vs : List Value} (h : Spells n text v)
    (hgap : Gap gap) (hmore : SpellsInside items? m more vs) :
    SpellsInside items? (max n m) (text ++ (',' :: (gap ++ more))) (v :: vs) where
  begins := h.begins.append _
  reads := by
    intro fuel depth rest hfuel hdepth
    simp only [List.length_append, List.length_cons] at hfuel
    obtain ⟨fuel, rfl⟩ : ∃ f, fuel = f + 1 := ⟨fuel - 1, by omega⟩
    rw [List.append_assoc, items?, h.reads fuel depth _ (by omega) (by omega)]
    show (items? fuel depth (gap ++ more ++ rest)).map _ = _
    rw [List.append_assoc, items?_gap hgap, hmore.reads fuel depth rest (by omega) (by omega)]
    rfl
  nests := by
    intro level rest
    have hnests := h.nests (level + 1) (',' :: (gap ++ (more ++ rest)))
    have hinner := hmore.nests level rest
    rw [deepest_comma hgap] at hnests
    rw [List.append_assoc, List.cons_append, List.append_assoc]
    omega

/-- The key of a member is read up to its colon. -/
theorem skipGap_entry (key : String) (cs : List Char) :
    skipGap ('"' :: (key.toList.flatMap encodeChar ++ ['"'] ++ (':' :: cs)))
      = '"' :: (key.toList.flatMap encodeChar ++ '"' :: (':' :: cs)) := by
  rw [List.append_assoc]
  rfl

theorem skipGap_colon (cs : List Char) : skipGap (':' :: cs) = ':' :: cs := rfl

/-- A member before a comma. -/
theorem members?_comma {v : Value} (h : Spells n text v) (key : String) (hgap : Gap gap)
    {fuel depth : Nat} (hfuel : text.length ≤ fuel) (hdepth : n ≤ depth) (rest : List Char) :
    members? (fuel + 1) depth ((encode key).toList ++ (':' :: (gap ++ (text ++ (',' :: rest)))))
      = (members? fuel depth rest).map fun (es, rest) => ((key, v) :: es, rest) := by
  have hcomma : skipGap (',' :: rest) = ',' :: rest := rfl
  rw [toList_encode, List.cons_append, members?, skipGap_entry]
  simp only [stringBody_encoded, skipGap_colon, value?_gap hgap,
    h.reads fuel depth _ hfuel hdepth, hcomma, List.reverse_nil, List.nil_append,
    String.ofList_toList]

/-- A member before the closing brace. -/
theorem members?_close {v : Value} (h : Spells n text v) (key : String) {between : List Char}
    (hbetween : Gap between) (hgap : Gap gap) {fuel depth : Nat} (hfuel : text.length ≤ fuel)
    (hdepth : n ≤ depth) (rest : List Char) :
    members? (fuel + 1) depth
        ((encode key).toList ++ (':' :: (between ++ (text ++ (gap ++ ('\x7d' :: rest))))))
      = some ([(key, v)], rest) := by
  have hclose : skipGap ('\x7d' :: rest) = '\x7d' :: rest := rfl
  rw [toList_encode, List.cons_append, members?, skipGap_entry]
  simp only [stringBody_encoded, skipGap_colon, value?_gap hbetween,
    h.reads fuel depth _ hfuel hdepth, skipGap_gap hgap, hclose, List.reverse_nil,
    List.nil_append, String.ofList_toList]

/-- A key, its colon and blanks nest nothing. -/
theorem deepest_entry (key : String) (hgap : Gap gap) (level : Nat) (cs : List Char) :
    deepest .outside level ((encode key).toList ++ (':' :: (gap ++ cs)))
      = deepest .outside level cs := by
  rw [deepest_encode, deepest_cons_of_level rfl]
  exact deepest_gap hgap level cs

/-- The last member of an object. -/
theorem lastMember {v : Value} {between : List Char} (h : Spells n text v) (key : String)
    (hbetween : Gap between) (hgap : Gap gap) :
    SpellsInside members? n
      ((encode key).toList ++ (':' :: (between ++ (text ++ (gap ++ ['\x7d']))))) [(key, v)] where
  begins := (begins_encode key).append _
  reads := by
    intro fuel depth rest hfuel hdepth
    simp only [List.length_append, List.length_cons] at hfuel
    obtain ⟨fuel, rfl⟩ : ∃ f, fuel = f + 1 := ⟨fuel - 1, by omega⟩
    simp only [List.append_assoc, List.cons_append]
    exact members?_close h key hbetween hgap (by omega) hdepth rest
  nests := by
    intro level rest
    have hnests := h.nests (level + 1) (gap ++ '\x7d' :: rest)
    rw [deepest_gap hgap, deepest_close (.inr rfl)] at hnests
    simp only [List.append_assoc, List.cons_append, List.nil_append]
    rw [deepest_entry key hbetween]
    omega

/-- A member of an object before others. -/
theorem consMember {v : Value} {between more : List Char} {es : List (String × Value)}
    (h : Spells n text v) (key : String) (hbetween : Gap between) (hgap : Gap gap)
    (hmore : SpellsInside members? m more es) :
    SpellsInside members? (max n m)
      ((encode key).toList ++ (':' :: (between ++ (text ++ (',' :: (gap ++ more))))))
      ((key, v) :: es) where
  begins := (begins_encode key).append _
  reads := by
    intro fuel depth rest hfuel hdepth
    simp only [List.length_append, List.length_cons] at hfuel
    obtain ⟨fuel, rfl⟩ : ∃ f, fuel = f + 1 := ⟨fuel - 1, by omega⟩
    simp only [List.append_assoc, List.cons_append]
    rw [members?_comma h key hbetween (by omega) (by omega), members?_gap hgap,
      hmore.reads fuel depth rest (by omega) (by omega)]
    rfl
  nests := by
    intro level rest
    have hnests := h.nests (level + 1) (',' :: (gap ++ (more ++ rest)))
    have hinner := hmore.nests level rest
    rw [deepest_comma hgap] at hnests
    simp only [List.append_assoc, List.cons_append]
    rw [deepest_entry key hbetween]
    omega

end Spells

/-! ## §5. The reader's limit. -/

/-- The second outcome is the first, unless there is no first. -/
def Keeps {α : Type} (x y : Option α) : Prop := ∀ a, x = some a → y = some a

theorem Keeps.refl {α : Type} (x : Option α) : Keeps x x := fun _ h => h

theorem Keeps.none {α : Type} (y : Option α) : Keeps Option.none y := nofun

theorem Keeps.map {α β : Type} {x y : Option α} (h : Keeps x y) (f : α → β) :
    Keeps (x.map f) (y.map f) := by
  cases x with
  | none => exact Keeps.none _
  | some a =>
    rw [h a rfl]
    exact Keeps.refl _

/-- Opening a bracket with a level less to go. -/
theorem Keeps.below {α : Type} {f : Nat → Option α} (h : ∀ d d', d ≤ d' → Keeps (f d) (f d'))
    {depth depth' : Nat} : depth ≤ depth' →
    Keeps (match depth with | 0 => Option.none | d + 1 => f d)
      (match depth' with | 0 => Option.none | d + 1 => f d) := by
  intro hle
  cases depth with
  | zero => exact Keeps.none _
  | succ d =>
    cases depth' with
    | zero => omega
    | succ d' => exact h d d' (by omega)

/-- What is read with a limit is read with any higher limit. -/
theorem keeps_of_depth_le (fuel : Nat) : ∀ {depth depth' : Nat}, depth ≤ depth' →
    (∀ cs, Keeps (value? fuel depth cs) (value? fuel depth' cs)) ∧
    (∀ cs, Keeps (items? fuel depth cs) (items? fuel depth' cs)) ∧
    (∀ cs, Keeps (members? fuel depth cs) (members? fuel depth' cs)) := by
  induction fuel with
  | zero =>
    intro depth depth' _
    refine ⟨fun cs => ?_, fun cs => ?_, fun cs => ?_⟩
    · rw [value?]
      exact Keeps.none _
    · rw [items?]
      exact Keeps.none _
    · rw [members?]
      exact Keeps.none _
  | succ fuel ih =>
    intro depth depth' hle
    -- only the opening of a bracket looks at the limit; all else is passed on
    refine ⟨fun cs => ?_, fun cs => ?_, fun cs => ?_⟩
    · rw [value?, value?]
      generalize skipGap cs = cs
      split
      · next rest =>
        generalize skipGap rest = rest
        split
        · exact Keeps.refl _
        · exact Keeps.below (fun d d' hd => ((ih hd).2.2 rest).map _) hle
      · next rest =>
        generalize skipGap rest = rest
        split
        · exact Keeps.refl _
        · exact Keeps.below (fun d d' hd => ((ih hd).2.1 rest).map _) hle
      · exact Keeps.refl _
      · exact Keeps.refl _
    · rw [items?, items?]
      cases hv : value? fuel depth cs with
      | none => exact Keeps.none _
      | some found =>
        rw [(ih hle).1 cs found hv]
        dsimp only
        split
        · exact ((ih hle).2.1 _).map _
        · exact Keeps.refl _
        · exact Keeps.refl _
    · rw [members?, members?]
      split
      · split
        · exact Keeps.refl _
        · split
          · next rest _ =>
            cases hv : value? fuel depth rest with
            | none => exact Keeps.none _
            | some found =>
              rw [(ih hle).1 rest found hv]
              dsimp only
              split
              · exact ((ih hle).2.2 _).map _
              · exact Keeps.refl _
              · exact Keeps.refl _
          · exact Keeps.refl _
      · exact Keeps.refl _

theorem read?_of_depth_le {depth depth' : Nat} (hle : depth ≤ depth') (cs : List Char) :
    Keeps (read? depth cs) (read? depth' cs) := by
  unfold read?
  cases hv : value? (2 * cs.length + 2) depth cs with
  | none => exact Keeps.none _
  | some found =>
    rw [(keeps_of_depth_le _ hle).1 cs found hv]
    exact Keeps.refl _

/-- A spelling is read as a whole text, if it nests no deeper than the limit. -/
theorem Spells.read?_eq {n : Nat} {text : List Char} {v : Value} (h : Spells n text v)
    {depth : Nat} (hdepth : n ≤ depth) : read? depth text = some v := by
  have hreads := h.reads (2 * text.length + 2) depth [] (by omega) hdepth
  rw [List.append_nil] at hreads
  unfold read?
  rw [hreads]
  rfl

/-- Whatever the limit, a spelling is read as its value or not at all. -/
theorem Spells.read?_eq_or {n : Nat} {text : List Char} {v : Value} (h : Spells n text v)
    (depth : Nat) : read? depth text = some v ∨ read? depth text = none := by
  cases hread : read? depth text with
  | none => exact .inr rfl
  | some w =>
    -- with a limit that is high enough for both, it is read once only
    have hw := read?_of_depth_le (Nat.le_max_left depth n) text w hread
    rw [h.read?_eq (Nat.le_max_right depth n)] at hw
    exact .inl hw.symm

/-- A text spells one value at most, however deep it nests. -/
theorem Spells.unique {n m : Nat} {text : List Char} {v w : Value} (hv : Spells n text v)
    (hw : Spells m text w) : v = w := by
  have hleft := hv.read?_eq (Nat.le_max_left n m)
  have hright := hw.read?_eq (Nat.le_max_right n m)
  rw [hleft] at hright
  exact Option.some.inj hright

theorem Spells.le_nesting {n : Nat} {text : String} {v : Value} (h : Spells n text.toList v) :
    n ≤ nesting text := by
  have hnests := h.nests 0 []
  rw [List.append_nil] at hnests
  unfold nesting
  omega

end AnalysisDiagram.Json
