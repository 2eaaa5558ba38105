/-
  AnalysisDiagram.Proofs.Registry
  ───────────────────────────────
  Which listed languages can be asked for.

      Entries.put         — entries by key, with one of them put in; registries
                            and files are both kept this way
      Registry.Reached    — the registries that registering leads to, each with
                            all that was registered on the way
      Registry.Latest     — the language registered last under a name

      find?_iff_latest    — exactly as it is spelt, a name stands for the
                            language registered last under it
      listed_found_iff    — asked for by its listed name, that language is found
                            exactly if the name is in small letters
-/
import AnalysisDiagram.Registry
import Mathlib.Data.List.Basic
import Mathlib.Tactic.Common

namespace AnalysisDiagram

/-! ## §1. Entries by key. -/

namespace Entries

variable {κ α : Type} [BEq κ]

/-- What stands under a key. -/
def at? (entries : List (κ × α)) (key : κ) : Option α :=
  (entries.find? (·.1 == key)).map (·.2)

/-- Entries with that of a key replaced. -/
def replace (entries : List (κ × α)) (key : κ) (a : α) : List (κ × α) :=
  entries.map fun entry => if entry.1 == key then (key, a) else entry

/-- Entries with one of them put in: in the place of its key, or at the end. -/
def put (entries : List (κ × α)) (key : κ) (a : α) : List (κ × α) :=
  if entries.any (·.1 == key) then replace entries key a else entries ++ [(key, a)]

theorem at?_cons (entry : κ × α) (entries : List (κ × α)) (key : κ) :
    at? (entry :: entries) key = if entry.1 == key then some entry.2 else at? entries key := by
  unfold at?
  rw [List.find?_cons]
  cases entry.1 == key <;> rfl

theorem at?_append (entries more : List (κ × α)) (key : κ) :
    at? (entries ++ more) key = (at? entries key).or (at? more key) := by
  unfold at?
  rw [List.find?_append]
  cases entries.find? (·.1 == key) <;> rfl

theorem at?_eq_none_iff {entries : List (κ × α)} {key : κ} :
    at? entries key = none ↔ ¬ entries.any (·.1 == key) = true := by
  unfold at?
  rw [Option.map_eq_none_iff, List.find?_eq_none, List.any_eq_true]
  simp

variable [LawfulBEq κ]

theorem at?_replace_self {entries : List (κ × α)} {key : κ}
    (h : entries.any (·.1 == key) = true) (a : α) : at? (replace entries key a) key = some a := by
  induction entries with
  | nil => cases h
  | cons entry entries ih =>
    unfold replace at ih ⊢
    rw [List.map_cons, at?_cons]
    by_cases hkey : (entry.1 == key) = true
    · rw [if_pos hkey, if_pos (beq_self_eq_true key)]
    · rw [if_neg hkey, if_neg hkey]
      rw [List.any_cons, Bool.or_eq_true] at h
      exact ih (h.resolve_left hkey)

theorem at?_replace_of_ne {key other : κ} (h : key ≠ other) (entries : List (κ × α)) (a : α) :
    at? (replace entries key a) other = at? entries other := by
  have hkey : ¬ (key == other) = true := fun heq => h (eq_of_beq heq)
  induction entries with
  | nil => rfl
  | cons entry entries ih =>
    unfold replace at ih ⊢
    rw [List.map_cons, at?_cons, at?_cons, ih]
    by_cases hentry : (entry.1 == key) = true
    · -- both the old entry and the new one are passed over
      rw [if_pos hentry, eq_of_beq hentry, if_neg hkey, if_neg hkey]
    · rw [if_neg hentry]

/-- Under its own key stands what was put in, and under any other key what
stood there before. -/
theorem at?_put (entries : List (κ × α)) (key : κ) (a : α) (other : κ) :
    at? (put entries key a) other = if key == other then some a else at? entries other := by
  unfold put
  by_cases hother : key = other
  · subst hother
    rw [if_pos (beq_self_eq_true key)]
    split
    · next hany => exact at?_replace_self hany a
    · next hany =>
      rw [at?_append, at?_eq_none_iff.2 hany, Option.none_or, at?_cons,
        if_pos (beq_self_eq_true key)]
  · have hkey : ¬ (key == other) = true := fun heq => hother (eq_of_beq heq)
    rw [if_neg hkey]
    split
    · exact at?_replace_of_ne hother entries a
    · rw [at?_append, at?_cons, if_neg hkey]
      exact Option.or_none

end Entries

theorem Value.text?_ofLoose (t : LooseText) : (Value.ofLoose t).text? = some t := by
  obtain ⟨lead, last⟩ := t
  cases lead <;> rfl

/-! ## §2. Registering. -/

namespace Registry

theorem insert_eq (r : Registry) (key : LooseText) (language : Language) :
    r.insert key language = ⟨Entries.put r.entries key language⟩ := by
  unfold insert Entries.put
  split <;> rfl

/-- A language that is registered takes its name, and leaves all others. -/
theorem find?_register (r : Registry) (language : Language) (name : LooseText) :
    (r.register language).find? name
      = if language.name == name then some language else r.find? name := by
  unfold register
  rw [insert_eq]
  exact Entries.at?_put r.entries language.name language name

/-- The names are listed of all that can be found. -/
theorem mem_names_iff {r : Registry} {name : LooseText} :
    name ∈ r.names ↔ ∃ language, r.find? name = some language := by
  unfold names
  rw [List.mem_mergeSort, List.mem_map]
  constructor
  · rintro ⟨entry, hentry, rfl⟩
    apply Option.isSome_iff_exists.1
    unfold find?
    rw [Option.isSome_map, List.find?_isSome]
    exact ⟨entry, hentry, beq_self_eq_true entry.1⟩
  · rintro ⟨language, hfind⟩
    obtain ⟨entry, hentry, _⟩ := Option.map_eq_some_iff.1 hfind
    have hkey : (entry.1 == name) = true :=
      List.find?_some (p := fun entry : LooseText × Language => entry.1 == name) hentry
    exact ⟨entry, List.mem_of_find?_eq_some hentry, eq_of_beq hkey⟩

/-! ## §3. Histories. -/

/-- The registries that registering leads to, from none or from the standard
one, with all that was registered on the way. -/
inductive Reached : Registry → List Language → Prop
  | empty : Reached empty []
  | standard : Reached standard [Language.rust, Language.javaScript]
  | register {r : Registry} {history : List Language} (language : Language) :
      Reached r history → Reached (r.register language) (history ++ [language])

/-- The language that was registered last under exactly this name. -/
def Latest (history : List Language) (name : LooseText) (language : Language) : Prop :=
  ∃ before after, history = before ++ language :: after ∧ language.name = name ∧
    ∀ later ∈ after, later.name ≠ name

theorem not_latest_nil {name : LooseText} {language : Language} : ¬ Latest [] name language := by
  rintro ⟨before, after, h, _⟩
  exact absurd h.symm (List.append_ne_nil_of_right_ne_nil before nofun)

/-- One more language is the latest under its own name, and changes nothing
under another. -/
theorem latest_concat {history : List Language} {last : Language} {name : LooseText}
    {language : Language} :
    Latest (history ++ [last]) name language ↔
      (last.name = name ∧ last = language) ∨ (last.name ≠ name ∧ Latest history name language) := by
  constructor
  · rintro ⟨before, after, hsplit, hname, hafter⟩
    rcases List.eq_nil_or_concat' after with rfl | ⟨after, later, rfl⟩
    · -- nothing came after it, so it is the last one
      obtain ⟨_, hlast⟩ := List.append_inj' hsplit rfl
      cases hlast
      exact .inl ⟨hname, rfl⟩
    · rw [← List.cons_append, ← List.append_assoc] at hsplit
      obtain ⟨rfl, hlast⟩ := List.append_inj' hsplit rfl
      cases hlast
      refine .inr ⟨hafter last (List.mem_append_right after List.mem_cons_self), before, after,
        rfl, hname, fun later hlater => hafter later (List.mem_append_left [last] hlater)⟩
  · rintro (⟨hname, rfl⟩ | ⟨hne, before, after, rfl, hname, hafter⟩)
    · exact ⟨history, [], rfl, hname, nofun⟩
    · refine ⟨before, after ++ [last], by rw [List.append_assoc, List.cons_append], hname, ?_⟩
      intro later hlater
      rcases List.mem_append.1 hlater with hlater | hlater
      · exact hafter later hlater
      · cases List.mem_singleton.1 hlater
        exact hne

/-- Registering a language carries a registry's agreement with its history on. -/
theorem find?_register_iff_latest {r : Registry} {history : List Language}
    (h : ∀ name language, r.find? name = some language ↔ Latest history name language)
    (last : Language) (name : LooseText) (language : Language) :
    (r.register last).find? name = some language ↔ Latest (history ++ [last]) name language := by
  rw [find?_register, latest_concat, ← h]
  by_cases hname : last.name = name <;> simp [hname]

theorem find?_empty_iff_latest (name : LooseText) (language : Language) :
    empty.find? name = some language ↔ Latest [] name language :=
  ⟨nofun, fun h => absurd h not_latest_nil⟩

/-- Exactly as it is spelt, a name stands for the language registered last
under it. -/
theorem Reached.find?_iff_latest {r : Registry} {history : List Language} (h : Reached r history) :
    ∀ name language, r.find? name = some language ↔ Latest history name language := by
  induction h with
  | empty => exact find?_empty_iff_latest
  | standard =>
    exact find?_register_iff_latest (find?_register_iff_latest find?_empty_iff_latest
      Language.rust) Language.javaScript
  | register language _ ih => exact find?_register_iff_latest ih language

/-! ## §4. Requests by listed names. -/

/-- A request is answered with the language registered last under the small
form of the name. -/
theorem Reached.get?_iff_latest {r : Registry} {history : List Language} (h : Reached r history)
    (name : LooseText) (language : Language) :
    r.get? (Value.ofLoose name) = some language ↔
      Latest history (name.mapRuns Text.lowercase) language := by
  unfold get?
  rw [Value.text?_ofLoose]
  exact h.find?_iff_latest _ language

/-- Every listed name stands for a language, the one registered last under it.
A request by this name is answered with the language registered last under its
small form: with the listed one exactly if the name is its own small form. -/
theorem listed_found_iff {r : Registry} {history : List Language} (h : Reached r history)
    (name : LooseText) (hname : name ∈ r.names) :
    ∃ language, Latest history name language ∧
      (∀ found, r.get? (Value.ofLoose name) = some found ↔
        Latest history (name.mapRuns Text.lowercase) found) ∧
      (r.get? (Value.ofLoose name) = some language ↔ name.mapRuns Text.lowercase = name) := by
  obtain ⟨language, hfind⟩ := mem_names_iff.1 hname
  have hlatest := (h.find?_iff_latest name language).1 hfind
  refine ⟨language, hlatest, h.get?_iff_latest name, ?_⟩
  rw [h.get?_iff_latest]
  constructor
  · -- a language is registered under its own name only
    rintro ⟨_, _, _, hsmall, _⟩
    obtain ⟨_, _, _, hown, _⟩ := hlatest
    exact hsmall.symm.trans hown
  · intro hsmall
    rw [hsmall]
    exact hlatest

/-- Rust under a name with a capital. -/
def capitalRust : Language := Language.ofDialect "Rust" Dialect.rust

/-- With capitals registered beside it, the standard language is still found by
its own name. -/
theorem listed_found_iff_rust :
    Reached (standard.register capitalRust) [Language.rust, Language.javaScript, capitalRust] ∧
    LooseText.ofString "rust" ∈ (standard.register capitalRust).names ∧
    ∃ language, Latest [Language.rust, Language.javaScript, capitalRust] "rust" language ∧
      (standard.register capitalRust).get? (.text "rust") = some language := by
  have hreached : Reached (standard.register capitalRust)
      [Language.rust, Language.javaScript, capitalRust] := .register capitalRust .standard
  have hlisted : LooseText.ofString "rust" ∈ (standard.register capitalRust).names :=
    mem_names_iff.2 ⟨Language.rust, rfl⟩
  obtain ⟨language, hlatest, _, hfound⟩ := listed_found_iff hreached "rust" hlisted
  exact ⟨hreached, hlisted, language, hlatest, hfound.2 (by decide +kernel)⟩

/-- A name with a capital is listed, but a request by it finds nothing, or the
language of another name. -/
theorem listed_capital_not_found :
    (LooseText.ofString "Rust" ∈ (empty.register capitalRust).names ∧
      (empty.register capitalRust).get? (.text "Rust") = none) ∧
    (LooseText.ofString "Rust" ∈ (standard.register capitalRust).names ∧
      ((standard.register capitalRust).get? (.text "Rust")).map (·.name)
        = some (LooseText.ofString "rust")) := by
  exact ⟨⟨mem_names_iff.2 ⟨capitalRust, rfl⟩, rfl⟩, mem_names_iff.2 ⟨capitalRust, rfl⟩,
    by decide +kernel⟩

end Registry

end AnalysisDiagram
