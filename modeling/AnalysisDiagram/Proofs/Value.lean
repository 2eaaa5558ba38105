/-
  AnalysisDiagram.Proofs.Value
  ────────────────────────────
  Values of no known shape: what an object holds, and what can be shown.

      lookup_eq_some_iff  — under a key the last entry counts
      literal_fails_iff   — a value has no literal exactly if a part of it is
                            a number with too many digits, or it goes down
                            further than there are levels

  A message that shows a value goes through all of its parts, of an object
  those that count.
-/
import AnalysisDiagram.Proofs.Outcome
import AnalysisDiagram.Value

namespace AnalysisDiagram

open AnalysisDiagram.Number AnalysisDiagram.Outcome

/-! ## §1. Entries of objects. -/

/-- The value that counts under a key: no entry after it has that key. -/
def Counts (entries : List (String × Value)) (key : String) (v : Value) : Prop :=
  ∃ before after, entries = before ++ (key, v) :: after ∧ ∀ entry ∈ after, entry.1 ≠ key

/-- No entry has the key. -/
def Lacks (entries : List (String × Value)) (key : String) : Prop :=
  ∀ entry ∈ entries, entry.1 ≠ key

theorem Counts.mem {entries : List (String × Value)} {key : String} {v : Value}
    (h : Counts entries key v) : (key, v) ∈ entries := by
  obtain ⟨before, after, rfl, _⟩ := h
  exact List.mem_append_right before List.mem_cons_self

theorem lookup_eq_some_iff {entries : List (String × Value)} {key : String} {v : Value} :
    Value.lookup key entries = some v ↔ Counts entries key v := by
  unfold Value.lookup
  rw [Option.map_eq_some_iff]
  constructor
  · -- the first entry from the right is the last one from the left
    rintro ⟨⟨key', v'⟩, hfind, rfl⟩
    obtain ⟨hkey, after, before, hreverse, hafter⟩ := List.find?_eq_some_iff_append.1 hfind
    cases eq_of_beq hkey
    refine ⟨before.reverse, after.reverse, ?_, fun entry hentry => ?_⟩
    · rw [← List.reverse_reverse entries, hreverse]
      simp
    · simpa using hafter entry (List.mem_reverse.1 hentry)
  · rintro ⟨before, after, rfl, hafter⟩
    refine ⟨(key, v), List.find?_eq_some_iff_append.2 ⟨beq_self_eq_true key, after.reverse,
      before.reverse, by simp, fun entry hentry => ?_⟩, rfl⟩
    simpa using hafter entry (List.mem_reverse.1 hentry)

theorem lookup_eq_none_iff {entries : List (String × Value)} {key : String} :
    Value.lookup key entries = none ↔ Lacks entries key := by
  unfold Value.lookup Lacks
  rw [Option.map_eq_none_iff, List.find?_eq_none]
  simp

namespace Value

/-- The entries that are left once each key has one are those that count. -/
theorem mem_settle_iff {entries : List (String × Value)} {key : String} {v : Value} :
    (key, v) ∈ settle entries ↔ Counts entries key v := by
  unfold settle
  rw [List.mem_filterMap, ← lookup_eq_some_iff]
  constructor
  · rintro ⟨key', _, h⟩
    obtain ⟨v', hv', h⟩ := Option.map_eq_some_iff.1 h
    cases h
    exact hv'
  · intro h
    have hmem := (lookup_eq_some_iff.1 h).mem
    refine ⟨key, List.mem_eraseDups.2 (List.mem_map.2 ⟨(key, v), hmem, rfl⟩), ?_⟩
    rw [h]
    rfl

/-! ## §2. Long numbers. -/

theorem length_digits_le_iff {n k : Nat} (hk : 0 < k) :
    (digits n).length ≤ k ↔ n < Nat.pow 10 k :=
  Nat.length_toDigits_le_iff (by decide) hk

/-- A whole number is too long from the first power of ten on that has one
digit too many. -/
theorem isLong_iff (i : Int) : isLong i = true ↔ Nat.pow 10 longestWhole ≤ i.natAbs := by
  have hk : 0 < longestWhole := by decide
  unfold isLong
  rw [decide_eq_true_iff, ← Nat.not_le, length_digits_le_iff hk, Nat.not_lt]

theorem wholeLiteral_fails_iff (i : Int) :
    Fails (wholeLiteral i) ↔ Nat.pow 10 longestWhole ≤ i.natAbs := by
  rw [← isLong_iff]
  unfold wholeLiteral
  cases isLong i with
  | true => exact ⟨fun _ => rfl, fun _ => fails_error _⟩
  | false => exact ⟨fun h => absurd h (not_fails_ok _), nofun⟩

/-! ## §3. Values that cannot be shown. -/

/-- The parts of a value, so many levels down: itself, and the parts of what
is in a list or counts in an object. -/
inductive Part : Value → Nat → Value → Prop
  | self (v : Value) : Part v 0 v
  | item {items : List Value} {v w : Value} {n : Nat} :
      v ∈ items → Part v n w → Part (.list items) (n + 1) w
  | entry {entries : List (String × Value)} {key : String} {v w : Value} {n : Nat} :
      Counts entries key v → Part v n w → Part (.object entries) (n + 1) w

/-- What is behind a fault: a number with too many digits above the last level,
or a part below it. -/
def Behind (depth : Nat) (v : Value) : ShowFault → Prop
  | .tooManyDigits => ∃ n i, n < depth ∧ Part v n (.int i) ∧ Nat.pow 10 longestWhole ≤ i.natAbs
  | .tooDeep => ∃ w, Part v depth w

/-- What is behind a fault of an item is behind the fault of its list. -/
theorem Behind.item {depth : Nat} {v : Value} {items : List Value} {fault : ShowFault}
    (h : v.Behind depth fault) (hv : v ∈ items) : Behind (depth + 1) (.list items) fault := by
  cases fault with
  | tooManyDigits =>
    obtain ⟨n, i, hn, hpart, hlong⟩ := h
    exact ⟨n + 1, i, Nat.succ_lt_succ hn, .item hv hpart, hlong⟩
  | tooDeep =>
    obtain ⟨w, hpart⟩ := h
    exact ⟨w, .item hv hpart⟩

/-- And so for the entries of an object that count. -/
theorem Behind.entry {depth : Nat} {v : Value} {entries : List (String × Value)} {key : String}
    {fault : ShowFault} (h : v.Behind depth fault) (hv : Counts entries key v) :
    Behind (depth + 1) (.object entries) fault := by
  cases fault with
  | tooManyDigits =>
    obtain ⟨n, i, hn, hpart, hlong⟩ := h
    exact ⟨n + 1, i, Nat.succ_lt_succ hn, .entry hv hpart, hlong⟩
  | tooDeep =>
    obtain ⟨w, hpart⟩ := h
    exact ⟨w, .entry hv hpart⟩

/-- A literal is not written for a reason. -/
theorem behind_of_literal {depth : Nat} {v : Value} {fault : ShowFault}
    (h : v.literal depth = .error fault) : v.Behind depth fault := by
  -- each level of the value takes one of the depth
  induction depth generalizing v with
  | zero =>
    cases h
    exact ⟨v, .self v⟩
  | succ depth ih =>
    cases v with
    | int i =>
      have hlong : Nat.pow 10 longestWhole ≤ i.natAbs := (wholeLiteral_fails_iff i).1 ⟨fault, h⟩
      change wholeLiteral i = .error fault at h
      unfold wholeLiteral at h
      split at h
      · cases h
        exact ⟨0, i, Nat.succ_pos depth, .self _, hlong⟩
      · cases h
    | list items =>
      rcases bind_eq_error h with h | ⟨_, _, h⟩
      · obtain ⟨v, hv, h⟩ := exists_of_mapM_eq_error h
        exact (ih h).item hv
      · cases h
    | object entries =>
      rcases bind_eq_error h with h | ⟨_, _, h⟩
      · obtain ⟨⟨key, v⟩, hv, h⟩ := exists_of_mapM_eq_error h
        rcases bind_eq_error h with h | ⟨_, _, h⟩
        · exact (ih h).entry (mem_settle_iff.1 hv)
        · cases h
      · cases h
    | _ => cases h

/-- A value has no literal if a part of it has none on the levels left. -/
theorem Part.literal_fails {v w : Value} {n depth : Nat} (hpart : Part v n w)
    (h : Fails (w.literal depth)) : Fails (v.literal (depth + n)) := by
  induction hpart with
  | self v => exact h
  | item hv _ ih =>
    exact bind_fails_iff.2 (.inl (mapM_fails_iff.2 ⟨_, hv, ih h⟩))
  | entry hv _ ih =>
    refine bind_fails_iff.2 (.inl (mapM_fails_iff.2 ⟨_, mem_settle_iff.2 hv, ?_⟩))
    exact bind_fails_iff.2 (.inl (ih h))

theorem Behind.literal_fails {depth : Nat} {v : Value} {fault : ShowFault}
    (h : v.Behind depth fault) : Fails (v.literal depth) := by
  cases fault with
  | tooManyDigits =>
    obtain ⟨n, i, hn, hpart, hlong⟩ := h
    have hi : Fails (literal (depth - n - 1 + 1) (.int i)) := (wholeLiteral_fails_iff i).2 hlong
    have hdepth : depth - n - 1 + 1 + n = depth := by omega
    exact hdepth ▸ hpart.literal_fails hi
  | tooDeep =>
    obtain ⟨w, hpart⟩ := h
    have hw : Fails (w.literal 0) := fails_error _
    exact Nat.zero_add depth ▸ hpart.literal_fails hw

/-- A value has no literal exactly if there is a fault to it. -/
theorem literal_fails_iff {depth : Nat} {v : Value} :
    Fails (v.literal depth) ↔ ∃ fault, v.Behind depth fault := by
  constructor
  · rintro ⟨fault, h⟩
    exact ⟨fault, behind_of_literal h⟩
  · rintro ⟨fault, h⟩
    exact h.literal_fails

/-- A value that stands alone and is no text cannot be shown exactly if it has
no literal. -/
theorem shown_eq_error_iff {depth : Nat} {v : Value} {fault : ShowFault} :
    v.shown depth = .error fault ↔ v.text? = none ∧ v.literal depth = .error fault := by
  unfold shown
  cases v.text? with
  | some t => exact ⟨nofun, fun h => nomatch h.1⟩
  | none =>
    cases v.literal depth with
    | ok s => exact ⟨nofun, fun h => nomatch h.2⟩
    | error fault' =>
      refine ⟨fun h => ⟨rfl, ?_⟩, fun h => ?_⟩
      · cases h
        rfl
      · cases h.2
        rfl

end Value

end AnalysisDiagram
