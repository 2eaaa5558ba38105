/-
  AnalysisDiagram.Proofs.Command.Opening
  ──────────────────────────────────────
  How a payload begins, and what that tells of it.

      Opens                  — how a node of a payload begins
      looksLikeError_iff     — the beginning tells the tag
      looksLikeError_payload — so it tells whether a diagram is an error
      errorMessage_payload   — whose message is then found in the payload
-/
import AnalysisDiagram.Command.Run
import AnalysisDiagram.Proofs.Wire.RoundTrip

namespace AnalysisDiagram.Command

open AnalysisDiagram.Json AnalysisDiagram.Outcome

/-! ## §1. The test. -/

/-- Characters that begin like a node of a payload: a brace, and the tag as the
first field. -/
def Opens (tag : Tag) (cs : List Char) : Prop :=
  ∃ gap between rest, Gap gap ∧ Gap between ∧
    cs = '\x7b' :: (gap ++ ("\"type\":".toList ++ (between ++ ((encode tag.name).toList ++ rest))))

theorem isBlank_of_isGap {c : Char} (h : isGap c = true) : Text.isBlank c = true := by
  unfold isGap at h
  simp only [Bool.or_eq_true, beq_iff_eq] at h
  rcases h with ((rfl | rfl) | rfl) | rfl <;> decide

theorem dropWhile_isBlank_gap {gap : List Char} (h : Gap gap) (cs : List Char) :
    (gap ++ cs).dropWhile Text.isBlank = cs.dropWhile Text.isBlank :=
  List.dropWhile_append_of_pos fun c hc => isBlank_of_isGap (h c hc)

theorem afterWord?_append (word rest : List Char) :
    Text.afterWord? word (word ++ rest) = some rest := by
  unfold Text.afterWord?
  rw [if_pos (List.isPrefixOf_iff_prefix.2 (List.prefix_append word rest)), List.drop_left]

theorem toList_encode_name (tag : Tag) :
    (encode tag.name).toList = '"' :: (tag.name.toList ++ ['"']) := by
  cases tag <;> decide

/-- Of all tags, only that of errors begins like it. -/
theorem afterWord?_tag (tag : Tag) (rest : List Char) :
    (Text.afterWord? "\"error\"".toList
      (((encode tag.name).toList ++ rest).dropWhile Text.isBlank)).isSome = true
      ↔ tag = .error := by
  cases tag with
  | error =>
    have htag : (encode Tag.error.name).toList = "\"error\"".toList := by decide
    have hstart : ("\"error\"".toList ++ rest).dropWhile Text.isBlank
        = "\"error\"".toList ++ rest := rfl
    rw [htag, hstart, afterWord?_append]
    exact ⟨fun _ => rfl, fun _ => rfl⟩
  | _ =>
    -- the first letter is another one
    rw [toList_encode_name]
    exact ⟨nofun, nofun⟩

/-- The test tells the tag that a payload begins with. -/
theorem looksLikeError_iff {tag : Tag} {payload : String} (h : Opens tag payload.toList) :
    looksLikeError payload = true ↔ tag = .error := by
  obtain ⟨gap, between, rest, hgap, hbetween, htext⟩ := h
  have hword : ("\"type\":".toList ++ (between ++ ((encode tag.name).toList ++ rest))).dropWhile
      Text.isBlank = "\"type\":".toList ++ (between ++ ((encode tag.name).toList ++ rest)) := rfl
  unfold looksLikeError
  simp only [htext]
  rw [dropWhile_isBlank_gap hgap, hword, afterWord?_append]
  dsimp only
  rw [dropWhile_isBlank_gap hbetween]
  exact afterWord?_tag tag rest

/-! ## §2. Payloads. -/

/-- A node that is written begins with its tag. -/
theorem opens_write {room : Nat} {indent : Option Int} {level : Nat} {tag : Tag}
    {fields : List (Field × Draft)} {t : LooseText}
    (h : (Draft.tagged tag fields).write (Layout.ofIndent room indent) level = .ok t) :
    Opens tag t.string.toList := by
  rw [Draft.tagged, Draft.write] at h
  split at h
  · cases h
  · simp only [bind_eq_ok_iff] at h
    obtain ⟨inner, hinner, outer, _, written, hwritten, h⟩ := h
    cases h
    -- the tag is a text, so it is the first field that is written
    have htag : (Draft.text (LooseText.ofString tag.name)).isNull = false := rfl
    rw [Draft.writeFields, htag, if_neg Bool.false_ne_true] at hwritten
    simp only [bind_eq_ok_iff] at hwritten
    obtain ⟨first, hfirst, rest, _, hwritten⟩ := hwritten
    cases hwritten
    cases hfirst
    obtain ⟨between, hcolon, hbetween⟩ := Layout.colon_cases (Layout.ofIndent room indent)
    refine ⟨inner.toList, between, rest.string.toList ++ (outer.toList ++ ['\x7d']),
      Layout.gap_newline hinner, hbetween, ?_⟩
    have htype : "\"type\":".toList = (encode Field.tag.name).toList ++ [':'] := by decide
    rw [htype, encodeLoose_ofString]
    simp [Draft.fieldStart, hcolon, List.append_assoc]

theorem opens_fallbackPayload (fault : WriteFault) :
    Opens .error (fallbackPayload fault).toList := by
  refine ⟨[], [' '], ", \"message\": ".toList
    ++ ((encodeAscii ("Serialization error: " ++ fault.message)).toList ++ ['\x7d']),
    nofun, Layout.gap_blank, ?_⟩
  have hstart : "\x7b\"type\": \"error\", \"message\": ".toList
      = '\x7b' :: ("\"type\":".toList ++ (' ' :: ((encode Tag.error.name).toList
        ++ ", \"message\": ".toList))) := by decide
  unfold fallbackPayload
  rw [String.toList_append, String.toList_append, hstart]
  simp only [List.append_assoc, List.cons_append, List.nil_append]
  rfl

/-- The node at the top of a diagram has the tag of an error exactly if it is
one. -/
theorem toDraft_eq_tagged (d : Diagram) :
    ∃ tag fields, d.toDraft = .tagged tag fields ∧ (tag = .error ↔ d.isError = true) := by
  cases d with
  | error message => exact ⟨_, _, rfl, fun _ => rfl, fun _ => rfl⟩
  | _ => exact ⟨_, _, rfl, nofun, nofun⟩

theorem opens_payload {room : Nat} {indent : Option Int} {d : Diagram} {text : String}
    (h : (d.payload (Layout.ofIndent room indent)).result = .ok text) :
    ∃ tag, Opens tag text.toList ∧ (tag = .error ↔ d.isError = true) := by
  obtain ⟨tag, fields, hdraft, htag⟩ := toDraft_eq_tagged d
  have hwrite := d.payload_needsRoom room indent
  rw [h] at hwrite
  have hwrite := hwrite.good_of_ok
  rw [hdraft] at hwrite
  exact ⟨tag, opens_write hwrite, htag⟩

/-- The payload of a diagram begins like an error exactly if the diagram is
one. -/
theorem looksLikeError_payload {room : Nat} {indent : Option Int} {d : Diagram} {text : String}
    (h : (d.payload (Layout.ofIndent room indent)).result = .ok text) :
    looksLikeError text = d.isError := by
  obtain ⟨tag, hopens, htag⟩ := opens_payload h
  rw [Bool.eq_iff_iff, looksLikeError_iff hopens, htag]

/-- The message of an error is found in its payload. -/
theorem errorMessage_payload {room : Nat} {indent : Option Int} {message text : String}
    (h : ((Diagram.error message).payload (Layout.ofIndent room indent)).result = .ok text) :
    errorMessage text = .text message := by
  have hspells := Diagram.spells_payload h
  obtain ⟨tag, ⟨gap, between, rest, _, _, htext⟩, _⟩ := opens_payload h
  have hlength : 1 ≤ text.length := by
    rw [← String.length_toList, htext, List.length_cons]
    omega
  unfold errorMessage
  rw [hspells.read?_eq hlength]
  rfl

end AnalysisDiagram.Command
