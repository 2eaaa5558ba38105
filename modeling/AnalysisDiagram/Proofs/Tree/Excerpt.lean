/-
  AnalysisDiagram.Proofs.Tree.Excerpt
  ───────────────────────────────────
  The text of a node is its source with the gaps collapsed.

      Lexicon.exposed          — the nodes of a tree that no comment and no
                                 literal hides
      tokens_eq_filter         — the tokens are the exposed nodes that are
                                 childless or literals, the empty ones left out
      Source.stretches         — what follows the first token: gap, token, gap,
                                 token, …
      excerpt_collapses_gaps   — gap by gap, the bytes of the text are those of
                                 the source, with one space for a gap of any
                                 width

  The bytes of a text that was read from well-formed slices are the slices
  again, so all is said of bytes.  A text never has more bytes than its source,
  and where it has as many, every gap was one byte wide or empty.
-/
import AnalysisDiagram.Proofs.Text.Utf8
import AnalysisDiagram.Proofs.Tree.Tokens

namespace AnalysisDiagram

/-! ## §1. Exposed nodes. -/

namespace Lexicon

mutual

/-- The nodes of a tree that are not in a comment and not inside a literal, each
before its children. -/
def exposed (lex : Lexicon) : Node → List Node
  | .mk info children =>
      if lex.comments.contains info.kind then []
      else if lex.atomic.contains info.kind then [.mk info children]
      else .mk info children :: exposeds lex children

/-- The nodes of several trees that no comment and no literal hides. -/
def exposeds (lex : Lexicon) : List Node → List Node
  | [] => []
  | n :: rest => exposed lex n ++ exposeds lex rest

end

variable {lex : Lexicon}

/-- Whether a node is read: it is a token and not empty. -/
def isRead (lex : Lexicon) (n : Node) : Bool := lex.isToken n && decide (n.start < n.stop)

theorem emit_eq_filter {n : Node} (h : lex.isToken n = true) :
    emit n = [n].filter lex.isRead := by
  unfold emit
  by_cases hwidth : n.start < n.stop
  · simp [isRead, h, hwidth]
  · simp [isRead, hwidth]

/-- One tree after the other, the tokens are the exposed nodes that are read. -/
theorem tokenLists_eq_filter {ns : List Node}
    (h : ∀ n ∈ ns, lex.tokens n = (lex.exposed n).filter lex.isRead) :
    lex.tokenLists ns = (lex.exposeds ns).filter lex.isRead := by
  induction ns with
  | nil => rfl
  | cons n ns ih =>
    rw [tokenLists, exposeds, List.filter_append, h n List.mem_cons_self,
      ih fun m hm => h m (List.mem_cons_of_mem n hm)]

/-- The tokens of a tree are its exposed nodes that are read. -/
theorem tokens_eq_filter (n : Node) : lex.tokens n = (lex.exposed n).filter lex.isRead := by
  induction n using Node.induction with
  | mk info children ih =>
    rw [tokens, exposed]
    by_cases hcomment : lex.comments.contains info.kind = true
    · rw [if_pos hcomment, if_pos hcomment]
      rfl
    · rw [if_neg hcomment, if_neg hcomment]
      by_cases hatomic : lex.atomic.contains info.kind = true
      · rw [if_pos hatomic, hatomic, Bool.or_true, if_pos rfl]
        have htoken : lex.isToken (.mk info children) = true := by
          show (children.isEmpty || lex.atomic.contains info.kind) = true
          rw [hatomic, Bool.or_true]
        exact emit_eq_filter htoken
      · rw [if_neg hatomic]
        cases children with
        | nil => exact emit_eq_filter rfl
        | cons c rest =>
          -- a node that is neither childless nor a literal is no token itself
          have htoken : lex.isToken (.mk info (c :: rest)) = false := by
            simpa [isToken, Node.kind, Node.info, Node.children] using hatomic
          have hread : ¬ lex.isRead (.mk info (c :: rest)) = true := by simp [isRead, htoken]
          rw [List.filter_cons, if_neg hread, ← tokenLists_eq_filter ih]
          exact if_neg (by simpa using hatomic)

/-- A literal that nothing hides is a token, unless it is empty. -/
theorem mem_tokens_of_exposed {m n : Node} (hm : m ∈ lex.exposed n) (hatomic : m.kind ∈ lex.atomic)
    (hwidth : m.start < m.stop) : m ∈ lex.tokens n := by
  rw [tokens_eq_filter, List.mem_filter]
  exact ⟨hm, by simp [isRead, isToken, hatomic, hwidth]⟩

/-! ## §2. The text around a token. -/

theorem spanText_mem_pieces (source : Source) (before : Option Nat) {m : Node} {ns : List Node}
    (hm : m ∈ ns) : m.spanText source ∈ pieces source before ns := by
  induction ns generalizing before with
  | nil => cases hm
  | cons n ns ih =>
    rw [pieces_cons]
    rcases List.mem_cons.1 hm with rfl | hm
    · exact List.mem_append_right _ List.mem_cons_self
    · exact List.mem_append_right _ (List.mem_cons_of_mem _ (ih (some n.stop) hm))

/-- Every token stands in the text of the node, with its own text. -/
theorem exists_excerpt_around (source : Source) {m n : Node} (hm : m ∈ lex.tokens n) :
    ∃ before after, lex.excerpt source n = before ++ m.spanText source ++ after := by
  rw [← leaves_eq_tokens] at hm
  obtain ⟨earlier, later, hpieces⟩ := List.append_of_mem (spanText_mem_pieces source none hm)
  refine ⟨String.join earlier, String.join later, ?_⟩
  unfold excerpt
  rw [hpieces, String.join_append, String.join_cons, String.append_assoc]

end Lexicon

/-! ## §3. Slices and gaps. -/

/-- Bytes that are the UTF-8 form of a text. -/
def Text.IsUtf8 (bytes : List UInt8) : Prop := ∃ s, (Text.utf8 s).toList = bytes

/-- A node whose slice is well-formed is read with all its bytes. -/
theorem Node.utf8_spanText {source : Source} {n : Node}
    (h : Text.IsUtf8 (source.slice n.start n.stop)) :
    (Text.utf8 (n.spanText source)).toList = source.slice n.start n.stop := by
  obtain ⟨s, hs⟩ := h
  unfold Node.spanText
  rw [← hs, Text.decodeLossy_utf8]

/-- A gap of any width becomes one space. -/
def squeeze (gap : List UInt8) : List UInt8 := if gap.isEmpty then [] else [32]

theorem length_squeeze_le (gap : List UInt8) : (squeeze gap).length ≤ gap.length := by
  cases gap with
  | nil => exact Nat.le_refl 0
  | cons b gap =>
    show 1 ≤ gap.length + 1
    omega

theorem squeeze_eq_self_iff {gap : List UInt8} : squeeze gap = gap ↔ gap = [] ∨ gap = [32] := by
  cases gap with
  | nil => exact ⟨fun _ => .inl rfl, fun _ => rfl⟩
  | cons b gap =>
    show [32] = b :: gap ↔ _
    simp [eq_comm]

theorem length_flatMap_squeeze_le (gs : List (List UInt8 × List UInt8)) :
    (gs.flatMap fun g => squeeze g.1 ++ g.2).length ≤ (gs.flatMap fun g => g.1 ++ g.2).length := by
  induction gs with
  | nil => exact Nat.le_refl 0
  | cons g gs ih =>
    have hg := length_squeeze_le g.1
    simp only [List.flatMap_cons, List.length_append]
    omega

/-- With their gaps squeezed, stretches stay as they are only if each gap does:
no gap can make up for the bytes that another one lost. -/
theorem flatMap_squeeze_eq_iff (gs : List (List UInt8 × List UInt8)) :
    (gs.flatMap fun g => squeeze g.1 ++ g.2) = (gs.flatMap fun g => g.1 ++ g.2)
      ↔ ∀ g ∈ gs, g.1 = [] ∨ g.1 = [32] := by
  induction gs with
  | nil => simp
  | cons g gs ih =>
    rw [List.flatMap_cons, List.flatMap_cons, List.forall_mem_cons]
    refine Iff.trans ⟨?_, ?_⟩ (and_congr squeeze_eq_self_iff ih)
    · intro h
      -- neither part can be shorter, so the two parts agree one by one
      have hg := length_squeeze_le g.1
      have hgs := length_flatMap_squeeze_le gs
      have hlen := congrArg List.length h
      simp only [List.length_append] at hlen
      have hfirst : (squeeze g.1 ++ g.2).length = (g.1 ++ g.2).length := by
        simp only [List.length_append]
        omega
      obtain ⟨hhead, htail⟩ := List.append_inj h hfirst
      exact ⟨List.append_cancel_right hhead, htail⟩
    · intro h
      rw [h.1, h.2]

namespace Source

variable {source : Source}

/-- Tokens that lie in the source, one after the other and without overlap. -/
structure InOrder (source : Source) (ns : List Node) : Prop where
  inside : ∀ n ∈ ns, n.stop ≤ source.size
  apart : ns.Pairwise fun a b => a.stop ≤ b.start

/-- The bytes of some tokens, each with the gap before it; `stop` is where the
token before them ends. -/
def stretches (source : Source) : Nat → List Node → List (List UInt8 × List UInt8)
  | _, [] => []
  | stop, n :: rest =>
      (source.slice stop n.start, source.slice n.start n.stop) :: stretches source n.stop rest

/-- Two slices that touch are one. -/
theorem slice_append {a b c : Nat} (hab : a ≤ b) (hbc : b ≤ c) :
    source.slice a b ++ source.slice b c = source.slice a c := by
  unfold slice
  rw [← Array.toList_append, Array.extract_append_extract, Nat.min_eq_left hab,
    Nat.max_eq_right hbc]

/-- A gap has bytes in it exactly if the next token starts behind the last one. -/
theorem squeeze_slice {a b : Nat} (hb : b ≤ source.size) :
    squeeze (source.slice a b) = if a < b then [32] else [] := by
  have hlen : (source.slice a b).length = b - a := by
    unfold slice
    rw [Array.length_toList, Array.size_extract, Nat.min_eq_left hb]
  unfold squeeze
  by_cases h : a < b
  · have hne : ¬ (source.slice a b).isEmpty = true := by
      rw [List.isEmpty_iff_length_eq_zero, hlen]
      omega
    rw [if_neg hne, if_pos h]
  · have hempty : (source.slice a b).isEmpty = true := by
      rw [List.isEmpty_iff_length_eq_zero, hlen]
      omega
    rw [if_pos hempty, if_neg h]

/-- From the first token to the last, the source is the first token and the
stretches behind it. -/
theorem slice_eq_stretches (source : Source) {first last : Node} {rest : List Node}
    (hlast : (first :: rest).getLast? = some last)
    (hwidth : ∀ n ∈ first :: rest, n.start < n.stop)
    (hapart : (first :: rest).Pairwise fun a b => a.stop ≤ b.start) :
    source.slice first.start last.stop
      = source.slice first.start first.stop
        ++ (source.stretches first.stop rest).flatMap fun g => g.1 ++ g.2 := by
  induction rest generalizing first with
  | nil =>
    obtain rfl : first = last := by simpa using hlast
    rw [stretches, List.flatMap_nil, List.append_nil]
  | cons n rest ih =>
    rw [List.getLast?_cons_cons] at hlast
    obtain ⟨hfirst, hapart⟩ := List.pairwise_cons.1 hapart
    have htail := ih hlast (fun m hm => hwidth m (List.mem_cons_of_mem first hm)) hapart
    have hn := hwidth n (List.mem_cons_of_mem first List.mem_cons_self)
    -- the last token is the next one or stands behind it
    have hend : n.start ≤ last.stop := by
      rcases List.mem_cons.1 (List.mem_of_getLast? hlast) with rfl | hmem
      · omega
      · have hbehind := (List.pairwise_cons.1 hapart).1 last hmem
        have hwide := hwidth last (List.mem_cons_of_mem first (List.mem_cons_of_mem n hmem))
        omega
    have hgap : first.stop ≤ n.start := hfirst n List.mem_cons_self
    have hwide := hwidth first List.mem_cons_self
    calc source.slice first.start last.stop
        = source.slice first.start first.stop
            ++ (source.slice first.stop n.start ++ source.slice n.start last.stop) := by
          rw [slice_append hgap hend, slice_append (by omega) (by omega)]
      _ = _ := by rw [htail, stretches, List.flatMap_cons, List.append_assoc]

/-- Behind a token, the bytes of the text are the stretches with their gaps
squeezed. -/
theorem utf8_pieces {stop : Nat} {ns : List Node} (hinside : ∀ n ∈ ns, n.stop ≤ source.size)
    (hwidth : ∀ n ∈ ns, n.start < n.stop)
    (hutf8 : ∀ n ∈ ns, Text.IsUtf8 (source.slice n.start n.stop)) :
    (Text.utf8 (String.join (Lexicon.pieces source (some stop) ns))).toList
      = (source.stretches stop ns).flatMap fun g => squeeze g.1 ++ g.2 := by
  induction ns generalizing stop with
  | nil => rfl
  | cons n ns ih =>
    have hn := hinside n List.mem_cons_self
    have hw := hwidth n List.mem_cons_self
    have htail := @ih n.stop (fun m hm => hinside m (List.mem_cons_of_mem n hm))
      (fun m hm => hwidth m (List.mem_cons_of_mem n hm))
      fun m hm => hutf8 m (List.mem_cons_of_mem n hm)
    have hgap : (Text.utf8 (String.join (Lexicon.gap (some stop) n))).toList
        = squeeze (source.slice stop n.start) := by
      rw [squeeze_slice (by omega)]
      show (Text.utf8 (String.join (if stop < n.start then [" "] else []))).toList = _
      by_cases h : stop < n.start
      · rw [if_pos h, if_pos h]
        decide +kernel
      · rw [if_neg h, if_neg h]
        decide +kernel
    rw [Lexicon.pieces_cons, String.join_append, String.join_cons, Text.toList_utf8_append,
      Text.toList_utf8_append, hgap, Node.utf8_spanText (hutf8 n List.mem_cons_self), htail,
      stretches, List.flatMap_cons, List.append_assoc]

end Source

/-! ## §4. The text of a node. -/

namespace Lexicon

/-- The walk finds exactly the exposed nodes that are childless or literals and
not empty.  If these lie in the source in order and are well-formed, the text
has the bytes of the source from the first of them to the last, with a space
for each gap; and it is the source as it stands exactly if every gap is empty
or a single space. -/
theorem excerpt_collapses_gaps (lex : Lexicon) (source : Source) (n : Node) :
    lex.leaves n = lex.tokens n ∧
    lex.tokens n
      = (lex.exposed n).filter (fun m => lex.isToken m && decide (m.start < m.stop)) ∧
    ∀ first rest last, lex.leaves n = first :: rest → (first :: rest).getLast? = some last →
      source.InOrder (first :: rest) →
      (∀ m ∈ first :: rest, Text.IsUtf8 (source.slice m.start m.stop)) →
      source.slice first.start last.stop
        = source.slice first.start first.stop
          ++ (source.stretches first.stop rest).flatMap (fun g => g.1 ++ g.2) ∧
      (Text.utf8 (lex.excerpt source n)).toList
        = source.slice first.start first.stop
          ++ (source.stretches first.stop rest).flatMap (fun g => squeeze g.1 ++ g.2) ∧
      ((Text.utf8 (lex.excerpt source n)).toList = source.slice first.start last.stop ↔
        ∀ g ∈ source.stretches first.stop rest, g.1 = [] ∨ g.1 = [32]) := by
  refine ⟨leaves_eq_tokens n, tokens_eq_filter n, ?_⟩
  intro first rest last hleaves hlast horder hutf8
  have hwidth : ∀ m ∈ first :: rest, m.start < m.stop := by
    intro m hm
    rw [← hleaves, leaves_eq_tokens, tokens_eq_filter, List.mem_filter] at hm
    have hread : lex.isRead m = true := hm.2
    simp only [isRead, Bool.and_eq_true, decide_eq_true_eq] at hread
    exact hread.2
  have hspan := Source.slice_eq_stretches source hlast hwidth horder.apart
  have htext : (Text.utf8 (lex.excerpt source n)).toList
      = source.slice first.start first.stop
        ++ (source.stretches first.stop rest).flatMap (fun g => squeeze g.1 ++ g.2) := by
    unfold excerpt
    rw [hleaves, pieces_cons, String.join_append, String.join_cons, Text.toList_utf8_append,
      Text.toList_utf8_append, Node.utf8_spanText (hutf8 first List.mem_cons_self),
      Source.utf8_pieces (fun m hm => horder.inside m (List.mem_cons_of_mem first hm))
        (fun m hm => hwidth m (List.mem_cons_of_mem first hm))
        (fun m hm => hutf8 m (List.mem_cons_of_mem first hm))]
    rfl
  refine ⟨hspan, htext, ?_⟩
  rw [htext, hspan, List.append_cancel_left_eq]
  exact flatMap_squeeze_eq_iff _

/-- A comparison over two lines, with a remark behind its first operand and a
literal for its second. -/
def remarkedSource : Source := Text.utf8 "é //x\n== \"a b\""

/-- The first operand of the comparison. -/
def remarkedLeft : Node := .sound "identifier" 0 2 none []

/-- The sign of the comparison. -/
def remarkedSign : Node := .token "==" 7 9

/-- The second operand of the comparison. -/
def remarkedRight : Node :=
  .sound "string_literal" 10 15 none
    [.sound "string_content" 11 14 none []]

/-- The tree of the comparison. -/
def remarkedComparison : Node :=
  .sound "binary_expression" 0 15 none
    [remarkedLeft, .sound "line_comment" 3 6 none [], remarkedSign,
     remarkedRight]

/-- The remark and the line end become one space, so the text is not the source
as it stands. -/
theorem excerpt_collapses_gaps_remarked :
    let lex : Lexicon := ⟨["line_comment"], ["string_literal"]⟩
    lex.leaves remarkedComparison = [remarkedLeft, remarkedSign, remarkedRight] ∧
    remarkedSource.InOrder [remarkedLeft, remarkedSign, remarkedRight] ∧
    (∀ m ∈ [remarkedLeft, remarkedSign, remarkedRight],
      Text.IsUtf8 (remarkedSource.slice m.start m.stop)) ∧
    (Text.utf8 (lex.excerpt remarkedSource remarkedComparison)).toList
      = (Text.utf8 "é == \"a b\"").toList ∧
    (Text.utf8 (lex.excerpt remarkedSource remarkedComparison)).toList
      ≠ remarkedSource.slice 0 15 := by
  intro lex
  have hleaves : lex.leaves remarkedComparison = [remarkedLeft, remarkedSign, remarkedRight] := by
    rw [leaves_eq_tokens]
    rfl
  have horder : remarkedSource.InOrder [remarkedLeft, remarkedSign, remarkedRight] :=
    ⟨by decide +kernel, by decide +kernel⟩
  have hutf8 : ∀ m ∈ [remarkedLeft, remarkedSign, remarkedRight],
      Text.IsUtf8 (remarkedSource.slice m.start m.stop) :=
    List.forall_mem_cons.2 ⟨⟨"é", by decide +kernel⟩, List.forall_mem_cons.2
      ⟨⟨"==", by decide +kernel⟩, List.forall_mem_singleton.2 ⟨"\"a b\"", by decide +kernel⟩⟩⟩
  obtain ⟨_, htext, hsame⟩ := (excerpt_collapses_gaps lex remarkedSource remarkedComparison).2.2
    _ _ remarkedRight hleaves rfl horder hutf8
  refine ⟨hleaves, horder, hutf8, ?_, ?_⟩
  · rw [htext]
    decide +kernel
  · intro h
    have hgap := hsame.1 h (remarkedSource.slice 2 7, remarkedSource.slice 7 9) List.mem_cons_self
    exact absurd hgap (by decide +kernel)

end Lexicon

end AnalysisDiagram
