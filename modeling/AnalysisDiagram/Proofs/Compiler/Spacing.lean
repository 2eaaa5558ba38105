/-
  AnalysisDiagram.Proofs.Compiler.Spacing
  ───────────────────────────────────────
  What a diagram does not depend on.

  Two files are compared function by function.  Their trees agree row by row
  in all but offsets; of the offsets it only matters which tokens are empty
  and which of them touch:

      SameRow    — two rows agree in kind, flag, number of children and role
      tokenRows  — the pairs of tokens that no comment contains
      SameText   — the rows of two functions agree, and so do the texts of
                   their tokens and the gaps between them

      build_spacing  — files whose functions have the same text in this sense
                       have the same diagram and the same payload

  So neither the place of a function in its file, nor the width of a gap, nor
  what a comment says, nor anything at the top of a file that is not a
  function has an influence on what is sent.
-/
import AnalysisDiagram.Proofs.Compiler.Output
import AnalysisDiagram.Proofs.Lowering.Lookalike

namespace AnalysisDiagram

/-! ## §1. Trees that agree row by row. -/

/-- Two nodes agree in what is known of them apart from their offsets. -/
structure Node.SameRow (m n : Node) : Prop where
  kind : m.kind = n.kind
  named : m.info.named = n.info.named
  arity : m.children.length = n.children.length
  role : m.info.role = n.info.role

instance (m n : Node) : Decidable (m.SameRow n) :=
  decidable_of_iff (m.kind = n.kind ∧ m.info.named = n.info.named
      ∧ m.children.length = n.children.length ∧ m.info.role = n.info.role)
    ⟨fun h => ⟨h.1, h.2.1, h.2.2.1, h.2.2.2⟩, fun h => ⟨h.kind, h.named, h.arity, h.role⟩⟩

/-- Two trees agree row by row. -/
def Node.SameRows (m n : Node) : Prop := List.Forall₂ Node.SameRow m.preorder n.preorder

namespace Node

theorem SameRows.head {m n : Node} (h : m.SameRows n) : m.SameRow n := by
  unfold SameRows at h
  rw [preorder_eq, preorder_eq] at h
  exact (List.forall₂_cons.1 h).1

theorem forall₂_preorders {ms ns : List Node} (h : List.Forall₂ SameRows ms ns) :
    List.Forall₂ SameRow (preorders ms) (preorders ns) := by
  induction h with
  | nil => exact .nil
  | cons hmn _ ih =>
    rw [preorders, preorders]
    exact List.rel_append hmn ih

/-- The rows of equally many trees are read tree by tree, if the rows of each
are read in one way only. -/
theorem sameRows_of_appends {ms ns xs ys : List Node}
    (hread : ∀ c ∈ ms, ∀ {d xs ys}, List.Forall₂ SameRow (c.preorder ++ xs) (d.preorder ++ ys) →
      c.SameRows d ∧ List.Forall₂ SameRow xs ys)
    (hlen : ms.length = ns.length)
    (h : List.Forall₂ SameRow (preorders ms ++ xs) (preorders ns ++ ys)) :
    List.Forall₂ SameRows ms ns ∧ List.Forall₂ SameRow xs ys := by
  induction ms generalizing ns with
  | nil =>
    cases ns with
    | nil => exact ⟨.nil, h⟩
    | cons d ns => cases hlen
  | cons c ms ih =>
    cases ns with
    | nil => cases hlen
    | cons d ns =>
      rw [preorders, preorders, List.append_assoc, List.append_assoc] at h
      obtain ⟨hcd, hrest⟩ := hread c List.mem_cons_self h
      obtain ⟨htail, hxy⟩ := ih (fun e he => hread e (List.mem_cons_of_mem c he))
        (Nat.succ.inj hlen) hrest
      exact ⟨.cons hcd htail, hxy⟩

/-- Rows in pre-order are read in one way only: what comes first in two lists
of rows that agree are trees that agree, and the rest agrees too. -/
theorem sameRows_of_append {m n : Node} {xs ys : List Node}
    (h : List.Forall₂ SameRow (m.preorder ++ xs) (n.preorder ++ ys)) :
    m.SameRows n ∧ List.Forall₂ SameRow xs ys := by
  induction m using Node.induction generalizing n xs ys with
  | mk info children ih =>
    rw [preorder_eq, preorder_eq n, List.cons_append, List.cons_append] at h
    -- the first rows ask for equally many trees behind them
    obtain ⟨hrow, h⟩ := List.forall₂_cons.1 h
    obtain ⟨hchildren, hxy⟩ := sameRows_of_appends ih hrow.arity h
    refine ⟨?_, hxy⟩
    unfold SameRows
    rw [preorder_eq, preorder_eq n]
    exact .cons hrow (forall₂_preorders hchildren)

/-- Trees that agree row by row have children that do. -/
theorem SameRows.children {m n : Node} (h : m.SameRows n) :
    List.Forall₂ SameRows m.children n.children := by
  have hlen := h.head.arity
  unfold SameRows at h
  rw [preorder_eq, preorder_eq] at h
  have hrows := (List.forall₂_cons.1 h).2
  rw [← List.append_nil (preorders m.children), ← List.append_nil (preorders n.children)] at hrows
  exact (sameRows_of_appends (fun _ _ => sameRows_of_append) hlen hrows).1

end Node

namespace Lexicon

variable {lex : Lexicon} {source source' : Source}

/-! ## §2. Tokens in pairs. -/

/-- The tokens of two trees that no comment contains, in pairs and in order. -/
def tokenRows (lex : Lexicon) (m n : Node) : List (Node × Node) :=
  ((lex.outside m).zip (lex.outside n)).filter fun t => lex.isToken t.1

/-- The tokens of several trees, in pairs and in order. -/
def tokenRowLists (lex : Lexicon) (ms ns : List Node) : List (Node × Node) :=
  ((lex.outsides ms).zip (lex.outsides ns)).filter fun t => lex.isToken t.1

theorem isComment_of_sameRow {m n : Node} (h : m.SameRow n) :
    lex.isComment n = lex.isComment m := by
  unfold isComment
  rw [h.kind]

theorem isToken_of_sameRow {m n : Node} (h : m.SameRow n) : lex.isToken n = lex.isToken m := by
  unfold isToken
  have hempty : n.children.isEmpty = m.children.isEmpty := by
    rw [Bool.eq_iff_iff, List.isEmpty_iff_length_eq_zero, List.isEmpty_iff_length_eq_zero, h.arity]
  rw [hempty, h.kind]

theorem length_outsides {ms ns : List Node} (h : List.Forall₂ Node.SameRows ms ns)
    (hone : ∀ c ∈ ms, ∀ {d}, c.SameRows d → (lex.outside c).length = (lex.outside d).length) :
    (lex.outsides ms).length = (lex.outsides ns).length := by
  induction h with
  | nil => rfl
  | @cons c d ms ns hcd _ ih =>
    rw [outsides, outsides, List.length_append, List.length_append,
      hone c List.mem_cons_self hcd, ih fun e he => hone e (List.mem_cons_of_mem c he)]

/-- Trees that agree row by row have equally many nodes outside comments. -/
theorem length_outside {m n : Node} (h : m.SameRows n) :
    (lex.outside m).length = (lex.outside n).length := by
  induction m using Node.induction generalizing n with
  | mk info children ih =>
    have hn := lex.isComment_of_sameRow h.head
    cases hcomment : lex.isComment (.mk info children) with
    | true =>
      rw [hcomment] at hn
      rw [outside_of_comment hcomment, outside_of_comment hn]
    | false =>
      rw [hcomment] at hn
      rw [outside_of_bare hcomment, outside_of_bare hn, List.length_cons, List.length_cons]
      congr 1
      exact length_outsides h.children ih

/-- Pairs of tokens are found tree by tree. -/
theorem tokenRowLists_cons {c d : Node} (h : c.SameRows d) (ms ns : List Node) :
    lex.tokenRowLists (c :: ms) (d :: ns) = lex.tokenRows c d ++ lex.tokenRowLists ms ns := by
  unfold tokenRowLists tokenRows
  rw [outsides, outsides, List.zip_append (length_outside h), List.filter_append]

/-- The pairs of tokens below a node come after the node itself, if that is a
token. -/
theorem tokenRows_of_bare {m n : Node} (h : m.SameRow n) (hm : lex.isComment m = false) :
    lex.tokenRows m n
      = (if lex.isToken m then [(m, n)] else []) ++ lex.tokenRowLists m.children n.children := by
  have hn : lex.isComment n = false := by rw [isComment_of_sameRow h, hm]
  unfold tokenRows tokenRowLists
  rw [outside_of_bare hm, outside_of_bare hn, List.zip_cons_cons, List.filter_cons]
  by_cases htoken : lex.isToken m = true
  · rw [if_pos htoken, if_pos htoken]
    rfl
  · rw [if_neg htoken, if_neg htoken]
    rfl

/-- The pairs of tokens of two children are among those of the parents. -/
theorem tokenRows_sublist_of_zip {m n c d : Node} (h : m.SameRows n) (hm : lex.isComment m = false)
    (hcd : (c, d) ∈ m.children.zip n.children) :
    (lex.tokenRows c d).Sublist (lex.tokenRows m n) := by
  rw [tokenRows_of_bare h.head hm]
  have hchildren := h.children
  generalize m.children = ms at hchildren hcd ⊢
  generalize n.children = ns at hchildren hcd ⊢
  refine List.Sublist.trans ?_ (List.sublist_append_right _ _)
  induction hchildren with
  | nil => cases hcd
  | @cons e f ms ns hef _ ih =>
    rw [tokenRowLists_cons hef]
    rcases List.mem_cons.1 hcd with heq | hcd
    · cases heq
      exact List.sublist_append_left _ _
    · exact (ih hcd).trans (List.sublist_append_right _ _)

/-- Of two tokens, both are empty or neither is. -/
def SameWidth (t : Node × Node) : Prop := t.1.start < t.1.stop ↔ t.2.start < t.2.stop

theorem exists_tokenLists_eq {ms ns : List Node} (h : List.Forall₂ Node.SameRows ms ns)
    (hwidth : ∀ t ∈ lex.tokenRowLists ms ns, SameWidth t)
    (hone : ∀ c ∈ ms, ∀ {d}, c.SameRows d → (∀ t ∈ lex.tokenRows c d, SameWidth t) →
      ∃ pairs : List (Node × Node), pairs.Sublist (lex.tokenRows c d) ∧
        lex.tokens c = pairs.map Prod.fst ∧ lex.tokens d = pairs.map Prod.snd) :
    ∃ pairs : List (Node × Node), pairs.Sublist (lex.tokenRowLists ms ns) ∧
      lex.tokenLists ms = pairs.map Prod.fst ∧ lex.tokenLists ns = pairs.map Prod.snd := by
  induction h with
  | nil => exact ⟨[], List.nil_sublist _, rfl, rfl⟩
  | @cons c d ms ns hcd _ ih =>
    rw [tokenRowLists_cons hcd] at hwidth ⊢
    obtain ⟨first, hfirst, hc, hd⟩ := hone c List.mem_cons_self hcd
      fun t ht => hwidth t (List.mem_append_left _ ht)
    obtain ⟨more, hmore, hms, hns⟩ := ih (fun t ht => hwidth t (List.mem_append_right _ ht))
      fun e he => hone e (List.mem_cons_of_mem c he)
    refine ⟨first ++ more, hfirst.append hmore, ?_, ?_⟩
    · rw [tokenLists, hc, hms, List.map_append]
    · rw [tokenLists, hd, hns, List.map_append]

/-- The tokens that are found in two trees are pairs of such tokens. -/
theorem exists_tokens_eq {m n : Node} (h : m.SameRows n)
    (hwidth : ∀ t ∈ lex.tokenRows m n, SameWidth t) :
    ∃ pairs : List (Node × Node), pairs.Sublist (lex.tokenRows m n) ∧
      lex.tokens m = pairs.map Prod.fst ∧ lex.tokens n = pairs.map Prod.snd := by
  induction m using Node.induction generalizing n with
  | mk info children ih =>
    rw [tokens_eq, tokens_eq lex n, isComment_of_sameRow h.head, isToken_of_sameRow h.head]
    cases hcomment : lex.isComment (.mk info children) with
    | true => exact ⟨[], List.nil_sublist _, rfl, rfl⟩
    | false =>
      rw [tokenRows_of_bare h.head hcomment] at hwidth ⊢
      rw [if_neg Bool.false_ne_true, if_neg Bool.false_ne_true]
      cases htoken : lex.isToken (.mk info children) with
      | true =>
        rw [htoken, if_pos rfl] at hwidth
        rw [if_pos rfl, if_pos rfl, if_pos rfl]
        -- the pair itself, unless both are empty
        have hsame : SameWidth (.mk info children, n) := hwidth _ List.mem_cons_self
        unfold emit
        by_cases hlt : (Node.mk info children).start < (Node.mk info children).stop
        · rw [if_pos hlt, if_pos (hsame.1 hlt)]
          exact ⟨[(.mk info children, n)], List.sublist_append_left _ _, rfl, rfl⟩
        · rw [if_neg hlt, if_neg fun hlt' => hlt (hsame.2 hlt')]
          exact ⟨[], List.nil_sublist _, rfl, rfl⟩
      | false =>
        rw [htoken, if_neg Bool.false_ne_true, List.nil_append] at hwidth
        rw [if_neg Bool.false_ne_true, if_neg Bool.false_ne_true, if_neg Bool.false_ne_true,
          List.nil_append]
        exact exists_tokenLists_eq h.children hwidth ih

/-- Tokens with the same texts and the same gaps between them make the same
pieces. -/
theorem pieces_pairs {before before' : Option Nat} {pairs : List (Node × Node)}
    (hbefore : ∀ t ∈ pairs, gap before t.1 = gap before' t.2)
    (hslice : ∀ t ∈ pairs, source.slice t.1.start t.1.stop = source'.slice t.2.start t.2.stop)
    (hgap : pairs.Pairwise fun s t => s.1.stop < t.1.start ↔ s.2.stop < t.2.start) :
    pieces source before (pairs.map Prod.fst) = pieces source' before' (pairs.map Prod.snd) := by
  induction pairs generalizing before before' with
  | nil => rfl
  | cons t pairs ih =>
    obtain ⟨hhead, htail⟩ := List.pairwise_cons.1 hgap
    have hrest : pieces source (some t.1.stop) (pairs.map Prod.fst)
        = pieces source' (some t.2.stop) (pairs.map Prod.snd) := by
      refine ih (fun u hu => ?_) (fun u hu => hslice u (List.mem_cons_of_mem t hu)) htail
      show (if t.1.stop < u.1.start then [" "] else []) = if t.2.stop < u.2.start then [" "] else []
      exact if_congr (hhead u hu) rfl rfl
    have htext : t.1.spanText source = t.2.spanText source' := by
      unfold Node.spanText
      rw [hslice t List.mem_cons_self]
    rw [List.map_cons, List.map_cons, pieces_cons, pieces_cons, hbefore t List.mem_cons_self, htext,
      hrest]

end Lexicon

/-! ## §3. Functions with the same text. -/

/-- Two functions, each in its source, agree row by row and token by token:
their tokens have the same texts, and the same of them touch. -/
structure SameText (lex : Lexicon) (source source' : Source) (f g : Node) : Prop where
  rows : f.SameRows g
  roles : ∀ m ∈ f.preorder, lex.isComment m = true → m.info.role = none
  slices : ∀ t ∈ lex.tokenRows f g,
    source.slice t.1.start t.1.stop = source'.slice t.2.start t.2.stop
  widths : ∀ t ∈ lex.tokenRows f g, Lexicon.SameWidth t
  gaps : (lex.tokenRows f g).Pairwise fun s t => s.1.stop < t.1.start ↔ s.2.stop < t.2.start

namespace SameText

variable {lex : Lexicon} {source source' : Source} {m n : Node}

theorem excerpt (h : SameText lex source source' m n) :
    lex.excerpt source m = lex.excerpt source' n := by
  obtain ⟨pairs, hsub, hm, hn⟩ := Lexicon.exists_tokens_eq h.rows h.widths
  have hpieces : Lexicon.pieces source none (pairs.map Prod.fst)
      = Lexicon.pieces source' none (pairs.map Prod.snd) := by
    apply Lexicon.pieces_pairs
    · intro t _
      rfl
    · intro t ht
      exact h.slices t (hsub.subset ht)
    · exact h.gaps.sublist hsub
  unfold Lexicon.excerpt
  rw [Lexicon.leaves_eq_tokens, Lexicon.leaves_eq_tokens, hm, hn, hpieces]

/-- Below functions with the same text are nodes with the same text. -/
theorem child (h : SameText lex source source' m n) (hm : lex.isComment m = false) {c d : Node}
    (hcd : (c, d) ∈ m.children.zip n.children) : SameText lex source source' c d := by
  have hsub := Lexicon.tokenRows_sublist_of_zip h.rows hm hcd
  have hmem := (List.of_mem_zip hcd).1
  exact {
    rows := (List.forall₂_iff_zip.1 h.rows.children).2 hcd
    roles := fun k hk => h.roles k (Node.mem_preorder_of_child hmem hk)
    slices := fun t ht => h.slices t (hsub.subset ht)
    widths := fun t ht => h.widths t (hsub.subset ht)
    gaps := h.gaps.sublist hsub }

theorem silent_left (h : SameText lex source source' m n) : lex.Silent m := by
  intro c hc hcomment
  exact h.roles c (Node.mem_preorder_of_child hc (Node.mem_preorder_self c)) hcomment

/-- A comment in one tree is one in the other, with the same role. -/
theorem silent_right (h : SameText lex source source' m n) : lex.Silent n := by
  intro d hd hcomment
  obtain ⟨c, hc, hrows⟩ := Outcome.exists_mem_of_forall₂ h.rows.children hd
  have hrow := hrows.head
  rw [Lexicon.isComment_of_sameRow hrow] at hcomment
  rw [← hrow.role]
  exact h.silent_left c hc hcomment

/-- Nodes with the same text look alike, as far as they are no comments. -/
theorem lookalike (lex : Lexicon) (source source' : Source) :
    Lookalike lex source source' fun m n =>
      SameText lex source source' m n ∧ lex.isComment m = false where
  kind h := h.1.rows.head.kind
  named h := h.1.rows.head.named
  role h := h.1.rows.head.role
  silent h := ⟨h.1.silent_left, h.1.silent_right⟩
  excerpt h := h.1.excerpt
  bare := by
    rintro m n ⟨h, hm⟩
    have hchildren : List.Forall₂ (SameText lex source source') m.children n.children :=
      List.forall₂_iff_zip.2 ⟨h.rows.head.arity, fun hcd => h.child hm hcd⟩
    unfold Lexicon.bare
    generalize m.children = ms at hchildren ⊢
    generalize n.children = ns at hchildren ⊢
    induction hchildren with
    | nil => exact .nil
    | @cons c d ms ns hcd _ ih =>
      rw [List.filter_cons, List.filter_cons, Lexicon.isComment_of_sameRow hcd.rows.head]
      cases hcomment : lex.isComment c with
      | true => exact ih
      | false => exact .cons ⟨hcd, hcomment⟩ ih

end SameText

/-! ## §4. Files with the same functions. -/

namespace Compiler

/-- Functions with the same text, one by one, have the same diagram. -/
theorem diagram_of_sameText {p p' : ParsedSource} (hlanguage : p'.language = p.language)
    (hdialect : p.language.dialect = Dialect.rust ∨ p.language.dialect = Dialect.javaScript)
    (hkinds : ∀ kind ∈ p.language.dialect.lexicon.comments,
      LooseText.ofString kind ∉ p.language.functionKinds)
    (hsame : List.Forall₂ (SameText p.language.dialect.lexicon p.source p'.source)
      p.functions p'.functions) :
    diagram p = diagram p' := by
  -- functions are no comments, so they look alike
  have hbare : ∀ f ∈ p.functions, p.language.dialect.lexicon.isComment f = false := by
    intro f hf
    have hkind := (List.mem_filter.1 hf).2
    cases hcomment : p.language.dialect.lexicon.isComment f with
    | false => rfl
    | true =>
      have hmem := List.contains_iff_mem.1 hcomment
      exact absurd (List.contains_iff_mem.1 hkind) (hkinds f.kind hmem)
  have hblocks : p.functions.mapM (p.language.dialect.run p.source .function)
      = p'.functions.mapM (p'.language.dialect.run p'.source .function) := by
    rw [hlanguage]
    apply mapM_congr_of_forall₂
    have hzip := List.forall₂_iff_zip.1 hsame
    refine List.forall₂_iff_zip.2 ⟨hzip.1, fun {f g} hfg => ?_⟩
    exact Dialect.run_lookalike hdialect (SameText.lookalike _ p.source p'.source)
      ⟨hzip.2 hfg, hbare f (List.of_mem_zip hfg).1⟩ .function
  unfold diagram
  generalize p.functions = fs at hsame hblocks ⊢
  generalize p'.functions = gs at hsame hblocks ⊢
  cases hsame with
  | nil => rfl
  | cons _ _ =>
    dsimp only
    rw [hblocks]

/-- What is built and sent does not depend on where the functions stand in
their file, on the widths of gaps, on comments, or on what else the file has
at its top. -/
theorem build_spacing (depth depth' : Nat) (settings settings' : Settings)
    (registry registry' : Registry) (payload payload' language language' : Value)
    (tree tree' : Node) (p p' : ParsedSource)
    (hp : parse depth registry payload (effectiveLanguage settings language) tree = .ok p)
    (hp' : parse depth' registry' payload' (effectiveLanguage settings' language') tree' = .ok p')
    (hlanguage : p'.language = p.language)
    (hdialect : p.language.dialect = Dialect.rust ∨ p.language.dialect = Dialect.javaScript)
    (hkinds : ∀ kind ∈ p.language.dialect.lexicon.comments,
      LooseText.ofString kind ∉ p.language.functionKinds)
    (hsame : List.Forall₂ (SameText p.language.dialect.lexicon p.source p'.source)
      p.functions p'.functions) :
    build depth settings registry payload language tree
      = build depth' settings' registry' payload' language' tree' ∧
    ∀ layout, transform depth settings registry layout payload language tree
      = transform depth' settings' registry' layout payload' language' tree' := by
  have hrecord : foundRecord p = foundRecord p' := by
    unfold foundRecord
    rw [hsame.length_eq, hlanguage]
  have hbuild : build depth settings registry payload language tree
      = build depth' settings' registry' payload' language' tree' := by
    unfold build
    rw [hp, hp']
    dsimp only
    rw [hrecord, diagram_of_sameText hlanguage hdialect hkinds hsame]
  refine ⟨hbuild, fun layout => ?_⟩
  unfold transform
  rw [hbuild]

/-- The tree of `fn f(){if a/*…*/{b}}` from byte `s` on, with the name at `n`,
the condition at `c`, a comment from `k` to `l`, and the consequence at `b`. -/
def spacedFunction (s n c k l b : Nat) : Node :=
  .sound "function_item" s (b + 4) none
    [.token "fn" s (s + 2),
     .sound "identifier" n (n + 1) (some .name) [],
     .sound "parameters" (n + 1) (n + 3) none
      [.token "(" (n + 1) (n + 2), .token ")" (n + 2) (n + 3)],
     .sound "block" (n + 3) (b + 4) (some .body)
      [.token "\x7b" (n + 3) (n + 4),
       .sound "if_expression" (n + 4) (b + 3) none
        [.token "if" (n + 4) (n + 6),
         .sound "identifier" c (c + 1) (some .condition) [],
         .sound "block_comment" k l none [],
         .sound "block" b (b + 3) (some .consequence)
          [.token "\x7b" b (b + 1),
           .sound "identifier" (b + 1) (b + 2) none [],
           .token "\x7d" (b + 2) (b + 3)]],
       .token "\x7d" (b + 3) (b + 4)]]

/-- A function with narrow gaps. -/
def tightText : String := "fn f()\x7bif a/*x*/\x7bb\x7d\x7d"

/-- The tree of the function with narrow gaps. -/
def tightTree : Node := .sound "source_file" 0 20 none [spacedFunction 0 3 10 11 16 16]

/-- The same function behind something else, with wide gaps and another comment. -/
def wideText : String := "mod g;\nfn   f()\x7bif\na /* longer */ \x7bb\x7d\x7d"

/-- The tree of the function with wide gaps. -/
def wideTree : Node :=
  .sound "source_file" 0 38 none
    [.sound "mod_item" 0 6 none [], spacedFunction 7 12 19 21 33 34]

/-- With narrow gaps and with wide ones, the function is the same diagram. -/
theorem build_spacing_wideText :
    SameText Dialect.rust.lexicon (Text.utf8 tightText) (Text.utf8 wideText)
      (spacedFunction 0 3 10 11 16 16) (spacedFunction 7 12 19 21 33 34) ∧
    ∀ layout,
      transform 1000 {} Registry.standard layout (.text tightText) (.text "rust") tightTree
        = transform 1000 {} Registry.standard layout (.text wideText) (.text "rust") wideTree := by
  have hsame : SameText Dialect.rust.lexicon (Text.utf8 tightText) (Text.utf8 wideText)
      (spacedFunction 0 3 10 11 16 16) (spacedFunction 7 12 19 21 33 34) := by
    refine ⟨?_, by decide +kernel, by decide +kernel, ?_, by decide +kernel⟩
    · unfold Node.SameRows
      decide +kernel
    · unfold Lexicon.SameWidth
      decide +kernel
  refine ⟨hsame, fun layout => ?_⟩
  have htight : parse 1000 Registry.standard (.text tightText) (effectiveLanguage {} (.text "rust"))
      tightTree = .ok ⟨Language.rust, Text.utf8 tightText, tightTree⟩ := rfl
  have hwide : parse 1000 Registry.standard (.text wideText) (effectiveLanguage {} (.text "rust"))
      wideTree = .ok ⟨Language.rust, Text.utf8 wideText, wideTree⟩ := rfl
  exact (build_spacing 1000 1000 {} {} _ _ _ _ _ _ _ _ _ _ htight hwide rfl (.inl rfl)
    (by decide +kernel) (.cons hsame .nil)).2 layout

end Compiler

end AnalysisDiagram
