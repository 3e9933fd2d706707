import DocSite.Proofs.Source.Nesting

/-!
# Braces and the lexer

A lexer goes over a line once and knows at every character whether it stands in code, in a
string literal or in a comment. Braces are counted without that knowledge: literals are emptied
all over the line, in comments too, and then the line is cut at the first `//`. On a line that
leaves no literal open the braces that count are still those that the lexer sees in code
(`braces_lexed`), so the depth after a file is the lexer's (`depth_readLines`).
-/

namespace DocSite.Source

open Text (isBlank)

-- ---------------------------------------------------------------------------
-- The lexer
-- ---------------------------------------------------------------------------

/-- Where a lexer is in a line. -/
inductive Region where
  | code
  /-- In code and right after a slash: another one begins a comment. -/
  | slash
  | literal
  /-- In a literal and right after a backslash: the next character ends nothing. -/
  | escape
  | comment
  deriving DecidableEq, Repr

namespace Region

/-- The region behind one more character. -/
def next : Region → Char → Region
  | .code, c => if c = '"' then .literal else if c = '/' then .slash else .code
  | .slash, c => if c = '"' then .literal else if c = '/' then .comment else .code
  | .literal, c => if c = '"' then .code else if c = '\\' then .escape else .literal
  | .escape, _ => .literal
  | .comment, _ => .comment

def inCode : Region → Bool
  | .code | .slash => true
  | .literal | .escape | .comment => false

def inLiteral : Region → Bool
  | .literal | .escape => true
  | .code | .slash | .comment => false

/-- The region at the end of a text. -/
def behind (r : Region) (s : List Char) : Region := s.foldl next r

/-- The braces that a lexer sees in code. -/
def lexed (r : Region) : List Char → List Brace
  | [] => []
  | c :: s => (if r.inCode then (Brace.ofChar? c).toList else []) ++ lexed (r.next c) s

end Region

/-- No literal is open at the end of the line. -/
def Line.closed (l : Line) : Bool := !(Region.code.behind l.text).inLiteral

def Line.lexed (l : Line) : List Brace := Region.code.lexed l.text

-- ---------------------------------------------------------------------------
-- Texts that are lexed alike
-- ---------------------------------------------------------------------------

/-- A lexer sees the same braces in both texts, and both or none leave a literal open. -/
structure Agree (r : Region) (s : List Char) (r' : Region) (t : List Char) : Prop where
  lexed : r.lexed s = r'.lexed t
  inLiteral : (r.behind s).inLiteral = (r'.behind t).inLiteral

/-- No blank is a quote, a slash, a backslash or a brace. -/
theorem not_mark_of_isBlank (h : isBlank c) : c ∉ ['"', '/', '\\', '{', '}'] := by
  intro hmem
  have hall : ['"', '/', '\\', '{', '}'].all (fun c => !isBlank c) = true := by decide
  have hc := List.all_eq_true.1 hall c hmem
  simp [h] at hc

theorem ofChar?_of_isBlank (h : isBlank c) : Brace.ofChar? c = none := by
  have hmark := not_mark_of_isBlank h
  unfold Brace.ofChar?
  split <;> simp_all

theorem next_code_of_isBlank (h : isBlank c) : Region.code.next c = .code := by
  have hmark := not_mark_of_isBlank h
  simp_all [Region.next]

theorem inLiteral_next_of_isBlank (h : isBlank c) (r : Region) :
    (r.next c).inLiteral = r.inLiteral := by
  have hmark := not_mark_of_isBlank h
  cases r <;> simp_all [Region.next, Region.inLiteral]

theorem next_literal (hquote : c ≠ '"') (hescape : ∀ d t, c = '\\' → s = d :: t → False)
    (hlast : c = '\\' → s = [] → False) : Region.literal.next c = .literal := by
  have hbackslash : c ≠ '\\' := by
    intro hc
    cases s with
    | nil => exact hlast hc rfl
    | cons d s => exact hescape d s hc rfl
  simp only [Region.next, if_neg hquote, if_neg hbackslash]

namespace Agree

theorem refl (r : Region) (s : List Char) : Agree r s r s := ⟨rfl, rfl⟩

theorem trans (h : Agree r s r' t) (h' : Agree r' t r'' u) : Agree r s r'' u :=
  ⟨h.lexed.trans h'.lexed, h.inLiteral.trans h'.inLiteral⟩

theorem cons (c : Char) (h : Agree (r.next c) s (r.next c) t) : Agree r (c :: s) r (c :: t) :=
  ⟨by rw [Region.lexed, Region.lexed, h.lexed], h.inLiteral⟩

/-- Nothing but a brace in code is seen. -/
theorem skip (h : r.inCode = false ∨ Brace.ofChar? c = none) (s : List Char) :
    Agree r (c :: s) (r.next c) s := by
  refine ⟨?_, rfl⟩
  rcases h with h | h <;> simp [Region.lexed, h]

/-- A slash matters only to another one. -/
theorem slash (h : s.head? ≠ some '/') : Agree .slash s .code s := by
  cases s with
  | nil => exact ⟨rfl, rfl⟩
  | cons c s =>
    have hc : c ≠ '/' := fun heq => h (by simp [heq])
    have hnext : Region.slash.next c = Region.code.next c := by simp [Region.next, hc]
    exact ⟨by simp only [Region.lexed, Region.inCode, hnext],
      by simp only [Region.behind, List.foldl_cons, hnext]⟩

/-- Behind a literal the lexer is in code again. -/
theorem literal (h : afterLiteral? s = some rest) : Agree .literal s .code rest := by
  fun_induction afterLiteral? s with
  | case1 => cases h
  | case2 s =>
    cases h
    exact skip (.inl rfl) _
  | case3 s => cases h
  | case4 c s hc ih =>
    exact (skip (.inl rfl) _).trans ((skip (.inl rfl) _).trans (ih h))
  | case5 => cases h
  | case6 c s hquote hescape hlast ih =>
    have hskip := skip (r := .literal) (c := c) (.inl rfl) s
    rw [next_literal hquote hescape hlast] at hskip
    exact hskip.trans (ih h)

/-- Blanks at the end of a text end nothing. -/
theorem blanks (r : Region) {back : List Char} (hback : ∀ c ∈ back, isBlank c) :
    Agree r back r [] := by
  induction back generalizing r with
  | nil => exact refl r []
  | cons c back ih =>
    obtain ⟨hc, hback⟩ := List.forall_mem_cons.1 hback
    have hend : Agree (r.next c) [] r [] := ⟨rfl, inLiteral_next_of_isBlank hc r⟩
    exact (skip (.inr (ofChar?_of_isBlank hc)) back).trans ((ih _ hback).trans hend)

theorem append_blanks (r : Region) (s : List Char) {back : List Char}
    (hback : ∀ c ∈ back, isBlank c) : Agree r (s ++ back) r s := by
  induction s generalizing r with
  | nil => exact blanks r hback
  | cons c s ih => exact cons c (ih _)

theorem blanks_append {front : List Char} (hfront : ∀ c ∈ front, isBlank c) (s : List Char) :
    Agree .code (front ++ s) .code s := by
  induction front with
  | nil => exact refl _ s
  | cons c front ih =>
    obtain ⟨hc, hfront⟩ := List.forall_mem_cons.1 hfront
    have hskip := skip (r := .code) (.inr (ofChar?_of_isBlank hc)) (front ++ s)
    rw [next_code_of_isBlank hc] at hskip
    exact hskip.trans (ih hfront)

/-- Trimming a line changes nothing for the lexer. -/
theorem trim (s : List Char) : Agree .code (Text.trim s) .code s := by
  obtain ⟨front, back, hfront, hback, heq⟩ := Text.exists_append_trim s
  have hends := (blanks_append hfront (Text.trim s ++ back)).trans (append_blanks _ _ hback)
  rw [heq] at hends
  exact ⟨hends.lexed.symm, hends.inLiteral.symm⟩

end Agree

-- ---------------------------------------------------------------------------
-- Literals and comments
-- ---------------------------------------------------------------------------

theorem suffix_of_afterLiteral? (h : afterLiteral? s = some rest) : rest <:+ s := by
  fun_induction afterLiteral? s with
  | case1 => cases h
  | case2 s =>
    cases h
    exact List.suffix_cons _ _
  | case3 s => cases h
  | case4 c s hc ih => exact (ih h).trans ((List.suffix_cons _ _).trans (List.suffix_cons _ _))
  | case5 => cases h
  | case6 c s hquote hescape hlast ih => exact (ih h).trans (List.suffix_cons _ _)

/-- A literal that is not ended on its line is open at the end. -/
theorem inLiteral_of_afterLiteral? (hline : '\n' ∉ s) (h : afterLiteral? s = none) :
    (Region.literal.behind s).inLiteral = true := by
  fun_induction afterLiteral? s with
  | case1 => rfl
  | case2 => cases h
  | case3 => simp at hline
  | case4 c s hc ih =>
    simp only [List.mem_cons, not_or] at hline
    exact ih hline.2.2 h
  | case5 => rfl
  | case6 c s hquote hescape hlast ih =>
    rw [← ih (fun hmem => hline (List.mem_cons_of_mem c hmem)) h, Region.behind, List.foldl_cons,
      next_literal hquote hescape hlast]
    rfl

theorem head?_emptyLiterals (s : List Char) : (emptyLiterals s).head? = s.head? := by
  fun_cases emptyLiterals s <;> rfl

theorem before_slashes_cons (h : ¬ (c = '/' ∧ s.head? = some '/')) :
    Text.before "//".toList (c :: s) = c :: Text.before "//".toList s := by
  have hmark : ¬ "//".toList <+: c :: s := by
    rintro ⟨rest, heq⟩
    obtain ⟨rfl, rfl⟩ := List.cons.inj heq
    exact h ⟨rfl, rfl⟩
  rw [Text.before, Text.before, Text.cut?_cons hmark]
  cases Text.cut? "//".toList s <;> rfl

theorem braces_cons (hquote : c ≠ '"') (h : ¬ (c = '/' ∧ s.head? = some '/')) :
    braces (c :: s) = (Brace.ofChar? c).toList ++ braces s := by
  rw [← head?_emptyLiterals] at h
  rw [braces, emptyLiterals, if_neg hquote, before_slashes_cons h, List.filterMap_cons]
  cases Brace.ofChar? c <;> rfl

theorem braces_comment (s : List Char) : braces ('/' :: '/' :: s) = [] := by
  simp [braces, emptyLiterals, Text.before, Text.cut?]

theorem braces_literal (h : afterLiteral? s = some rest) : braces ('"' :: s) = braces rest := by
  have hempty : emptyLiterals ('"' :: s) = '"' :: '"' :: emptyLiterals rest := by
    rw [emptyLiterals, if_pos rfl]
    split <;> simp_all
  rw [braces, hempty, before_slashes_cons (by simp), before_slashes_cons (by simp)]
  rfl

theorem lexed_comment (s : List Char) : Region.comment.lexed s = [] := by
  induction s with
  | nil => rfl
  | cons c s ih => exact ih

/-- On a line that leaves no literal open, counting sees what the lexer sees. -/
theorem braces_eq_lexed (hline : '\n' ∉ s) (hclosed : (Region.code.behind s).inLiteral = false) :
    braces s = Region.code.lexed s := by
  -- along the emptying of literals, which goes on behind each of them
  induction s using emptyLiterals.induct with
  | case1 => simp [braces, emptyLiterals, Text.before, Text.cut?, Region.lexed]
  | case2 s rest hrest ih =>
    have hagree : Agree .code ('"' :: s) .code rest :=
      (Agree.skip (.inr rfl) s).trans (.literal hrest)
    have hmem : '\n' ∉ rest := fun hmem =>
      hline (List.mem_cons_of_mem _ ((suffix_of_afterLiteral? hrest).subset hmem))
    rw [braces_literal hrest, hagree.lexed, ih hmem (hagree.inLiteral ▸ hclosed)]
  | case3 s hnone ih =>
    have hopen : (Region.literal.behind s).inLiteral = true :=
      inLiteral_of_afterLiteral? (fun hmem => hline (List.mem_cons_of_mem _ hmem)) hnone
    cases hopen.symm.trans hclosed
  | case4 c s hquote ih =>
    replace hline : '\n' ∉ s := fun hmem => hline (List.mem_cons_of_mem _ hmem)
    by_cases hslash : c = '/'
    · subst hslash
      by_cases hcomment : s.head? = some '/'
      · obtain ⟨s, rfl⟩ := List.head?_eq_some_iff.1 hcomment
        exact (braces_comment s).trans (lexed_comment s).symm
      · have hagree : Agree .code ('/' :: s) .code s :=
          (Agree.skip (.inr rfl) s).trans (.slash hcomment)
        rw [braces_cons hquote (by simp [hcomment]), hagree.lexed,
          ih hline (hagree.inLiteral ▸ hclosed)]
        rfl
    · have hnext : Region.code.next c = .code := by simp [Region.next, hquote, hslash]
      rw [Region.behind, List.foldl_cons, hnext] at hclosed
      rw [braces_cons hquote (by simp [hslash]), ih hline hclosed, Region.lexed, hnext]
      rfl

theorem Line.braces_trimmed (l : Line) (h : l.closed = true) : braces l.trimmed = l.lexed := by
  have hagree := Agree.trim l.text
  have hline : '\n' ∉ l.trimmed := fun hmem => l.oneLine (Text.mem_trim hmem)
  have hclosed : (Region.code.behind l.trimmed).inLiteral = false := by
    rw [Line.closed, Bool.not_eq_true'] at h
    exact hagree.inLiteral.trans h
  exact (braces_eq_lexed hline hclosed).trans hagree.lexed

-- ---------------------------------------------------------------------------
-- The depth
-- ---------------------------------------------------------------------------

section
variable {p : Place} {s : State}

theorem depth_foldl_brace (bs : List Brace) :
    (bs.foldl State.brace s).depth = depthAfter s.depth bs := by
  induction bs generalizing s with
  | nil => rfl
  | cons b bs ih =>
    rw [List.foldl_cons, ih]
    cases b <;> rfl

theorem depth_declare (line : List Char) (doc : Option Comment) :
    (declare p s line doc).depth = s.depth := by
  obtain ⟨name, -, -, heq⟩ | ⟨-, heq | ⟨i, heq⟩⟩ := declare_cases p s line doc
  · rw [heq]
  · rw [heq]
  · rw [heq, State.push]
    split <;> rfl

theorem depth_closeBody : (s.closeBody p).depth = s.depth := by
  unfold State.closeBody
  split
  · split <;> rfl
  · rfl

/-- A line of code moves the depth by its braces, whatever it declares. -/
theorem depth_codeLine (line : List Char) :
    (codeLine p s line).depth = depthAfter s.depth (braces line) := by
  by_cases hlevel : s.depth = s.declarationDepth
  · rw [codeLine_of_level hlevel, depth_closeBody, depth_foldl_brace, depth_declare]
  · rw [codeLine_of_deeper hlevel, depth_closeBody, depth_foldl_brace]

end

/-- The braces that count in a line are those that a lexer sees in code, and a line of code moves
the depth by them. -/
theorem braces_lexed (l : Line) (hclosed : l.closed = true) :
    braces l.trimmed = l.lexed ∧
      ∀ (p : Place) (s : State), s.mode = .code → l.isCode = true →
        (step p s l.text).depth = depthAfter s.depth l.lexed := by
  refine ⟨l.braces_trimmed hclosed, fun p s hmode hcode => ?_⟩
  rw [step_isCode hmode hcode, depth_codeLine, l.braces_trimmed hclosed]

/-- Slashes, an escaped quote and braces in literals, and a quote in a comment. -/
def quotedLine : Line :=
  ⟨"  s = \"\\\"\x7d//\" / \"\x7b\" \x7b // \"\x7d \x7b".toList, by decide⟩

theorem braces_lexed_quoted :
    quotedLine.closed = true ∧ braces quotedLine.trimmed = [.opening] ∧
      (step ⟨"l", "a.ql"⟩ {} quotedLine.text).depth = 1 := by
  have hclosed : quotedLine.closed = true := by decide
  have hlexed : quotedLine.lexed = [.opening] := by decide
  obtain ⟨hbraces, hstep⟩ := braces_lexed quotedLine hclosed
  refine ⟨hclosed, hbraces.trans hlexed, ?_⟩
  rw [hstep ⟨"l", "a.ql"⟩ {} rfl (by decide), hlexed]
  rfl

/-- A literal that is left open hides nothing from the count. -/
example : braces ['"', '{'] = [.opening] ∧ Region.code.lexed ['"', '{'] = [] := by
  decide +kernel

-- ---------------------------------------------------------------------------
-- Files
-- ---------------------------------------------------------------------------

/-- The lines that are read as code, from a state on. -/
def codeLines (p : Place) (s : State) : List Line → List Line
  | [] => []
  | l :: lines =>
    (if s.mode = .code ∧ l.isCode then [l] else []) ++ codeLines p (step p s l.text) lines

theorem depth_readOn {p : Place} {s : State} (lines : List Line)
    (h : ∀ l ∈ codeLines p s lines, l.closed = true) :
    (readOn p s lines).depth = depthAfter s.depth ((codeLines p s lines).flatMap Line.lexed) := by
  induction lines generalizing s with
  | nil => rfl
  | cons l lines ih =>
    rw [codeLines, List.forall_mem_append] at h
    rw [codeLines, List.flatMap_append, depthAfter, List.foldl_append]
    refine (ih h.2).trans (congrArg (depthAfter · _) ?_)
    by_cases hcode : s.mode = .code ∧ l.isCode = true
    · rw [if_pos hcode] at h ⊢
      rw [step_isCode hcode.1 hcode.2, depth_codeLine, l.braces_trimmed (h.1 l (by simp))]
      simp [depthAfter]
    · obtain ⟨mode, change, heq⟩ := @step_other p l s.mode hcode
      rw [if_neg hcode, heq s rfl]
      rfl

/-- The depth after a file whose code leaves no literal open is the lexer's. -/
theorem depth_readLines (p : Place) (lines : List Line)
    (h : ∀ l ∈ codeLines p {} lines, l.closed = true) :
    (readLines p lines).depth = depthAfter 0 ((codeLines p {} lines).flatMap Line.lexed) :=
  depth_readOn lines h

end DocSite.Source
