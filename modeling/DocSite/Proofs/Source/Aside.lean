import DocSite.Proofs.Text.Lines
import DocSite.Source.Reader
import Mathlib.Data.List.Infix

/-!
# Text beside the code

Blank lines, line comments and plain block comments say nothing: put in where a line
ends, outside of any comment, they leave all that is read as it was (`parse_aside`).

Two block comments are misread. The empty one, `/**/`, opens a documentation comment, and
in `/*/` the star that opens a comment closes it again, so that the lines after it are
taken for code. Both are shown in `parse_misread`.
-/

namespace DocSite.Source

open Text (isBlank lines trim trimStart trimEnd cut? splitAll chomp)

-- ---------------------------------------------------------------------------
-- What stands beside the code
-- ---------------------------------------------------------------------------

/-- Blanks on one line. -/
structure Gap where
  text : List Char
  blank : ∀ c ∈ text, isBlank c
  oneLine : '\n' ∉ text

/-- Text that stands on lines of its own and is no code. Between the marks of a block
comment there may be line ends, but no closing mark, and no star at the front. -/
inductive Aside where
  | blank (gap : Gap)
  | line (indent : Gap) (text : List Char) (oneLine : '\n' ∉ text)
  | block (indent : Gap) (body : List Char) (plain : body.head? ≠ some '*')
      (unclosed : ¬ "*/".toList <:+: body) (tail : Gap)

namespace Aside

def text : Aside → List Char
  | .blank gap => gap.text
  | .line indent text _ => indent.text ++ ("//".toList ++ text)
  | .block indent body _ _ tail =>
    indent.text ++ ("/*".toList ++ (body ++ ("*/".toList ++ tail.text)))

/-- Block comments that are taken for something else. -/
def Misread : Aside → Prop
  | .block _ body _ _ _ => body = [] ∨ body.head? = some '/' ∧ '\n' ∈ body
  | _ => False

end Aside

/-- The state after reading a text that comes next. -/
def readFrom (p : Place) (s : State) (text : List Char) : State := (lines text).foldl (step p) s

theorem parse_eq (p : Place) (source : String) :
    parse p source =
      { name := fileName p.path, importPath := p.path
        items := (readFrom p {} source.toList).finish p } := rfl

-- ---------------------------------------------------------------------------
-- One line
-- ---------------------------------------------------------------------------

section
variable {p : Place} {s : State}

theorem step_chomp (line : List Char) : step p s (chomp line) = step p s line := by
  rw [step, step, Text.trim_chomp]

/-- The mark that closes a comment is looked for on the trimmed line. -/
theorem isSome_cut?_trim (line : List Char) :
    (cut? "*/".toList (trim line)).isSome ↔ "*/".toList <:+: line := by
  rw [Text.isSome_cut?_iff, Text.infix_trim_iff (by decide) (Text.forall_mem_of_all (by decide))]

theorem step_block (h : s.mode = .block) (line : List Char) :
    step p s line = if "*/".toList <:+: line then { s with mode := .code } else s := by
  simp only [step, h, isSome_cut?_trim]

theorem step_empty (h : s.mode = .code) (hline : trim line = []) : step p s line = s := by
  simp only [step, h, hline]
  rfl

theorem step_lineComment (h : s.mode = .code) (hline : "//".toList <+: trim line) :
    step p s line = s := by
  obtain ⟨rest, hrest⟩ := hline
  simp only [step, h, ← hrest]
  rfl

/-- A line that opens a plain block comment, which may be closed on it. -/
theorem step_openBlock (h : s.mode = .code) (hopen : "/*".toList <+: trim line)
    (hplain : ¬ "/**".toList <+: trim line) :
    step p s line = if "*/".toList <:+: line then s else { s with mode := .block } := by
  have hafter := Text.after?_eq_none_iff.2 hplain
  have hprefix := List.isPrefixOf_iff_prefix.2 hopen
  simp only [step, h, hafter, hprefix, ↓reduceIte, isSome_cut?_trim]

end

-- ---------------------------------------------------------------------------
-- Whole texts
-- ---------------------------------------------------------------------------

section
variable {p : Place} {s : State}

theorem readFrom_append_newline (a b : List Char) :
    readFrom p s (a ++ '\n' :: b) = readFrom p (readFrom p s (a ++ ['\n'])) b := by
  rw [readFrom, Text.lines_append_newline, List.foldl_append]
  rfl

theorem readFrom_line {line : List Char} (h : '\n' ∉ line) :
    readFrom p s (line ++ ['\n']) = step p s line := by
  rw [readFrom, Text.lines_line h, List.foldl_cons, List.foldl_nil, step_chomp]

/-- In a block comment, a text is passed over up to the line that closes it. -/
theorem readFrom_block (h : s.mode = .block) {parts : List (List Char)} (hne : parts ≠ [])
    (hparts : ∀ part ∈ parts, '\n' ∉ part ∧ ¬ "*/".toList <:+: part) (tail : Gap) :
    readFrom p s (Text.join ['\n'] parts ++ ("*/".toList ++ tail.text) ++ ['\n']) =
      { s with mode := .code } := by
  induction parts with
  | nil => exact absurd rfl hne
  | cons part parts ih =>
    obtain ⟨hline, hopen⟩ := hparts part (by simp)
    by_cases hp : parts = []
    · have hclosing : '\n' ∉ part ++ ("*/".toList ++ tail.text) := by
        simp [hline, tail.oneLine]
      have hmark : "*/".toList <:+: part ++ ("*/".toList ++ tail.text) := ⟨part, tail.text, by simp⟩
      rw [hp, Text.join_singleton, readFrom_line hclosing, step_block h, if_pos hmark]
    · rw [Text.join_cons _ _ hp, List.append_assoc, List.append_assoc, List.append_assoc,
        List.singleton_append, readFrom_append_newline, readFrom_line hline, step_block h,
        if_neg hopen]
      simpa using ih hp fun q hq => hparts q (by simp [hq])

end

-- ---------------------------------------------------------------------------
-- Asides
-- ---------------------------------------------------------------------------

section
variable {p : Place} {s : State} (hs : s.mode = .code)
include hs

/-- The line that opens a block comment, up to the end of that line. -/
theorem step_opening {body : List Char} (hplain : body.head? ≠ some '*') (indent : Gap) :
    step p s (indent.text ++ ("/*".toList ++ body)) =
      if "*/".toList <:+: indent.text ++ ("/*".toList ++ body) then s
      else { s with mode := .block } := by
  have htrim : trim (indent.text ++ ("/*".toList ++ body)) = "/*".toList ++ trimEnd body :=
    Text.trim_indent_append indent.blank (by decide) (Text.forall_mem_of_all (by decide)) body
  have hstar : ¬ "/**".toList <+: "/*".toList ++ trimEnd body := by
    rw [show "/**".toList = "/*".toList ++ ['*'] from rfl, List.prefix_append_right_inj]
    intro h
    obtain ⟨rest, hrest⟩ := h.trans (Text.trimEnd_prefix_self body)
    exact hplain (by rw [← hrest]; rfl)
  exact step_openBlock hs (by rw [htrim]; exact List.prefix_append _ _) (by rwa [htrim])

omit hs in
/-- An opening mark closes nothing, unless a slash follows it. -/
theorem not_closing {body : List Char} (hslash : body.head? ≠ some '/')
    (hopen : ¬ "*/".toList <:+: body) (indent : Gap) :
    ¬ "*/".toList <:+: indent.text ++ ("/*".toList ++ body) := by
  have hstart : trimStart (indent.text ++ ("/*".toList ++ body)) = "/*".toList ++ body :=
    Text.trimStart_append indent.blank (by simp; decide)
  have hfirst : ¬ ['*', '/'] <+: '*' :: body := by
    rw [List.cons_prefix_cons]
    rintro ⟨-, rest, rfl⟩
    exact hslash rfl
  rw [← @Text.infix_dropWhile_iff isBlank _ (by decide) (Text.forall_mem_of_all (by decide)),
    ← trimStart, hstart]
  show ¬ ['*', '/'] <:+: '/' :: '*' :: body
  rw [List.infix_cons_iff, List.infix_cons_iff, not_or, not_or]
  exact ⟨by simp, hfirst, hopen⟩

/-- A block comment on one line. -/
theorem readFrom_blockLine {body : List Char} (hbody : body ≠ []) (hline : '\n' ∉ body)
    (hplain : body.head? ≠ some '*') (indent tail : Gap) :
    readFrom p s (indent.text ++ ("/*".toList ++ (body ++ ("*/".toList ++ tail.text))) ++ ['\n']) =
      s := by
  have hhead : (body ++ ("*/".toList ++ tail.text)).head? = body.head? := by
    simp [List.head?_append, List.head?_eq_some_head hbody]
  rw [readFrom_line (by simp [indent.oneLine, hline, tail.oneLine]),
    step_opening hs (hhead ▸ hplain), if_pos]
  exact ⟨indent.text ++ ("/*".toList ++ body), tail.text, by simp⟩

/-- A block comment that goes on after its first line. -/
theorem readFrom_blockLines {first : List Char} {rest : List (List Char)} (hrest : rest ≠ [])
    (hparts : ∀ part ∈ first :: rest, '\n' ∉ part ∧ ¬ "*/".toList <:+: part)
    (hplain : first.head? ≠ some '*') (hslash : first.head? ≠ some '/') (indent tail : Gap) :
    readFrom p s (indent.text ++ ("/*".toList ++ (Text.join ['\n'] (first :: rest) ++
      ("*/".toList ++ tail.text))) ++ ['\n']) = s := by
  obtain ⟨⟨hline, hopen⟩, hparts⟩ := List.forall_mem_cons.1 hparts
  have htext : indent.text ++ ("/*".toList ++ (Text.join ['\n'] (first :: rest) ++
      ("*/".toList ++ tail.text))) ++ ['\n'] =
      (indent.text ++ ("/*".toList ++ first)) ++
        '\n' :: (Text.join ['\n'] rest ++ ("*/".toList ++ tail.text) ++ ['\n']) := by
    simp [Text.join_cons _ _ hrest]
  have hfirst : readFrom p s (indent.text ++ ("/*".toList ++ first) ++ ['\n']) =
      { s with mode := .block } := by
    rw [readFrom_line (by simp [indent.oneLine, hline]), step_opening hs hplain,
      if_neg (not_closing hslash hopen indent)]
  rw [htext, readFrom_append_newline, hfirst, readFrom_block rfl hrest hparts tail, ← hs]

theorem readFrom_aside {a : Aside} (h : ¬ a.Misread) : readFrom p s (a.text ++ ['\n']) = s := by
  cases a with
  | blank gap => rw [Aside.text, readFrom_line gap.oneLine, step_empty hs (Text.trim_of_blank gap.blank)]
  | line indent text oneLine =>
    have htrim : trim (indent.text ++ ("//".toList ++ text)) = "//".toList ++ trimEnd text :=
      Text.trim_indent_append indent.blank (by decide) (Text.forall_mem_of_all (by decide)) text
    rw [Aside.text, readFrom_line (by simp [indent.oneLine, oneLine]),
      step_lineComment hs (by rw [htrim]; exact List.prefix_append _ _)]
  | block indent body plain unclosed tail =>
    obtain ⟨hbody, hslash⟩ : body ≠ [] ∧ ¬ (body.head? = some '/' ∧ '\n' ∈ body) := not_or.1 h
    rw [Aside.text]
    cases hsplit : splitAll (· == '\n') body with
    | nil => exact absurd hsplit (Text.splitAll_ne_nil body)
    | cons first rest =>
      have hjoin : Text.join ['\n'] (first :: rest) = body := hsplit ▸ Text.join_splitAll '\n' body
      have hparts : ∀ part ∈ first :: rest, '\n' ∉ part ∧ ¬ "*/".toList <:+: part := by
        intro part hpart
        refine ⟨fun hmem => ?_, fun hmark => unclosed ?_⟩
        · have := Text.not_sep_of_mem_splitAll (hsplit ▸ hpart) '\n' hmem
          simp at this
        · exact hmark.trans (hjoin ▸ Text.infix_join hpart ['\n'])
      by_cases hrest : rest = []
      · subst hrest
        rw [Text.join_singleton] at hjoin
        subst hjoin
        exact readFrom_blockLine hs hbody (hparts first (by simp)).1 plain indent tail
      · have hend : '\n' ∈ body := by
          rw [← hjoin, Text.join_cons _ _ hrest]
          simp
        -- what the first line begins with, the body does
        have hhead : ∀ c, first.head? = some c → body.head? = some c := by
          intro c hc
          rw [← hjoin, Text.join_cons _ _ hrest, List.head?_append, hc]
          rfl
        rw [← hjoin]
        exact readFrom_blockLines hs hrest hparts (fun hc => plain (hhead _ hc))
          (fun hc => hslash ⟨hhead _ hc, hend⟩) indent tail

end

-- ---------------------------------------------------------------------------
-- Sources with an aside put in
-- ---------------------------------------------------------------------------

/-- Where a text begins, or a line of it has just ended. -/
def AtLineEnd (text : List Char) : Prop := text = [] ∨ text.getLast? = some '\n'

instance : DecidablePred AtLineEnd := fun _ => inferInstanceAs (Decidable (_ ∨ _))

theorem exists_last_line (text : List Char) :
    ∃ front line, text = front ++ line ∧ AtLineEnd front ∧ '\n' ∉ line := by
  induction text using List.reverseRecOn with
  | nil => exact ⟨[], [], rfl, .inl rfl, by simp⟩
  | append_singleton text c ih =>
    by_cases hc : c = '\n'
    · exact ⟨text ++ [c], [], by simp, .inr (by simp [hc]), by simp⟩
    · obtain ⟨front, line, rfl, hfront, hline⟩ := ih
      exact ⟨front, line ++ [c], by simp, hfront, by simp [hline, Ne.symm hc]⟩

section
variable {p : Place} {s : State}

theorem readFrom_append (h : AtLineEnd front) (rest : List Char) :
    readFrom p s (front ++ rest) = readFrom p (readFrom p s front) rest := by
  rcases h with rfl | h
  · rfl
  · obtain ⟨front, rfl⟩ := List.getLast?_eq_some_iff.1 h
    rw [List.append_assoc, List.singleton_append, readFrom_append_newline]

/-- Ending the last line makes no difference, unless that is one line more. -/
theorem readFrom_concat_newline (text : List Char) :
    readFrom p s (text ++ ['\n']) = readFrom p s text ∨
      readFrom p s (text ++ ['\n']) = step p (readFrom p s text) [] := by
  obtain ⟨front, line, rfl, hfront, hline⟩ := exists_last_line text
  rw [List.append_assoc, readFrom_append hfront, readFrom_append hfront, readFrom_line hline]
  by_cases hne : line = []
  · exact .inr (by rw [hne]; rfl)
  · left
    rw [readFrom, readFrom, Text.lines_last hline hne]
    rfl

theorem mode_step_empty : (step p s []).mode = .code ↔ s.mode = .code := by
  cases hs : s.mode with
  | code =>
    have : step p s [] = s := step_empty hs rfl
    rw [this, hs]
  | block =>
    rw [step_block hs, if_neg (by decide), hs]
  | comment lines =>
    have : (step p s []).mode = .comment (lines ++ [[]]) := by simp only [step, hs]; rfl
    simp [this]

theorem readFrom_newline_iff (text : List Char) :
    (readFrom p s (text ++ ['\n'])).mode = .code ↔ (readFrom p s text).mode = .code := by
  rcases readFrom_concat_newline text with h | h
  · rw [h]
  · rw [h, mode_step_empty]

/-- In code, a line end more says nothing. -/
theorem readFrom_newline (h : (readFrom p s text).mode = .code) :
    readFrom p s (text ++ ['\n']) = readFrom p s text := by
  rcases readFrom_concat_newline text with h' | h'
  · exact h'
  · rw [h', step_empty h rfl]

end

/-- An aside may be put in where a line ends outside of any comment, and after the last
line of a text: the file is read as it was without it. -/
theorem parse_aside (p : Place) (before after : List Char) (aside : Aside)
    (hread : ¬ aside.Misread) (hcode : (readFrom p {} before).mode = .code) :
    (AtLineEnd before →
      parse p (String.ofList (before ++ (aside.text ++ '\n' :: after))) =
        parse p (String.ofList (before ++ after))) ∧
      parse p (String.ofList (before ++ '\n' :: aside.text)) = parse p (String.ofList before) := by
  have hended : readFrom p {} (before ++ ['\n']) = readFrom p {} before := readFrom_newline hcode
  constructor
  · intro hend
    have hsame : readFrom p {} (before ++ (aside.text ++ '\n' :: after)) =
        readFrom p {} (before ++ after) := by
      rw [readFrom_append hend, readFrom_append hend, readFrom_append_newline,
        readFrom_aside hcode hread]
    rw [parse_eq, parse_eq, String.toList_ofList, String.toList_ofList, hsame]
  · have hlast : readFrom p {} (before ++ '\n' :: aside.text ++ ['\n']) = readFrom p {} before := by
      rw [List.append_assoc, List.cons_append, readFrom_append_newline, hended,
        readFrom_aside hcode hread]
    have hsame : readFrom p {} (before ++ '\n' :: aside.text) = readFrom p {} before := by
      rw [← hlast]
      exact (readFrom_newline ((readFrom_newline_iff _).1 (by rw [hlast, hcode]))).symm
    rw [parse_eq, parse_eq, String.toList_ofList, String.toList_ofList, hsame]

def noGap : Gap := ⟨[], by simp, by simp⟩

/-- A note over two lines, between a documentation comment and what it documents. -/
def noteBlock : Aside :=
  .block ⟨"  ".toList, Text.forall_mem_of_all (by decide), by decide⟩ " a note\n * on it ".toList
    (by decide) (by decide +kernel) noGap

theorem parse_aside_note :
    ¬ noteBlock.Misread ∧ (readFrom ⟨"l", "a.ql"⟩ {} "/** d */\n".toList).mode = .code ∧
      noteBlock.text = "  /* a note\n * on it */".toList ∧
      parse ⟨"l", "a.ql"⟩
          (String.ofList ("/** d */\n".toList ++ (noteBlock.text ++ '\n' :: "fun f()".toList))) =
        parse ⟨"l", "a.ql"⟩ (String.ofList ("/** d */\n".toList ++ "fun f()".toList)) := by
  have hread : ¬ noteBlock.Misread := by
    show ¬ (_ ∨ _)
    decide
  have hcode : (readFrom ⟨"l", "a.ql"⟩ {} "/** d */\n".toList).mode = .code := by decide +kernel
  exact ⟨hread, hcode, by decide, (parse_aside ⟨"l", "a.ql"⟩ "/** d */\n".toList "fun f()".toList
    noteBlock hread hcode).1 (by decide)⟩

/-- `/**/`, which is taken to open a documentation comment. -/
def emptyBlock : Aside := .block noGap [] (by decide) (by decide) noGap

/-- A comment whose first line is `/*/`, which is taken to close it. -/
def slashBlock : Aside := .block noGap "/\nfun g()\n".toList (by decide) (by decide +kernel) noGap

/-- An aside that is misread swallows the code after it, or is taken for code itself. -/
theorem parse_misread :
    emptyBlock.text = "/**/".toList ∧ slashBlock.text = "/*/\nfun g()\n*/".toList ∧
      AtLineEnd [] ∧ (readFrom ⟨"l", "a.ql"⟩ {} []).mode = .code ∧
      parse ⟨"l", "a.ql"⟩ (String.ofList (emptyBlock.text ++ '\n' :: "fun f()".toList)) ≠
        parse ⟨"l", "a.ql"⟩ "fun f()" ∧
      parse ⟨"l", "a.ql"⟩ (String.ofList (slashBlock.text ++ '\n' :: "fun f()".toList)) ≠
        parse ⟨"l", "a.ql"⟩ "fun f()" := by
  have hlengths :
      (parse ⟨"l", "a.ql"⟩ "fun f()").items.length = 1 ∧
      (parse ⟨"l", "a.ql"⟩ (String.ofList (emptyBlock.text ++ '\n' :: "fun f()".toList))).items.length = 0 ∧
      (parse ⟨"l", "a.ql"⟩ (String.ofList (slashBlock.text ++ '\n' :: "fun f()".toList))).items.length = 2 := by
    decide +kernel
  obtain ⟨hplain, hempty, hslash⟩ := hlengths
  refine ⟨rfl, rfl, .inl rfl, rfl, fun h => ?_, fun h => ?_⟩
  · rw [h, hplain] at hempty
    cases hempty
  · rw [h, hplain] at hslash
    cases hslash

end DocSite.Source
