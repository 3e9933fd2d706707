import DocSite.Proofs.Files.Path
import DocSite.Text.Blank
import DocSite.Text.Lines

/-!
# Trimming, cutting and lines

Trimming takes nothing away but blanks, so a mark without blanks stands in a text exactly
when it stands in the trimmed text. A text is read line by line, and what stands before
the end of a line has no part in the lines after it.
-/

namespace DocSite.Text

-- ---------------------------------------------------------------------------
-- Trimming
-- ---------------------------------------------------------------------------

/-- What is dropped from the front ends where the rest begins. -/
theorem dropWhile_append_exact {p : Char → Bool} {front rest : List Char} (hfront : ∀ c ∈ front, p c)
    (hrest : ∀ c, rest.head? = some c → p c = false) : (front ++ rest).dropWhile p = rest := by
  rw [List.dropWhile_append_of_pos hfront]
  cases rest with
  | nil => rfl
  | cons c rest => exact List.dropWhile_cons_of_neg (by simp [hrest c rfl])

theorem takeWhile_append_exact {p : Char → Bool} {front rest : List Char} (hfront : ∀ c ∈ front, p c)
    (hrest : ∀ c, rest.head? = some c → p c = false) : (front ++ rest).takeWhile p = front := by
  rw [List.takeWhile_append_of_pos hfront]
  cases rest with
  | nil => simp
  | cons c rest => simp [hrest c rfl]

/-- A text is cut in one way into a front that satisfies a test and a rest whose first character
does not. -/
theorem append_inj_of_span {p : Char → Bool} {front front' rest rest' : List Char}
    (hfront : ∀ c ∈ front, p c) (hrest : ∀ c, rest.head? = some c → p c = false)
    (hfront' : ∀ c ∈ front', p c) (hrest' : ∀ c, rest'.head? = some c → p c = false)
    (h : front ++ rest = front' ++ rest') : front = front' ∧ rest = rest' := by
  constructor
  · rw [← takeWhile_append_exact hfront hrest, h, takeWhile_append_exact hfront' hrest']
  · rw [← dropWhile_append_exact hfront hrest, h, dropWhile_append_exact hfront' hrest']

theorem trimStart_append {indent s : List Char} (hindent : ∀ c ∈ indent, isBlank c)
    (hs : ∀ c, s.head? = some c → isBlank c = false) : trimStart (indent ++ s) = s :=
  dropWhile_append_exact hindent hs

theorem trimEnd_append {s tail : List Char} (htail : ∀ c ∈ tail, isBlank c)
    (hs : ∀ c, s.getLast? = some c → isBlank c = false) : trimEnd (s ++ tail) = s := by
  rw [trimEnd, List.reverse_append, dropWhile_append_exact, List.reverse_reverse]
  · exact fun c hc => htail c (List.mem_reverse.1 hc)
  · rwa [List.head?_reverse]

theorem trim_of_blank {s : List Char} (h : ∀ c ∈ s, isBlank c) : trim s = [] := by
  have hs : trimStart s = [] := by
    simpa using @trimStart_append s [] h (by simp)
  rw [trim, hs]
  rfl

theorem trim_eq_self {s : List Char} (hfirst : ∀ c, s.head? = some c → isBlank c = false)
    (hlast : ∀ c, s.getLast? = some c → isBlank c = false) : trim s = s := by
  have hstart : trimStart s = s := @trimStart_append [] s (by simp) hfirst
  have hend : trimEnd s = s := by
    simpa using @trimEnd_append s [] (by simp) hlast
  rw [trim, hstart, hend]

theorem trimEnd_prefix_self (s : List Char) : trimEnd s <+: s := by
  rw [trimEnd, ← List.reverse_suffix, List.reverse_reverse]
  exact List.dropWhile_suffix _

theorem mem_trim {s : List Char} (h : c ∈ trim s) : c ∈ s :=
  List.dropWhile_subset _ ((trimEnd_prefix_self _).subset h)

/-- What is trimmed are blanks at both ends. -/
theorem exists_append_trim (s : List Char) : ∃ front back : List Char,
    (∀ c ∈ front, isBlank c) ∧ (∀ c ∈ back, isBlank c) ∧ front ++ (trim s ++ back) = s := by
  refine ⟨s.takeWhile isBlank, ((trimStart s).reverse.takeWhile isBlank).reverse, ?_, ?_, ?_⟩
  · exact List.all_eq_true.1 List.all_takeWhile
  · intro c hc
    exact List.all_eq_true.1 List.all_takeWhile c (List.mem_reverse.1 hc)
  · rw [trim, trimEnd, ← List.reverse_append, List.takeWhile_append_dropWhile,
      List.reverse_reverse]
    exact List.takeWhile_append_dropWhile

/-- Nothing is trimmed up to a mark without blanks. -/
theorem trimEnd_mark_append {mark : List Char} (h : ∀ c ∈ mark, isBlank c = false) (s : List Char) :
    trimEnd (mark ++ s) = mark ++ trimEnd s := by
  rw [trimEnd, trimEnd, List.reverse_append, List.dropWhile_append]
  split
  · rename_i hs
    have hmark := @trimEnd_append mark [] (by simp) fun c hc => h c (List.mem_of_mem_getLast? hc)
    rw [trimEnd, List.append_nil] at hmark
    rw [List.isEmpty_iff.1 hs, hmark]
    simp
  · simp

theorem trim_indent_append {indent mark : List Char} (hindent : ∀ c ∈ indent, isBlank c)
    (hne : mark ≠ []) (h : ∀ c ∈ mark, isBlank c = false) (s : List Char) :
    trim (indent ++ (mark ++ s)) = mark ++ trimEnd s := by
  have hhead : ∀ c, (mark ++ s).head? = some c → isBlank c = false := by
    obtain ⟨d, mark, rfl⟩ := List.exists_cons_of_ne_nil hne
    intro c hc
    exact h c (by simp_all)
  rw [trim, trimStart_append hindent hhead, trimEnd_mark_append h]

/-- A mark stands in a text wherever its front of other characters ends. -/
theorem infix_dropWhile_iff {p : Char → Bool} {mark : List Char} (hne : mark ≠ [])
    (h : ∀ c ∈ mark, p c = false) (s : List Char) : mark <:+: s.dropWhile p ↔ mark <:+: s := by
  induction s with
  | nil => rfl
  | cons c s ih =>
    by_cases hc : p c
    · rw [List.dropWhile_cons_of_pos hc, ih, List.infix_cons_iff]
      have hfront : ¬ mark <+: c :: s := by
        obtain ⟨d, mark, rfl⟩ := List.exists_cons_of_ne_nil hne
        rw [List.cons_prefix_cons]
        rintro ⟨rfl, -⟩
        rw [h d (by simp)] at hc
        cases hc
      simp [hfront]
    · rw [List.dropWhile_cons_of_neg hc]

theorem infix_trim_iff {mark : List Char} (hne : mark ≠ []) (h : ∀ c ∈ mark, isBlank c = false)
    (s : List Char) : mark <:+: trim s ↔ mark <:+: s := by
  have hback : ∀ c ∈ mark.reverse, isBlank c = false := fun c hc => h c (List.mem_reverse.1 hc)
  rw [trim, trimEnd, ← List.reverse_infix, List.reverse_reverse,
    infix_dropWhile_iff (by simpa using hne) hback, List.reverse_infix, trimStart,
    infix_dropWhile_iff hne h]

-- ---------------------------------------------------------------------------
-- Cutting
-- ---------------------------------------------------------------------------

theorem cut?_cons {mark s : List Char} {c : Char} (h : ¬ mark <+: c :: s) :
    cut? mark (c :: s) = (cut? mark s).map fun parts => (c :: parts.1, parts.2) := by
  rw [cut?, if_neg (mt List.isPrefixOf_iff_prefix.1 h)]

theorem isSome_cut?_iff (mark s : List Char) : (cut? mark s).isSome ↔ mark <:+: s := by
  induction s with
  | nil => simp [cut?]
  | cons c s ih =>
    rw [cut?, List.infix_cons_iff, ← List.isPrefixOf_iff_prefix]
    split
    · rename_i h
      simp [h]
    · rename_i h
      simp [h, ih]

theorem length_of_cut? {mark s front rest : List Char} (hmark : mark ≠ [])
    (h : cut? mark s = some (front, rest)) : rest.length < s.length := by
  induction s generalizing front with
  | nil => simp [cut?, hmark] at h
  | cons c s ih =>
    rw [cut?] at h
    split at h
    · cases h
      have := List.length_pos_iff.2 hmark
      simp only [List.length_drop, List.length_cons]
      omega
    · obtain ⟨parts, hparts, heq⟩ := Option.map_eq_some_iff.1 h
      cases heq
      exact Nat.lt_succ_of_lt (ih hparts)

theorem after?_eq_some_iff {start s rest : List Char} :
    after? start s = some rest ↔ s = start ++ rest := by
  unfold after?
  constructor
  · intro h
    split at h
    · rename_i hp
      obtain ⟨t, rfl⟩ := List.isPrefixOf_iff_prefix.1 hp
      rw [List.drop_left] at h
      rw [Option.some.inj h]
    · cases h
  · rintro rfl
    simp

theorem after?_eq_none_iff {start s : List Char} : after? start s = none ↔ ¬ start <+: s := by
  rw [← List.isPrefixOf_iff_prefix]
  unfold after?
  split <;> simp_all

-- ---------------------------------------------------------------------------
-- Lines
-- ---------------------------------------------------------------------------

/-- A line without the carriage return that belongs to its end. -/
def chomp (line : List Char) : List Char :=
  match line.reverse with
  | '\r' :: front => front.reverse
  | _ => line

theorem trimEnd_concat {c : Char} (h : isBlank c) (s : List Char) :
    trimEnd (s ++ [c]) = trimEnd s := by
  simp [trimEnd, h]

theorem trim_concat {c : Char} (h : isBlank c) (s : List Char) : trim (s ++ [c]) = trim s := by
  rw [trim, trim, trimStart, trimStart, List.dropWhile_append]
  split
  · rename_i hs
    rw [List.isEmpty_iff.1 hs]
    simp [h, trimEnd]
  · exact trimEnd_concat h _

theorem trim_chomp (line : List Char) : trim (chomp line) = trim line := by
  unfold chomp
  split
  · rename_i front h
    have hline : line = front.reverse ++ ['\r'] := by simpa using congrArg List.reverse h
    rw [hline, trim_concat (by decide)]
  · rfl

theorem linesFrom_cons (seen : List Char) (c : Char) (s : List Char) :
    linesFrom seen (c :: s) =
      if c = '\n' then chomp seen.reverse :: lines s else linesFrom (c :: seen) s := by
  rw [chomp, List.reverse_reverse, lines]
  conv_lhs => unfold linesFrom
  dsimp only
  split
  · cases seen with
    | nil => rfl
    | cons d line =>
      by_cases hd : d = '\r'
      · subst hd
        rfl
      · simp [hd]
  · rfl

theorem linesFrom_append_newline (seen a b : List Char) :
    linesFrom seen (a ++ '\n' :: b) = linesFrom seen (a ++ ['\n']) ++ lines b := by
  induction a generalizing seen with
  | nil => simp [linesFrom_cons, lines, linesFrom]
  | cons c a ih =>
    rw [List.cons_append, List.cons_append, linesFrom_cons, linesFrom_cons]
    split
    · rw [List.cons_append]
      exact congrArg _ (ih [])
    · exact ih _

theorem lines_append_newline (a b : List Char) :
    lines (a ++ '\n' :: b) = lines (a ++ ['\n']) ++ lines b :=
  linesFrom_append_newline [] a b

theorem linesFrom_line {s : List Char} (h : '\n' ∉ s) (seen rest : List Char) :
    linesFrom seen (s ++ rest) = linesFrom (s.reverse ++ seen) rest := by
  induction s generalizing seen with
  | nil => rfl
  | cons c s ih =>
    obtain ⟨hc, hs⟩ := not_or.1 (mt List.mem_cons.2 h)
    rw [List.cons_append, linesFrom_cons, if_neg (Ne.symm hc), ih hs]
    simp

theorem chomp_prefix_self (line : List Char) : chomp line <+: line := by
  unfold chomp
  split
  · rename_i front h
    have hline : line = front.reverse ++ ['\r'] := by simpa using congrArg List.reverse h
    exact ⟨_, hline.symm⟩
  · exact List.prefix_rfl

theorem not_newline_of_mem_linesFrom {seen s : List Char} (hseen : '\n' ∉ seen)
    (h : line ∈ linesFrom seen s) : '\n' ∉ line := by
  induction s generalizing seen with
  | nil =>
    simp only [linesFrom] at h
    split at h
    · cases h
    · rw [List.mem_singleton.1 h]
      simpa using hseen
  | cons c s ih =>
    rw [linesFrom_cons] at h
    split at h
    · rcases List.mem_cons.1 h with rfl | h
      · exact fun hmem => hseen (by simpa using (chomp_prefix_self _).subset hmem)
      · exact ih (by simp) h
    · rename_i hc
      refine ih (fun hmem => ?_) h
      rcases List.mem_cons.1 hmem with rfl | hmem
      · exact hc rfl
      · exact hseen hmem

theorem not_newline_of_mem_lines {s : List Char} (h : line ∈ lines s) : '\n' ∉ line :=
  not_newline_of_mem_linesFrom (by simp) h

/-- A last line without an end is a line as it is. -/
theorem lines_last {s : List Char} (h : '\n' ∉ s) (hne : s ≠ []) : lines s = [s] := by
  have := linesFrom_line h [] []
  rw [List.append_nil, List.append_nil] at this
  rw [lines, this, linesFrom]
  simp [hne]

theorem lines_line {s : List Char} (h : '\n' ∉ s) : lines (s ++ ['\n']) = [chomp s] := by
  rw [lines, linesFrom_line h, linesFrom_cons, if_pos rfl]
  simp [lines, linesFrom]

theorem join_cons_cons (mark : List Char) (c : Char) (part : List Char) (parts : List (List Char)) :
    join mark ((c :: part) :: parts) = c :: join mark (part :: parts) := by
  cases parts <;> rfl

theorem infix_join {part : List Char} {parts : List (List Char)} (h : part ∈ parts)
    (mark : List Char) : part <:+: join mark parts := by
  induction parts with
  | nil => cases h
  | cons first parts ih =>
    by_cases hp : parts = []
    · subst hp
      rw [join_singleton]
      exact List.mem_singleton.1 h ▸ List.infix_rfl
    · rw [join_cons _ _ hp]
      rcases List.mem_cons.1 h with rfl | h
      · exact List.infix_append [] part _
      · exact (ih h).trans ((List.suffix_append _ _).trans (List.suffix_append _ _)).isInfix

end DocSite.Text
