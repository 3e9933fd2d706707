import DocSite.Proofs.Source.Nesting

/-!
# Bodies

Deeper than declarations stand, a line of code is only looked at for its braces. If these
leave the depth as it was, the line may as well not be there (`parse_bodyLine`): all it
does is to take a pending comment, and no line that follows could have put that to use.
-/

namespace DocSite.Source

/-- States that differ at most in the pending comment, and that only in a body. -/
inductive Alike (s : State) : State → Prop where
  | refl : Alike s s
  | pending (hdeep : s.declarationDepth < s.depth) (c : Option Comment) :
      Alike s { s with pending := c }

section
variable {p : Place} {s t : State}

theorem Alike.step (h : Alike s t) (l : Line) : Alike (step p s l.text) (step p t l.text) := by
  cases h with
  | refl => exact .refl
  | pending hdeep c =>
    by_cases hcode : s.mode = .code ∧ l.isCode = true
    · -- code takes the comment and drops it
      have hother : { s with pending := c }.mode = .code := hcode.1
      have hdeeper : { s with pending := c }.depth ≠ { s with pending := c }.declarationDepth :=
        Nat.ne_of_gt hdeep
      rw [step_isCode hcode.1 hcode.2, step_isCode hother hcode.2,
        codeLine_of_deeper (Nat.ne_of_gt hdeep), codeLine_of_deeper hdeeper]
      exact .refl
    · obtain ⟨mode, change, heq⟩ := @step_other p l s.mode hcode
      rw [heq s rfl, heq { s with pending := c } rfl]
      exact @Alike.pending { s with mode := mode, pending := change s.pending } hdeep (change c)

theorem Alike.readOn (h : Alike s t) (lines : List Line) :
    Alike (readOn p s lines) (readOn p t lines) := by
  induction lines generalizing s t with
  | nil => exact h
  | cons l lines ih => exact ih (h.step l)

theorem Alike.finish_eq (h : Alike s t) : s.finish p = t.finish p := by
  cases h with
  | refl => rfl
  | pending hdeep c => rfl

theorem OpenEntity.enter_eq_self {e : OpenEntity} (h : e.entered = true) (bs : List Brace) :
    e.enter bs = e := by
  obtain ⟨name, comment, body, entered, items⟩ := e
  obtain rfl : entered = true := h
  rfl

/-- In a body, where an open entity has been entered, braces move the depth only. -/
theorem step_bodyLine {l : Line} (hs : Nested s) (hcode : l.isCode) (hmode : s.mode = .code)
    (hdeep : s.declarationDepth < s.depth)
    (hbraces : depthAfter s.depth (braces l.trimmed) = s.depth) :
    step p s l.text = { s with pending := none } := by
  have hbody : ∀ e, { s with pending := none }.entity = some e → e.bodyDepth = 1 := hs.body
  rw [step_isCode hmode hcode, codeLine_of_deeper (Nat.ne_of_gt hdeep), foldl_brace hbody]
  dsimp only
  rw [hbraces]
  cases he : s.entity with
  | none => rfl
  | some e =>
    have hpos : 0 < s.depth := by omega
    have hentered := OpenEntity.enter_eq_self ((hs.entered e he).2 hpos) (braces l.trimmed)
    have hopen : ¬ s.depth < e.bodyDepth := by
      rw [hs.body e he]
      omega
    simp only [Option.map_some, hentered, State.closeBody, hopen, and_false, ↓reduceIte]

end

/-- A line of code in a body whose braces make up for each other says nothing. -/
theorem parse_bodyLine (p : Place) (before after : List Line) (l : Line) (hcode : l.isCode = true)
    (hmode : (readLines p before).mode = .code)
    (hdeep : (readLines p before).declarationDepth < (readLines p before).depth)
    (hbraces : depthAfter (readLines p before).depth (braces l.trimmed) = (readLines p before).depth) :
    parse p (source (before ++ l :: after)) = parse p (source (before ++ after)) := by
  have hline : step p (readLines p before) l.text = { readLines p before with pending := none } :=
    step_bodyLine (nested_readLines p before) hcode hmode hdeep hbraces
  have hwith : readLines p (before ++ l :: after) =
      readOn p { readLines p before with pending := none } after := by
    rw [← hline]
    exact readOn_append before (l :: after)
  have hwithout : readLines p (before ++ after) = readOn p (readLines p before) after :=
    readOn_append before after
  have halike := (Alike.pending hdeep none).readOn (p := p) after
  rw [parse_source, parse_source, hwith, hwithout, halike.finish_eq]

/-- The body of a function in an entity, up to a comment that nothing there can take. -/
def bodyStart : List Line :=
  [⟨"entity Box \x7b".toList, by decide⟩, ⟨"fun f() \x7b".toList, by decide⟩,
    ⟨"/** lost */".toList, by decide⟩]

/-- Declarations, a literal and braces, all in one line. -/
def bodyText : Line := ⟨"\x7d entity Fake \x7b fun g() \x7b s = \"\x7d\" \x7d".toList, by decide⟩

def bodyEnd : List Line := [braceLine, ⟨"int n".toList, by decide⟩, braceLine]

theorem parse_bodyLine_fake :
    bodyText.isCode = true ∧ (readLines ⟨"l", "a.ql"⟩ bodyStart).mode = .code ∧
      (readLines ⟨"l", "a.ql"⟩ bodyStart).declarationDepth < (readLines ⟨"l", "a.ql"⟩ bodyStart).depth ∧
      depthAfter (readLines ⟨"l", "a.ql"⟩ bodyStart).depth (braces bodyText.trimmed) =
        (readLines ⟨"l", "a.ql"⟩ bodyStart).depth ∧
      parse ⟨"l", "a.ql"⟩ (source (bodyStart ++ bodyText :: bodyEnd)) =
        parse ⟨"l", "a.ql"⟩ (source (bodyStart ++ bodyEnd)) := by
  have hcode : bodyText.isCode = true := by decide +kernel
  have hmode : (readLines ⟨"l", "a.ql"⟩ bodyStart).mode = .code := by decide +kernel
  have hdeep : (readLines ⟨"l", "a.ql"⟩ bodyStart).declarationDepth <
      (readLines ⟨"l", "a.ql"⟩ bodyStart).depth := by decide +kernel
  have hbraces : depthAfter (readLines ⟨"l", "a.ql"⟩ bodyStart).depth (braces bodyText.trimmed) =
      (readLines ⟨"l", "a.ql"⟩ bodyStart).depth := by decide +kernel
  exact ⟨hcode, hmode, hdeep, hbraces,
    parse_bodyLine ⟨"l", "a.ql"⟩ bodyStart bodyEnd bodyText hcode hmode hdeep hbraces⟩

end DocSite.Source
