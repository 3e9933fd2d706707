import DocSite.Proofs.Source.Aside
import DocSite.Proofs.Source.Declaration

/-!
# Nesting

An entity stays open from the line that declares it to the line that ends its body, and
entities are declared at depth zero only. So after every line an open entity has been
entered exactly if there is an open brace (`Nested`), and where no brace is open nothing
reaches into the lines that follow: they are read as a file of their own (`parse_append`).
-/

namespace DocSite.Source

open Text (trim)

-- ---------------------------------------------------------------------------
-- Files as lists of lines
-- ---------------------------------------------------------------------------

structure Line where
  text : List Char
  oneLine : '\n' ∉ text

namespace Line

def trimmed (l : Line) : List Char := trim l.text

/-- Outside of comments, a line that is neither blank nor begins a comment is code. -/
def isCode (l : Line) : Bool :=
  !(l.trimmed.isEmpty || "//".toList.isPrefixOf l.trimmed || "/*".toList.isPrefixOf l.trimmed)

end Line

/-- The text of a file of some lines. -/
def source (lines : List Line) : String := String.ofList (lines.flatMap fun l => l.text ++ ['\n'])

def readOn (p : Place) (s : State) (lines : List Line) : State :=
  lines.foldl (fun s l => step p s l.text) s

/-- The state after the first lines of a file. -/
def readLines (p : Place) (lines : List Line) : State := readOn p {} lines

section
variable {p : Place} {s : State}

theorem readOn_append (before after : List Line) :
    readOn p s (before ++ after) = readOn p (readOn p s before) after :=
  List.foldl_append

theorem readFrom_lines (lines : List Line) :
    readFrom p s (lines.flatMap fun l => l.text ++ ['\n']) = readOn p s lines := by
  induction lines generalizing s with
  | nil => rfl
  | cons l lines ih =>
    rw [List.flatMap_cons, List.append_assoc, List.singleton_append, readFrom_append_newline,
      readFrom_line l.oneLine, ih]
    rfl

theorem parse_source (p : Place) (lines : List Line) :
    parse p (source lines) =
      { name := fileName p.path, importPath := p.path, items := (readLines p lines).finish p } := by
  rw [parse_eq, source, String.toList_ofList, readFrom_lines]
  rfl

-- ---------------------------------------------------------------------------
-- What a line does
-- ---------------------------------------------------------------------------

theorem step_isCode {l : Line} (hmode : s.mode = .code) (hcode : l.isCode) :
    step p s l.text = codeLine p s l.trimmed := by
  simp only [Line.isCode, Bool.not_eq_true', Bool.or_eq_false_iff] at hcode
  obtain ⟨⟨hempty, hcomment⟩, hblock⟩ := hcode
  have hdoc : Text.after? "/**".toList l.trimmed = none := by
    refine Text.after?_eq_none_iff.2 fun h => ?_
    have : "/*".toList <+: l.trimmed := List.IsPrefix.trans ⟨['*'], rfl⟩ h
    rw [List.isPrefixOf_iff_prefix.2 this] at hblock
    cases hblock
  unfold Line.trimmed at *
  simp only [step, hmode, hdoc, hblock, hempty, hcomment]
  rfl

theorem codeLine_of_level {line : List Char} (h : s.depth = s.declarationDepth) :
    codeLine p s line =
      ((braces line).foldl State.brace
        (declare p { s with pending := none } line s.pending)).closeBody p := by
  have hlevel : { s with pending := none }.depth = { s with pending := none }.declarationDepth := h
  simp only [codeLine, if_pos hlevel]

theorem codeLine_of_deeper {line : List Char} (h : s.depth ≠ s.declarationDepth) :
    codeLine p s line =
      ((braces line).foldl State.brace { s with pending := none }).closeBody p := by
  have hdeeper : { s with pending := none }.depth ≠ { s with pending := none }.declarationDepth := h
  simp only [codeLine, if_neg hdeeper]

theorem commentLine_eq (lines : List (List Char)) (line : List Char) :
    ∃ (mode : Mode) (change : Option Comment → Option Comment), ∀ s : State,
      commentLine s lines line = { s with mode := mode, pending := change s.pending } := by
  unfold commentLine
  cases Text.cut? "*/".toList line with
  | none => exact ⟨_, id, fun _ => rfl⟩
  | some parts => exact ⟨_, fun _ => some _, fun _ => rfl⟩

theorem openComment_eq (rest : List Char) :
    ∃ (mode : Mode) (change : Option Comment → Option Comment), ∀ s : State, s.mode = .code →
      openComment s rest = { s with mode := mode, pending := change s.pending } := by
  unfold openComment
  cases Text.cut? "*/".toList rest with
  | none => exact ⟨_, id, fun _ _ => rfl⟩
  | some parts => exact ⟨.code, fun _ => some _, fun s hs => by rw [← hs]⟩

/-- A line that is not code changes nothing but the mode and what is pending, and nothing
else has a say in that. -/
theorem step_other {l : Line} {m : Mode} (h : ¬ (m = .code ∧ l.isCode = true)) :
    ∃ (mode : Mode) (change : Option Comment → Option Comment), ∀ s : State, s.mode = m →
      step p s l.text = { s with mode := mode, pending := change s.pending } := by
  have hsame : ∀ s : State, s.mode = m → s = { s with mode := m, pending := id s.pending } := by
    rintro s rfl
    rfl
  unfold step
  dsimp only
  cases m with
  | comment lines =>
    obtain ⟨mode, change, heq⟩ := commentLine_eq lines l.trimmed
    refine ⟨mode, change, fun s hs => ?_⟩
    rw [hs]
    exact heq s
  | block =>
    by_cases hclosed : (Text.cut? "*/".toList (trim l.text)).isSome
    · exact ⟨.code, id, fun s hs => by rw [hs]; exact if_pos hclosed⟩
    · exact ⟨.block, id, fun s hs => by rw [hs]; exact (if_neg hclosed).trans (hsame s hs)⟩
  | code =>
    cases hdoc : Text.after? "/**".toList (trim l.text) with
    | some rest =>
      obtain ⟨mode, change, heq⟩ := openComment_eq rest
      exact ⟨mode, change, fun s hs => by rw [hs]; exact heq s hs⟩
    | none =>
      by_cases hblock : "/*".toList.isPrefixOf (trim l.text)
      · by_cases hclosed : (Text.cut? "*/".toList (trim l.text)).isSome
        · refine ⟨.code, id, fun s hs => ?_⟩
          rw [hs]
          exact ((if_pos hblock).trans (if_pos hclosed)).trans (hsame s hs)
        · refine ⟨.block, id, fun s hs => ?_⟩
          rw [hs]
          exact (if_pos hblock).trans (if_neg hclosed)
      · have hblank : (trim l.text).isEmpty || "//".toList.isPrefixOf (trim l.text) := by
          by_contra hcode
          exact h ⟨rfl, by simp_all [Line.isCode, Line.trimmed]⟩
        refine ⟨.code, id, fun s hs => ?_⟩
        rw [hs]
        exact ((if_neg hblock).trans (if_pos hblank)).trans (hsame s hs)

theorem prefix_of_keyword? {word s rest : List Char} (h : keyword? word s = some rest) :
    word <+: s := by
  unfold keyword? at h
  split at h
  · rename_i hafter
    exact ⟨_, (Text.after?_eq_some_iff.1 hafter).symm⟩
  · cases h

/-- A line that declares an entity begins like no function. -/
theorem functionLine?_of_entityLine? {line : List Char} (h : entityLine? line = some name) :
    functionLine? line = none := by
  simp only [entityLine?, Option.bind_eq_bind, Option.bind_eq_some_iff] at h
  obtain ⟨rest, hkeyword, -⟩ := h
  obtain ⟨tail, rfl⟩ := prefix_of_keyword? hkeyword
  exact functionLine?_eq_none rfl rfl rfl

/-- What a line of code declares is an entity, where none is open, or at most one item. -/
theorem declare_cases (p : Place) (s : State) (line : List Char) (doc : Option Comment) :
    (∃ name, s.entity = none ∧ entityLine? line = some name ∧
      declare p s line doc = { s with entity := some ⟨name, doc.getD {}, s.depth + 1, false, []⟩ }) ∨
    (s.entity = none → entityLine? line = none) ∧
      (declare p s line doc = s ∨ ∃ i, declare p s line doc = s.push i) := by
  cases hfunction : functionLine? line with
  | some f =>
    have hpush : declare p s line doc = s.push (f.item p s.entity.isSome (doc.getD {})) := by
      simp only [declare, hfunction]
    refine .inr ⟨fun _ => ?_, .inr ⟨_, hpush⟩⟩
    cases hentity : entityLine? line with
    | none => rfl
    | some name => simp [functionLine?_of_entityLine? hentity] at hfunction
  | none =>
    unfold declare
    simp only [hfunction]
    split
    · rename_i name hopen hname
      exact .inl ⟨name, hopen, hname, rfl⟩
    · rename_i hno
      refine .inr ⟨fun hopen => ?_, ?_⟩
      · cases hentity : entityLine? line with
        | none => rfl
        | some name => exact absurd hentity (hno name hopen)
      · split
        · exact .inr ⟨_, rfl⟩
        · split
          · exact .inr ⟨_, rfl⟩
          · exact .inl rfl

end

-- ---------------------------------------------------------------------------
-- Braces
-- ---------------------------------------------------------------------------

/-- A brace that closes nothing leaves the depth at zero. -/
def Brace.move (depth : Nat) : Brace → Nat
  | .opening => depth + 1
  | .closing => depth - 1

/-- The depth after some braces. -/
def depthAfter (depth : Nat) (bs : List Brace) : Nat := bs.foldl Brace.move depth

theorem opening_of_depthAfter {bs : List Brace} (h : 0 < depthAfter d bs) : 0 < d ∨ .opening ∈ bs := by
  induction bs generalizing d with
  | nil => exact .inl h
  | cons b bs ih =>
    cases b with
    | opening => exact .inr (by simp)
    | closing =>
      rcases ih h with h | h
      · exact .inl (by simp only [Brace.move] at h; omega)
      · exact .inr (by simp [h])

/-- An entity after some braces: any that opens enters its body. -/
def OpenEntity.enter (bs : List Brace) (e : OpenEntity) : OpenEntity :=
  { e with entered := e.entered || bs.contains .opening }

/-- Bodies of entities are one level deep, so no opening brace can miss them. -/
theorem foldl_brace {s : State} (h : ∀ e, s.entity = some e → e.bodyDepth = 1) (bs : List Brace) :
    bs.foldl State.brace s =
      { s with depth := depthAfter s.depth bs, entity := s.entity.map (·.enter bs) } := by
  obtain ⟨items, entity, mode, pending, depth⟩ := s
  induction bs generalizing entity depth with
  | nil => cases entity <;> simp [depthAfter, OpenEntity.enter]
  | cons b bs ih =>
    rw [List.foldl_cons]
    cases entity with
    | none =>
      cases b with
      | opening => exact ih none _ (by simp)
      | closing => exact ih none _ (by simp)
    | some e =>
      obtain ⟨name, comment, body, entered, inside⟩ := e
      obtain rfl : body = 1 := h _ rfl
      cases b with
      | opening =>
        have := ih (some ⟨name, comment, 1, true, inside⟩) (depth + 1) (by simp)
        simpa [State.brace, OpenEntity.enter, depthAfter, Brace.move] using this
      | closing =>
        have := ih (some ⟨name, comment, 1, entered, inside⟩) (depth - 1) (by simp)
        simpa [State.brace, OpenEntity.enter, depthAfter, Brace.move] using this

-- ---------------------------------------------------------------------------
-- The invariant
-- ---------------------------------------------------------------------------

/-- Between two lines: an open entity stands at the top, and a brace is open exactly if
its body has been entered. -/
structure Nested (s : State) : Prop where
  body : ∀ e, s.entity = some e → e.bodyDepth = 1
  entered : ∀ e, s.entity = some e → (e.entered = true ↔ 0 < s.depth)

section
variable {p : Place} {s : State}

theorem Nested.push (h : Nested s) (i : Item) : Nested (s.push i) := by
  unfold State.push
  split
  · rename_i e he
    refine ⟨fun _ ho => ?_, fun _ ho => ?_⟩
    · cases ho
      exact h.body e he
    · cases ho
      exact h.entered e he
  · exact ⟨h.body, h.entered⟩

theorem Nested.declare (h : Nested s) (hdepth : s.depth = s.declarationDepth) (line : List Char)
    (doc : Option Comment) : Nested (declare p s line doc) := by
  obtain ⟨name, hnone, -, heq⟩ | ⟨-, heq | ⟨i, heq⟩⟩ := declare_cases p s line doc
  · have hzero : s.depth = 0 := by rw [hdepth, State.declarationDepth, hnone]
    rw [heq]
    refine ⟨fun _ ho => ?_, fun _ ho => ?_⟩
    · cases ho
      simp [hzero]
    · cases ho
      simp [hzero]
  · rwa [heq]
  · rw [heq]
    exact h.push i

/-- At the end of a line, what has been entered and left is closed. -/
theorem Nested.closeBody (h : Nested s) (bs : List Brace) :
    Nested ((bs.foldl State.brace s).closeBody p) := by
  rw [foldl_brace h.body]
  cases hs : s.entity with
  | none => exact ⟨by simp [State.closeBody], by simp [State.closeBody]⟩
  | some e =>
    have hbody := h.body e hs
    simp only [State.closeBody, Option.map_some]
    split
    · exact ⟨by simp, by simp⟩
    · rename_i hopen
      refine ⟨fun _ ho => ?_, fun _ ho => ?_⟩
      · cases ho
        exact hbody
      · cases ho
        constructor
        · intro hentered
          have : ¬ depthAfter s.depth bs < e.bodyDepth := fun hlt => hopen ⟨hentered, hlt⟩
          show 0 < depthAfter s.depth bs
          omega
        · intro hdepth
          simp only [OpenEntity.enter, Bool.or_eq_true, List.contains_iff_mem]
          exact (opening_of_depthAfter hdepth).imp_left (h.entered e hs).2

theorem Nested.step (h : Nested s) (l : Line) : Nested (step p s l.text) := by
  by_cases hcode : s.mode = .code ∧ l.isCode = true
  · have hstart : Nested { s with pending := none } := ⟨h.body, h.entered⟩
    rw [step_isCode hcode.1 hcode.2]
    by_cases hlevel : s.depth = s.declarationDepth
    · rw [codeLine_of_level hlevel]
      exact (hstart.declare hlevel _ _).closeBody _
    · rw [codeLine_of_deeper hlevel]
      exact hstart.closeBody _
  · obtain ⟨mode, change, heq⟩ := @step_other p l s.mode hcode
    rw [heq s rfl]
    exact ⟨h.body, h.entered⟩

theorem Nested.readOn (h : Nested s) (lines : List Line) : Nested (readOn p s lines) := by
  induction lines generalizing s with
  | nil => exact h
  | cons l lines ih => exact ih (h.step l)

theorem nested_readLines (p : Place) (lines : List Line) : Nested (readLines p lines) :=
  Nested.readOn ⟨by simp, by simp⟩ lines

end

-- ---------------------------------------------------------------------------
-- The entity declared last
-- ---------------------------------------------------------------------------

/-- Whether a line declares an entity: it is code, at depth zero, outside of any other. -/
def declaresEntity (s : State) (l : Line) : Bool :=
  s.mode == .code && l.isCode && s.depth == 0 && s.entity.isNone && (entityLine? l.trimmed).isSome

/-- Whether a line has an opening brace that counts. -/
def opensBrace (s : State) (l : Line) : Bool :=
  s.mode == .code && l.isCode && (braces l.trimmed).contains .opening

/-- What a line adds to the notes on the entity declared last. -/
def noteLine (s : State) (noted : Option Bool) (l : Line) : Option Bool :=
  let noted := if declaresEntity s l then some false else noted
  if opensBrace s l then noted.map fun _ => true else noted

def noteOn (p : Place) (s : State) (noted : Option Bool) : List Line → Option Bool
  | [] => noted
  | l :: lines => noteOn p (step p s l.text) (noteLine s noted l) lines

/-- Whether an opening brace has come since the last entity was declared, if one was. -/
def lastBraced (p : Place) (lines : List Line) : Option Bool := noteOn p {} none lines

/-- Notes that agree with a state: an entity without a brace is open still. -/
structure Noted (s : State) (noted : Option Bool) : Prop where
  opened : ∀ e, s.entity = some e → noted = some e.entered
  closed : s.entity = none → noted ≠ some false

section
variable {p : Place} {s : State} {noted : Option Bool}

theorem Noted.push (h : Noted s noted) (i : Item) : Noted (s.push i) noted := by
  unfold State.push
  split
  · rename_i e he
    refine ⟨fun _ ho => ?_, nofun⟩
    cases ho
    exact h.opened e he
  · exact ⟨h.opened, h.closed⟩

theorem Noted.declare (h : Noted s noted) (line : List Char) (doc : Option Comment) :
    Noted (declare p s line doc)
      (if s.entity.isNone && (entityLine? line).isSome then some false else noted) := by
  obtain ⟨name, hnone, hname, heq⟩ | ⟨hno, heq⟩ := declare_cases p s line doc
  · rw [heq, hnone, hname]
    exact ⟨fun _ ho => by cases ho; rfl, nofun⟩
  · have hnot : (s.entity.isNone && (entityLine? line).isSome) = false := by
      cases hs : s.entity with
      | none => simp [hno hs]
      | some e => rfl
    rw [hnot]
    rcases heq with heq | ⟨i, heq⟩
    · rwa [heq]
    · rw [heq]
      exact h.push i

theorem Noted.closeBody (h : Noted s noted) (hbody : ∀ e, s.entity = some e → e.bodyDepth = 1)
    (bs : List Brace) :
    Noted ((bs.foldl State.brace s).closeBody p)
      (if bs.contains .opening then noted.map fun _ => true else noted) := by
  rw [foldl_brace hbody]
  cases hs : s.entity with
  | none =>
    refine ⟨by simp [State.closeBody], fun _ => ?_⟩
    have := h.closed hs
    split
    · simp
    · exact this
  | some e =>
    obtain rfl := h.opened e hs
    have hnoted : (if bs.contains .opening then (some e.entered).map fun _ => true
        else some e.entered) = some (e.enter bs).entered := by
      unfold OpenEntity.enter
      cases bs.contains .opening with
      | true => simp
      | false => simp
    rw [hnoted]
    simp only [State.closeBody, Option.map_some]
    split
    · rename_i hclosed
      exact ⟨by simp, fun _ => by simp [hclosed.1]⟩
    · refine ⟨fun _ ho => ?_, by simp⟩
      cases ho
      rfl

/-- A line of code declares an entity where declarations are looked for, or not at all. -/
theorem declaresEntity_eq {l : Line} (hmode : s.mode = .code) (hcode : l.isCode) :
    declaresEntity s l =
      (decide (s.depth = s.declarationDepth) && (s.entity.isNone && (entityLine? l.trimmed).isSome)) := by
  cases hs : s.entity with
  | none =>
    have hzero : (s.depth == 0) = decide (s.depth = 0) := rfl
    simp [declaresEntity, State.declarationDepth, hmode, hcode, hs, hzero]
  | some e => simp [declaresEntity, hs]

theorem Noted.step (h : Noted s noted) (hs : Nested s) (l : Line) :
    Noted (step p s l.text) (noteLine s noted l) := by
  by_cases hcode : s.mode = .code ∧ l.isCode = true
  · obtain ⟨hmode, hcode⟩ := hcode
    have hnote : noteLine s noted l =
        if (braces l.trimmed).contains .opening then
          (if declaresEntity s l then some false else noted).map fun _ => true
        else if declaresEntity s l then some false else noted := by
      simp [noteLine, opensBrace, hmode, hcode]
    have hstart : Nested { s with pending := none } := ⟨hs.body, hs.entered⟩
    have hnoted : Noted { s with pending := none } noted := ⟨h.opened, h.closed⟩
    rw [step_isCode hmode hcode, hnote, declaresEntity_eq hmode hcode]
    by_cases hlevel : s.depth = s.declarationDepth
    · rw [codeLine_of_level hlevel]
      refine Noted.closeBody ?_ (hstart.declare hlevel _ _).body _
      simpa [hlevel] using hnoted.declare l.trimmed s.pending
    · rw [codeLine_of_deeper hlevel]
      refine Noted.closeBody ?_ hstart.body _
      simpa [hlevel] using hnoted
  · have hnote : noteLine s noted l = noted := by
      have hmode : (s.mode == .code && l.isCode) = false := by simpa using hcode
      simp [noteLine, declaresEntity, opensBrace, hmode]
    obtain ⟨mode, change, heq⟩ := @step_other p l s.mode hcode
    rw [heq s rfl, hnote]
    exact ⟨h.opened, h.closed⟩

theorem Noted.readOn (h : Noted s noted) (hs : Nested s) (lines : List Line) :
    Noted (readOn p s lines) (noteOn p s noted lines) := by
  induction lines generalizing s noted with
  | nil => exact h
  | cons l lines ih => exact ih (h.step hs l) (hs.step l)

theorem noted_readLines (p : Place) (lines : List Line) :
    Noted (readLines p lines) (lastBraced p lines) :=
  Noted.readOn ⟨by simp, by simp⟩ ⟨by simp, by simp⟩ lines

end

-- ---------------------------------------------------------------------------
-- Items are only added
-- ---------------------------------------------------------------------------

/-- A state in which some items came first. -/
def State.below (front : List Item) (s : State) : State := { s with items := front ++ s.items }

section
variable {p : Place} {s : State} {front : List Item}

theorem push_below (i : Item) : (s.below front).push i = (s.push i).below front := by
  cases hs : s.entity with
  | none => simp [State.push, State.below, hs]
  | some e => simp [State.push, State.below, hs]

theorem declare_below (line : List Char) (doc : Option Comment) :
    declare p (s.below front) line doc = (declare p s line doc).below front := by
  unfold declare
  dsimp only
  have hentity : (s.below front).entity = s.entity := rfl
  rw [hentity]
  split
  · exact push_below _
  · split
    · rfl
    · split
      · exact push_below _
      · split
        · exact push_below _
        · rfl

theorem foldl_brace_below (bs : List Brace) :
    bs.foldl State.brace (s.below front) = (bs.foldl State.brace s).below front := by
  induction bs generalizing s with
  | nil => rfl
  | cons b bs ih =>
    rw [List.foldl_cons, List.foldl_cons, ← ih]
    cases b with
    | opening => rfl
    | closing => rfl

theorem closeBody_below : (s.below front).closeBody p = (s.closeBody p).below front := by
  cases hs : s.entity with
  | none => simp [State.closeBody, State.below, hs]
  | some e =>
    simp only [State.closeBody, State.below, hs]
    split
    · simp
    · rw [hs]

theorem codeLine_below (line : List Char) :
    codeLine p (s.below front) line = (codeLine p s line).below front := by
  by_cases hlevel : s.depth = s.declarationDepth
  · rw [codeLine_of_level hlevel, @codeLine_of_level p (s.below front) line hlevel, ← closeBody_below,
      ← foldl_brace_below, ← declare_below]
    rfl
  · rw [codeLine_of_deeper hlevel, @codeLine_of_deeper p (s.below front) line hlevel,
      ← closeBody_below, ← foldl_brace_below]
    rfl

theorem step_below (l : Line) : step p (s.below front) l.text = (step p s l.text).below front := by
  by_cases hcode : s.mode = .code ∧ l.isCode = true
  · rw [step_isCode hcode.1 hcode.2, @step_isCode p (s.below front) l hcode.1 hcode.2, codeLine_below]
  · obtain ⟨mode, change, heq⟩ := @step_other p l s.mode hcode
    rw [heq s rfl, heq (s.below front) rfl]
    rfl

theorem readOn_below (lines : List Line) :
    readOn p (s.below front) lines = (readOn p s lines).below front := by
  induction lines generalizing s with
  | nil => rfl
  | cons l lines ih =>
    have hstep : readOn p (s.below front) (l :: lines) = readOn p ((step p s l.text).below front) lines :=
      congrArg (readOn p · lines) (step_below l)
    rw [hstep, ih]
    rfl

theorem finish_below : (s.below front).finish p = front ++ s.finish p := by
  cases hs : s.entity with
  | none => simp [State.finish, State.below, hs]
  | some e => simp [State.finish, State.below, hs]

end

-- ---------------------------------------------------------------------------
-- Files put together
-- ---------------------------------------------------------------------------

/-- After every line, an entity that has been entered has a brace open. So where none is,
outside of comments, and the last entity has had its brace, no entity is open, and the
lines that follow are read as a file of their own. -/
theorem parse_append (p : Place) (first second : List Line) :
    (∀ e, (readLines p first).entity = some e →
      (e.entered = true ↔ lastBraced p first = some true) ∧
        (e.entered = true → 1 ≤ (readLines p first).depth)) ∧
    ((readLines p first).mode = .code → (readLines p first).pending = none →
      (readLines p first).depth = 0 → lastBraced p first ≠ some false →
      (readLines p first).entity = none ∧
        (parse p (source (first ++ second))).items =
          (parse p (source first)).items ++ (parse p (source second)).items) := by
  have hnested := nested_readLines p first
  have hnoted := noted_readLines p first
  refine ⟨fun e he => ⟨?_, (hnested.entered e he).1⟩, fun hmode hpending hdepth hbraced => ?_⟩
  · rw [hnoted.opened e he, Option.some.injEq]
  · have hnone : (readLines p first).entity = none := by
      cases hs : (readLines p first).entity with
      | none => rfl
      | some e =>
        have hentered : e.entered = true := by
          simpa [hnoted.opened e hs] using hbraced
        have := (hnested.entered e hs).1 hentered
        omega
    obtain ⟨items, hstate⟩ : ∃ items, readLines p first = State.below items {} := by
      generalize readLines p first = s at *
      obtain ⟨items, entity, mode, pending, depth⟩ := s
      subst hmode hpending hdepth hnone
      exact ⟨items, by simp [State.below]⟩
    have hboth : readLines p (first ++ second) = (readLines p second).below items := by
      rw [readLines, readOn_append, ← readLines, hstate, readOn_below]
      rfl
    refine ⟨hnone, ?_⟩
    simp only [parse_source, hboth, hstate, finish_below]
    simp [State.finish]

def braceLine : Line := ⟨"\x7d".toList, by decide⟩

/-- A brace that closes nothing, an entity on one line, and one whose brace comes late. -/
def closedLines : List Line :=
  [braceLine, ⟨"entity Empty \x7b\x7d".toList, by decide⟩,
    ⟨"entity Box".toList, by decide⟩, ⟨"\x7b".toList, by decide⟩, ⟨"Box(n)".toList, by decide⟩,
    braceLine]

def callLine : Line := ⟨"fun f()".toList, by decide⟩

theorem parse_append_boxes :
    (∃ e, (readLines ⟨"l", "a.ql"⟩ (closedLines.take 4)).entity = some e ∧ e.entered = true ∧
      1 ≤ (readLines ⟨"l", "a.ql"⟩ (closedLines.take 4)).depth) ∧
    (readLines ⟨"l", "a.ql"⟩ closedLines).mode = .code ∧
      (readLines ⟨"l", "a.ql"⟩ closedLines).pending = none ∧
      (readLines ⟨"l", "a.ql"⟩ closedLines).depth = 0 ∧
      lastBraced ⟨"l", "a.ql"⟩ closedLines = some true ∧
      (parse ⟨"l", "a.ql"⟩ (source (closedLines ++ [callLine]))).items =
        (parse ⟨"l", "a.ql"⟩ (source closedLines)).items ++
          (parse ⟨"l", "a.ql"⟩ (source [callLine])).items := by
  have hopen : ((readLines ⟨"l", "a.ql"⟩ (closedLines.take 4)).entity.any (·.entered)) = true := by
    decide +kernel
  obtain ⟨e, he, hentered⟩ := (Option.any_eq_true _ _).1 hopen
  have hend : (readLines ⟨"l", "a.ql"⟩ closedLines).mode = .code ∧
      (readLines ⟨"l", "a.ql"⟩ closedLines).pending = none ∧
      (readLines ⟨"l", "a.ql"⟩ closedLines).depth = 0 ∧
      lastBraced ⟨"l", "a.ql"⟩ closedLines = some true := by decide +kernel
  obtain ⟨hmode, hpending, hdepth, hbraced⟩ := hend
  refine ⟨⟨e, he, hentered, ?_⟩, hmode, hpending, hdepth, hbraced, ?_⟩
  · exact ((parse_append ⟨"l", "a.ql"⟩ (closedLines.take 4) []).1 e he).2 hentered
  · exact ((parse_append ⟨"l", "a.ql"⟩ closedLines [callLine]).2 hmode hpending hdepth
      (by simp [hbraced])).2

end DocSite.Source
