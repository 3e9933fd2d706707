import DocSite.Page.Link
import DocSite.Proofs.Source.Aside
import DocSite.Proofs.Source.Declaration
import DocSite.Proofs.Source.Reader
import DocSite.Proofs.Text.Form

/-!
# Signatures read back

A signature is a declaration itself: read as a file of one line, the signature of a
function that was read is that function again, and so is a constructor's between the
lines of its entity (`parse_signature`). A signature, and so the anchor made of it, tells
functions apart by all that they are shown with.
-/

namespace DocSite

-- ---------------------------------------------------------------------------
-- Signatures as lines
-- ---------------------------------------------------------------------------

/-- The line that declares a function. -/
def FunctionSubject.line (f : FunctionSubject) : Source.FunctionLine :=
  ⟨⟨f.isNative, f.isStatic⟩, f.name, f.params, f.on⟩

theorem FunctionSubject.target_eq_on {f : FunctionSubject} (h : f.line.Tidy) : f.target = f.on := by
  cases hon : f.on with
  | none => simp [target, hon]
  | some type =>
    have hne : type ≠ "" := fun h' => (h.on type hon).nonempty (by simp [h'])
    simp [target, hon, hne]

theorem FunctionSubject.toList_signature {f : FunctionSubject} (h : f.line.Tidy) :
    f.signature.toList = f.line.text := by
  rw [signature, f.target_eq_on h]
  cases hon : f.on <;> cases hnative : f.isNative <;> cases hstatic : f.isStatic <;>
    simp [line, Source.FunctionLine.text, Source.Modifiers.text, Source.onText, Source.paramText,
      Text.join, List.intercalate, hon, hnative, hstatic]

theorem ConstructorSubject.toList_signature (c : ConstructorSubject) :
    c.signature.toList = c.name.toList ++ Source.paramText c.params := by
  simp [signature, Source.paramText, Text.join, List.intercalate]

namespace Source

open Text (isBlank isWord trim)

-- ---------------------------------------------------------------------------
-- Lines of code
-- ---------------------------------------------------------------------------

section
variable {p : Place} {s : State}

theorem finish_closeBody : (s.closeBody p).finish p = s.finish p := by
  unfold State.closeBody
  split
  · rename_i e he
    split
    · simp [State.finish, he]
    · rfl
  · rfl

theorem finish_brace (b : Brace) : (s.brace b).finish p = s.finish p := by
  cases b with
  | closing => rfl
  | opening =>
    cases he : s.entity with
    | none => simp [State.finish, State.brace, he]
    | some e =>
      simp only [State.finish, State.brace, he, Option.map_some]
      split <;> rfl

theorem finish_braces (bs : List Brace) : (bs.foldl State.brace s).finish p = s.finish p := by
  induction bs generalizing s with
  | nil => rfl
  | cons b bs ih => rw [List.foldl_cons, ih, finish_brace]

/-- The braces of a line come after what it declares. -/
theorem finish_codeLine (h : s.depth = s.declarationDepth) (line : List Char) :
    (codeLine p s line).finish p =
      (declare p { s with pending := none } line s.pending).finish p := by
  rw [codeLine, finish_closeBody, finish_braces]
  exact congrArg (State.finish p) (if_pos h)

theorem finish_codeLine_of_declares_nothing
    (h : declare p { s with pending := none } line s.pending = { s with pending := none }) :
    (codeLine p s line).finish p = s.finish p := by
  rw [codeLine, finish_closeBody, finish_braces]
  dsimp only
  split
  · rw [h]
    rfl
  · rfl

/-- A line of code as it stands trimmed: it begins with a word. -/
structure IsCode (line : List Char) : Prop where
  first : ∃ c, line.head? = some c ∧ isWord c
  last : ∃ c, line.getLast? = some c ∧ isBlank c = false
  oneLine : '\n' ∉ line

theorem IsCode.nonempty (h : IsCode line) : line ≠ [] := by
  rintro rfl
  obtain ⟨c, hc, -⟩ := h.first
  cases hc

theorem IsCode.trim_eq (h : IsCode line) : trim line = line := by
  obtain ⟨c, hc, hword⟩ := h.first
  obtain ⟨d, hd, hblank⟩ := h.last
  refine Text.trim_eq_self (fun c' hc' => ?_) fun d' hd' => ?_
  · rw [← Option.some.inj (hc.symm.trans hc')]
    exact Text.isBlank_eq_false_of_isWord hword
  · rwa [← Option.some.inj (hd.symm.trans hd')]

theorem step_code {line : List Char} (hmode : s.mode = .code) (h : IsCode line) :
    step p s line = codeLine p s line := by
  obtain ⟨c, hc, hword⟩ := h.first
  have hslash : c ≠ '/' := fun heq => by simp [heq, show isWord '/' = false from rfl] at hword
  obtain ⟨d, rest, hline⟩ := List.exists_cons_of_ne_nil h.nonempty
  obtain rfl : d = c := by simpa [hline] using hc
  have hmark : ∀ mark, ¬ '/' :: mark <+: line := fun mark hprefix => by
    rw [hline, List.cons_prefix_cons] at hprefix
    exact hslash hprefix.1.symm
  have hdoc : Text.after? "/**".toList line = none := Text.after?_eq_none_iff.2 (hmark _)
  have hblock : "/*".toList.isPrefixOf line = false := by
    simpa [← List.isPrefixOf_iff_prefix] using hmark ['*']
  have hcomment : "//".toList.isPrefixOf line = false := by
    simpa [← List.isPrefixOf_iff_prefix] using hmark ['/']
  have hempty : line.isEmpty = false := by simp [hline]
  simp only [step, h.trim_eq, hmode, hdoc, hblock, hcomment, hempty]
  rfl

theorem readFrom_code {line : List Char} (hmode : s.mode = .code) (h : IsCode line) :
    readFrom p s line = codeLine p s line := by
  rw [readFrom, Text.lines_last h.oneLine h.nonempty, List.foldl_cons, List.foldl_nil,
    step_code hmode h]

theorem mode_push (i : Item) : (s.push i).mode = s.mode := by
  unfold State.push
  split
  · rfl
  · rfl

theorem mode_declare (line : List Char) (doc : Option Comment) :
    (declare p s line doc).mode = s.mode := by
  unfold declare
  split
  · exact mode_push _
  · split
    · rfl
    · split
      · exact mode_push _
      · split
        · exact mode_push _
        · rfl

theorem mode_braces (bs : List Brace) : (bs.foldl State.brace s).mode = s.mode := by
  induction bs generalizing s with
  | nil => rfl
  | cons b bs ih =>
    rw [List.foldl_cons, ih]
    cases b with
    | opening => rfl
    | closing => rfl

theorem mode_closeBody : (s.closeBody p).mode = s.mode := by
  unfold State.closeBody
  split
  · split
    · rfl
    · rfl
  · rfl

theorem mode_codeLine (line : List Char) : (codeLine p s line).mode = s.mode := by
  rw [codeLine, mode_closeBody, mode_braces]
  split
  · exact mode_declare line _
  · rfl

end

-- ---------------------------------------------------------------------------
-- Functions
-- ---------------------------------------------------------------------------

theorem IsName.not_newline (h : IsName name) : '\n' ∉ name.toList := fun hmem => by
  simpa [show isWord '\n' = false from rfl] using h.word _ hmem

theorem not_newline_paramText {params : List String} (h : ∀ q ∈ params, IsParam q) :
    '\n' ∉ paramText params := by
  intro hmem
  simp only [paramText, List.mem_cons, List.mem_append, List.not_mem_nil, or_false] at hmem
  rcases hmem with hmem | hmem | hmem
  · cases hmem
  · rcases Text.mem_of_mem_join hmem with hmem | ⟨_, hpart, hmem⟩
    · revert hmem
      decide
    · obtain ⟨q, hq, rfl⟩ := List.mem_map.1 hpart
      exact ((h q hq).free _ hmem).2.2 rfl
  · cases hmem

theorem isCode_text {f : FunctionLine} (h : f.Tidy) : IsCode f.text := by
  obtain ⟨⟨isNative, isStatic⟩, name, params, on⟩ := f
  refine ⟨?_, ?_, ?_⟩
  · cases isNative <;> cases isStatic <;> exact ⟨_, rfl, rfl⟩
  · cases on with
    | none => exact ⟨')', by simp [FunctionLine.text, onText, paramText, List.getLast?_cons], rfl⟩
    | some type =>
      have htype := h.on type rfl
      refine ⟨type.toList.getLast htype.nonempty, ?_, ?_⟩
      · have hlast := List.getLast?_eq_some_getLast htype.nonempty
        simp [FunctionLine.text, onText, List.getLast?_append, List.getLast?_cons, hlast]
      · exact Text.isBlank_eq_false_of_isWord (htype.word _ (List.getLast_mem _))
  · simp only [FunctionLine.text, List.mem_append, not_or]
    refine ⟨?_, by decide, h.name.not_newline, not_newline_paramText h.params, ?_⟩
    · cases isNative <;> cases isStatic <;> decide
    · cases on with
      | none => simp [onText]
      | some type => simpa [onText] using (h.on type rfl).not_newline

theorem parse_function {p : Place} {f : FunctionSubject} (h : f.line.Tidy)
    (hlibrary : f.library = p.library) (hpath : f.path = p.path) :
    (parse p f.signature).items = [.function f {}] := by
  have hdeclare : declare p {} f.line.text none = State.push {} (f.line.item p false {}) := by
    simp only [declare, functionLine?_text h]
    rfl
  have hitem : f.line.item p false {} = .function f {} := by
    simp [FunctionSubject.line, FunctionLine.item, ← hlibrary, ← hpath]
  have hread : readFrom p {} f.line.text = codeLine p {} f.line.text :=
    readFrom_code rfl (isCode_text h)
  rw [parse_eq, f.toList_signature h, hread, finish_codeLine rfl]
  rw [hdeclare, hitem]
  rfl

-- ---------------------------------------------------------------------------
-- Constructors
-- ---------------------------------------------------------------------------

theorem emptyLiterals_eq_self {s : List Char} (h : '"' ∉ s) : emptyLiterals s = s := by
  induction s with
  | nil => simp [emptyLiterals]
  | cons c s ih =>
    obtain ⟨hc, hs⟩ := not_or.1 (mt List.mem_cons.2 h)
    rw [emptyLiterals, if_neg (Ne.symm hc), ih hs]

/-- Without literals and comments, all braces of a line count. -/
theorem braces_eq {s : List Char} (hquote : '"' ∉ s) (hslash : '/' ∉ s) :
    braces s = s.filterMap Brace.ofChar? := by
  have hcut : Text.cut? "//".toList s = none := by
    rw [← Option.not_isSome_iff_eq_none, Text.isSome_cut?_iff]
    exact fun hmark => hslash (hmark.subset (by simp))
  rw [braces, emptyLiterals_eq_self hquote, Text.before, hcut]

/-- The line that opens an entity. -/
def openingLine (name : String) : String := "entity " ++ name ++ " \x7b"

theorem toList_openingLine (name : String) :
    (openingLine name).toList = "entity ".toList ++ (name.toList ++ [' ', '\x7b']) := by
  simp [openingLine]

theorem isCode_openingLine (h : IsName name) : IsCode (openingLine name).toList := by
  rw [toList_openingLine]
  refine ⟨⟨'e', rfl, rfl⟩, ⟨'\x7b', ?_, rfl⟩, ?_⟩
  · rw [List.getLast?_append, List.getLast?_append]
    rfl
  · simp only [List.mem_append, not_or]
    exact ⟨by decide, h.not_newline, by decide⟩

theorem braces_openingLine (h : IsName name) : braces (openingLine name).toList = [.opening] := by
  have hname : ∀ c, isWord c = false → c ∉ name.toList := fun c hc hmem => by
    simp [h.word c hmem] at hc
  have hnone : name.toList.filterMap Brace.ofChar? = [] := by
    rw [List.filterMap_eq_nil_iff]
    intro c hc
    unfold Brace.ofChar?
    split
    · exact absurd hc (hname _ rfl)
    · exact absurd hc (hname _ rfl)
    · rfl
  rw [toList_openingLine, braces_eq, List.filterMap_append, List.filterMap_append, hnone]
  · rfl
  · simp only [List.mem_append, not_or]
    exact ⟨by decide, hname _ rfl, by decide⟩
  · simp only [List.mem_append, not_or]
    exact ⟨by decide, hname _ rfl, by decide⟩

theorem codeLine_openingLine (p : Place) (h : IsName name) :
    codeLine p {} (openingLine name).toList =
      { entity := some ⟨name, {}, 1, true, []⟩, depth := 1 } := by
  have hfunction : functionLine? (openingLine name).toList = none := by
    rw [toList_openingLine]
    exact functionLine?_eq_none rfl rfl rfl
  have hentity : entityLine? (openingLine name).toList = some name := by
    rw [toList_openingLine]
    exact entityLine?_append h (by simp; rfl)
  have hdeclare : declare p {} (openingLine name).toList none =
      { entity := some ⟨name, {}, 1, false, []⟩ } := by
    simp only [declare, hfunction, hentity]
    rfl
  simp only [codeLine, hdeclare, braces_openingLine h]
  rfl

theorem isCode_constructor {name : String} {params : List String} (hname : IsName name)
    (hparams : ∀ q ∈ params, IsParam q) : IsCode (name.toList ++ paramText params) := by
  obtain ⟨c, rest, hlist⟩ := List.exists_cons_of_ne_nil hname.nonempty
  refine ⟨⟨c, by simp [hlist], hname.word c (by simp [hlist])⟩,
    ⟨')', by simp [paramText, List.getLast?_cons], rfl⟩, ?_⟩
  simp only [List.mem_append, not_or]
  exact ⟨hname.not_newline, not_newline_paramText hparams⟩

theorem declare_constructor {p : Place} {s : State} {e : OpenEntity} (hentity : s.entity = some e)
    (hname : IsName e.name) (hparams : ∀ q ∈ params, IsParam q) :
    declare p s (e.name.toList ++ paramText params) none =
      s.push (.constructor ⟨p.library, p.path, e.name, params⟩ {}) := by
  have hfunction : functionLine? (e.name.toList ++ paramText params) = none :=
    functionLine?_eq_none (keyword?_eq_none (Text.forall_mem_of_all (by decide)) hname params)
      (keyword?_eq_none (Text.forall_mem_of_all (by decide)) hname params)
      (keyword?_eq_none (Text.forall_mem_of_all (by decide)) hname params)
  have hline := constructorLine?_text hname hparams
  simp [declare, hfunction, hentity, hline, Option.filter]

/-- A closing brace declares nothing. -/
theorem declare_closing (p : Place) (s : State) (doc : Option Comment) :
    declare p s ['\x7d'] doc = s := by
  have hfunction : functionLine? ['\x7d'] = none := functionLine?_eq_none rfl rfl rfl
  have hentity : entityLine? ['\x7d'] = none := rfl
  have hconstructor : constructorLine? ['\x7d'] = none := rfl
  have hfield : fieldLine? ['\x7d'] = none := rfl
  cases s.entity <;> simp [declare, hfunction, hentity, hconstructor, hfield]

theorem finish_readFrom_closing {p : Place} {s : State} (hmode : s.mode = .code) :
    (readFrom p s ['\x7d']).finish p = s.finish p := by
  have hstep : readFrom p s ['\x7d'] = codeLine p s ['\x7d'] := by
    simp only [readFrom, Text.lines_last (s := ['\x7d']) (by decide) (by decide), List.foldl_cons,
      List.foldl_nil, step, hmode]
    rfl
  rw [hstep, finish_codeLine_of_declares_nothing (declare_closing _ _ _)]

theorem parse_constructor {p : Place} {c : ConstructorSubject} (hname : IsName c.name)
    (hparams : ∀ q ∈ c.params, IsParam q) (hlibrary : c.library = p.library) (hpath : c.path = p.path) :
    (parse p ("entity " ++ c.name ++ " \x7b\n" ++ c.signature ++ "\n\x7d")).items =
      [.entity ⟨p.library, p.path, c.name⟩ { contained := [.constructor c {}] }] := by
  have htext : ("entity " ++ c.name ++ " \x7b\n" ++ c.signature ++ "\n\x7d").toList =
      (openingLine c.name).toList ++ '\n' :: (c.signature.toList ++ '\n' :: ['\x7d']) := by
    simp [openingLine]
  have hopening : readFrom p {} ((openingLine c.name).toList ++ ['\n']) =
      { entity := some ⟨c.name, {}, 1, true, []⟩, depth := 1 } := by
    have hcode := isCode_openingLine hname
    rw [readFrom_line hcode.oneLine, step_code rfl hcode, codeLine_openingLine p hname]
  rw [parse_eq, htext, readFrom_append_newline, hopening, readFrom_append_newline]
  have hcode := isCode_constructor hname hparams
  rw [c.toList_signature, readFrom_line hcode.oneLine, step_code rfl hcode]
  rw [finish_readFrom_closing (mode_codeLine _), finish_codeLine rfl]
  have hdeclare := @declare_constructor c.params p
    { entity := some ⟨c.name, {}, 1, true, []⟩, depth := 1 } _ rfl hname hparams
  rw [hdeclare]
  simp [State.finish, State.push, OpenEntity.close, ← hlibrary, ← hpath]

-- ---------------------------------------------------------------------------
-- What is read
-- ---------------------------------------------------------------------------

/-- An item stands in a file, or in an entity of it. -/
def Occurs (i : Item) (items : List Item) : Prop :=
  i ∈ items ∨ ∃ e d, .entity e d ∈ items ∧ i ∈ d.contained

/-- A function of a file that can be read back from its signature. -/
structure LegibleFunction (p : Place) (f : FunctionSubject) : Prop where
  library : f.library = p.library
  path : f.path = p.path
  tidy : f.line.Tidy

/-- What can be read back of the items in the entity of a name. -/
def LegibleIn (p : Place) (entity : String) : Item → Prop
  | .function f _ => LegibleFunction p f
  | .constructor c _ => c = ⟨p.library, p.path, entity, c.params⟩ ∧ ∀ q ∈ c.params, IsParam q
  | _ => True

def Legible (p : Place) : Item → Prop
  | .function f _ => LegibleFunction p f
  | .entity e d =>
    e = ⟨p.library, p.path, e.name⟩ ∧ IsName e.name ∧ ∀ i ∈ d.contained, LegibleIn p e.name i
  | _ => True

theorem reads_legible (p : Place) : Reads p (Legible p) (LegibleIn p) := by
  constructor
  · intro line f hline hf c
    have htidy := tidy_of_functionLine? hline hf
    refine ⟨⟨rfl, rfl, htidy⟩, fun _ => ⟨rfl, rfl, htidy.name, htidy.params, nofun⟩⟩
  · intro line name params hline h c
    exact ⟨rfl, tidy_of_constructorLine? hline h⟩
  · exact fun _ _ _ => ⟨trivial, fun _ => trivial⟩
  · intro line name _ h c items hitems
    exact ⟨rfl, isName_of_entityLine? h, hitems⟩

theorem legible_of_occurs {p : Place} {source : String} {f : FunctionSubject} {d : FunctionDoc}
    (h : Occurs (.function f d) (parse p source).items) : LegibleFunction p f := by
  rcases h with h | ⟨e, doc, he, h⟩
  · exact (reads_legible p).parse source _ h
  · exact ((reads_legible p).parse source _ he).2.2 _ h

/-- Anchors tell functions apart by all that a signature shows. -/
theorem line_eq_of_anchor_eq {f g : FunctionSubject} (hf : f.line.Tidy) (hg : g.line.Tidy)
    (h : f.anchor = g.anchor) : f.line = g.line := by
  have htext : f.line.text = g.line.text := by
    rw [← f.toList_signature hf, ← g.toList_signature hg, Text.formEncode_inj h]
  have hread := functionLine?_text hf
  rw [htext, functionLine?_text hg] at hread
  exact (Option.some.inj hread).symm

theorem parse_signature (p : Place) (source : String) :
    (∀ f d, Occurs (.function f d) (parse p source).items →
      (parse p f.signature).items = [.function f {}]) ∧
    (∀ e d c doc, .entity e d ∈ (parse p source).items → .constructor c doc ∈ d.contained →
      (parse p ("entity " ++ e.name ++ " \x7b\n" ++ c.signature ++ "\n\x7d")).items =
        [.entity e { contained := [.constructor c {}] }]) ∧
    ∀ q source' f d g d', Occurs (.function f d) (parse p source).items →
      Occurs (.function g d') (parse q source').items → f.anchor = g.anchor →
      f.name = g.name ∧ f.params = g.params ∧ f.isNative = g.isNative ∧ f.isStatic = g.isStatic ∧
        f.target = g.target := by
  refine ⟨fun f d hf => ?_, fun e d c doc he hc => ?_, fun q source' f d g d' hf hg hanchor => ?_⟩
  · obtain ⟨hlibrary, hpath, htidy⟩ := legible_of_occurs hf
    exact parse_function htidy hlibrary hpath
  · obtain ⟨hsubject, hname, hcontained⟩ := (reads_legible p).parse source _ he
    obtain ⟨hconstructor, hparams⟩ := hcontained _ hc
    have hentity : e.name = c.name := by rw [hconstructor]
    rw [hentity] at hsubject hname
    rw [hentity, hsubject]
    exact parse_constructor hname hparams (by rw [hconstructor]) (by rw [hconstructor])
  · have hf := (legible_of_occurs hf).tidy
    have hg := (legible_of_occurs hg).tidy
    have hline := line_eq_of_anchor_eq hf hg hanchor
    rw [f.target_eq_on hf, g.target_eq_on hg]
    simp only [FunctionSubject.line, FunctionLine.mk.injEq, Modifiers.mk.injEq] at hline
    obtain ⟨⟨hnative, hstatic⟩, hname, hparams, hon⟩ := hline
    exact ⟨hname, hparams, hnative, hstatic, hon⟩

/-- A function and an entity, written with blanks to spare. -/
def spacedSource : String :=
  "static  native fun fits( a,, b c ) on Box \x7b\n\x7d\n" ++
    "entity Box\n\x7b\n  Box( w , h )\n  fun area () on int\n\x7d\n"

def spacedFits : FunctionSubject := ⟨"l", "a.ql", "fits", ["a", "b c"], true, true, some "Box"⟩

/-- The same function in another file. -/
def spacedCopy : FunctionSubject := { spacedFits with library := "m", path := "b.ql" }

def spacedEntity : EntitySubject := ⟨"l", "a.ql", "Box"⟩

def spacedBox : ConstructorSubject := ⟨"l", "a.ql", "Box", ["w", "h"]⟩

/-- What an item declares, and what is declared in its body. -/
def outline (i : Item) : Subject × List Subject :=
  (i.subject, (i.entityDoc?.map (·.contained.map Item.subject)).getD [])

theorem exists_function_of_subject {items : List Item} (h : .function f ∈ items.map Item.subject) :
    ∃ d, .function f d ∈ items := by
  obtain ⟨i, hi, hsubject⟩ := List.mem_map.1 h
  cases i with
  | function f' d =>
    cases hsubject
    exact ⟨d, hi⟩
  | _ => cases hsubject

theorem exists_constructor_of_outline {items : List Item}
    (h : (.entity e, subjects) ∈ items.map outline) (hc : .constructor c ∈ subjects) :
    ∃ d doc, .entity e d ∈ items ∧ .constructor c doc ∈ d.contained := by
  obtain ⟨i, hi, houtline⟩ := List.mem_map.1 h
  cases i with
  | entity e' d =>
    cases houtline
    obtain ⟨j, hj, hsubject⟩ := List.mem_map.1 hc
    cases j with
    | constructor c' doc =>
      cases hsubject
      exact ⟨d, doc, hi, hj⟩
    | _ => cases hsubject
  | _ => cases houtline

theorem parse_signature_spaced :
    (parse ⟨"l", "a.ql"⟩ spacedSource).items.map outline =
        [(.function spacedFits, []),
          (.entity spacedEntity,
            [.constructor spacedBox, .function ⟨"l", "a.ql", "area", [], false, false, none⟩])] ∧
      (parse ⟨"l", "a.ql"⟩ spacedFits.signature).items = [.function spacedFits {}] ∧
      (parse ⟨"l", "a.ql"⟩
          ("entity " ++ spacedEntity.name ++ " \x7b\n" ++ spacedBox.signature ++ "\n\x7d")).items =
        [.entity spacedEntity { contained := [.constructor spacedBox {}] }] ∧
      ∃ d, Occurs (.function spacedCopy d) (parse ⟨"m", "b.ql"⟩ spacedSource).items ∧
        spacedFits.anchor = spacedCopy.anchor ∧ spacedFits.target = spacedCopy.target := by
  have houtline : (parse ⟨"l", "a.ql"⟩ spacedSource).items.map outline =
      [(.function spacedFits, []),
        (.entity spacedEntity,
          [.constructor spacedBox, .function ⟨"l", "a.ql", "area", [], false, false, none⟩])] := by
    decide +kernel
  have hfits : .function spacedFits ∈ (parse ⟨"l", "a.ql"⟩ spacedSource).items.map Item.subject := by
    decide +kernel
  have hcopy : .function spacedCopy ∈ (parse ⟨"m", "b.ql"⟩ spacedSource).items.map Item.subject := by
    decide +kernel
  have hanchor : spacedFits.anchor = spacedCopy.anchor := by decide +kernel
  obtain ⟨d, hfits⟩ := exists_function_of_subject hfits
  obtain ⟨d', hcopy⟩ := exists_function_of_subject hcopy
  obtain ⟨e, c, hentity, hbox⟩ := exists_constructor_of_outline
    (houtline ▸ List.mem_cons_of_mem _ List.mem_cons_self) List.mem_cons_self
  obtain ⟨hfunction, hconstructor, hanchors⟩ := parse_signature ⟨"l", "a.ql"⟩ spacedSource
  have htarget := hanchors ⟨"m", "b.ql"⟩ spacedSource spacedFits d spacedCopy d' (.inl hfits)
    (.inl hcopy) hanchor
  exact ⟨houtline, hfunction _ d (.inl hfits), hconstructor _ e _ c hentity hbox, d', .inl hcopy,
    hanchor, htarget.2.2.2.2⟩

end Source

end DocSite
