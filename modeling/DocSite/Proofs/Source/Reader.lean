import DocSite.Proofs.Catalog.Attach
import DocSite.Proofs.Text.Lines
import DocSite.Source.Reader

/-!
# Items of a source file

A file is read line by line, and an item is read from one line, or from the line that
opens an entity and those of its body. So what holds of whatever a line declares holds of
all that is read (`Reads.parse`): every item belongs to the library of the file, and no
line attaches an extension to an entity.
-/

namespace DocSite.Source

/-- What holds of everything that lines of a file declare: `F` of the items of the file,
and `G` of those that stand in the entity of some name. -/
structure Reads (p : Place) (F : Item → Prop) (G : String → Item → Prop) : Prop where
  function : '\n' ∉ line → functionLine? line = some f → ∀ c : Comment,
    F (f.item p false c) ∧ ∀ entity, G entity (f.item p true c)
  constructor : '\n' ∉ line → constructorLine? line = some (name, params) → ∀ c : Comment,
    G name (.constructor ⟨p.library, p.path, name, params⟩ ⟨c.description, c.params⟩)
  field : '\n' ∉ line → fieldLine? line = some (type, name) → ∀ c : Comment,
    F (.field ⟨p.library, p.path, type, name⟩ ⟨c.description, c.type⟩) ∧
      ∀ entity, G entity (.field ⟨p.library, p.path, type, name⟩ ⟨c.description, c.type⟩)
  entity : '\n' ∉ line → entityLine? line = some name → ∀ c items, (∀ i ∈ items, G name i) →
    F (.entity ⟨p.library, p.path, name⟩ { description := c, contained := items })

/-- A state in which this holds so far. -/
structure Holds (F : Item → Prop) (G : String → Item → Prop) (s : State) : Prop where
  items : ∀ i ∈ s.items, F i
  opened : ∀ e, s.entity = some e → ∃ line, '\n' ∉ line ∧ entityLine? line = some e.name
  inside : ∀ e, s.entity = some e → ∀ i ∈ e.items, G e.name i

theorem forall_concat {P : α → Prop} {xs : List α} (h : ∀ x ∈ xs, P x) (hy : P y) :
    ∀ x ∈ xs ++ [y], P x := by
  intro x hx
  rcases List.mem_append.1 hx with hx | hx
  · exact h x hx
  · rw [List.mem_singleton.1 hx]
    exact hy

-- ---------------------------------------------------------------------------
-- One line
-- ---------------------------------------------------------------------------

section
variable {p : Place} {F : Item → Prop} {G : String → Item → Prop} {s : State}

theorem Holds.push (h : Holds F G s) (hfile : s.entity = none → F i)
    (hentity : ∀ e, s.entity = some e → G e.name i) : Holds F G (s.push i) := by
  unfold State.push
  split
  · rename_i e he
    refine ⟨h.items, fun _ ho => ?_, fun _ ho => ?_⟩
    · cases ho
      exact h.opened e he
    · cases ho
      exact forall_concat (h.inside e he) (hentity e he)
  · rename_i hnone
    refine ⟨forall_concat h.items (hfile hnone), fun e he => ?_, fun e he => ?_⟩
    · simp [hnone] at he
    · simp [hnone] at he

theorem Holds.braces (h : Holds F G s) (bs : List Brace) : Holds F G (bs.foldl State.brace s) := by
  induction bs generalizing s with
  | nil => exact h
  | cons b bs ih =>
    refine ih ?_
    cases b with
    | closing => exact ⟨h.items, h.opened, h.inside⟩
    | opening =>
      refine ⟨h.items, fun e he => ?_, fun e he => ?_⟩
      · obtain ⟨e', he', rfl⟩ := Option.map_eq_some_iff.1 he
        split
        · exact h.opened e' he'
        · exact h.opened e' he'
      · obtain ⟨e', he', rfl⟩ := Option.map_eq_some_iff.1 he
        split
        · exact h.inside e' he'
        · exact h.inside e' he'

variable (hreads : Reads p F G)
include hreads

theorem Holds.close (h : Holds F G s) (he : s.entity = some e) : F (e.close p) := by
  obtain ⟨line, hline, hname⟩ := h.opened e he
  exact hreads.entity hline hname _ _ (h.inside e he)

theorem Holds.closeBody (h : Holds F G s) : Holds F G (s.closeBody p) := by
  unfold State.closeBody
  split
  · rename_i e he
    split
    · exact ⟨forall_concat h.items (h.close hreads he), by simp, by simp⟩
    · exact h
  · exact h

theorem Holds.declare (h : Holds F G s) {line : List Char} (hline : '\n' ∉ line)
    (doc : Option Comment) : Holds F G (declare p s line doc) := by
  unfold Source.declare
  split
  · rename_i f hf
    have hitem := hreads.function hline hf (doc.getD {})
    refine h.push (fun hnone => ?_) fun e he => ?_
    · rw [hnone]
      exact hitem.1
    · rw [he]
      exact hitem.2 e.name
  · split
    · rename_i name hnone hname
      refine ⟨h.items, fun _ ho => ?_, fun _ ho => ?_⟩
      · cases ho
        exact ⟨line, hline, hname⟩
      · cases ho
        simp
    · split
      · rename_i name params hbind
        obtain ⟨e, he, hfilter⟩ := Option.bind_eq_some_iff.1 hbind
        obtain ⟨hconstructor, hname⟩ := Option.filter_eq_some_iff.1 hfilter
        refine h.push (fun hnone => by simp [hnone] at he) fun e' he' => ?_
        cases he.symm.trans he'
        rw [← of_decide_eq_true hname]
        exact hreads.constructor hline hconstructor _
      · split
        · rename_i c type name hfield
          have hitem := hreads.field hline hfield c
          exact h.push (fun _ => hitem.1) fun e _ => hitem.2 e.name
        · exact h

theorem Holds.codeLine (h : Holds F G s) {line : List Char} (hline : '\n' ∉ line) :
    Holds F G (codeLine p s line) := by
  have hstart : Holds F G { s with pending := none } := ⟨h.items, h.opened, h.inside⟩
  refine (Holds.braces ?_ _).closeBody hreads
  split
  · exact hstart.declare hreads hline _
  · exact hstart

theorem Holds.step (h : Holds F G s) {raw : List Char} (hraw : '\n' ∉ raw) :
    Holds F G (step p s raw) := by
  -- Comments change the mode and what is pending, and neither is asked about.
  have hsame : ∀ {t : State}, t.items = s.items → t.entity = s.entity → Holds F G t := by
    intro t hitems hentity
    exact ⟨hitems ▸ h.items, hentity ▸ h.opened, hentity ▸ h.inside⟩
  unfold Source.step
  dsimp only
  split
  · unfold commentLine
    split
    · exact hsame rfl rfl
    · exact hsame rfl rfl
  · split
    · exact hsame rfl rfl
    · exact h
  · split
    · unfold openComment
      split
      · exact hsame rfl rfl
      · exact hsame rfl rfl
    · split
      · split
        · exact h
        · exact hsame rfl rfl
      · split
        · exact h
        · exact h.codeLine hreads fun hmem => hraw (Text.mem_trim hmem)

-- ---------------------------------------------------------------------------
-- Whole files
-- ---------------------------------------------------------------------------

theorem Holds.lines (h : Holds F G s) {lines : List (List Char)} (hlines : ∀ l ∈ lines, '\n' ∉ l) :
    Holds F G (lines.foldl (Source.step p) s) := by
  induction lines generalizing s with
  | nil => exact h
  | cons line lines ih =>
    exact ih (h.step hreads (hlines line (by simp))) fun l hl => hlines l (by simp [hl])

theorem Reads.parse (source : String) : ∀ i ∈ (parse p source).items, F i := by
  have hstart : Holds F G {} := ⟨by simp, by simp, by simp⟩
  have hend := hstart.lines hreads fun l (hl : l ∈ Text.lines source.toList) =>
    Text.not_newline_of_mem_lines hl
  show ∀ i ∈ State.finish p _, F i
  unfold State.finish
  split
  · rename_i e he
    exact forall_concat hend.items (hend.close hreads he)
  · exact hend.items

end

/-- An item of a library, with nothing attached to it. -/
structure Declares (library : String) (i : Item) : Prop where
  stripped_eq : i.stripped = i
  library_eq : i.subject.library = library

theorem declares_of_mem_parse {p : Place} {source : String} (h : i ∈ (parse p source).items) :
    Declares p.library i := by
  have hreads : Reads p (Declares p.library) fun _ _ => True := by
    constructor
    · exact fun _ _ _ => ⟨⟨rfl, rfl⟩, fun _ => trivial⟩
    · exact fun _ _ _ => trivial
    · exact fun _ _ _ => ⟨⟨rfl, rfl⟩, fun _ => trivial⟩
    · exact fun _ _ _ _ _ => ⟨rfl, rfl⟩
  exact hreads.parse source i h

end DocSite.Source
