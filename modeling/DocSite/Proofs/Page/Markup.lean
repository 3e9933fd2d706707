import DocSite.Page
import DocSite.Proofs.Text.Form

/-!
# Text cannot become markup

Names, versions, descriptions and paths come from manifests and file systems, and nothing is asked
of them. On the page of all libraries and on the files page they are escaped wherever they stand,
so the markup of these pages is decided by how many libraries there are, and by the shape of the
outline (`markup_fixed`).
-/

namespace DocSite.Page

-- ---------------------------------------------------------------------------
-- Markup of texts
-- ---------------------------------------------------------------------------

/-- Angle brackets delimit tags, and quotes the values of attributes. -/
def isMarkup (c : Char) : Bool := c == '<' || c == '>' || c == '\x22'

/-- The markup of a text, without what stands between. -/
def skeleton (s : String) : List Char := s.toList.filter isMarkup

@[simp] theorem skeleton_append (a b : String) : skeleton (a ++ b) = skeleton a ++ skeleton b := by
  simp [skeleton]

@[simp] theorem skeleton_join (parts : List String) :
    skeleton (String.join parts) = parts.flatMap skeleton := by
  rw [skeleton, String.toList_join, List.filter_flatMap]
  rfl

/-- The characters that are not written as they are. -/
def specials : List Char := ['&', '<', '>', '\x22']

theorem escapeChar_of_not_mem (h : c ∉ specials) : escapeChar c = [c] := by
  simp_all [specials, escapeChar]

/-- A text with one of its characters replaced throughout. -/
def replaced (c : Char) (text : String) (s : List Char) : List Char :=
  s.flatMap fun d => if d == c then text.toList else [d]

theorem escapeChar_eq_replaced (c : Char) :
    escapeChar c = replaced '\x22' "&quot;" (replaced '>' "&gt;"
      (replaced '<' "&lt;" (replaced '&' "&amp;" [c]))) := by
  by_cases hc : c ∈ specials
  · have hall : specials.all (fun c => escapeChar c == replaced '\x22' "&quot;" (replaced '>' "&gt;"
        (replaced '<' "&lt;" (replaced '&' "&amp;" [c])))) = true := by decide
    simpa using List.all_eq_true.1 hall c hc
  · rw [escapeChar_of_not_mem hc]
    simp only [specials, List.mem_cons, List.not_mem_nil, or_false, not_or] at hc
    simp [replaced, hc]

/-- Escaping is four replacements, one after the other. The ampersand goes first, since the others
bring in more of them. -/
theorem escape_eq_replaced (s : String) :
    (escape s).toList = replaced '\x22' "&quot;" (replaced '>' "&gt;"
      (replaced '<' "&lt;" (replaced '&' "&amp;" s.toList))) := by
  rw [escape, String.toList_ofList, funext escapeChar_eq_replaced]
  simp only [replaced, List.flatMap_assoc, List.flatMap_singleton]

theorem not_markup_of_mem_escapeChar (h : d ∈ escapeChar c) : isMarkup d = false := by
  by_cases hc : c ∈ specials
  · have hall : specials.all (fun c => (escapeChar c).all fun d => !isMarkup d) = true := by decide
    simpa using List.all_eq_true.1 (List.all_eq_true.1 hall c hc) d h
  · rw [escapeChar_of_not_mem hc, List.mem_singleton] at h
    simp_all [specials, isMarkup]

theorem not_markup_of_mem_escape {s : String} (h : c ∈ (escape s).toList) : isMarkup c = false := by
  rw [escape, String.toList_ofList, List.mem_flatMap] at h
  obtain ⟨d, -, hd⟩ := h
  exact not_markup_of_mem_escapeChar hd

/-- An escaped text has no markup. -/
@[simp] theorem skeleton_escape (s : String) : skeleton (escape s) = [] := by
  rw [skeleton, List.filter_eq_nil_iff]
  intro c hc
  simp [not_markup_of_mem_escape hc]

/-- The character at the front of an escaped text, and what follows it. -/
def escapedFirst? : List Char → Option (Char × List Char)
  | [] => none
  | '&' :: 'a' :: 'm' :: 'p' :: ';' :: s => some ('&', s)
  | '&' :: 'l' :: 't' :: ';' :: s => some ('<', s)
  | '&' :: 'g' :: 't' :: ';' :: s => some ('>', s)
  | '&' :: 'q' :: 'u' :: 'o' :: 't' :: ';' :: s => some ('\x22', s)
  | c :: s => some (c, s)

theorem escapedFirst?_append (c : Char) (s : List Char) :
    escapedFirst? (escapeChar c ++ s) = some (c, s) := by
  by_cases hc : c ∈ specials
  · have hall : ∀ c ∈ specials, escapedFirst? (escapeChar c ++ s) = some (c, s) := by
      simp only [specials, List.forall_mem_cons]
      exact ⟨rfl, rfl, rfl, rfl, fun c hc => by cases hc⟩
    exact hall c hc
  · have hamp : c ≠ '&' := fun h => hc (by simp [specials, h])
    rw [escapeChar_of_not_mem hc, List.singleton_append]
    unfold escapedFirst?
    split <;> simp_all

theorem escape_inj {s t : String} (h : escape s = escape t) : s = t :=
  String.toList_inj.1 (Text.flatMap_inj rfl escapedFirst?_append (String.ofList_inj.1 h))

-- ---------------------------------------------------------------------------
-- Pages that differ in their texts
-- ---------------------------------------------------------------------------

theorem skeleton_anchorTag (url url' : String) (h : skeleton markup = skeleton markup') :
    skeleton (anchorTag url markup) = skeleton (anchorTag url' markup') := by
  unfold anchorTag
  simp only [skeleton_append, skeleton_escape, h]

theorem skeleton_navigation (library library' : String) :
    skeleton (navigation (some library)) = skeleton (navigation (some library')) := by
  unfold navigation anchorTag
  simp only [skeleton_append, skeleton_escape]

theorem skeleton_layout {navigated navigated' : Option String} {head body body' : String}
    (title title' : String)
    (hnav : skeleton (navigation navigated) = skeleton (navigation navigated'))
    (hbody : skeleton body = skeleton body') :
    skeleton (layout title navigated head body) =
      skeleton (layout title' navigated' head body') := by
  unfold layout
  simp only [skeleton_append, skeleton_escape, hnav, hbody]

theorem skeleton_libraryEntry (m m' : Metadata) :
    skeleton (libraryEntry m) = skeleton (libraryEntry m') := by
  have hlink := skeleton_anchorTag (libraryUrl m.name) (libraryUrl m'.name)
    (show skeleton (escape m.name) = skeleton (escape m'.name) by simp)
  unfold libraryEntry
  simp only [skeleton_append, skeleton_escape, hlink]

/-- Entries of libraries all have the same markup, so only their number shows. -/
theorem skeleton_entries {ms ms' : List Metadata} (h : ms.length = ms'.length) :
    skeleton (String.join (ms.map libraryEntry)) =
      skeleton (String.join (ms'.map libraryEntry)) := by
  simp only [skeleton_join, List.flatMap_map]
  induction ms generalizing ms' with
  | nil =>
    obtain rfl := List.length_eq_zero_iff.1 h.symm
    rfl
  | cons m ms ih =>
    cases ms' with
    | nil => cases h
    | cons m' ms' =>
      rw [List.flatMap_cons, List.flatMap_cons, skeleton_libraryEntry m m', ih (Nat.succ.inj h)]

theorem skeleton_librariesBody {ms ms' : List Metadata} (h : ms.length = ms'.length) :
    skeleton (librariesBody ms) = skeleton (librariesBody ms') := by
  have hentries := skeleton_entries h
  unfold librariesBody
  cases ms with
  | nil =>
    obtain rfl := List.length_eq_zero_iff.1 h.symm
    rfl
  | cons m ms =>
    cases ms' with
    | nil => cases h
    | cons m' ms' =>
      simp only [List.isEmpty_cons, Bool.false_eq_true, ↓reduceIte, skeleton_append, hentries]

/-- Two outlines with the same nesting and order, and with directories in the same places. -/
inductive SameShape : List Node → List Node → Prop
  | nil : SameShape [] []
  | cons {name name' place place' : String} {isDir : Bool} :
    SameShape children children' → SameShape nodes nodes' →
    SameShape (.mk name place isDir children :: nodes) (.mk name' place' isDir children' :: nodes')

theorem SameShape.skeleton_nodeLines (h : SameShape nodes nodes') (library library' : String) :
    skeleton (nodeLines library nodes) = skeleton (nodeLines library' nodes') := by
  induction h with
  | nil => simp only [nodeLines]
  | @cons children children' nodes nodes' name name' place place' isDir _ _ ihchildren ihnodes =>
    have hnode : skeleton (nodeLine library (.mk name place isDir children)) =
        skeleton (nodeLine library' (.mk name' place' isDir children')) := by
      rw [nodeLine, nodeLine]
      split
      · simp only [nodeList, skeleton_append, skeleton_escape, ihchildren]
      · have hlink := skeleton_anchorTag (sourceUrl library place) (sourceUrl library' place')
          (show skeleton (escape name) = skeleton (escape name') by simp)
        simp only [skeleton_append, hlink]
    rw [nodeLines, nodeLines, skeleton_append, skeleton_append, hnode, ihnodes]

theorem skeleton_filesBody {c c' : Catalog}
    (h : SameShape (outline (c.files.map (·.importPath))) (outline (c'.files.map (·.importPath)))) :
    skeleton (filesBody c) = skeleton (filesBody c') := by
  unfold filesBody nodeList
  simp only [skeleton_append, skeleton_escape, h.skeleton_nodeLines c.name c'.name]

/-- Whatever the texts are, the page of all libraries has the same markup for the same number of
libraries, and the files page for the same shape of the outline. -/
theorem markup_fixed (links links' : Links) :
    (∀ ms ms' : List Metadata, ms.length = ms'.length →
      skeleton (render links (.libraries ms)) = skeleton (render links' (.libraries ms'))) ∧
    ∀ c c' : Catalog,
      SameShape (outline (c.files.map (·.importPath))) (outline (c'.files.map (·.importPath))) →
      skeleton (render links (.files c)) = skeleton (render links' (.files c')) := by
  constructor
  · intro ms ms' h
    exact skeleton_layout _ _ rfl (skeleton_librariesBody h)
  · intro c c' h
    exact skeleton_layout _ _ (skeleton_navigation c.name c'.name) (skeleton_filesBody h)

def quietLinks : Links := ⟨"std", none⟩

def plainCard : Metadata := ⟨"demo", "1", "a", "d", none⟩

/-- A card that tries to close the tags around its texts. -/
def hostileCard : Metadata := ⟨"\"><script>", "</span>", "a", "</dd> & <dd class=\"x\">", none⟩

def plainFiles : Catalog := ⟨plainCard, "std", [⟨"b.ql", "a/b.ql", []⟩, ⟨"c.ql", "c.ql", []⟩], []⟩

def hostileFiles : Catalog :=
  ⟨hostileCard, "std", [⟨"b.ql", "<ul>/\"b\".ql", []⟩, ⟨"c.ql", "\"><li>.ql", []⟩], []⟩

theorem markup_fixed_hostile :
    [plainCard].length = [hostileCard].length ∧
    skeleton (render quietLinks (.libraries [plainCard])) =
      skeleton (render quietLinks (.libraries [hostileCard])) ∧
    SameShape (outline (plainFiles.files.map (·.importPath)))
      (outline (hostileFiles.files.map (·.importPath))) ∧
    skeleton (render quietLinks (.files plainFiles)) =
      skeleton (render quietLinks (.files hostileFiles)) := by
  have hplain : outline (plainFiles.files.map (·.importPath)) =
      [.mk "a" "a" true [.mk "b.ql" "a/b.ql" false []], .mk "c.ql" "c.ql" false []] := rfl
  have hhostile : outline (hostileFiles.files.map (·.importPath)) =
      [.mk "<ul>" "<ul>" true [.mk "\"b\".ql" "<ul>/\"b\".ql" false []],
        .mk "\"><li>.ql" "\"><li>.ql" false []] := rfl
  have hshape : SameShape (outline (plainFiles.files.map (·.importPath)))
      (outline (hostileFiles.files.map (·.importPath))) := by
    rw [hplain, hhostile]
    exact .cons (.cons .nil .nil) (.cons .nil .nil)
  have h := markup_fixed quietLinks quietLinks
  exact ⟨rfl, h.1 _ _ rfl, hshape, h.2 _ _ hshape⟩

end DocSite.Page
