import DocSite.LibraryRoot
import DocSite.Proofs.Files.Script

/-!
# Sources that are left alone

What a site writes has other names than what it reads: no page, search index, style sheet
or cache file is a manifest or a source file. So a library that has once been read from its
directory is read from there as the same library after any script of such writes, wherever
the directory lies.
-/

namespace DocSite.LibraryRoot

open Files Files.Tree

-- ---------------------------------------------------------------------------
-- What a site writes
-- ---------------------------------------------------------------------------

/-- How the names of the files that a site writes end. -/
def outputEndings : List String := [".html", ".json", ".css", ".cache"]

/-- A file that a site may write. -/
def IsOutput (w : Write) : Prop := ∃ ending ∈ outputEndings, ending.toList <:+ w.path.toList

theorem IsOutput.endsIn (h : IsOutput w) (t : Tree) :
    ∃ ending ∈ outputEndings, EndsIn ending (t.placeOf w.path) := by
  obtain ⟨ending, hmem, hend⟩ := h
  have hplain : ∀ e ∈ outputEndings, '/' ∉ e.toList ∧ 2 < e.toList.length := by decide
  exact ⟨ending, hmem, endsIn_placeOf hend (hplain _ hmem).1 (hplain _ hmem).2 t⟩

theorem IsOutput.not_endsIn (h : IsOutput w) (t : Tree) {ending : String}
    (hother : ∀ e ∈ outputEndings, ¬ e.toList <:+ ending.toList ∧ ¬ ending.toList <:+ e.toList) :
    ¬ EndsIn ending (t.placeOf w.path) := by
  obtain ⟨e, hmem, hend⟩ := h.endsIn t
  exact Tree.not_endsIn hend (hother e hmem).1 (hother e hmem).2

-- ---------------------------------------------------------------------------
-- Source files
-- ---------------------------------------------------------------------------

/-- Whether an entry is a source file. -/
def isSource : Place × Entry → Bool
  | (p, .file _) => (p.getLast?).any isSourceName
  | (_, .directory) => false

theorem endsIn_of_isSourceName {p : Place} (h : (p.getLast?).any isSourceName) : EndsIn ".ql" p := by
  cases hp : p.getLast? with
  | none => simp [hp] at h
  | some name =>
    rw [hp, Option.any_some] at h
    exact ⟨name, hp, List.isSuffixOf_iff_suffix.1 h⟩

theorem getLast?_of_relative? (h : relative? p q = some (name :: names)) :
    q.getLast? = (name :: names).getLast? := by
  rw [relative?_eq_some h, List.getLast?_append, List.getLast?_cons, Option.some_or]

/-- Only source files decide which sources there are. -/
theorem sourcesBelow_congr {t t' : Tree} (hl : t'.locate dir = t.locate dir)
    (h : t'.entries.filter isSource = t.entries.filter isSource) :
    sourcesBelow t' dir = sourcesBelow t dir := by
  have hlist : ∀ (t : Tree) (p : Place), t.locate dir = .ok p →
      (t.filesBelow dir).filter (fun p => (p.getLast?).any isSourceName) =
        (t.entries.filter isSource).filterMap fun r => (relative? p r.1).filter (!·.isEmpty) := by
    intro t p hp
    simp only [filesBelow, hp, List.filter_filterMap, List.filterMap_filter]
    congr 1
    funext r
    obtain ⟨q, e⟩ := r
    cases hr : relative? p q with
    | none => simp
    | some rest =>
      cases rest with
      | nil => simp [Option.filter_some]
      | cons name names =>
        cases e with
        | directory => simp [isSource]
        | file b => simp [isSource, getLast?_of_relative? hr, Option.filter_some]
  cases hd : t.locate dir with
  | error e => simp only [sourcesBelow, filesBelow, hl, hd]
  | ok p => rw [sourcesBelow, sourcesBelow, hlist t' p (hl.trans hd), hlist t p hd, h]

theorem suffix_slashed (h : p.getLast? = some name) : name.toList <:+ (slashed p).toList := by
  rw [slashed, String.toList_intercalate]
  induction p with
  | nil => cases h
  | cons a p ih =>
    cases p with
    | nil =>
      cases h
      simp
    | cons b p =>
      rw [List.map_cons, List.map_cons, List.intercalate_cons_cons]
      exact (ih (by simpa using h)).trans (List.suffix_append _ _)

-- ---------------------------------------------------------------------------
-- Reading
-- ---------------------------------------------------------------------------

theorem text?_textBytes (text : String) : text? (textBytes text) = some text := by
  have hbytes : (⟨(textBytes text).toArray⟩ : ByteArray) = text.toByteArray := by
    simp [textBytes, String.toUTF8]
  rw [text?, hbytes, String.fromUTF8?, dif_pos text.isValidUTF8]
  rfl

theorem readText_of_get? {t : Tree} (hl : t.locate path = .ok p)
    (hg : t.get? p = some (.file (textBytes text))) : t.readText path = .ok text := by
  simp only [readText, read_of_get? hl hg, text?_textBytes]

theorem manifest_of_text {t : Tree} (h : t.readText (join root manifestFile) = .ok text)
    (hm : Metadata.ofManifest text = .ok m) : manifest t root = .ok m := by
  simp only [manifest, h, hm]

theorem source_of_text {t : Tree} {dir found : String} {p : Place}
    (h : t.readText (join found (slashed p)) = .ok text) :
    source t library dir found p = .ok (Source.parse ⟨library, importPath dir found p⟩ text) := by
  unfold source
  simp only [h]

/-- The sources of a library with one file. -/
theorem sources_of_text {t : Tree} {p : Place} (hdir : join root sourceDir = dir)
    (hfound : searchPath? dir = some found) (hd : t.isDir dir = true)
    (hbelow : (t.filesBelow dir).filter (fun p => (p.getLast?).any isSourceName) = [p])
    (h : t.readText (join found (slashed p)) = .ok text) :
    sources t library root = .ok [Source.parse ⟨library, importPath dir found p⟩ text] := by
  have hsorted : sourcesBelow t dir = [p] := by
    rw [sourcesBelow, hbelow, List.mergeSort_singleton]
  simp only [sources, hdir, hd, hfound, hsorted, ↓reduceIte]
  rw [List.mapM_cons]
  exact bind_eq_ok.2 ⟨_, source_of_text h, rfl⟩

-- ---------------------------------------------------------------------------
-- Reading again
-- ---------------------------------------------------------------------------

theorem readText_congr {t t' : Tree} (h : t.readText path = .ok text)
    (hread : ∀ b, t.read path = .ok b → t'.read path = .ok b) : t'.readText path = .ok text := by
  unfold readText at h ⊢
  cases hr : t.read path with
  | error e =>
    rw [hr] at h
    cases h
  | ok b =>
    rw [hr] at h
    rw [hread b hr]
    exact h

section
variable {ws : List Write} {t t' : Tree} (ht : t.Sound) (hws : ∀ w ∈ ws, IsOutput w)
  (h : perform ws t = .ok u t')
include ht hws h

/-- A file with another ending is read as before. -/
theorem readText_perform {ending : String} (hend : ending.toList <:+ path.toList)
    (hplain : '/' ∉ ending.toList ∧ 2 < ending.toList.length)
    (hother : ∀ e ∈ outputEndings, ¬ e.toList <:+ ending.toList ∧ ¬ ending.toList <:+ e.toList)
    (hr : t.readText path = .ok text) : t'.readText path = .ok text := by
  refine readText_congr hr fun b => (changes_perform ht h).read_same ?_
  rintro ⟨w, hw, hp⟩
  exact (hws w hw).not_endsIn t hother (hp ▸ endsIn_placeOf hend hplain.1 hplain.2 t)

theorem manifest_perform (hm : manifest t root = .ok m) : manifest t' root = .ok m := by
  unfold manifest at hm ⊢
  cases hr : t.readText (join root manifestFile) with
  | error e =>
    simp only [hr] at hm
    cases hm
  | ok text =>
    simp only [hr] at hm
    have hsame := readText_perform ht hws h (suffix_join root manifestFile) (by decide)
      (by decide) hr
    simpa only [hsame] using hm

theorem source_perform (hp : (p.getLast?).any isSourceName)
    (hs : source t library dir found p = .ok f) : source t' library dir found p = .ok f := by
  obtain ⟨name, hlast, hname⟩ := endsIn_of_isSourceName hp
  have hend : ".ql".toList <:+ (join found (slashed p)).toList :=
    hname.trans ((suffix_slashed hlast).trans (suffix_join _ _))
  unfold source at hs ⊢
  cases hr : t.readText (join found (slashed p)) with
  | error e =>
    simp only [hr] at hs
    cases hs
  | ok text =>
    simp only [hr] at hs
    simpa only [readText_perform ht hws h hend (by decide) (by decide) hr] using hs

theorem sources_perform (hs : sources t library root = .ok fs) : sources t' library root = .ok fs := by
  have hc := changes_perform ht h
  have hfiles : t'.entries.filter isSource = t.entries.filter isSource := by
    refine filter_entries_perform (fun _ => rfl) ht h fun w hw e => ?_
    cases e with
    | directory => rfl
    | file b =>
      rw [isSource, Bool.eq_false_iff]
      exact fun hn => (hws w hw).not_endsIn t (by decide) (endsIn_of_isSourceName hn)
  simp only [sources] at hs ⊢
  split at hs
  · rename_i hdir
    obtain ⟨p, hl, hg⟩ := isDir_iff.1 hdir
    have hl' := hc.locate_ok hl
    rw [if_pos (isDir_iff.2 ⟨p, hl', hc.dirs p hg⟩)]
    cases hfound : searchPath? (join root sourceDir) with
    | none => simpa only [hfound] using hs
    | some found =>
      simp only [hfound] at hs
      rw [sourcesBelow_congr (hl'.trans hl.symm) hfiles]
      refine mapM_eq_ok_of_imp (fun p hp f => source_perform ht hws h ?_) hs
      rw [sourcesBelow, List.mem_mergeSort] at hp
      exact (List.mem_filter.1 hp).2
  · cases hs

end

end DocSite.LibraryRoot
