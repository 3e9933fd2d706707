import DocSite.Proofs.LibraryRoot
import DocSite.Proofs.Page.Link
import DocSite.Proofs.Page.Markup
import DocSite.Proofs.Site.EntityPage
import Mathlib.Data.List.Forall2

/-!
# The pages of source files

The page of a source file is named for the file's path, with separators written as underscores.
Two files share a page if their paths differ in nothing else, and then the page is the one of the
file that comes last (`source_page`).
-/

namespace DocSite

open Files Files.Tree

-- ---------------------------------------------------------------------------
-- Paths that share a page name
-- ---------------------------------------------------------------------------

namespace Page

/-- What is an underscore in the name of a page. -/
def underscored : List Char := ['/', '\\', '_']

/-- Paths that differ only in where they have separators and where underscores. -/
def Alike (p q : String) : Prop :=
  List.Forall₂ (fun a b => a = b ∨ a ∈ underscored ∧ b ∈ underscored) p.toList q.toList

/-- Characters become the same one if they are the same or both become underscores. -/
theorem underscore_eq_iff (a b : Char) :
    ((if a == '/' || a == '\\' then '_' else a) = if b == '/' || b == '\\' then '_' else b) ↔
      a = b ∨ a ∈ underscored ∧ b ∈ underscored := by
  simp only [underscored, List.mem_cons, List.not_mem_nil, or_false, Bool.or_eq_true, beq_iff_eq]
  split <;> split <;> grind

theorem sourceName_eq_iff {p q : String} : sourceName p = sourceName q ↔ Alike p q := by
  rw [sourceName, sourceName, String.ofList_inj, ← List.forall₂_eq_eq_eq, List.forall₂_map_left_iff,
    List.forall₂_map_right_iff, Alike]
  simp only [underscore_eq_iff]

theorem alike_refl (p : String) : Alike p p :=
  sourceName_eq_iff.1 rfl

theorem Alike.trans {p q r : String} (h : Alike p q) (h' : Alike q r) : Alike p r :=
  sourceName_eq_iff.1 ((sourceName_eq_iff.2 h).trans (sourceName_eq_iff.2 h'))

-- ---------------------------------------------------------------------------
-- Pages that can be told apart
-- ---------------------------------------------------------------------------

/-- A page can be told by its title. -/
theorem layout_title_inj {title title' : String} {library library' : Option String}
    {head head' body body' : String}
    (h : layout title library head body = layout title' library' head' body') : title = title' := by
  have htitle : ∀ title library head body, ∃ rest, (layout title library head body).toList =
      "<!DOCTYPE html>\n<html>\n<head>\n<meta charset=\"utf-8\">\n<title>".toList ++
        ((escape title).toList ++ '<' :: rest) := by
    intro title library head body
    have hclose : "</title>\n<link rel=\"stylesheet\" href=\"/style.css\">\n".toList =
        '<' :: "/title>\n<link rel=\"stylesheet\" href=\"/style.css\">\n".toList := by decide
    unfold layout
    simp only [String.toList_append, List.append_assoc, hclose, List.cons_append]
    exact ⟨_, rfl⟩
  have hplain : ∀ title, '<' ∉ (escape title).toList := by
    intro title hmem
    cases not_markup_of_mem_escape hmem
  obtain ⟨rest, hrest⟩ := htitle title library head body
  obtain ⟨rest', hrest'⟩ := htitle title' library' head' body'
  rw [h, hrest'] at hrest
  have hescaped := Text.append_cons_inj (hplain _) (hplain _) (List.append_cancel_left hrest)
  exact (escape_inj (String.toList_inj.1 hescaped.1)).symm

end Page

namespace Site

variable {s : Site} {c : Catalog} {σ σ' : Session}

theorem path_source_of_alike {f g : SourceFile} (h : Page.Alike g.importPath f.importPath) :
    Page.path (.source c g) = Page.path (.source c f) := by
  rw [Page.path, Page.path, Page.sourceName_eq_iff.2 h]

/-- The page of a source file tells the path of the file. -/
theorem importPath_eq_of_render {links : Page.Links}
    (h : textBytes (Page.render links (.source c g)) =
      textBytes (Page.render links (.source c f))) :
    g.importPath = f.importPath := by
  have htext := congrArg text? h
  rw [LibraryRoot.text?_textBytes, LibraryRoot.text?_textBytes, Option.some_inj, Page.render,
    Page.render] at htext
  exact Page.layout_title_inj htext

/-- The page of a file is written, and stays if no later file has the same page. -/
theorem read_source {before after : List SourceFile} (hσ : σ.tree.Sound)
    (hrun : s.writePages c σ = .ok () σ') (hfiles : c.files = before ++ f :: after)
    (hlast : ∀ g ∈ after, ¬ Page.Alike g.importPath f.importPath) :
    σ'.tree.read (join s.output (Page.path (.source c f))) =
      .ok (textBytes (Page.render s.links (.source c f))) := by
  have hpages : Page.ofLibrary c = ([.index c, .files c] ++
      c.entities.map (fun r => Page.entity c r.2) ++ before.map (.source c)) ++
        .source c f :: after.map (.source c) := by
    rw [Page.ofLibrary, hfiles]
    simp
  have hscript := (s.enacts_writePages c).performs hrun
  rw [hpages, List.map_append, List.map_cons] at hscript
  have hread := read_perform hσ hscript fun u hu => by
    obtain ⟨p, hp, rfl⟩ := List.mem_map.1 hu
    obtain ⟨g, hg, rfl⟩ := List.mem_map.1 hp
    rw [pageFile_path, pageFile_path, Page.placeOf_source, Page.placeOf_source]
    intro hplace
    have hname : Page.sourceName g.importPath = Page.sourceName f.importPath := by
      simpa using hplace
    exact hlast g hg (Page.sourceName_eq_iff.1 hname)
  rw [pageFile_path] at hread
  exact hread

/-- A page is that of the last file that has it, so a file has its own page if no later one is
alike. -/
theorem source_page (s : Site) (c : Catalog) (σ σ' : Session) (hσ : σ.tree.Sound)
    (hpaths : (c.files.map (·.importPath)).Nodup) (hrun : s.writePages c σ = .ok () σ')
    (before : List SourceFile) (f : SourceFile) (after : List SourceFile)
    (hfiles : c.files = before ++ f :: after) :
    (∃ last ∈ f :: after, Page.Alike last.importPath f.importPath ∧
      σ'.tree.read (join s.output (Page.path (.source c f))) =
        .ok (textBytes (Page.render s.links (.source c last)))) ∧
    (σ'.tree.read (join s.output (Page.path (.source c f))) =
        .ok (textBytes (Page.render s.links (.source c f))) ↔
      ∀ g ∈ after, ¬ Page.Alike g.importPath f.importPath) := by
  obtain ⟨pre, last, post, hsplit, halike, hlast⟩ :=
    exists_last (p := fun g => Page.Alike g.importPath f.importPath)
      ⟨f, List.mem_cons_self, Page.alike_refl f.importPath⟩
  have hfiles' : c.files = (before ++ pre) ++ last :: post := by
    rw [hfiles, hsplit, List.append_assoc]
  have hread := read_source hσ hrun hfiles' fun g hg h => hlast g hg (h.trans halike)
  rw [path_source_of_alike halike] at hread
  have hmem : last ∈ f :: after := by
    rw [hsplit]
    simp
  refine ⟨⟨last, hmem, halike, hread⟩, fun hown g hg hgf => ?_, read_source hσ hrun hfiles⟩
  rw [hread] at hown
  have hpath := importPath_eq_of_render (Except.ok.inj hown)
  cases pre with
  | nil =>
    obtain ⟨rfl, rfl⟩ := List.cons.inj hsplit
    exact hlast g hg hgf
  | cons p pre =>
    -- a later file would have the path of `f`
    obtain ⟨rfl, rfl⟩ := List.cons.inj hsplit
    simp [hfiles, List.nodup_append, hpath] at hpaths

-- ---------------------------------------------------------------------------
-- Two files with one page
-- ---------------------------------------------------------------------------

def emptyFile (path : String) : SourceFile := ⟨path, path, []⟩

/-- The first two files have one page between them. -/
def alikeCatalog : Catalog :=
  ⟨boxSources.metadata, "std", [emptyFile "a/b.ql", emptyFile "a_b.ql", emptyFile "a/c.ql"], []⟩

theorem nodup_alike : (alikeCatalog.files.map (·.importPath)).Nodup := by decide

theorem ofLibrary_alike : Page.ofLibrary alikeCatalog = pagesOf alikeCatalog [] :=
  ofLibrary_of_entities (by cbv)

theorem writePages_alike : ∃ σ, plainSite.writePages alikeCatalog ⟨plainTree, []⟩ = .ok () σ :=
  exists_writePages ofLibrary_alike (by decide +kernel)

/-- The second file has its own page, and the first has the page of the second. -/
theorem source_page_alike : ∃ σ, plainSite.writePages alikeCatalog ⟨plainTree, []⟩ = .ok () σ ∧
    σ.tree.read "site/library/b/file/a_b.ql.html" =
      .ok (textBytes
        (Page.render plainSite.links (.source alikeCatalog (emptyFile "a_b.ql")))) ∧
    σ.tree.read "site/library/b/file/a_b.ql.html" ≠
      .ok (textBytes
        (Page.render plainSite.links (.source alikeCatalog (emptyFile "a/b.ql")))) := by
  obtain ⟨σ, hrun⟩ := writePages_alike
  have hpage := source_page plainSite alikeCatalog ⟨plainTree, []⟩ σ sound_plainTree nodup_alike
    hrun
  obtain ⟨-, hsecond⟩ := hpage [emptyFile "a/b.ql"] (emptyFile "a_b.ql") [emptyFile "a/c.ql"] rfl
  obtain ⟨-, hfirst⟩ := hpage [] (emptyFile "a/b.ql") [emptyFile "a_b.ql", emptyFile "a/c.ql"] rfl
  have hplace : ∀ f ∈ [emptyFile "a/b.ql", emptyFile "a_b.ql"],
      join plainSite.output (Page.path (.source alikeCatalog f)) =
        "site/library/b/file/a_b.ql.html" := by decide +kernel
  simp only [← Page.sourceName_eq_iff] at hfirst hsecond
  rw [hplace _ (by simp)] at hfirst hsecond
  exact ⟨σ, hrun, hsecond.2 (by decide), fun h => absurd (hfirst.1 h) (by decide)⟩

/-- The page of a file is lost, although the paths of the files differ. -/
theorem source_page_lost : ∃ σ, plainSite.writePages alikeCatalog ⟨plainTree, []⟩ = .ok () σ ∧
    (alikeCatalog.files.map (·.importPath)).Nodup ∧ ∃ f ∈ alikeCatalog.files,
      σ.tree.read (join "site" (Page.path (.source alikeCatalog f))) ≠
        .ok (textBytes (Page.render plainSite.links (.source alikeCatalog f))) := by
  obtain ⟨σ, hrun⟩ := writePages_alike
  refine ⟨σ, hrun, nodup_alike, emptyFile "a/b.ql", List.mem_cons_self, fun h => ?_⟩
  have hfiles : alikeCatalog.files =
      [emptyFile "a/b.ql"] ++ emptyFile "a_b.ql" :: [emptyFile "a/c.ql"] := rfl
  have hread := read_source sound_plainTree hrun hfiles (by
    simp only [← Page.sourceName_eq_iff]
    decide)
  have halike : Page.Alike (emptyFile "a_b.ql").importPath (emptyFile "a/b.ql").importPath :=
    Page.sourceName_eq_iff.1 (by decide)
  rw [path_source_of_alike halike] at hread
  exact absurd (importPath_eq_of_render (Except.ok.inj (hread.symm.trans h))) (by decide)

end Site

end DocSite
