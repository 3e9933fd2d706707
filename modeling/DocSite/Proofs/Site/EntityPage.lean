import DocSite.Proofs.Catalog.Extensions
import DocSite.Proofs.Page.Link
import DocSite.Proofs.Site.Publication
import DocSite.Proofs.Site.Run

/-!
# The pages of entities

Entities may share a name, and then they share a page. Extensions go to the first entity of a
name, and the page is the one that was written last (`entity_page`).
-/

namespace DocSite

open Files Files.Tree

-- ---------------------------------------------------------------------------
-- Where pages lie
-- ---------------------------------------------------------------------------

theorem simple_html {name : String} (h : '/' ∉ name.toList) : Simple (name ++ ".html") :=
  simple_append h (by decide) (by decide)

namespace Page

variable (t : Tree) (output : String) (c : Catalog)

theorem placeOf_entity {e : Item} (h : '/' ∉ e.name.toList) :
    t.placeOf (join output (Page.path (.entity c e))) =
      t.placeOf (join output (libraryDir c.name)) ++ ["entity", e.name ++ ".html"] := by
  rw [path, placeOf_join_join (simple_html h),
    placeOf_join_join ⟨by decide, by decide, by decide, by decide⟩, List.append_assoc]
  rfl

theorem placeOf_source (f : SourceFile) :
    t.placeOf (join output (Page.path (.source c f))) =
      t.placeOf (join output (libraryDir c.name)) ++
        ["file", sourceName f.importPath ++ ".html"] := by
  rw [path, placeOf_join_join (simple_html (not_slash_sourceName _)),
    placeOf_join_join ⟨by decide, by decide, by decide, by decide⟩, List.append_assoc]
  rfl

end Page

-- ---------------------------------------------------------------------------
-- Entities that share a name
-- ---------------------------------------------------------------------------

/-- The entities of a name, in the order of the catalog. -/
def Catalog.named (c : Catalog) (name : String) : List Item :=
  (c.entities.map (·.2)).filter (·.name == name)

/-- The entity of a name is the first one, if it is one. -/
theorem Catalog.find?_eq_head? (c : Catalog) (name : String) :
    c.find? name = (c.named name).head?.filter (·.kind == .entity) := by
  rw [find?_eq, named, List.head?_filter]

theorem Catalog.exists_last_named {c : Catalog} {name : String}
    (h : (c.named name).getLast? = some e) :
    ∃ es es', c.entities.map (·.2) = es ++ e :: es' ∧ e.name = name ∧
      ∀ e' ∈ es', e'.name ≠ name := by
  rw [named, ← List.head?_reverse, ← List.filter_reverse, List.head?_filter,
    List.find?_eq_some_iff_append] at h
  obtain ⟨hname, es', es, hsplit, hrest⟩ := h
  refine ⟨es.reverse, es'.reverse, ?_, by simpa using hname, fun e' he' => ?_⟩
  · rw [← List.reverse_reverse (c.entities.map (·.2)), hsplit]
    simp
  · simpa using hrest e' (List.mem_reverse.1 he')

namespace Site

theorem ofLibrary_eq {c : Catalog} (h : c.entities.map (·.2) = es ++ e :: es') :
    Page.ofLibrary c = ([.index c, .files c] ++ es.map (.entity c)) ++
      .entity c e :: (es'.map (.entity c) ++ c.files.map (.source c)) := by
  rw [ofLibrary_of_entities h, pagesOf]
  simp

theorem pageFile_path (s : Site) (p : Page) : (s.pageFile p).path = join s.output p.path := rfl

/-- The page of a name is that of the last entity of the name. -/
theorem read_entity {s : Site} {c : Catalog} {σ σ' : Session} (hσ : σ.tree.Sound)
    (hplain : ∀ r ∈ c.entities, '/' ∉ r.2.name.toList) (hrun : s.writePages c σ = .ok () σ')
    (hlast : (c.named name).getLast? = some e) :
    σ'.tree.read (join s.output (Page.path (.entity c e))) =
      .ok (textBytes (Page.render s.links (.entity c e))) := by
  obtain ⟨es, es', hsplit, rfl, hothers⟩ := Catalog.exists_last_named hlast
  have hnames : ∀ e' ∈ es ++ e :: es', '/' ∉ e'.name.toList := by
    rw [← hsplit]
    intro e' he'
    obtain ⟨r, hr, rfl⟩ := List.mem_map.1 he'
    exact hplain r hr
  have hscript := (s.enacts_writePages c).performs hrun
  rw [ofLibrary_eq hsplit, List.map_append, List.map_cons] at hscript
  have hplace := Page.placeOf_entity σ.tree s.output c (hnames e (by simp))
  have hread := read_perform hσ hscript fun u hu => by
    obtain ⟨p, hp, rfl⟩ := List.mem_map.1 hu
    rw [pageFile_path, pageFile_path, hplace]
    rcases List.mem_append.1 hp with hp | hp
    · obtain ⟨e', he', rfl⟩ := List.mem_map.1 hp
      rw [Page.placeOf_entity _ _ _ (hnames e' (by simp [he']))]
      simpa using hothers e' he'
    · obtain ⟨f, -, rfl⟩ := List.mem_map.1 hp
      rw [Page.placeOf_source]
      simp
  exact hread

/-- The first entity of a name is the one that is found, and the last one has the page. -/
theorem entity_page (s : Site) (c : Catalog) (σ σ' : Session) (hσ : σ.tree.Sound)
    (hplain : ∀ r ∈ c.entities, '/' ∉ r.2.name.toList) (hrun : s.writePages c σ = .ok () σ')
    (name : String) (hname : name ∈ c.entities.map (·.2.name)) :
    ∃ first last, (c.named name).head? = some first ∧ (c.named name).getLast? = some last ∧
      c.find? name = (if first.kind = .entity then some first else none) ∧
      σ'.tree.read (join s.output
          (join (join (Page.libraryDir c.name) "entity") (name ++ ".html"))) =
        .ok (textBytes (Page.render s.links (.entity c last))) ∧
      ((c.named name).length = 1 → first = last) := by
  have hne : c.named name ≠ [] := by
    obtain ⟨r, hr, rfl⟩ := List.mem_map.1 hname
    exact List.ne_nil_of_mem (List.mem_filter.2 ⟨List.mem_map_of_mem hr, by simp⟩)
  obtain ⟨first, rest, hnamed⟩ := List.exists_cons_of_ne_nil hne
  obtain ⟨last, hlast⟩ : ∃ last, (c.named name).getLast? = some last :=
    ⟨_, List.getLast?_eq_some_getLast hne⟩
  refine ⟨first, last, by rw [hnamed, List.head?_cons], hlast, ?_, ?_, fun hone => ?_⟩
  · rw [c.find?_eq_head?, hnamed, List.head?_cons, Option.filter_some]
    simp
  · obtain ⟨-, -, -, rfl, -⟩ := Catalog.exists_last_named hlast
    exact read_entity hσ hplain hrun hlast
  · obtain rfl : rest = [] := by simpa [hnamed] using hone
    rw [hnamed] at hlast
    exact Option.some.inj hlast

-- ---------------------------------------------------------------------------
-- Two entities of a name
-- ---------------------------------------------------------------------------

def otherBox : Item := .entity ⟨"b", "c.ql", "B"⟩ {}

/-- Two files declare an entity of the same name, and the first has an extension. -/
def twinCatalog : Catalog :=
  ⟨boxSources.metadata, "std",
    [⟨"b.ql", "b.ql", [boxOf [boxFun]]⟩, ⟨"c.ql", "c.ql", [otherBox]⟩], []⟩

theorem entities_twin : twinCatalog.entities.map (·.2) = [boxOf [boxFun], otherBox] := by cbv

theorem named_twin : twinCatalog.named "B" = [boxOf [boxFun], otherBox] := by
  rw [Catalog.named, entities_twin]
  rfl

theorem plain_twin : ∀ r ∈ twinCatalog.entities, '/' ∉ r.2.name.toList := by
  have hall : ∀ e ∈ twinCatalog.entities.map (·.2), '/' ∉ e.name.toList := by
    rw [entities_twin]
    decide
  exact fun r hr => hall r.2 (List.mem_map_of_mem hr)

def twinPages : List Page := pagesOf twinCatalog [boxOf [boxFun], otherBox]

theorem ofLibrary_twin : Page.ofLibrary twinCatalog = twinPages :=
  ofLibrary_of_entities entities_twin

/-- Pages are written if their files are. -/
theorem exists_writePages {s : Site} {c : Catalog} {t : Tree} (hpages : Page.ofLibrary c = pages)
    (hok : isOk (perform (pages.map s.pageFile) t) = true) :
    ∃ σ, s.writePages c ⟨t, []⟩ = .ok () σ := by
  have hacts := s.enacts_writePages c
  rw [hpages] at hacts
  cases hrun : perform (pages.map s.pageFile) t with
  | error e t' =>
    rw [hrun] at hok
    cases hok
  | ok u t' =>
    obtain ⟨σ, hσ, -⟩ := @Enacts.succeeds _ _ hacts ⟨t, []⟩ t' hrun
    exact ⟨σ, hσ⟩

theorem writePages_twin : ∃ σ, plainSite.writePages twinCatalog ⟨plainTree, []⟩ = .ok () σ :=
  exists_writePages ofLibrary_twin (by decide +kernel)

theorem sound_plainTree : plainTree.Sound := sound_of_entries rfl (by decide)

/-- The extension goes to the first entity, and the page is the one of the other. -/
theorem entity_page_twin : ∃ σ, plainSite.writePages twinCatalog ⟨plainTree, []⟩ = .ok () σ ∧
    twinCatalog.find? "B" = some (boxOf [boxFun]) ∧
    σ.tree.read (join "site" (join (join (Page.libraryDir "b") "entity") ("B" ++ ".html"))) =
      .ok (textBytes (Page.render plainSite.links (.entity twinCatalog otherBox))) := by
  obtain ⟨σ, hrun⟩ := writePages_twin
  have hnames : twinCatalog.entities.map (·.2.name) = ["B", "B"] := by cbv
  have hmem : "B" ∈ twinCatalog.entities.map (·.2.name) := by
    rw [hnames]
    simp
  obtain ⟨first, last, hfirst, hlast, hfind, hread, -⟩ :=
    entity_page plainSite twinCatalog ⟨plainTree, []⟩ σ sound_plainTree plain_twin hrun "B" hmem
  rw [named_twin] at hfirst hlast
  cases hfirst
  cases hlast
  exact ⟨σ, hrun, hfind, hread⟩

/-- The entity that is found is not the one on the page. -/
theorem entity_page_hidden : ∃ σ, plainSite.writePages twinCatalog ⟨plainTree, []⟩ = .ok () σ ∧
    ∃ first, twinCatalog.find? "B" = some first ∧
      σ.tree.read (join "site" (join (join (Page.libraryDir "b") "entity") ("B" ++ ".html"))) ≠
        .ok (textBytes (Page.render plainSite.links (.entity twinCatalog first))) := by
  obtain ⟨σ, hrun⟩ := writePages_twin
  have hlast : (twinCatalog.named "B").getLast? = some otherBox := by rw [named_twin]; rfl
  have hread := read_entity (s := plainSite) sound_plainTree plain_twin hrun hlast
  refine ⟨σ, hrun, boxOf [boxFun], ?_, fun h => ?_⟩
  · rw [Catalog.find?_eq_head?, named_twin]
    rfl
  · have hpages : textBytes (Page.render plainSite.links (.entity twinCatalog otherBox)) ≠
        textBytes (Page.render plainSite.links (.entity twinCatalog (boxOf [boxFun]))) := by
      decide +kernel
    exact hpages (Except.ok.inj (hread.symm.trans h))

end Site

end DocSite
