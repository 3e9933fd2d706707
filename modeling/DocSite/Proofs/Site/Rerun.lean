import DocSite.Proofs.Site.Arrangement
import DocSite.Proofs.Site.Order
import DocSite.Proofs.Site.Replay
import DocSite.Proofs.Site.Resolve

/-!
# Running again

A run without failures, made again, leaves every file as it is (`generate_again`), in whatever
order the file system lists its directories (`generateIn`). Two exceptions cannot be left out
(`generate_again_exceptions`). A library that was missed and has a name that climbs may be found
once the directories are there. The page of all libraries shows two cards of one name in the order
in which they were listed.

Both runs carry out one script (`Course.performs`), and then list the cached libraries. Wherever
the entries are listed as they were made, a cache file that is written anew comes last among its
neighbours; the second run moves the same files in the same order, so the list stays the same
(`list_again`). Any other order gives the same cards (`list_perm`).
-/

namespace DocSite.Site

open Files Files.Tree Store

-- ---------------------------------------------------------------------------
-- The parts of a run
-- ---------------------------------------------------------------------------

def styleFile (s : Site) : Write := textFile (join s.output "style.css") Page.styleSheet

theorem init_eq_ok_iff {s : Site} {σ : Session} :
    (∃ σ', s.init σ = .ok () σ' ∧ σ'.tree = t) ↔
      ∃ t₁, makeDirs s.output σ.tree = .ok () t₁ ∧ perform [s.styleFile] t₁ = .ok () t := by
  have hfile : Enacts (writeFile (join s.output "style.css") Page.styleSheet) [s.styleFile] := by
    rw [styleFile]
    exact enacts_writeFile _ _
  constructor
  · rintro ⟨σ', h, rfl⟩
    obtain ⟨_, σ₁, hmake, hwrite⟩ := run_bind_eq_ok h
    obtain ⟨t₁, hm, rfl⟩ := change_eq_ok_iff.1 hmake
    have hperform := hfile.performs hwrite
    exact ⟨t₁, hm, hperform⟩
  · rintro ⟨t₁, hm, hw⟩
    have hmake : change (.makeOutput s.output) (makeDirs s.output) σ =
        .ok () { σ with tree := t₁ } := change_eq_ok_iff.2 ⟨t₁, hm, rfl⟩
    obtain ⟨σ', hwrite, ht⟩ := @Enacts.succeeds _ _ hfile { σ with tree := t₁ } t hw
    exact ⟨σ', (run_bind_ok hmake).trans hwrite, ht⟩

theorem index_eq_ok {s : Site} {σ : Session} (h : s.index σ = .ok n σ') :
    ∃ cards, s.store.list σ.tree = .ok cards ∧
      perform [s.pageFile (.libraries cards)] σ.tree = .ok () σ'.tree := by
  obtain ⟨cards, σ₁, hlook, hrest⟩ := run_bind_eq_ok h
  obtain ⟨hlist, rfl⟩ := look_eq_ok_iff.1 hlook
  obtain ⟨_, σ₂, hpage, hdone⟩ := run_bind_eq_ok hrest
  have hperform := (s.enacts_writePage _).performs hpage
  cases hdone
  exact ⟨cards, hlist, hperform⟩

theorem index_ok {s : Site} {σ : Session} (hlist : s.store.list σ.tree = .ok cards)
    (h : perform [s.pageFile (.libraries cards)] σ.tree = .ok () t) :
    ∃ n σ', s.index σ = .ok n σ' ∧ σ'.tree = t := by
  obtain ⟨σ', hpage, ht⟩ := (s.enacts_writePage (.libraries cards)).succeeds h
  rw [index, run_bind_ok (look_eq_ok_iff.2 ⟨hlist, rfl⟩), run_bind_ok hpage]
  exact ⟨_, _, rfl, ht⟩

/-- The entries may have been rearranged before the page of all libraries was written. -/
theorem index_rearranged {s : Site} {t u : Tree} (h : Tree.Rearranged t u)
    (hindex : s.index ⟨u, es⟩ = .ok n σ) :
    ∃ shown e, s.store.list u = .ok shown ∧
      perform [s.pageFile (.libraries shown)] t = .ok () e ∧ Tree.Rearranged e σ.tree := by
  obtain ⟨shown, hlist, hpage⟩ := index_eq_ok hindex
  have hagree := matches_perform [s.pageFile (.libraries shown)] u t h.symm
  rw [hpage] at hagree
  obtain ⟨e, he, hre⟩ := hagree.right_ok
  exact ⟨shown, e, hlist, he, hre.symm⟩

theorem index_error {s : Site} {σ : Session} (hlist : s.store.list σ.tree = .error e) :
    final (s.index σ) = σ := by
  have hlook : look .listLibraries s.store.list σ = .error (.listLibraries e) σ := by
    unfold look
    rw [hlist]
  rw [index, run_bind_error hlook]
  rfl

/-- The page of all libraries is the only file that may change. -/
theorem changes_index {s : Site} {σ : Session} (hσ : σ.tree.Sound) :
    Changes (· = σ.tree.placeOf (join s.output "index.html")) σ.tree (final (s.index σ)).tree := by
  cases hlist : s.store.list σ.tree with
  | error e =>
    rw [index_error hlist]
    exact .refl hσ
  | ok cards =>
    have index : ".html".toList <:+ "index.html".toList := by decide
    obtain ⟨ps, name, hseg, -, hn, -⟩ :=
      exists_last_name (index.trans (suffix_join s.output "index.html")) (by decide) (by decide)
    have hc : Changes _ σ.tree (final (s.writePage (.libraries cards) σ)).tree :=
      changes_writeFile hseg hn _ hσ
    rw [Site.index, run_bind_ok (look_eq_ok_iff.2 ⟨hlist, rfl⟩), run_bind]
    cases hw : s.writePage (.libraries cards) σ with
    | error e σ' => rwa [hw] at hc
    | ok u σ' => rwa [hw] at hc

/-- What a run reports of the directories, together with what was spliced. -/
def reported (results : List (String × Except Failure (String × List Item))) (report : Report) :
    Report :=
  { report with
    processed := (results.filterMap (·.2.toOption)).map (·.1)
    failed := results.filterMap fun (root, r) =>
      match r with
      | .ok _ => none
      | .error cause => some (root, cause) }

theorem reported_ok (h : (reported results report).hasFailures = false) :
    ∀ r ∈ results, ∃ v, r.2 = .ok v := by
  intro r hr
  simp only [reported, Report.hasFailures, Report.failures, Bool.not_eq_false', List.isEmpty_iff,
    List.append_eq_nil_iff, List.filterMap_eq_nil_iff] at h
  have hnone := h.1 r hr
  obtain ⟨root, v | e⟩ := r
  · cases hnone
  · exact ⟨_, rfl⟩

theorem generate_ok {s : Site} {σ : Session} (hinit : s.init σ = .ok () σ₀)
    (hroots : roots.mapM s.tryRoot σ₀ = .ok results σ₁)
    (hresolve : s.resolve (itemsOf results) σ₁ = .ok report σ₂)
    (hok : ∀ r ∈ results, ∃ v, r.2 = .ok v) (hindex : s.index σ₂ = .ok n σ') :
    ∃ r, s.generate roots σ = .ok r σ' ∧ r.splices = report.splices ∧ r.failed = [] := by
  rw [itemsOf] at hresolve
  rw [generate, run_bind_ok hinit, run_bind_ok hroots, run_bind_ok hresolve, run_bind_ok hindex]
  refine ⟨_, rfl, rfl, List.filterMap_eq_nil_iff.2 fun r hr => ?_⟩
  obtain ⟨v, hv⟩ := hok r hr
  simp only [hv]

-- ---------------------------------------------------------------------------
-- Runs in any order
-- ---------------------------------------------------------------------------

/-- A run up to the page of all libraries. -/
def document (s : Site) (roots : List String) :
    Act (List (String × Except Failure (String × List Item)) × Report) := do
  s.init
  let results ← roots.mapM s.tryRoot
  let report ← s.resolve (itemsOf results)
  return (results, report)

/-- The same, with the entries rearranged before the sources of a library are listed. -/
def documentIn (s : Site) (o : Arrangement) (roots : List String) :
    Act (List (String × Except Failure (String × List Item)) × Report) := do
  s.init
  let results ← roots.mapM fun root => do
    rearrange o
    s.tryRoot root
  let report ← s.resolve (itemsOf results)
  return (results, report)

/-- A whole run, with the entries rearranged before each listing. -/
def generateIn (s : Site) (o : Arrangement) (roots : List String) : Act Report := do
  let done ← s.documentIn o roots
  rearrange o
  let _ ← s.index
  return reported done.1 done.2

theorem generateIn_kept (s : Site) (roots : List String) :
    s.generateIn .kept roots = s.generate roots := by
  simp only [generateIn, documentIn, rearrange_kept, pure_bind, bind_assoc]
  rfl

theorem matches_documentIn (s : Site) (o : Arrangement) (roots : List String) :
    Matches Session.Rearranged (s.document roots) (s.documentIn o roots) := by
  have hroot : ∀ root, Matches Session.Rearranged (s.tryRoot root)
      (do rearrange o; s.tryRoot root) := by
    intro root σ τ h
    exact s.orderless_tryRoot root _ _ ⟨h.tree.trans (o.rearranged τ.tree), h.events⟩
  exact s.orderless_init.bind fun _ => (Matches.mapM hroot).bind fun _ =>
    (s.orderless_resolve _).bind fun _ => .pure _

theorem document_eq_ok {s : Site} {σ : Session}
    (h : s.document roots σ = .ok (results, report) σ₂) :
    ∃ σ₀ σ₁, s.init σ = .ok () σ₀ ∧ roots.mapM s.tryRoot σ₀ = .ok results σ₁ ∧
      s.resolve (itemsOf results) σ₁ = .ok report σ₂ := by
  obtain ⟨_, σ₀, hinit, hrest⟩ := run_bind_eq_ok h
  obtain ⟨results, σ₁, hroots, hrest₁⟩ := run_bind_eq_ok hrest
  obtain ⟨report, σ₂, hresolve, hdone⟩ := run_bind_eq_ok hrest₁
  cases hdone
  exact ⟨σ₀, σ₁, hinit, hroots, hresolve⟩

theorem document_ok {s : Site} {σ : Session} (hinit : s.init σ = .ok () σ₀)
    (hroots : roots.mapM s.tryRoot σ₀ = .ok results σ₁)
    (hresolve : s.resolve (itemsOf results) σ₁ = .ok report σ₂) :
    s.document roots σ = .ok (results, report) σ₂ := by
  rw [document, run_bind_ok hinit, run_bind_ok hroots, run_bind_ok hresolve]
  rfl

/-- A run in any order is one in the order of the tree, up to the page of all libraries. -/
theorem generateIn_eq_ok {s : Site} {σ : Session} (h : s.generateIn o roots σ = .ok r σ') :
    ∃ results report σ₁ t n, s.document roots σ = .ok (results, report) σ₁ ∧
      Tree.Rearranged σ₁.tree t ∧ s.index ⟨t, σ₁.events⟩ = .ok n σ' ∧
      r = reported results report := by
  obtain ⟨⟨results, report⟩, τ, hdocument, hrest⟩ := run_bind_eq_ok h
  rw [run_bind_ok (run_rearrange o τ)] at hrest
  obtain ⟨n, τ', hindex, hdone⟩ := run_bind_eq_ok hrest
  cases hdone
  have hagree := s.matches_documentIn o roots σ σ ⟨.refl _, rfl⟩
  rw [hdocument] at hagree
  obtain ⟨σ₁, hrun, hσ₁⟩ := hagree.left_ok
  rw [hσ₁.events] at hindex
  exact ⟨results, report, σ₁, _, n, hrun, hσ₁.tree.trans (o.rearranged τ.tree), hindex, rfl⟩

theorem final_generateIn {s : Site} {σ τ : Session} (h : s.document roots σ = .ok x σ₁)
    (hτ : Session.Rearranged σ τ) (o : Arrangement) :
    ∃ t, Tree.Rearranged σ₁.tree t ∧
      final (s.generateIn o roots τ) = final (s.index ⟨t, σ₁.events⟩) := by
  have hagree := s.matches_documentIn o roots σ τ hτ
  rw [h] at hagree
  obtain ⟨τ₁, hrun, hτ₁⟩ := hagree.right_ok
  refine ⟨o.arrange τ₁.tree, hτ₁.tree.trans (o.rearranged τ₁.tree), ?_⟩
  rw [generateIn, run_bind_ok hrun, run_bind_ok (run_rearrange o τ₁), run_bind, hτ₁.events]
  cases s.index ⟨o.arrange τ₁.tree, σ₁.events⟩ <;> rfl

-- ---------------------------------------------------------------------------
-- One script
-- ---------------------------------------------------------------------------

/-- The files that a run writes before it lists the libraries. -/
def script (s : Site) (cs : List Catalog) : List Write := s.styleFile :: cs.flatMap s.publication

theorem script_append (s : Site) (cs ds : List Catalog) : s.script (cs ++ ds) =
    [s.styleFile] ++ (cs.flatMap s.publication ++ ds.flatMap s.publication) := by
  simp [script]

theorem endsIn_styleFile (s : Site) (t : Tree) : EndsIn ".css" (t.placeOf s.styleFile.path) := by
  have style : ".css".toList <:+ "style.css".toList := by decide
  exact endsIn_placeOf (style.trans (suffix_join _ _)) (by decide) (by decide) t

theorem not_cache_styleFile (s : Site) (t : Tree) :
    ¬ EndsIn ".cache" (t.placeOf s.styleFile.path) :=
  not_endsIn (s.endsIn_styleFile t) (by decide) (by decide)

theorem isOutput_styleFile (s : Site) : LibraryRoot.IsOutput s.styleFile := by
  have style : ".css".toList <:+ "style.css".toList := by decide
  exact ⟨".css", by decide, style.trans (suffix_join _ _)⟩

theorem not_cache_script {s : Site} {cs : List Catalog} (hw : w ∈ s.script cs)
    (hanew : w.anew = false) (t : Tree) : ¬ EndsIn ".cache" (t.placeOf w.path) := by
  rcases List.mem_cons.1 hw with rfl | hw
  · exact s.not_cache_styleFile t
  · obtain ⟨c, -, hc⟩ := List.mem_flatMap.1 hw
    rcases of_mem_publication hc with rfl | ⟨-, hnot⟩
    · cases hanew
    · exact hnot t

/-- Where a library has been published, the directory of the store is there. -/
theorem walk_of_publications {s : Site} {cs : List Catalog} {t : Tree} (ht : t.Sound)
    (hne : cs ≠ []) (h : perform (cs.flatMap s.publication) t = .ok () t') :
    ∃ d, t'.walk (t'.start s.store.dir) (parts s.store.dir) = .ok d := by
  rcases List.eq_nil_or_concat cs with rfl | ⟨cs, c, rfl⟩
  · exact absurd rfl hne
  · rw [List.concat_eq_append, List.flatMap_append, List.flatMap_singleton] at h
    obtain ⟨t₁, hcs, hc⟩ := perform_append.1 h
    exact (perform_publication (changes_perform ht hcs).sound hc).2

theorem mem_of_mapM_spliceGroup {s : Site} {gs : List (String × List Item)} {σ : Session}
    (h : gs.mapM s.spliceGroup σ = .ok rs σ') : ∀ g ∈ gs, ∃ o, (g.1, o) ∈ rs := by
  induction gs generalizing σ rs with
  | nil => simp
  | cons g gs ih =>
    obtain ⟨r, σ₁, rs', hturn, hrest, rfl⟩ := mapM_cons_eq_ok h
    intro g' hg'
    rcases List.mem_cons.1 hg' with rfl | hg'
    · refine ⟨r.2, ?_⟩
      have hname : r.1 = g'.1 := by
        rw [spliceGroup_eq s g'.1 g'.2] at hturn
        split at hturn <;> cases hturn <;> rfl
      rw [← hname]
      exact List.mem_cons_self
    · obtain ⟨o, ho⟩ := ih hrest g' hg'
      exact ⟨o, List.mem_cons_of_mem r ho⟩

/-- The course of a run without failures up to the list of libraries: the libraries `cs` come
from the directories, `ds` from cache files. -/
structure Course (s : Site) (roots : List String) (cs ds : List Catalog) (t t₁ t₂ t₃ t₄ : Tree) :
    Prop where
  output : makeDirs s.output t = .ok () t₁
  style : perform [s.styleFile] t₁ = .ok () t₂
  libraries : perform (cs.flatMap s.publication) t₂ = .ok () t₃
  catalogs : List.Forall₂ (fun root c => s.catalogOf t₃ root = .ok c) roots cs
  turns : s.Turns (s.script cs) (s.groups (cs.flatMap declared)) ds t₃ t₄

theorem Course.performs {s : Site} (h : s.Course roots cs ds t t₁ t₂ t₃ t₄) :
    perform (s.script (cs ++ ds)) t₁ = .ok () t₄ := by
  rw [script_append]
  exact perform_append.2 ⟨t₂, h.style, perform_append.2 ⟨t₃, h.libraries, h.turns.performs⟩⟩

theorem course_of_document {s : Site} {σ : Session} (hσ : σ.tree.Sound)
    (hrun : s.document roots σ = .ok (results, report) σ₂)
    (hresults : ∀ r ∈ results, ∃ v, r.2 = .ok v)
    (hnone : ∀ r ∈ report.splices, ∀ e, r.2 ≠ .failed e)
    (hcards : ∀ l o, (l, o) ∈ report.splices → s.Labelled l σ.tree)
    (hdown : ∀ l, (l, .missingCache) ∈ report.splices → ".." ∉ parts l)
    (hsize : ∀ n ∈ sizes σ₂, n < UInt32.size) :
    ∃ cs ds t₁ t₂ t₃, s.Course roots cs ds σ.tree t₁ t₂ t₃ σ₂.tree := by
  obtain ⟨σ₀, σ₁, hinit, hroots, hresolve⟩ := document_eq_ok hrun
  obtain ⟨t₁, hm, hstyle⟩ := init_eq_ok_iff.1 ⟨σ₀, hinit, rfl⟩
  have hc₁ := changes_makeDirs hσ s.output
  rw [hm, final_ok] at hc₁
  have htr₀ : s.Tracked σ.tree [] t₁ :=
    ⟨hc₁.mono fun _ => False.elim, fun p hp => by simp [Targets] at hp⟩
  have htr₁ : s.Tracked σ.tree [s.styleFile] σ₀.tree := htr₀.perform hstyle fun p hT hend => by
    obtain ⟨w, hw, rfl⟩ := hT
    rw [List.mem_singleton.1 hw] at hend
    exact absurd hend (s.not_cache_styleFile t₁)
  obtain ⟨cs, hcatalogs, hpubs, hitems, htold⟩ := mapM_tryRoot htr₁.changes.sound hroots hresults
  rw [hitems] at hresolve
  obtain ⟨σ₁', hσ₁', hsizes, hmap⟩ := resolve_turns hresolve
  have hfits : ∀ c ∈ cs, Wire.RecordFits c.record := by
    intro c hc
    refine Wire.recordFits_of_length (hsize _ ((sizes_mapM_spliceGroup hmap hnone).subset ?_))
    rw [hsizes, htold]
    exact List.mem_append_right _ (List.mem_map_of_mem hc)
  have htr₂ : s.Tracked σ.tree (s.script cs) σ₁.tree := htr₁.publishAll hpubs hfits
  have hwalk : s.groups (cs.flatMap declared) ≠ [] →
      ∃ d, σ₁'.tree.walk (σ₁'.tree.start s.store.dir) (parts s.store.dir) = .ok d := by
    intro hgs
    rw [hσ₁']
    refine walk_of_publications htr₁.changes.sound (fun hcs => hgs ?_) hpubs
    rw [hcs]
    exact s.groups_nil
  have hlabelled : ∀ g ∈ s.groups (cs.flatMap declared), s.Labelled g.1 σ.tree := by
    intro g hg
    obtain ⟨o, ho⟩ := mem_of_mapM_spliceGroup hmap g hg
    exact hcards g.1 o ho
  obtain ⟨ds, hturns⟩ := mapM_spliceGroup_turns (hσ₁' ▸ htr₂) hwalk (s.nodup_groups _) hlabelled
    hdown hmap hnone hsize
  rw [hσ₁'] at hturns
  exact ⟨cs, ds, t₁, σ₀.tree, σ₁.tree, hm, hstyle, hpubs, hcatalogs, hturns⟩

/-- The same course is taken again, after files have been written that are neither sources
nor cache files. -/
theorem Course.again {s : Site} (h : s.Course roots cs ds t t₁ t₂ t₃ t₄) (ht : t.Sound)
    {σ : Session} (hws : ∀ w ∈ ws, LibraryRoot.IsOutput w)
    (hcache : ∀ w ∈ ws, ∀ t : Tree, ¬ EndsIn ".cache" (t.placeOf w.path))
    (he : perform ws t₄ = .ok () σ.tree) :
    ∃ x τ, s.document roots σ = .ok x τ ∧
      perform (s.script (cs ++ ds)) σ.tree = .ok () τ.tree := by
  have hc₁ := changes_makeDirs ht s.output
  rw [h.output, final_ok] at hc₁
  have hc₂ := changes_perform hc₁.sound h.style
  have hc₃ := changes_perform hc₂.sound h.libraries
  have hc₄ := changes_perform hc₃.sound h.turns.performs
  have hce := changes_perform hc₄.sound he
  have hgrows₃ := hc₄.grows.trans hce.grows
  have hgrows₂ := hc₃.grows.trans hgrows₃
  have hgrows₁ := hc₂.grows.trans hgrows₂
  -- the output directory is there, and the libraries are read as before
  obtain ⟨hproper, d, hd⟩ := walk_of_makeDirs ht h.output
  rw [← hgrows₁.start] at hd
  have hm := makeDirs_of_walk hce.sound hproper (hgrows₁.walk_ok hd)
  have hread : ∀ {root c}, s.catalogOf t₃ root = .ok c → s.catalogOf σ.tree root = .ok c := by
    refine catalogOf_perform hc₃.sound ?_ (perform_append.2 ⟨t₄, h.turns.performs, he⟩)
    intro w hw
    rcases List.mem_append.1 hw with hw | hw
    · exact s.isOutput_publications ds w hw
    · exact hws w hw
  -- both runs side by side
  have hf₁ : Follows [] t₁ σ.tree σ.tree := .refl hce.sound
  obtain ⟨u₂, hstyle, hf₂⟩ := hf₁.perform hc₁.sound h.style hgrows₂
  obtain ⟨τ₂, hinit, rfl⟩ := init_eq_ok_iff.2 ⟨σ.tree, hm, hstyle⟩
  obtain ⟨u₃, hlibraries, hf₃⟩ := hf₂.perform hc₂.sound h.libraries hgrows₃
  have hcatalogs := h.catalogs.imp fun _ _ hc => catalogOf_perform hce.sound
    (fun w hw => List.mem_singleton.1 hw ▸ s.isOutput_styleFile) hstyle (hread hc)
  obtain ⟨results, τ₃, hroots, rfl, hitems, -⟩ :=
    mapM_tryRoot_ok hf₂.grows.sound hcatalogs hlibraries
  obtain ⟨τ₃', hτ₃', hresolve⟩ := s.resolve_eq (cs.flatMap declared) τ₃
  obtain ⟨rs, τ₄, hmap, hturns⟩ := h.turns.follow σ.tree τ₃' hce.grows
    (fun p b hend => hce.same p b fun ⟨w, hw, hp⟩ => hcache w hw t₄ (hp ▸ hend)) (hτ₃' ▸ hf₃)
  rw [hmap] at hresolve
  refine ⟨_, τ₄, document_ok hinit hroots (hitems ▸ hresolve), ?_⟩
  rw [script_append]
  rw [hτ₃'] at hturns
  exact perform_append.2 ⟨_, hstyle, perform_append.2 ⟨_, hlibraries, hturns⟩⟩

-- ---------------------------------------------------------------------------
-- The list of libraries
-- ---------------------------------------------------------------------------

section
variable {s : Site} {cs : List Catalog} {t t' e u : Tree} (ht : t.Sound)
  (h : perform (s.script cs) t = .ok () t')
  (hpage : perform [s.pageFile (.libraries cards)] t' = .ok () e)
include ht h hpage

/-- The page of all libraries lies beside the style sheet, so its directory is there. -/
theorem dir_of_pageFile (hp : e.get? p = some .directory) : t'.get? p = some .directory := by
  obtain ⟨t₁, hstyle, hpubs⟩ := perform_cons_eq_ok h
  have hc₁ := Write.changes ht hstyle
  have hc := changes_perform hc₁.sound hpubs
  obtain ⟨hproper, d, hd⟩ := Write.walk_dir ht hstyle
  have hdir : (s.pageFile (.libraries cards)).dir = s.styleFile.dir := by
    simp only [pageFile, styleFile, textFile, Page.path]
    rw [parent?_join (b := "style.css") (by decide) (by decide) (by decide) (by decide)]
  rw [← hc.start] at hd
  have hm := makeDirs_of_walk hc.sound hproper (hc.walk_ok hd)
  rw [← hdir] at hm
  exact Write.dir_of_run hc.sound hm (perform_singleton.1 hpage) hp

theorem sameCaches_page : SameCaches t' e := by
  have hce := changes_perform (changes_perform ht h).sound hpage
  refine ⟨hce.workDir, fun p => ⟨dir_of_pageFile ht h hpage, hce.dirs p⟩, fun p hend b => ?_⟩
  refine hce.same p b ?_
  rintro ⟨w, hw, hp⟩
  rw [List.mem_singleton.1 hw] at hp
  exact s.not_cache_pageFile _ t' (hp ▸ hend)

theorem places_page (hd : t'.locate s.store.dir = .ok d) :
    e.places.filter (s.store.lists t' d) = t'.places.filter (s.store.lists t' d) := by
  refine filter_places_perform (changes_perform ht h).sound hpage
    (fun dir name hname hdir => lists_dir hd hname (dir_of_pageFile ht h hpage hdir))
    fun w hw _ => ?_
  rw [Bool.eq_false_iff, List.mem_singleton.1 hw]
  exact fun hl => s.not_cache_pageFile _ t' (endsIn_of_lists hl)

variable (hu : perform (s.script cs) e = .ok () u)
include hu

theorem sameCaches_again : SameCaches t' u := by
  have hpages := sameCaches_page ht h hpage
  have hce := changes_perform (changes_perform ht h).sound hpage
  have hf := follows_of_perform ht h hce.grows hu
  refine ⟨hf.grows.workDir.trans hpages.workDir, fun p => ⟨fun hp => ?_, fun hp => ?_⟩,
    fun p hend b => ?_⟩
  · exact (hpages.dirs p).1 (hf.dirs p hp)
  · exact hf.grows.dirs p ((hpages.dirs p).2 hp)
  · by_cases hT : Targets t' (s.script cs) p
    · exact hf.written p b hT
    · rw [hf.rest p b hT]
      exact hpages.caches p hend b

/-- A listed file is moved by both runs or by none. -/
theorem places_again (hd : t'.locate s.store.dir = .ok d) :
    u.places.filter (s.store.lists t' d) = t'.places.filter (s.store.lists t' d) := by
  have hc := changes_perform ht h
  have hce := changes_perform hc.sound hpage
  have hold : ∀ t : Tree, ∀ w ∈ s.script cs, w.anew = false →
      s.store.lists t' d (t.placeOf w.path) = false := by
    intro t w hw hanew
    rw [Bool.eq_false_iff]
    exact fun hl => not_cache_script hw hanew t (endsIn_of_lists hl)
  have hfirst := filter_places_perform ht h
    (fun dir name hname hdir => lists_dir hd hname hdir) (hold t)
  have hdirs := (sameCaches_again ht h hpage hu).dirs
  have hsecond := filter_places_perform hce.sound hu
    (fun dir name hname hdir => lists_dir hd hname ((hdirs _).1 hdir)) (hold e)
  have hrenewed : renewed (s.store.lists t' d) e (s.script cs) =
      renewed (s.store.lists t' d) t (s.script cs) := by
    simp only [renewed, hce.placeOf, hc.placeOf]
  rw [hsecond, hrenewed, places_page ht h hpage hd, hfirst]
  exact moved_moved _ _

end

section
variable {s : Site} {cs : List Catalog} {t t' e u : Tree} (ht : t.Sound)
  (h : perform (s.script cs) t = .ok () t') (hlist : s.store.list t' = .ok cards)
  (hpage : perform [s.pageFile (.libraries shown)] t' = .ok () e)
include ht h hlist hpage

/-- The page of all libraries changes nothing in the list, unless it lies in the place of the
store. -/
theorem list_page : s.store.list e = .ok cards ∨ cards = [] :=
  (list_same (changes_perform ht h).sound (sameCaches_page ht h hpage)
    (fun _ hd => places_page ht h hpage hd) hlist).imp_right And.left

/-- No two cards on the page have the same name, if none have in a list made after it. -/
theorem unambiguous_shown (hperm : cards.Perm shown) (he : Tree.Rearranged e e')
    (hone : ∀ cards, s.store.list e' = .ok cards → Unambiguous cards) : Unambiguous shown := by
  rcases list_page ht h hlist hpage with hl | rfl
  · obtain ⟨cards', hl', hperm'⟩ := list_perm he.reordered hl
    exact (hone cards' hl').of_perm (hperm.symm.trans hperm'.symm)
  · rw [hperm.nil_eq.symm]
    exact nofun

/-- The libraries are listed as before. Only if none has been published may the list fail: a
page may lie in the place of the store. -/
theorem list_again (hu : perform (s.script cs) e = .ok () u) :
    s.store.list u = .ok cards ∨ (∃ err, s.store.list u = .error err) ∧ cs = [] := by
  refine (list_same (changes_perform ht h).sound (sameCaches_again ht h hpage hu)
    (fun d hd => places_again ht h hpage hu hd) hlist).imp_right ?_
  rintro ⟨-, herr, hwalk⟩
  refine ⟨herr, ?_⟩
  by_contra hne
  obtain ⟨t₁, hstyle, hpubs⟩ := perform_cons_eq_ok h
  obtain ⟨d, hd⟩ := walk_of_publications (Write.changes ht hstyle).sound hne hpubs
  exact hwalk d hd

end

-- ---------------------------------------------------------------------------
-- Two runs
-- ---------------------------------------------------------------------------

section
variable {s : Site} {cs : List Catalog} {t t' e u : Tree} (ht : t.Sound)
  (h : perform (s.script cs) t = .ok () t')
  (hpage : perform [s.pageFile (.libraries shown)] t' = .ok () e)
  (hu : perform (s.script cs) e = .ok () u)
include ht h hpage hu

/-- The script of a run leaves its files as it found them, if the page of all libraries, which
has been written since, is not one of them. -/
theorem script_again
    (hp : Targets t' (s.script cs) p → p ≠ t'.placeOf (join s.output "index.html")) :
    u.get? p = some (.file b) ↔ e.get? p = some (.file b) := by
  have hce := changes_perform (changes_perform ht h).sound hpage
  have hf := follows_of_perform ht h hce.grows hu
  by_cases hT : Targets t' (s.script cs) p
  · rw [hf.written p b hT, hce.same p b]
    rintro ⟨w, hw, hw'⟩
    rw [List.mem_singleton.1 hw] at hw'
    exact hp hT hw'
  · exact hf.rest p b hT

variable (hv : Tree.Rearranged u v) (es : List Event)
include hv

/-- If the same libraries are shown, all files are as they were. -/
theorem page_again (hlist : s.store.list v = .ok shown) :
    (final (s.index ⟨v, es⟩)).tree.get? p = some (.file b) ↔ e.get? p = some (.file b) := by
  have hc := changes_perform ht h
  have hce := changes_perform hc.sound hpage
  have hf := follows_of_perform ht h hce.grows hu
  obtain ⟨u', hu', hf'⟩ := hf.perform hc.sound hpage (.refl hce.sound)
  have hagree := matches_perform [s.pageFile (.libraries shown)] u v hv
  rw [hu'] at hagree
  obtain ⟨v', hv', hre⟩ := hagree.right_ok
  obtain ⟨n, τ, hindex, rfl⟩ := @index_ok _ _ s ⟨v, es⟩ hlist hv'
  rw [hindex, final_ok, hre.get?]
  by_cases hT : Targets e (s.script cs ++ [s.pageFile (.libraries shown)]) p
  · exact hf'.written p b hT
  · exact hf'.rest p b hT

/-- Where no two of the libraries have the same name, the same ones are shown. -/
theorem index_again (hlist : s.store.list t' = .ok shown) (hone : Unambiguous shown) :
    (final (s.index ⟨v, es⟩)).tree.get? p = some (.file b) ↔ e.get? p = some (.file b) := by
  rcases list_again ht h hlist hpage hu with hl | ⟨⟨err, hl⟩, hnil⟩
  · exact page_again ht h hpage hu hv es (list_reordered hv.reordered hl hone)
  · -- the list fails, and the style sheet is all that has been written
    obtain ⟨err', hl'⟩ := list_error hv.reordered hl
    rw [@index_error _ s ⟨v, es⟩ hl', hv.get?]
    refine script_again ht h hpage hu ?_
    rintro ⟨w, hw, rfl⟩ hplace
    rw [hnil] at hw
    have hcss := s.endsIn_styleFile t'
    rw [← List.mem_singleton.1 hw, hplace] at hcss
    exact not_endsIn (s.endsIn_pageFile (.libraries shown) t') (by decide) (by decide) hcss

/-- The other files do not depend on what is shown. -/
theorem others_again (hp : p ≠ t'.placeOf (join s.output "index.html")) :
    (final (s.index ⟨v, es⟩)).tree.get? p = some (.file b) ↔ e.get? p = some (.file b) := by
  have hce := changes_perform (changes_perform ht h).sound hpage
  have hcv := (changes_perform hce.sound hu).congr hv.workDir hv.get?
  have hci := @changes_index s ⟨v, es⟩ hcv.sound
  rw [hci.same p b, hv.get?]
  · exact script_again ht h hpage hu fun _ => hp
  · rw [hcv.placeOf, hce.placeOf]
    exact hp

end

/-- Making a run again that went without failures leaves every file as it is, whatever order the
file system lists directories in. For the page of all libraries this takes that no two listed cards
have the same name. -/
theorem generate_again (s : Site) (o o' : Arrangement) (roots : List String) (σ σ' : Session)
    (r : Report) (hσ : σ.tree.Sound) (hrun : s.generateIn o roots σ = .ok r σ')
    (hok : r.hasFailures = false)
    (hcards : ∀ l o, (l, o) ∈ r.splices → s.Labelled l σ.tree)
    (hdown : ∀ l, (l, .missingCache) ∈ r.splices → ".." ∉ parts l)
    (hsize : ∀ path n, .cacheWritten path n ∈ σ'.events → n < UInt32.size) :
    ∀ p b, (p = σ'.tree.placeOf (join s.output "index.html") →
        ∀ cards, s.store.list σ'.tree = .ok cards → Unambiguous cards) →
      ((final (s.generateIn o' roots σ')).tree.get? p = some (.file b) ↔
        σ'.tree.get? p = some (.file b)) := by
  obtain ⟨results, report, σ₁, t, n, hdocument, ht, hindex, rfl⟩ := generateIn_eq_ok hrun
  have hnone : ∀ r ∈ (reported results report).splices, ∀ e, r.2 ≠ .failed e :=
    Report.not_failed hok
  have hsizes := Silent.index s _ _ _ hindex
  obtain ⟨cs, ds, t₁, t₂, t₃, hcourse⟩ := course_of_document hσ hdocument (reported_ok hok)
    hnone hcards hdown fun n hn => by
      obtain ⟨path, he⟩ := mem_sizes.1 (hsizes ▸ hn)
      exact hsize path n he
  have hc₁ := changes_makeDirs hσ s.output
  rw [hcourse.output, final_ok] at hc₁
  have hfirst := hcourse.performs
  -- the first run, with the entries as they were made
  obtain ⟨shown, e, hshown, he, hre⟩ := index_rearranged ht hindex
  have hce := changes_perform (changes_perform hc₁.sound hfirst).sound he
  -- the second run, from there
  obtain ⟨x, τ, hagain, hsecond⟩ := hcourse.again (σ := ⟨e, σ'.events⟩) hσ
    (fun w hw => List.mem_singleton.1 hw ▸ s.isOutput_pageFile _)
    (fun w hw => List.mem_singleton.1 hw ▸ s.not_cache_pageFile _) he
  obtain ⟨v, hv, hfinal⟩ := final_generateIn hagain ⟨hre, rfl⟩ o'
  have hplace : σ'.tree.placeOf (join s.output "index.html") =
      σ₁.tree.placeOf (join s.output "index.html") := by
    rw [hre.placeOf, hce.placeOf]
  intro p b hp
  rw [hfinal, hre.get?]
  rw [hplace] at hp
  by_cases hpp : p = σ₁.tree.placeOf (join s.output "index.html")
  · obtain ⟨cards, hlist, hperm⟩ := list_perm ht.symm.reordered hshown
    have hone := unambiguous_shown hc₁.sound hfirst hlist he hperm hre (hp hpp)
    exact index_again hc₁.sound hfirst he hsecond hv _
      (list_reordered ht.symm.reordered hshown hone) hone
  · exact others_again hc₁.sound hfirst he hsecond hv _ hpp

-- ---------------------------------------------------------------------------
-- Runs spelled out
-- ---------------------------------------------------------------------------

/-- What the turns of all targets come to, seen from a tree. -/
def TurnsTo (s : Site) (gs : List (String × List Item)) (rs : List (String × Outcome))
    (ns : List Nat) (t t' : Tree) : Prop :=
  ∀ σ : Session, σ.tree = t →
    ∃ σ', gs.mapM s.spliceGroup σ = .ok rs σ' ∧ σ'.tree = t' ∧ sizes σ' = sizes σ ++ ns

theorem TurnsTo.nil (s : Site) (t : Tree) : s.TurnsTo [] [] [] t t := by
  rintro σ rfl
  exact ⟨σ, rfl, rfl, (List.append_nil _).symm⟩

theorem TurnsTo.missing {s : Site} {gs : List (String × List Item)} {t : Tree}
    (h : s.TurnsTo gs rs ns t t') (hread : t.read (s.store.path l) = .error .notFound) :
    s.TurnsTo ((l, is) :: gs) ((l, .missingCache) :: rs) ns t t' := by
  rintro σ rfl
  have hnone : s.store.read σ.tree l = .ok none := read_eq_none_iff.2 hread
  obtain ⟨σ₁, hturn, ht₁⟩ := spliceGroup_missing hnone is
  rcases spliceGroup_cases hturn nofun with ⟨-, -, -, hn⟩ | ⟨cached, hsome, -⟩
  · obtain ⟨σ', hrest, ht, hns⟩ := h σ₁ ht₁
    exact ⟨σ', mapM_cons_ok hturn hrest, ht, hn ▸ hns⟩
  · rw [hnone] at hsome
    cases hsome

theorem TurnsTo.found {s : Site} {gs : List (String × List Item)} {t : Tree}
    (h : s.TurnsTo gs rs ns t₁ t') (hfit : Wire.RecordFits r)
    (hread : t.read (s.store.path l) = .ok (Wire.encodeRecord r))
    (hc : (s.extended is r).catalog = c) (hn : (s.extended is r).added = n)
    (hp : perform (s.publication c) t = .ok () t₁) :
    s.TurnsTo ((l, is) :: gs) ((l, .spliced n) :: rs) (cacheSize c :: ns) t t' := by
  subst hc hn
  rintro σ rfl
  have hsome := read_of_written hfit hread
  obtain ⟨σ₁, hturn, ht₁⟩ := @spliceGroup_ok _ _ s (l, is) σ hsome hp
  rcases spliceGroup_cases hturn nofun with ⟨hnone, -⟩ | ⟨cached, hsome', -, hstep⟩
  · rw [hsome] at hnone
    cases hnone
  · rw [hsome] at hsome'
    cases hsome'
    obtain ⟨σ', hrest, ht, hns⟩ := h σ₁ ht₁
    refine ⟨σ', mapM_cons_ok hturn hrest, ht, ?_⟩
    rw [hns, hstep.told, List.append_assoc]
    rfl

/-- The run of one directory, from what each of its steps does. -/
theorem generate_one {s : Site} {σ : Session}
    (hdir : makeDirs s.output σ.tree = .ok () σ.tree)
    (hstyle : perform [s.styleFile] σ.tree = .ok () t₁) (hσ₁ : t₁.Sound)
    (hc : s.catalogOf t₁ root = .ok c) (hpub : perform (s.publication c) t₁ = .ok () t₂)
    (hturns : s.TurnsTo (s.groups (declared c)) rs ns t₂ t₃)
    (hrs : ∀ r ∈ rs, r.2.failure? = none) (hlist : s.store.list t₃ = .ok cards)
    (hpage : perform [s.pageFile (.libraries cards)] t₃ = .ok () t₄) :
    ∃ r σ', s.generate [root] σ = .ok r σ' ∧ r.hasFailures = false ∧ r.splices = rs ∧
      σ'.tree = t₄ ∧ sizes σ' = sizes σ ++ cacheSize c :: ns := by
  obtain ⟨τ₁, hinit, rfl⟩ := init_eq_ok_iff.2 ⟨_, hdir, hstyle⟩
  have hpubs : perform ([c].flatMap s.publication) τ₁.tree = .ok () t₂ := by
    rwa [List.flatMap_singleton]
  obtain ⟨results, τ₂, hroots, rfl, hitems, hok⟩ := mapM_tryRoot_ok hσ₁ (.cons hc .nil) hpubs
  obtain ⟨cs, hcs, -, -, htold⟩ := mapM_tryRoot hσ₁ hroots hok
  -- the library that was documented is the one in the directory
  obtain rfl : cs = [c] := by
    obtain _ | ⟨hc', hnil⟩ := hcs
    cases hnil
    have hsame := catalogOf_perform hσ₁ (s.isOutput_publications [c]) hpubs hc
    rw [hsame] at hc'
    rw [Except.ok.inj hc']
  rw [List.flatMap_singleton] at hitems
  obtain ⟨report, τ₃, hresolve⟩ := s.resolve_ok (itemsOf results) τ₂
  obtain ⟨τ₂', ht₂, hn₂, hmap⟩ := resolve_turns hresolve
  obtain ⟨τ₃', hmap', rfl, hn₃⟩ := hturns τ₂' ht₂
  rw [hitems, hmap'] at hmap
  cases hmap
  obtain ⟨n, τ₄, hindex, rfl⟩ := index_ok hlist hpage
  obtain ⟨r, hrun, hsplices, hfailed⟩ := generate_ok hinit hroots hresolve hok hindex
  refine ⟨r, τ₄, hrun, ?_, hsplices, rfl, ?_⟩
  · simp only [Report.hasFailures, Report.failures, hfailed, hsplices, List.nil_append,
      Bool.not_eq_false', List.isEmpty_iff, List.filterMap_eq_nil_iff]
    intro r hr
    rw [hrs r hr, Option.map_none]
  · rw [Silent.index s _ _ _ hindex, hn₃, hn₂, htold, Silent.init s _ _ _ hinit, List.append_assoc]
    rfl

theorem labelled_of_written {s : Site} {t : Tree} (hfit : Wire.RecordFits r)
    (hfile : t.get? (t.placeOf (s.store.path r.metadata.name)) =
      some (.file (Wire.encodeRecord r))) : s.Labelled r.metadata.name t := by
  intro b r' hb hdecode
  rw [hfile] at hb
  cases hb
  rw [Wire.decodeRecord_encodeRecord hfit] at hdecode
  cases hdecode
  rfl

-- ---------------------------------------------------------------------------
-- A library in a directory
-- ---------------------------------------------------------------------------

def libManifest : String := "name: e\nversion: 1\nauthor: a\ndescription: d\n"

def libCard : Metadata := ⟨"e", "1", "a", "d", none⟩

/-- A tree with the directory of a library of one source file. -/
def withLib (source : String) (entries : List (Place × Entry)) : Tree :=
  ⟨[], entries ++ [(["lib"], .directory), (["lib", "qll.info"], .file (textBytes libManifest)),
    (["lib", "qilletni-src"], .directory),
    (["lib", "qilletni-src", "e.ql"], .file (textBytes source))]⟩

theorem ofManifest_lib : Metadata.ofManifest libManifest = .ok libCard := by
  have hcard : (Metadata.ofManifest libManifest).toOption = some libCard := by decide +kernel
  cases hm : Metadata.ofManifest libManifest with
  | error e =>
    rw [hm] at hcard
    cases hcard
  | ok m =>
    rw [hm] at hcard
    rw [Option.some.inj hcard]

/-- What is looked at in the directory of the library. -/
structure Laid (text : String) (t : Tree) : Prop where
  manifest : t.locate "lib/qll.info" = .ok ["lib", "qll.info"]
  manifestFile : t.get? ["lib", "qll.info"] = some (.file (textBytes libManifest))
  sources : t.isDir "lib/qilletni-src" = true
  below : (t.filesBelow "lib/qilletni-src").filter
    (fun p => (p.getLast?).any LibraryRoot.isSourceName) = [["e.ql"]]
  source : t.locate "lib/qilletni-src/e.ql" = .ok ["lib", "qilletni-src", "e.ql"]
  sourceFile : t.get? ["lib", "qilletni-src", "e.ql"] = some (.file (textBytes text))

theorem Laid.catalogOf {s : Site} (h : Laid text t)
    (hparse : Source.parse ⟨"e", "e.ql"⟩ text = f)
    (hc : Catalog.ofParsed s.links.stdName libCard [f] = c) : s.catalogOf t "lib" = .ok c := by
  have hpaths : join "lib" LibraryRoot.manifestFile = "lib/qll.info" ∧
      join "lib" sourceDir = "lib/qilletni-src" ∧
      LibraryRoot.searchPath? "lib/qilletni-src" = some "lib/qilletni-src" ∧
      join "lib/qilletni-src" (LibraryRoot.slashed ["e.ql"]) = "lib/qilletni-src/e.ql" ∧
      LibraryRoot.importPath "lib/qilletni-src" "lib/qilletni-src" ["e.ql"] = "e.ql" := by
    decide +kernel
  obtain ⟨hinfo, hdir, hfound, hfile, himport⟩ := hpaths
  have hmanifest := LibraryRoot.readText_of_get? h.manifest h.manifestFile
  have hsource := LibraryRoot.readText_of_get? h.source h.sourceFile
  rw [← hinfo] at hmanifest
  rw [← hfile] at hsource
  have hm := LibraryRoot.manifest_of_text hmanifest ofManifest_lib
  have hf : LibraryRoot.sources t libCard.name "lib" = .ok [f] := by
    rw [LibraryRoot.sources_of_text hdir hfound h.sources h.below hsource, himport]
    exact congrArg (fun f => Except.ok [f]) hparse
  exact bind_eq_ok.2 ⟨_, hm, bind_eq_ok.2 ⟨_, hf, congrArg Except.ok hc⟩⟩

/-- The files of a library with its pages spelled out. -/
def publicationOf (s : Site) (c : Catalog) (pages : List Page) : List Write :=
  pages.map s.pageFile ++ [s.searchFile c, s.cacheFile c]

def after (ws : List Write) (t : Tree) : Tree := final (perform ws t)

theorem perform_after {t : Tree} (h : isOk (perform ws t) = true) :
    perform ws t = .ok () (after ws t) := by
  unfold after
  cases hp : perform ws t with
  | ok u t' => rfl
  | error e t' =>
    rw [hp] at h
    cases h

theorem publication_after {s : Site} {t : Tree} (hpages : Page.ofLibrary c = pages)
    (h : isOk (perform (s.publicationOf c pages) t) = true) :
    perform (s.publication c) t = .ok () (after (s.publicationOf c pages) t) := by
  rw [publication, hpages]
  exact perform_after h

def cards (s : Site) (t : Tree) : List Metadata := (s.store.list t).toOption.getD []

theorem list_cards {s : Site} {t : Tree} (h : (s.store.list t).isOk = true) :
    s.store.list t = .ok (s.cards t) := by
  unfold cards
  cases hl : s.store.list t with
  | ok cards => rfl
  | error e =>
    rw [hl] at h
    cases h

-- ---------------------------------------------------------------------------
-- A library outside of the run
-- ---------------------------------------------------------------------------

def reachingFun : Item := onBox "e" "e.ql" "g"

def reachingCatalog : Catalog := ⟨libCard, "std", [⟨"e.ql", "e.ql", [reachingFun]⟩], []⟩

def reachingPages : List Page := pagesOf reachingCatalog []

def reachingSource : String := "/** @on b.B */\nfun g() on B\n"

/-- Only one of the two libraries has a directory; the other one is in the store. -/
def reachingTree : Tree :=
  withLib reachingSource [(["site"], .directory), (["cache"], .directory),
    (["cache", "b.cache"], .file (Wire.encodeRecord (boxCatalog [boxFun]).record))]

theorem catalogOf_reaching : plainSite.catalogOf reachingTree "lib" = .ok reachingCatalog := by
  have hlaid : Laid reachingSource reachingTree := by
    refine ⟨?_, rfl, ?_, ?_, ?_, rfl⟩ <;> decide
  refine hlaid.catalogOf (f := ⟨"e.ql", "e.ql", [reachingFun]⟩) ?_ ?_
  · with_unfolding_all rfl
  · cbv

theorem ofLibrary_reaching : Page.ofLibrary reachingCatalog = reachingPages :=
  ofLibrary_of_entities (by cbv)

def reachTree₁ : Tree := after [plainSite.styleFile] reachingTree
def reachTree₂ : Tree := after (plainSite.publicationOf reachingCatalog reachingPages) reachTree₁
def reachTree₃ : Tree :=
  after (plainSite.publicationOf (boxCatalog [boxFun, reachingFun])
    (boxPages [boxFun, reachingFun])) reachTree₂

def reachTree₄ : Tree :=
  after [plainSite.pageFile (.libraries (plainSite.cards reachTree₃))] reachTree₃

def reachSizes : List Nat :=
  [cacheSize reachingCatalog, cacheSize (boxCatalog [boxFun, reachingFun])]

theorem reach_trees :
    reachingTree.walk (reachingTree.start plainSite.output) (parts plainSite.output) =
        .ok ["site"] ∧
      isOk (perform [plainSite.styleFile] reachingTree) = true ∧
      isOk (perform (plainSite.publicationOf reachingCatalog reachingPages) reachTree₁) = true ∧
      reachTree₂.read (plainSite.store.path "b") =
        .ok (Wire.encodeRecord (boxCatalog [boxFun]).record) ∧
      isOk (perform (plainSite.publicationOf (boxCatalog [boxFun, reachingFun])
        (boxPages [boxFun, reachingFun])) reachTree₂) = true ∧
      (plainSite.store.list reachTree₃).isOk = true ∧
      isOk (perform [plainSite.pageFile (.libraries (plainSite.cards reachTree₃))] reachTree₃) =
        true := by
  decide +kernel

theorem reach_small :
    reachingTree.get? (reachingTree.placeOf (plainSite.store.path "b")) =
        some (.file (Wire.encodeRecord (boxCatalog [boxFun]).record)) ∧
      (∀ n ∈ reachSizes, n < UInt32.size) ∧
      reachTree₄.locate "cache" = .ok ["cache"] ∧
      reachTree₄.get? ["cache"] = some .directory ∧
      Unambiguous
        (reachTree₄.places.filterMap (plainSite.store.cardAt? reachTree₄ ["cache"])) := by
  decide +kernel

theorem sound_reachingTree : reachingTree.Sound := sound_of_entries rfl (by decide)

theorem reach_groups :
    plainSite.groups (declared reachingCatalog) = [("b", [reachingFun])] := by cbv

theorem extended_reaching :
    (plainSite.extended [reachingFun] (boxCatalog [boxFun]).record).catalog =
        boxCatalog [boxFun, reachingFun] ∧
      (plainSite.extended [reachingFun] (boxCatalog [boxFun]).record).added = 1 :=
  ⟨by cbv, by cbv⟩

theorem generate_reaching : ∃ r σ, plainSite.generate ["lib"] ⟨reachingTree, []⟩ = .ok r σ ∧
    r.hasFailures = false ∧ r.splices = [("b", .spliced 1)] ∧ σ.tree = reachTree₄ ∧
    sizes σ = reachSizes := by
  obtain ⟨hwalk, hstyle, hpub, hread, hsplice, hlist, hpage⟩ := reach_trees
  have hsound := sound_reachingTree
  have hstyle := perform_after hstyle
  have hc := catalogOf_perform hsound
    (fun w hw => List.mem_singleton.1 hw ▸ plainSite.isOutput_styleFile) hstyle catalogOf_reaching
  have hpub := publication_after ofLibrary_reaching hpub
  have hsplice := publication_after (ofLibrary_box _) hsplice
  have hturns := (TurnsTo.nil plainSite reachTree₃).found (by decide) hread extended_reaching.1
    extended_reaching.2 hsplice
  rw [← reach_groups] at hturns
  have hdir := makeDirs_of_walk hsound ⟨by decide, by decide⟩ hwalk
  exact @generate_one _ _ _ _ _ _ _ _ _ plainSite
    ⟨reachingTree, []⟩ hdir hstyle (changes_perform hsound hstyle).sound hc hpub hturns
    (by simp [Outcome.failure?]) (list_cards hlist) (perform_after hpage)

/-- The library outside of the run has its new extension from the first run on, also where the
second run lists directories in the opposite order. -/
theorem generate_again_reaching :
    reachingTree.Sound ∧ ∃ r σ, plainSite.generate ["lib"] ⟨reachingTree, []⟩ = .ok r σ ∧
      r.hasFailures = false ∧ r.splices = [("b", .spliced 1)] ∧
      ∀ p b, (final (plainSite.generateIn .reversed ["lib"] σ)).tree.get? p = some (.file b) ↔
        σ.tree.get? p = some (.file b) := by
  obtain ⟨r, σ, hrun, hok, hsplices, ht, hsizes⟩ := generate_reaching
  obtain ⟨hwritten, hsmall, hstore, hdir, hone⟩ := reach_small
  refine ⟨sound_reachingTree, r, σ, hrun, hok, hsplices, fun p b => ?_⟩
  rw [← generateIn_kept] at hrun
  refine generate_again plainSite .kept .reversed ["lib"] ⟨reachingTree, []⟩ σ r
    sound_reachingTree hrun hok ?_ ?_ ?_ p b ?_
  · intro l o hmem
    rw [hsplices, List.mem_singleton] at hmem
    cases hmem
    exact @labelled_of_written (boxCatalog [boxFun]).record _ _ (by decide) hwritten
  · intro l hmem
    rw [hsplices, List.mem_singleton] at hmem
    cases hmem
  · intro path n he
    have hn : n ∈ sizes σ := mem_sizes.2 ⟨path, he⟩
    exact hsmall n (hsizes ▸ hn)
  · rintro - cards hlist
    rw [ht] at hlist
    exact unambiguous_list hstore hdir hone hlist

-- ---------------------------------------------------------------------------
-- A name that climbs
-- ---------------------------------------------------------------------------

/-- A library that extends the one with the climbing name, and one more. -/
def extender : Catalog := ⟨libCard, climber, [⟨"e.ql", "e.ql", [onInt, onZ]⟩], []⟩

def extenderPages : List Page := pagesOf extender []

def extenderSource : String := "fun f() on int\n/** @on z.E */\nfun g() on E\n"

def extenderTree : Tree := withLib extenderSource climbTree.entries

theorem sound_extenderTree : extenderTree.Sound := sound_of_entries rfl (by decide)

theorem catalogOf_extender : climbSite.catalogOf extenderTree "lib" = .ok extender := by
  have hlaid : Laid extenderSource extenderTree := by
    refine ⟨?_, rfl, ?_, ?_, ?_, rfl⟩ <;> decide
  refine hlaid.catalogOf (f := ⟨"e.ql", "e.ql", [onInt, onZ]⟩) ?_ ?_
  · with_unfolding_all rfl
  · cbv

theorem ofLibrary_extender : Page.ofLibrary extender = extenderPages :=
  ofLibrary_of_entities (by cbv)

theorem groups_extender :
    climbSite.groups (declared extender) = [(climber, [onInt]), ("z", [onZ])] := by
  have hdeclared : declared extender = [onZ, onInt] := by cbv
  have hz : (Target.ofItem? climber onZ).map (·.library) = some "z" := by decide
  have hint : (Target.ofItem? climber onInt).map (·.library) = some climber := by decide
  have hne : "z" ≠ climber := by decide
  have hle : decide ("z" ≤ climber) = false := by decide
  have hnames : [onZ, onInt].filterMap (fun i => (Target.ofItem? climber i).map (·.library)) =
      ["z", climber] := by
    simp only [List.filterMap_cons, hz, hint, List.filterMap_nil]
  have hdups : ["z", climber].eraseDups = ["z", climber] := by
    simp [List.eraseDups_cons, hne.symm]
  have hsort : ["z", climber].mergeSort (fun a b => decide (a ≤ b)) = [climber, "z"] := by
    simp [List.mergeSort, List.MergeSort.Internal.splitInTwo, hle]
  have hstd : climbSite.links.stdName = climber := rfl
  rw [hdeclared]
  simp only [groups, Routing.ofItems, hstd, hnames, hdups, hsort, List.map_cons, List.map_nil,
    List.filter_cons, List.filter_nil, hz, hint]
  simp [hne, hne.symm]

def extenderWrites : List Write := climbSite.publicationOf extender extenderPages
def zWrites : List Write := climbSite.publicationOf (libraryOf "z" []) zPages
def climberWrites : List Write :=
  climbSite.publicationOf (libraryOf climber [intEntity [onInt]]) climbPages

def listWrites (t : Tree) : List Write := [climbSite.pageFile (.libraries (climbSite.cards t))]

def first₁ : Tree := after [climbSite.styleFile] extenderTree
def first₂ : Tree := after extenderWrites first₁
def first₃ : Tree := after zWrites first₂
def first₄ : Tree := after (listWrites first₃) first₃
def second₁ : Tree := after [climbSite.styleFile] first₄
def second₂ : Tree := after extenderWrites second₁
def second₃ : Tree := after climberWrites second₂
def second₄ : Tree := after zWrites second₃
def second₅ : Tree := after (listWrites second₄) second₄

def climberBytes : List UInt8 := Wire.encodeRecord (libraryOf climber [intEntity []]).record

def zBytes : List UInt8 := Wire.encodeRecord (libraryOf "z" []).record

def firstSizes : List Nat := [cacheSize extender, cacheSize (libraryOf "z" [])]

theorem first_trees :
    extenderTree.walk (extenderTree.start climbSite.output) (parts climbSite.output) =
        .ok ["site"] ∧
      isOk (perform [climbSite.styleFile] extenderTree) = true ∧
      isOk (perform extenderWrites first₁) = true ∧
      first₂.read (climbSite.store.path climber) = .error .notFound ∧
      first₂.read (climbSite.store.path "z") = .ok zBytes ∧
      isOk (perform zWrites first₂) = true ∧
      (climbSite.store.list first₃).isOk = true ∧
      isOk (perform (listWrites first₃) first₃) = true ∧
      first₄.get? ["site", "library", "b.cache"] = some (.file climberBytes) ∧
      (∀ n ∈ firstSizes, n < UInt32.size) := by
  decide +kernel

theorem second_trees :
    first₄.walk (first₄.start climbSite.output) (parts climbSite.output) = .ok ["site"] ∧
      isOk (perform [climbSite.styleFile] first₄) = true ∧
      isOk (perform extenderWrites second₁) = true ∧
      second₂.read (climbSite.store.path climber) = .ok climberBytes ∧
      isOk (perform climberWrites second₂) = true ∧
      second₃.read (climbSite.store.path "z") = .ok zBytes ∧
      isOk (perform zWrites second₃) = true ∧
      (climbSite.store.list second₄).isOk = true ∧
      isOk (perform (listWrites second₄) second₄) = true ∧
      second₅.get? ["site", "library", "b.cache"] ≠ some (.file climberBytes) := by
  decide +kernel

/-- A tree that holds the library as it was. -/
def Kept (t : Tree) : Prop := t.Sound ∧ climbSite.catalogOf t "lib" = .ok extender

theorem Kept.perform (h : Kept t) (hws : ∀ w ∈ ws, LibraryRoot.IsOutput w)
    (hp : perform ws t = .ok u t') : Kept t' :=
  ⟨(changes_perform h.1 hp).sound, catalogOf_perform h.1 hws hp h.2⟩

theorem generate_kept {t : Tree} (es : List Event) (ht : Kept t)
    (hwalk : t.walk (t.start climbSite.output) (parts climbSite.output) = .ok p)
    (hstyle : perform [climbSite.styleFile] t = .ok () t₁)
    (hpub : perform (climbSite.publication extender) t₁ = .ok () t₂)
    (hturns : climbSite.TurnsTo [(climber, [onInt]), ("z", [onZ])] rs ns t₂ t₃)
    (hrs : ∀ r ∈ rs, r.2.failure? = none) (hlist : (climbSite.store.list t₃).isOk = true)
    (hpage : isOk (perform (listWrites t₃) t₃) = true) :
    ∃ r σ, climbSite.generate ["lib"] ⟨t, es⟩ = .ok r σ ∧ r.hasFailures = false ∧
      r.splices = rs ∧ σ.tree = after (listWrites t₃) t₃ ∧
      sizes σ = sizes ⟨t, es⟩ ++ cacheSize extender :: ns := by
  have hdir := makeDirs_of_walk ht.1 ⟨by decide, by decide⟩ hwalk
  have hkept := ht.perform
    (fun w hw => List.mem_singleton.1 hw ▸ climbSite.isOutput_styleFile) hstyle
  rw [← groups_extender] at hturns
  exact @generate_one _ _ _ _ _ _ _ _ _ climbSite ⟨t, es⟩ hdir hstyle hkept.1 hkept.2 hpub hturns
    hrs (list_cards hlist) (perform_after hpage)

/-- The first run misses the library with the climbing name. -/
theorem generate_first : ∃ r es,
    climbSite.generate ["lib"] ⟨extenderTree, []⟩ = .ok r ⟨first₄, es⟩ ∧
    r.hasFailures = false ∧ r.splices = [(climber, .missingCache), ("z", .spliced 0)] ∧
    sizes ⟨first₄, es⟩ = firstSizes := by
  obtain ⟨hwalk, hstyle, hpub, hmissing, hz, hsplice, hlist, hpage, -⟩ := first_trees
  have hadded : (climbSite.extended [onZ] (libraryOf "z" []).record).added = 0 := by cbv
  have hturns : climbSite.TurnsTo [(climber, [onInt]), ("z", [onZ])] _ _ first₂ first₃ :=
    ((TurnsTo.nil climbSite first₃).found (by decide) hz extended_z hadded
      (publication_after ofLibrary_z hsplice)).missing hmissing
  obtain ⟨r, σ, hrun, hok, hsplices, ht, hsizes⟩ := generate_kept []
    ⟨sound_extenderTree, catalogOf_extender⟩ hwalk (perform_after hstyle)
    (publication_after ofLibrary_extender hpub) hturns (by simp [Outcome.failure?]) hlist hpage
  have hσ : σ = ⟨first₄, σ.events⟩ := congrArg (Session.mk · σ.events) ht
  rw [hσ] at hrun hsizes
  exact ⟨r, σ.events, hrun, hok, hsplices, hsizes⟩

theorem kept_first : Kept first₄ := by
  obtain ⟨-, hstyle, hpub, -, -, hsplice, -, hpage, -⟩ := first_trees
  have h₀ : Kept extenderTree := ⟨sound_extenderTree, catalogOf_extender⟩
  have h₁ := h₀.perform (fun w hw => List.mem_singleton.1 hw ▸ climbSite.isOutput_styleFile)
    (perform_after hstyle)
  have h₂ := h₁.perform (climbSite.isOutput_publication extender)
    (publication_after ofLibrary_extender hpub)
  have h₃ := h₂.perform (climbSite.isOutput_publication _) (publication_after ofLibrary_z hsplice)
  exact h₃.perform (fun w hw => List.mem_singleton.1 hw ▸ climbSite.isOutput_pageFile _)
    (perform_after hpage)

/-- The second run finds it, where the first one has made a directory. -/
theorem generate_second (es : List Event) :
    ∃ r σ', climbSite.generate ["lib"] ⟨first₄, es⟩ = .ok r σ' ∧ r.hasFailures = false ∧
      r.splices = [(climber, .spliced 1), ("z", .spliced 0)] ∧ σ'.tree = second₅ := by
  obtain ⟨hwalk, hstyle, hpub, hclimber, hfound, hz, hsplice, hlist, hpage, -⟩ := second_trees
  have hadded : (climbSite.extended [onZ] (libraryOf "z" []).record).added = 0 := by cbv
  have hadded' : (climbSite.extended [onInt] (libraryOf climber [intEntity []]).record).added =
      1 := by cbv
  have hturns : climbSite.TurnsTo [(climber, [onInt]), ("z", [onZ])] _ _ second₂ second₄ :=
    ((TurnsTo.nil climbSite second₄).found (by decide) hz extended_z hadded
      (publication_after ofLibrary_z hsplice)).found (by decide) hclimber extended_climber hadded'
      (publication_after ofLibrary_climber hfound)
  obtain ⟨r, σ', hrun, hok, hsplices, ht, -⟩ := generate_kept es kept_first hwalk
    (perform_after hstyle) (publication_after ofLibrary_extender hpub) hturns
    (by simp [Outcome.failure?]) hlist hpage
  exact ⟨r, σ', hrun, hok, hsplices, ht⟩

/-- A library with a climbing name is missed by the first run and extended by the second. -/
theorem climber_extended :
    extenderTree.Sound ∧ ∃ r σ, climbSite.generate ["lib"] ⟨extenderTree, []⟩ = .ok r σ ∧
      r.hasFailures = false ∧ (∀ l o, (l, o) ∈ r.splices → climbSite.Labelled l extenderTree) ∧
      (∀ path n, .cacheWritten path n ∈ σ.events → n < UInt32.size) ∧
      ∃ p b, EndsIn ".cache" p ∧ σ.tree.get? p = some (.file b) ∧
        (final (climbSite.generate ["lib"] σ)).tree.get? p ≠ some (.file b) := by
  obtain ⟨r, es, hrun, hok, hsplices, hsizes⟩ := generate_first
  obtain ⟨r', σ', hrun', -, -, htree'⟩ := generate_second es
  obtain ⟨-, -, -, -, -, -, -, -, hbefore, hsmall⟩ := first_trees
  obtain ⟨-, -, -, -, -, -, -, -, -, hafter⟩ := second_trees
  refine ⟨sound_extenderTree, r, ⟨first₄, es⟩, hrun, hok, ?_, ?_, ["site", "library", "b.cache"],
    climberBytes, ⟨"b.cache", rfl, by decide⟩, by dsimp only; exact hbefore, ?_⟩
  · have hclimber := @labelled_of_written (libraryOf climber [intEntity []]).record climbSite
      extenderTree (by decide) (by decide)
    have hz := @labelled_of_written (libraryOf "z" []).record climbSite extenderTree (by decide)
      (by decide)
    intro l o hmem
    simp only [hsplices, List.mem_cons, List.not_mem_nil, or_false, Prod.mk.injEq] at hmem
    obtain ⟨rfl, -⟩ | ⟨rfl, -⟩ := hmem
    · exact hclimber
    · exact hz
  · intro path n he
    have hn := mem_sizes.2 ⟨path, he⟩
    rw [hsizes] at hn
    exact hsmall n hn
  · rw [hrun', final, htree']
    exact hafter

-- ---------------------------------------------------------------------------
-- Two cards of one name
-- ---------------------------------------------------------------------------

/-- A run without directories, from what each of its steps does. -/
theorem generateIn_nil {s : Site} {o : Arrangement} {σ : Session}
    (hdir : makeDirs s.output σ.tree = .ok () σ.tree)
    (hstyle : perform [s.styleFile] σ.tree = .ok () t₁) (harrange : o.arrange t₁ = t)
    (hlist : s.store.list t = .ok ms)
    (hpage : perform [s.pageFile (.libraries ms)] t = .ok () t₂) :
    ∃ r σ', s.generateIn o [] σ = .ok r σ' ∧ r.hasFailures = false ∧ r.splices = [] ∧
      σ'.tree = t₂ := by
  subst harrange
  obtain ⟨τ₁, hinit, rfl⟩ := init_eq_ok_iff.2 ⟨_, hdir, hstyle⟩
  obtain ⟨report, τ, hresolve, -, hnone, hτ⟩ := s.resolve_nil τ₁
  rw [← hτ] at hlist hpage
  obtain ⟨n, σ', hindex, ht⟩ := @index_ok _ _ s ⟨o.arrange τ.tree, τ.events⟩ hlist hpage
  have hdocument : s.documentIn o [] σ = .ok ([], report) τ := by
    rw [documentIn, run_bind_ok hinit]
    exact run_bind_ok hresolve
  refine ⟨reported [] report, σ', ?_, ?_, hnone, ht⟩
  · rw [generateIn, run_bind_ok hdocument, run_bind_ok (run_rearrange o τ), run_bind_ok hindex]
    rfl
  · simp [reported, Report.hasFailures, Report.failures, hnone]

def older : Metadata := ⟨"n", "1", "a", "d", none⟩

def newer : Metadata := ⟨"n", "2", "a", "d", none⟩

/-- Two cache files with libraries of the same name. -/
def namesakes : Tree :=
  ⟨[], [(["site"], .directory), (["cache"], .directory),
    (["cache", "x.cache"], .file (Wire.encodeRecord ⟨older, [], []⟩)),
    (["cache", "y.cache"], .file (Wire.encodeRecord ⟨newer, [], []⟩))]⟩

def librariesPage (ms : List Metadata) : List Write := [plainSite.pageFile (.libraries ms)]

def pageBytes : List UInt8 := textBytes ((Page.libraries [older, newer]).render plainSite.links)

def namesakes₁ : Tree := after [plainSite.styleFile] namesakes
def namesakes₂ : Tree := after (librariesPage [older, newer]) namesakes₁
def namesakes₃ : Tree := Arrangement.reversed.arrange (after [plainSite.styleFile] namesakes₂)
def namesakes₄ : Tree := after (librariesPage [newer, older]) namesakes₃

/-- The cards of a store that has them in its cache files, in this order. -/
structure Holding (ms : List Metadata) (t : Tree) : Prop where
  store : t.locate plainSite.store.dir = .ok ["cache"]
  directory : t.get? ["cache"] = some .directory
  files : (t.places.filterMap (plainSite.store.listed? t ["cache"])).mapM (card t) = .ok ms

theorem Holding.list (h : Holding [a, b] t) (hname : a.name = b.name) :
    plainSite.store.list t = .ok [a, b] := by
  have hsort : byName [a, b] = [a, b] := by
    simp [byName, List.mergeSort, List.MergeSort.Internal.splitInTwo, hname]
  exact (list_eq_ok_iff_mapM h.store h.directory).2 ⟨_, h.files, hsort.symm⟩

theorem namesakes_trees :
    namesakes.walk (namesakes.start plainSite.output) (parts plainSite.output) = .ok ["site"] ∧
      isOk (perform [plainSite.styleFile] namesakes) = true ∧
      isOk (perform (librariesPage [older, newer]) namesakes₁) = true ∧
      isOk (perform [plainSite.styleFile] namesakes₂) = true ∧
      isOk (perform (librariesPage [newer, older]) namesakes₃) = true ∧
      namesakes₂.get? ["site", "index.html"] = some (.file pageBytes) ∧
      namesakes₄.get? ["site", "index.html"] ≠ some (.file pageBytes) := by
  decide +kernel

theorem holding_namesakes :
    Holding [older, newer] namesakes₁ ∧ Holding [newer, older] namesakes₃ := by
  constructor <;> constructor <;> decide +kernel

/-- Two cards of one name stand on the page of all libraries in the order in which they are
listed. -/
theorem namesakes_swapped :
    namesakes.Sound ∧ ∃ r σ, plainSite.generate [] ⟨namesakes, []⟩ = .ok r σ ∧
      r.hasFailures = false ∧ r.splices = [] ∧
      ∃ p b, σ.tree.get? p = some (.file b) ∧
        (final (plainSite.generateIn .reversed [] σ)).tree.get? p ≠ some (.file b) := by
  obtain ⟨hwalk, hstyle, hpage, hstyle', hpage', hbefore, hafter⟩ := namesakes_trees
  obtain ⟨hfirst, hsecond⟩ := holding_namesakes
  have hsound : namesakes.Sound := sound_of_entries rfl (by decide)
  have hstyle : perform [plainSite.styleFile] namesakes = .ok () namesakes₁ := perform_after hstyle
  have hpage : perform (librariesPage [older, newer]) namesakes₁ = .ok () namesakes₂ :=
    perform_after hpage
  have hc₁ := changes_perform hsound hstyle
  have hc₂ := changes_perform hc₁.sound hpage
  have hdir := makeDirs_of_walk hsound ⟨by decide, by decide⟩ hwalk
  have hdir' : makeDirs plainSite.output namesakes₂ = .ok () namesakes₂ := by
    have hwalk' := hc₂.walk_ok (hc₁.walk_ok hwalk)
    rw [← hc₁.start, ← hc₂.start] at hwalk'
    exact makeDirs_of_walk hc₂.sound ⟨by decide, by decide⟩ hwalk'
  have hkept : Arrangement.kept.arrange namesakes₁ = namesakes₁ := arrange_kept _
  have hreversed : Arrangement.reversed.arrange (after [plainSite.styleFile] namesakes₂) =
      namesakes₃ := by rw [namesakes₃]
  obtain ⟨r, σ, hrun, hok, hsplices, ht⟩ := @generateIn_nil _ _ _ _ plainSite .kept
    ⟨namesakes, []⟩ hdir hstyle hkept (hfirst.list rfl) hpage
  rw [generateIn_kept] at hrun
  have hstyle' : perform [plainSite.styleFile] namesakes₂ =
      .ok () (after [plainSite.styleFile] namesakes₂) := perform_after hstyle'
  have hpage' : perform (librariesPage [newer, older]) namesakes₃ = .ok () namesakes₄ :=
    perform_after hpage'
  rw [← ht] at hdir' hstyle'
  rw [← ht] at hreversed
  obtain ⟨r', σ', hrun', -, -, ht'⟩ :=
    @generateIn_nil _ _ _ _ plainSite .reversed σ hdir' hstyle' hreversed (hsecond.list rfl) hpage'
  refine ⟨hsound, r, σ, hrun, hok, hsplices, ["site", "index.html"], pageBytes, ?_, ?_⟩
  · rw [ht]
    exact hbefore
  · rw [hrun', final_ok, ht']
    exact hafter

/-- Neither exception can be left out: a library with a climbing name may be missed at first and
found later, and the page of all libraries may list two cards of one name either way. -/
theorem generate_again_exceptions :
    (extenderTree.Sound ∧ ∃ r σ, climbSite.generate ["lib"] ⟨extenderTree, []⟩ = .ok r σ ∧
      r.hasFailures = false ∧ (∀ l o, (l, o) ∈ r.splices → climbSite.Labelled l extenderTree) ∧
      (∀ path n, .cacheWritten path n ∈ σ.events → n < UInt32.size) ∧
      ∃ p b, EndsIn ".cache" p ∧ σ.tree.get? p = some (.file b) ∧
        (final (climbSite.generate ["lib"] σ)).tree.get? p ≠ some (.file b)) ∧
    (namesakes.Sound ∧ ∃ r σ, plainSite.generate [] ⟨namesakes, []⟩ = .ok r σ ∧
      r.hasFailures = false ∧ r.splices = [] ∧
      ∃ p b, σ.tree.get? p = some (.file b) ∧
        (final (plainSite.generateIn .reversed [] σ)).tree.get? p ≠ some (.file b)) :=
  ⟨climber_extended, namesakes_swapped⟩

end DocSite.Site
