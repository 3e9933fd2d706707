import DocSite.Proofs.Site.Publication
import DocSite.Proofs.Wire.Size
import Mathlib.Data.List.Forall2
import Mathlib.Data.List.Infix

/-!
# Following a run

A second run is followed through the script of the first. At each point, what it has written
so far is what the first run had there at that point (`Follows`).

The libraries of the directories are read the same way again (`mapM_tryRoot_ok`). A library
that is taken from its cache file has its new extensions there by now, so that it comes out
the same (`mapM_spliceGroup_turns`).
-/

namespace DocSite

open Files Files.Tree Store

-- ---------------------------------------------------------------------------
-- A script followed again
-- ---------------------------------------------------------------------------

/-- Where a second run stands: `u` is what it has made of `e`, the end of the first run. The
files it has written hold what the first run had there at this point, in `t`. -/
structure Follows (ws : List Write) (t e u : Tree) : Prop where
  grows : Grows e u
  dirs : ∀ p, u.get? p = some .directory → e.get? p = some .directory
  written : ∀ p b, Targets t ws p → (u.get? p = some (.file b) ↔ t.get? p = some (.file b))
  rest : ∀ p b, ¬ Targets t ws p → (u.get? p = some (.file b) ↔ e.get? p = some (.file b))

theorem Follows.refl {t e : Tree} (he : e.Sound) : Follows [] t e e where
  grows := .refl he
  dirs _ := id
  written _ _ h := by simp [Targets] at h
  rest _ _ _ := Iff.rfl

theorem Follows.perform {t t' e u : Tree} (h : Follows ws t e u) (ht : t.Sound)
    (hvs : perform vs t = .ok v t') (he : Grows t' e) :
    ∃ u', Files.perform vs u = .ok () u' ∧ Follows (ws ++ vs) t' e u' := by
  have hc := changes_perform ht hvs
  have hwork : u.workDir = t.workDir := by rw [h.grows.workDir, he.workDir, hc.workDir]
  obtain ⟨u', hu', hdirs⟩ := perform_again ht hvs (he.trans h.grows)
  have hcu := changes_perform h.grows.sound hu'
  rw [h.grows.targets, he.targets, hc.targets] at hcu
  refine ⟨u', hu', h.grows.trans hcu.grows, fun p hp => h.dirs p (hdirs p hp), fun p b hp => ?_,
    fun p b hp => ?_⟩
  all_goals rw [hc.targets, targets_append] at hp
  · by_cases hT : Targets t vs p
    · rw [get?_perform ht h.grows.sound hwork hvs hu' hT]
    · rw [hcu.same p b hT, hc.same p b hT]
      exact h.written p b (hp.resolve_right hT)
  · rw [not_or] at hp
    rw [hcu.same p b hp.2]
    exact h.rest p b hp.1

/-- A script carried out for the second time. -/
theorem follows_of_perform {t t' e u : Tree} (ht : t.Sound) (h : perform ws t = .ok v t')
    (he : Grows t' e) (hu : perform ws e = .ok v' u) : Follows ws t' e u := by
  obtain ⟨u', hu', hf⟩ := (Follows.refl he.sound).perform ht h he
  rw [hu] at hu'
  cases hu'
  exact hf

namespace Site

-- ---------------------------------------------------------------------------
-- Cache files in a run
-- ---------------------------------------------------------------------------

/-- A cache file that holds a library which belongs there. -/
def Homed (s : Site) (t : Tree) (p : Place) : Prop :=
  ∃ c : Catalog, t.get? p = some (.file (Wire.encodeRecord c.record)) ∧
    t.placeOf (s.store.path c.name) = p ∧ Wire.RecordFits c.record

/-- What a run that has written `ws` has made of the tree `t₀`. -/
structure Tracked (s : Site) (t₀ : Tree) (ws : List Write) (t : Tree) : Prop where
  changes : Changes (Targets t₀ ws) t₀ t
  homed : ∀ p, Targets t₀ ws p → EndsIn ".cache" p → s.Homed t p

theorem Tracked.perform {s : Site} (h : s.Tracked t₀ ws t) (hvs : perform vs t = .ok () t')
    (hhomed : ∀ p, Targets t vs p → EndsIn ".cache" p → s.Homed t' p) :
    s.Tracked t₀ (ws ++ vs) t' := by
  have hc := changes_perform h.changes.sound hvs
  constructor
  · refine (h.changes.mono fun p => ?_).trans (hc.mono fun p => ?_)
    · exact fun hp => targets_append.2 (.inl hp)
    · rw [h.changes.targets]
      exact fun hp => targets_append.2 (.inr hp)
  · intro p hp hend
    by_cases hT : Targets t vs p
    · exact hhomed p hT hend
    · rw [h.changes.targets] at hT
      obtain ⟨c, hget, hplace, hfit⟩ := h.homed p ((targets_append.1 hp).resolve_right hT) hend
      rw [← h.changes.targets] at hT
      exact ⟨c, (hc.same p _ hT).2 hget, (hc.placeOf _).trans hplace, hfit⟩

theorem endsIn_pageFile (s : Site) (page : Page) (t : Tree) :
    EndsIn ".html" (t.placeOf (s.pageFile page).path) :=
  endsIn_placeOf ((suffix_path page).trans (suffix_join _ _)) (by decide) (by decide) t

theorem not_cache_pageFile (s : Site) (page : Page) (t : Tree) :
    ¬ EndsIn ".cache" (t.placeOf (s.pageFile page).path) :=
  not_endsIn (s.endsIn_pageFile page t) (by decide) (by decide)

/-- Of the files of a library, only the cache file is one, and it alone is written anew. -/
theorem of_mem_publication {s : Site} {c : Catalog} (h : w ∈ s.publication c) :
    w = s.cacheFile c ∨ w.anew = false ∧ ∀ t : Tree, ¬ EndsIn ".cache" (t.placeOf w.path) := by
  rw [publication, List.mem_append, List.mem_map] at h
  rcases h with ⟨page, -, rfl⟩ | h
  · exact .inr ⟨rfl, s.not_cache_pageFile page⟩
  · simp only [List.mem_cons, List.not_mem_nil, or_false] at h
    rcases h with rfl | rfl
    · have index : ".json".toList <:+ "index.json".toList := by decide
      refine .inr ⟨rfl, fun t => not_endsIn (a := ".json") ?_ (by decide) (by decide)⟩
      exact endsIn_placeOf (index.trans (suffix_join _ _)) (by decide) (by decide) t
    · exact .inl rfl

theorem targets_publication {s : Site} {c : Catalog} {t : Tree} (h : Targets t (s.publication c) p)
    (hend : EndsIn ".cache" p) : p = t.placeOf (s.store.path c.name) := by
  obtain ⟨w, hw, rfl⟩ := h
  rcases of_mem_publication hw with rfl | ⟨-, hnot⟩
  · rfl
  · exact absurd hend (hnot t)

/-- The cache file is the last that is written. -/
theorem perform_publication {s : Site} {c : Catalog} {t : Tree} (ht : t.Sound)
    (h : perform (s.publication c) t = .ok v t') :
    t'.get? (t.placeOf (s.store.path c.name)) = some (.file (Wire.encodeRecord c.record)) ∧
      ∃ d, t'.walk (t'.start s.store.dir) (parts s.store.dir) = .ok d := by
  have hsplit : s.publication c =
      ((Page.ofLibrary c).map s.pageFile ++ [s.searchFile c]) ++ [s.cacheFile c] := by
    simp [publication]
  rw [hsplit] at h
  obtain ⟨t₁, hpages, hcache⟩ := perform_append.1 h
  have hc := changes_perform ht hpages
  rw [perform_singleton] at hcache
  rw [← hc.placeOf]
  have hget := Write.get?_run hc.sound hcache
  have hwalk := Write.walk_dir hc.sound hcache
  simp only [cacheFile] at hget hwalk
  exact ⟨hget, hwalk.2⟩

theorem Tracked.publish {s : Site} (h : s.Tracked t₀ ws t)
    (hp : Files.perform (s.publication c) t = .ok () t') (hfit : Wire.RecordFits c.record) :
    s.Tracked t₀ (ws ++ s.publication c) t' := by
  refine h.perform hp fun p hT hend => ?_
  rw [targets_publication hT hend]
  exact ⟨c, (perform_publication h.changes.sound hp).1,
    (changes_perform h.changes.sound hp).placeOf _, hfit⟩

theorem Tracked.publishAll {s : Site} {cs : List Catalog} (h : s.Tracked t₀ ws t)
    (hp : Files.perform (cs.flatMap s.publication) t = .ok () t')
    (hfits : ∀ c ∈ cs, Wire.RecordFits c.record) :
    s.Tracked t₀ (ws ++ cs.flatMap s.publication) t' := by
  induction cs generalizing t ws with
  | nil =>
    cases hp
    simpa using h
  | cons c cs ih =>
    obtain ⟨hfit, hfits⟩ := List.forall_mem_cons.1 hfits
    rw [List.flatMap_cons] at hp ⊢
    obtain ⟨t₁, hc, hcs⟩ := perform_append.1 hp
    rw [← List.append_assoc]
    exact ih (h.publish hc hfit) hcs hfits

/-- A file in the place of a library's cache file holds a library of that name, or none. -/
def Labelled (s : Site) (library : String) (t : Tree) : Prop :=
  ∀ b r, t.get? (t.placeOf (s.store.path library)) = some (.file b) →
    Wire.decodeRecord b = .ok r → r.metadata.name = library

/-- The library that is found for a name belongs where it was found. -/
theorem Tracked.placeOf_name {s : Site} (h : s.Tracked t₀ ws t) (hcard : s.Labelled library t₀)
    (hr : s.store.read t library = .ok (some cached)) :
    t.placeOf (s.store.path cached.record.metadata.name) = t.placeOf (s.store.path library) := by
  obtain ⟨b, hb, hdecode, -⟩ := read_eq_some_iff.1 hr
  have hg := get?_of_read hb
  by_cases hT : Targets t₀ ws (t.placeOf (s.store.path library))
  · obtain ⟨c, hc, hplace, hfit⟩ := h.homed _ hT (s.store.endsIn_path library t)
    rw [hg] at hc
    obtain rfl : b = Wire.encodeRecord c.record := by simpa using hc
    rw [Wire.decodeRecord_encodeRecord hfit] at hdecode
    rw [← Except.ok.inj hdecode]
    exact hplace
  · have hb₀ := (h.changes.same _ b hT).1 hg
    rw [h.changes.placeOf] at hb₀
    rw [hcard b _ hb₀ hdecode]

-- ---------------------------------------------------------------------------
-- The directories, twice
-- ---------------------------------------------------------------------------

theorem isOutput_publications (s : Site) (cs : List Catalog) :
    ∀ w ∈ cs.flatMap s.publication, LibraryRoot.IsOutput w := by
  intro w hw
  obtain ⟨c, -, hc⟩ := List.mem_flatMap.1 hw
  exact s.isOutput_publication c w hc

/-- The extension functions of all directories that were documented. -/
def itemsOf (results : List (String × Except Failure (String × List Item))) : List Item :=
  (results.filterMap (·.2.toOption)).flatMap (·.2)

/-- Directories documented without a failure: their libraries are published, and can still be
read from them. -/
theorem mapM_tryRoot {s : Site} {roots : List String} {σ : Session} (hσ : σ.tree.Sound)
    (h : roots.mapM s.tryRoot σ = .ok results σ') (hok : ∀ r ∈ results, ∃ v, r.2 = .ok v) :
    ∃ cs, List.Forall₂ (fun root c => s.catalogOf σ'.tree root = .ok c) roots cs ∧
      perform (cs.flatMap s.publication) σ.tree = .ok () σ'.tree ∧
      itemsOf results = cs.flatMap declared ∧ sizes σ' = sizes σ ++ cs.map cacheSize := by
  induction roots generalizing σ results with
  | nil =>
    cases h
    exact ⟨[], .nil, rfl, rfl, by simp⟩
  | cons root roots ih =>
    obtain ⟨y, σ₁, ys, hroot, hroots, rfl⟩ := mapM_cons_eq_ok h
    obtain ⟨⟨v, hv⟩, hoks⟩ := List.forall_mem_cons.1 hok
    obtain ⟨name, result⟩ := y
    subst hv
    obtain ⟨c, hc, hitems, hstep⟩ := tryRoot_eq_ok hroot
    have hσ₁ := (changes_perform hσ hstep.performs).sound
    obtain ⟨cs, hcs, hperform, hrest, htold⟩ := ih hσ₁ hroots hoks
    have hscript : perform ((c :: cs).flatMap s.publication) σ.tree = .ok () σ'.tree :=
      perform_append.2 ⟨_, hstep.performs, hperform⟩
    refine ⟨c :: cs, .cons ?_ hcs, hscript, ?_, ?_⟩
    · exact catalogOf_perform hσ (s.isOutput_publications _) hscript hc
    · rw [List.flatMap_cons, ← hrest, ← hitems]
      rfl
    · rw [htold, hstep.told, List.append_assoc]
      rfl

/-- Directories whose libraries are known are documented, if these can be published. -/
theorem mapM_tryRoot_ok {s : Site} {roots : List String} {cs : List Catalog} {σ : Session}
    (hσ : σ.tree.Sound) (hcs : List.Forall₂ (fun root c => s.catalogOf σ.tree root = .ok c) roots cs)
    (h : perform (cs.flatMap s.publication) σ.tree = .ok () t) :
    ∃ results σ', roots.mapM s.tryRoot σ = .ok results σ' ∧ σ'.tree = t ∧
      itemsOf results = cs.flatMap declared ∧ ∀ r ∈ results, ∃ v, r.2 = .ok v := by
  induction roots generalizing σ cs with
  | nil =>
    cases hcs
    cases h
    exact ⟨[], σ, rfl, rfl, rfl, by simp⟩
  | cons root roots ih =>
    obtain _ | ⟨hc, hcs⟩ := hcs
    rw [List.flatMap_cons] at h
    obtain ⟨t₁, hfirst, hlater⟩ := perform_append.1 h
    obtain ⟨v, σ₁, hroot, hv, rfl⟩ := tryRoot_ok hc hfirst
    have hcs₁ := hcs.imp fun _ _ => catalogOf_perform hσ (s.isOutput_publication _) hfirst
    obtain ⟨results, σ', hroots, ht, hitems, hok⟩ :=
      ih (changes_perform hσ hfirst).sound hcs₁ hlater
    refine ⟨(root, .ok v) :: results, σ', mapM_cons_ok hroot hroots, ht, ?_,
      List.forall_mem_cons.2 ⟨⟨v, rfl⟩, hok⟩⟩
    rw [List.flatMap_cons, ← hitems, ← hv]
    rfl

-- ---------------------------------------------------------------------------
-- The turns of the targets, twice
-- ---------------------------------------------------------------------------

/-- A library that was found in the first run is found again, and comes out the same. -/
theorem spliceGroup_again {s : Site} {g : String × List Item} {τ : Session}
    (hf : Follows ws t e τ.tree) (hte : Grows t e)
    (hread : s.store.read t g.1 = .ok (some cached))
    (hfit : Wire.RecordFits (s.extended g.2 cached.record).catalog.record)
    (hlast : ¬ Targets t ws (t.placeOf (s.store.path g.1)) →
      e.get? (t.placeOf (s.store.path g.1)) =
        some (.file (Wire.encodeRecord (s.extended g.2 cached.record).catalog.record)))
    (hp : Files.perform (s.publication (s.extended g.2 cached.record).catalog) τ.tree = .ok () u) :
    ∃ r τ', s.spliceGroup g τ = .ok r τ' ∧ τ'.tree = u := by
  obtain ⟨b, hb, hdecode, hsize⟩ := read_eq_some_iff.1 hread
  obtain ⟨p, hl, hg⟩ := read_eq_ok_iff.1 hb
  have hl' := (hte.trans hf.grows).locate_ok hl
  rw [← locate_eq_placeOf hl] at hlast
  by_cases hT : Targets t ws p
  · have hb' := read_of_get? hl' ((hf.written p b hT).2 hg)
    obtain ⟨τ', hrun, ht⟩ := spliceGroup_ok (read_eq_some_iff.2 ⟨b, hb', hdecode, hsize⟩) hp
    exact ⟨_, τ', hrun, ht⟩
  · have hb' := read_of_get? hl' ((hf.rest p _ hT).2 (hlast hT))
    rw [← (s.extended_again g.2 cached.record).1] at hp
    obtain ⟨τ', hrun, ht⟩ := spliceGroup_ok (read_of_written hfit hb') hp
    exact ⟨_, τ', hrun, ht⟩

/-- A library that was missing in the first run is not found in the second. -/
theorem missing_again {s : Site} (hf : Follows ws t e u) (ht : t.Sound) (hte : Grows t e)
    (hup : ".." ∉ parts library) (hd : t.walk (t.start s.store.dir) (parts s.store.dir) = .ok d)
    (hread : s.store.read t library = .ok none)
    (hold : ∀ b, e.get? (t.placeOf (s.store.path library)) = some (.file b) →
      ∃ b', t.get? (t.placeOf (s.store.path library)) = some (.file b')) :
    ∀ cached, s.store.read u library ≠ .ok (some cached) := by
  intro cached hr
  obtain ⟨b, hb, -⟩ := read_eq_some_iff.1 hr
  obtain ⟨p, hl, hg⟩ := read_eq_ok_iff.1 hb
  have hgrows := hte.trans hf.grows
  have hp : p = t.placeOf (s.store.path library) := by
    rw [locate_eq_placeOf hl, hgrows.placeOf]
  obtain ⟨b', hb'⟩ : ∃ b', t.get? p = some (.file b') := by
    by_cases hT : Targets t ws p
    · exact ⟨b, (hf.written p b hT).1 hg⟩
    · rw [hp] at hT hg ⊢
      exact hold b ((hf.rest _ b hT).1 hg)
  have hbefore := read_before hup ht hgrows hd hl hb'
  unfold Store.read at hread
  rw [hbefore] at hread
  cases hdecode : Wire.decodeRecord b' <;> simp [hdecode] at hread

/-- What the turns of targets do to cache files, and that they can be followed. -/
structure Turns (s : Site) (ws : List Write) (gs : List (String × List Item))
    (cs : List Catalog) (t t' : Tree) : Prop where
  performs : perform (cs.flatMap s.publication) t = .ok () t'
  /-- There is no new cache file. -/
  old : ∀ p b, EndsIn ".cache" p → t'.get? p = some (.file b) → ∃ b', t.get? p = some (.file b')
  /-- The cache files of other libraries are left alone. -/
  others : ∀ p b, EndsIn ".cache" p → (∀ g ∈ gs, p ≠ t.placeOf (s.store.path g.1)) →
    (t'.get? p = some (.file b) ↔ t.get? p = some (.file b))
  follow : ∀ e τ, Grows t' e → (∀ p b, EndsIn ".cache" p →
      (e.get? p = some (.file b) ↔ t'.get? p = some (.file b))) → Follows ws t e τ.tree →
    ∃ rs τ', gs.mapM s.spliceGroup τ = .ok rs τ' ∧
      perform (cs.flatMap s.publication) τ.tree = .ok () τ'.tree

theorem Turns.missing {s : Site} (h : s.Turns ws gs cs t t') (ht : t.Sound)
    (hup : ".." ∉ parts g.1) (hd : t.walk (t.start s.store.dir) (parts s.store.dir) = .ok d)
    (hread : s.store.read t g.1 = .ok none) : s.Turns ws (g :: gs) cs t t' where
  performs := h.performs
  old := h.old
  others p b hend hother := h.others p b hend fun g' hg' => hother g' (List.mem_cons_of_mem g hg')
  follow e τ hgrows hsame hf := by
    have hte := (changes_perform ht h.performs).grows.trans hgrows
    have hend := s.store.endsIn_path g.1 t
    have hunread := missing_again hf ht hte hup hd hread fun b hb =>
      h.old _ b hend ((hsame _ b hend).1 hb)
    obtain ⟨o, τ₁, hturn, ht₁, -⟩ := spliceGroup_unread hunread g.2
    obtain ⟨rs, τ', hrest, hperform⟩ := h.follow e τ₁ hgrows hsame (ht₁ ▸ hf)
    exact ⟨(g.1, o) :: rs, τ', mapM_cons_ok hturn hrest, ht₁ ▸ hperform⟩

theorem Turns.found {s : Site} {g : String × List Item} {c : Catalog}
    (hc : c = (s.extended g.2 cached.record).catalog)
    (h : s.Turns (ws ++ s.publication c) gs cs t₁ t') (ht : t.Sound)
    (hread : s.store.read t g.1 = .ok (some cached)) (hfit : Wire.RecordFits c.record)
    (hplace : t.placeOf (s.store.path c.name) = t.placeOf (s.store.path g.1))
    (hp : perform (s.publication c) t = .ok () t₁)
    (hother : ¬ Targets t ws (t.placeOf (s.store.path g.1)) →
      ∀ g' ∈ gs, t.placeOf (s.store.path g.1) ≠ t.placeOf (s.store.path g'.1)) :
    s.Turns ws (g :: gs) (c :: cs) t t' := by
  have hchanges := changes_perform ht hp
  have hend := s.store.endsIn_path g.1 t
  have hcache := (perform_publication ht hp).1
  rw [hplace] at hcache
  -- of the cache files, only that of the library itself is written
  have hsame : ∀ p b, EndsIn ".cache" p → p ≠ t.placeOf (s.store.path g.1) →
      (t₁.get? p = some (.file b) ↔ t.get? p = some (.file b)) := fun p b hendp hne =>
    hchanges.same p b fun hT => hne ((targets_publication hT hendp).trans hplace)
  obtain ⟨b₀, hb₀, -⟩ := read_eq_some_iff.1 hread
  refine ⟨perform_append.2 ⟨t₁, hp, h.performs⟩, fun p b hendp hb => ?_, fun p b hendp hne => ?_,
    fun e τ hgrows hsameE hf => ?_⟩
  · obtain ⟨b', hb'⟩ := h.old p b hendp hb
    by_cases hpg : p = t.placeOf (s.store.path g.1)
    · exact ⟨b₀, hpg ▸ get?_of_read hb₀⟩
    · exact ⟨b', (hsame p b' hendp hpg).1 hb'⟩
  · obtain ⟨hg, hgs⟩ := List.forall_mem_cons.1 hne
    rw [h.others p b hendp fun g' hg' => (hchanges.placeOf _).symm ▸ hgs g' hg']
    exact hsame p b hendp hg
  · have hte₁ := (changes_perform hchanges.sound h.performs).grows.trans hgrows
    obtain ⟨u, hu, hf₁⟩ := hf.perform ht hp hte₁
    have hlast : ¬ Targets t ws (t.placeOf (s.store.path g.1)) →
        e.get? (t.placeOf (s.store.path g.1)) = some (.file (Wire.encodeRecord c.record)) := by
      intro hT
      rw [hsameE _ _ hend, h.others _ _ hend fun g' hg' => (hchanges.placeOf _).symm ▸ hother hT g' hg']
      exact hcache
    subst hc
    obtain ⟨r, τ₁, hturn, rfl⟩ := spliceGroup_again hf (hchanges.grows.trans hte₁) hread hfit hlast hu
    obtain ⟨rs, τ', hrest, hperform⟩ := h.follow e τ₁ hgrows hsameE hf₁
    exact ⟨r :: rs, τ', mapM_cons_ok hturn hrest, perform_append.2 ⟨_, hu, hperform⟩⟩

theorem sizes_mapM_spliceGroup {s : Site} {gs : List (String × List Item)}
    {rs : List (String × Outcome)} (h : gs.mapM s.spliceGroup σ = .ok rs σ')
    (hok : ∀ r ∈ rs, ∀ e, r.2 ≠ .failed e) : sizes σ <+: sizes σ' := by
  induction gs generalizing σ rs with
  | nil =>
    cases h
    exact List.prefix_refl _
  | cons g gs ih =>
    obtain ⟨r, σ₁, rs', hturn, hrest, rfl⟩ := mapM_cons_eq_ok h
    obtain ⟨hr, hok'⟩ := List.forall_mem_cons.1 hok
    refine List.IsPrefix.trans ?_ (ih hrest hok')
    rcases spliceGroup_cases hturn hr with ⟨-, -, -, hsizes⟩ | ⟨cached, -, -, hstep⟩
    · rw [hsizes]
    · rw [hstep.told]
      exact List.prefix_append _ _

/-- The turns of all targets in a run without failures. -/
theorem mapM_spliceGroup_turns {s : Site} {gs : List (String × List Item)}
    {rs : List (String × Outcome)} {t₀ : Tree} {σ : Session} (htr : s.Tracked t₀ ws σ.tree)
    (hd : gs ≠ [] → ∃ d, σ.tree.walk (σ.tree.start s.store.dir) (parts s.store.dir) = .ok d)
    (hnodup : (gs.map (·.1)).Nodup) (hcards : ∀ g ∈ gs, s.Labelled g.1 t₀)
    (hdown : ∀ l, (l, .missingCache) ∈ rs → ".." ∉ parts l)
    (hrun : gs.mapM s.spliceGroup σ = .ok rs σ') (hok : ∀ r ∈ rs, ∀ e, r.2 ≠ .failed e)
    (hsize : ∀ n ∈ sizes σ', n < UInt32.size) :
    ∃ cs, s.Turns ws gs cs σ.tree σ'.tree := by
  induction gs generalizing σ ws rs with
  | nil =>
    cases hrun
    exact ⟨[], rfl, fun p b _ hb => ⟨b, hb⟩, fun _ _ _ _ => Iff.rfl, fun e τ _ _ _ => ⟨[], τ, rfl, rfl⟩⟩
  | cons g gs ih =>
    obtain ⟨r, σ₁, rs', hturn, hrest, rfl⟩ := mapM_cons_eq_ok hrun
    obtain ⟨d, hwalk⟩ := hd (by simp)
    obtain ⟨hcard, hcards'⟩ := List.forall_mem_cons.1 hcards
    obtain ⟨hr, hok'⟩ := List.forall_mem_cons.1 hok
    rw [List.map_cons, List.nodup_cons] at hnodup
    have hdown' : ∀ l, (l, .missingCache) ∈ rs' → ".." ∉ parts l :=
      fun l hl => hdown l (List.mem_cons_of_mem _ hl)
    have hσ := htr.changes.sound
    rcases spliceGroup_cases hturn hr with ⟨hread, rfl, htree, -⟩ | ⟨cached, hread, -, hstep⟩
    · obtain ⟨cs, hturns⟩ :=
        ih (htree ▸ htr) (fun _ => ⟨d, htree ▸ hwalk⟩) hnodup.2 hcards' hdown' hrest hok'
      rw [htree] at hturns
      exact ⟨cs, hturns.missing hσ (hdown g.1 (by simp)) hwalk hread⟩
    · have htold := (sizes_mapM_spliceGroup hrest hok').subset (hstep.told ▸ List.mem_concat_self)
      have hfit := Wire.recordFits_of_length (hsize _ htold)
      have hchanges := changes_perform hσ hstep.performs
      obtain ⟨cs, hturns⟩ := ih (htr.publish hstep.performs hfit)
        (fun _ => ⟨d, by rw [hchanges.start]; exact hchanges.walk_ok hwalk⟩) hnodup.2 hcards' hdown'
        hrest hok'
      refine ⟨_ :: cs, Turns.found rfl hturns hσ hread hfit ?_ hstep.performs fun hT g' hg' heq => ?_⟩
      · rw [name_extended]
        exact htr.placeOf_name hcard hread
      · -- two targets in one place would both name the library that is there at first
        obtain ⟨b, hb, hdecode, -⟩ := read_eq_some_iff.1 hread
        rw [htr.changes.targets] at hT
        have hb₀ := (htr.changes.same _ b hT).1 (get?_of_read hb)
        simp only [htr.changes.placeOf] at hb₀ heq
        have hname := hcard b _ hb₀ hdecode
        have hname' := hcards' g' hg' b _ (heq ▸ hb₀) hdecode
        exact hnodup.1 (List.mem_map.2 ⟨g', hg', hname'.symm.trans hname⟩)

end Site

end DocSite
