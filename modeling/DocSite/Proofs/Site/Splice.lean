import DocSite.Proofs.Catalog.Reload
import DocSite.Proofs.Routing
import DocSite.Proofs.Site.Steady

/-!
# Splicing one library

What writing a whole library and splicing items into a cached one do to the tree,
by what the store holds for it.
-/

namespace DocSite.Site

open Files Files.Tree Store

-- ---------------------------------------------------------------------------
-- Publishing
-- ---------------------------------------------------------------------------

/-- Writes what is for reading: pages and search index. -/
def writeSite (s : Site) (c : Catalog) : Act Unit := do
  s.writePages c
  s.writeSearch c

theorem steady_writeSite (s : Site) (c : Catalog) : Steady (s.writeSite c) :=
  (s.steady_writePages c).bind (s.steady_writeSearch c)

theorem publish_eq (s : Site) (c : Catalog) (σ : Session) :
    s.publish c σ =
      match s.writeSite c σ with
      | .error e σ => .error e σ
      | .ok _ σ => s.saveCache c σ := by
  have h : s.publish c = s.writeSite c >>= fun _ => s.saveCache c := by
    simp only [publish, writeSite, bind_assoc]
  rw [h, run_bind]
  cases s.writeSite c σ <;> rfl

theorem saveCache_eq (s : Site) (c : Catalog) (σ : Session) :
    s.saveCache c σ =
      match s.store.write c σ.tree with
      | .error e t => .error (.saveCache c.name e) { σ with tree := t }
      | .ok n t => .ok () ⟨t, σ.events ++ [.cacheWritten (s.store.path c.name) n]⟩ := by
  simp only [saveCache, run_bind, change]
  cases s.store.write c σ.tree <;> rfl

/-- The places that publishing a library may touch: pages, and its cache file. -/
def Touched (s : Site) (t : Tree) (library : String) (p : Place) : Prop :=
  ¬ EndsIn ".cache" p ∨ p = t.placeOf (s.store.path library)

theorem changes_publish (s : Site) (c : Catalog) {σ : Session} (hσ : σ.tree.Sound) :
    Changes (s.Touched σ.tree c.name) σ.tree (final (s.publish c σ)).tree := by
  have hc := (s.steady_writeSite c).changes σ hσ
  rw [publish_eq]
  split
  · rename_i h
    rw [h] at hc
    exact hc.mono fun _ => .inl
  · rename_i σ₁ h
    rw [h, final_ok] at hc
    have hw := s.store.changes_write c hc.sound
    rw [hc.placeOf] at hw
    refine (hc.mono fun _ => .inl).trans ?_
    rw [saveCache_eq]
    split
    · rename_i h
      rw [h] at hw
      exact hw.mono fun _ => .inr
    · rename_i h
      rw [h] at hw
      exact hw.mono fun _ => .inr

theorem writeSite_of_publish {s : Site} {c : Catalog} {σ : Session} (hσ : σ.tree.Sound)
    (h : s.publish c σ = .ok u σ') :
    ∃ σ₁, s.writeSite c σ = .ok () σ₁ ∧ Grows σ₁.tree σ'.tree := by
  have hc := (s.steady_writeSite c).changes σ hσ
  rw [publish_eq] at h
  split at h
  · cases h
  · rename_i σ₁ h'
    rw [h', final_ok] at hc
    have hw := s.store.changes_write c hc.sound
    rw [saveCache_eq] at h
    split at h
    · cases h
    · rename_i hw'
      cases h
      rw [hw'] at hw
      exact ⟨σ₁, h', hw.grows⟩

/-- A published library is the one that is read. -/
theorem publish_spec {s : Site} {c : Catalog} {σ : Session} (hσ : σ.tree.Sound)
    (h : s.publish c σ = .ok u σ') :
    Changes (s.Touched σ.tree c.name) σ.tree σ'.tree ∧
      σ'.tree.read (s.store.path c.name) = .ok (Wire.encodeRecord c.record) := by
  have hp := s.changes_publish c hσ
  rw [h, final_ok] at hp
  refine ⟨hp, ?_⟩
  have hc := (s.steady_writeSite c).changes σ hσ
  rw [publish_eq] at h
  split at h
  · cases h
  · rename_i h'
    rw [h', final_ok] at hc
    rw [saveCache_eq] at h
    split at h
    · cases h
    · rename_i hw
      cases h
      exact Store.read_write hc.sound hw

/-- A library with a cache file is published once its pages are written. -/
theorem publish_ok {s : Site} {c : Catalog} {σ : Session} (hσ : σ.tree.Sound)
    (hd : s.store.Present σ.tree) (hr : σ.tree.read (s.store.path c.name) = .ok b)
    (hw : s.writeSite c σ = .ok () σ₁) : ∃ σ₂, s.publish c σ = .ok () σ₂ := by
  have hc := (s.steady_writeSite c).changes σ hσ
  rw [hw, final_ok] at hc
  obtain ⟨b', hr'⟩ := hc.read_ok hr
  obtain ⟨n, t, hw'⟩ := (hd.of_changes hc).write_ok hc.sound hr'
  rw [publish_eq, hw]
  simp only [saveCache_eq, hw']
  exact ⟨_, rfl⟩

theorem publish_error {s : Site} {c : Catalog} (hw : s.writeSite c σ = .error e σ₁) :
    s.publish c σ = .error e σ₁ := by
  rw [publish_eq, hw]

theorem blind_publish (s : Site) (c : Catalog) : Blind (s.publish c) := by
  have hsave : Blind (s.saveCache c) := by
    intro σ τ h
    rw [saveCache_eq, saveCache_eq, h]
    cases s.store.write c τ.tree <;> rfl
  exact (s.blind_writePages c).bind ((s.blind_writeSearch c).bind hsave)

/-- Documenting a library is publishing its catalog. -/
theorem process_eq_ok_iff (s : Site) (metadata : Metadata) (files : List SourceFile)
    (σ : Session) {c : Catalog} (hc : Catalog.ofParsed s.links.stdName metadata files = c) :
    ∃ σ₁, σ₁.tree = σ.tree ∧ ∀ is σ', s.process metadata files σ = .ok is σ' ↔
      ∃ σ₂, s.publish c σ₁ = .ok () σ₂ ∧ is = c.extensions.map (·.2) ∧
        σ' = ⟨σ₂.tree, σ₂.events ++ [.processed c.name c.files.length is.length]⟩ := by
  subst hc
  obtain ⟨σ₁, hclass, ht₁⟩ := Quiet.classify s ⟨metadata, files, []⟩ σ
  refine ⟨σ₁, ht₁, fun is σ' => ?_⟩
  rw [process, run_bind_ok hclass]
  constructor
  · intro h
    obtain ⟨_, σ₂, hp, h⟩ := run_bind_eq_ok h
    cases h
    exact ⟨σ₂, hp, rfl, rfl⟩
  · rintro ⟨σ₂, hp, rfl, rfl⟩
    exact run_bind_ok hp

-- ---------------------------------------------------------------------------
-- Splicing
-- ---------------------------------------------------------------------------

theorem spliceGroup_eq (s : Site) (library : String) (items : List Item) (σ : Session) :
    s.spliceGroup (library, items) σ =
      match s.splice library items σ with
      | .ok o σ => .ok (library, o) σ
      | .error e σ => .ok (library, .failed e) ⟨σ.tree, σ.events ++ [.failed library e]⟩ := by
  cases h : s.splice library items σ with
  | ok o σ' =>
    have ha : attempt (s.splice library items) σ = .ok (.ok o) σ' := by simp only [attempt, h]
    rw [spliceGroup, run_bind_ok ha]
    rfl
  | error e σ' =>
    have ha : attempt (s.splice library items) σ = .ok (.error e) σ' := by simp only [attempt, h]
    rw [spliceGroup, run_bind_ok ha]
    rfl

theorem spliceGroup_missing {s : Site} {σ : Session} (h : s.store.read σ.tree library = .ok none)
    (items : List Item) :
    ∃ σ', s.spliceGroup (library, items) σ = .ok (library, .missingCache) σ' ∧
      σ'.tree = σ.tree := by
  have hlook : look (.loadCache library) (s.store.read · library) σ = .ok none σ := by
    simp only [look, h]
  have hload : s.load? library σ = .ok none σ := by
    rw [load?, run_bind_ok hlook]
    rfl
  rw [spliceGroup_eq, splice, run_bind_ok hload]
  exact ⟨_, rfl, rfl⟩

theorem spliceGroup_failed {s : Site} {σ : Session} (h : s.store.read σ.tree library = .error e)
    (items : List Item) :
    ∃ σ', s.spliceGroup (library, items) σ = .ok (library, .failed (.loadCache library e)) σ' ∧
      σ'.tree = σ.tree := by
  have hlook : look (.loadCache library) (s.store.read · library) σ =
      .error (.loadCache library e) σ := by
    simp only [look, h]
  rw [spliceGroup_eq, splice, load?, run_bind_error (run_bind_error hlook)]
  exact ⟨_, rfl, rfl⟩

/-- Without a readable cache file nothing is written. -/
theorem spliceGroup_unread {s : Site} {σ : Session}
    (h : ∀ cached, s.store.read σ.tree library ≠ .ok (some cached)) (items : List Item) :
    ∃ o σ', s.spliceGroup (library, items) σ = .ok (library, o) σ' ∧ σ'.tree = σ.tree ∧
      ∀ n, o ≠ .spliced n := by
  cases hr : s.store.read σ.tree library with
  | error e =>
    obtain ⟨σ', hrun, ht⟩ := spliceGroup_failed hr items
    exact ⟨_, σ', hrun, ht, by simp⟩
  | ok found =>
    cases found with
    | some cached => exact absurd hr (h cached)
    | none =>
      obtain ⟨σ', hrun, ht⟩ := spliceGroup_missing hr items
      exact ⟨_, σ', hrun, ht, by simp⟩

/-- The items of a group attached to a cached library. -/
def extended (s : Site) (items : List Item) (r : Record) : Catalog.Extended :=
  (Catalog.ofRecord s.links.stdName r).extend items

theorem name_extended (s : Site) (items : List Item) (r : Record) :
    (s.extended items r).catalog.name = r.metadata.name := by
  rw [extended, Catalog.name, Catalog.metadata_extend]
  exact congrArg Metadata.name (Catalog.metadata_extend _ _)

/-- Attaching the same items to what has been written attaches nothing. -/
theorem extended_again (s : Site) (items : List Item) (r : Record) :
    (s.extended items (s.extended items r).catalog.record).catalog = (s.extended items r).catalog ∧
      (s.extended items (s.extended items r).catalog.record).added = 0 := by
  have hc : Catalog.Classified s.links.stdName (s.extended items r).catalog :=
    (Catalog.classified_ofRecord _ r).extend items
  have hagain : s.extended items (s.extended items r).catalog.record =
      (s.extended items r).catalog.extend items :=
    congrArg (Catalog.extend · items) (Catalog.ofRecord_record hc)
  rw [hagain]
  exact Catalog.extend_of_settled fun i hi => Catalog.settled_extend hi

theorem load?_read {s : Site} {σ : Session}
    (h : s.store.read σ.tree library = .ok (some cached)) :
    ∃ σ', s.load? library σ =
      .ok (some (Catalog.ofRecord s.links.stdName cached.record)) σ' ∧ σ'.tree = σ.tree := by
  have hlook : look (.loadCache library) (s.store.read · library) σ = .ok (some cached) σ := by
    simp only [look, h]
  have rest : Quiet (do
      tell (.cacheRead (s.store.path library) cached.size)
      return some (← s.classify cached.record))
      (some (Catalog.ofRecord s.links.stdName cached.record)) :=
    .bind (.tell _) (.bind (.classify s _) (.pure _))
  obtain ⟨σ', h', ht⟩ := rest σ
  refine ⟨σ', ?_, ht⟩
  rw [load?, run_bind_ok hlook]
  exact h'

/-- With a readable one, the library is published with the items attached. -/
theorem spliceGroup_read {s : Site} {σ : Session}
    (h : s.store.read σ.tree library = .ok (some cached)) (items : List Item) :
    ∃ σ₁, σ₁.tree = σ.tree ∧
      s.spliceGroup (library, items) σ =
        match s.publish (s.extended items cached.record).catalog σ₁ with
        | .ok _ σ₂ => .ok (library, .spliced (s.extended items cached.record).added) σ₂
        | .error e σ₂ => .ok (library, .failed e) ⟨σ₂.tree, σ₂.events ++ [.failed library e]⟩ := by
  obtain ⟨σ₀, hload, ht₀⟩ := load?_read h
  let c := Catalog.ofRecord s.links.stdName cached.record
  let e := s.extended items cached.record
  obtain ⟨σ₁, h₁, ht₁⟩ := Quiet.forM e.skipped (.notAttached c.name ·) σ₀
  obtain ⟨σ₂, h₂, ht₂⟩ := Quiet.tell (.spliced library e.added items.length) σ₁
  have hsplice : s.splice library items σ = (do
      s.publish e.catalog
      return Outcome.spliced e.added) σ₂ := by
    rw [splice, run_bind_ok hload]
    exact (run_bind_ok h₁).trans (run_bind_ok h₂)
  refine ⟨σ₂, (ht₂.trans ht₁).trans ht₀, ?_⟩
  rw [spliceGroup_eq, hsplice, run_bind]
  cases s.publish e.catalog σ₂ <;> rfl

-- ---------------------------------------------------------------------------
-- Pages spelled out
-- ---------------------------------------------------------------------------

/-- The pages of a library that has these entities. -/
def pagesOf (c : Catalog) (entities : List Item) : List Page :=
  [.index c, .files c] ++ entities.map (.entity c) ++ c.files.map (.source c)

theorem ofLibrary_of_entities {c : Catalog} (h : c.entities.map (·.2) = entities) :
    Page.ofLibrary c = pagesOf c entities := by
  rw [pagesOf, ← h, List.map_map]
  rfl

/-- Publishing a library with its pages spelled out. -/
def publishPages (s : Site) (c : Catalog) (pages : List Page) : Act Unit := do
  pages.forM s.writePage
  tell (.pagesWritten c.name pages.length)
  s.writeSearch c
  s.saveCache c

/-- The tree after publishing a library with these pages. -/
def treeAfter (s : Site) (c : Catalog) (pages : List Page) (t : Tree) : Tree :=
  (final (s.publishPages c pages ⟨t, []⟩)).tree

def isOk : EStateM.Result ε σ α → Bool
  | .ok _ _ => true
  | .error _ _ => false

theorem publish_pages {s : Site} {c : Catalog} {σ : Session} (hpages : Page.ofLibrary c = pages)
    (ht : σ.tree = t) (hok : isOk (s.publishPages c pages ⟨t, []⟩) = true) :
    ∃ σ', s.publish c σ = .ok () σ' ∧ σ'.tree = s.treeAfter c pages t := by
  have heq : s.publish c = s.publishPages c pages := by
    simp only [publish, writePages, publishPages, bind_assoc, hpages]
  apply eq_ok_of_onTree
  rw [s.blind_publish c σ ⟨t, []⟩ ht, heq, treeAfter]
  cases h : s.publishPages c pages ⟨t, []⟩ with
  | ok u σ' => rfl
  | error e σ' =>
    rw [h] at hok
    cases hok

/-- A cached library is spliced, and the tree is that after its pages. -/
theorem spliceGroup_published {s : Site} {σ : Session} (hfit : Wire.RecordFits r)
    (hr : t.read (s.store.path library) = .ok (Wire.encodeRecord r))
    (hext : (s.extended items r).catalog = c) (hpages : Page.ofLibrary c = pages)
    (hok : isOk (s.publishPages c pages ⟨t, []⟩) = true) (ht : σ.tree = t) :
    ∃ σ', s.spliceGroup (library, items) σ =
        .ok (library, .spliced (s.extended items r).added) σ' ∧
      σ'.tree = s.treeAfter c pages t := by
  subst ht
  obtain ⟨σ₁, hσ₁, hrun⟩ := spliceGroup_read (read_of_written hfit hr) items
  obtain ⟨σ₂, hpub, hσ₂⟩ := publish_pages hpages hσ₁ hok
  simp only [hext, hpub] at hrun
  exact ⟨σ₂, hrun, hσ₂⟩

-- ---------------------------------------------------------------------------
-- Runs
-- ---------------------------------------------------------------------------

/-- The libraries that items go to, each with its items. -/
def groups (s : Site) (items : List Item) : List (String × List Item) :=
  (Routing.ofItems s.links.stdName items).byLibrary

theorem nodup_groups (s : Site) (items : List Item) : ((s.groups items).map (·.1)).Nodup :=
  Routing.nodup_byLibrary _ items

/-- A run is the turns of its libraries. -/
theorem resolve_eq (s : Site) (items : List Item) (σ : Session) :
    ∃ σ₀, σ₀.tree = σ.tree ∧ s.resolve items σ =
      match (s.groups items).mapM s.spliceGroup σ₀ with
      | .error e σ' => .error e σ'
      | .ok rs σ' => .ok
        { splices := rs
          unresolved := (Routing.ofItems s.links.stdName items).unresolved.length } σ' := by
  obtain ⟨σ₀, h₀, ht₀⟩ :=
    Quiet.forM (Routing.ofItems s.links.stdName items).unresolved .unresolved σ
  refine ⟨σ₀, ht₀, ?_⟩
  rw [resolve, run_bind_ok h₀, groups, run_bind]
  cases (Routing.ofItems s.links.stdName items).byLibrary.mapM s.spliceGroup σ₀ <;> rfl

theorem groups_nil (s : Site) : s.groups [] = [] := by simp [groups, Routing.ofItems]

/-- Without items there is nothing to do. -/
theorem resolve_nil (s : Site) (σ : Session) :
    ∃ report σ', s.resolve [] σ = .ok report σ' ∧ report.hasFailures = false ∧
      report.splices = [] ∧ σ'.tree = σ.tree := by
  obtain ⟨σ₀, ht₀, hrun⟩ := s.resolve_eq [] σ
  rw [groups_nil] at hrun
  exact ⟨_, σ₀, hrun, rfl, rfl, ht₀⟩

theorem group_eq_bound {s : Site} (hg : g ∈ s.groups items) :
    g.2 = Routing.bound s.links.stdName g.1 items :=
  (Routing.mem_byLibrary.1 hg).2

theorem resolve_eq_ok {s : Site} {σ : Session} (h : s.resolve items σ = .ok report σ') :
    ∃ σ₀ rs, σ₀.tree = σ.tree ∧ (s.groups items).mapM s.spliceGroup σ₀ = .ok rs σ' ∧
      report.splices = rs := by
  obtain ⟨σ₀, ht₀, hrun⟩ := s.resolve_eq items σ
  rw [hrun] at h
  cases hmap : (s.groups items).mapM s.spliceGroup σ₀ with
  | error e σ₁ =>
    rw [hmap] at h
    cases h
  | ok rs σ₁ =>
    rw [hmap] at h
    cases h
    exact ⟨σ₀, rs, ht₀, hmap, rfl⟩

theorem Report.not_failed {report : Report} (h : report.hasFailures = false) :
    ∀ r ∈ report.splices, ∀ e, r.2 ≠ .failed e := by
  simp only [hasFailures, failures, Bool.not_eq_false', List.isEmpty_iff, List.append_eq_nil_iff,
    List.filterMap_eq_nil_iff] at h
  intro r hr e he
  have hnone := h.2 r hr
  simp [he, Outcome.failure?] at hnone

/-- A run always comes to a report. -/
theorem resolve_ok (s : Site) (items : List Item) (σ : Session) :
    ∃ report σ', s.resolve items σ = .ok report σ' := by
  obtain ⟨σ₀, -, hrun⟩ := s.resolve_eq items σ
  have hgroup : ∀ g σ, ∃ r σ', s.spliceGroup g σ = .ok r σ' := by
    intro g σ
    rw [spliceGroup_eq]
    cases s.splice g.1 g.2 σ with
    | ok o σ' => exact ⟨_, _, rfl⟩
    | error e σ' => exact ⟨_, _, rfl⟩
  obtain ⟨rs, σ', hmap⟩ := mapM_ok hgroup (s.groups items) σ₀
  rw [hmap] at hrun
  exact ⟨_, σ', hrun⟩

end DocSite.Site
