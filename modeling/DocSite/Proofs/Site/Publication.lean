import DocSite.Proofs.LibraryRoot
import DocSite.Proofs.Site.Splice

/-!
# What a run writes

An action that only writes files is a script: it succeeds exactly where the script goes
through, and then leaves the same tree (`Enacts`). Publishing a library is such an action
(`enacts_publish`), so what a successful run does to the tree is known from the catalogs it
publishes. These come from the directories of libraries, or from cache files with items
attached.
-/

namespace DocSite.Site

open Files Files.Tree Store

-- ---------------------------------------------------------------------------
-- What is told of cache files
-- ---------------------------------------------------------------------------

def cacheSize? : Event → Option Nat
  | .cacheWritten _ n => some n
  | _ => none

/-- The sizes of cache files that have been told, in order. -/
def sizes (σ : Session) : List Nat := σ.events.filterMap cacheSize?

theorem mem_sizes {σ : Session} : n ∈ sizes σ ↔ ∃ path, .cacheWritten path n ∈ σ.events := by
  rw [sizes, List.mem_filterMap]
  constructor
  · rintro ⟨e, he, hn⟩
    cases e with
    | cacheWritten path size =>
      cases hn
      exact ⟨path, he⟩
    | _ => cases hn
  · rintro ⟨path, he⟩
    exact ⟨_, he, rfl⟩

/-- An action that succeeds without telling of a cache file. -/
def Silent (a : Act α) : Prop := ∀ σ v σ', a σ = .ok v σ' → sizes σ' = sizes σ

namespace Silent

theorem pure (v : α) : Silent (pure v) := by
  intro σ w σ' h
  cases h
  rfl

theorem tell {e : Event} (h : cacheSize? e = none) : Silent (tell e) := by
  intro σ v σ' hrun
  cases hrun
  simp [sizes, h]

theorem change (why : ε → Failure) (a : EStateM ε Tree α) : Silent (change why a) := by
  intro σ v σ' h
  unfold Site.change at h
  split at h
  · cases h
    rfl
  · cases h

theorem look (why : ε → Failure) (f : Tree → Except ε α) : Silent (look why f) := by
  intro σ v σ' h
  unfold Site.look at h
  split at h
  · cases h
    rfl
  · cases h

theorem bind {a : Act α} {f : α → Act β} (ha : Silent a) (hf : ∀ v, Silent (f v)) :
    Silent (a >>= f) := by
  intro σ w σ' h
  obtain ⟨v, σ₁, h₁, h₂⟩ := run_bind_eq_ok h
  exact (hf v _ _ _ h₂).trans (ha _ _ _ h₁)

theorem forM {f : α → Act Unit} (hf : ∀ x, Silent (f x)) (xs : List α) : Silent (xs.forM f) := by
  induction xs with
  | nil => exact .pure ()
  | cons x xs ih => exact (hf x).bind fun _ => ih

theorem writeFile (path text : String) : Silent (writeFile path text) := by
  unfold Site.writeFile
  split
  · exact (change _ _).bind fun _ => change _ _
  · exact (pure _).bind fun _ => change _ _

theorem writeSite (s : Site) (c : Catalog) : Silent (s.writeSite c) :=
  ((forM (fun _ => writeFile _ _) _).bind fun _ => tell rfl).bind fun _ =>
    (writeFile _ _).bind fun _ => tell rfl

theorem classify (s : Site) (r : Record) : Silent (s.classify r) := by
  unfold Site.classify
  have rest : ∀ e : Catalog.Extended, Silent (do
      e.skipped.forM fun why => Site.tell (.notAttached r.metadata.name why)
      return e.catalog) := fun _ => (forM (fun _ => tell rfl) _).bind fun _ => pure _
  split
  · exact (tell rfl).bind fun _ => rest _
  · exact rest _

theorem load? (s : Site) (library : String) : Silent (s.load? library) := by
  refine (look _ _).bind fun found => ?_
  cases found with
  | none => exact pure _
  | some cached => exact (tell rfl).bind fun _ => (classify s _).bind fun _ => pure _

theorem init (s : Site) : Silent s.init := (change _ _).bind fun _ => writeFile _ _

theorem index (s : Site) : Silent s.index :=
  (look _ _).bind fun _ => (writeFile _ _).bind fun _ => (tell rfl).bind fun _ => pure _

end Silent

-- ---------------------------------------------------------------------------
-- Actions that write
-- ---------------------------------------------------------------------------

/-- An action that comes down to a script: it succeeds where the script goes through. -/
structure Enacts (a : Act Unit) (ws : List Write) : Prop where
  performs : ∀ {σ σ'}, a σ = .ok () σ' → perform ws σ.tree = .ok () σ'.tree
  succeeds : ∀ {σ t}, perform ws σ.tree = .ok () t → ∃ σ', a σ = .ok () σ' ∧ σ'.tree = t

theorem Quiet.enacts {a : Act Unit} (h : Quiet a ()) : Enacts a [] where
  performs {σ σ'} hrun := by
    obtain ⟨σ₁, h₁, ht⟩ := h σ
    rw [hrun] at h₁
    cases h₁
    rw [ht]
    rfl
  succeeds {σ t} hws := by
    cases hws
    exact h σ

theorem Enacts.bind {a b : Act Unit} (ha : Enacts a ws) (hb : Enacts b vs) :
    Enacts (do a; b) (ws ++ vs) where
  performs hrun := by
    obtain ⟨_, σ₁, h₁, h₂⟩ := run_bind_eq_ok hrun
    exact perform_append.2 ⟨σ₁.tree, ha.performs h₁, hb.performs h₂⟩
  succeeds hrun := by
    obtain ⟨t₁, hws, hvs⟩ := perform_append.1 hrun
    obtain ⟨σ₁, h₁, rfl⟩ := ha.succeeds hws
    obtain ⟨σ₂, h₂, ht⟩ := hb.succeeds hvs
    exact ⟨σ₂, (run_bind_ok h₁).trans h₂, ht⟩

theorem Enacts.forM {f : α → Act Unit} {w : α → Write} (h : ∀ x, Enacts (f x) [w x]) (xs : List α) :
    Enacts (xs.forM f) (xs.map w) := by
  induction xs with
  | nil => exact (Quiet.pure ()).enacts
  | cons x xs ih => exact (h x).bind ih

theorem perform_singleton {w : Write} {t : Tree} :
    perform [w] t = .ok () t' ↔ w.run t = .ok () t' := by
  constructor
  · intro h
    obtain ⟨t₁, hw, hnil⟩ := perform_cons_eq_ok h
    cases hnil
    exact hw
  · intro h
    exact (run_bind_ok h).trans rfl

/-- A text file as it is written. -/
def textFile (path text : String) : Write :=
  ⟨(parent? path).getD "", path, textBytes text, false⟩

theorem change_eq_ok_iff {why : ε → Failure} {a : EStateM ε Tree α} {σ σ' : Session} :
    change why a σ = .ok v σ' ↔ ∃ t, a σ.tree = .ok v t ∧ σ' = { σ with tree := t } := by
  unfold change
  cases a σ.tree with
  | error e t => simp
  | ok w t => simp [eq_comm, and_comm]

theorem enacts_writeFile (path text : String) :
    Enacts (writeFile path text) [textFile path text] := by
  have hrun : ∀ t, (textFile path text).run t = (do
      makeDirs ((parent? path).getD "")
      Tree.write path (textBytes text) : Tree.Action Unit) t := fun _ => rfl
  -- a file that lies in no directory needs none
  have hwrite : ∀ σ, writeFile path text σ = (do
      change (.makeDir ((parent? path).getD "")) (makeDirs ((parent? path).getD ""))
      change (.write path) (Tree.write path (textBytes text)) : Act Unit) σ := by
    intro σ
    unfold writeFile
    cases parent? path <;> rfl
  constructor
  · intro σ σ' h
    rw [hwrite] at h
    obtain ⟨_, σ₁, h₁, h₂⟩ := run_bind_eq_ok h
    obtain ⟨t₁, hm, rfl⟩ := change_eq_ok_iff.1 h₁
    obtain ⟨t₂, hw, rfl⟩ := change_eq_ok_iff.1 h₂
    rw [perform_singleton, hrun, run_bind_ok hm]
    exact hw
  · intro σ t h
    rw [perform_singleton, hrun] at h
    obtain ⟨_, t₁, hm, hw⟩ := run_bind_eq_ok h
    refine ⟨{ σ with tree := t }, ?_, rfl⟩
    rw [hwrite, run_bind_ok (change_eq_ok_iff.2 ⟨t₁, hm, rfl⟩)]
    exact change_eq_ok_iff.2 ⟨t, hw, rfl⟩

/-- The cache file of a library as it is written. -/
def cacheFile (s : Site) (c : Catalog) : Write :=
  ⟨s.store.dir, s.store.path c.name, Wire.encodeRecord c.record, true⟩

theorem storeWrite_eq_ok_iff {s : Site} {c : Catalog} {t : Tree} :
    s.store.write c t = .ok n t' ↔
      n = (Wire.encodeRecord c.record).length ∧ (s.cacheFile c).run t = .ok () t' := by
  have hrun : (s.cacheFile c).run t = (do
      makeDirs s.store.dir
      discard (s.store.path c.name)
      Tree.write (s.store.path c.name) (Wire.encodeRecord c.record) : Tree.Action Unit) t := rfl
  rw [Store.write_eq, hrun, run_bind]
  cases makeDirs s.store.dir t with
  | error e t₁ => simp
  | ok u t₁ =>
    simp only [run_bind]
    cases discard (s.store.path c.name) t₁ with
    | error e t₂ => simp
    | ok u t₂ =>
      simp only
      cases Tree.write (s.store.path c.name) (Wire.encodeRecord c.record) t₂ with
      | error e t₃ => simp
      | ok u t₃ => simp [eq_comm]

/-- The size of a library's cache file. -/
def cacheSize (c : Catalog) : Nat := (Wire.encodeRecord c.record).length

theorem sizes_publish {s : Site} {c : Catalog} (h : s.publish c σ = .ok u σ') :
    sizes σ' = sizes σ ++ [cacheSize c] := by
  rw [publish_eq] at h
  split at h
  · cases h
  · rename_i σ₁ hsite
    rw [saveCache_eq] at h
    split at h
    · cases h
    · rename_i hw
      cases h
      rw [← Silent.writeSite s c _ _ _ hsite, (storeWrite_eq_ok_iff.1 hw).1]
      simp [sizes, cacheSize?, cacheSize]

theorem enacts_saveCache (s : Site) (c : Catalog) : Enacts (s.saveCache c) [s.cacheFile c] where
  performs {σ σ'} h := by
    rw [saveCache_eq] at h
    split at h
    · cases h
    · rename_i hw
      cases h
      exact perform_singleton.2 (storeWrite_eq_ok_iff.1 hw).2
  succeeds {σ t} h := by
    have hw : s.store.write c σ.tree = .ok _ t :=
      storeWrite_eq_ok_iff.2 ⟨rfl, perform_singleton.1 h⟩
    rw [saveCache_eq, hw]
    exact ⟨_, rfl, rfl⟩

-- ---------------------------------------------------------------------------
-- Publications
-- ---------------------------------------------------------------------------

def pageFile (s : Site) (p : Page) : Write :=
  textFile (join s.output p.path) (p.render s.links)

def searchFile (s : Site) (c : Catalog) : Write :=
  textFile (s.searchPath c.name) (SearchEntry.document (s.links.searchIndex c))

/-- All files of a library in the order in which they are written. -/
def publication (s : Site) (c : Catalog) : List Write :=
  (Page.ofLibrary c).map s.pageFile ++ [s.searchFile c, s.cacheFile c]

theorem enacts_writePage (s : Site) (p : Page) : Enacts (s.writePage p) [s.pageFile p] :=
  enacts_writeFile _ _

theorem enacts_writePages (s : Site) (c : Catalog) :
    Enacts (s.writePages c) ((Page.ofLibrary c).map s.pageFile) := by
  have h := (Enacts.forM s.enacts_writePage (Page.ofLibrary c)).bind
    (Quiet.tell (.pagesWritten c.name (Page.ofLibrary c).length)).enacts
  rwa [List.append_nil] at h

theorem enacts_publish (s : Site) (c : Catalog) : Enacts (s.publish c) (s.publication c) := by
  have hsearch : Enacts (s.writeSearch c) [s.searchFile c] :=
    (enacts_writeFile _ _).bind (Quiet.tell _).enacts
  exact (s.enacts_writePages c).bind (hsearch.bind (s.enacts_saveCache c))

theorem isOutput_pageFile (s : Site) (p : Page) : LibraryRoot.IsOutput (s.pageFile p) :=
  ⟨".html", by decide, (suffix_path p).trans (suffix_join _ _)⟩

theorem isOutput_publication (s : Site) (c : Catalog) :
    ∀ w ∈ s.publication c, LibraryRoot.IsOutput w := by
  intro w hw
  rw [publication, List.mem_append, List.mem_map] at hw
  rcases hw with ⟨p, -, rfl⟩ | hw
  · exact s.isOutput_pageFile p
  · simp only [List.mem_cons, List.not_mem_nil, or_false] at hw
    rcases hw with rfl | rfl
    · have index : ".json".toList <:+ "index.json".toList := by decide
      exact ⟨".json", by decide, index.trans (suffix_join _ _)⟩
    · exact ⟨".cache", by decide, s.store.suffix_path c.name⟩

-- ---------------------------------------------------------------------------
-- Libraries from their directories
-- ---------------------------------------------------------------------------

/-- The library of a directory, as it is documented. -/
def catalogOf (s : Site) (t : Tree) (root : String) : Except Failure Catalog := do
  let metadata ← LibraryRoot.manifest t root
  let files ← LibraryRoot.sources t metadata.name root
  return .ofParsed s.links.stdName metadata files

/-- The extension functions that a library declares. -/
def declared (c : Catalog) : List Item := c.extensions.map (·.2)

/-- A library is read from its directory as before, whatever has been written since. -/
theorem catalogOf_perform {s : Site} {t : Tree} (ht : t.Sound)
    (hws : ∀ w ∈ ws, LibraryRoot.IsOutput w) (h : perform ws t = .ok u t')
    (hc : s.catalogOf t root = .ok c) : s.catalogOf t' root = .ok c := by
  obtain ⟨m, hm, hrest⟩ := bind_eq_ok.1 hc
  obtain ⟨files, hf, hdone⟩ := bind_eq_ok.1 hrest
  exact bind_eq_ok.2 ⟨m, LibraryRoot.manifest_perform ht hws h hm,
    bind_eq_ok.2 ⟨files, LibraryRoot.sources_perform ht hws h hf, hdone⟩⟩

theorem look_eq_ok_iff {why : ε → Failure} {f : Tree → Except ε α} {σ σ' : Session} :
    look why f σ = .ok v σ' ↔ f σ.tree = .ok v ∧ σ' = σ := by
  unfold look
  cases f σ.tree with
  | error e => simp
  | ok w => simp [eq_comm]

/-- A step of a run in which a library is published, and the size of its cache file told. -/
structure Publishes (s : Site) (c : Catalog) (σ σ' : Session) : Prop where
  performs : perform (s.publication c) σ.tree = .ok () σ'.tree
  told : sizes σ' = sizes σ ++ [cacheSize c]

theorem publishes_of_publish {s : Site} {σ σ₁ σ₂ : Session} (ht : σ₁.tree = σ.tree)
    (hn : sizes σ₁ = sizes σ) (h : s.publish c σ₁ = .ok () σ₂) : s.Publishes c σ σ₂ :=
  ⟨ht ▸ (s.enacts_publish c).performs h, hn ▸ sizes_publish h⟩

theorem process_eq_ok {s : Site} {σ : Session} (h : s.process metadata files σ = .ok is σ') :
    is = declared (.ofParsed s.links.stdName metadata files) ∧
      s.Publishes (.ofParsed s.links.stdName metadata files) σ σ' := by
  obtain ⟨c, σ₁, hclass, hrest⟩ := run_bind_eq_ok h
  obtain ⟨σ₁', hclass', ht⟩ := Quiet.classify s ⟨metadata, files, []⟩ σ
  rw [hclass] at hclass'
  cases hclass'
  obtain ⟨_, σ₂, hpub, hdone⟩ := run_bind_eq_ok hrest
  have hstep := publishes_of_publish ht (Silent.classify s _ _ _ _ hclass) hpub
  cases hdone
  refine ⟨rfl, hstep.performs, Eq.trans ?_ hstep.told⟩
  exact Silent.tell (e := .processed ..) rfl _ _ _ rfl

theorem process_ok {s : Site} {σ : Session}
    (h : perform (s.publication (.ofParsed s.links.stdName m files)) σ.tree = .ok () t) :
    ∃ σ', s.process m files σ = .ok (declared (.ofParsed s.links.stdName m files)) σ' ∧
      σ'.tree = t := by
  obtain ⟨τ, hτ, hrun⟩ := s.process_eq_ok_iff m files σ rfl
  obtain ⟨τ', hpub, ht⟩ := (s.enacts_publish _).succeeds (hτ ▸ h)
  exact ⟨_, (hrun _ _).2 ⟨τ', hpub, rfl, rfl⟩, ht⟩

theorem processRoot_eq_ok {s : Site} {σ : Session} (h : s.processRoot root σ = .ok v σ') :
    ∃ c, s.catalogOf σ.tree root = .ok c ∧ v.2 = declared c ∧ s.Publishes c σ σ' := by
  obtain ⟨m, σ₁, hlook, hrest⟩ := run_bind_eq_ok h
  obtain ⟨hm, rfl⟩ := look_eq_ok_iff.1 hlook
  obtain ⟨files, σ₂, hlook', hprocess⟩ := run_bind_eq_ok hrest
  obtain ⟨hf, rfl⟩ := look_eq_ok_iff.1 hlook'
  obtain ⟨is, σ₃, hp, hdone⟩ := run_bind_eq_ok hprocess
  cases hdone
  obtain ⟨his, hstep⟩ := process_eq_ok hp
  exact ⟨_, bind_eq_ok.2 ⟨m, hm, bind_eq_ok.2 ⟨files, hf, rfl⟩⟩, his, hstep⟩

theorem processRoot_ok {s : Site} {σ : Session} (hc : s.catalogOf σ.tree root = .ok c)
    (h : perform (s.publication c) σ.tree = .ok () t) :
    ∃ v σ', s.processRoot root σ = .ok v σ' ∧ v.2 = declared c ∧ σ'.tree = t := by
  obtain ⟨m, hm, hc⟩ := bind_eq_ok.1 hc
  obtain ⟨files, hf, hc⟩ := bind_eq_ok.1 hc
  obtain rfl := Except.ok.inj hc
  obtain ⟨σ', hp, ht⟩ := process_ok h
  refine ⟨(m.name, _), σ', ?_, rfl, ht⟩
  rw [processRoot, run_bind_ok (look_eq_ok_iff.2 ⟨hm, rfl⟩),
    run_bind_ok (look_eq_ok_iff.2 ⟨hf, rfl⟩), run_bind_ok hp]
  rfl

theorem tryRoot_eq_ok {s : Site} {σ : Session} (h : s.tryRoot root σ = .ok (r, .ok v) σ') :
    ∃ c, s.catalogOf σ.tree root = .ok c ∧ v.2 = declared c ∧ s.Publishes c σ σ' := by
  obtain ⟨result, σ₁, hattempt, h⟩ := run_bind_eq_ok h
  cases hrun : s.processRoot root σ with
  | ok w σ₂ =>
    simp only [attempt, hrun] at hattempt
    cases hattempt
    cases h
    exact processRoot_eq_ok hrun
  | error e σ₂ =>
    simp only [attempt, hrun] at hattempt
    cases hattempt
    cases h

theorem tryRoot_ok {s : Site} {σ : Session} (hc : s.catalogOf σ.tree root = .ok c)
    (h : perform (s.publication c) σ.tree = .ok () t) :
    ∃ v σ', s.tryRoot root σ = .ok (root, .ok v) σ' ∧ v.2 = declared c ∧ σ'.tree = t := by
  obtain ⟨v, σ', hrun, hv, ht⟩ := processRoot_ok hc h
  have hattempt : attempt (s.processRoot root) σ = .ok (.ok v) σ' := by simp only [attempt, hrun]
  exact ⟨v, σ', by rw [tryRoot, run_bind_ok hattempt]; rfl, hv, ht⟩

-- ---------------------------------------------------------------------------
-- Libraries from their cache files
-- ---------------------------------------------------------------------------

theorem sizes_splice {s : Site} {σ : Session}
    (hread : s.store.read σ.tree library = .ok (some cached))
    (h : s.splice library items σ = .ok o σ') :
    sizes σ' = sizes σ ++ [cacheSize (s.extended items cached.record).catalog] := by
  obtain ⟨found, σ₁, hload, hrest⟩ := run_bind_eq_ok h
  obtain ⟨σ₁', hload', -⟩ := load?_read hread
  rw [hload] at hload'
  cases hload'
  obtain ⟨_, σ₂, hskipped, hrest₁⟩ := run_bind_eq_ok hrest
  obtain ⟨_, σ₃, htell, hrest₂⟩ := run_bind_eq_ok hrest₁
  obtain ⟨_, σ₄, hpub, hdone⟩ := run_bind_eq_ok hrest₂
  cases hdone
  rw [← Silent.load? s library _ _ _ hload, ← Silent.forM (fun _ => .tell rfl) _ _ _ _ hskipped,
    ← Silent.tell (e := .spliced ..) rfl _ _ _ htell]
  exact sizes_publish hpub

/-- A turn without a failure: the library is missing, or it is published with the items
attached. -/
theorem spliceGroup_cases {s : Site} {g : String × List Item} {σ : Session}
    (h : s.spliceGroup g σ = .ok r σ') (hr : ∀ e, r.2 ≠ .failed e) :
    (s.store.read σ.tree g.1 = .ok none ∧ r = (g.1, .missingCache) ∧ σ'.tree = σ.tree ∧
        sizes σ' = sizes σ) ∨
      ∃ cached, s.store.read σ.tree g.1 = .ok (some cached) ∧ r.1 = g.1 ∧
        s.Publishes (s.extended g.2 cached.record).catalog σ σ' := by
  have hsplice : s.splice g.1 g.2 σ = .ok r.2 σ' ∧ r.1 = g.1 := by
    rw [spliceGroup_eq s g.1 g.2] at h
    split at h
    · rename_i ho
      cases h
      exact ⟨ho, rfl⟩
    · cases h
      exact absurd rfl (hr _)
  cases hread : s.store.read σ.tree g.1 with
  | error e =>
    obtain ⟨σ₁, hrun, -⟩ := spliceGroup_failed hread g.2
    rw [h] at hrun
    cases hrun
    exact absurd rfl (hr _)
  | ok found =>
    cases found with
    | none =>
      obtain ⟨σ₁, hrun, ht⟩ := spliceGroup_missing hread g.2
      rw [h] at hrun
      cases hrun
      refine .inl ⟨rfl, rfl, ht, ?_⟩
      obtain ⟨found, σ₂, hload, hrest⟩ := run_bind_eq_ok hsplice.1
      have hlook : look (.loadCache g.1) (s.store.read · g.1) σ = .ok none σ :=
        look_eq_ok_iff.2 ⟨hread, rfl⟩
      rw [load?, run_bind_ok hlook] at hload
      cases hload
      exact ((Silent.tell (e := .noCache ..) rfl).bind fun _ => .pure _) _ _ _ hrest
    | some cached =>
      obtain ⟨σ₁, ht, hrun⟩ := spliceGroup_read hread g.2
      rw [h] at hrun
      cases hp : s.publish (s.extended g.2 cached.record).catalog σ₁ with
      | error e σ₂ =>
        rw [hp] at hrun
        cases hrun
        exact absurd rfl (hr e)
      | ok u σ₂ =>
        rw [hp] at hrun
        cases hrun
        exact .inr ⟨cached, rfl, rfl, ht ▸ (s.enacts_publish _).performs hp,
          sizes_splice hread hsplice.1⟩

theorem spliceGroup_ok {s : Site} {g : String × List Item} {σ : Session}
    (hread : s.store.read σ.tree g.1 = .ok (some cached))
    (h : perform (s.publication (s.extended g.2 cached.record).catalog) σ.tree = .ok () t) :
    ∃ σ', s.spliceGroup g σ = .ok (g.1, .spliced (s.extended g.2 cached.record).added) σ' ∧
      σ'.tree = t := by
  obtain ⟨σ₁, ht, hrun⟩ := spliceGroup_read hread g.2
  obtain ⟨σ₂, hp, ht₂⟩ := (s.enacts_publish _).succeeds (ht ▸ h)
  rw [hp] at hrun
  exact ⟨σ₂, hrun, ht₂⟩

/-- A run of splices is the turns of its libraries. -/
theorem resolve_turns {s : Site} {σ : Session} (h : s.resolve items σ = .ok report σ') :
    ∃ σ₀, σ₀.tree = σ.tree ∧ sizes σ₀ = sizes σ ∧
      (s.groups items).mapM s.spliceGroup σ₀ = .ok report.splices σ' := by
  obtain ⟨_, σ₀, htell, hrest⟩ := run_bind_eq_ok h
  obtain ⟨rs, σ₁, hmap, hdone⟩ := run_bind_eq_ok hrest
  cases hdone
  obtain ⟨σ₀', htell', ht⟩ :=
    Quiet.forM (Routing.ofItems s.links.stdName items).unresolved .unresolved σ
  rw [htell] at htell'
  cases htell'
  exact ⟨σ₀, ht, Silent.forM (fun _ => .tell rfl) _ _ _ _ htell, hmap⟩

end DocSite.Site
