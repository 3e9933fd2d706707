import DocSite.Proofs.Catalog.Extensions
import DocSite.Proofs.Site.Splice
import DocSite.Proofs.Source.Reader
import DocSite.Proofs.Wire.Size
import Mathlib.Data.List.Nodup
import Mathlib.Data.List.Permutation

/-!
# Whole runs

Libraries are documented one after the other, and then the extension functions they
declare are spliced into the libraries they extend. If there were no cache files before,
every library ends up with the extensions that are due to its entities, and with no
others (`extensions_delivered`). It does not do to look into the store for cache files, since
a name may lead out of it; nor may a library be too large to be read back
(`extensions_delivered_exceptions`).

The store is followed library by library. A turn of one library, of either kind, changes
what the store holds for it and for no other (`mapM_turns`).
-/

namespace DocSite

/-- A library as it is given to a run: the texts of its files, by import path. -/
structure Sources where
  metadata : Metadata
  texts : List (String × String)

namespace Sources

def name (l : Sources) : String := l.metadata.name

def files (l : Sources) : List SourceFile :=
  l.texts.map fun (path, text) => Source.parse ⟨l.name, path⟩ text

def catalog (std : String) (l : Sources) : Catalog := .ofParsed std l.metadata l.files

theorem name_catalog (std : String) (l : Sources) : (l.catalog std).name = l.name :=
  congrArg Metadata.name (Catalog.metadata_extend _ _)

theorem stdName_catalog (std : String) (l : Sources) : (l.catalog std).stdName = std :=
  Catalog.stdName_extend _ _

/-- Before its own extensions are attached, a library has none. -/
theorem stripped_bare (std : String) (l : Sources) :
    (Catalog.bare std ⟨l.metadata, l.files, []⟩).stripped =
      Catalog.bare std ⟨l.metadata, l.files, []⟩ := by
  have hfiles : l.files.map (fun f => { f with items := f.items.map Item.stripped }) = l.files := by
    refine (List.map_congr_left fun f hf => ?_).trans (List.map_id _)
    obtain ⟨⟨path, text⟩, -, rfl⟩ := List.mem_map.1 hf
    have hitems : (Source.parse ⟨l.name, path⟩ text).items.map Item.stripped =
        (Source.parse ⟨l.name, path⟩ text).items :=
      (List.map_congr_left fun i hi => (Source.declares_of_mem_parse hi).stripped_eq).trans
        (List.map_id _)
    simp only [hitems, id]
  have hnatives : (Catalog.builtInOf std ⟨l.metadata, l.files, []⟩).map Item.stripped =
      Catalog.builtInOf std ⟨l.metadata, l.files, []⟩ := by
    unfold Catalog.builtInOf
    split
    · rfl
    · rfl
  rw [Catalog.stripped, Catalog.bare, hfiles, hnatives]

end Sources

namespace Site

open Files Files.Tree Store

-- ---------------------------------------------------------------------------
-- What the store holds
-- ---------------------------------------------------------------------------

/-- The cache file of a library holds a catalog, which is read back as it is. -/
structure Keeps (s : Site) (t : Tree) (library : String) (c : Catalog) : Prop where
  name_eq : c.name = library
  classified : Catalog.Classified s.links.stdName c
  fits : Wire.RecordFits c.record
  written : t.read (s.store.path library) = .ok (Wire.encodeRecord c.record)

/-- What the store holds for a library: a catalog, or no file. -/
def Holds (s : Site) (t : Tree) (library : String) : Option Catalog → Prop
  | some c => s.Keeps t library c
  | none => ∀ b, t.get? (t.placeOf (s.store.path library)) ≠ some (.file b)

section
variable {s : Site} {t t' : Tree} {library other : String}

theorem Keeps.read (h : s.Keeps t library c) :
    ∃ cached, s.store.read t library = .ok (some cached) ∧ cached.record = c.record :=
  ⟨_, read_of_written h.fits h.written, rfl⟩

theorem Holds.unread (h : s.Holds t library none) (cached : Cached) :
    s.store.read t library ≠ .ok (some cached) := by
  intro hr
  obtain ⟨b, hr, -⟩ := read_eq_some_iff.1 hr
  obtain ⟨p, hl, hg⟩ := read_eq_ok_iff.1 hr
  rw [locate_eq_placeOf hl] at hg
  exact h b hg

/-- Publishing a library changes nothing for one that has another cache file. -/
theorem Holds.frame (h : s.Holds t library x) (hc : Changes (s.Touched t other) t t')
    (hne : t.placeOf (s.store.path library) ≠ t.placeOf (s.store.path other)) :
    s.Holds t' library x := by
  have hfree : ¬ s.Touched t other (t.placeOf (s.store.path library)) := by
    rintro (hn | heq)
    · exact hn (s.store.endsIn_path library t)
    · exact hne heq
  cases x with
  | some c => exact ⟨h.name_eq, h.classified, h.fits, hc.read_same hfree h.written⟩
  | none =>
    intro b hb
    rw [hc.placeOf] at hb
    exact h b ((hc.same _ b hfree).1 hb)

end

-- ---------------------------------------------------------------------------
-- Turns
-- ---------------------------------------------------------------------------

/-- If the turn of each library takes what the store holds for it from `x` to `y`, so
do all turns together, as long as no two libraries share a cache file. -/
theorem mapM_turns {s : Site} {f : α → Act β} (library : α → String)
    (x y : α → Option Catalog) {as : List α} {bs : List β} {σ σ' : Session}
    (hturn : ∀ a ∈ as, ∀ b ∈ bs, ∀ σ σ', σ.tree.Sound → f a σ = .ok b σ' →
      s.Holds σ.tree (library a) (x a) →
      Changes (s.Touched σ.tree (library a)) σ.tree σ'.tree ∧ s.Holds σ'.tree (library a) (y a))
    (hσ : σ.tree.Sound)
    (hplaces : ((as.map library).map fun l => σ.tree.placeOf (s.store.path l)).Nodup)
    (hstart : ∀ a ∈ as, s.Holds σ.tree (library a) (x a)) (hrun : as.mapM f σ = .ok bs σ') :
    Grows σ.tree σ'.tree ∧ (∀ a ∈ as, s.Holds σ'.tree (library a) (y a)) ∧
      ∀ l z, (∀ l' ∈ as.map library,
          σ.tree.placeOf (s.store.path l) ≠ σ.tree.placeOf (s.store.path l')) →
        s.Holds σ.tree l z → s.Holds σ'.tree l z := by
  induction as generalizing σ bs with
  | nil =>
    cases hrun
    exact ⟨.refl hσ, by simp, fun _ _ _ h => h⟩
  | cons a as ih =>
    obtain ⟨b, σ₁, bs', hfirst, hrest, rfl⟩ := mapM_cons_eq_ok hrun
    rw [List.map_cons, List.map_cons, List.nodup_cons] at hplaces
    obtain ⟨hsa, hstart⟩ := List.forall_mem_cons.1 hstart
    obtain ⟨hc, hya⟩ := hturn a (by simp) b (by simp) σ σ₁ hσ hfirst hsa
    -- the others come through the first turn, and the first through the turns of the others
    have hapart : ∀ l ∈ as.map library,
        σ.tree.placeOf (s.store.path (library a)) ≠ σ.tree.placeOf (s.store.path l) :=
      fun l hl heq => hplaces.1 (List.mem_map.2 ⟨l, hl, heq.symm⟩)
    have hstart₁ : ∀ a' ∈ as, s.Holds σ₁.tree (library a') (x a') := fun a' ha' =>
      (hstart a' ha').frame hc (hapart _ (List.mem_map_of_mem ha')).symm
    obtain ⟨hg, hys, hframe⟩ := ih
      (fun a' ha' b' hb' => hturn a' (by simp [ha']) b' (by simp [hb'])) hc.sound
      (by simpa only [hc.placeOf] using hplaces.2) hstart₁ hrest
    simp only [hc.placeOf] at hframe
    refine ⟨hc.grows.trans hg, ?_, fun l z hl hz => ?_⟩
    · exact List.forall_mem_cons.2 ⟨hframe _ _ hapart hya, hys⟩
    · rw [List.map_cons, List.forall_mem_cons] at hl
      exact hframe l z hl.2 (hz.frame hc hl.1)

-- ---------------------------------------------------------------------------
-- The turn of one library
-- ---------------------------------------------------------------------------

/-- Documents a library that is given by its sources. -/
def processSources (s : Site) (l : Sources) : Act (List Item) := s.process l.metadata l.files

theorem processSources_eq_ok {s : Site} {l : Sources} {σ : Session}
    (h : s.processSources l σ = .ok is σ') :
    is = (l.catalog s.links.stdName).extensions.map (·.2) ∧
      ∃ σ₁ σ₂, σ₁.tree = σ.tree ∧ s.publish (l.catalog s.links.stdName) σ₁ = .ok () σ₂ ∧
        σ'.tree = σ₂.tree := by
  obtain ⟨σ₁, ht₁, hrun⟩ := s.process_eq_ok_iff l.metadata l.files σ rfl
  obtain ⟨σ₂, hp, his, rfl⟩ := (hrun is σ').1 h
  exact ⟨his, σ₁, σ₂, ht₁, hp, rfl⟩

/-- Documenting a library writes it to its cache file, and touches no other. -/
theorem processSources_spec {s : Site} {l : Sources} {σ : Session} (hσ : σ.tree.Sound)
    (h : s.processSources l σ = .ok is σ') :
    Changes (s.Touched σ.tree l.name) σ.tree σ'.tree ∧
      σ'.tree.read (s.store.path l.name) =
        .ok (Wire.encodeRecord (l.catalog s.links.stdName).record) := by
  obtain ⟨-, σ₁, σ₂, ht₁, hp, ht₂⟩ := processSources_eq_ok h
  obtain ⟨hc, hr⟩ := publish_spec (ht₁ ▸ hσ) hp
  rw [l.name_catalog] at hc hr
  rw [ht₁] at hc
  rw [ht₂]
  exact ⟨hc, hr⟩

/-- Once it is documented, the store has the library. -/
theorem processSources_holds {s : Site} {l : Sources} {σ : Session} (hσ : σ.tree.Sound)
    (hfit : Wire.RecordFits (l.catalog s.links.stdName).record)
    (h : s.processSources l σ = .ok is σ') :
    Changes (s.Touched σ.tree l.name) σ.tree σ'.tree ∧
      s.Holds σ'.tree l.name (some (l.catalog s.links.stdName)) := by
  obtain ⟨hc, hr⟩ := processSources_spec hσ h
  exact ⟨hc, l.name_catalog _, Catalog.classified_ofRecord _ _, hfit, hr⟩

/-- Splicing attaches the items to the library that the store has, if it has one. -/
theorem spliceGroup_holds {s : Site} {g : String × List Item} {σ : Session} (hσ : σ.tree.Sound)
    (hfit : ∀ c, x = some c → Wire.RecordFits (c.extend g.2).catalog.record)
    (hrun : s.spliceGroup g σ = .ok r σ') (hr : ∀ e, r.2 ≠ .failed e)
    (h : s.Holds σ.tree g.1 x) :
    Changes (s.Touched σ.tree g.1) σ.tree σ'.tree ∧
      s.Holds σ'.tree g.1 (x.map fun c => (c.extend g.2).catalog) := by
  cases x with
  | none =>
    obtain ⟨o, σ₁, hrun₁, ht, -⟩ := spliceGroup_unread h.unread g.2
    rw [hrun₁] at hrun
    cases hrun
    rw [ht]
    exact ⟨.refl hσ, h⟩
  | some c =>
    have hread := read_of_written h.fits h.written
    obtain ⟨σ₁, ht, hrun₁⟩ := spliceGroup_read hread g.2
    have hext : s.extended g.2 c.record = c.extend g.2 :=
      congrArg (Catalog.extend · g.2) (Catalog.ofRecord_record h.classified)
    simp only [hext] at hrun₁
    rw [hrun₁] at hrun
    cases hp : s.publish (c.extend g.2).catalog σ₁ with
    | error e σ₂ =>
      -- this would be reported as a failure
      rw [hp] at hrun
      cases hrun
      exact absurd rfl (hr e)
    | ok u σ₂ =>
      rw [hp] at hrun
      cases hrun
      obtain ⟨hc, hw⟩ := publish_spec (ht ▸ hσ) hp
      have hname : (c.extend g.2).catalog.name = g.1 := by
        rw [Catalog.name, Catalog.metadata_extend]
        exact h.name_eq
      rw [hname] at hc hw
      rw [ht] at hc
      exact ⟨hc, hname, h.classified.extend g.2, hfit c rfl, hw⟩

-- ---------------------------------------------------------------------------
-- All libraries
-- ---------------------------------------------------------------------------

/-- The library of a name, as it is documented. -/
def documented (std : String) (libs : List Sources) (library : String) : Option Catalog :=
  (libs.find? (·.name == library)).map (·.catalog std)

theorem documented_of_mem {libs : List Sources} (hnames : (libs.map (·.name)).Nodup)
    (hl : l ∈ libs) : documented std libs l.name = some (l.catalog std) := by
  obtain ⟨l', hfind⟩ : ∃ l', libs.find? (·.name == l.name) = some l' :=
    Option.isSome_iff_exists.1 (List.find?_isSome.2 ⟨l, hl, by simp⟩)
  have hname : l'.name = l.name := by simpa using List.find?_some hfind
  have heq := List.inj_on_of_nodup_map hnames (List.mem_of_find?_eq_some hfind) hl hname
  rw [documented, hfind, heq, Option.map_some]

theorem documented_eq_none {libs : List Sources} (h : library ∉ libs.map (·.name)) :
    documented std libs library = none := by
  rw [documented, List.find?_eq_none.2, Option.map_none]
  intro l hl hname
  exact h (List.mem_map.2 ⟨l, hl, by simpa using hname⟩)

theorem exists_of_documented {libs : List Sources} (h : documented std libs library = some c) :
    ∃ l ∈ libs, l.name = library ∧ l.catalog std = c := by
  obtain ⟨l, hfind, hc⟩ := Option.map_eq_some_iff.1 h
  exact ⟨l, List.mem_of_find?_eq_some hfind, by simpa using List.find?_some hfind, hc⟩

/-- The libraries that a run has to do with: those it documents and those it splices into. -/
def Named (s : Site) (libs : List Sources) (items : List Item) (library : String) : Prop :=
  library ∈ libs.map (·.name) ∨
    ∃ i ∈ items, (Target.ofItem? s.links.stdName i).map (·.library) = some library

theorem Named.of_group {s : Site} (hg : g ∈ s.groups items) : s.Named libs items g.1 :=
  .inr (Routing.mem_byLibrary.1 hg).1

section
variable {s : Site} {libs : List Sources} {items : List Item} {σ : Session}
  (hσ : σ.tree.Sound) (hnames : (libs.map (·.name)).Nodup)
  (hfiles : ∀ l l', s.Named libs items l → s.Named libs items l' →
    σ.tree.placeOf (s.store.path l) = σ.tree.placeOf (s.store.path l') → l = l')
  (hfits : ∀ l ∈ libs, Wire.RecordFits
    ((l.catalog s.links.stdName).extend (Routing.bound s.links.stdName l.name items)).catalog.record)
include hσ hnames hfiles hfits

omit hσ hnames hfits in
theorem nodup_places {ls : List String} (hl : ls.Nodup) (h : ∀ l ∈ ls, s.Named libs items l) :
    (ls.map fun l => σ.tree.placeOf (s.store.path l)).Nodup :=
  hl.map_on fun l hl l' hl' => hfiles l l' (h l hl) (h l' hl')

/-- After all libraries have been documented, the store has each of them and no other. -/
theorem holds_of_processSources {lists : List (List Item)}
    (hempty : ∀ l, s.Named libs items l →
      ∀ b, σ.tree.get? (σ.tree.placeOf (s.store.path l)) ≠ some (.file b))
    (hrun : libs.mapM s.processSources σ = .ok lists σ') :
    Grows σ.tree σ'.tree ∧ ∀ library, s.Named libs items library →
      s.Holds σ'.tree library (documented s.links.stdName libs library) := by
  obtain ⟨hg, hheld, hframe⟩ := mapM_turns Sources.name (fun _ => none)
    (fun l => some (l.catalog s.links.stdName))
    (fun l hl _ _ σ σ' hσ hrun _ =>
      processSources_holds hσ (Catalog.fits_of_extend (hfits l hl)) hrun)
    hσ (nodup_places hfiles hnames fun l hl => .inl hl)
    (fun l hl => hempty l.name (.inl (List.mem_map_of_mem hl))) hrun
  refine ⟨hg, fun library hlib => ?_⟩
  by_cases hmem : library ∈ libs.map (·.name)
  · obtain ⟨l, hl, rfl⟩ := List.mem_map.1 hmem
    rw [documented_of_mem hnames hl]
    exact hheld l hl
  · rw [documented_eq_none hmem]
    refine hframe library none (fun l hl heq => hmem ?_) (hempty library hlib)
    exact hfiles library l hlib (.inl hl) heq ▸ hl

omit hnames in
/-- After the items have been spliced, each library has those that go to it. -/
theorem holds_of_resolve
    (hstart : ∀ library, s.Named libs items library →
      s.Holds σ.tree library (documented s.links.stdName libs library))
    (hrun : s.resolve items σ = .ok report σ')
    (hdone : ∀ r ∈ report.splices, ∀ e, r.2 ≠ .failed e) :
    ∀ library, s.Named libs items library →
      s.Holds σ'.tree library ((documented s.links.stdName libs library).map fun c =>
        (c.extend (Routing.bound s.links.stdName library items)).catalog) := by
  obtain ⟨σ₀, rs, ht₀, hmap, hrs⟩ := resolve_eq_ok hrun
  rw [← ht₀] at hσ hfiles hstart
  have hturn : ∀ g ∈ s.groups items, ∀ r ∈ rs, ∀ σ σ', σ.tree.Sound →
      s.spliceGroup g σ = .ok r σ' →
      s.Holds σ.tree g.1 (documented s.links.stdName libs g.1) →
      Changes (s.Touched σ.tree g.1) σ.tree σ'.tree ∧ s.Holds σ'.tree g.1
        ((documented s.links.stdName libs g.1).map fun c => (c.extend g.2).catalog) := by
    intro g hg r hr σ σ' hσ hrun h
    refine spliceGroup_holds hσ (fun c hc => ?_) hrun (hdone r (hrs ▸ hr)) h
    obtain ⟨l, hl, hname, rfl⟩ := exists_of_documented hc
    rw [group_eq_bound hg, ← hname]
    exact hfits l hl
  have hnamed : ∀ l ∈ (s.groups items).map (·.1), s.Named libs items l := by
    intro l hl
    obtain ⟨g, hg, rfl⟩ := List.mem_map.1 hl
    exact .of_group hg
  obtain ⟨-, hheld, hframe⟩ := mapM_turns Prod.fst _ _ hturn hσ
    (nodup_places hfiles (s.nodup_groups items) hnamed) (fun g hg => hstart g.1 (.of_group hg)) hmap
  intro library hlib
  by_cases hmem : library ∈ (s.groups items).map (·.1)
  · obtain ⟨g, hg, rfl⟩ := List.mem_map.1 hmem
    rw [← group_eq_bound hg]
    exact hheld g hg
  · -- a library that nothing goes to has no turn, and its items are none
    have hsame : (documented s.links.stdName libs library).map (fun c => (c.extend []).catalog) =
        documented s.links.stdName libs library := Option.map_id_apply
    rw [Routing.bound_eq_nil hmem, hsame]
    refine hframe library _ (fun l hl heq => hmem ?_) (hstart library hlib)
    exact hfiles library l hlib (hnamed l hl) heq ▸ hl

end

/-- A run in which libraries are documented from their sources, and all the extension
functions they declare are then spliced. If no splice fails, the cache file of each
library holds it with exactly the extensions that are due to its entities. Whatever is
attached to an entity resolves to it, and a library that was not documented has no cache
file. -/
theorem extensions_delivered (s : Site) (libs : List Sources) (σ : Session) {σ₁ : Session}
    {lists : List (List Item)} (hσ : σ.tree.Sound) (hnames : (libs.map (·.name)).Nodup)
    (hfiles : ∀ l l', s.Named libs lists.flatten l → s.Named libs lists.flatten l' →
      σ.tree.placeOf (s.store.path l) = σ.tree.placeOf (s.store.path l') → l = l')
    (hempty : ∀ l, s.Named libs lists.flatten l →
      ∀ b, σ.tree.get? (σ.tree.placeOf (s.store.path l)) ≠ some (.file b))
    (hprocess : libs.mapM s.processSources σ = .ok lists σ₁)
    (hfits : ∀ l ∈ libs, Wire.RecordFits ((l.catalog s.links.stdName).extend
      (Routing.bound s.links.stdName l.name lists.flatten)).catalog.record) :
    lists = libs.map (fun l => (l.catalog s.links.stdName).extensions.map (·.2)) ∧
      ∃ report σ₂, s.resolve lists.flatten σ₁ = .ok report σ₂ ∧
        ((∀ r ∈ report.splices, ∀ e, r.2 ≠ .failed e) →
          (∀ l ∈ libs, ∃ cached, s.store.read σ₂.tree l.name = .ok (some cached) ∧
            (l.catalog s.links.stdName).Served lists.flatten
              (Catalog.ofRecord s.links.stdName cached.record)) ∧
          ∀ library cached, s.Named libs lists.flatten library →
            s.store.read σ₂.tree library = .ok (some cached) →
            ∃ l ∈ libs, l.name = library ∧ ∀ r e d,
              (r, .entity e d) ∈ (Catalog.ofRecord s.links.stdName cached.record).entities →
              ∀ i ∈ d.extensions, Target.ofItem? s.links.stdName i = some ⟨library, e.name⟩ ∧
                ((l.catalog s.links.stdName).find? e.name).isSome) := by
  obtain ⟨report, σ₂, hresolve⟩ := s.resolve_ok lists.flatten σ₁
  refine ⟨eq_map_of_mapM (fun l σ is σ' h => (processSources_eq_ok h).1) hprocess, report, σ₂,
    hresolve, fun hdone => ?_⟩
  obtain ⟨hg, hheld₁⟩ := holds_of_processSources hσ hnames hfiles hfits hempty hprocess
  have hheld := holds_of_resolve hg.sound (by simpa only [hg.placeOf] using hfiles) hfits hheld₁
    hresolve hdone
  have hserved : ∀ l ∈ libs, ∃ cached, s.store.read σ₂.tree l.name = .ok (some cached) ∧
      (l.catalog s.links.stdName).Served lists.flatten
        (Catalog.ofRecord s.links.stdName cached.record) := by
    intro l hl
    have hkeeps := hheld l.name (.inl (List.mem_map_of_mem hl))
    rw [documented_of_mem hnames hl, Option.map_some] at hkeeps
    obtain ⟨cached, hread, hrecord⟩ := hkeeps.read
    refine ⟨cached, hread, ?_⟩
    -- what is read is the library as it was before its file was written
    rw [hrecord, Catalog.ofRecord_record hkeeps.classified]
    exact Catalog.served_extend (l.stripped_bare s.links.stdName) lists.flatten
  refine ⟨hserved, fun library cached hlib hread => ?_⟩
  by_cases hmem : library ∈ libs.map (·.name)
  · obtain ⟨l, hl, rfl⟩ := List.mem_map.1 hmem
    obtain ⟨cached', hread', h⟩ := hserved l hl
    rw [hread'] at hread
    cases hread
    refine ⟨l, hl, rfl, fun r e d he i hi => ?_⟩
    have hattached := h.attached he hi
    rwa [l.name_catalog, l.stdName_catalog] at hattached
  · have hnone := hheld library hlib
    rw [documented_eq_none hmem] at hnone
    exact absurd hread (hnone.unread cached)

-- ---------------------------------------------------------------------------
-- Runs spelled out
-- ---------------------------------------------------------------------------

/-- Sources are known by what would be written of them. -/
theorem catalog_of_encoded {l : Sources} (hl : Wire.RecordFits ⟨l.metadata, l.files, []⟩)
    (hr : Wire.RecordFits r) (heq : Wire.encodeRecord ⟨l.metadata, l.files, []⟩ = Wire.encodeRecord r)
    (hc : Catalog.ofRecord std r = c) : l.catalog std = c := by
  rw [← hc, ← Wire.eq_of_encodeRecord_eq hl hr heq]
  rfl

/-- A library with its catalog, its entities, and the extension functions it declares. -/
structure Shown (s : Site) where
  sources : Sources
  catalog : Catalog
  entities : List Item
  extensions : List Item
  catalog_eq : sources.catalog s.links.stdName = catalog
  entities_eq : catalog.entities.map (·.2) = entities
  extensions_eq : catalog.extensions.map (·.2) = extensions

section
variable {s : Site}

def Shown.pages (l : Shown s) : List Page := pagesOf l.catalog l.entities

theorem Shown.processed (l : Shown s) {σ : Session}
    (hok : isOk (s.publishPages l.catalog l.pages ⟨σ.tree, []⟩) = true) :
    ∃ σ', s.processSources l.sources σ = .ok l.extensions σ' ∧
      σ'.tree = s.treeAfter l.catalog l.pages σ.tree := by
  obtain ⟨σ₁, ht₁, hrun⟩ :=
    s.process_eq_ok_iff l.sources.metadata l.sources.files σ l.catalog_eq
  obtain ⟨σ₂, hp, ht₂⟩ := publish_pages (ofLibrary_of_entities l.entities_eq) ht₁ hok
  exact ⟨_, (hrun _ _).2 ⟨σ₂, hp, l.extensions_eq.symm, rfl⟩, ht₂⟩

/-- The tree after publishing libraries in order, if they can be. -/
def published? : List (Shown s) → Tree → Option Tree
  | [], t => some t
  | l :: ls, t =>
    if isOk (s.publishPages l.catalog l.pages ⟨t, []⟩) then
      published? ls (s.treeAfter l.catalog l.pages t)
    else none

theorem mapM_published {ls : List (Shown s)} {σ : Session} (h : published? ls σ.tree = some t) :
    ∃ σ', (ls.map (·.sources)).mapM s.processSources σ = .ok (ls.map (·.extensions)) σ' ∧
      σ'.tree = t := by
  induction ls generalizing σ with
  | nil => exact ⟨σ, rfl, Option.some.inj h⟩
  | cons l ls ih =>
    rw [published?] at h
    split at h
    · rename_i hok
      obtain ⟨σ₁, h₁, ht₁⟩ := l.processed hok
      obtain ⟨σ', h₂, ht₂⟩ := ih (ht₁ ▸ h)
      exact ⟨σ', mapM_cons_ok h₁ h₂, ht₂⟩
    · cases h

/-- A run that extends one library, by what its turn comes to. -/
theorem run_of_turn {ls : List (Shown s)} (h : published? ls t = some t₁)
    (hgroups : s.groups (ls.map (·.extensions)).flatten = [g])
    (hturn : ∀ σ : Session, σ.tree = t₁ → ∃ σ', s.spliceGroup g σ = .ok r σ' ∧ σ'.tree = t')
    (hr : r.2.failure? = none) :
    ∃ σ₁ report σ₂,
      (ls.map (·.sources)).mapM s.processSources ⟨t, []⟩ = .ok (ls.map (·.extensions)) σ₁ ∧
      s.resolve (ls.map (·.extensions)).flatten σ₁ = .ok report σ₂ ∧
      report.hasFailures = false ∧ σ₂.tree = t' := by
  obtain ⟨σ₁, hprocess, ht₁⟩ := mapM_published (σ := ⟨t, []⟩) h
  obtain ⟨σ₀, ht₀, hresolve⟩ := s.resolve_eq (ls.map (·.extensions)).flatten σ₁
  obtain ⟨σ₂, hsplice, ht₂⟩ := hturn σ₀ (ht₀.trans ht₁)
  rw [hgroups, mapM_cons_ok hsplice rfl] at hresolve
  refine ⟨σ₁, _, σ₂, hprocess, hresolve, ?_, ht₂⟩
  simp [Report.hasFailures, Report.failures, hr]

/-- Whether the libraries can be published, and then one again: it is read from the cache file of
a name, and is afterwards in its own. -/
def republished (ls : List (Shown s)) (t : Tree) (library : String) (old new : Catalog)
    (pages : List Page) : Bool :=
  (published? ls t).any fun t =>
    t.read (s.store.path library) = .ok (Wire.encodeRecord old.record) &&
      isOk (s.publishPages new pages ⟨t, []⟩) &&
      (s.treeAfter new pages t).read (s.store.path new.name) = .ok (Wire.encodeRecord new.record)

theorem run_republished {ls : List (Shown s)}
    (h : republished ls t library old new pages = true) (hfit : Wire.RecordFits old.record)
    (hgroups : s.groups (ls.map (·.extensions)).flatten = [(library, items)])
    (hext : (s.extended items old.record).catalog = new) (hpages : Page.ofLibrary new = pages) :
    ∃ σ₁ report σ₂,
      (ls.map (·.sources)).mapM s.processSources ⟨t, []⟩ = .ok (ls.map (·.extensions)) σ₁ ∧
      s.resolve (ls.map (·.extensions)).flatten σ₁ = .ok report σ₂ ∧
      report.hasFailures = false ∧
      σ₂.tree.read (s.store.path new.name) = .ok (Wire.encodeRecord new.record) := by
  obtain ⟨t₁, ht₁, hread⟩ := (Option.any_eq_true ..).1 h
  simp only [Bool.and_eq_true, decide_eq_true_eq] at hread
  obtain ⟨⟨hold, hok⟩, hnew⟩ := hread
  obtain ⟨σ₁, report, σ₂, hprocess, hresolve, hdone, hσ₂⟩ := run_of_turn ht₁ hgroups
    (fun _ hσ => spliceGroup_published hfit hold hext hpages hok hσ) rfl
  exact ⟨σ₁, report, σ₂, hprocess, hresolve, hdone, hσ₂ ▸ hnew⟩

end

theorem eq_of_places {s : Site} {t : Tree}
    (h : t.placeOf (s.store.path a) ≠ t.placeOf (s.store.path b)) (hl : l = a ∨ l = b)
    (hl' : l' = a ∨ l' = b)
    (heq : t.placeOf (s.store.path l) = t.placeOf (s.store.path l')) : l = l' := by
  rcases hl with rfl | rfl
  · rcases hl' with rfl | rfl
    · rfl
    · exact absurd heq h
  · rcases hl' with rfl | rfl
    · exact absurd heq.symm h
    · rfl

-- ---------------------------------------------------------------------------
-- A run of two libraries
-- ---------------------------------------------------------------------------

def plainSite : Site := ⟨⟨"cache"⟩, "site", ⟨"std", none⟩⟩

def plainTree : Tree := ⟨[], []⟩

theorem plainTree_get? (p : Place) (b : List UInt8) : plainTree.get? p ≠ some (.file b) := by
  unfold Tree.get?
  split
  · simp
  · simp [plainTree]

/-- A library with an entity and an extension function on it. -/
def boxSources : Sources :=
  ⟨⟨"b", "1", "a", "d", none⟩, [("b.ql", "entity B \x7b\n\x7d\n/** @on b.B */\nfun f() on B \x7b\n\x7d")]⟩

/-- A library with a function that extends the other one's entity. -/
def tapeSources : Sources :=
  ⟨⟨"t", "1", "a", "d", none⟩, [("t.ql", "/** @on b.B */\nfun g() on B \x7b\n\x7d")]⟩

def onBox (library path name : String) : Item :=
  .function ⟨library, path, name, [], false, false, some "B"⟩
    { on := some ⟨some ⟨.script, "b.B"⟩, none⟩ }

def boxFun : Item := onBox "b" "b.ql" "f"

def tapeFun : Item := onBox "t" "t.ql" "g"

def boxOf (extensions : List Item) : Item :=
  .entity ⟨"b", "b.ql", "B"⟩ { extensions := extensions }

def boxCatalog (extensions : List Item) : Catalog :=
  ⟨boxSources.metadata, "std", [⟨"b.ql", "b.ql", [boxOf extensions, boxFun]⟩], []⟩

def tapeCatalog : Catalog :=
  ⟨tapeSources.metadata, "std", [⟨"t.ql", "t.ql", [tapeFun]⟩], []⟩

def boxShown : Shown plainSite where
  sources := boxSources
  catalog := boxCatalog [boxFun]
  entities := [boxOf [boxFun]]
  extensions := [boxFun]
  catalog_eq := catalog_of_encoded (r := (boxCatalog []).record) (by decide +kernel) (by decide)
    (by decide +kernel) (by cbv)
  entities_eq := by cbv
  extensions_eq := by cbv

def tapeShown : Shown plainSite where
  sources := tapeSources
  catalog := tapeCatalog
  entities := []
  extensions := [tapeFun]
  catalog_eq := catalog_of_encoded (r := tapeCatalog.record) (by decide +kernel) (by decide)
    (by decide +kernel) (by cbv)
  entities_eq := by cbv
  extensions_eq := by cbv

def boxPages (extensions : List Item) : List Page :=
  pagesOf (boxCatalog extensions) [boxOf extensions]

theorem ofLibrary_box (extensions : List Item) :
    Page.ofLibrary (boxCatalog extensions) = boxPages extensions :=
  ofLibrary_of_entities (by cbv)

theorem boxes_republished :
    republished [boxShown, tapeShown] plainTree "b" (boxCatalog [boxFun])
      (boxCatalog [boxFun, tapeFun]) (boxPages [boxFun, tapeFun]) = true := by
  decide +kernel

theorem boxes_run :
    ∃ σ₁ report σ₂,
      [boxSources, tapeSources].mapM plainSite.processSources ⟨plainTree, []⟩ =
        .ok [[boxFun], [tapeFun]] σ₁ ∧
      plainSite.resolve [boxFun, tapeFun] σ₁ = .ok report σ₂ ∧ report.hasFailures = false := by
  obtain ⟨σ₁, report, σ₂, hprocess, hresolve, hdone, -⟩ :=
    run_republished boxes_republished (by decide) (by cbv) (by cbv) (ofLibrary_box _)
  exact ⟨σ₁, report, σ₂, hprocess, hresolve, hdone⟩

theorem boxes_places : plainTree.placeOf (plainSite.store.path "b") ≠
    plainTree.placeOf (plainSite.store.path "t") := by decide

theorem named_box
    (h : plainSite.Named [boxSources, tapeSources] [[boxFun], [tapeFun]].flatten l) :
    l = "b" ∨ l = "t" := by
  rcases h with hl | ⟨i, hi, hl⟩
  · simpa [boxSources, tapeSources, Sources.name] using hl
  · have hb : (Target.ofItem? plainSite.links.stdName i).map (·.library) = some "b" := by
      rcases List.mem_pair.1 hi with rfl | rfl
      · decide
      · decide
    rw [hb] at hl
    exact .inl (Option.some.inj hl).symm

theorem fits_box : ∀ l ∈ [boxSources, tapeSources],
    Wire.RecordFits ((l.catalog plainSite.links.stdName).extend (Routing.bound
      plainSite.links.stdName l.name [[boxFun], [tapeFun]].flatten)).catalog.record := by
  have hfits : ∀ l ∈ [boxShown, tapeShown], Wire.RecordFits (l.catalog.extend (Routing.bound
      "std" l.sources.name [boxFun, tapeFun])).catalog.record := by decide +kernel
  intro l hl
  obtain ⟨shown, hmem, rfl⟩ : ∃ shown ∈ [boxShown, tapeShown], shown.sources = l :=
    List.mem_map.1 hl
  rw [shown.catalog_eq]
  exact hfits shown hmem

theorem extensions_delivered_boxes :
    ∃ σ₁ report σ₂,
      [boxSources, tapeSources].mapM plainSite.processSources ⟨plainTree, []⟩ =
        .ok [[boxFun], [tapeFun]] σ₁ ∧
      plainSite.resolve [boxFun, tapeFun] σ₁ = .ok report σ₂ ∧
      ∃ cached e d, plainSite.store.read σ₂.tree "b" = .ok (some cached) ∧
        (Catalog.ofRecord "std" cached.record).find? "B" = some (.entity e d) ∧
        d.extensions = [boxFun, tapeFun] := by
  obtain ⟨σ₁, report, σ₂, hprocess, hresolve, hdone⟩ := boxes_run
  obtain ⟨-, report', σ₂', hresolve', hserved⟩ := extensions_delivered plainSite
    [boxSources, tapeSources] ⟨plainTree, []⟩ (sound_of_entries rfl (by decide)) (by decide)
    (fun l l' hl hl' => eq_of_places boxes_places (named_box hl) (named_box hl'))
    (fun _ _ b => plainTree_get? _ b) hprocess fits_box
  obtain ⟨rfl, rfl⟩ : report = report' ∧ σ₂ = σ₂' := by
    have hsame := hresolve.symm.trans hresolve'
    cases hsame
    exact ⟨rfl, rfl⟩
  obtain ⟨cached, hcached, hbox⟩ := (hserved (Report.not_failed hdone)).1 boxSources (by simp)
  rw [show boxSources.catalog plainSite.links.stdName = boxCatalog [boxFun] from
    boxShown.catalog_eq] at hbox
  have hknown : ((boxCatalog [boxFun]).find? "B").isSome := by cbv
  obtain ⟨e, d, hfind, hd⟩ := hbox.known "B" hknown
  refine ⟨σ₁, report, σ₂, hprocess, hresolve, cached, e, d, hcached, hfind, ?_⟩
  rw [hd]
  cbv

-- ---------------------------------------------------------------------------
-- A cache file outside the store
-- ---------------------------------------------------------------------------

/-- A site with a standard library whose name leads out of the store. -/
def outerSite : Site := ⟨⟨"cache"⟩, "site", ⟨"../kept", none⟩⟩

def numberSources : Sources :=
  ⟨⟨"e", "1", "a", "d", none⟩, [("e.ql", "fun f() on int")]⟩

def numberFun : Item := .function ⟨"e", "e.ql", "f", [], false, false, some "int"⟩ {}

def numberCatalog : Catalog :=
  ⟨numberSources.metadata, "../kept", [⟨"e.ql", "e.ql", [numberFun]⟩], []⟩

def numberShown : Shown outerSite where
  sources := numberSources
  catalog := numberCatalog
  entities := []
  extensions := [numberFun]
  catalog_eq := catalog_of_encoded (r := numberCatalog.record) (by decide +kernel) (by decide)
    (by decide +kernel) (by cbv)
  entities_eq := by cbv
  extensions_eq := by cbv

def intOf (extensions : List Item) : Item :=
  .entity ⟨"../kept", "../kept", "int"⟩ { extensions := extensions }

/-- The standard library, as it was once documented. -/
def keptCatalog (extensions : List Item) : Catalog :=
  ⟨⟨"../kept", "1", "a", "d", none⟩, "../kept", [], [intOf extensions]⟩

/-- The store is empty, and the file is beside it. -/
def outerTree : Tree :=
  ⟨[], [(["kept.cache"], .file (Wire.encodeRecord (keptCatalog []).record))]⟩

theorem outer_list : outerSite.store.list outerTree = .ok [] := by decide

theorem outer_places : outerTree.placeOf (outerSite.store.path "e") ≠
    outerTree.placeOf (outerSite.store.path "../kept") := by decide

theorem named_outer (h : outerSite.Named [numberSources] [numberFun] l) :
    l = "e" ∨ l = "../kept" := by
  rcases h with hl | ⟨i, hi, hl⟩
  · exact .inl (List.mem_singleton.1 hl)
  · have hkept : (Target.ofItem? outerSite.links.stdName numberFun).map (·.library) =
        some "../kept" := by decide
    rw [List.mem_singleton.1 hi, hkept] at hl
    exact .inr (Option.some.inj hl).symm

theorem outer_republished :
    republished [numberShown] outerTree "../kept" (keptCatalog []) (keptCatalog [numberFun])
      (pagesOf (keptCatalog [numberFun]) [intOf [numberFun]]) = true := by
  decide +kernel

/-- The library outside the store is extended. -/
theorem outer_run :
    ∃ σ₁ report σ₂,
      [numberSources].mapM outerSite.processSources ⟨outerTree, []⟩ = .ok [[numberFun]] σ₁ ∧
      outerSite.resolve [numberFun] σ₁ = .ok report σ₂ ∧ report.hasFailures = false ∧
      ∃ cached e d, outerSite.store.read σ₂.tree "../kept" = .ok (some cached) ∧
        (Catalog.ofRecord "../kept" cached.record).find? "int" = some (.entity e d) ∧
        d.extensions = [numberFun] := by
  obtain ⟨σ₁, report, σ₂, hprocess, hresolve, hdone, hfile⟩ := run_republished outer_republished
    (by decide) (by cbv) (by cbv) (ofLibrary_of_entities (by cbv))
  have hread : outerSite.store.read σ₂.tree "../kept" = _ :=
    read_of_written (r := (keptCatalog [numberFun]).record) (by decide) hfile
  have hfind : (Catalog.ofRecord "../kept" (keptCatalog [numberFun]).record).find? "int" =
      some (intOf [numberFun]) := by cbv
  exact ⟨σ₁, report, σ₂, hprocess, hresolve, hdone, _, _, _, hread, hfind, rfl⟩

-- ---------------------------------------------------------------------------
-- Too large a library
-- ---------------------------------------------------------------------------

def describedSources (text : String) : Sources :=
  ⟨⟨"b", "1", "a", text, none⟩, [("b.ql", "entity B \x7b\n\x7d")]⟩

def describedCatalog (text : String) : Catalog :=
  ⟨(describedSources text).metadata, "std", [⟨"b.ql", "b.ql", [boxOf []]⟩], []⟩

/-- What is read does not depend on the description. -/
theorem describedSources_files (text : String) :
    (describedSources text).files = (describedCatalog text).files := by
  have hsame : (describedSources text).files = (describedSources "").files := rfl
  have hread : (⟨(describedSources "").metadata, (describedSources "").files, []⟩ : Record) =
      (describedCatalog "").record :=
    Wire.eq_of_encodeRecord_eq (by decide +kernel) (by decide) (by decide +kernel)
  rw [hsame]
  exact congrArg Record.files hread

def describedShown (text : String) : Shown plainSite where
  sources := describedSources text
  catalog := describedCatalog text
  entities := [boxOf []]
  extensions := []
  catalog_eq := by
    rw [Sources.catalog, describedSources_files]
    cbv
  entities_eq := by cbv
  extensions_eq := by cbv

theorem described_published :
    isOk (plainSite.publishPages (describedShown (Wire.textOf UInt32.size)).catalog
      (describedShown (Wire.textOf UInt32.size)).pages ⟨plainTree, []⟩) = true := by
  decide +kernel

theorem described_refused (hn : n = UInt32.size) : ∃ e, Wire.decodeRecord
    (Wire.encodeRecord (describedCatalog (Wire.textOf n)).record) = .error e := by
  have hshort : ∀ text ∈ ["b", "1", "a"], text.utf8ByteSize < UInt32.size := by decide
  exact Wire.decodeRecord_wrapped hshort ((Wire.utf8ByteSize_textOf n).trans hn)
    fun b hb => Wire.le_of_mem_textOf hb

/-- The library is written, and is not read back. -/
theorem described_unread : ∃ σ₁ report σ₂,
    [describedSources (Wire.textOf UInt32.size)].mapM plainSite.processSources ⟨plainTree, []⟩ =
      .ok [[]] σ₁ ∧
    plainSite.resolve [] σ₁ = .ok report σ₂ ∧ report.hasFailures = false ∧
    ∀ cached, plainSite.store.read σ₂.tree "b" ≠ .ok (some cached) := by
  obtain ⟨σ₁, hprocess, -⟩ :=
    (describedShown (Wire.textOf UInt32.size)).processed (σ := ⟨plainTree, []⟩) described_published
  obtain ⟨report, σ₂, hresolve, hdone, -, ht₂⟩ := plainSite.resolve_nil σ₁
  refine ⟨σ₁, report, σ₂, mapM_cons_ok hprocess rfl, hresolve, hdone, fun cached hread => ?_⟩
  obtain ⟨-, hwritten⟩ := processSources_spec (sound_of_entries rfl (by decide)) hprocess
  rw [(describedShown _).catalog_eq, ← ht₂] at hwritten
  obtain ⟨b, hfile, hdecoded, -⟩ := read_eq_some_iff.1 hread
  obtain ⟨e, he⟩ := described_refused rfl
  rw [Except.ok.inj (hfile.symm.trans hwritten)] at hdecoded
  cases he.symm.trans hdecoded

theorem described_known (text : String) :
    (((describedSources text).catalog "std").find? "B").isSome := by
  rw [show (describedSources text).catalog "std" = _ from (describedShown text).catalog_eq]
  cbv

/-- Neither what is kept outside the store nor the size of a library can be left out. -/
theorem extensions_delivered_exceptions :
    (outerTree.Sound ∧ outerSite.store.list outerTree = .ok [] ∧
      (∀ l l', outerSite.Named [numberSources] [numberFun] l →
        outerSite.Named [numberSources] [numberFun] l' →
        outerTree.placeOf (outerSite.store.path l) = outerTree.placeOf (outerSite.store.path l') →
          l = l') ∧
      ∃ σ₁ report σ₂,
        [numberSources].mapM outerSite.processSources ⟨outerTree, []⟩ = .ok [[numberFun]] σ₁ ∧
        outerSite.resolve [numberFun] σ₁ = .ok report σ₂ ∧ report.hasFailures = false ∧
        ∃ cached e d, outerSite.store.read σ₂.tree "../kept" = .ok (some cached) ∧
          (Catalog.ofRecord "../kept" cached.record).find? "int" = some (.entity e d) ∧
          d.extensions = [numberFun]) ∧
    (((describedSources (Wire.textOf UInt32.size)).catalog "std").find? "B").isSome ∧ ∃ σ₁ report σ₂,
      [describedSources (Wire.textOf UInt32.size)].mapM plainSite.processSources ⟨plainTree, []⟩ =
        .ok [[]] σ₁ ∧
      plainSite.resolve [] σ₁ = .ok report σ₂ ∧ report.hasFailures = false ∧
      ∀ cached, plainSite.store.read σ₂.tree "b" ≠ .ok (some cached) := by
  refine ⟨⟨sound_of_entries rfl (by decide), outer_list, fun l l' hl hl' => ?_, outer_run⟩,
    described_known _, described_unread⟩
  exact eq_of_places outer_places (named_outer hl) (named_outer hl')

end Site

end DocSite
