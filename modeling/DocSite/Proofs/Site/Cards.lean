import DocSite.Proofs.Listing
import DocSite.Proofs.Site.Replay
import DocSite.Proofs.Site.EntityPage

/-!
# The cards after a run

Libraries are processed one after the other, and the store is then listed. A cache file is
found again if it lies in the directory of the store and has a name before its extension. Of
the calls that wrote to the same place, the last one is listed (`list_processed`). Names that
are neither empty nor have a slash in them have a place each, and are all found.
-/

namespace DocSite

open Files Files.Tree

namespace Store

-- ---------------------------------------------------------------------------
-- Where a store looks
-- ---------------------------------------------------------------------------

/-- A store without a cache file in its directory. -/
structure Empty (s : Store) (t : Tree) : Prop where
  list : s.list t = .ok []
  vacant : ∀ name, hasExtension extension name = true → t.get? (t.placeOf s.dir ++ [name]) = none

/-- Whether the cache file of a library lies where the store looks for cache files. -/
def Shows (s : Store) (t : Tree) (library : String) : Prop :=
  s.dir ≠ "" ∧ ∃ file, t.placeOf (s.path library) = t.placeOf s.dir ++ [file] ∧
    hasExtension extension file = true ∧ Proper (join s.dir file)

theorem shows_plain {s : Store} {t : Tree} (hdir : s.dir ≠ "") (hne : library ≠ "")
    (h : '/' ∉ library.toList) (hproper : Proper (s.path library)) : s.Shows t library := by
  refine ⟨hdir, _, placeOf_plain h s t, ?_, hproper⟩
  have hlen : library.length ≠ 0 := by simpa using hne
  simp only [hasExtension, Bool.and_eq_true, List.isSuffixOf_iff_suffix, decide_eq_true_eq]
  constructor
  · exact ⟨library.toList, by simp [extension]⟩
  · have hdot : ".".length = 1 := by decide
    have hcache : "cache".length = 5 := by decide
    simp only [extension, String.length_append, List.length_cons, String.length_toList]
    omega

end Store

namespace Site

open Store

-- ---------------------------------------------------------------------------
-- Calls as a script
-- ---------------------------------------------------------------------------

/-- The catalog of a library that is processed. -/
def called (s : Site) (call : Metadata × List SourceFile) : Catalog :=
  .ofParsed s.links.stdName call.1 call.2

theorem metadata_called (s : Site) (call : Metadata × List SourceFile) :
    (s.called call).metadata = call.1 := Catalog.metadata_extend _ _

theorem name_called (s : Site) (call : Metadata × List SourceFile) :
    (s.called call).name = call.1.name := congrArg Metadata.name (s.metadata_called call)

/-- The files that are written for libraries which are processed one after the other. -/
def callWrites (s : Site) (calls : List (Metadata × List SourceFile)) : List Write :=
  calls.flatMap fun call => s.publication (s.called call)

theorem perform_callWrites {s : Site} {calls : List (Metadata × List SourceFile)} {σ σ' : Session}
    (h : calls.mapM (fun call => s.process call.1 call.2) σ = .ok rs σ') :
    perform (s.callWrites calls) σ.tree = .ok () σ'.tree := by
  induction calls generalizing σ rs with
  | nil =>
    cases h
    rfl
  | cons call calls ih =>
    obtain ⟨r, σ₁, rs', hcall, hcalls, -⟩ := mapM_cons_eq_ok h
    exact perform_append.2 ⟨_, (process_eq_ok hcall).2.performs, ih hcalls⟩

theorem process_callWrites {s : Site} {calls : List (Metadata × List SourceFile)} {σ : Session}
    (h : perform (s.callWrites calls) σ.tree = .ok () t) :
    ∃ rs σ', calls.mapM (fun call => s.process call.1 call.2) σ = .ok rs σ' ∧ σ'.tree = t := by
  induction calls generalizing σ with
  | nil =>
    cases h
    exact ⟨[], σ, rfl, rfl⟩
  | cons call calls ih =>
    obtain ⟨t₁, hcall, hcalls⟩ := perform_append.1 h
    obtain ⟨σ₁, hrun, rfl⟩ := process_ok hcall
    obtain ⟨rs, σ', hruns, ht⟩ := ih hcalls
    exact ⟨_, σ', mapM_cons_ok hrun hruns, ht⟩

/-- The cache file is the last that is written for a library. -/
theorem callWrites_split (s : Site) (pre : List (Metadata × List SourceFile))
    (call : Metadata × List SourceFile) (post : List (Metadata × List SourceFile)) :
    ∃ ws, s.callWrites (pre ++ call :: post) =
      ws ++ s.cacheFile (s.called call) :: s.callWrites post := by
  refine ⟨s.callWrites pre ++ ((Page.ofLibrary (s.called call)).map s.pageFile ++
    [s.searchFile (s.called call)]), ?_⟩
  simp [callWrites, publication]

theorem targets_callWrites {s : Site} {t : Tree} (h : Targets t (s.callWrites calls) q)
    (hend : EndsIn ".cache" q) : ∃ call ∈ calls, q = t.placeOf (s.store.path call.1.name) := by
  obtain ⟨w, hw, hplace⟩ := h
  obtain ⟨call, hcall, hw⟩ := List.mem_flatMap.1 hw
  refine ⟨call, hcall, ?_⟩
  rw [← name_called]
  exact targets_publication ⟨w, hw, hplace⟩ hend

-- ---------------------------------------------------------------------------
-- What the calls leave
-- ---------------------------------------------------------------------------

/-- The call that left its cache file in a place. -/
def LastAt (s : Site) (calls : List (Metadata × List SourceFile)) (t : Tree) (q : Place)
    (call : Metadata × List SourceFile) : Prop :=
  t.placeOf (s.store.path call.1.name) = q ∧
    ∃ pre post, calls = pre ++ call :: post ∧ ∀ c ∈ post, t.placeOf (s.store.path c.1.name) ≠ q

theorem LastAt.mem {s : Site} (h : s.LastAt calls t q call) : call ∈ calls := by
  obtain ⟨-, pre, post, rfl, -⟩ := h
  simp

section
variable {s : Site} {calls : List (Metadata × List SourceFile)} {t t' : Tree} (ht : t.Sound)
  (h : perform (s.callWrites calls) t = .ok () t')
include ht h

theorem read_last (hlast : s.LastAt calls t q call) :
    t'.read (s.store.path call.1.name) = .ok (Wire.encodeRecord (s.called call).record) := by
  obtain ⟨rfl, pre, post, rfl, hpost⟩ := hlast
  obtain ⟨ws, hsplit⟩ := callWrites_split s pre call post
  rw [hsplit] at h
  have hpath : (s.cacheFile (s.called call)).path = s.store.path call.1.name := by
    rw [cacheFile, name_called]
  have hread := read_perform ht h fun w hw hplace => by
    rw [hpath] at hplace
    have hend := s.store.endsIn_path call.1.name t
    rw [← hplace] at hend
    obtain ⟨c, hc, hat⟩ := targets_callWrites ⟨w, hw, rfl⟩ hend
    exact hpost c hc (hat.symm.trans hplace)
  rwa [hpath] at hread

/-- The directory of the store is there as soon as a library was processed. -/
theorem walk_store (hne : calls ≠ []) : Proper s.store.dir ∧
    t'.walk (t'.start s.store.dir) (parts s.store.dir) = .ok (t.placeOf s.store.dir) := by
  obtain ⟨pre, call, rfl⟩ := (List.eq_nil_or_concat' calls).resolve_left hne
  obtain ⟨ws, hsplit⟩ := callWrites_split s pre call []
  have hc := changes_perform ht h
  rw [hsplit] at h
  obtain ⟨t₁, hws, hlast⟩ := perform_append.1 h
  have hs := (changes_perform ht hws).sound
  obtain ⟨hproper, d, hw⟩ := Write.walk_dir hs (perform_singleton.1 hlast)
  have hplace : d = t'.placeOf s.store.dir := walk_eq_ok hw
  rw [← hc.placeOf, ← hplace]
  exact ⟨hproper, hw⟩

/-- The last call left its card in a place of the store, under the name it is listed by. -/
theorem file_last (hlast : s.LastAt calls t (t.placeOf s.store.dir ++ [file]) call)
    (hproper : Proper (join s.store.dir file)) :
    t'.locate (join s.store.dir file) = .ok (t.placeOf s.store.dir ++ [file]) ∧
      t'.get? (t.placeOf s.store.dir ++ [file]) =
        some (.file (Wire.encodeRecord (s.called call).record)) := by
  obtain ⟨p, hl, hg⟩ := read_eq_ok_iff.1 (read_last ht h hlast)
  obtain rfl : p = t.placeOf s.store.dir ++ [file] := by
    rw [locate_eq_placeOf hl, (changes_perform ht h).placeOf, hlast.1]
  obtain ⟨hsimple, hsize⟩ :=
    simple_of_ending (s.store.suffix_path call.1.name) (by decide) (by decide) hl
  obtain ⟨-, hwalk⟩ := walk_store ht h (List.ne_nil_of_mem hlast.mem)
  exact ⟨(locate_join hwalk hsimple).2 ⟨hproper, hsize, rfl⟩, hg⟩

theorem card_last (hlast : s.LastAt calls t (t.placeOf s.store.dir ++ [file]) call)
    (hproper : Proper (join s.store.dir file)) (hfit : Wire.Fits call.1) :
    card t' (join s.store.dir file) = .ok call.1 := by
  obtain ⟨hl, hg⟩ := file_last ht h hlast hproper
  rw [← s.metadata_called call] at hfit
  have hdecode : Wire.decodeMetadata (Wire.encodeRecord (s.called call).record) =
      .ok (s.called call).metadata := Wire.decodeMetadata_encodeRecord hfit
  simp only [card, read_of_get? hl hg, hdecode, metadata_called]

section
variable (hempty : s.store.Empty t) (hd : t'.locate s.store.dir = .ok (t.placeOf s.store.dir))
include hempty hd

/-- What the store lists is what was written anew. -/
theorem filter_lists : t'.places.filter (s.store.lists t' (t.placeOf s.store.dir)) =
    moved (renewed (s.store.lists t' (t.placeOf s.store.dir)) t (s.callWrites calls)) [] := by
  have hnew : t.places.filter (s.store.lists t' (t.placeOf s.store.dir)) = [] := by
    rw [List.filter_eq_nil_iff]
    intro q hq hlists
    obtain ⟨file, hfile⟩ := Option.isSome_iff_exists.1 hlists
    obtain ⟨name, rfl, hext, -⟩ := of_listed? hfile
    exact (mem_places (by simp)).1 hq (hempty.vacant name hext)
  rw [filter_places_perform ht h (fun dir name hname hdir => lists_dir hd hname hdir), hnew]
  intro w hw hanew
  obtain ⟨call, -, hw⟩ := List.mem_flatMap.1 hw
  rw [Bool.eq_false_iff]
  intro hlists
  rcases of_mem_publication hw with rfl | ⟨-, hnot⟩
  · cases hanew
  · exact hnot t (endsIn_of_lists hlists)

theorem exists_lastAt (hq : q ∈ t'.places)
    (hlists : s.store.lists t' (t.placeOf s.store.dir) q = true) :
    ∃ call, s.LastAt calls t q call := by
  have hmem := List.mem_filter.2 ⟨hq, hlists⟩
  rw [filter_lists ht h hempty hd] at hmem
  obtain ⟨w, hw, hplace⟩ := List.mem_map.1 (List.mem_filter.1 (mem_of_mem_moved hmem)).1
  have htarget : Targets t (s.callWrites calls) q := ⟨w, (List.mem_filter.1 hw).1, hplace.symm⟩
  obtain ⟨call, hcall, rfl⟩ := targets_callWrites htarget (endsIn_of_lists hlists)
  have hwritten : ∃ c ∈ calls,
      t.placeOf (s.store.path c.1.name) = t.placeOf (s.store.path call.1.name) :=
    ⟨call, hcall, rfl⟩
  obtain ⟨pre, last, post, hsplit, hlast, hpost⟩ := exists_last hwritten
  exact ⟨last, hlast, pre, post, hsplit, hpost⟩

section
variable (hfits : ∀ call ∈ calls, Wire.Fits call.1) (hdir : s.store.dir ≠ "")
include hfits hdir

/-- Every card that is listed is the one of a call. -/
theorem card_of_listed (hq : q ∈ t'.places)
    (hlisted : s.store.listed? t' (t.placeOf s.store.dir) q = some file) :
    ∃ call, s.LastAt calls t q call ∧ s.store.Shows t call.1.name ∧ card t' file = .ok call.1 := by
  obtain ⟨call, hlast⟩ := exists_lastAt ht h hempty hd hq (Option.isSome_iff_exists.2 ⟨_, hlisted⟩)
  obtain ⟨name, rfl, hext, rfl, hfile⟩ := of_listed? hlisted
  obtain ⟨p, b, hl, -⟩ := isFile_iff.1 hfile
  have hproper := Proper.of_locate hl
  refine ⟨call, hlast, ⟨hdir, name, hlast.1, hext, hproper⟩, ?_⟩
  exact card_last ht h hlast hproper (hfits call hlast.mem)

theorem mem_cards_iff :
    m ∈ t'.places.filterMap (s.store.cardAt? t' (t.placeOf s.store.dir)) ↔
      ∃ call, call.1 = m ∧ s.store.Shows t m.name ∧
        s.LastAt calls t (t.placeOf (s.store.path m.name)) call := by
  simp only [List.mem_filterMap, cardAt?_eq_some]
  constructor
  · rintro ⟨q, hq, file, hlisted, hcard⟩
    obtain ⟨call, hlast, hshows, hcard'⟩ := card_of_listed ht h hempty hd hfits hdir hq hlisted
    rw [hcard] at hcard'
    obtain rfl : m = call.1 := Except.ok.inj hcard'
    exact ⟨call, rfl, hshows, hlast.1.symm ▸ hlast⟩
  · rintro ⟨call, rfl, ⟨-, file, hplace, hext, hproper⟩, hlast⟩
    rw [hplace] at hlast
    obtain ⟨hl, hg⟩ := file_last ht h hlast hproper
    refine ⟨t.placeOf s.store.dir ++ [file], ?_, _, listed?_of_locate hext hl hg, ?_⟩
    · exact (mem_places (by simp)).2 (by simp [hg])
    · exact card_last ht h hlast hproper (hfits call hlast.mem)

/-- A name has one place, so it has one card. -/
theorem distinct_cards :
    (t'.places.filterMap (s.store.cardAt? t' (t.placeOf s.store.dir))).Pairwise
      (·.name ≠ ·.name) := by
  have hnodup : (t'.places.filter (s.store.lists t' (t.placeOf s.store.dir))).Nodup := by
    rw [filter_lists ht h hempty hd]
    exact nodup_moved _
  have hplace : ∀ q ∈ t'.places, ∀ m, s.store.cardAt? t' (t.placeOf s.store.dir) q = some m →
      s.store.lists t' (t.placeOf s.store.dir) q = true ∧
        q = t.placeOf (s.store.path m.name) := by
    intro q hq m hm
    obtain ⟨file, hlisted, hcard⟩ := cardAt?_eq_some.1 hm
    obtain ⟨call, hlast, -, hcard'⟩ := card_of_listed ht h hempty hd hfits hdir hq hlisted
    rw [hcard] at hcard'
    refine ⟨Option.isSome_iff_exists.2 ⟨file, hlisted⟩, ?_⟩
    rw [Except.ok.inj hcard', hlast.1]
  rw [List.pairwise_filterMap]
  refine (List.pairwise_filter.1 hnodup).imp_of_mem fun {q q'} hq hq' hne m hm m' hm' hname => ?_
  obtain ⟨hlists, hat⟩ := hplace q hq m hm
  obtain ⟨hlists', hat'⟩ := hplace q' hq' m' hm'
  exact hne hlists hlists' (by rw [hat, hat', hname])

end

end

end

-- ---------------------------------------------------------------------------
-- Libraries without files
-- ---------------------------------------------------------------------------

theorem called_nil {s : Site} (h : m.name ≠ s.links.stdName) :
    s.called (m, []) = ⟨m, s.links.stdName, [], []⟩ := by
  have hown : (Catalog.bare s.links.stdName ⟨m, [], []⟩).own = [] := by
    simp [Catalog.own, Catalog.extensions, Catalog.declared, Catalog.bare]
  rw [called, Catalog.ofParsed, Catalog.ofRecord, Catalog.classify, hown, Catalog.extend,
    Catalog.bare, Catalog.builtInOf, if_pos h]

/-- What is written for a library without files. -/
def bareWrites (s : Site) (m : Metadata) : List Write :=
  let c : Catalog := ⟨m, s.links.stdName, [], []⟩
  [s.pageFile (.index c), s.pageFile (.files c), s.searchFile c, s.cacheFile c]

theorem publication_nil {s : Site} (h : m.name ≠ s.links.stdName) :
    s.publication (s.called (m, [])) = s.bareWrites m := by
  have hentities : (⟨m, s.links.stdName, [], []⟩ : Catalog).entities.map (·.2) = [] := by
    simp [Catalog.entities, Catalog.declared, Catalog.builtIn]
  rw [called_nil h, publication, ofLibrary_of_entities hentities]
  rfl

theorem process_nil {ms : List Metadata} (h : ∀ m ∈ ms, m.name ≠ "std")
    (hok : isOk (perform (ms.flatMap plainSite.bareWrites) plainTree) = true) :
    ∃ rs σ, (ms.map (·, [])).mapM (fun call => plainSite.process call.1 call.2)
      ⟨plainTree, []⟩ = .ok rs σ := by
  have hwrites : plainSite.callWrites (ms.map (·, [])) = ms.flatMap plainSite.bareWrites := by
    rw [callWrites, List.flatMap_map]
    exact List.flatMap_congr fun m hm => publication_nil (h m hm)
  cases hrun : perform (ms.flatMap plainSite.bareWrites) plainTree with
  | error e t =>
    rw [hrun] at hok
    cases hok
  | ok u t =>
    rw [← hwrites] at hrun
    obtain ⟨rs, σ, hσ, -⟩ := @process_callWrites t plainSite _ ⟨plainTree, []⟩ hrun
    exact ⟨rs, σ, hσ⟩

theorem empty_plain : plainSite.store.Empty plainTree where
  list := by decide +kernel
  vacant name _ := by
    rw [Tree.get?, if_neg (by simp)]
    rfl

def cardA : Metadata := ⟨"a", "1", "a", "d", none⟩

def cardB : Metadata := ⟨"b", "1", "a", "d", none⟩

/-- The same library in its next version. -/
def cardB₂ : Metadata := ⟨"b", "2", "a", "d", none⟩

def unnamed : Metadata := ⟨"", "1", "a", "d", none⟩

-- ---------------------------------------------------------------------------
-- The listing
-- ---------------------------------------------------------------------------

theorem exists_lastAt_iff {s : Site} {t : Tree} :
    (∃ call, call.1 = m ∧ s.LastAt calls t (t.placeOf (s.store.path m.name)) call) ↔
      ∃ pre files post, calls = pre ++ (m, files) :: post ∧
        ∀ call ∈ post, t.placeOf (s.store.path call.1.name) ≠ t.placeOf (s.store.path m.name) := by
  constructor
  · rintro ⟨⟨m, files⟩, rfl, -, pre, post, hcalls, hpost⟩
    exact ⟨pre, files, post, hcalls, hpost⟩
  · rintro ⟨pre, files, post, hcalls, hpost⟩
    exact ⟨(m, files), rfl, rfl, pre, post, hcalls, hpost⟩

/-- What the store lists after some calls. -/
theorem list_callWrites {s : Site} {t t' : Tree} (ht : t.Sound) (hempty : s.store.Empty t)
    (h : perform (s.callWrites calls) t = .ok () t') (hfits : ∀ call ∈ calls, Wire.Fits call.1) :
    ∃ cards, s.store.list t' = .ok cards ∧ cards.Pairwise (·.name < ·.name) ∧
      ∀ m, m ∈ cards ↔ s.store.Shows t m.name ∧
        ∃ call, call.1 = m ∧ s.LastAt calls t (t.placeOf (s.store.path m.name)) call := by
  by_cases hdir : s.store.dir = ""
  · -- the empty path leads nowhere
    have hlist : s.store.list t' = .ok [] := by
      simp only [list, children, hdir]
      rfl
    exact ⟨[], hlist, .nil, fun m => by simp [Shows, hdir]⟩
  by_cases hne : calls = []
  · subst hne
    cases h
    exact ⟨[], hempty.list, .nil, fun m => by simp [LastAt]⟩
  obtain ⟨hproper, hwalk⟩ := walk_store ht h hne
  have hs := (changes_perform ht h).sound
  have hd := hs.locate_of_walk hproper hdir hwalk
  have hdirectory := hs.walk_dir (hs.start_dir _) hwalk
  refine ⟨byName _, (list_eq_ok_iff hd hdirectory).2 ⟨fun q hq file hlisted => ?_, rfl⟩,
    sorted_byName (distinct_cards ht h hempty hd hfits hdir), fun m => ?_⟩
  · obtain ⟨call, -, -, hcard⟩ := card_of_listed ht h hempty hd hfits hdir hq hlisted
    exact ⟨call.1, hcard⟩
  · rw [(perm_byName _).mem_iff, mem_cards_iff ht h hempty hd hfits hdir]
    constructor
    · rintro ⟨call, hm, hshows, hlast⟩
      exact ⟨hshows, call, hm, hlast⟩
    · rintro ⟨hshows, call, hm, hlast⟩
      exact ⟨call, hm, hshows, hlast⟩

/-- A store with nothing in it is listed after any calls. It has a card for each call that was the
last one for its place, if the place is one where it looks. With plain names these are the last
calls for their names. -/
theorem list_processed (s : Site) (calls : List (Metadata × List SourceFile)) (σ σ' : Session)
    (rs : List (List Item)) (hσ : σ.tree.Sound) (hempty : s.store.Empty σ.tree)
    (hrun : calls.mapM (fun call => s.process call.1 call.2) σ = .ok rs σ')
    (hfits : ∀ call ∈ calls, Wire.Fits call.1) :
    ∃ cards, (∀ u, Reordered σ'.tree u → s.store.list u = .ok cards) ∧
      cards.Pairwise (·.name < ·.name) ∧
      (∀ m, m ∈ cards ↔ s.store.Shows σ.tree m.name ∧
        ∃ pre files post, calls = pre ++ (m, files) :: post ∧
          ∀ call ∈ post, σ.tree.placeOf (s.store.path call.1.name) ≠
            σ.tree.placeOf (s.store.path m.name)) ∧
      (s.store.dir ≠ "" → (∀ call ∈ calls, call.1.name ≠ "" ∧ '/' ∉ call.1.name.toList) →
        ∀ m, m ∈ cards ↔ ∃ pre files post, calls = pre ++ (m, files) :: post ∧
          ∀ call ∈ post, call.1.name ≠ m.name) := by
  have h := perform_callWrites hrun
  obtain ⟨cards, hlist, hsorted, hcards⟩ := list_callWrites hσ hempty h hfits
  simp only [exists_lastAt_iff] at hcards
  refine ⟨cards, fun u hu => list_reordered hu hlist (unambiguous_of_sorted hsorted), hsorted, hcards,
    fun hdir hplain m => (hcards m).trans ⟨?_, ?_⟩⟩
  · rintro ⟨-, pre, files, post, hcalls, hpost⟩
    exact ⟨pre, files, post, hcalls, fun call hcall hname => hpost call hcall (by rw [hname])⟩
  · rintro ⟨pre, files, post, rfl, hpost⟩
    have hm := hplain (m, files) (by simp)
    have hplaces : ∀ call ∈ post, σ.tree.placeOf (s.store.path call.1.name) ≠
        σ.tree.placeOf (s.store.path m.name) := by
      intro call hcall hplace
      exact hpost call hcall (eq_of_placeOf_plain (hplain call (by simp [hcall])).2 hm.2 hplace)
    have hlast : s.LastAt (pre ++ (m, files) :: post) σ.tree _ (m, files) :=
      ⟨rfl, pre, post, rfl, hplaces⟩
    obtain ⟨p, hl, -⟩ := read_eq_ok_iff.1 (read_last hσ h hlast)
    exact ⟨shows_plain hdir hm.1 hm.2 (Proper.of_locate hl), pre, files, post, rfl, hplaces⟩


/-- A library that is processed twice has one card, the newer one. -/
theorem list_processed_again :
    ∃ rs σ, [(cardB, []), (cardA, []), (cardB₂, [])].mapM
        (fun call => plainSite.process call.1 call.2) ⟨plainTree, []⟩ = .ok rs σ ∧
      plainSite.store.list σ.tree = .ok [cardA, cardB₂] := by
  obtain ⟨rs, σ, hrun⟩ := @process_nil [cardB, cardA, cardB₂] (by decide) (by decide +kernel)
  obtain ⟨cards, hlist, hsorted, -, hcards⟩ :=
    list_processed plainSite _ _ σ rs sound_plainTree empty_plain hrun (by decide)
  have hmem : ∀ m, m ∈ cards ↔ m ∈ [cardA, cardB₂] := by
    intro m
    rw [hcards (by decide) (by decide)]
    constructor
    · rintro ⟨pre, files, post, hsplit, hpost⟩
      rcases pre with _ | ⟨_, _ | ⟨_, _ | ⟨_, pre⟩⟩⟩
      · -- the first card of the library is not the last
        cases hsplit
        exact absurd rfl (hpost (cardB₂, []) (by simp))
      · cases hsplit
        simp
      · cases hsplit
        simp
      · simp at hsplit
    · intro hm
      simp only [List.mem_cons, List.not_mem_nil, or_false] at hm
      rcases hm with rfl | rfl
      · exact ⟨[(cardB, [])], [], [(cardB₂, [])], rfl, by decide⟩
      · exact ⟨[(cardB, []), (cardA, [])], [], [], rfl, by simp⟩
  rw [← eq_of_sorted hsorted (by decide) hmem]
  exact ⟨rs, σ, hrun, hlist _ (.refl _)⟩

/-- The cache file of a library without a name is written and found, but not listed. -/
theorem list_processed_unnamed :
    ∃ rs σ, [(unnamed, [])].mapM (fun call => plainSite.process call.1 call.2)
        ⟨plainTree, []⟩ = .ok rs σ ∧
      plainSite.store.contains σ.tree "" = true ∧ plainSite.store.list σ.tree = .ok [] := by
  obtain ⟨rs, σ, hrun⟩ := @process_nil [unnamed] (by decide) (by decide +kernel)
  have h := perform_callWrites hrun
  have hlast : plainSite.LastAt [(unnamed, [])] plainTree _ (unnamed, []) :=
    ⟨rfl, [], [], rfl, by simp⟩
  obtain ⟨p, hl, hg⟩ := read_eq_ok_iff.1 (read_last sound_plainTree h hlast)
  obtain ⟨cards, hlist, -, hcards⟩ := list_callWrites sound_plainTree empty_plain h (by decide)
  have hnone : cards = [] := by
    rw [List.eq_nil_iff_forall_not_mem]
    intro m hm
    obtain ⟨⟨-, file, hplace, hext, -⟩, call, rfl, hlast⟩ := (hcards m).1 hm
    obtain rfl : call = (unnamed, []) := by simpa using hlast.mem
    have hat : plainTree.placeOf (plainSite.store.path unnamed.name) =
        plainTree.placeOf plainSite.store.dir ++ [".cache"] := by decide
    obtain rfl : file = ".cache" := by simpa using hplace.symm.trans hat
    exact absurd hext (by decide)
  rw [hnone] at hlist
  exact ⟨rs, σ, hrun, isFile_iff.2 ⟨p, _, hl, hg⟩, hlist⟩

end Site

end DocSite
