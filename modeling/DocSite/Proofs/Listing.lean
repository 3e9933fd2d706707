import DocSite.Proofs.Files.Script

/-!
# Listing a store

Which libraries a store lists depends on its cache files, on the directories of the tree, and
on the order in which the places of cache files are listed. Where these are the same, so is
the list (`list_same`). In another order the same cards are listed (`list_perm`), and in the same
order where no two of them have the same name (`list_reordered`).
-/

namespace DocSite.Store

open Files Files.Tree

-- ---------------------------------------------------------------------------
-- Names without slashes
-- ---------------------------------------------------------------------------

section
variable {library : String} (h : '/' ∉ library.toList)
include h

theorem simple_file : Simple (library ++ "." ++ extension) := by
  rw [String.append_assoc]
  exact simple_append h (by decide) (by decide)

theorem parts_plain (s : Store) :
    parts (s.path library) = parts s.dir ++ [library ++ "." ++ extension] :=
  parts_join_simple (simple_file h) s.dir

theorem placeOf_plain (s : Store) (t : Tree) :
    t.placeOf (s.path library) = t.placeOf s.dir ++ [library ++ "." ++ extension] :=
  placeOf_join (simple_file h) t s.dir

/-- Two libraries have two cache files. -/
theorem eq_of_placeOf_plain {other : String} (h' : '/' ∉ other.toList) {s : Store} {t : Tree}
    (hp : t.placeOf (s.path library) = t.placeOf (s.path other)) : library = other := by
  rw [placeOf_plain h, placeOf_plain h'] at hp
  have hname : library ++ "." ++ extension = other ++ "." ++ extension := by simpa using hp
  rw [String.append_assoc, String.append_assoc] at hname
  exact String.append_left_inj _ |>.1 hname

end

-- ---------------------------------------------------------------------------
-- The cache files in a listing
-- ---------------------------------------------------------------------------

def childName? (dir q : Place) : Option String :=
  match relative? dir q with
  | some [name] => some name
  | _ => none

/-- The path of a cache file of the store, if there is one at a place. -/
def listed? (s : Store) (t : Tree) (dir q : Place) : Option String :=
  (((childName? dir q).filter (hasExtension extension)).map (join s.dir)).filter t.isFile

def lists (s : Store) (t : Tree) (dir q : Place) : Bool := (s.listed? t dir q).isSome

theorem children_eq_ok_iff {t : Tree} {dir : String} :
    t.children dir = .ok names ↔ ∃ d, t.locate dir = .ok d ∧ t.get? d = some .directory ∧
      names = t.places.filterMap (childName? d) := by
  unfold children
  cases t.locate dir with
  | error e => simp
  | ok d =>
    simp only [Except.ok.injEq, exists_eq_left', places, List.filterMap_map]
    rcases t.get? d with _ | _ | _
    · simp
    · simp
    · simp only [Except.ok.injEq, true_and]
      exact eq_comm

theorem proper_of_children {t : Tree} (h : t.children folder = .error .notFound) :
    Proper folder := by
  by_contra hp
  obtain ⟨e, he, hl⟩ := locate_of_not_proper hp
  simp only [children, hl] at h
  exact he (Except.error.inj h)

theorem ne_empty_of_children {t : Tree} (h : t.children folder = .error e)
    (he : e ≠ .notFound) : folder ≠ "" := by
  rintro rfl
  have hl : t.locate "" = .error .notFound := rfl
  simp only [children, hl] at h
  exact he (Except.error.inj h).symm

theorem cacheFiles_children (s : Store) (t : Tree) (d : Place) :
    s.cacheFiles t (t.places.filterMap (childName? d)) = t.places.filterMap (s.listed? t d) := by
  simp only [cacheFiles, List.filter_filterMap, List.map_filterMap]
  rfl

theorem filterMap_lists (s : Store) (t : Tree) (d : Place) (ps : List Place) :
    (ps.filter (s.lists t d)).filterMap (s.listed? t d) = ps.filterMap (s.listed? t d) := by
  have hshown : ∀ q, (if s.lists t d q then s.listed? t d q else none) = s.listed? t d q := by
    intro q
    unfold lists
    cases s.listed? t d q <;> rfl
  simp only [List.filterMap_filter, hshown]

/-- What is listed lies in the store and is named like a cache file. -/
theorem of_listed? {s : Store} {t : Tree} {d q : Place} (h : s.listed? t d q = some file) :
    ∃ name, q = d ++ [name] ∧ hasExtension extension name = true ∧ file = join s.dir name ∧
      t.isFile file = true := by
  obtain ⟨hmap, hfile⟩ := Option.filter_eq_some_iff.1 h
  obtain ⟨name, hname, rfl⟩ := Option.map_eq_some_iff.1 hmap
  obtain ⟨hchild, hext⟩ := Option.filter_eq_some_iff.1 hname
  refine ⟨name, ?_, hext, rfl, hfile⟩
  unfold childName? at hchild
  split at hchild
  · rename_i hr
    cases hchild
    exact relative?_eq_some hr
  · cases hchild

theorem listed?_of_locate {s : Store} {t : Tree} {d : Place}
    (hext : hasExtension extension file = true)
    (hl : t.locate (join s.dir file) = .ok (d ++ [file]))
    (hg : t.get? (d ++ [file]) = some (.file b)) :
    s.listed? t d (d ++ [file]) = some (join s.dir file) := by
  have hchild : childName? d (d ++ [file]) = some file := by simp [childName?, relative?]
  rw [listed?, hchild, Option.filter_some, if_pos hext, Option.map_some, Option.filter_some,
    if_pos (isFile_iff.2 ⟨_, b, hl, hg⟩)]

theorem suffix_of_hasExtension (h : hasExtension extension name = true) :
    ".cache".toList <:+ name.toList := by
  simp only [hasExtension, Bool.and_eq_true] at h
  exact List.isSuffixOf_iff_suffix.1 h.1

theorem suffix_of_listed? {s : Store} {t : Tree} {d q : Place}
    (h : s.listed? t d q = some file) : ".cache".toList <:+ file.toList := by
  obtain ⟨name, -, hext, rfl, -⟩ := of_listed? h
  exact (suffix_of_hasExtension hext).trans (suffix_join s.dir name)

theorem endsIn_of_lists {s : Store} {t : Tree} {d q : Place} (h : s.lists t d q = true) :
    EndsIn ".cache" q := by
  obtain ⟨file, hfile⟩ := Option.isSome_iff_exists.1 h
  obtain ⟨name, rfl, hext, -⟩ := of_listed? hfile
  exact ⟨name, by simp, suffix_of_hasExtension hext⟩

/-- A directory with a name of its own is not listed. -/
theorem lists_dir {s : Store} {t : Tree} {d dir : Place} (hd : t.locate s.dir = .ok d)
    (hname : Simple name) (hdir : t.get? (dir ++ [name]) = some .directory) :
    s.lists t d (dir ++ [name]) = false := by
  rw [Bool.eq_false_iff]
  intro h
  obtain ⟨file, hlisted⟩ := Option.isSome_iff_exists.1 h
  obtain ⟨name', heq, -, rfl, hfile⟩ := of_listed? hlisted
  obtain ⟨rfl, rfl⟩ : dir = d ∧ name = name' := by simpa using heq
  obtain ⟨p, b, hl, hg⟩ := isFile_iff.1 hfile
  have hplace : p = dir ++ [name] := by
    rw [locate_eq_placeOf hl, locate_eq_placeOf hd, placeOf_join hname]
  rw [hplace, hdir] at hg
  cases hg

-- ---------------------------------------------------------------------------
-- The cards in a listing
-- ---------------------------------------------------------------------------

/-- All that a list is mapped to, if nothing fails. -/
theorem mapM_eq_ok_iff {f : α → Except ε β} {xs : List α} :
    xs.mapM f = .ok ys ↔
      (∀ x ∈ xs, ∃ y, f x = .ok y) ∧ ys = xs.filterMap fun x => (f x).toOption := by
  induction xs generalizing ys with
  | nil => simp [pure, Except.pure, eq_comm]
  | cons x xs ih =>
    simp only [List.mapM_cons, bind_eq_ok, ih, List.forall_mem_cons]
    constructor
    · rintro ⟨y, hx, zs, ⟨hall, rfl⟩, hys⟩
      obtain rfl := Except.ok.inj hys
      exact ⟨⟨⟨y, hx⟩, hall⟩, by simp [hx, Except.toOption]⟩
    · rintro ⟨⟨⟨y, hx⟩, hall⟩, rfl⟩
      exact ⟨y, hx, _, ⟨hall, rfl⟩, by simp [hx, Except.toOption, pure, Except.pure]⟩

def byName (ms : List Metadata) : List Metadata := ms.mergeSort fun a b => a.name ≤ b.name

theorem perm_byName (ms : List Metadata) : (byName ms).Perm ms := List.mergeSort_perm _ _

theorem le_byName (ms : List Metadata) : (byName ms).Pairwise (·.name ≤ ·.name) := by
  have hle := @List.pairwise_mergeSort _ (fun a b : Metadata => decide (a.name ≤ b.name))
    (fun a b c hab hbc => by simpa using String.le_trans (by simpa using hab) (by simpa using hbc))
    (fun a b => by simpa using String.le_total a.name b.name) ms
  exact hle.imp of_decide_eq_true

theorem sorted_byName {ms : List Metadata} (hnames : ms.Pairwise (·.name ≠ ·.name)) :
    (byName ms).Pairwise (·.name < ·.name) := by
  have hne : (byName ms).Pairwise (·.name ≠ ·.name) :=
    ((perm_byName ms).pairwise_iff Ne.symm).2 hnames
  refine ((le_byName ms).and hne).imp fun h => String.not_le.1 fun hge => h.2 ?_
  exact String.le_antisymm h.1 hge

/-- No two cards have the same name. A card may come several times. -/
def Unambiguous (ms : List Metadata) : Prop := ∀ m ∈ ms, ∀ m' ∈ ms, m.name = m'.name → m = m'

instance : DecidablePred Unambiguous := fun ms =>
  inferInstanceAs (Decidable (∀ m ∈ ms, ∀ m' ∈ ms, m.name = m'.name → m = m'))

theorem Unambiguous.of_perm {ms ns : List Metadata} (h : Unambiguous ms) (hperm : ns.Perm ms) :
    Unambiguous ns :=
  fun m hm m' hm' => h m (hperm.subset hm) m' (hperm.subset hm')

/-- Cards by name come in one order only, if no two have the same name. -/
theorem eq_of_perm {ms ns : List Metadata} (hms : ms.Pairwise (·.name ≤ ·.name))
    (hns : ns.Pairwise (·.name ≤ ·.name)) (h : ms.Perm ns) (hone : Unambiguous ms) : ms = ns :=
  @List.Perm.eq_of_pairwise _ (fun a b => a.name ≤ b.name) ms ns
    (fun a b ha hb hab hba => hone a ha b (h.symm.subset hb) (String.le_antisymm hab hba)) hms hns h

theorem unambiguous_of_sorted {ms : List Metadata} (h : ms.Pairwise (·.name < ·.name)) :
    Unambiguous ms := by
  induction h with
  | nil => exact nofun
  | cons hlt _ ih =>
    intro m hm m' hm' hname
    rcases List.mem_cons.1 hm with rfl | hl
    · rcases List.mem_cons.1 hm' with rfl | hl'
      · rfl
      · exact absurd hname (String.ne_of_lt (hlt m' hl'))
    · rcases List.mem_cons.1 hm' with rfl | hl'
      · exact absurd hname.symm (String.ne_of_lt (hlt m hl))
      · exact ih m hl m' hl' hname

/-- Cards that are sorted by name are known by what is among them. -/
theorem eq_of_sorted {ms ns : List Metadata} (hms : ms.Pairwise (·.name < ·.name))
    (hns : ns.Pairwise (·.name < ·.name)) (h : ∀ m, m ∈ ms ↔ m ∈ ns) : ms = ns := by
  have hnodup : ∀ {l : List Metadata}, l.Pairwise (·.name < ·.name) → l.Nodup := fun hl =>
    hl.imp fun hlt heq => String.ne_of_lt hlt (congrArg Metadata.name heq)
  refine @List.Perm.eq_of_pairwise _ (fun a b => a.name < b.name) ms ns
    (fun a b _ _ hab hba => absurd hba (String.lt_asymm hab)) hms hns ?_
  exact (List.perm_ext_iff_of_nodup (hnodup hms) (hnodup hns)).2 h

/-- The card in a place, if the store lists it. -/
def cardAt? (s : Store) (t : Tree) (d q : Place) : Option Metadata :=
  (s.listed? t d q).bind fun file => (card t file).toOption

theorem cardAt?_eq_some {s : Store} {t : Tree} {d q : Place} :
    s.cardAt? t d q = some m ↔ ∃ file, s.listed? t d q = some file ∧ card t file = .ok m := by
  rw [cardAt?, Option.bind_eq_some_iff]
  refine exists_congr fun file => and_congr_right fun _ => ?_
  cases card t file <;> simp [Except.toOption]

section
variable {s : Store} {t : Tree} {d : Place} (hd : t.locate s.dir = .ok d)
  (hdir : t.get? d = some .directory)
include hd hdir

theorem list_eq_ok_iff_mapM :
    s.list t = .ok cards ↔ ∃ ms, (t.places.filterMap (s.listed? t d)).mapM (card t) = .ok ms ∧
      cards = byName ms := by
  simp only [list, children_eq_ok_iff.2 ⟨d, hd, hdir, rfl⟩, cacheFiles_children]
  cases (t.places.filterMap (s.listed? t d)).mapM (card t) with
  | error e => simp
  | ok ms =>
    simp only [Except.ok.injEq, exists_eq_left']
    exact eq_comm

/-- A store whose directory is there is listed if every card can be read. -/
theorem list_eq_ok_iff :
    s.list t = .ok cards ↔
      (∀ q ∈ t.places, ∀ file, s.listed? t d q = some file → ∃ m, card t file = .ok m) ∧
        cards = byName (t.places.filterMap (s.cardAt? t d)) := by
  have hfiles : (∀ file ∈ t.places.filterMap (s.listed? t d), ∃ m, card t file = .ok m) ↔
      ∀ q ∈ t.places, ∀ file, s.listed? t d q = some file → ∃ m, card t file = .ok m := by
    simp only [List.mem_filterMap]
    constructor
    · exact fun h q hq file hf => h file ⟨q, hq, hf⟩
    · rintro h file ⟨q, hq, hf⟩
      exact h q hq file hf
  simp only [list_eq_ok_iff_mapM hd hdir, mapM_eq_ok_iff, hfiles, List.filterMap_filterMap]
  constructor
  · rintro ⟨ms, ⟨hcards, rfl⟩, rfl⟩
    exact ⟨hcards, rfl⟩
  · rintro ⟨hcards, rfl⟩
    exact ⟨_, ⟨hcards, rfl⟩, rfl⟩

end

theorem unambiguous_list {s : Store} {t : Tree} (hd : t.locate s.dir = .ok d)
    (hdir : t.get? d = some .directory) (h : Unambiguous (t.places.filterMap (s.cardAt? t d)))
    (hlist : s.list t = .ok cards) : Unambiguous cards := by
  obtain ⟨-, rfl⟩ := (list_eq_ok_iff hd hdir).1 hlist
  exact h.of_perm (perm_byName _)

theorem list_of_children {s : Store} {t : Tree} (h : t.children s.dir = .error e)
    (he : e ≠ .notFound) : s.list t = .error (.io s.dir e) := by
  cases e with
  | notFound => exact absurd rfl he
  | _ => simp only [list, h]

theorem list_eq_ok_iff_notFound {s : Store} {t : Tree} (h : t.children s.dir = .error e) :
    s.list t = .ok cards ↔ e = .notFound ∧ cards = [] := by
  by_cases he : e = .notFound
  · subst he
    simp only [list, h, Except.ok.injEq, true_and]
    exact eq_comm
  · simp [list_of_children h he, he]

theorem le_of_list {s : Store} {t : Tree} (h : s.list t = .ok cards) :
    cards.Pairwise (·.name ≤ ·.name) := by
  cases hc : t.children s.dir with
  | ok names =>
    obtain ⟨d, hd, hdir, -⟩ := children_eq_ok_iff.1 hc
    obtain ⟨ms, -, rfl⟩ := (list_eq_ok_iff_mapM hd hdir).1 h
    exact le_byName ms
  | error e =>
    obtain ⟨-, rfl⟩ := (list_eq_ok_iff_notFound hc).1 h
    exact .nil

-- ---------------------------------------------------------------------------
-- The same list
-- ---------------------------------------------------------------------------

/-- Trees with the same directories and the same cache files. -/
structure SameCaches (t u : Tree) : Prop where
  workDir : u.workDir = t.workDir
  dirs : ∀ p, u.get? p = some .directory ↔ t.get? p = some .directory
  caches : ∀ p, EndsIn ".cache" p → ∀ b, u.get? p = some (.file b) ↔ t.get? p = some (.file b)

section
variable {t u : Tree} (h : SameCaches t u)
include h

theorem SameCaches.locate_iff : u.locate file = .ok p ↔ t.locate file = .ok p :=
  ⟨locate_of_dirs h.workDir.symm fun q => (h.dirs q).1,
    locate_of_dirs h.workDir fun q => (h.dirs q).2⟩

theorem SameCaches.read_iff (hfile : ".cache".toList <:+ file.toList) :
    u.read file = .ok b ↔ t.read file = .ok b := by
  rw [read_eq_ok_iff, read_eq_ok_iff]
  refine exists_congr fun p => ?_
  rw [h.locate_iff]
  refine and_congr_right fun hl => h.caches p ?_ b
  rw [locate_eq_placeOf hl]
  exact endsIn_placeOf hfile (by decide) (by decide) t

theorem SameCaches.isFile_eq (hfile : ".cache".toList <:+ file.toList) :
    u.isFile file = t.isFile file := by
  have hread : ∀ t : Tree, t.isFile file = true ↔ ∃ b, t.read file = .ok b := by
    intro t
    simp only [isFile_iff, read_eq_ok_iff]
    exact exists_comm
  rw [Bool.eq_iff_iff, hread, hread]
  exact exists_congr fun b => h.read_iff hfile

theorem SameCaches.listed?_eq (s : Store) (d q : Place) : s.listed? u d q = s.listed? t d q := by
  unfold listed?
  cases hmap : ((childName? d q).filter (hasExtension extension)).map (join s.dir) with
  | none => rfl
  | some file =>
    obtain ⟨name, hname, rfl⟩ := Option.map_eq_some_iff.1 hmap
    have hext := (Option.filter_eq_some_iff.1 hname).2
    have hfile := (suffix_of_hasExtension hext).trans (suffix_join s.dir name)
    rw [Option.filter_some, Option.filter_some, h.isFile_eq hfile]

theorem SameCaches.card_ok (hfile : ".cache".toList <:+ file.toList) (hcard : card t file = .ok m) :
    card u file = .ok m := by
  unfold card at hcard ⊢
  cases hr : t.read file with
  | error e =>
    rw [hr] at hcard
    cases hcard
  | ok b =>
    rw [hr] at hcard
    rw [(h.read_iff hfile).2 hr]
    exact hcard

end

/-- A store that is there is listed as before. -/
theorem SameCaches.list_ok {s : Store} {t u : Tree} (h : SameCaches t u)
    (hd : t.locate s.dir = .ok d) (hdir : t.get? d = some .directory)
    (hplaces : u.places.filter (s.lists t d) = t.places.filter (s.lists t d))
    (hlist : s.list t = .ok cards) : s.list u = .ok cards := by
  have hlisted : s.listed? u d = s.listed? t d := funext (h.listed?_eq s d)
  have hfiles : u.places.filterMap (s.listed? u d) = t.places.filterMap (s.listed? t d) := by
    rw [hlisted, ← filterMap_lists, hplaces, filterMap_lists]
  obtain ⟨ms, hms, rfl⟩ := (list_eq_ok_iff_mapM hd hdir).1 hlist
  refine (list_eq_ok_iff_mapM (h.locate_iff.2 hd) ((h.dirs d).2 hdir)).2 ⟨ms, ?_, rfl⟩
  rw [hfiles]
  refine mapM_eq_ok_of_imp (fun file hf m => h.card_ok ?_) hms
  obtain ⟨q, -, hq⟩ := List.mem_filterMap.1 hf
  exact suffix_of_listed? hq

/-- The same list, unless the directory of the store is missing: then something else may have
come into its place, and nothing was listed before. -/
theorem list_same {s : Store} {t u : Tree} (ht : t.Sound) (h : SameCaches t u)
    (hplaces : ∀ d, t.locate s.dir = .ok d →
      u.places.filter (s.lists t d) = t.places.filter (s.lists t d))
    (hlist : s.list t = .ok cards) :
    s.list u = .ok cards ∨ cards = [] ∧
      (∃ e, s.list u = .error e) ∧ ∀ d, t.walk (t.start s.dir) (parts s.dir) ≠ .ok d := by
  cases hc : t.children s.dir with
  | ok names =>
    obtain ⟨d, hd, hdir, -⟩ := children_eq_ok_iff.1 hc
    exact .inl (h.list_ok hd hdir (hplaces d hd) hlist)
  | error e =>
    obtain ⟨rfl, rfl⟩ := (list_eq_ok_iff_notFound hc).1 hlist
    have hnone : ∀ d, t.locate s.dir = .ok d → t.get? d ≠ some .directory := by
      intro d hd hdir
      rw [children_eq_ok_iff.2 ⟨d, hd, hdir, rfl⟩] at hc
      cases hc
    cases hc' : u.children s.dir with
    | ok names =>
      obtain ⟨d, hd, hdir, -⟩ := children_eq_ok_iff.1 hc'
      exact absurd ((h.dirs d).1 hdir) (hnone d (h.locate_iff.1 hd))
    | error e' =>
      by_cases he' : e' = .notFound
      · exact .inl ((list_eq_ok_iff_notFound hc').2 ⟨he', rfl⟩)
      · refine .inr ⟨rfl, ⟨_, list_of_children hc' he'⟩, fun d hw => ?_⟩
        -- a directory that is there can be listed; the empty path never can
        have hd := ht.locate_of_walk (proper_of_children hc) (ne_empty_of_children hc' he') hw
        exact hnone d hd (ht.walk_dir (ht.start_dir _) hw)

-- ---------------------------------------------------------------------------
-- Another order
-- ---------------------------------------------------------------------------

/-- The same files and directories, listed in another order. -/
structure Reordered (t u : Tree) : Prop where
  workDir : u.workDir = t.workDir
  get? : ∀ p, u.get? p = t.get? p
  places : u.places.Perm t.places

theorem Reordered.refl (t : Tree) : Reordered t t := ⟨rfl, fun _ => rfl, .refl _⟩

theorem Reordered.symm (h : Reordered t u) : Reordered u t :=
  ⟨h.workDir.symm, fun p => (h.get? p).symm, h.places.symm⟩

section
variable {t u : Tree} (h : Reordered t u)
include h

theorem Reordered.walk (dir : Place) (names : List String) :
    u.walk dir names = t.walk dir names := by
  induction names generalizing dir with
  | nil => rfl
  | cons name names ih => simp only [Tree.walk, h.get?, ih]

theorem Reordered.locate (path : String) : u.locate path = t.locate path := by
  simp only [Tree.locate, h.workDir, h.walk]

theorem Reordered.find (path : String) : u.find path = t.find path := by
  simp only [Tree.find, h.locate, h.get?]

theorem Reordered.children_error {folder : String} (hc : t.children folder = .error e) :
    u.children folder = .error e := by
  unfold children at hc ⊢
  rw [h.locate]
  cases hl : t.locate folder with
  | error e' => rwa [hl] at hc
  | ok d =>
    simp only [hl] at hc
    simp only [h.get?]
    cases hg : t.get? d with
    | none => rwa [hg] at hc
    | some entry =>
      rw [hg] at hc
      cases entry with
      | file b => exact hc
      | directory => cases hc

end

/-- In another order the same cards are listed. -/
theorem list_perm {s : Store} {t u : Tree} (h : Reordered t u) (hlist : s.list t = .ok cards) :
    ∃ cards', s.list u = .ok cards' ∧ cards'.Perm cards := by
  cases hc : t.children s.dir with
  | ok names =>
    obtain ⟨d, hd, hdir, -⟩ := children_eq_ok_iff.1 hc
    have hfind : ∀ path, u.find path = t.find path := h.find
    have hisFile : u.isFile = t.isFile := funext fun path => by simp only [isFile, hfind]
    have hcard : card u = card t := funext fun file => by simp only [card, Tree.read, hfind]
    have hlisted : s.listed? u d = s.listed? t d := funext fun q => by
      simp only [listed?, hisFile]
    have hcardAt : s.cardAt? u d = s.cardAt? t d := funext fun q => by
      simp only [cardAt?, hlisted, hcard]
    obtain ⟨hcards, rfl⟩ := (list_eq_ok_iff hd hdir).1 hlist
    refine ⟨_, (list_eq_ok_iff ((h.locate _).trans hd) ((h.get? d).trans hdir)).2 ⟨?_, rfl⟩, ?_⟩
    · rw [hlisted, hcard]
      exact fun q hq => hcards q (h.places.subset hq)
    · rw [hcardAt]
      exact (perm_byName _).trans ((h.places.filterMap _).trans (perm_byName _).symm)
  | error e =>
    exact ⟨cards, (list_eq_ok_iff_notFound (h.children_error hc)).2
      ((list_eq_ok_iff_notFound hc).1 hlist), .refl cards⟩

theorem list_error {s : Store} {t u : Tree} (h : Reordered t u) (hlist : s.list t = .error e) :
    ∃ e', s.list u = .error e' := by
  cases hl : s.list u with
  | error e' => exact ⟨e', rfl⟩
  | ok cards =>
    obtain ⟨cards', hl', -⟩ := list_perm h.symm hl
    rw [hlist] at hl'
    cases hl'

/-- The order of a listing does not matter where no two cards have the same name. -/
theorem list_reordered {s : Store} {t u : Tree} (h : Reordered t u) (hlist : s.list t = .ok cards)
    (hone : Unambiguous cards) : s.list u = .ok cards := by
  obtain ⟨cards', hlist', hperm⟩ := list_perm h hlist
  rw [hlist', eq_of_perm (le_of_list hlist) (le_of_list hlist') hperm.symm hone]

end DocSite.Store
