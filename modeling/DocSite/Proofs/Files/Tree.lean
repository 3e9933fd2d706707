import DocSite.Files.Tree
import DocSite.Proofs.Files.Path

/-!
# Trees that grow

In a sound tree every entry lies in a directory. A change keeps a tree sound, keeps
its directories and keeps its files files; only at the places it touches may a file
appear or get other bytes. Followed by its names alone a path has one place,
whatever the tree, and a path that leads there keeps doing so as the tree changes.
So does a path that is blocked: only what was not found can be found later.
-/

namespace DocSite.Files.Tree

-- ---------------------------------------------------------------------------
-- Soundness and change
-- ---------------------------------------------------------------------------

/-- Every entry lies in a directory, and relative paths start in one. -/
structure Sound (t : Tree) : Prop where
  workDir : t.get? t.workDir = some .directory
  parent : ∀ p e, t.get? p = some e → t.get? p.dropLast = some .directory

/-- It is enough to look at what is listed. -/
theorem sound_of_entries {t : Tree} (hw : t.get? t.workDir = some .directory)
    (h : ∀ r ∈ t.entries, t.get? r.1.dropLast = some .directory) : t.Sound := by
  refine ⟨hw, fun p e hp => ?_⟩
  unfold get? at hp
  split at hp
  · rename_i hnil
    rw [hnil]
    rfl
  · obtain ⟨l, l', hl, -⟩ := List.lookup_eq_some_iff.1 hp
    exact h (p, e) (by simp [hl])

/-- How a tree may have become another one that differs in files only where
`touched`. -/
structure Changes (touched : Place → Prop) (t t' : Tree) : Prop where
  workDir : t'.workDir = t.workDir
  sound : t'.Sound
  dirs : ∀ p, t.get? p = some .directory → t'.get? p = some .directory
  files : ∀ p b, t.get? p = some (.file b) → ∃ b', t'.get? p = some (.file b')
  same : ∀ p b, ¬ touched p → (t'.get? p = some (.file b) ↔ t.get? p = some (.file b))

/-- A tree that may have become another one, its files changing anywhere. -/
abbrev Grows : Tree → Tree → Prop := Changes fun _ => True

section
variable {t t' t'' : Tree}

theorem Changes.refl (h : t.Sound) : Changes P t t :=
  ⟨rfl, h, fun _ => id, fun _ b hb => ⟨b, hb⟩, fun _ _ _ => Iff.rfl⟩

theorem Changes.trans (h : Changes P t t') (h' : Changes P t' t'') : Changes P t t'' where
  workDir := h'.workDir.trans h.workDir
  sound := h'.sound
  dirs p hp := h'.dirs p (h.dirs p hp)
  files p b hb := by
    obtain ⟨b', hb'⟩ := h.files p b hb
    exact h'.files p b' hb'
  same p b hp := (h'.same p b hp).trans (h.same p b hp)

theorem Changes.mono (h : Changes P t t') (hPQ : ∀ p, P p → Q p) : Changes Q t t' :=
  { h with same := fun p b hp => h.same p b fun hP => hp (hPQ p hP) }

theorem Changes.grows (h : Changes P t t') : Grows t t' := h.mono fun _ _ => trivial

end

/-- A tree is known by what lies where. -/
theorem Changes.congr {t t' u : Tree} (h : Changes P t t') (hw : u.workDir = t'.workDir)
    (hg : ∀ p, u.get? p = t'.get? p) : Changes P t u where
  workDir := hw.trans h.workDir
  sound := ⟨by rw [hw, hg, h.sound.workDir],
    fun p e hp => by rw [hg, h.sound.parent p e (hg p ▸ hp)]⟩
  dirs p hp := by rw [hg, h.dirs p hp]
  files p b hb := by
    rw [hg]
    exact h.files p b hb
  same p b hp := by rw [hg, h.same p b hp]

@[simp] theorem get?_nil (t : Tree) : t.get? [] = some .directory := rfl

theorem ne_nil_of_get?_eq_file {t : Tree} (h : t.get? p = some (.file b)) : p ≠ [] := by
  rintro rfl
  cases h

theorem Sound.get?_front {t : Tree} (ht : t.Sound) (hp : t.get? (p ++ q) = some e) (hq : q ≠ []) :
    t.get? p = some .directory := by
  induction q using List.reverseRecOn generalizing e with
  | nil => exact absurd rfl hq
  | append_singleton q name ih =>
    have hdir := ht.parent _ e hp
    rw [← List.append_assoc, List.dropLast_concat] at hdir
    rcases List.eq_nil_or_concat q with rfl | ⟨q', name', rfl⟩
    · rwa [List.append_nil] at hdir
    · exact ih hdir (by simp)

/-- Nothing lies below a file. -/
theorem Sound.get?_below_file {t : Tree} (ht : t.Sound) (hp : t.get? p = some (.file b))
    (hq : q ≠ []) : t.get? (p ++ q) = none := by
  cases hg : t.get? (p ++ q) with
  | none => rfl
  | some e =>
    rw [ht.get?_front hg hq] at hp
    cases hp

-- ---------------------------------------------------------------------------
-- Setting and clearing one place
-- ---------------------------------------------------------------------------

theorem get?_put_of_dir {t : Tree} (hd : t.get? p ≠ some .directory)
    (hq : t.get? q = some .directory) : (t.put p e).get? q = some .directory := by
  by_cases hq0 : q = []
  · simp [hq0]
  · have hqp : q ≠ p := by
      rintro rfl
      exact hd hq
    rw [get?_put t e hq0, if_neg hqp, hq]

theorem Sound.put {t : Tree} (ht : t.Sound) (hp : t.get? p.dropLast = some .directory)
    (hd : t.get? p ≠ some .directory) : (t.put p e).Sound := by
  refine ⟨get?_put_of_dir hd ht.workDir, fun q e' hq => ?_⟩
  by_cases hq0 : q = []
  · simp [hq0]
  · rw [get?_put t e hq0] at hq
    split at hq
    · rename_i hqp
      exact get?_put_of_dir hd (hqp ▸ hp)
    · exact get?_put_of_dir hd (ht.parent q e' hq)

/-- A new directory touches no file. -/
theorem changes_put_dir {t : Tree} (ht : t.Sound) (hp : t.get? p.dropLast = some .directory)
    (hn : t.get? p = none) : Changes (fun _ => False) t (t.put p .directory) := by
  have hd : t.get? p ≠ some .directory := by simp [hn]
  have file : ∀ q b, (t.put p .directory).get? q = some (.file b) ↔ t.get? q = some (.file b) := by
    intro q b
    by_cases hq0 : q = []
    · simp [hq0]
    · rw [get?_put t _ hq0]
      split
      · rename_i hqp
        simp [hqp, hn]
      · rfl
  exact ⟨rfl, ht.put hp hd, fun q hq => get?_put_of_dir hd hq,
    fun q b hq => ⟨b, (file q b).2 hq⟩, fun q b _ => file q b⟩

theorem changes_put_file {t : Tree} (ht : t.Sound) (hp : t.get? p.dropLast = some .directory)
    (hd : t.get? p ≠ some .directory) : Changes (· = p) t (t.put p (.file bytes)) where
  workDir := rfl
  sound := ht.put hp hd
  dirs q hq := get?_put_of_dir hd hq
  files q b hq := by
    rw [get?_put t _ (ne_nil_of_get?_eq_file hq), hq]
    split <;> exact ⟨_, rfl⟩
  same q b hqp := by
    by_cases hq0 : q = []
    · simp [hq0]
    · rw [get?_put t _ hq0, if_neg hqp]

theorem lookup_filter (keep : Place → Bool) (q : Place) (entries : List (Place × Entry)) :
    (entries.filter fun (r, _) => keep r).lookup q = if keep q then entries.lookup q else none := by
  induction entries with
  | nil => simp
  | cons head rest ih =>
    obtain ⟨r, e⟩ := head
    by_cases hr : q = r
    · subst hr
      by_cases hk : keep q <;> simp [hk, ih]
    · by_cases hk : keep r <;> simp [hk, lookup_cons_if, hr, ih]

theorem get?_erase {t : Tree} (hq : q ≠ []) :
    (t.erase p).get? q = if p.isPrefixOf q then none else t.get? q := by
  simp only [get?, erase, hq, if_false]
  rw [lookup_filter (fun r => !p.isPrefixOf r)]
  cases p.isPrefixOf q <;> rfl

/-- Of a sound tree, removing a file leaves the rest as it was. -/
theorem Sound.get?_erase {t : Tree} (ht : t.Sound) (hp : t.get? p = some (.file b)) (q : Place) :
    (t.erase p).get? q = if q = p then none else t.get? q := by
  have hp0 := ne_nil_of_get?_eq_file hp
  by_cases hq0 : q = []
  · subst hq0
    rw [if_neg hp0.symm]
    rfl
  · rw [Tree.get?_erase hq0]
    split
    · rename_i hpq
      obtain ⟨rest, rfl⟩ := List.isPrefixOf_iff_prefix.1 hpq
      by_cases hr : rest = []
      · simp [hr]
      · simp [ht.get?_below_file hp hr]
    · rename_i hpq
      have : q ≠ p := by
        rintro rfl
        exact hpq (by simp)
      rw [if_neg this]

-- ---------------------------------------------------------------------------
-- Where names lead
-- ---------------------------------------------------------------------------

theorem bind_eq_ok {x : Except ε α} {f : α → Except ε β} :
    x >>= f = .ok b ↔ ∃ a, x = .ok a ∧ f a = .ok b := by
  cases x with
  | error e => simp [bind, Except.bind]
  | ok a => simp [bind, Except.bind]

theorem mapM_eq_ok_of_imp {f g : α → Except ε β} {xs : List α}
    (hfg : ∀ x ∈ xs, ∀ y, f x = .ok y → g x = .ok y) (h : xs.mapM f = .ok ys) : xs.mapM g = .ok ys := by
  induction xs generalizing ys with
  | nil => exact h
  | cons x xs ih =>
    obtain ⟨hx, hxs⟩ := List.forall_mem_cons.1 hfg
    rw [List.mapM_cons] at h ⊢
    obtain ⟨y, hy, hrest⟩ := bind_eq_ok.1 h
    obtain ⟨ys', hys, hcons⟩ := bind_eq_ok.1 hrest
    exact bind_eq_ok.2 ⟨y, hx y hy, bind_eq_ok.2 ⟨ys', ih hxs hys, hcons⟩⟩

/-- Where one name leads, seen from a directory. -/
def next (dir : Place) (name : String) : Place :=
  if name = "." then dir else if name = ".." then dir.dropLast else dir ++ [name]

/-- Where a path starts. -/
def start (t : Tree) (path : String) : Place := if isAbsolute path then [] else t.workDir

/-- The place that a path names, whether or not the tree leads there. -/
def placeOf (t : Tree) (path : String) : Place := (parts path).foldl next (t.start path)

theorem walk_append (t : Tree) (dir : Place) (names names' : List String) :
    t.walk dir (names ++ names') = t.walk dir names >>= (t.walk · names') := by
  fun_induction t.walk dir names with
  | case1 => rfl
  | case2 _ _ ih => simp [walk, ih]
  | case3 _ _ _ ih => simp [walk, ih]
  | case4 _ _ _ h h' hs => simp [walk, h, h', hs]; rfl
  | case5 _ _ _ h h' hs hg => simp [walk, h, h', hs, hg]; rfl
  | case6 _ _ _ h h' hs _ hg => simp [walk, h, h', hs, hg]; rfl
  | case7 _ _ _ h h' hs hg ih => simp [walk, h, h', hs, hg, ih]

theorem walk_append_eq_ok {t : Tree} :
    t.walk dir (names ++ names') = .ok p ↔
      ∃ d, t.walk dir names = .ok d ∧ t.walk d names' = .ok p := by
  rw [walk_append, bind_eq_ok]

/-- Names lead where they say. -/
theorem walk_eq_ok (h : walk t dir names = .ok p) : p = names.foldl next dir := by
  fun_induction t.walk dir names with
  | case1 => exact (Except.ok.inj h).symm
  | case2 _ _ ih => simpa [next] using ih h
  | case3 _ _ _ ih => simpa [next] using ih h
  | case7 _ _ _ hdot hup _ _ ih => simpa [next, hdot, hup] using ih h
  | _ => cases h

theorem Sound.walk_dir {t : Tree} (ht : t.Sound) (hdir : t.get? dir = some .directory)
    (h : t.walk dir names = .ok p) : t.get? p = some .directory := by
  fun_induction t.walk dir names with
  | case1 => exact Except.ok.inj h ▸ hdir
  | case2 _ _ ih => exact ih hdir h
  | case3 _ _ _ ih => exact ih (ht.parent _ _ hdir) h
  | case7 _ _ _ _ _ _ hg ih => exact ih hg h
  | _ => cases h

theorem walk_of_dirs {t t' : Tree} (hd : ∀ p, t.get? p = some .directory → t'.get? p = some .directory)
    (h : t.walk dir names = .ok p) : t'.walk dir names = .ok p := by
  fun_induction t.walk dir names with
  | case1 => exact h
  | case2 _ _ ih => simpa [walk] using ih h
  | case3 _ _ _ ih => simpa [walk] using ih h
  | case7 _ _ _ hdot hup hs hg ih => simpa [walk, hdot, hup, hs, hd _ hg] using ih h
  | _ => cases h

/-- Whatever blocks the way but a missing entry stays there. -/
theorem Changes.walk_error {t t' : Tree} (hc : Changes P t t') (h : t.walk dir names = .error e)
    (he : e ≠ .notFound) : t'.walk dir names = .error e := by
  fun_induction t.walk dir names with
  | case1 => cases h
  | case2 _ _ ih => simpa [walk] using ih h
  | case3 _ _ _ ih => simpa [walk] using ih h
  | case4 _ _ _ hdot hup hs => simpa [walk, hdot, hup, hs] using h
  | case5 => exact absurd (Except.error.inj h).symm he
  | case6 _ _ _ hdot hup hs _ hg =>
    obtain ⟨b', hb'⟩ := hc.files _ _ hg
    simpa [walk, hdot, hup, hs, hb'] using h
  | case7 _ _ _ hdot hup hs hg ih => simpa [walk, hdot, hup, hs, hc.dirs _ hg] using ih h

-- ---------------------------------------------------------------------------
-- Locating
-- ---------------------------------------------------------------------------

/-- The paths that a tree takes at all. -/
def Proper (path : String) : Prop := '\x00' ∉ path.toList ∧ path.utf8ByteSize < 4096

/-- The place that the last name of a path leads to from its directory. -/
def reach (dir : Place) (name : String) : Except Error Place :=
  if name = "." ∨ name = ".." then .ok (next dir name)
  else if 255 < name.utf8ByteSize then .error .nameTooLong
  else .ok (next dir name)

theorem reach_eq_ok (h : reach dir name = .ok p) : p = next dir name := by
  unfold reach at h
  split at h
  · exact (Except.ok.inj h).symm
  · split at h
    · cases h
    · exact (Except.ok.inj h).symm

theorem reach_ne_notFound : reach dir name ≠ .error .notFound := by
  unfold reach
  split
  · simp
  · split <;> simp

/-- A name leads on where it leads to a directory. -/
theorem walk_singleton_iff {t : Tree} (ht : t.Sound) (hdir : t.get? dir = some .directory) :
    t.walk dir [name] = .ok p ↔ reach dir name = .ok p ∧ t.get? p = some .directory := by
  by_cases hdot : name = "."
  · subst hdot
    show Except.ok dir = .ok p ↔ Except.ok dir = .ok p ∧ _
    constructor
    · intro h
      exact ⟨h, Except.ok.inj h ▸ hdir⟩
    · exact And.left
  by_cases hup : name = ".."
  · subst hup
    show Except.ok dir.dropLast = .ok p ↔ Except.ok dir.dropLast = .ok p ∧ _
    constructor
    · intro h
      exact ⟨h, Except.ok.inj h ▸ ht.parent _ _ hdir⟩
    · exact And.left
  simp only [walk, reach, next, hdot, hup, ↓reduceIte, or_self]
  split
  · simp
  · constructor
    · intro h
      split at h
      · cases h
      · cases h
      · rename_i hg
        exact ⟨h, Except.ok.inj h ▸ hg⟩
    · rintro ⟨h, hg⟩
      rw [Except.ok.inj h, hg]

theorem locate_of_proper (hp : Proper path) (h : parts path = names ++ [name]) (t : Tree) :
    t.locate path = t.walk (t.start path) names >>= (reach · name) := by
  have hlen : ¬ 4096 ≤ path.utf8ByteSize := Nat.not_le.2 hp.2
  simp only [locate, List.contains_iff_mem, hp.1, hlen, h, List.getLast?_concat,
    List.dropLast_concat, start, ↓reduceIte]
  split
  · rename_i hdots
    rw [walk_append]
    congr
    funext dir
    rcases hdots with rfl | rfl <;> simp [walk, reach, next]
  · rename_i hdots
    cases t.walk (if isAbsolute path then [] else t.workDir) names with
    | error e => rfl
    | ok dir =>
      obtain ⟨hdot, hup⟩ := not_or.1 hdots
      show _ = reach dir name
      simp [reach, next, hdot, hup]

theorem locate_of_not_proper (hp : ¬ Proper path) :
    ∃ e, e ≠ .notFound ∧ ∀ t : Tree, t.locate path = .error e := by
  by_cases hnul : '\x00' ∈ path.toList
  · exact ⟨.badName, by simp, fun t => by simp [locate, hnul]⟩
  · have hlen : 4096 ≤ path.utf8ByteSize := Nat.not_lt.1 fun hlt => hp ⟨hnul, hlt⟩
    exact ⟨.nameTooLong, by simp, fun t => by simp [locate, hnul, hlen]⟩

theorem locate_of_no_parts (hp : Proper path) (h : parts path = []) (t : Tree) :
    t.locate path = if isAbsolute path then .ok [] else .error .notFound := by
  have hlen : ¬ 4096 ≤ path.utf8ByteSize := Nat.not_le.2 hp.2
  simp only [locate, List.contains_iff_mem, hp.1, hlen, h, List.getLast?_nil, ↓reduceIte]

theorem Proper.of_locate {t : Tree} (h : t.locate path = .ok p) : Proper path := by
  by_contra hp
  obtain ⟨e, -, he⟩ := locate_of_not_proper hp
  rw [he] at h
  cases h

theorem Proper.left (h : Proper (a ++ b)) : Proper a := by
  refine ⟨fun hm => h.1 ?_, ?_⟩
  · simp [hm]
  · have := h.2
    rw [String.utf8ByteSize_append] at this
    omega

theorem Proper.of_join (h : Proper (join base path)) (hp : isAbsolute path = false) : Proper base := by
  unfold join at h
  split at h
  · rename_i hb
    have hb : base = "" := by simpa [hp] using hb
    subst hb
    exact ⟨by simp, by decide⟩
  · split at h
    · exact h.left
    · exact h.left.left

/-- All there is to say of a path that is located: it names the place, and its
directory is there. -/
theorem locate_eq_ok_iff {t : Tree} :
    t.locate path = .ok p ↔ Proper path ∧
      ((parts path = [] ∧ isAbsolute path ∧ p = []) ∨
        ∃ names name dir, parts path = names ++ [name] ∧
          t.walk (t.start path) names = .ok dir ∧ reach dir name = .ok p) := by
  constructor
  · intro h
    have hp := Proper.of_locate h
    refine ⟨hp, ?_⟩
    rcases List.eq_nil_or_concat (parts path) with hn | ⟨names, name, hn⟩
    · rw [locate_of_no_parts hp hn] at h
      split at h
      · rename_i ha
        exact .inl ⟨hn, ha, (Except.ok.inj h).symm⟩
      · cases h
    · rw [List.concat_eq_append] at hn
      rw [locate_of_proper hp hn] at h
      obtain ⟨dir, hw, hr⟩ := bind_eq_ok.1 h
      exact .inr ⟨names, name, dir, hn, hw, hr⟩
  · rintro ⟨hp, ⟨hn, ha, rfl⟩ | ⟨names, name, dir, hn, hw, hr⟩⟩
    · rw [locate_of_no_parts hp hn, if_pos ha]
    · rw [locate_of_proper hp hn, hw]
      exact hr

theorem locate_eq_placeOf {t : Tree} (h : t.locate path = .ok p) : p = t.placeOf path := by
  obtain ⟨-, ⟨hn, ha, rfl⟩ | ⟨names, name, dir, hn, hw, hr⟩⟩ := locate_eq_ok_iff.1 h
  · simp [placeOf, hn, start, ha]
  · rw [placeOf, hn, List.foldl_append, ← walk_eq_ok hw]
    exact reach_eq_ok hr

/-- Whether the last name on the way to a place ends in a text. -/
def EndsIn (ending : String) (p : Place) : Prop :=
  ∃ name, p.getLast? = some name ∧ ending.toList <:+ name.toList

/-- A path names a place that ends as its text does. -/
theorem endsIn_placeOf {ending path : String} (h : ending.toList <:+ path.toList)
    (hslash : '/' ∉ ending.toList) (hlen : 2 < ending.toList.length) (t : Tree) :
    EndsIn ending (t.placeOf path) := by
  obtain ⟨ps, s, hp, hs, hn, hdot, hup⟩ := exists_last_name h hslash hlen
  refine ⟨String.ofList s, ?_, by rwa [String.toList_ofList]⟩
  rw [placeOf, parts, hp, named_append, named_singleton (ne_nil_of_isName hn), List.foldl_append,
    List.foldl_cons, List.foldl_nil, next, if_neg hdot, if_neg hup, List.getLast?_concat]

theorem not_endsIn {a b : String} (h : EndsIn a p) (hab : ¬ a.toList <:+ b.toList)
    (hba : ¬ b.toList <:+ a.toList) : ¬ EndsIn b p := by
  rintro ⟨name, hp, hb⟩
  obtain ⟨name', hp', ha⟩ := h
  have : name' = name := Option.some.inj (hp'.symm.trans hp)
  subst this
  exact (List.suffix_or_suffix_of_suffix ha hb).elim hab hba

theorem Sound.start_dir {t : Tree} (ht : t.Sound) (path : String) :
    t.get? (t.start path) = some .directory := by
  unfold start
  split
  · rfl
  · exact ht.workDir

theorem Sound.locate_parent {t : Tree} (ht : t.Sound) (h : t.locate path = .ok p) :
    t.get? p.dropLast = some .directory := by
  obtain ⟨-, ⟨-, -, rfl⟩ | ⟨names, name, dir, -, hw, hr⟩⟩ := locate_eq_ok_iff.1 h
  · rfl
  · have hdir := ht.walk_dir (ht.start_dir path) hw
    rw [reach_eq_ok hr, next]
    split
    · exact ht.parent _ _ hdir
    · split
      · exact ht.parent _ _ (ht.parent _ _ hdir)
      · rwa [List.dropLast_concat]

/-- The place of a directory that is there. -/
theorem Sound.locate_of_walk {t : Tree} (ht : t.Sound) (hp : Proper path) (hne : path ≠ "")
    (h : t.walk (t.start path) (parts path) = .ok p) : t.locate path = .ok p := by
  refine locate_eq_ok_iff.2 ⟨hp, ?_⟩
  rcases List.eq_nil_or_concat (parts path) with hn | ⟨names, name, hn⟩
  · have ha := isAbsolute_of_no_parts hne hn
    rw [hn, start, if_pos ha] at h
    exact .inl ⟨hn, ha, (Except.ok.inj h).symm⟩
  · rw [List.concat_eq_append] at hn
    rw [hn] at h
    obtain ⟨dir, hw, hname⟩ := walk_append_eq_ok.1 h
    have hdir := ht.walk_dir (ht.start_dir path) hw
    exact .inr ⟨names, name, dir, hn, hw, ((walk_singleton_iff ht hdir).1 hname).1⟩

theorem locate_of_dirs {t t' : Tree} (hw : t'.workDir = t.workDir)
    (hd : ∀ p, t.get? p = some .directory → t'.get? p = some .directory)
    (h : t.locate path = .ok p) : t'.locate path = .ok p := by
  have hstart : t'.start path = t.start path := by rw [start, start, hw]
  obtain ⟨hp, hn | ⟨names, name, dir, hn, hwalk, hr⟩⟩ := locate_eq_ok_iff.1 h
  · exact locate_eq_ok_iff.2 ⟨hp, .inl hn⟩
  · refine locate_eq_ok_iff.2 ⟨hp, .inr ⟨names, name, dir, hn, ?_, hr⟩⟩
    rw [hstart]
    exact walk_of_dirs hd hwalk

section
variable {t t' : Tree} (hc : Changes P t t')
include hc

theorem Changes.start (path : String) : t'.start path = t.start path := by
  rw [Tree.start, Tree.start, hc.workDir]

theorem Changes.placeOf (path : String) : t'.placeOf path = t.placeOf path := by
  rw [Tree.placeOf, Tree.placeOf, hc.start]

theorem Changes.walk_ok (h : t.walk dir names = .ok p) : t'.walk dir names = .ok p :=
  walk_of_dirs hc.dirs h

theorem Changes.locate_ok (h : t.locate path = .ok p) : t'.locate path = .ok p :=
  locate_of_dirs hc.workDir hc.dirs h

theorem Changes.locate_error (h : t.locate path = .error e) (he : e ≠ .notFound) :
    t'.locate path = .error e := by
  by_cases hp : Proper path
  · rcases List.eq_nil_or_concat (parts path) with hn | ⟨names, name, hn⟩
    · rwa [locate_of_no_parts hp hn] at h ⊢
    · rw [List.concat_eq_append] at hn
      rw [locate_of_proper hp hn] at h ⊢
      rw [hc.start]
      cases hw : t.walk (t.start path) names with
      | error e' =>
        rw [hw] at h
        have : e' = e := Except.error.inj h
        rw [hc.walk_error hw (this ▸ he), this]
        rfl
      | ok dir =>
        rw [hw] at h
        rw [hc.walk_ok hw]
        exact h
  · obtain ⟨e', -, he'⟩ := locate_of_not_proper hp
    rwa [he'] at h ⊢

end

-- ---------------------------------------------------------------------------
-- Reading
-- ---------------------------------------------------------------------------

theorem read_eq_ok_iff {t : Tree} :
    t.read path = .ok b ↔ ∃ p, t.locate path = .ok p ∧ t.get? p = some (.file b) := by
  simp only [read, find]
  cases t.locate path with
  | error e => simp
  | ok p =>
    simp only [Except.ok.injEq, exists_eq_left']
    rcases t.get? p with _ | _ | _ <;> simp

theorem read_of_get? {t : Tree} (hl : t.locate path = .ok p) (hg : t.get? p = some (.file b)) :
    t.read path = .ok b :=
  read_eq_ok_iff.2 ⟨p, hl, hg⟩

theorem isFile_iff {t : Tree} :
    t.isFile path = true ↔ ∃ p b, t.locate path = .ok p ∧ t.get? p = some (.file b) := by
  simp only [isFile, find]
  cases t.locate path with
  | error e => simp
  | ok p =>
    simp only [Except.ok.injEq, exists_and_left, exists_eq_left']
    rcases t.get? p with _ | _ | _ <;> simp

theorem isDir_iff {t : Tree} :
    t.isDir path = true ↔ ∃ p, t.locate path = .ok p ∧ t.get? p = some .directory := by
  simp only [isDir, find]
  cases t.locate path with
  | error e => simp
  | ok p =>
    simp only [Except.ok.injEq, exists_eq_left']
    rcases t.get? p with _ | _ | _ <;> simp

theorem relative?_eq_some (h : relative? p q = some r) : q = p ++ r := by
  unfold relative? at h
  split at h
  · rename_i hpq
    obtain ⟨rest, rfl⟩ := List.isPrefixOf_iff_prefix.1 hpq
    rw [List.drop_left, Option.some.injEq] at h
    rw [h]
  · cases h

theorem Changes.read_ok {t t' : Tree} (hc : Changes P t t') (h : t.read path = .ok b) :
    ∃ b', t'.read path = .ok b' := by
  obtain ⟨p, hl, hg⟩ := read_eq_ok_iff.1 h
  obtain ⟨b', hb'⟩ := hc.files p b hg
  exact ⟨b', read_of_get? (hc.locate_ok hl) hb'⟩

/-- Only what was not found can be found later. -/
theorem Changes.read_error {t t' : Tree} (hc : Changes P t t') (h : t.read path = .error e)
    (he : e ≠ .notFound) : t'.read path = .error e := by
  simp only [read, find] at h ⊢
  cases hl : t.locate path with
  | error e' =>
    obtain rfl : e' = e := by simpa [hl] using h
    rw [hc.locate_error hl he]
  | ok p =>
    rw [hl] at h
    simp only [hc.locate_ok hl] at h ⊢
    rcases hg : t.get? p with _ | b | _
    · rw [hg] at h
      exact absurd (Except.error.inj h).symm he
    · rw [hg] at h
      cases h
    · rw [hg] at h
      simp only [hc.dirs p hg]
      exact h

theorem Changes.read_notFound {t t' : Tree} (hc : Changes P t t')
    (h : t'.read path = .error .notFound) : t.read path = .error .notFound := by
  cases hr : t.read path with
  | ok b =>
    obtain ⟨b', hr'⟩ := hc.read_ok hr
    rw [hr'] at h
    cases h
  | error e =>
    by_contra hne
    rw [hc.read_error hr fun he => hne (congrArg Except.error he)] at h
    exact hne h

theorem Changes.read_same {t t' : Tree} (hc : Changes P t t') (hp : ¬ P (t.placeOf path))
    (h : t.read path = .ok b) : t'.read path = .ok b := by
  obtain ⟨p, hl, hg⟩ := read_eq_ok_iff.1 h
  rw [← locate_eq_placeOf hl] at hp
  exact read_of_get? (hc.locate_ok hl) ((hc.same p b hp).2 hg)

/-- A file that has the same bytes in the end was not touched. -/
theorem Changes.of_read_same {t t' : Tree} (hc : Changes P t t') (h : t.read path = .ok b)
    (h' : t'.read path = .ok b) (hP : ∀ p, P p → Q p ∨ p = t.placeOf path) : Changes Q t t' := by
  refine { hc with same := fun p b' hQ => ?_ }
  by_cases hp : P p
  · obtain ⟨p₀, hl, hg⟩ := read_eq_ok_iff.1 h
    obtain ⟨p₁, hl', hg'⟩ := read_eq_ok_iff.1 h'
    have hp₀ : p = p₀ := ((hP p hp).resolve_left hQ).trans (locate_eq_placeOf hl).symm
    have hp₁ : p₁ = p₀ := Except.ok.inj (hl'.symm.trans (hc.locate_ok hl))
    rw [hp₀, hg, ← hp₁, hg']
  · exact hc.same p b' hp

theorem prefix_foldl_next {names : List String} (h : ".." ∉ names) (dir : Place) :
    dir <+: names.foldl next dir := by
  induction names generalizing dir with
  | nil => exact List.prefix_refl dir
  | cons name names ih =>
    obtain ⟨hname, hnames⟩ := not_or.1 (mt List.mem_cons.2 h)
    refine List.IsPrefix.trans ?_ (ih hnames _)
    rw [next, if_neg (Ne.symm hname)]
    split
    · exact List.prefix_refl dir
    · exact List.prefix_append dir [name]

/-- Names that only lead down lead to a directory in every tree that has it, since it
has the directories above it too. -/
theorem Sound.walk_back {t t' : Tree} {names : List String} (ht : t.Sound) (hup : ".." ∉ names)
    (h : t'.walk dir names = .ok p) (hp : t.get? p = some .directory) :
    t.walk dir names = .ok p := by
  fun_induction t'.walk dir names with
  | case1 => exact h
  | case2 _ _ ih => simpa [walk] using ih (fun hm => hup (by simp [hm])) h
  | case3 => simp at hup
  | case7 dir name names hdot hdots hs _ ih =>
    have hnames : ".." ∉ names := fun hm => hup (by simp [hm])
    obtain ⟨rest, hrest⟩ := prefix_foldl_next hnames (dir ++ [name])
    rw [← walk_eq_ok h] at hrest
    have hg : t.get? (dir ++ [name]) = some .directory := by
      by_cases hr : rest = []
      · rwa [← hrest, hr, List.append_nil] at hp
      · exact ht.get?_front (hrest ▸ hp) hr
    simpa [walk, hdot, hdots, hs, hg] using ih hnames h
  | _ => cases h

/-- A path that only leads down from a directory finds what was there before, whatever
became of the tree in between. -/
theorem Sound.locate_back {t t' : Tree} (ht : t.Sound) (hwork : t'.workDir = t.workDir)
    (hparts : parts path = base ++ names ++ [name]) (hup : ".." ∉ names)
    (hname : name ≠ "." ∧ name ≠ "..") (hbase : t.walk (t.start path) base = .ok d)
    (h : t'.locate path = .ok p) (hp : t.get? p = some e) : t.locate path = .ok p := by
  have hproper := Proper.of_locate h
  rw [locate_of_proper hproper hparts] at h ⊢
  obtain ⟨dir, hwalk, hr⟩ := bind_eq_ok.1 h
  obtain ⟨d', hb, hn⟩ := walk_append_eq_ok.1 hwalk
  have hd : d' = d := by
    rw [walk_eq_ok hb, walk_eq_ok hbase, start, start, hwork]
  have hdir : t.get? dir = some .directory := by
    have hpd := reach_eq_ok hr
    rw [next, if_neg hname.1, if_neg hname.2] at hpd
    exact ht.get?_front (hpd ▸ hp) (by simp)
  have hback := ht.walk_back hup (hd ▸ hn) hdir
  exact bind_eq_ok.2 ⟨dir, walk_append_eq_ok.2 ⟨d, hbase, hback⟩, hr⟩

end DocSite.Files.Tree
