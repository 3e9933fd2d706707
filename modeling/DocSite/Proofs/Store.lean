import DocSite.Proofs.Files.Writing
import DocSite.Proofs.Wire.RoundTrip
import DocSite.Store

/-!
# What the store does to a tree

Writing a library touches the place of its cache file and no other file, and what
was written is what is read. A name that only leads down is found later exactly where it
was found before, and what is found can be written again once the store's directory is
there.
-/

namespace DocSite.Store

open Files Files.Tree

-- ---------------------------------------------------------------------------
-- Replacing a file
-- ---------------------------------------------------------------------------

theorem discard_eq (path : String) (t : Tree) :
    discard path t =
      match t.locate path with
      | .error .notFound => .ok () t
      | .error e => .error e t
      | .ok p =>
        match t.get? p with
        | none => .ok () t
        | some .directory => .error .isDirectory t
        | some (.file _) => .ok () (t.erase p) := by
  unfold discard removeFile
  cases t.locate path with
  | error e => cases e <;> rfl
  | ok p =>
    cases hg : t.get? p with
    | none => simp [hg]
    | some e => cases e <;> simp [hg]

theorem discard_error {t : Tree} (h : discard file t = .error e t') : t' = t := by
  rw [discard_eq] at h
  repeat' split at h
  all_goals cases h
  all_goals rfl

theorem discard_ok {t : Tree} (h : discard file t = .ok u t') :
    t' = t ∨ ∃ p b, t.locate file = .ok p ∧ t.get? p = some (.file b) ∧ t' = t.erase p := by
  rw [discard_eq] at h
  split at h
  · cases h
    exact .inl rfl
  · cases h
  · rename_i p hl
    split at h
    · cases h
      exact .inl rfl
    · cases h
    · rename_i b hg
      cases h
      exact .inr ⟨p, b, hl, hg, rfl⟩

theorem discard_file {t : Tree} (hl : t.locate file = .ok p) (hg : t.get? p = some (.file b)) :
    discard file t = .ok () (t.erase p) := by
  simp only [discard_eq, hl, hg]

/-- Where a file was removed, another one can be written, as if over it. -/
theorem write_erase {t : Tree} (ht : t.Sound) (hl : t.locate file = .ok p)
    (hg : t.get? p = some (.file b)) (bytes : List UInt8) :
    ∃ t', Tree.write file bytes (t.erase p) = .ok () t' ∧ Changes (· = p) t t' ∧
      t'.read file = .ok bytes := by
  have hp := ne_nil_of_get?_eq_file hg
  have hdirs : ∀ q, t.get? q = some .directory → (t.erase p).get? q = some .directory := by
    intro q hq
    have hqp : q ≠ p := by
      rintro rfl
      rw [hq] at hg
      cases hg
    rw [ht.get?_erase hg, if_neg hqp, hq]
  have hl' : (t.erase p).locate file = .ok p := locate_of_dirs (show _ = t.workDir from rfl) hdirs hl
  have hnone : (t.erase p).get? p = none := by rw [ht.get?_erase hg, if_pos rfl]
  -- the place holds the same in the end as if the file had been overwritten
  have hsame : ∀ q, ((t.erase p).put p (.file bytes)).get? q = (t.put p (.file bytes)).get? q := by
    intro q
    by_cases hq : q = []
    · simp [hq]
    · rw [get?_put _ _ hq, get?_put _ _ hq, ht.get?_erase hg]
      split <;> rfl
  have hc : Changes (· = p) t ((t.erase p).put p (.file bytes)) :=
    (changes_put_file ht (ht.locate_parent hl) (by simp [hg])).congr rfl hsame
  refine ⟨_, write_eq_ok_iff.2 ⟨p, hl', by simp [hnone], rfl⟩, hc, ?_⟩
  refine read_of_get? (hc.locate_ok hl) ?_
  rw [get?_put _ _ hp, if_pos rfl]

/-- A file is replaced in two steps that touch nothing else. -/
theorem changes_replace {t : Tree} (ht : t.Sound) (h : discard file t = .ok u t₁)
    (bytes : List UInt8) :
    Changes (· = t.placeOf file) t (final (Tree.write file bytes t₁)) := by
  rcases discard_ok h with rfl | ⟨p, b, hl, hg, rfl⟩
  · exact Tree.changes_write ht file bytes
  · obtain ⟨t₂, hw, hc, -⟩ := write_erase ht hl hg bytes
    rwa [hw, ← locate_eq_placeOf hl]

theorem read_replace {t : Tree} (ht : t.Sound) (h : discard file t = .ok u t₁)
    (hw : Tree.write file bytes t₁ = .ok v t₂) : t₂.read file = .ok bytes := by
  rcases discard_ok h with rfl | ⟨p, b, hl, hg, rfl⟩
  · exact read_of_write ht hw
  · obtain ⟨t₃, hw', -, hr⟩ := write_erase ht hl hg bytes
    rw [hw] at hw'
    cases hw'
    exact hr

-- ---------------------------------------------------------------------------
-- Writing a library
-- ---------------------------------------------------------------------------

theorem write_eq (s : Store) (c : Catalog) (t : Tree) :
    s.write c t =
      match makeDirs s.dir t with
      | .error e t => .error (.io s.dir e) t
      | .ok _ t =>
        match discard (s.path c.name) t with
        | .error e t => .error (.io (s.path c.name) e) t
        | .ok _ t =>
          match Tree.write (s.path c.name) (Wire.encodeRecord c.record) t with
          | .error e t => .error (.io (s.path c.name) e) t
          | .ok _ t => .ok (Wire.encodeRecord c.record).length t := by
  simp only [write, run_bind, onPath]
  cases makeDirs s.dir t with
  | error e t => rfl
  | ok v t =>
    cases hd : discard (s.path c.name) t with
    | error e t => simp only [hd]
    | ok v t =>
      simp only [hd]
      cases Tree.write (s.path c.name) (Wire.encodeRecord c.record) t <;> rfl

theorem changes_write (s : Store) (c : Catalog) {t : Tree} (ht : t.Sound) :
    Changes (· = t.placeOf (s.path c.name)) t (final (s.write c t)) := by
  have hc := changes_makeDirs ht s.dir
  rw [write_eq]
  split
  · rename_i hm
    rw [hm] at hc
    exact hc.mono fun _ => False.elim
  · rename_i t₁ hm
    rw [hm, final_ok] at hc
    refine (hc.mono fun _ => False.elim).trans ?_
    rw [← hc.placeOf]
    split
    · rename_i hd
      rw [discard_error hd]
      exact .refl hc.sound
    · rename_i hd
      have := changes_replace hc.sound hd (Wire.encodeRecord c.record)
      split
      · rename_i hw
        rwa [hw] at this
      · rename_i hw
        rwa [hw] at this

theorem read_write {s : Store} {c : Catalog} {t : Tree} (ht : t.Sound)
    (h : s.write c t = .ok n t') : t'.read (s.path c.name) = .ok (Wire.encodeRecord c.record) := by
  have hc := changes_makeDirs ht s.dir
  rw [write_eq] at h
  split at h
  · cases h
  · rename_i hm
    rw [hm, final_ok] at hc
    split at h
    · cases h
    · rename_i hd
      split at h
      · cases h
      · rename_i hw
        cases h
        exact read_replace hc.sound hd hw

theorem read_congr {s : Store} {t u : Tree}
    (h : t.read (s.path library) = u.read (s.path library)) : s.read t library = s.read u library := by
  unfold read
  rw [h]

theorem read_eq_some_iff {s : Store} {t : Tree} :
    s.read t library = .ok (some cached) ↔
      ∃ b, t.read (s.path library) = .ok b ∧ Wire.decodeRecord b = .ok cached.record ∧
        cached.size = b.length := by
  unfold read
  cases hr : t.read (s.path library) with
  | error e => cases e <;> simp
  | ok b =>
    simp only [Except.ok.injEq, exists_eq_left']
    cases Wire.decodeRecord b with
    | error e => simp
    | ok r =>
      obtain ⟨record, size⟩ := cached
      simp only [Except.ok.injEq, Option.some.injEq, Cached.mk.injEq]
      exact and_congr_right fun _ => eq_comm

theorem read_eq_none_iff {s : Store} {t : Tree} :
    s.read t library = .ok none ↔ t.read (s.path library) = .error .notFound := by
  unfold read
  cases hr : t.read (s.path library) with
  | error e => cases e <;> simp
  | ok b => cases hd : Wire.decodeRecord b <;> simp [hd]

/-- What was written of a library is what the store gives. -/
theorem read_of_written {s : Store} {t : Tree} (hf : Wire.RecordFits r)
    (h : t.read (s.path library) = .ok (Wire.encodeRecord r)) :
    s.read t library = .ok (some ⟨r, (Wire.encodeRecord r).length⟩) :=
  read_eq_some_iff.2 ⟨_, h, Wire.decodeRecord_encodeRecord hf, rfl⟩

-- ---------------------------------------------------------------------------
-- Where cache files lie
-- ---------------------------------------------------------------------------

theorem suffix_path (s : Store) (library : String) :
    ".cache".toList <:+ (s.path library).toList := by
  refine List.IsSuffix.trans ?_ (suffix_join s.dir (library ++ "." ++ extension))
  refine ⟨library.toList, ?_⟩
  simp [extension]

theorem endsIn_path (s : Store) (library : String) (t : Tree) :
    EndsIn ".cache" (t.placeOf (s.path library)) :=
  endsIn_placeOf (s.suffix_path library) (by decide) (by decide) t

theorem isAbsolute_file (h : isAbsolute library = a) :
    isAbsolute (library ++ "." ++ extension) = a := by
  cases hl : library.toList with
  | nil =>
    rw [String.toList_eq_nil_iff.1 hl] at h ⊢
    exact h
  | cons c cs =>
    simp only [isAbsolute, hl, List.head?_cons] at h
    simpa [isAbsolute, hl] using h

theorem parts_file (library : String) :
    ∃ names name, parts (library ++ "." ++ extension) = names ++ [name] ∧
      (".." ∉ parts library → ".." ∉ names) ∧ name ≠ "." ∧ name ≠ ".." := by
  obtain ⟨ps, q, hq⟩ := exists_segments library
  have hfile : segments (library ++ "." ++ extension) = ps ++ [q ++ ".cache".toList] := by
    rw [String.append_assoc]
    exact segments_append hq (by decide)
  refine ⟨named ps, String.ofList (q ++ ".cache".toList), ?_, fun h hm => ?_,
    ofList_ne_dots (by simp)⟩
  · rw [parts, hfile, named_append, named_singleton (by simp)]
  · rw [parts, hq, named_append] at h
    exact h (by simp [hm])

/-- The names on the way to the file of a relative name, those of the store first. -/
theorem parts_path (h : isAbsolute library = false) (s : Store) :
    ∃ names name, parts (s.path library) = parts s.dir ++ names ++ [name] ∧
      (".." ∉ parts library → ".." ∉ names) ∧ name ≠ "." ∧ name ≠ ".." := by
  obtain ⟨names, name, hparts, hnames⟩ := parts_file library
  refine ⟨names, name, ?_, hnames⟩
  rw [path, parts_join (isAbsolute_file h), hparts, List.append_assoc]

theorem start_path (h : isAbsolute library = false) (s : Store) (t : Tree) :
    t.start (s.path library) = t.start s.dir := by
  rw [start, start, path, isAbsolute_join (isAbsolute_file h)]

-- ---------------------------------------------------------------------------
-- The directory of the store
-- ---------------------------------------------------------------------------

/-- The store's directory is there. -/
def Present (s : Store) (t : Tree) : Prop :=
  Proper s.dir ∧ ∃ d, t.walk (t.start s.dir) (parts s.dir) = .ok d

theorem Present.of_changes {s : Store} {t t' : Tree} (h : s.Present t) (hc : Changes P t t') :
    s.Present t' := by
  obtain ⟨hp, d, hd⟩ := h
  rw [← hc.start] at hd
  exact ⟨hp, d, hc.walk_ok hd⟩

/-- The store's directory is there if the file of a relative name can be located. -/
theorem present_of_locate {s : Store} {t : Tree} (h : isAbsolute library = false)
    (hl : t.locate (s.path library) = .ok p) : s.Present t := by
  have hp := Proper.of_locate hl
  obtain ⟨names, name, hparts, -⟩ := parts_path h s
  rw [locate_of_proper hp hparts, start_path h] at hl
  obtain ⟨dir, hw, -⟩ := bind_eq_ok.1 hl
  obtain ⟨d, hd, -⟩ := walk_append_eq_ok.1 hw
  exact ⟨hp.of_join (isAbsolute_file h), d, hd⟩

theorem present_of_read {s : Store} {t : Tree} (habs : isAbsolute library = true → s.Present t)
    (hr : t.read (s.path library) = .ok b) : s.Present t := by
  cases h : isAbsolute library with
  | true => exact habs h
  | false =>
    obtain ⟨p, hl, -⟩ := read_eq_ok_iff.1 hr
    exact present_of_locate h hl

/-- What has a cache file can be written again. -/
theorem Present.write_ok {s : Store} {t : Tree} (h : s.Present t) (ht : t.Sound)
    (hr : t.read (s.path c.name) = .ok b) : ∃ n t', s.write c t = .ok n t' := by
  obtain ⟨hp, d, hd⟩ := h
  obtain ⟨p, hl, hg⟩ := read_eq_ok_iff.1 hr
  obtain ⟨t', hw, -, -⟩ := write_erase ht hl hg (Wire.encodeRecord c.record)
  refine ⟨(Wire.encodeRecord c.record).length, t', ?_⟩
  rw [write_eq]
  simp only [makeDirs_of_walk ht hp hd, discard_file hl hg, hw]

/-- A cache file that is found was found before, if it was there. A name without `..` leads
down, from the directory of the store or from the root. -/
theorem read_before (h : ".." ∉ parts library) {s : Store} {t t' : Tree} (ht : t.Sound)
    (hc : Changes P t t') (hd : t.walk (t.start s.dir) (parts s.dir) = .ok d)
    (hl : t'.locate (s.path library) = .ok p) (hg : t.get? p = some (.file b)) :
    t.read (s.path library) = .ok b := by
  cases ha : isAbsolute library with
  | true =>
    have hpath : s.path library = library ++ "." ++ extension := by
      rw [path, join, isAbsolute_file ha, Bool.true_or, if_pos rfl]
    obtain ⟨names, name, hparts, hup, hname⟩ := parts_file library
    have hbase : parts (s.path library) = [] ++ names ++ [name] := by rw [hpath, hparts]; rfl
    exact read_of_get? (ht.locate_back hc.workDir hbase (hup h) hname rfl hl hg) hg
  | false =>
    obtain ⟨names, name, hparts, hup, hname⟩ := parts_path ha s
    rw [← start_path ha] at hd
    exact read_of_get? (ht.locate_back hc.workDir hparts (hup h) hname hd hl hg) hg

end DocSite.Store
