import DocSite.Proofs.Action
import DocSite.Proofs.Files.Tree

/-!
# Making directories and writing files

Each operation changes a sound tree as `Changes` allows, also when it fails. Making
directories fails only for a reason that stays: what is missing is made on the way.
-/

namespace DocSite.Files.Tree

-- ---------------------------------------------------------------------------
-- One directory
-- ---------------------------------------------------------------------------

theorem ensureDir_eq (path : String) (t : Tree) :
    ensureDir path t =
      match t.locate path with
      | .error e => .error e t
      | .ok p =>
        match t.get? p with
        | none => .ok () (t.put p .directory)
        | some .directory => .ok () t
        | some (.file _) => .error .alreadyThere t := by
  unfold ensureDir withDir isDir find
  cases t.locate path with
  | error e => rfl
  | ok p =>
    cases hg : t.get? p with
    | none => simp [hg]
    | some e => cases e <;> simp [hg]

theorem ensureDir_of_dir {t : Tree} (hl : t.locate path = .ok p)
    (hg : t.get? p = some .directory) : ensureDir path t = .ok () t := by
  simp only [ensureDir_eq, hl, hg]

theorem changes_ensureDir {t : Tree} (ht : t.Sound) (path : String) :
    Changes (fun _ => False) t (final (ensureDir path t)) := by
  rw [ensureDir_eq]
  split
  · exact .refl ht
  · rename_i p hl
    split
    · rename_i hg
      exact changes_put_dir ht (ht.locate_parent hl) hg
    · exact .refl ht
    · exact .refl ht

theorem locate_of_ensureDir {t : Tree} (h : ensureDir path t = .ok u t') :
    ∃ p, t.locate path = .ok p := by
  rw [ensureDir_eq] at h
  split at h
  · cases h
  · exact ⟨_, by assumption⟩

/-- Once made, the directory is there. -/
theorem ensureDir_ok {t : Tree} (ht : t.Sound) (h : ensureDir path t = .ok u t') :
    ∃ p, t'.locate path = .ok p ∧ t'.get? p = some .directory := by
  have hc := changes_ensureDir ht path
  rw [h, final_ok] at hc
  rw [ensureDir_eq] at h
  split at h
  · cases h
  · rename_i p hl
    refine ⟨p, hc.locate_ok hl, ?_⟩
    split at h
    · rename_i hg
      cases h
      have hp : p ≠ [] := by
        rintro rfl
        cases hg
      rw [get?_put t _ hp, if_pos rfl]
    · cases h
      assumption
    · cases h

/-- A failure leaves the tree, and only what was missing may be found later. -/
theorem ensureDir_error {t : Tree} (h : ensureDir path t = .error e t') :
    t' = t ∧ (e = .notFound → t.locate path = .error .notFound) ∧
      (e ≠ .notFound → ∀ u, Grows t u → ensureDir path u = .error e u) := by
  rw [ensureDir_eq] at h
  split at h
  · rename_i e' hl
    cases h
    refine ⟨rfl, fun he => he ▸ hl, fun he u hu => ?_⟩
    rw [ensureDir_eq, hu.locate_error hl he]
  · rename_i p hl
    split at h
    · cases h
    · cases h
    · rename_i b hg
      cases h
      refine ⟨rfl, by simp, fun _ u hu => ?_⟩
      obtain ⟨b', hb'⟩ := hu.files p b hg
      simp only [ensureDir_eq, hu.locate_ok hl, hb']

-- ---------------------------------------------------------------------------
-- Directories above a path
-- ---------------------------------------------------------------------------

theorem makeDirsFrom_cons (hp : path ≠ "") (dirs : List String) (t : Tree) :
    makeDirsFrom (path :: dirs) t =
      match ensureDir path t with
      | .error .notFound t =>
        match makeDirsFrom dirs t with
        | .ok _ t => ensureDir path t
        | .error e t => .error e t
      | r => r := by
  have : path.isEmpty = false := by simpa using hp
  simp only [makeDirsFrom, this, Bool.false_eq_true, ↓reduceIte]
  cases ensureDir path t with
  | ok => rfl
  | error e t =>
    cases e with
    | notFound =>
      simp only [run_bind]
      cases makeDirsFrom dirs t <;> rfl
    | _ => rfl

theorem makeDirsFrom_of_error (hp : path ≠ "") (h : ensureDir path t = .error e t')
    (he : e ≠ .notFound) (dirs : List String) : makeDirsFrom (path :: dirs) t = .error e t' := by
  rw [makeDirsFrom_cons hp, h]
  cases e with
  | notFound => exact absurd rfl he
  | _ => rfl

theorem changes_makeDirsFrom {t : Tree} (ht : t.Sound) (dirs : List String) :
    Changes (fun _ => False) t (final (makeDirsFrom dirs t)) := by
  induction dirs generalizing t with
  | nil => exact .refl ht
  | cons path dirs ih =>
    by_cases hp : path = ""
    · simp [makeDirsFrom, hp]
      exact .refl ht
    rw [makeDirsFrom_cons hp]
    split
    · rename_i t₁ he
      obtain ⟨rfl, -⟩ := ensureDir_error he
      have hc := ih ht
      split
      · rename_i t₂ hm
        rw [hm] at hc
        exact hc.trans (changes_ensureDir hc.sound path)
      · rename_i hm
        rwa [hm] at hc
    · exact changes_ensureDir ht path

theorem changes_makeDirs {t : Tree} (ht : t.Sound) (path : String) :
    Changes (fun _ => False) t (final (makeDirs path t)) :=
  changes_makeDirsFrom ht _

/-- A directory that is there need not be made. -/
theorem makeDirs_of_walk {t : Tree} (ht : t.Sound) (hp : Proper path)
    (h : t.walk (t.start path) (parts path) = .ok p) : makeDirs path t = .ok () t := by
  obtain ⟨dirs, hdirs⟩ : ∃ dirs, ancestors path = path :: dirs := by
    unfold ancestors
    split <;> exact ⟨_, rfl⟩
  rw [makeDirs, hdirs]
  by_cases hne : path = ""
  · simp [makeDirsFrom, hne]
  have hl := ht.locate_of_walk hp hne h
  rw [makeDirsFrom_cons hne, ensureDir_of_dir hl (ht.walk_dir (ht.start_dir path) h)]

theorem makeDirsFrom_root (hr : root = "/" ∨ root = "") (t : Tree) :
    makeDirsFrom [root] t = .ok () t := by
  rcases hr with rfl | rfl
  · rw [makeDirsFrom_cons (by simp), ensureDir_of_dir (p := []) ?_ rfl]
    exact locate_of_no_parts ⟨by decide, by decide⟩ rfl t
  · rfl

theorem Proper.front (h : Proper (ofSegments (ps ++ [s]))) : Proper (ofSegments ps) := by
  by_cases hps : ps = []
  · subst hps
    exact ⟨by simp [ofSegments], by decide⟩
  · rw [ofSegments_concat hps] at h
    exact h.left.left

/-- A segment that is no name leads nowhere else. -/
theorem walk_named_concat (hn : ¬ isName ps s) (t : Tree) (dir : Place) :
    t.walk dir (named (ps ++ [s])) = t.walk dir (named ps) := by
  rw [named_append]
  by_cases hs : s = []
  · simp [hs, named]
  · have hdot : s = ['.'] := by
      simp only [isName, Bool.and_eq_true, not_and] at hn
      have := hn (by simpa using hs)
      simp at this
      exact this.1
    rw [named_singleton hs, walk_append, hdot]
    cases t.walk dir (named ps) <;> rfl

theorem start_ofSegments (hr : Rooted root (ps ++ [s])) (hs : s ≠ []) (t : Tree) :
    t.start (ofSegments (ps ++ [s])) = t.start root := by
  rw [start, start, hr.isAbsolute_eq hs]

theorem locate_ofSegments (hr : Rooted root (ps ++ [s])) (hs : s ≠ [])
    (hp : Proper (ofSegments (ps ++ [s]))) (t : Tree) :
    t.locate (ofSegments (ps ++ [s])) =
      t.walk (t.start root) (named ps) >>= (reach · (String.ofList s)) := by
  rw [locate_of_proper hp (hr.parts_eq hs), start_ofSegments hr hs]

theorem locate_ne_notFound (hr : Rooted root (ps ++ [s])) (hs : s ≠ [])
    (hw : walk t (t.start root) (named ps) = .ok dir) :
    t.locate (ofSegments (ps ++ [s])) ≠ .error .notFound := by
  by_cases hp : Proper (ofSegments (ps ++ [s]))
  · rw [locate_ofSegments hr hs hp, hw]
    exact reach_ne_notFound
  · obtain ⟨e, he, hl⟩ := locate_of_not_proper hp
    rw [hl]
    exact fun h => he (Except.error.inj h)

/-- A made directory lets its names through. -/
theorem walk_of_ensureDir {t : Tree} (ht : t.Sound) (hr : Rooted root (ps ++ [s])) (hs : s ≠ [])
    (h : ensureDir (ofSegments (ps ++ [s])) t = .ok u t') :
    ∃ p, t'.walk (t'.start root) (named (ps ++ [s])) = .ok p := by
  have hc := changes_ensureDir ht (ofSegments (ps ++ [s]))
  rw [h, final_ok] at hc
  obtain ⟨p, hl, hg⟩ := ensureDir_ok ht h
  rw [locate_ofSegments hr hs (Proper.of_locate hl)] at hl
  obtain ⟨dir, hw, hreach⟩ := bind_eq_ok.1 hl
  have hdir := hc.sound.walk_dir (hc.sound.start_dir root) hw
  refine ⟨p, ?_⟩
  rw [named_append, named_singleton hs]
  exact walk_append_eq_ok.2 ⟨dir, hw, (walk_singleton_iff hc.sound hdir).2 ⟨hreach, hg⟩⟩

theorem makeDirsFrom_ok {t : Tree} (ht : t.Sound) (hr : Rooted root ps)
    (h : makeDirsFrom (above root ps) t = .ok u t') :
    ∃ p, t'.walk (t'.start root) (named ps) = .ok p := by
  induction ps using List.reverseRecOn generalizing t with
  | nil => exact ⟨_, rfl⟩
  | append_singleton ps s ih =>
    rw [above_concat] at h
    split at h
    · rename_i hn
      have hs := ne_nil_of_isName hn
      rw [makeDirsFrom_cons (ofSegments_ne_empty hs)] at h
      split at h
      · rename_i t₁ he
        obtain ⟨rfl, -⟩ := ensureDir_error he
        split at h
        · rename_i t₂ hm
          have hc := changes_makeDirsFrom ht (above root ps)
          rw [hm, final_ok] at hc
          exact walk_of_ensureDir hc.sound hr hs h
        · cases h
      · exact walk_of_ensureDir ht hr hs h
    · rename_i hn
      rw [walk_named_concat hn]
      exact ih ht hr.front h

theorem makeDirsFrom_of_walk {t : Tree} (ht : t.Sound) (hr : Rooted root ps)
    (hp : Proper (ofSegments ps)) (h : t.walk (t.start root) (named ps) = .ok p) :
    makeDirsFrom (above root ps) t = .ok () t := by
  induction ps using List.reverseRecOn with
  | nil => exact makeDirsFrom_root hr.root_cases t
  | append_singleton ps s ih =>
    rw [above_concat]
    split
    · rename_i hn
      have hs := ne_nil_of_isName hn
      have hne : ofSegments (ps ++ [s]) ≠ "" := ofSegments_ne_empty hs
      rw [← start_ofSegments hr hs, named_append, named_singleton hs, ← hr.parts_eq hs] at h
      have hl := ht.locate_of_walk hp hne h
      rw [makeDirsFrom_cons hne, ensureDir_of_dir hl (ht.walk_dir (ht.start_dir _) h)]
    · rename_i hn
      rw [walk_named_concat hn] at h
      exact ih hr.front hp.front h

/-- If the directories above one cannot be made, it cannot either. -/
theorem makeDirsFrom_cons_error {t : Tree} (ht : t.Sound) (hr : Rooted root (ps ++ [s]))
    (hs : s ≠ []) (hm : makeDirsFrom (above root ps) t = .error e t') :
    ∃ e' t'', makeDirsFrom (ofSegments (ps ++ [s]) :: above root ps) t = .error e' t'' := by
  rw [makeDirsFrom_cons (ofSegments_ne_empty hs)]
  cases he : ensureDir (ofSegments (ps ++ [s])) t with
  | ok v t₁ =>
    -- a directory that can be made has all above it
    obtain ⟨p, hl⟩ := locate_of_ensureDir he
    have hp := Proper.of_locate hl
    rw [locate_ofSegments hr hs hp] at hl
    obtain ⟨dir, hw, -⟩ := bind_eq_ok.1 hl
    rw [makeDirsFrom_of_walk ht hr.front hp.front hw] at hm
    cases hm
  | error e₁ t₁ =>
    obtain ⟨rfl, -⟩ := ensureDir_error he
    cases e₁ with
    | notFound => exact ⟨e, t', by simp only [hm]⟩
    | _ => exact ⟨_, _, rfl⟩

/-- Where the directories above a path cannot be made, they never can. -/
theorem makeDirsFrom_error {t : Tree} (ht : t.Sound) (hr : Rooted root ps)
    (h : makeDirsFrom (above root ps) t = .error e t') (hu : Grows t' u) :
    ∃ e' u', makeDirsFrom (above root ps) u = .error e' u' := by
  induction ps using List.reverseRecOn generalizing t with
  | nil =>
    rw [show above root [] = [root] from rfl, makeDirsFrom_root hr.root_cases] at h
    cases h
  | append_singleton ps s ih =>
    rw [above_concat] at h ⊢
    split at h
    · rename_i hn
      have hs := ne_nil_of_isName hn
      have hne : ofSegments (ps ++ [s]) ≠ "" := ofSegments_ne_empty hs
      rw [if_pos hn]
      rw [makeDirsFrom_cons hne] at h
      split at h
      · rename_i t₁ he
        obtain ⟨rfl, -⟩ := ensureDir_error he
        split at h
        · rename_i t₂ hm
          -- all above is there, so the last directory is not just missing
          obtain ⟨rfl, hnf, hstay⟩ := ensureDir_error h
          have hc := changes_makeDirsFrom ht (above root ps)
          rw [hm, final_ok] at hc
          obtain ⟨dir, hw⟩ := makeDirsFrom_ok ht hr.front hm
          have he : e ≠ .notFound := fun he => locate_ne_notFound hr hs hw (hnf he)
          exact ⟨e, u, makeDirsFrom_of_error hne (hstay he u hu) he _⟩
        · rename_i hm
          cases h
          obtain ⟨e', u', hm'⟩ := ih ht hr.front hm
          exact makeDirsFrom_cons_error hu.sound hr hs hm'
      · rename_i hnf
        obtain ⟨rfl, -, hstay⟩ := ensureDir_error h
        have he : e ≠ .notFound := by
          rintro rfl
          exact hnf _ h
        exact ⟨e, u, makeDirsFrom_of_error hne (hstay he u hu) he _⟩
    · rename_i hn
      rw [if_neg hn]
      exact ih ht hr.front h

-- ---------------------------------------------------------------------------
-- Files
-- ---------------------------------------------------------------------------

theorem changes_write {t : Tree} (ht : t.Sound) (path : String) (bytes : List UInt8) :
    Changes (· = t.placeOf path) t (final (write path bytes t)) := by
  unfold write
  split
  · exact .refl ht
  · rename_i p hl
    split
    · exact .refl ht
    · rename_i hg
      rw [← locate_eq_placeOf hl]
      exact changes_put_file ht (ht.locate_parent hl) hg

/-- A file is written exactly where no directory is. -/
theorem write_eq_ok_iff {t : Tree} :
    write path bytes t = .ok u t' ↔
      ∃ p, t.locate path = .ok p ∧ t.get? p ≠ some .directory ∧ t' = t.put p (.file bytes) := by
  unfold write
  cases t.locate path with
  | error e => simp
  | ok p =>
    simp only [Except.ok.injEq, exists_eq_left']
    split
    · simp_all
    · rename_i hg
      simp only [EStateM.Result.ok.injEq, true_and]
      exact ⟨fun h => ⟨hg, h.symm⟩, fun h => h.2.symm⟩

theorem read_of_write {t : Tree} (ht : t.Sound) (h : write path bytes t = .ok u t') :
    t'.read path = .ok bytes := by
  have hc := changes_write ht path bytes
  rw [h, final_ok] at hc
  obtain ⟨p, hl, hg, rfl⟩ := write_eq_ok_iff.1 h
  have hp : p ≠ [] := by
    rintro rfl
    exact hg rfl
  refine read_of_get? (hc.locate_ok hl) ?_
  rw [get?_put t _ hp, if_pos rfl]

/-- A file that could not be written for another reason than a missing directory
never can. -/
theorem write_error {t : Tree} (h : write path bytes t = .error e t')
    (hl : t.locate path ≠ .error .notFound) (hu : Grows t u) (bytes' : List UInt8) :
    ∃ e' u', write path bytes' u = .error e' u' := by
  unfold write at h ⊢
  split at h
  · rename_i e' hl'
    have he : e' ≠ .notFound := by
      rintro rfl
      exact hl hl'
    exact ⟨e', u, by simp only [hu.locate_error hl' he]⟩
  · rename_i p hl'
    split at h
    · rename_i hg
      exact ⟨.isDirectory, u, by simp only [hu.locate_ok hl', hu.dirs p hg]⟩
    · cases h

end DocSite.Files.Tree
