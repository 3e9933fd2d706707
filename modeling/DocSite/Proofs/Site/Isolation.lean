import DocSite.Proofs.Listing
import DocSite.Proofs.Site.Resolve

/-!
# Libraries apart from each other

What becomes of one library in a run is what becomes of it alone: its outcome and its
cache file go by its cache file before and by its own items (`resolve_isolated`). All that
other libraries can do to it is to make a directory where its cache file is missing, with
the name of a page that leads there (`resolve_trapped`).
-/

namespace DocSite

open Files Files.Tree

-- ---------------------------------------------------------------------------
-- Names of one component
-- ---------------------------------------------------------------------------

namespace Store

/-- A name that is a single component of a path, and not the one that leads up. -/
def Plain (library : String) : Prop := '/' ∉ library.toList ∧ library ≠ ".."

instance : DecidablePred Plain := fun _ => inferInstanceAs (Decidable (_ ∧ _))

theorem Plain.isAbsolute_eq (h : Plain library) : isAbsolute library = false := by
  cases hl : library.toList with
  | nil => simp [isAbsolute, hl]
  | cons c cs =>
    have hc : c ≠ '/' := fun hc => h.1 (by simp [hl, hc])
    simp [isAbsolute, hl, hc]

/-- Once the store's directory is there, it is clear where a cache file lies. -/
theorem Plain.locate_eq (h : Plain library) {s : Store} {t t' : Tree} (hc : Changes P t t')
    (hd : t.walk (t.start s.dir) (parts s.dir) = .ok d) :
    t'.locate (s.path library) = t.locate (s.path library) := by
  by_cases hp : Proper (s.path library)
  · rw [locate_of_proper hp (parts_plain h.1 s), locate_of_proper hp (parts_plain h.1 s), hc.start,
      start_path h.isAbsolute_eq, hd, hc.walk_ok hd]
  · obtain ⟨e, -, he⟩ := locate_of_not_proper hp
    rw [he, he]

theorem read_eq_error {s : Store} {t : Tree} (h : t.read (s.path library) = .error .isDirectory) :
    s.read t library = .error (.io (s.path library) .isDirectory) := by
  unfold read
  rw [h]

end Store

namespace Site

open Store

-- ---------------------------------------------------------------------------
-- Cache files that others leave alone
-- ---------------------------------------------------------------------------

/-- A cache file is found as it was; where there is none, a directory may have come. -/
def Undisturbed (s : Site) (library : String) (t t' : Tree) : Prop :=
  t'.read (s.store.path library) = t.read (s.store.path library) ∨
    t.read (s.store.path library) = .error .notFound ∧
      t'.read (s.store.path library) = .error .isDirectory

section
variable {s : Site} {t t' t'' : Tree}

theorem Undisturbed.refl (t : Tree) : s.Undisturbed library t t := .inl rfl

theorem Undisturbed.trans (h : s.Undisturbed library t t') (h' : s.Undisturbed library t' t'') :
    s.Undisturbed library t t'' := by
  rcases h with h | ⟨hmissing, hdir⟩
  · rcases h' with h' | ⟨hmissing, hdir⟩
    · exact .inl (h'.trans h)
    · exact .inr ⟨h ▸ hmissing, hdir⟩
  · rcases h' with h' | ⟨hmissing', -⟩
    · exact .inr ⟨hmissing, h'.trans hdir⟩
    · rw [hdir] at hmissing'
      cases hmissing'

theorem Undisturbed.read_ok_iff (h : s.Undisturbed library t t') :
    t'.read (s.store.path library) = .ok b ↔ t.read (s.store.path library) = .ok b := by
  rcases h with h | ⟨hmissing, hdir⟩
  · rw [h]
  · rw [hmissing, hdir]
    simp

theorem Undisturbed.carded (h : s.Undisturbed library t t') (hcard : s.Carded library t) :
    s.Carded library t' := by
  intro cached hr
  obtain ⟨b, hb, hrest⟩ := read_eq_some_iff.1 hr
  exact hcard cached (read_eq_some_iff.2 ⟨b, h.read_ok_iff.1 hb, hrest⟩)

theorem undisturbed_of_changes (hp : Plain library) (hc : Changes P t t')
    (hd : t.walk (t.start s.store.dir) (parts s.store.dir) = .ok d)
    (hfree : ¬ P (t.placeOf (s.store.path library))) : s.Undisturbed library t t' := by
  have hlocate := hp.locate_eq hc hd
  simp only [Undisturbed, Tree.read, find, hlocate]
  cases hl : t.locate (s.store.path library) with
  | error e => exact .inl rfl
  | ok p =>
    rw [← locate_eq_placeOf hl] at hfree
    simp only
    rcases hg : t.get? p with _ | b | _
    · rcases hg' : t'.get? p with _ | b | _
      · simp
      · rw [hc.same p b hfree, hg] at hg'
        cases hg'
      · simp
    · rw [(hc.same p b hfree).2 hg]
      exact .inl rfl
    · rw [hc.dirs p hg]
      exact .inl rfl

end

-- ---------------------------------------------------------------------------
-- Failures of pages
-- ---------------------------------------------------------------------------

/-- A failure to write a page or a search index. -/
def OfPages : Failure → Prop
  | .makeDir _ _ | .write _ _ => True
  | _ => False

/-- An action that fails on pages only. -/
def FailsOnPages (a : Act Unit) : Prop := ∀ σ e σ', a σ = .error e σ' → OfPages e

theorem Quiet.failsOnPages {a : Act Unit} (h : Quiet a ()) : FailsOnPages a := by
  intro σ e σ' he
  obtain ⟨σ₁, h₁, -⟩ := h σ
  rw [h₁] at he
  cases he

theorem FailsOnPages.bind {a b : Act Unit} (ha : FailsOnPages a) (hb : FailsOnPages b) :
    FailsOnPages (do a; b) := by
  intro σ e σ' he
  cases h : a σ with
  | ok u σ₁ => exact hb σ₁ e σ' ((run_bind_ok h).symm.trans he)
  | error e' σ₁ =>
    rw [run_bind_error h] at he
    cases he
    exact ha σ _ _ h

theorem FailsOnPages.forM {xs : List α} {f : α → Act Unit} (h : ∀ x ∈ xs, FailsOnPages (f x)) :
    FailsOnPages (xs.forM f) := by
  induction xs with
  | nil => exact (Quiet.pure ()).failsOnPages
  | cons x xs ih => exact (h x (by simp)).bind (ih fun y hy => h y (by simp [hy]))

theorem failsOnPages_change {why : ε → Failure} (hwhy : ∀ e, OfPages (why e))
    (a : EStateM ε Tree Unit) : FailsOnPages (change why a) := by
  intro σ e σ' he
  unfold change at he
  split at he
  · cases he
  · cases he
    exact hwhy _

theorem failsOnPages_writeFile (path text : String) : FailsOnPages (writeFile path text) := by
  have hwrite := failsOnPages_change (fun e => show OfPages (.write path e) from trivial)
    (Tree.write path (textBytes text))
  unfold writeFile
  split
  · rename_i dir _
    exact (failsOnPages_change (fun e => show OfPages (.makeDir dir e) from trivial) _).bind hwrite
  · exact hwrite

theorem failsOnPages_writeSite (s : Site) (c : Catalog) : FailsOnPages (s.writeSite c) := by
  have hpages : FailsOnPages (s.writePages c) :=
    (FailsOnPages.forM fun _ _ => failsOnPages_writeFile _ _).bind (Quiet.tell _).failsOnPages
  exact hpages.bind ((failsOnPages_writeFile _ _).bind (Quiet.tell _).failsOnPages)

-- ---------------------------------------------------------------------------
-- One library
-- ---------------------------------------------------------------------------

/-- What splicing into a library comes to, by what its cache file holds. -/
inductive Effect (s : Site) (g : String × List Item) (t : Tree) : Outcome → Tree → Prop
  | missing (hr : s.store.read t g.1 = .ok none) : s.Effect g t .missingCache t
  | unread (hr : s.store.read t g.1 = .error e) : s.Effect g t (.failed (.loadCache g.1 e)) t
  | pages (hr : s.store.read t g.1 = .ok (some cached)) (he : OfPages e)
      (hc : Changes (¬ EndsIn ".cache" ·) t t') : s.Effect g t (.failed e) t'
  | spliced (hr : s.store.read t g.1 = .ok (some cached)) (hc : Changes (s.Touched t g.1) t t')
      (hw : t'.read (s.store.path g.1) =
        .ok (Wire.encodeRecord (s.extended g.2 cached.record).catalog.record)) :
      s.Effect g t (.spliced (s.extended g.2 cached.record).added) t'

theorem spliceGroup_effect {s : Site} {g : String × List Item} {σ : Session} (hp : Plain g.1)
    (hσ : σ.tree.Sound) (hcard : s.Carded g.1 σ.tree) :
    ∃ o σ', s.spliceGroup g σ = .ok (g.1, o) σ' ∧ s.Effect g σ.tree o σ'.tree := by
  cases hr : s.store.read σ.tree g.1 with
  | error e =>
    obtain ⟨σ', hrun, ht⟩ := spliceGroup_failed hr g.2
    refine ⟨_, σ', hrun, ?_⟩
    rw [ht]
    exact .unread hr
  | ok found =>
    cases found with
    | none =>
      obtain ⟨σ', hrun, ht⟩ := spliceGroup_missing hr g.2
      refine ⟨_, σ', hrun, ?_⟩
      rw [ht]
      exact .missing hr
    | some cached =>
      obtain ⟨σ₁, hσ₁, hrun⟩ := spliceGroup_read hr g.2
      have hname := (s.name_extended g.2 cached.record).trans (hcard cached hr)
      have hsound : σ₁.tree.Sound := hσ₁ ▸ hσ
      cases hw : s.writeSite (s.extended g.2 cached.record).catalog σ₁ with
      | error e σ₂ =>
        have hc := (s.steady_writeSite (s.extended g.2 cached.record).catalog).changes σ₁ hsound
        rw [hw, final_error, hσ₁] at hc
        rw [publish_error hw] at hrun
        exact ⟨_, _, hrun, .pages hr (s.failsOnPages_writeSite _ _ _ _ hw) hc⟩
      | ok u σ₂ =>
        obtain ⟨b, hread, -⟩ := read_eq_some_iff.1 hr
        rw [← hσ₁] at hread
        have hdir := present_of_read (by simp [hp.isAbsolute_eq]) hread
        obtain ⟨σ₃, hpub⟩ := publish_ok hsound hdir (hname ▸ hread) hw
        obtain ⟨hc, hwritten⟩ := publish_spec hsound hpub
        rw [hσ₁, hname] at hc
        rw [hname] at hwritten
        rw [hpub] at hrun
        exact ⟨_, _, hrun, .spliced hr hc hwritten⟩

section
variable {s : Site} {g : String × List Item} {t t' u u' : Tree}

theorem Effect.workDir (h : s.Effect g t o t') : t'.workDir = t.workDir := by
  cases h with
  | missing => rfl
  | unread => rfl
  | pages _ _ hc => exact hc.workDir
  | spliced _ hc => exact hc.workDir

theorem Effect.sound (h : s.Effect g t o t') (ht : t.Sound) : t'.Sound := by
  cases h with
  | missing => exact ht
  | unread => exact ht
  | pages _ _ hc => exact hc.sound
  | spliced _ hc => exact hc.sound

theorem walk_dir_of_read (hp : Plain library)
    (hr : s.store.read t library = .ok (some cached)) :
    ∃ d, t.walk (t.start s.store.dir) (parts s.store.dir) = .ok d := by
  obtain ⟨b, hread, -⟩ := read_eq_some_iff.1 hr
  obtain ⟨p, hl, -⟩ := read_eq_ok_iff.1 hread
  exact (present_of_locate hp.isAbsolute_eq hl).2

/-- The turn of one library leaves the others alone. -/
theorem Effect.undisturbed (h : s.Effect g t o t') (hp : Plain g.1) (hp' : Plain library)
    (hne : library ≠ g.1) : s.Undisturbed library t t' := by
  have hends := s.store.endsIn_path library t
  cases h with
  | missing => exact .refl t
  | unread => exact .refl t
  | pages hr _ hc =>
    obtain ⟨d, hd⟩ := walk_dir_of_read hp hr
    exact undisturbed_of_changes hp' hc hd fun hn => hn hends
  | spliced hr hc =>
    obtain ⟨d, hd⟩ := walk_dir_of_read hp hr
    refine undisturbed_of_changes hp' hc hd fun htouched => ?_
    exact hne (eq_of_placeOf_plain hp'.1 hp.1 (htouched.resolve_left fun hn => hn hends))

/-- Cache files are written where a library is reported as spliced, and nowhere else. -/
theorem Effect.get?_iff (h : s.Effect g t o t') (hends : EndsIn ".cache" p)
    (hp : ∀ n, o = .spliced n → p ≠ t.placeOf (s.store.path g.1)) :
    t'.get? p = some (.file b) ↔ t.get? p = some (.file b) := by
  cases h with
  | missing => rfl
  | unread => rfl
  | pages _ _ hc => exact hc.same p b fun hn => hn hends
  | spliced _ hc =>
    refine hc.same p b fun htouched => ?_
    exact hp _ rfl (htouched.resolve_left fun hn => hn hends)

theorem Effect.of_error (h : s.Effect g t o t') (hr : s.store.read t g.1 = .error e) :
    o = .failed (.loadCache g.1 e) ∧ t' = t := by
  cases h with
  | unread hr' =>
    rw [hr] at hr'
    cases hr'
    exact ⟨rfl, rfl⟩
  | missing hr' => simp [hr] at hr'
  | pages hr' => simp [hr] at hr'
  | spliced hr' => simp [hr] at hr'

theorem Effect.of_none (h : s.Effect g t o t') (hr : s.store.read t g.1 = .ok none) :
    o = .missingCache ∧ t' = t := by
  cases h with
  | missing => exact ⟨rfl, rfl⟩
  | unread hr' => simp [hr] at hr'
  | pages hr' => simp [hr] at hr'
  | spliced hr' => simp [hr] at hr'

theorem Effect.of_some (h : s.Effect g t o t') (hr : s.store.read t g.1 = .ok (some cached))
    (hpages : ∀ e, o = .failed e → ¬ OfPages e) :
    o = .spliced (s.extended g.2 cached.record).added ∧
      t'.read (s.store.path g.1) =
        .ok (Wire.encodeRecord (s.extended g.2 cached.record).catalog.record) := by
  cases h with
  | missing hr' => simp [hr] at hr'
  | unread hr' => simp [hr] at hr'
  | pages _ he => exact absurd he (hpages _ rfl)
  | spliced hr' _ hw =>
    rw [hr] at hr'
    cases hr'
    exact ⟨rfl, hw⟩

/-- An outcome that is not due to pages goes by the cache file and the items. -/
theorem Effect.agree (h : s.Effect g t o t') (h' : s.Effect g u o' u')
    (hread : t.read (s.store.path g.1) = u.read (s.store.path g.1))
    (hpages : ∀ e, o = .failed e → ¬ OfPages e) (hpages' : ∀ e, o' = .failed e → ¬ OfPages e) :
    o = o' ∧ t'.read (s.store.path g.1) = u'.read (s.store.path g.1) := by
  have hstore := read_congr hread
  cases hr : s.store.read t g.1 with
  | error e =>
    obtain ⟨rfl, rfl⟩ := h.of_error hr
    obtain ⟨rfl, rfl⟩ := h'.of_error (hstore ▸ hr)
    exact ⟨rfl, hread⟩
  | ok found =>
    cases found with
    | none =>
      obtain ⟨rfl, rfl⟩ := h.of_none hr
      obtain ⟨rfl, rfl⟩ := h'.of_none (hstore ▸ hr)
      exact ⟨rfl, hread⟩
    | some cached =>
      obtain ⟨rfl, hw⟩ := h.of_some hr hpages
      obtain ⟨rfl, hw'⟩ := h'.of_some (hstore ▸ hr) hpages'
      exact ⟨rfl, hw.trans hw'.symm⟩

end

-- ---------------------------------------------------------------------------
-- All libraries
-- ---------------------------------------------------------------------------

/-- What a run does to one of its libraries: others come before it and after it, and
neither disturb it. -/
def Isolated (s : Site) (g : String × List Item) (o : Outcome) (t t' : Tree) : Prop :=
  ∃ t₁ t₂, s.Undisturbed g.1 t t₁ ∧ s.Effect g t₁ o t₂ ∧ s.Undisturbed g.1 t₂ t'

/-- Every library has its turn. The tree `t` is the one that the whole run started from. -/
theorem mapM_isolated {s : Site} {gs : List (String × List Item)} {t : Tree} {σ : Session}
    (hσ : σ.tree.Sound) (hnodup : (gs.map (·.1)).Nodup) (hplain : ∀ g ∈ gs, Plain g.1)
    (hstart : ∀ g ∈ gs, s.Undisturbed g.1 t σ.tree) (hcard : ∀ g ∈ gs, s.Carded g.1 t) :
    ∃ rs σ', gs.mapM s.spliceGroup σ = .ok rs σ' ∧
      List.Forall₂ (fun g r => r.1 = g.1 ∧ s.Isolated g r.2 t σ'.tree) gs rs ∧
      (∀ l, Plain l → l ∉ gs.map (·.1) → s.Undisturbed l σ.tree σ'.tree) ∧
      ∀ p, EndsIn ".cache" p →
        (∀ l n, (l, .spliced n) ∈ rs → p ≠ σ.tree.placeOf (s.store.path l)) →
        ∀ b, σ'.tree.get? p = some (.file b) ↔ σ.tree.get? p = some (.file b) := by
  induction gs generalizing σ with
  | nil => exact ⟨[], σ, rfl, .nil, fun _ _ _ => .refl _, fun _ _ _ _ => Iff.rfl⟩
  | cons g gs ih =>
    rw [List.map_cons, List.nodup_cons] at hnodup
    obtain ⟨hg, hgs⟩ := hnodup
    obtain ⟨hpg, hplain⟩ := List.forall_mem_cons.1 hplain
    obtain ⟨hsg, hstart⟩ := List.forall_mem_cons.1 hstart
    obtain ⟨hcg, hcard⟩ := List.forall_mem_cons.1 hcard
    obtain ⟨o, σ₁, hrun, heffect⟩ := spliceGroup_effect hpg hσ (hsg.carded hcg)
    -- the turn leaves the other libraries as they were
    have hother : ∀ l, Plain l → l ≠ g.1 → s.Undisturbed l σ.tree σ₁.tree :=
      fun l hl hne => heffect.undisturbed hpg hl hne
    have hnext : ∀ g' ∈ gs, s.Undisturbed g'.1 t σ₁.tree := by
      intro g' hg'
      have hne : g'.1 ≠ g.1 := fun h => hg (h ▸ List.mem_map_of_mem hg')
      exact (hstart g' hg').trans (hother g'.1 (hplain g' hg') hne)
    obtain ⟨rs, σ₂, hrun', hall, hrest, hfiles⟩ := ih (heffect.sound hσ) hgs hplain hnext hcard
    have hplace : ∀ path, σ₁.tree.placeOf path = σ.tree.placeOf path := fun path => by
      rw [placeOf, placeOf, start, start, heffect.workDir]
    refine ⟨_, σ₂, mapM_cons_ok hrun hrun', .cons ⟨rfl, ?_⟩ hall, fun l hl hnot => ?_,
      fun p hends hp b => ?_⟩
    · exact ⟨σ.tree, σ₁.tree, hsg, heffect, hrest g.1 hpg hg⟩
    · rw [List.map_cons, List.mem_cons, not_or] at hnot
      exact (hother l hl hnot.1).trans (hrest l hl hnot.2)
    · have hlater := hfiles p hends
        (fun l n hmem => hplace _ ▸ hp l n (List.mem_cons_of_mem _ hmem)) b
      refine hlater.trans (heffect.get?_iff hends fun n hn => hp g.1 n ?_)
      rw [hn]
      exact List.mem_cons_self

-- ---------------------------------------------------------------------------
-- Runs
-- ---------------------------------------------------------------------------

/-- What splicing into one library comes to, a failure being an outcome too. -/
def Outcome.of : EStateM.Result Failure Session Outcome → Outcome
  | .ok o _ => o
  | .error e _ => .failed e

theorem splice_eq_of_spliceGroup {s : Site} {σ : Session}
    (h : s.spliceGroup (library, items) σ = .ok (library, o) σ') :
    Outcome.of (s.splice library items σ) = o ∧ (final (s.splice library items σ)).tree = σ'.tree := by
  rw [spliceGroup_eq] at h
  cases hs : s.splice library items σ with
  | ok o' σ₁ =>
    rw [hs] at h
    cases h
    exact ⟨rfl, rfl⟩
  | error e σ₁ =>
    rw [hs] at h
    cases h
    exact ⟨rfl, rfl⟩

/-- The outcome of a library among others, against its outcome alone. -/
theorem Isolated.agree {s : Site} {g : String × List Item} {t t' u u' : Tree}
    (h : s.Isolated g o t t') (h' : s.Effect g u o' u')
    (hread : u.read (s.store.path g.1) = t.read (s.store.path g.1))
    (hpages : ∀ e, o = .failed e → ¬ OfPages e) (hpages' : ∀ e, o' = .failed e → ¬ OfPages e) :
    (o = o' ∨ o' = .missingCache ∧
        o = .failed (.loadCache g.1 (.io (s.store.path g.1) .isDirectory)) ∧
        t'.read (s.store.path g.1) = .error .isDirectory) ∧
      ∀ b, t'.read (s.store.path g.1) = .ok b ↔ u'.read (s.store.path g.1) = .ok b := by
  obtain ⟨t₁, t₂, hbefore, heffect, hafter⟩ := h
  rcases hbefore with hsame | ⟨hmissing, hdir⟩
  · obtain ⟨ho, hbytes⟩ := heffect.agree h' (hsame.trans hread.symm) hpages hpages'
    exact ⟨.inl ho, fun b => hafter.read_ok_iff.trans (by rw [hbytes])⟩
  · -- a directory lies where the library alone has no cache file
    obtain ⟨rfl, rfl⟩ := heffect.of_error (read_eq_error hdir)
    obtain ⟨rfl, rfl⟩ := h'.of_none (read_eq_none_iff.2 (hread.trans hmissing))
    have hdir' : t'.read (s.store.path g.1) = .error .isDirectory := by
      rcases hafter with hsame | ⟨hmissing', -⟩
      · exact hsame.trans hdir
      · rw [hdir] at hmissing'
        cases hmissing'
    refine ⟨.inr ⟨rfl, rfl, hdir'⟩, fun b => ?_⟩
    rw [hdir', hread, hmissing]
    simp

/-- Splicing into one library alone what it gets of a list of items. -/
def alone (s : Site) (items : List Item) (library : String) : Act Outcome :=
  s.splice library (Routing.bound s.links.stdName library items)

/-- What becomes of a library in a run is what becomes of it alone, from any tree with
the same cache file for it, if its pages can be written; only that a directory may come
where it has no cache file. No other cache file is written. -/
theorem resolve_isolated (s : Site) (items : List Item) (σ : Session) (hσ : σ.tree.Sound)
    (hplain : ∀ g ∈ s.groups items, Plain g.1)
    (hcards : ∀ g ∈ s.groups items, ∀ cached, s.store.read σ.tree g.1 = .ok (some cached) →
      cached.record.metadata.name = g.1) :
    ∃ r σ', s.resolve items σ = .ok r σ' ∧
      r.splices.map (·.1) = (s.groups items).map (·.1) ∧
      (∀ l o, (l, o) ∈ r.splices → ∀ τ : Session, τ.tree.Sound →
        τ.tree.read (s.store.path l) = σ.tree.read (s.store.path l) →
        (∀ e, o = .failed e → ¬ OfPages e) →
        (∀ e, Outcome.of (s.alone items l τ) = .failed e → ¬ OfPages e) →
        (o = Outcome.of (s.alone items l τ) ∨ Outcome.of (s.alone items l τ) = .missingCache ∧
          o = .failed (.loadCache l (.io (s.store.path l) .isDirectory)) ∧
          σ'.tree.read (s.store.path l) = .error .isDirectory) ∧
        ∀ b, σ'.tree.read (s.store.path l) = .ok b ↔
          (final (s.alone items l τ)).tree.read (s.store.path l) = .ok b) ∧
      ∀ p, EndsIn ".cache" p →
        (∀ l n, (l, .spliced n) ∈ r.splices → p ≠ σ.tree.placeOf (s.store.path l)) →
        ∀ b, σ'.tree.get? p = some (.file b) ↔ σ.tree.get? p = some (.file b) := by
  obtain ⟨σ₀, ht₀, hrun⟩ := s.resolve_eq items σ
  have hstart : ∀ g ∈ s.groups items, s.Undisturbed g.1 σ.tree σ₀.tree := fun g _ => by
    rw [ht₀]
    exact .refl _
  obtain ⟨rs, σ', hmap, hall, -, hfiles⟩ :=
    mapM_isolated (ht₀ ▸ hσ) (s.nodup_groups items) hplain hstart hcards
  rw [hmap] at hrun
  rw [ht₀] at hfiles
  refine ⟨_, σ', hrun, map_fst_of_forall₂ hall fun _ _ h => h.1, ?_, hfiles⟩
  intro l o hmem τ hτ hread hpages hpages'
  obtain ⟨⟨l', is⟩, hg, hl, hisolated⟩ := exists_of_mem_forall₂ hall hmem
  obtain rfl : l = l' := hl
  have hcard : s.Carded l τ.tree := fun cached hr => hcards _ hg cached (read_congr hread ▸ hr)
  obtain ⟨o', τ', hrun', heffect⟩ := spliceGroup_effect (hplain _ hg) hτ hcard
  obtain ⟨ho', ht'⟩ := splice_eq_of_spliceGroup hrun'
  have halone : s.alone items l = s.splice l is := congrArg (s.splice l) (group_eq_bound hg).symm
  rw [halone, ho'] at hpages' ⊢
  rw [ht']
  exact hisolated.agree heffect hread hpages hpages'

-- ---------------------------------------------------------------------------
-- A page that leads to a cache file
-- ---------------------------------------------------------------------------

/-- An entity whose page lies in a directory of the name of a cache file. -/
def trap : Item := .entity ⟨"a", "f.ql", "../../../../cache/x.cache/p"⟩ {}

def trapLibrary : Catalog := ⟨⟨"a", "1", "a", "d", none⟩, "std", [⟨"f.ql", "f.ql", [trap]⟩], []⟩

/-- A function that extends something in another library. -/
def reaching (name library : String) : Item :=
  .function ⟨"e", "e.ql", name, [], false, false, some "E"⟩
    { on := some ⟨some ⟨.script, library ++ ".E"⟩, none⟩ }

def trapItems : List Item := [reaching "g" "a", reaching "f" "x"]

def trapTree : Tree :=
  ⟨[], [(["cache"], .directory),
    (["cache", "a.cache"], .file (Wire.encodeRecord trapLibrary.record))]⟩

def trapPages : List Page := pagesOf trapLibrary [trap]

theorem trap_groups :
    boxSite.groups trapItems = [("a", [reaching "g" "a"]), ("x", [reaching "f" "x"])] := by cbv

theorem extended_trap :
    (boxSite.extended [reaching "g" "a"] trapLibrary.record).catalog = trapLibrary ∧
      (boxSite.extended [reaching "g" "a"] trapLibrary.record).added = 0 :=
  ⟨by cbv, by cbv⟩

theorem ofLibrary_trap : Page.ofLibrary trapLibrary = trapPages := ofLibrary_of_entities (by cbv)

theorem trap_trees :
    trapTree.read (boxSite.store.path "a") = .ok (Wire.encodeRecord trapLibrary.record) ∧
      trapTree.read (boxSite.store.path "x") = .error .notFound ∧
      isOk (boxSite.publishPages trapLibrary trapPages ⟨trapTree, []⟩) = true ∧
      (boxSite.treeAfter trapLibrary trapPages trapTree).read (boxSite.store.path "x") =
        .error .isDirectory := by
  decide +kernel

/-- The outcome of a library that has a directory for a cache file. -/
def trapped : Outcome := .failed (.loadCache "x" (.io (boxSite.store.path "x") .isDirectory))

def trapSplices : List (String × Outcome) := [("a", .spliced 0), ("x", trapped)]

theorem resolve_trap : ∃ r σ', boxSite.resolve trapItems ⟨trapTree, []⟩ = .ok r σ' ∧
    r.splices = trapSplices := by
  obtain ⟨ha, -, hok, hx⟩ := trap_trees
  obtain ⟨σ₀, ht₀, hrun⟩ := boxSite.resolve_eq trapItems ⟨trapTree, []⟩
  obtain ⟨σ₁, h₁, ht₁⟩ :=
    spliceGroup_published (by decide) ha extended_trap.1 ofLibrary_trap hok ht₀
  rw [← ht₁] at hx
  obtain ⟨σ₂, h₂, -⟩ := spliceGroup_failed (read_eq_error hx) [reaching "f" "x"]
  rw [extended_trap.2] at h₁
  rw [trap_groups, mapM_cons_ok h₁ (mapM_cons_ok h₂ rfl)] at hrun
  exact ⟨_, σ₂, hrun, rfl⟩

theorem alone_missing {s : Site} {σ : Session} (h : s.store.read σ.tree library = .ok none)
    (items : List Item) : Outcome.of (s.alone items library σ) = .missingCache := by
  obtain ⟨σ', hrun, -⟩ := spliceGroup_missing h (Routing.bound s.links.stdName library items)
  exact (splice_eq_of_spliceGroup hrun).1

theorem trap_cards : ∀ g ∈ boxSite.groups trapItems, ∀ cached,
    boxSite.store.read trapTree g.1 = .ok (some cached) → cached.record.metadata.name = g.1 := by
  obtain ⟨ha, hx, -⟩ := trap_trees
  rw [trap_groups]
  simp only [List.mem_cons, List.not_mem_nil, or_false, forall_eq_or_imp, forall_eq]
  refine ⟨fun cached h => ?_, fun cached h => ?_⟩
  · rw [read_of_written (by decide) ha] at h
    cases h
    rfl
  · rw [read_eq_none_iff.2 hx] at h
    cases h

theorem trap_plain : ∀ g ∈ boxSite.groups trapItems, Plain g.1 := by
  rw [trap_groups]
  decide

theorem not_ofPages_trap (h : (l, .failed e) ∈ trapSplices) : ¬ OfPages e := by
  simp only [trapSplices, trapped, List.mem_cons, Prod.mk.injEq, reduceCtorEq, and_false, false_or,
    Outcome.failed.injEq, List.not_mem_nil, or_false] at h
  rw [h.2]
  exact id

/-- Next to the library with the trap, the other one comes out as a library whose cache file is
not there does in a tree with nothing in it, but for the directory. -/
theorem resolve_isolated_trap :
    trapTree.Sound ∧ (⟨[], []⟩ : Tree).Sound ∧
      ∃ r σ', boxSite.resolve trapItems ⟨trapTree, []⟩ = .ok r σ' ∧ r.splices = trapSplices ∧
        Outcome.of (boxSite.alone trapItems "x" ⟨⟨[], []⟩, []⟩) = .missingCache ∧
        (σ'.tree.read (boxSite.store.path "x") = .error .isDirectory) ∧
        ∀ b, σ'.tree.read (boxSite.store.path "x") = .ok b ↔
          (final (boxSite.alone trapItems "x" ⟨⟨[], []⟩, []⟩)).tree.read (boxSite.store.path "x") =
            .ok b := by
  have hsound : trapTree.Sound := sound_of_entries rfl (by decide +kernel)
  have hempty : (⟨[], []⟩ : Tree).Sound := sound_of_entries rfl (by simp)
  have hmissing : (⟨[], []⟩ : Tree).read (boxSite.store.path "x") = .error .notFound := by
    decide +kernel
  have halone := @alone_missing "x" boxSite ⟨⟨[], []⟩, []⟩ (read_eq_none_iff.2 hmissing) trapItems
  obtain ⟨r, σ', hrun, hsplices⟩ := resolve_trap
  obtain ⟨r', σ'', hrun', -, hisolated, -⟩ :=
    resolve_isolated boxSite trapItems ⟨trapTree, []⟩ hsound trap_plain trap_cards
  rw [hrun] at hrun'
  cases hrun'
  have hmem : ("x", trapped) ∈ r.splices := by
    rw [hsplices]
    exact List.mem_cons_of_mem _ List.mem_cons_self
  obtain ⟨ho, hbytes⟩ := hisolated "x" _ hmem ⟨⟨[], []⟩, []⟩ hempty (hmissing.trans trap_trees.2.1.symm)
    (fun e he => not_ofPages_trap (he ▸ hsplices ▸ hmem)) (by simp [halone])
  refine ⟨hsound, hempty, r, σ', hrun, hsplices, halone, ?_, hbytes⟩
  rcases ho with ho | ⟨-, -, hdir⟩
  · rw [halone] at ho
    cases ho
  · exact hdir

/-- A page can lie where the cache file of another library would, and then that library
is not just missing. -/
theorem resolve_trapped :
    trapTree.Sound ∧ (∀ g ∈ boxSite.groups trapItems, Plain g.1) ∧
      (∀ g ∈ boxSite.groups trapItems, ∀ cached,
        boxSite.store.read trapTree g.1 = .ok (some cached) → cached.record.metadata.name = g.1) ∧
      ∃ r σ' o, boxSite.resolve trapItems ⟨trapTree, []⟩ = .ok r σ' ∧
        (∀ l e, (l, .failed e) ∈ r.splices → ¬ OfPages e) ∧ ("x", o) ∈ r.splices ∧
        Outcome.of (boxSite.alone trapItems "x" ⟨trapTree, []⟩) = .missingCache ∧
        o ≠ .missingCache := by
  have hsound : trapTree.Sound := sound_of_entries rfl (by decide +kernel)
  obtain ⟨r, σ', hrun, hsplices⟩ := resolve_trap
  refine ⟨hsound, trap_plain, trap_cards, r, σ', trapped, hrun, ?_, ?_,
    alone_missing (read_eq_none_iff.2 trap_trees.2.1) trapItems, nofun⟩
  · rw [hsplices]
    exact fun l e => not_ofPages_trap
  · rw [hsplices]
    exact List.mem_cons_of_mem _ List.mem_cons_self

end Site

end DocSite
