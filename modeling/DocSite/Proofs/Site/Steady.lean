import DocSite.Proofs.Store
import DocSite.Site

/-!
# Steady actions

Writing pages touches no cache file. It fails for reasons that stay, and what has
once been written can be written again, so doing it a second time after the tree
has grown comes out as it did the first time.
-/

namespace DocSite.Site

open Files Files.Tree

-- ---------------------------------------------------------------------------
-- Events
-- ---------------------------------------------------------------------------

/-- An action that gives a value and leaves the tree alone. -/
def Quiet (a : Act α) (v : α) : Prop := ∀ σ, ∃ σ', a σ = .ok v σ' ∧ σ'.tree = σ.tree

theorem Quiet.pure (v : α) : Quiet (pure v) v := fun σ => ⟨σ, rfl, rfl⟩

theorem Quiet.tell (e : Event) : Quiet (tell e) () := fun _ => ⟨_, rfl, rfl⟩

theorem Quiet.bind {a : Act α} {f : α → Act β} (ha : Quiet a v) (hf : Quiet (f v) w) :
    Quiet (a >>= f) w := by
  intro σ
  obtain ⟨σ₁, h₁, ht₁⟩ := ha σ
  obtain ⟨σ₂, h₂, ht₂⟩ := hf σ₁
  refine ⟨σ₂, ?_, ht₂.trans ht₁⟩
  rw [run_bind, h₁]
  exact h₂

theorem Quiet.forM (events : List α) (e : α → Event) :
    Quiet (events.forM fun x => Site.tell (e x)) () := by
  induction events with
  | nil => exact .pure ()
  | cons x events ih => exact .bind (.tell (e x)) ih

theorem Quiet.classify (s : Site) (r : Record) :
    Quiet (s.classify r) (Catalog.ofRecord s.links.stdName r) := by
  unfold Site.classify
  let e := Catalog.classify s.links.stdName r
  have rest : Quiet (do
      e.skipped.forM fun why => Site.tell (.notAttached r.metadata.name why)
      return e.catalog) e.catalog :=
    .bind (.forM _ _) (.pure _)
  split
  · exact .bind (.tell _) rest
  · exact rest

-- ---------------------------------------------------------------------------
-- Steady actions
-- ---------------------------------------------------------------------------

/-- An action that touches no cache file, and of which a failure and a success are
both for good. -/
structure Steady (a : Act Unit) : Prop where
  changes : ∀ σ, σ.tree.Sound → Changes (¬ EndsIn ".cache" ·) σ.tree (final (a σ)).tree
  stubborn : ∀ {σ e σ' τ}, σ.tree.Sound → a σ = .error e σ' → Grows σ'.tree τ.tree →
    ∃ e' τ', a τ = .error e' τ'
  again : ∀ {σ σ' τ}, σ.tree.Sound → a σ = .ok () σ' → Grows σ'.tree τ.tree →
    ∃ τ', a τ = .ok () τ'

theorem Quiet.steady {a : Act Unit} (h : Quiet a ()) : Steady a where
  changes σ hσ := by
    obtain ⟨σ', h', ht⟩ := h σ
    rw [h', final_ok, ht]
    exact .refl hσ
  stubborn {σ e σ' τ} _ he _ := by
    obtain ⟨σ₁, h₁, -⟩ := h σ
    rw [h₁] at he
    cases he
  again {σ σ' τ} _ _ _ := by
    obtain ⟨τ', h', -⟩ := h τ
    exact ⟨τ', h'⟩

theorem Steady.bind {a b : Act Unit} (ha : Steady a) (hb : Steady b) : Steady (do a; b) where
  changes σ hσ := by
    have hc := ha.changes σ hσ
    rw [run_bind]
    split
    · rename_i σ₁ h
      rw [h] at hc
      exact hc.trans (hb.changes σ₁ hc.sound)
    · rename_i h
      rwa [h] at hc
  stubborn {σ e σ' τ} hσ he hτ := by
    have hc := ha.changes σ hσ
    rw [run_bind] at he ⊢
    split at he
    · rename_i σ₁ h
      rw [h, final_ok] at hc
      have hc' := hb.changes σ₁ hc.sound
      rw [he, final_error] at hc'
      obtain ⟨τ₁, h'⟩ := ha.again hσ h (hc'.grows.trans hτ)
      have hcτ := ha.changes τ hτ.sound
      rw [h', final_ok] at hcτ
      obtain ⟨e', τ', he'⟩ := hb.stubborn hc.sound he (hτ.trans hcτ.grows)
      exact ⟨e', τ', by rw [h']; exact he'⟩
    · rename_i h
      cases he
      obtain ⟨e', τ', h'⟩ := ha.stubborn hσ h hτ
      exact ⟨e', τ', by rw [h']⟩
  again {σ σ' τ} hσ hok hτ := by
    have hc := ha.changes σ hσ
    rw [run_bind] at hok ⊢
    split at hok
    · rename_i σ₁ h
      rw [h, final_ok] at hc
      have hc' := hb.changes σ₁ hc.sound
      rw [hok, final_ok] at hc'
      obtain ⟨τ₁, h'⟩ := ha.again hσ h (hc'.grows.trans hτ)
      have hcτ := ha.changes τ hτ.sound
      rw [h', final_ok] at hcτ
      obtain ⟨τ', hok'⟩ := hb.again hc.sound hok (hτ.trans hcτ.grows)
      exact ⟨τ', by rw [h']; exact hok'⟩
    · cases hok

theorem Steady.forM {xs : List α} {f : α → Act Unit} (h : ∀ x ∈ xs, Steady (f x)) : Steady (xs.forM f) := by
  induction xs with
  | nil => exact (Quiet.pure ()).steady
  | cons x xs ih => exact (h x (by simp)).bind (ih fun y hy => h y (by simp [hy]))

-- ---------------------------------------------------------------------------
-- Pages
-- ---------------------------------------------------------------------------

/-- Writing a file, step by step. -/
theorem writeFile_eq (hp : parent? path = some dir) (text : String) (σ : Session) :
    writeFile path text σ =
      match makeDirs dir σ.tree with
      | .error e t => .error (.makeDir dir e) { σ with tree := t }
      | .ok _ t =>
        match Tree.write path (textBytes text) t with
        | .error e t => .error (.write path e) { σ with tree := t }
        | .ok _ t => .ok () { σ with tree := t } := by
  unfold writeFile
  simp only [hp]
  rw [run_bind]
  unfold change
  cases makeDirs dir σ.tree with
  | error e t => rfl
  | ok v t =>
    simp only
    cases Tree.write path (textBytes text) t <;> rfl

section
variable {path : String} (hseg : segments path = ps ++ [s]) (hn : isName ps s)
include hseg hn

theorem changes_writeFile (text : String) {σ : Session} (hσ : σ.tree.Sound) :
    Changes (· = σ.tree.placeOf path) σ.tree (final (writeFile path text σ)).tree := by
  obtain ⟨root, dir, -, -, hparent, -⟩ := parent?_eq hseg hn
  have hc := changes_makeDirs hσ dir
  rw [writeFile_eq hparent]
  split
  · rename_i hm
    rw [hm] at hc
    exact hc.mono fun _ => False.elim
  · rename_i t hm
    rw [hm, final_ok] at hc
    refine (hc.mono fun _ => False.elim).trans ?_
    have hw := Tree.changes_write hc.sound path (textBytes text)
    rw [← hc.placeOf]
    split
    · rename_i hw'
      rwa [hw'] at hw
    · rename_i hw'
      rwa [hw'] at hw

theorem writeFile_stubborn {text : String} {σ τ : Session} (hσ : σ.tree.Sound)
    (h : writeFile path text σ = .error e σ') (hτ : Grows σ'.tree τ.tree) :
    ∃ e' τ', writeFile path text τ = .error e' τ' := by
  obtain ⟨root, dir, hr, -, hparent, hdir⟩ := parent?_eq hseg hn
  have hs := ne_nil_of_isName hn
  have hpath : path = ofSegments (ps ++ [s]) := by rw [← hseg, ofSegments_segments]
  have hmake : makeDirs dir = makeDirsFrom (above root ps) := by rw [makeDirs, hdir]
  have hc := changes_makeDirs hσ dir
  rw [writeFile_eq hparent] at h ⊢
  split at h
  · rename_i hm
    cases h
    rw [hmake] at hm ⊢
    obtain ⟨e', u, hu⟩ := makeDirsFrom_error hσ hr.front hm hτ
    exact ⟨_, _, by rw [hu]⟩
  · rename_i t hm
    rw [hm, final_ok] at hc
    rw [hmake] at hm
    obtain ⟨d, hd⟩ := makeDirsFrom_ok hσ hr.front hm
    split at h
    · rename_i hw
      cases h
      have hcw := Tree.changes_write hc.sound path (textBytes text)
      rw [hw, final_error] at hcw
      have hcτ := changes_makeDirs hτ.sound dir
      have hl : t.locate path ≠ .error .notFound := hpath ▸ locate_ne_notFound hr hs hd
      split
      · exact ⟨_, _, rfl⟩
      · rename_i hm'
        rw [hm', final_ok] at hcτ
        obtain ⟨e', u, hu⟩ :=
          write_error hw hl (hcw.grows.trans (hτ.trans hcτ.grows)) (textBytes text)
        exact ⟨_, _, by rw [hu]⟩
    · cases h

theorem writeFile_again {text : String} {σ τ : Session} (hσ : σ.tree.Sound)
    (h : writeFile path text σ = .ok () σ') (hτ : Grows σ'.tree τ.tree) :
    ∃ τ', writeFile path text τ = .ok () τ' := by
  obtain ⟨root, dir, hr, -, hparent, hdir⟩ := parent?_eq hseg hn
  have hs := ne_nil_of_isName hn
  have hpath : path = ofSegments (ps ++ [s]) := by rw [← hseg, ofSegments_segments]
  have hc := changes_makeDirs hσ dir
  rw [writeFile_eq hparent] at h ⊢
  split at h
  · cases h
  · rename_i t hm
    rw [hm, final_ok] at hc
    split at h
    · cases h
    · rename_i hw
      cases h
      obtain ⟨b, hread⟩ := hτ.read_ok (read_of_write hc.sound hw)
      obtain ⟨p, hl, hg⟩ := read_eq_ok_iff.1 hread
      -- the directories above the file are there
      have hp := Proper.of_locate hl
      have hl' := hl
      rw [hpath] at hp hl'
      rw [locate_ofSegments hr hs hp] at hl'
      obtain ⟨d, hd, -⟩ := bind_eq_ok.1 hl'
      rw [makeDirs, hdir, makeDirsFrom_of_walk hτ.sound hr.front hp.front hd]
      have hw' : Tree.write path (textBytes text) τ.tree = .ok () _ :=
        write_eq_ok_iff.2 ⟨p, hl, by simp [hg], rfl⟩
      simp only [hw']
      exact ⟨_, rfl⟩

end

/-- A file whose name ends otherwise than that of a cache file is written steadily. -/
theorem steady_writeFile {ending path : String} (hend : ending.toList <:+ path.toList)
    (hslash : '/' ∉ ending.toList) (hlen : 2 < ending.toList.length)
    (hother : ¬ ending.toList <:+ ".cache".toList ∧ ¬ ".cache".toList <:+ ending.toList)
    (text : String) : Steady (writeFile path text) := by
  obtain ⟨ps, s, hseg, -, hn, -⟩ := exists_last_name hend hslash hlen
  refine ⟨fun σ hσ => (changes_writeFile hseg hn text hσ).mono ?_,
    writeFile_stubborn hseg hn, writeFile_again hseg hn⟩
  rintro p rfl
  exact not_endsIn (endsIn_placeOf hend hslash hlen σ.tree) hother.1 hother.2

theorem suffix_path (p : Page) : ".html".toList <:+ p.path.toList := by
  have index : ".html".toList <:+ "index.html".toList := by decide
  have files : ".html".toList <:+ "files.html".toList := by decide
  have named : ∀ name : String, ".html".toList <:+ (name ++ ".html").toList := fun name =>
    ⟨name.toList, by rw [String.toList_append]⟩
  cases p with
  | libraries => exact index
  | index => exact index.trans (suffix_join _ _)
  | files => exact files.trans (suffix_join _ _)
  | entity => exact (named _).trans (suffix_join _ _)
  | source => exact (named _).trans (suffix_join _ _)

theorem steady_writePage (s : Site) (p : Page) : Steady (s.writePage p) :=
  steady_writeFile ((suffix_path p).trans (suffix_join _ _)) (by decide) (by decide) (by decide) _

theorem steady_writePages (s : Site) (c : Catalog) : Steady (s.writePages c) :=
  (Steady.forM fun p _ => s.steady_writePage p).bind (Quiet.tell _).steady

theorem steady_writeSearch (s : Site) (c : Catalog) : Steady (s.writeSearch c) := by
  have index : ".json".toList <:+ "index.json".toList := by decide
  have hend : ".json".toList <:+ (s.searchPath c.name).toList := index.trans (suffix_join _ _)
  exact (steady_writeFile hend (by decide) (by decide) (by decide) _).bind (Quiet.tell _).steady

-- ---------------------------------------------------------------------------
-- Events play no part
-- ---------------------------------------------------------------------------

/-- What the outcome of an action says of the tree. -/
def onTree : EStateM.Result Failure Session Unit → EStateM.Result Failure Tree Unit
  | .ok _ σ => .ok () σ.tree
  | .error e σ => .error e σ.tree

theorem eq_ok_of_onTree {r : EStateM.Result Failure Session Unit} (h : onTree r = .ok () t) :
    ∃ σ, r = .ok () σ ∧ σ.tree = t := by
  cases r with
  | ok u σ => exact ⟨σ, rfl, by cases h; rfl⟩
  | error e σ => cases h

theorem eq_error_of_onTree {r : EStateM.Result Failure Session Unit} (h : onTree r = .error e t) :
    ∃ σ, r = .error e σ ∧ σ.tree = t := by
  cases r with
  | ok u σ => cases h
  | error e' σ =>
    cases h
    exact ⟨σ, rfl, rfl⟩

/-- An action that goes by the tree alone. -/
def Blind (a : Act Unit) : Prop := ∀ σ τ, σ.tree = τ.tree → onTree (a σ) = onTree (a τ)

theorem Quiet.blind {a : Act Unit} (h : Quiet a ()) : Blind a := by
  intro σ τ hστ
  obtain ⟨σ', h', ht⟩ := h σ
  obtain ⟨τ', h'', ht'⟩ := h τ
  rw [h', h'', onTree, onTree, ht, ht', hστ]

theorem Blind.bind {a b : Act Unit} (ha : Blind a) (hb : Blind b) : Blind (do a; b) := by
  intro σ τ hστ
  have h := ha σ τ hστ
  cases hσ : a σ with
  | ok u σ₁ =>
    rw [hσ] at h
    obtain ⟨τ₁, hτ, ht⟩ := eq_ok_of_onTree h.symm
    rw [run_bind_ok hσ, run_bind_ok hτ]
    exact hb σ₁ τ₁ ht.symm
  | error e σ₁ =>
    rw [hσ] at h
    obtain ⟨τ₁, hτ, ht⟩ := eq_error_of_onTree h.symm
    rw [run_bind_error hσ, run_bind_error hτ, onTree, onTree, ht]

theorem Blind.forM {xs : List α} {f : α → Act Unit} (h : ∀ x ∈ xs, Blind (f x)) :
    Blind (xs.forM f) := by
  induction xs with
  | nil => exact (Quiet.pure ()).blind
  | cons x xs ih => exact (h x (by simp)).bind (ih fun y hy => h y (by simp [hy]))

theorem blind_change (why : ε → Failure) (a : EStateM ε Tree Unit) : Blind (change why a) := by
  intro σ τ h
  rw [change, change, h]
  cases a τ.tree <;> rfl

theorem blind_writeFile (path text : String) : Blind (writeFile path text) := by
  unfold writeFile
  split
  · exact (blind_change _ _).bind (blind_change _ _)
  · exact blind_change _ _

theorem blind_writePages (s : Site) (c : Catalog) : Blind (s.writePages c) :=
  (Blind.forM fun _ _ => blind_writeFile _ _).bind (Quiet.tell _).blind

theorem blind_writeSearch (s : Site) (c : Catalog) : Blind (s.writeSearch c) :=
  (blind_writeFile _ _).bind (Quiet.tell _).blind

end DocSite.Site
