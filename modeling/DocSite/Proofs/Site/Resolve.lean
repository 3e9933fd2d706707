import DocSite.Proofs.Site.Splice
import Mathlib.Data.List.Forall2
import Mathlib.Data.List.Permutation

/-!
# Splicing again

A run that splices items leaves every library it names in a state in which the same
items change nothing more: the second run writes each cache file as it found it
(`resolve_again`). A library that was missed must not be found later, as one with a name that
climbs may be (`resolve_again_climber`).

The argument is by library. After its turn a library is `Done`, and stays so as long as
its cache file is left alone, which all other libraries do.
-/

namespace DocSite.Site

open Files Files.Tree Store

-- ---------------------------------------------------------------------------
-- Trees with the same cache file
-- ---------------------------------------------------------------------------

/-- A tree that has become another one with the same cache file for a library. -/
structure Alike (s : Site) (library : String) (t t' : Tree) : Prop where
  grows : Grows t t'
  same : ∀ b, t'.read (s.store.path library) = .ok b ↔ t.read (s.store.path library) = .ok b

section
variable {s : Site} {t t' t'' : Tree}

theorem Alike.refl (ht : t.Sound) : s.Alike library t t := ⟨.refl ht, fun _ => Iff.rfl⟩

theorem Alike.of_eq (ht : t.Sound) (h : t' = t) : s.Alike library t t' := by
  rw [h]
  exact .refl ht

theorem Alike.trans (h : s.Alike library t t') (h' : s.Alike library t' t'') :
    s.Alike library t t'' :=
  ⟨h.grows.trans h'.grows, fun b => (h'.same b).trans (h.same b)⟩

theorem Alike.read_iff (h : s.Alike library t t') :
    s.store.read t' library = .ok (some cached) ↔ s.store.read t library = .ok (some cached) := by
  simp only [read_eq_some_iff, h.same]

/-- The cache file of a library holds a library of that name. -/
def Carded (s : Site) (library : String) (t : Tree) : Prop :=
  ∀ cached, s.store.read t library = .ok (some cached) → cached.record.metadata.name = library

theorem Carded.of_alike (h : s.Carded library t) (ha : s.Alike library t t') :
    s.Carded library t' :=
  fun cached hr => h cached (ha.read_iff.1 hr)

/-- The name of a library without a cache file does not climb. -/
def Grounded (s : Site) (library : String) (t : Tree) : Prop :=
  s.store.read t library = .ok none → ".." ∉ parts library

theorem Grounded.of_changes (h : s.Grounded library t) (hc : Changes P t t') :
    s.Grounded library t' :=
  fun hr => h (read_eq_none_iff.2 (hc.read_notFound (read_eq_none_iff.1 hr)))

theorem grounded_of_read (h : s.store.read t library = .ok (some cached)) :
    s.Grounded library t := by
  intro hr
  rw [h] at hr
  cases hr

/-- What splicing into a library does: nothing, or a change of a tree that has its
cache file and the store's directory. -/
def Splices (s : Site) (P : Place → Prop) (library : String) (t t' : Tree) : Prop :=
  t' = t ∨ s.store.Present t ∧ (∃ cached, s.store.read t library = .ok (some cached)) ∧
    Changes P t t'

theorem Splices.changes (h : s.Splices P library t t') (ht : t.Sound) : Changes P t t' := by
  rcases h with rfl | ⟨-, -, hc⟩
  · exact .refl ht
  · exact hc

/-- A library whose cache file is not touched has the same one, or still none: of the
cache files that are touched, none is new. -/
theorem Splices.alike (h : s.Splices P library t t') (ht : t.Sound) (hup : s.Grounded other t)
    (hold : ∀ p, P p → EndsIn ".cache" p → p = t.placeOf (s.store.path library))
    (hfree : ∀ b, t.read (s.store.path other) = .ok b →
      ¬ P (t.placeOf (s.store.path other))) : s.Alike other t t' := by
  rcases h with rfl | ⟨⟨-, d, hdir⟩, ⟨cached, hcached⟩, hc⟩
  · exact .refl ht
  refine ⟨hc.grows, fun b => ⟨fun hr => ?_, fun hr => hc.read_same (hfree b hr) hr⟩⟩
  cases hr₁ : t.read (s.store.path other) with
  | ok b₁ =>
    have hsame := hc.read_same (hfree b₁ hr₁) hr₁
    rwa [hr, eq_comm] at hsame
  | error e =>
    -- the file was there before, and so it was found
    by_cases he : e = .notFound
    · subst he
      obtain ⟨b₀, hr₀, -⟩ := read_eq_some_iff.1 hcached
      obtain ⟨p₀, hl₀, hg₀⟩ := read_eq_ok_iff.1 hr₀
      obtain ⟨p, hl, hg⟩ := read_eq_ok_iff.1 hr
      obtain ⟨b₁, hb₁⟩ : ∃ b₁, t.get? p = some (.file b₁) := by
        by_cases hP : P p
        · have hends := s.store.endsIn_path other t'
          rw [← locate_eq_placeOf hl] at hends
          rw [hold p hP hends, ← locate_eq_placeOf hl₀]
          exact ⟨b₀, hg₀⟩
        · exact ⟨b, (hc.same p b hP).1 hg⟩
      have hfound := read_before (hup (read_eq_none_iff.2 hr₁)) ht hc hdir hl hb₁
      rw [hr₁] at hfound
      cases hfound
    · rw [hc.read_error hr₁ he] at hr
      cases hr

/-- Publishing one library leaves the cache files of the others alone. -/
theorem Splices.alike_other (h : s.Splices (s.Touched t library) library t t') (ht : t.Sound)
    (hup : s.Grounded other t) (hne : other ≠ library) (hcard : s.Carded library t)
    (hcard' : s.Carded other t) : s.Alike other t t' := by
  rcases h with rfl | ⟨hd, ⟨cached, hcached⟩, hc⟩
  · exact .refl ht
  refine Splices.alike (.inr ⟨hd, ⟨cached, hcached⟩, hc⟩) ht hup
    (fun p hP hends => hP.resolve_left fun hn => hn hends) fun b hr hP => ?_
  have hplace := hP.resolve_left fun hn => hn (s.store.endsIn_path other t)
  -- one file for two libraries would hold a library of both names
  obtain ⟨b₀, hr₀, hdec, -⟩ := read_eq_some_iff.1 hcached
  obtain ⟨p₀, hl₀, hg₀⟩ := read_eq_ok_iff.1 hr₀
  obtain ⟨p, hl, hg⟩ := read_eq_ok_iff.1 hr
  have hp : p = p₀ := by rw [locate_eq_placeOf hl, locate_eq_placeOf hl₀, hplace]
  have hb : b = b₀ := by
    rw [hp, hg₀] at hg
    cases hg
    rfl
  have hboth := hcard' ⟨cached.record, b.length⟩ (read_eq_some_iff.2 ⟨b, hr, hb ▸ hdec, rfl⟩)
  exact hne (hboth.symm.trans (hcard cached hcached))

/-- What touches no cache file leaves all of them alone. -/
theorem Splices.alike_all (h : s.Splices (¬ EndsIn ".cache" ·) library t t') (ht : t.Sound)
    (hup : s.Grounded other t) : s.Alike other t t' :=
  h.alike ht hup (fun _ hn hends => absurd hends hn)
    fun _ _ hn => hn (s.store.endsIn_path other t)

end

-- ---------------------------------------------------------------------------
-- One library
-- ---------------------------------------------------------------------------

/-- After an outcome, splicing the group again touches no cache file, and attaches
nothing where it did before. -/
def Done (s : Site) (g : String × List Item) (o : Outcome) (t : Tree) : Prop :=
  ∀ σ, s.Alike g.1 t σ.tree → ∃ o' σ', s.spliceGroup g σ = .ok (g.1, o') σ' ∧
    s.Splices (¬ EndsIn ".cache" ·) g.1 σ.tree σ'.tree ∧ ∀ n, o = .spliced n → o' = .spliced 0

theorem Done.of_alike {s : Site} (h : s.Done g o t) (ha : s.Alike g.1 t t') : s.Done g o t' :=
  fun σ hσ => h σ (ha.trans hσ)

/-- What a reported splice says of the cache file before and after. -/
def Reported (s : Site) (g : String × List Item) (o : Outcome) (t t' : Tree) : Prop :=
  ∀ n, o = .spliced n → ∃ cached, s.store.read t g.1 = .ok (some cached) ∧
    n = (s.extended g.2 cached.record).added ∧
    t'.read (s.store.path g.1) =
      .ok (Wire.encodeRecord (s.extended g.2 cached.record).catalog.record)

/-- What the turn of one library does. -/
structure Turn (s : Site) (g : String × List Item) (o : Outcome) (t t' : Tree) : Prop where
  splices : s.Splices (s.Touched t g.1) g.1 t t'
  carded : s.Carded g.1 t'
  done : s.Done g o t'
  reported : s.Reported g o t t'

section
variable {s : Site} {g : String × List Item} {σ : Session}

theorem turn_unread (h : ∀ cached, s.store.read σ.tree g.1 ≠ .ok (some cached)) :
    ∃ o σ', s.spliceGroup g σ = .ok (g.1, o) σ' ∧ s.Turn g o σ.tree σ'.tree := by
  obtain ⟨o, σ', hrun, ht, ho⟩ := spliceGroup_unread h g.2
  refine ⟨o, σ', hrun, .inl ht, ?_, fun τ hτ => ?_, fun n hn => absurd hn (ho n)⟩
  · rw [ht]
    exact fun cached hr => absurd hr (h cached)
  · rw [ht] at hτ
    obtain ⟨o', τ', hrun', ht', -⟩ :=
      spliceGroup_unread (fun cached hr => h cached (hτ.read_iff.1 hr)) g.2
    exact ⟨o', τ', hrun', .inl ht', fun n hn => absurd hn (ho n)⟩

variable {cached : Cached} (hd : s.store.Present σ.tree) (hσ : σ.tree.Sound)
  (hcard : s.Carded g.1 σ.tree) (h : s.store.read σ.tree g.1 = .ok (some cached))
  {σ₁ : Session} (hσ₁ : σ₁.tree = σ.tree)
include hd hσ hcard h hσ₁

/-- If the pages cannot be written, they cannot be written the next time. -/
theorem turn_failed (hw : s.writeSite (s.extended g.2 cached.record).catalog σ₁ = .error e σ₂) :
    s.Turn g (.failed e) σ.tree σ₂.tree := by
  have steady := s.steady_writeSite (s.extended g.2 cached.record).catalog
  have hc := steady.changes σ₁ (hσ₁ ▸ hσ)
  rw [hw, final_error, hσ₁] at hc
  have ha : s.Alike g.1 σ.tree σ₂.tree :=
    Splices.alike_all (.inr ⟨hd, ⟨cached, h⟩, hc⟩) hσ (grounded_of_read h)
  refine ⟨.inr ⟨hd, ⟨cached, h⟩, hc.mono fun _ => .inl⟩, hcard.of_alike ha, fun τ hτ => ?_,
    by simp [Reported]⟩
  have hr : s.store.read τ.tree g.1 = .ok (some cached) := (ha.trans hτ).read_iff.2 h
  obtain ⟨τ₁, hτ₁, hrun⟩ := spliceGroup_read hr g.2
  obtain ⟨e', τ₂, hw'⟩ := steady.stubborn (hσ₁ ▸ hσ) hw (hτ₁ ▸ hτ.grows)
  have hc' := steady.changes τ₁ (hτ₁ ▸ hτ.grows.sound)
  rw [hw', final_error, hτ₁] at hc'
  rw [publish_error hw'] at hrun
  exact ⟨_, _, hrun, .inr ⟨hd.of_changes (ha.trans hτ).grows, ⟨cached, hr⟩, hc'⟩, by simp⟩

/-- Once spliced, the library is written the next time as it is. -/
theorem turn_spliced (hfit : Wire.RecordFits (s.extended g.2 cached.record).catalog.record)
    (hp : s.publish (s.extended g.2 cached.record).catalog σ₁ = .ok () σ₂) :
    s.Turn g (.spliced (s.extended g.2 cached.record).added) σ.tree σ₂.tree := by
  have hname := (s.name_extended g.2 cached.record).trans (hcard cached h)
  obtain ⟨hchange, hread⟩ := publish_spec (hσ₁ ▸ hσ) hp
  obtain ⟨σ', hw, hgrow⟩ := writeSite_of_publish (hσ₁ ▸ hσ) hp
  rw [hσ₁, hname] at hchange
  rw [hname] at hread
  refine ⟨.inr ⟨hd, ⟨cached, h⟩, hchange⟩, fun cached' hr => ?_, fun τ hτ => ?_, fun m hm => ?_⟩
  · rw [read_of_written hfit hread] at hr
    cases hr
    exact hname
  · have hsound := hτ.grows.sound
    have hd' := hd.of_changes (hchange.grows.trans hτ.grows)
    have hread' := (hτ.same _).2 hread
    have hr := read_of_written hfit hread'
    obtain ⟨τ₁, hτ₁, hrun⟩ := spliceGroup_read hr g.2
    obtain ⟨hagain, hadded⟩ := s.extended_again g.2 cached.record
    simp only [hagain, hadded] at hrun
    rw [← hτ₁] at hread' hsound
    -- the pages can be written again, and the cache file is there
    obtain ⟨τ₂, hw'⟩ := (s.steady_writeSite _).again (hσ₁ ▸ hσ) hw (hgrow.trans (hτ₁ ▸ hτ.grows))
    obtain ⟨τ₃, hp'⟩ := publish_ok hsound (hτ₁ ▸ hd') (hname ▸ hread') hw'
    obtain ⟨hchange', hread₃⟩ := publish_spec hsound hp'
    rw [hname] at hchange' hread₃
    have hsame := hchange'.of_read_same hread' hread₃ fun _ => id
    rw [hp'] at hrun
    exact ⟨_, _, hrun, .inr ⟨hd', ⟨_, hr⟩, hτ₁ ▸ hsame⟩, fun _ _ => rfl⟩
  · cases hm
    exact ⟨cached, h, rfl, hread⟩

end

/-- The turn of a library always comes to an outcome. -/
theorem spliceGroup_turn {s : Site} {g : String × List Item} {σ : Session}
    (habs : isAbsolute g.1 = true → s.store.Present σ.tree) (hσ : σ.tree.Sound)
    (hcard : s.Carded g.1 σ.tree)
    (hfit : ∀ cached, s.store.read σ.tree g.1 = .ok (some cached) →
      Wire.RecordFits (s.extended g.2 cached.record).catalog.record) :
    ∃ o σ', s.spliceGroup g σ = .ok (g.1, o) σ' ∧ s.Turn g o σ.tree σ'.tree := by
  by_cases h : ∃ cached, s.store.read σ.tree g.1 = .ok (some cached)
  · obtain ⟨cached, h⟩ := h
    obtain ⟨b, hread, -⟩ := read_eq_some_iff.1 h
    have hd := present_of_read habs hread
    obtain ⟨σ₁, hσ₁, hrun⟩ := spliceGroup_read h g.2
    cases hw : s.writeSite (s.extended g.2 cached.record).catalog σ₁ with
    | error e σ₂ =>
      rw [publish_error hw] at hrun
      exact ⟨_, _, hrun, (turn_failed hd hσ hcard h hσ₁ hw :)⟩
    | ok u σ₂ =>
      have hname := (s.name_extended g.2 cached.record).trans (hcard cached h)
      rw [← hσ₁] at hread
      obtain ⟨σ₃, hp⟩ := publish_ok (hσ₁ ▸ hσ) (hσ₁ ▸ hd) (hname ▸ hread) hw
      rw [hp] at hrun
      exact ⟨_, _, hrun, turn_spliced hd hσ hcard h hσ₁ (hfit cached h) hp⟩
  · exact turn_unread fun cached hr => h ⟨cached, hr⟩

-- ---------------------------------------------------------------------------
-- All libraries
-- ---------------------------------------------------------------------------

theorem Reported.of_alike {s : Site} (h : s.Reported g o t t') (ha : s.Alike g.1 t₀ t)
    (ha' : s.Alike g.1 t' t₁) : s.Reported g o t₀ t₁ := by
  intro n hn
  obtain ⟨cached, hr, hadded, hread⟩ := h n hn
  exact ⟨cached, ha.read_iff.1 hr, hadded, (ha'.same _).2 hread⟩

/-- The first run: every library has its turn, and is done afterwards. The tree `t`
is the one that the whole run started from. -/
theorem mapM_spliceGroup {s : Site} {gs : List (String × List Item)} {t : Tree} {σ : Session}
    (hσ : σ.tree.Sound) (hnodup : (gs.map (·.1)).Nodup)
    (habs : ∀ g ∈ gs, isAbsolute g.1 = true → s.store.Present σ.tree)
    (hup : ∀ g ∈ gs, s.Grounded g.1 t) (hstart : ∀ g ∈ gs, s.Alike g.1 t σ.tree)
    (hcard : ∀ g ∈ gs, s.Carded g.1 t)
    (hfit : ∀ g ∈ gs, ∀ cached, s.store.read t g.1 = .ok (some cached) →
      Wire.RecordFits (s.extended g.2 cached.record).catalog.record) :
    ∃ rs σ', gs.mapM s.spliceGroup σ = .ok rs σ' ∧ Grows σ.tree σ'.tree ∧
      List.Forall₂ (fun g r => r.1 = g.1 ∧ s.Done g r.2 σ'.tree ∧
        s.Reported g r.2 t σ'.tree) gs rs ∧
      ∀ l, s.Grounded l σ.tree → l ∉ gs.map (·.1) → s.Carded l σ.tree →
        s.Alike l σ.tree σ'.tree := by
  induction gs generalizing σ with
  | nil => exact ⟨[], σ, rfl, .refl hσ, .nil, fun _ _ _ _ => .refl hσ⟩
  | cons g gs ih =>
    rw [List.map_cons, List.nodup_cons] at hnodup
    obtain ⟨hg, hgs⟩ := hnodup
    obtain ⟨hag, habs⟩ := List.forall_mem_cons.1 habs
    obtain ⟨hug, hup⟩ := List.forall_mem_cons.1 hup
    obtain ⟨hsg, hstart⟩ := List.forall_mem_cons.1 hstart
    obtain ⟨hcg, hcard⟩ := List.forall_mem_cons.1 hcard
    obtain ⟨hfg, hfit⟩ := List.forall_mem_cons.1 hfit
    have hcg := hcg.of_alike hsg
    obtain ⟨o, σ₁, hrun, hturn⟩ :=
      spliceGroup_turn hag hσ hcg fun cached hr => hfg cached (hsg.read_iff.1 hr)
    have hc := (hturn.splices.changes hσ).grows
    -- the turn leaves the other libraries as they were
    have hother : ∀ l, s.Grounded l σ.tree → l ≠ g.1 → s.Carded l σ.tree →
        s.Alike l σ.tree σ₁.tree :=
      fun l hl hne hc => hturn.splices.alike_other hσ hl hne hcg hc
    have hnext : ∀ g' ∈ gs, s.Alike g'.1 t σ₁.tree := by
      intro g' hg'
      have hne : g'.1 ≠ g.1 := fun h => hg (h ▸ List.mem_map_of_mem hg')
      have hs := hstart g' hg'
      exact hs.trans
        (hother g'.1 ((hup g' hg').of_changes hs.grows) hne ((hcard g' hg').of_alike hs))
    obtain ⟨rs, σ₂, hrun', hc', hall, hrest⟩ := ih hc.sound hgs
      (fun g' hg' ha => (habs g' hg' ha).of_changes hc) hup hnext hcard hfit
    have hstay := hrest g.1 (hug.of_changes (hsg.grows.trans hc)) hg hturn.carded
    refine ⟨_, σ₂, mapM_cons_ok hrun hrun', hc.trans hc', .cons ⟨rfl, ?_, ?_⟩ hall,
      fun l hl hnot hcl => ?_⟩
    · exact hturn.done.of_alike hstay
    · exact hturn.reported.of_alike hsg hstay
    · rw [List.map_cons, List.mem_cons, not_or] at hnot
      have ha := hother l hl hnot.1 hcl
      exact ha.trans (hrest l (hl.of_changes hc) hnot.2 (hcl.of_alike ha))

/-- The second run: no cache file changes, and nothing more is attached. -/
theorem mapM_spliceGroup_done {s : Site} {gs : List (String × List Item)}
    {rs : List (String × Outcome)} {t : Tree} {σ : Session} (hσ : σ.tree.Sound)
    (hup : ∀ g ∈ gs, s.Grounded g.1 t) (hstart : ∀ g ∈ gs, s.Alike g.1 t σ.tree)
    (hdone : List.Forall₂ (fun g r => r.1 = g.1 ∧ s.Done g r.2 t) gs rs) :
    ∃ rs' σ', gs.mapM s.spliceGroup σ = .ok rs' σ' ∧
      Changes (¬ EndsIn ".cache" ·) σ.tree σ'.tree ∧
      List.Forall₂ (fun r r' => r'.1 = r.1 ∧ ∀ n, r.2 = .spliced n → r'.2 = .spliced 0) rs rs' := by
  induction hdone generalizing σ with
  | nil => exact ⟨[], σ, rfl, .refl hσ, .nil⟩
  | @cons g r gs rs hgr _ ih =>
    have hup := (List.forall_mem_cons.1 hup).2
    obtain ⟨hsg, hstart⟩ := List.forall_mem_cons.1 hstart
    obtain ⟨o, σ₁, hrun, hsplices, ho⟩ := hgr.2 σ hsg
    have hc := hsplices.changes hσ
    have hnext : ∀ g' ∈ gs, s.Alike g'.1 t σ₁.tree := by
      intro g' hg'
      have hs := hstart g' hg'
      exact hs.trans (hsplices.alike_all hσ ((hup g' hg').of_changes hs.grows))
    obtain ⟨rs', σ₂, hrun', hc', hall⟩ := ih hc.sound hup hnext
    exact ⟨_, σ₂, mapM_cons_ok hrun hrun', hc.trans hc', .cons ⟨hgr.1.symm, ho⟩ hall⟩

-- ---------------------------------------------------------------------------
-- Runs
-- ---------------------------------------------------------------------------

theorem map_fst_of_forall₂ {R : α × β → α × γ → Prop} (h : List.Forall₂ R as bs)
    (hR : ∀ a b, R a b → b.1 = a.1) : bs.map (·.1) = as.map (·.1) := by
  induction h with
  | nil => rfl
  | cons hab _ ih => rw [List.map_cons, List.map_cons, hR _ _ hab, ih]

theorem exists_of_mem_forall₂ {R : α → β → Prop} (h : List.Forall₂ R as bs) (hb : b ∈ bs) :
    ∃ a ∈ as, R a b := by
  induction h with
  | nil => cases hb
  | @cons a _ _ _ hab _ ih =>
    rcases List.mem_cons.1 hb with rfl | hb
    · exact ⟨a, by simp, hab⟩
    · obtain ⟨a', ha', hR⟩ := ih hb
      exact ⟨a', by simp [ha'], hR⟩

/-- Splicing the same items a second time leaves every cache file as the first time
left it and attaches nothing more. Where the first time attached something, the cache
file holds what was in it with the items attached. -/
theorem resolve_again (s : Site) (items : List Item) (σ : Session) (hσ : σ.tree.Sound)
    (hdown : ∀ g ∈ s.groups items, s.store.read σ.tree g.1 = .ok none → ".." ∉ parts g.1)
    (hdir : ∀ g ∈ s.groups items, isAbsolute g.1 = true → s.store.Present σ.tree)
    (hcards : ∀ g ∈ s.groups items, ∀ cached, s.store.read σ.tree g.1 = .ok (some cached) →
      cached.record.metadata.name = g.1)
    (hfits : ∀ g ∈ s.groups items, ∀ cached, s.store.read σ.tree g.1 = .ok (some cached) →
      Wire.RecordFits (s.extended g.2 cached.record).catalog.record) :
    ∃ r₁ σ₁ r₂ σ₂, s.resolve items σ = .ok r₁ σ₁ ∧ s.resolve items σ₁ = .ok r₂ σ₂ ∧
      (∀ p, EndsIn ".cache" p → ∀ b,
        σ₂.tree.get? p = some (.file b) ↔ σ₁.tree.get? p = some (.file b)) ∧
      r₂.unresolved = r₁.unresolved ∧
      r₁.splices.map (·.1) = (s.groups items).map (·.1) ∧
      r₂.splices.map (·.1) = (s.groups items).map (·.1) ∧
      ∀ l n, (l, .spliced n) ∈ r₁.splices → (l, .spliced 0) ∈ r₂.splices ∧
        ∃ is cached, (l, is) ∈ s.groups items ∧ s.store.read σ.tree l = .ok (some cached) ∧
          n = (s.extended is cached.record).added ∧
          σ₁.tree.read (s.store.path l) =
            .ok (Wire.encodeRecord (s.extended is cached.record).catalog.record) := by
  obtain ⟨σ₀, ht₀, hrun₀⟩ := s.resolve_eq items σ
  obtain ⟨rs, σ₁, hmap, hgrows, hall, -⟩ := mapM_spliceGroup (ht₀ ▸ hσ)
    (s.nodup_groups items) (ht₀ ▸ hdir) hdown (fun _ _ => .of_eq hσ ht₀) hcards hfits
  have hσ₁ := hgrows.sound
  obtain ⟨σ₂, ht₂, hrun₂⟩ := s.resolve_eq items σ₁
  have hdone : List.Forall₂ (fun g r => r.1 = g.1 ∧ s.Done g r.2 σ₁.tree) (s.groups items) rs :=
    hall.imp fun _ _ h => ⟨h.1, h.2.1⟩
  rw [ht₀] at hgrows
  obtain ⟨rs', σ₃, hmap', hc, hall'⟩ := mapM_spliceGroup_done (ht₂ ▸ hσ₁)
    (fun g hg => Grounded.of_changes (hdown g hg) hgrows) (fun _ _ => .of_eq hσ₁ ht₂) hdone
  have hnames : rs.map (·.1) = (s.groups items).map (·.1) := map_fst_of_forall₂ hall fun _ _ h => h.1
  have hnames' : rs'.map (·.1) = rs.map (·.1) := map_fst_of_forall₂ hall' fun _ _ h => h.1
  rw [hmap] at hrun₀
  rw [hmap'] at hrun₂
  refine ⟨_, σ₁, _, σ₃, hrun₀, hrun₂, fun p hp b => ?_, rfl, hnames,
    hnames'.trans hnames, fun l n hmem => ⟨?_, ?_⟩⟩
  · rw [ht₂] at hc
    exact hc.same p b fun hn => hn hp
  · obtain ⟨⟨l', o⟩, hmem', hl, ho⟩ := exists_of_mem_forall₂ hall'.flip hmem
    cases hl
    cases ho n rfl
    exact hmem'
  · obtain ⟨⟨l', is⟩, hmem', hl, -, hreported⟩ := exists_of_mem_forall₂ hall hmem
    cases hl
    obtain ⟨cached, hr, hadded, hread⟩ := hreported n rfl
    exact ⟨is, cached, hmem', hr, hadded, hread⟩

/-- A site with one cached library, and nothing published yet. -/
def boxSite : Site := ⟨⟨"cache"⟩, "site", ⟨"std", none⟩⟩

def boxTree : Tree :=
  ⟨["home"], [(["home"], .directory), (["home", "cache"], .directory),
    (["home", "cache", "boxes.cache"], .file (Wire.encodeRecord Wire.nestedRecord))]⟩

theorem resolve_again_boxes :
    boxTree.Sound ∧
      boxSite.groups [Catalog.wrapped, Catalog.wrapped] =
        [("boxes", [Catalog.wrapped, Catalog.wrapped])] ∧
      ∃ r₁ σ₁ r₂ σ₂,
        boxSite.resolve [Catalog.wrapped, Catalog.wrapped] ⟨boxTree, []⟩ = .ok r₁ σ₁ ∧
        boxSite.resolve [Catalog.wrapped, Catalog.wrapped] σ₁ = .ok r₂ σ₂ ∧
        (∀ p, EndsIn ".cache" p → ∀ b,
          σ₂.tree.get? p = some (.file b) ↔ σ₁.tree.get? p = some (.file b)) ∧
        r₁.splices.map (·.1) = ["boxes"] := by
  have hsound : boxTree.Sound := sound_of_entries rfl (by decide)
  have hgroups : boxSite.groups [Catalog.wrapped, Catalog.wrapped] =
      [("boxes", [Catalog.wrapped, Catalog.wrapped])] := by cbv
  have hread : ∀ cached, boxSite.store.read boxTree "boxes" = .ok (some cached) →
      cached.record = Wire.nestedRecord := by
    intro cached h
    rw [read_of_written (r := Wire.nestedRecord) (by decide) (by rfl)] at h
    cases h
    rfl
  have hfits : Wire.RecordFits
      (boxSite.extended [Catalog.wrapped, Catalog.wrapped] Wire.nestedRecord).catalog.record :=
    by decide +kernel
  obtain ⟨r₁, σ₁, r₂, σ₂, h₁, h₂, hsame, -, hnames, -⟩ := resolve_again boxSite
    [Catalog.wrapped, Catalog.wrapped] ⟨boxTree, []⟩ hsound
    (by
      rw [hgroups]
      simp only [List.forall_mem_singleton]
      exact fun _ => by decide)
    (by
      rw [hgroups]
      simp only [List.forall_mem_singleton]
      exact fun habs => absurd habs (by decide))
    (by
      rw [hgroups]
      simp only [List.forall_mem_singleton]
      intro cached h
      rw [hread cached h]
      rfl)
    (by
      rw [hgroups]
      simp only [List.forall_mem_singleton]
      intro cached h
      rw [hread cached h]
      exact hfits)
  exact ⟨hsound, hgroups, r₁, σ₁, r₂, σ₂, h₁, h₂, hsame, by rw [hnames, hgroups]; rfl⟩

-- ---------------------------------------------------------------------------
-- A name that climbs
-- ---------------------------------------------------------------------------

/-- A name that leads out of a directory, which is there once another library has
been published. -/
def climber : String := "./z/../b"

/-- A site that keeps its cache files next to its pages. -/
def climbSite : Site := ⟨⟨"site/library"⟩, "site", ⟨climber, none⟩⟩

def onInt : Item := .function ⟨"e", "e.ql", "f", [], false, false, some "int"⟩ {}

def onZ : Item :=
  .function ⟨"e", "e.ql", "g", [], false, false, some "E"⟩ { on := some ⟨some ⟨.script, "z.E"⟩, none⟩ }

def intEntity (extensions : List Item) : Item :=
  .entity ⟨climber, climber, "int"⟩ { extensions := extensions }

def libraryOf (name : String) (natives : List Item) : Catalog :=
  ⟨⟨name, "1", "a", "d", none⟩, climber, [], natives⟩

def climbTree : Tree :=
  ⟨[], [(["site"], .directory), (["site", "library"], .directory),
    (["site", "library", "b.cache"], .file (Wire.encodeRecord (libraryOf climber [intEntity []]).record)),
    (["site", "library", "z.cache"], .file (Wire.encodeRecord (libraryOf "z" []).record))]⟩

theorem climb_groups : climbSite.groups [onInt, onZ] = [(climber, [onInt]), ("z", [onZ])] := by cbv

theorem extended_z :
    (climbSite.extended [onZ] (libraryOf "z" []).record).catalog = libraryOf "z" [] := by cbv

theorem extended_climber :
    (climbSite.extended [onInt] (libraryOf climber [intEntity []]).record).catalog =
      libraryOf climber [intEntity [onInt]] := by cbv

def zPages : List Page := pagesOf (libraryOf "z" []) []

def climbPages : List Page :=
  pagesOf (libraryOf climber [intEntity [onInt]]) [intEntity [onInt]]

theorem ofLibrary_z : Page.ofLibrary (libraryOf "z" []) = zPages := ofLibrary_of_entities (by cbv)

theorem ofLibrary_climber :
    Page.ofLibrary (libraryOf climber [intEntity [onInt]]) = climbPages :=
  ofLibrary_of_entities (by cbv)

def climbTree₁ : Tree := climbSite.treeAfter (libraryOf "z" []) zPages climbTree

def climbTree₂ : Tree :=
  climbSite.treeAfter (libraryOf climber [intEntity [onInt]]) climbPages climbTree₁

def climbTree₃ : Tree := climbSite.treeAfter (libraryOf "z" []) zPages climbTree₂

theorem climb_trees :
    climbTree.read (climbSite.store.path climber) = .error .notFound ∧
      climbTree.read (climbSite.store.path "z") =
        .ok (Wire.encodeRecord (libraryOf "z" []).record) ∧
      isOk (climbSite.publishPages (libraryOf "z" []) zPages ⟨climbTree, []⟩) = true ∧
      climbTree₁.read (climbSite.store.path climber) =
        .ok (Wire.encodeRecord (libraryOf climber [intEntity []]).record) ∧
      isOk (climbSite.publishPages (libraryOf climber [intEntity [onInt]]) climbPages
        ⟨climbTree₁, []⟩) = true ∧
      climbTree₂.read (climbSite.store.path "z") =
        .ok (Wire.encodeRecord (libraryOf "z" []).record) ∧
      isOk (climbSite.publishPages (libraryOf "z" []) zPages ⟨climbTree₂, []⟩) = true ∧
      climbTree₁.get? ["site", "library", "b.cache"] =
        some (.file (Wire.encodeRecord (libraryOf climber [intEntity []]).record)) ∧
      climbTree₃.get? ["site", "library", "b.cache"] ≠
        some (.file (Wire.encodeRecord (libraryOf climber [intEntity []]).record)) := by
  decide +kernel

/-- Without the condition on names a second run may find a cache file that the first
one did not, since publishing another library made the directory that its name leads
through. -/
theorem resolve_again_climber :
    climbTree.Sound ∧
      (∀ g ∈ climbSite.groups [onInt, onZ], ∀ cached,
        climbSite.store.read climbTree g.1 = .ok (some cached) →
          cached.record.metadata.name = g.1 ∧
            Wire.RecordFits (climbSite.extended g.2 cached.record).catalog.record) ∧
      ∃ r₁ σ₁ r₂ σ₂ p b, climbSite.resolve [onInt, onZ] ⟨climbTree, []⟩ = .ok r₁ σ₁ ∧
        climbSite.resolve [onInt, onZ] σ₁ = .ok r₂ σ₂ ∧
        EndsIn ".cache" p ∧ σ₁.tree.get? p = some (.file b) ∧
        σ₂.tree.get? p ≠ some (.file b) := by
  obtain ⟨hmissing, hz, hokz, hb, hokb, hz', hokz', hbefore, hafter⟩ := climb_trees
  have hfitz : Wire.RecordFits (libraryOf "z" []).record := by decide
  have hunread : ∀ cached, climbSite.store.read climbTree climber ≠ .ok (some cached) := by
    intro cached h
    obtain ⟨b, hr, -⟩ := read_eq_some_iff.1 h
    rw [hmissing] at hr
    cases hr
  refine ⟨sound_of_entries rfl (by decide +kernel), ?_, ?_⟩
  · rw [climb_groups]
    simp only [List.mem_cons, List.not_mem_nil, or_false, forall_eq_or_imp, forall_eq]
    refine ⟨fun cached h => absurd h (hunread cached), fun cached h => ?_⟩
    rw [read_of_written hfitz hz] at h
    cases h
    refine ⟨rfl, ?_⟩
    rw [extended_z]
    exact hfitz
  -- the first run misses the one library and publishes the other
  obtain ⟨σ₀, ht₀, hrun₀⟩ := climbSite.resolve_eq [onInt, onZ] ⟨climbTree, []⟩
  rw [← show σ₀.tree = climbTree from ht₀] at hunread
  obtain ⟨o, σ₁, h₁, ht₁, -⟩ := spliceGroup_unread hunread [onInt]
  obtain ⟨σ₂, h₂, ht₂⟩ :=
    spliceGroup_published hfitz hz extended_z ofLibrary_z hokz (ht₁.trans ht₀)
  -- the second run finds it
  obtain ⟨τ₀, ht₃, hrun₁⟩ := climbSite.resolve_eq [onInt, onZ] σ₂
  obtain ⟨τ₁, h₃, ht₄⟩ := spliceGroup_published (by decide) hb extended_climber
    ofLibrary_climber hokb (ht₃.trans ht₂)
  obtain ⟨τ₂, h₄, ht₅⟩ := spliceGroup_published hfitz hz' extended_z ofLibrary_z hokz' ht₄
  rw [climb_groups, mapM_cons_ok h₁ (mapM_cons_ok h₂ rfl)] at hrun₀
  rw [climb_groups, mapM_cons_ok h₃ (mapM_cons_ok h₄ rfl)] at hrun₁
  rw [← show σ₂.tree = climbTree₁ from ht₂] at hbefore
  rw [← show τ₂.tree = climbTree₃ from ht₅] at hafter
  exact ⟨_, σ₂, _, τ₂, ["site", "library", "b.cache"], _, hrun₀, hrun₁, ⟨"b.cache", rfl, by decide⟩,
    hbefore, hafter⟩

end DocSite.Site
