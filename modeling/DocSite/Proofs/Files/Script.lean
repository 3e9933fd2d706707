import DocSite.Proofs.Store

/-!
# Scripts of writes

A script is a list of files that are written one after the other, each with the
directories it needs. At a place that a script writes to it leaves the last thing it wrote
there, whatever lay there before (`get?_perform`). Once it has gone through it goes
through again, and no directory is missing then (`perform_again`).

Files that are written anew go to the end of the listing of their tree. Doing this a
second time, in the same order, does not change the listing (`moved_moved`).
-/

namespace DocSite.Files

open Files.Tree

-- ---------------------------------------------------------------------------
-- Listings
-- ---------------------------------------------------------------------------

/-- A name that stands for itself in a path. -/
structure Simple (name : String) : Prop where
  ne_empty : name ≠ ""
  ne_dot : name ≠ "."
  ne_up : name ≠ ".."
  noSlash : '/' ∉ name.toList

theorem of_mem_parts {path : String} (h : name ∈ parts path) : name ≠ "" ∧ '/' ∉ name.toList := by
  simp only [parts, named, List.mem_map, List.mem_filter] at h
  obtain ⟨s, ⟨hs, hne⟩, rfl⟩ := h
  refine ⟨?_, by simpa using not_slash_of_mem_segments hs⟩
  intro h
  rw [← String.toList_eq_nil_iff, String.toList_ofList] at h
  simp [h] at hne

namespace Tree

/-- The places that a tree lists, in order. -/
def places (t : Tree) : List Place := t.entries.map (·.1)

theorem mem_places {t : Tree} (hp : p ≠ []) : p ∈ t.places ↔ t.get? p ≠ none := by
  simp only [get?, hp, ↓reduceIte, ne_eq, List.lookup_eq_none_iff, places, List.mem_map]
  constructor
  · rintro ⟨r, hr, rfl⟩ h
    simpa using h r hr
  · intro h
    by_contra hn
    exact h fun r hr => by simpa using fun hpr => hn ⟨r, hr, hpr.symm⟩

theorem assign_of_not_mem {entries : List (Place × Entry)} (h : p ∉ entries.map (·.1)) :
    assign p e entries = entries ++ [(p, e)] := by
  induction entries with
  | nil => rfl
  | cons r entries ih =>
    rw [List.map_cons, List.mem_cons, not_or] at h
    rw [assign, if_neg (Ne.symm h.1), ih h.2, List.cons_append]

theorem keys_assign_of_mem {entries : List (Place × Entry)} (h : p ∈ entries.map (·.1)) :
    (assign p e entries).map (·.1) = entries.map (·.1) := by
  induction entries with
  | nil => cases h
  | cons r entries ih =>
    rw [List.map_cons, List.mem_cons] at h
    by_cases hr : r.1 = p
    · rw [assign, if_pos hr, List.map_cons, List.map_cons, hr]
    · rw [assign, if_neg hr, List.map_cons, List.map_cons, ih (h.resolve_left (Ne.symm hr))]

theorem places_put (t : Tree) (p : Place) (e : Entry) :
    (t.put p e).places = if p ∈ t.places then t.places else t.places ++ [p] := by
  split
  · rename_i h
    exact keys_assign_of_mem h
  · rename_i h
    rw [places, put, assign_of_not_mem h, List.map_append]
    rfl

theorem Sound.prefix_iff {t : Tree} (ht : t.Sound) (hp : t.get? p = some (.file b))
    (hq : q ∈ t.places) : p.isPrefixOf q ↔ q = p := by
  constructor
  · intro hpq
    obtain ⟨rest, rfl⟩ := List.isPrefixOf_iff_prefix.1 hpq
    by_contra hne
    have hrest : rest ≠ [] := fun hr => hne (by rw [hr, List.append_nil])
    exact (mem_places (by simp [hrest])).1 hq (ht.get?_below_file hp hrest)
  · rintro rfl
    simp

theorem Sound.places_erase {t : Tree} (ht : t.Sound) (hp : t.get? p = some (.file b)) :
    (t.erase p).places = t.places.filter (· ≠ p) := by
  have hmap : (t.erase p).places = t.places.filter fun q => !p.isPrefixOf q := by
    rw [places, erase, places, List.filter_map]
    rfl
  rw [hmap]
  refine List.filter_congr fun q hq => ?_
  have := ht.prefix_iff hp hq
  cases hpq : p.isPrefixOf q <;> simp_all

-- ---------------------------------------------------------------------------
-- New directories
-- ---------------------------------------------------------------------------

/-- A tree with more directories, which come last in its listing. -/
def Adds (t t' : Tree) : Prop :=
  ∃ new : List Place, t' = { t with entries := t.entries ++ new.map (·, .directory) } ∧
    ∀ q ∈ new, t.get? q = none ∧ ∃ dir name, q = dir ++ [name] ∧ Simple name

theorem Adds.refl (t : Tree) : Adds t t := ⟨[], by simp, by simp⟩

theorem get?_append {t : Tree} (h : t.get? q = none) (new : List (Place × Entry)) :
    ({ t with entries := t.entries ++ new } : Tree).get? q = new.lookup q := by
  unfold get? at h ⊢
  split
  · rename_i hq
    rw [if_pos hq] at h
    cases h
  · rename_i hq
    rw [if_neg hq] at h
    rw [List.lookup_append, h, Option.none_or]

theorem get?_append_of_some {t : Tree} (h : t.get? q = some e) (new : List (Place × Entry)) :
    ({ t with entries := t.entries ++ new } : Tree).get? q = some e := by
  unfold get? at h ⊢
  split
  · rename_i hq
    rwa [if_pos hq] at h
  · rename_i hq
    rw [if_neg hq] at h
    rw [List.lookup_append, h, Option.some_or]

theorem Adds.trans {t t' t'' : Tree} (h : Adds t t') (h' : Adds t' t'') : Adds t t'' := by
  obtain ⟨new, rfl, hnew⟩ := h
  obtain ⟨new', rfl, hnew'⟩ := h'
  refine ⟨new ++ new', by simp, fun q hq => ?_⟩
  rcases List.mem_append.1 hq with hq | hq
  · exact hnew q hq
  · obtain ⟨hnone, hname⟩ := hnew' q hq
    refine ⟨?_, hname⟩
    cases hg : t.get? q with
    | none => rfl
    | some e =>
      rw [get?_append_of_some hg] at hnone
      cases hnone

/-- Where nothing lies yet, a path ends with a name of its own. -/
theorem Sound.simple_of_locate {t : Tree} (ht : t.Sound) (hl : t.locate path = .ok p)
    (hp : t.get? p = none) : ∃ dir name, p = dir ++ [name] ∧ Simple name := by
  obtain ⟨-, ⟨-, -, rfl⟩ | ⟨names, name, dir, hn, hw, hr⟩⟩ := locate_eq_ok_iff.1 hl
  · cases hp
  have hdir := ht.walk_dir (ht.start_dir path) hw
  obtain ⟨hne, hslash⟩ := of_mem_parts (show name ∈ parts path by simp [hn])
  have hnext := reach_eq_ok hr
  unfold next at hnext
  split at hnext
  · rw [hnext, hdir] at hp
    cases hp
  · split at hnext
    · rw [hnext, ht.parent _ _ hdir] at hp
      cases hp
    · exact ⟨dir, name, hnext, hne, by assumption, by assumption, hslash⟩

theorem adds_ensureDir {t : Tree} (ht : t.Sound) (path : String) :
    Adds t (final (ensureDir path t)) := by
  rw [ensureDir_eq]
  split
  · exact .refl t
  · rename_i p hl
    split
    · rename_i hg
      obtain ⟨dir, name, rfl, hname⟩ := ht.simple_of_locate hl hg
      have hp : dir ++ [name] ∉ t.places := fun hm => (mem_places (by simp)).1 hm hg
      refine ⟨[dir ++ [name]], ?_, fun q hq => ?_⟩
      · rw [final_ok, put, assign_of_not_mem hp]
        rfl
      · rw [List.mem_singleton] at hq
        exact hq ▸ ⟨hg, dir, name, rfl, hname⟩
    · exact .refl t
    · exact .refl t

theorem adds_makeDirsFrom {t : Tree} (ht : t.Sound) (dirs : List String) :
    Adds t (final (makeDirsFrom dirs t)) := by
  induction dirs generalizing t with
  | nil => exact .refl t
  | cons path dirs ih =>
    by_cases hp : path = ""
    · simp only [makeDirsFrom, hp]
      exact .refl t
    rw [makeDirsFrom_cons hp]
    split
    · rename_i t₁ he
      obtain ⟨rfl, -⟩ := ensureDir_error he
      have ha := ih ht
      have hc := changes_makeDirsFrom ht dirs
      split
      · rename_i t₂ hm
        rw [hm] at ha hc
        exact ha.trans (adds_ensureDir hc.sound path)
      · rename_i hm
        rwa [hm] at ha
    · exact adds_ensureDir ht path

/-- Once directories have been made, their names lead there. -/
theorem walk_of_makeDirs {t : Tree} (ht : t.Sound) (h : makeDirs path t = .ok u t') :
    Proper path ∧ ∃ d, t'.walk (t'.start path) (parts path) = .ok d := by
  by_cases hne : path = ""
  · subst hne
    exact ⟨⟨by simp, by decide⟩, _, rfl⟩
  obtain ⟨dirs, hdirs⟩ : ∃ dirs, ancestors path = path :: dirs := by
    unfold ancestors
    split <;> exact ⟨_, rfl⟩
  -- in the end the directory itself was made
  obtain ⟨t₁, ht₁, hlast⟩ : ∃ t₁ : Tree, t₁.Sound ∧ ensureDir path t₁ = .ok u t' := by
    rw [makeDirs, hdirs, makeDirsFrom_cons hne] at h
    split at h
    · rename_i t₁ he
      obtain ⟨rfl, -⟩ := ensureDir_error he
      have hc := changes_makeDirsFrom ht dirs
      split at h
      · rename_i hm
        rw [hm, final_ok] at hc
        exact ⟨_, hc.sound, h⟩
      · cases h
    · exact ⟨t, ht, h⟩
  have hc := changes_ensureDir ht₁ path
  rw [hlast, final_ok] at hc
  obtain ⟨p, hl, hg⟩ := ensureDir_ok ht₁ hlast
  refine ⟨Proper.of_locate hl, p, ?_⟩
  obtain ⟨-, ⟨hn, ha, rfl⟩ | ⟨names, name, dir, hn, hw, hr⟩⟩ := locate_eq_ok_iff.1 hl
  · rw [hn, start, if_pos ha]
    rfl
  · have hdir := hc.sound.walk_dir (hc.sound.start_dir path) hw
    rw [hn]
    exact walk_append_eq_ok.2 ⟨dir, hw, (walk_singleton_iff hc.sound hdir).2 ⟨hr, hg⟩⟩

end Tree

-- ---------------------------------------------------------------------------
-- One write
-- ---------------------------------------------------------------------------

/-- A file to be written, with the directory that is made for it. -/
structure Write where
  dir : String
  path : String
  bytes : List UInt8
  /-- Whether a file that is there is removed first. -/
  anew : Bool

def Write.run (w : Write) : Tree.Action Unit := do
  makeDirs w.dir
  if w.anew then Store.discard w.path
  Tree.write w.path w.bytes

/-- The steps of a write. The old file is removed, or it is overwritten. -/
theorem Write.run_eq_ok {w : Write} {t : Tree} (h : w.run t = .ok u t') :
    ∃ t₁ p, makeDirs w.dir t = .ok () t₁ ∧ t₁.locate w.path = .ok p ∧
      t₁.get? p ≠ some .directory ∧
      ((w.anew = true ∧ (∃ b, t₁.get? p = some (.file b)) ∧
          t' = (t₁.erase p).put p (.file w.bytes)) ∨
        ((w.anew = true → t₁.get? p = none) ∧ t' = t₁.put p (.file w.bytes))) := by
  obtain ⟨_, t₁, hm, hrest⟩ := run_bind_eq_ok h
  by_cases ha : w.anew = true
  · rw [if_pos ha] at hrest
    obtain ⟨_, t₂, hd, hw⟩ := run_bind_eq_ok hrest
    obtain ⟨p, hl, hg, rfl⟩ := write_eq_ok_iff.1 hw
    rcases Store.discard_ok hd with rfl | ⟨q, b, hl', hg', rfl⟩
    · refine ⟨t₂, p, hm, hl, hg, ?_⟩
      cases hp : t₂.get? p with
      | none => exact .inr ⟨fun _ => rfl, rfl⟩
      | some e =>
        cases e with
        | directory => exact absurd hp hg
        | file b =>
          rw [Store.discard_file hl hp] at hd
          injection hd with _ herase
          exact .inl ⟨ha, ⟨b, rfl⟩, by rw [herase]⟩
    · have hpq : p = q := by
        rw [locate_eq_placeOf hl, locate_eq_placeOf hl']
        rfl
      exact ⟨t₁, q, hm, hl', by simp [hg'], .inl ⟨ha, ⟨b, hg'⟩, by rw [hpq]⟩⟩
  · rw [if_neg ha] at hrest
    obtain ⟨p, hl, hg, rfl⟩ := write_eq_ok_iff.1 hrest
    exact ⟨t₁, p, hm, hl, hg, .inr ⟨fun h => absurd h ha, rfl⟩⟩

theorem get?_of_read {t : Tree} (h : t.read path = .ok b) :
    t.get? (t.placeOf path) = some (.file b) := by
  obtain ⟨p, hl, hg⟩ := read_eq_ok_iff.1 h
  rwa [← locate_eq_placeOf hl]

section
variable {w : Write} {t t' u : Tree} (ht : t.Sound)
include ht

/-- After its directory has been made, a write touches its own place, and its bytes are there
in the end. -/
theorem Write.run_steps (h : w.run t = .ok v t') :
    ∃ t₁, makeDirs w.dir t = .ok () t₁ ∧ Changes (fun _ => False) t t₁ ∧
      Changes (· = t.placeOf w.path) t₁ t' ∧ t'.read w.path = .ok w.bytes := by
  obtain ⟨_, t₁, hm, hrest⟩ := run_bind_eq_ok h
  have hc := changes_makeDirs ht w.dir
  rw [hm, final_ok] at hc
  refine ⟨t₁, hm, hc, ?_⟩
  rw [← hc.placeOf]
  by_cases ha : w.anew = true
  · rw [if_pos ha] at hrest
    obtain ⟨_, t₂, hd, hw⟩ := run_bind_eq_ok hrest
    have hreplace := Store.changes_replace hc.sound hd w.bytes
    rw [show Tree.write w.path w.bytes t₂ = _ from hw] at hreplace
    exact ⟨hreplace, Store.read_replace hc.sound hd hw⟩
  · rw [if_neg ha] at hrest
    have hwrite := changes_write hc.sound w.path w.bytes
    rw [show Tree.write w.path w.bytes t₁ = _ from hrest] at hwrite
    exact ⟨hwrite, read_of_write hc.sound hrest⟩

theorem Write.changes (h : w.run t = .ok v t') : Changes (· = t.placeOf w.path) t t' := by
  obtain ⟨t₁, -, hc, hc', -⟩ := Write.run_steps ht h
  exact (hc.mono fun _ => False.elim).trans hc'

theorem Write.get?_run (h : w.run t = .ok v t') :
    t'.get? (t.placeOf w.path) = some (.file w.bytes) := by
  obtain ⟨-, -, -, -, hr⟩ := Write.run_steps ht h
  rw [← (Write.changes ht h).placeOf]
  exact get?_of_read hr

/-- The directory that is made for a file is there afterwards. -/
theorem Write.walk_dir (h : w.run t = .ok v t') :
    Proper w.dir ∧ ∃ d, t'.walk (t'.start w.dir) (parts w.dir) = .ok d := by
  obtain ⟨t₁, hm, -, hc, -⟩ := Write.run_steps ht h
  obtain ⟨hp, d, hd⟩ := walk_of_makeDirs ht hm
  rw [← hc.start] at hd
  exact ⟨hp, d, hc.walk_ok hd⟩

/-- Where no directory has to be made, a write makes none. -/
theorem Write.dir_of_run (hm : makeDirs w.dir t = .ok () t) (h : w.run t = .ok v t')
    (hq : t'.get? q = some .directory) : t.get? q = some .directory := by
  obtain ⟨t₁, p, hm', -, -, hrest⟩ := Write.run_eq_ok h
  rw [hm] at hm'
  cases hm'
  by_cases hq0 : q = []
  · simp [hq0]
  obtain ⟨-, ⟨b, hb⟩, rfl⟩ | ⟨-, rfl⟩ := hrest
  · rw [get?_put _ _ hq0, ht.get?_erase hb] at hq
    split at hq
    · cases hq
    · exact hq
  · rw [get?_put _ _ hq0] at hq
    split at hq
    · cases hq
    · exact hq

/-- A file that has been written is written again without another directory. -/
theorem Write.run_again (h : w.run t = .ok v t') (hu : Grows t' u) :
    ∃ u', w.run u = .ok () u' ∧ ∀ q, u'.get? q = some .directory → u.get? q = some .directory := by
  obtain ⟨hproper, d, hd⟩ := Write.walk_dir ht h
  rw [← hu.start] at hd
  have hm := makeDirs_of_walk hu.sound hproper (hu.walk_ok hd)
  obtain ⟨-, -, -, -, hr⟩ := Write.run_steps ht h
  obtain ⟨b, hr'⟩ := hu.read_ok hr
  obtain ⟨p, hl, hg⟩ := read_eq_ok_iff.1 hr'
  obtain ⟨u', hrun⟩ : ∃ u', w.run u = .ok () u' := by
    rw [Write.run, run_bind_ok hm]
    by_cases ha : w.anew = true
    · obtain ⟨u', hw, -, -⟩ := Store.write_erase hu.sound hl hg w.bytes
      rw [if_pos ha]
      exact ⟨u', (run_bind_ok (Store.discard_file hl hg)).trans hw⟩
    · rw [if_neg ha]
      exact ⟨_, write_eq_ok_iff.2 ⟨p, hl, by simp [hg], rfl⟩⟩
  exact ⟨u', hrun, fun q => Write.dir_of_run hu.sound hm hrun⟩

end

-- ---------------------------------------------------------------------------
-- Many writes
-- ---------------------------------------------------------------------------

def perform (ws : List Write) : Tree.Action Unit := ws.forM Write.run

theorem perform_cons_eq_ok {t : Tree} (h : perform (w :: ws) t = .ok v t') :
    ∃ t₁, w.run t = .ok () t₁ ∧ perform ws t₁ = .ok () t' := by
  obtain ⟨_, t₁, hw, hws⟩ := run_bind_eq_ok h
  exact ⟨t₁, hw, hws⟩

theorem perform_append {ws vs : List Write} {t : Tree} :
    perform (ws ++ vs) t = .ok () t' ↔
      ∃ t₁, perform ws t = .ok () t₁ ∧ perform vs t₁ = .ok () t' := by
  have happend : perform (ws ++ vs) = perform ws >>= fun _ => perform vs := List.forM_append
  rw [happend]
  constructor
  · intro h
    obtain ⟨_, t₁, hws, hvs⟩ := run_bind_eq_ok h
    exact ⟨t₁, hws, hvs⟩
  · rintro ⟨t₁, hws, hvs⟩
    exact (run_bind_ok hws).trans hvs

/-- The places that a script writes to. -/
def Targets (t : Tree) (ws : List Write) (p : Place) : Prop := ∃ w ∈ ws, p = t.placeOf w.path

theorem targets_append {t : Tree} : Targets t (ws ++ vs) p ↔ Targets t ws p ∨ Targets t vs p := by
  simp [Targets, or_and_right, exists_or]

theorem Tree.Changes.targets {t t' : Tree} (hc : Changes P t t') (ws : List Write) :
    Targets t' ws = Targets t ws := by
  funext p
  simp only [Targets, hc.placeOf]

section
variable {ws : List Write} {t t' u u' : Tree} (ht : t.Sound)
include ht

theorem changes_perform (h : perform ws t = .ok v t') : Changes (Targets t ws) t t' := by
  induction ws generalizing t with
  | nil =>
    cases h
    exact .refl ht
  | cons w ws ih =>
    obtain ⟨t₁, hw, hws⟩ := perform_cons_eq_ok h
    have hc := Write.changes ht hw
    have hc' := ih hc.sound hws
    rw [hc.targets] at hc'
    refine (hc.mono ?_).trans (hc'.mono ?_)
    · rintro p rfl
      exact ⟨w, by simp, rfl⟩
    · rintro p ⟨w', hw', rfl⟩
      exact ⟨w', by simp [hw'], rfl⟩

theorem perform_again (h : perform ws t = .ok v t') (hu : Grows t' u) :
    ∃ u', perform ws u = .ok () u' ∧
      ∀ q, u'.get? q = some .directory → u.get? q = some .directory := by
  induction ws generalizing t u with
  | nil => exact ⟨u, rfl, fun _ => id⟩
  | cons w ws ih =>
    obtain ⟨t₁, hw, hws⟩ := perform_cons_eq_ok h
    have hc := Write.changes ht hw
    have hgrow := (changes_perform hc.sound hws).grows.trans hu
    obtain ⟨u₁, hw', hdirs⟩ := Write.run_again ht hw hgrow
    have hc' := Write.changes hu.sound hw'
    obtain ⟨u₂, hws', hdirs'⟩ := ih hc.sound hws (hu.trans hc'.grows)
    exact ⟨u₂, (run_bind_ok hw').trans hws', fun q hq => hdirs q (hdirs' q hq)⟩

/-- What a script leaves where it writes does not depend on what lay there. -/
theorem get?_perform (hu : u.Sound) (hwork : u.workDir = t.workDir) (h : perform ws t = .ok v t')
    (h' : perform ws u = .ok v' u') (hp : Targets t ws p) : u'.get? p = t'.get? p := by
  induction ws generalizing t u with
  | nil =>
    obtain ⟨w, hw, -⟩ := hp
    cases hw
  | cons w ws ih =>
    obtain ⟨t₁, hw, hws⟩ := perform_cons_eq_ok h
    obtain ⟨u₁, hw', hws'⟩ := perform_cons_eq_ok h'
    have hc := Write.changes ht hw
    have hc' := Write.changes hu hw'
    by_cases hlater : Targets t ws p
    · refine ih hc.sound hc'.sound ?_ hws hws' (hc.targets ws ▸ hlater)
      rw [hc'.workDir, hc.workDir, hwork]
    · -- the head wrote there, and nothing after it did
      have hplace : ∀ path, u.placeOf path = t.placeOf path := fun path => by
        rw [placeOf, placeOf, start, start, hwork]
      obtain ⟨w', hmem, rfl⟩ := hp
      obtain rfl : w' = w := by
        refine (List.mem_cons.1 hmem).resolve_right fun hm => hlater ⟨w', hm, rfl⟩
      have htargets : Targets u ws = Targets t ws := by
        funext p
        simp only [Targets, hplace]
      have hleft := (changes_perform hc.sound hws).same _ w'.bytes (hc.targets ws ▸ hlater)
      have hright := (changes_perform hc'.sound hws').same _ w'.bytes
        (hc'.targets ws ▸ htargets ▸ hlater)
      rw [hleft.2 (Write.get?_run ht hw), hright.2 (hplace _ ▸ Write.get?_run hu hw')]

end

/-- The last of a list that has a property. -/
theorem exists_last {p : α → Prop} {xs : List α} (h : ∃ x ∈ xs, p x) :
    ∃ pre x post, xs = pre ++ x :: post ∧ p x ∧ ∀ y ∈ post, ¬ p y := by
  induction xs with
  | nil => simp at h
  | cons x xs ih =>
    by_cases hxs : ∃ y ∈ xs, p y
    · obtain ⟨pre, y, post, rfl, hy, hpost⟩ := ih hxs
      exact ⟨x :: pre, y, post, rfl, hy, hpost⟩
    · obtain ⟨y, hy, hpy⟩ := h
      obtain rfl : y = x := (List.mem_cons.1 hy).resolve_right fun hm => hxs ⟨y, hm, hpy⟩
      exact ⟨[], y, xs, rfl, hpy, fun z hz hpz => hxs ⟨z, hz, hpz⟩⟩

/-- A file holds what was written to it last. -/
theorem read_perform {t : Tree} (ht : t.Sound) (h : perform (vs ++ w :: us) t = .ok v t')
    (hlast : ∀ u ∈ us, t.placeOf u.path ≠ t.placeOf w.path) : t'.read w.path = .ok w.bytes := by
  obtain ⟨t₁, hvs, hrest⟩ := perform_append.1 h
  obtain ⟨t₂, hw, hus⟩ := perform_cons_eq_ok hrest
  have hc₁ := changes_perform ht hvs
  have hc₂ := Write.changes hc₁.sound hw
  obtain ⟨-, -, -, -, hread⟩ := Write.run_steps hc₁.sound hw
  refine (changes_perform hc₂.sound hus).read_same ?_ hread
  rintro ⟨u, hu, hplace⟩
  rw [hc₂.placeOf, hc₂.placeOf, hc₁.placeOf, hc₁.placeOf] at hplace
  exact hlast u hu hplace.symm

-- ---------------------------------------------------------------------------
-- Names in directories
-- ---------------------------------------------------------------------------

theorem join_of_absolute (h : isAbsolute path = true) (base : String) : join base path = path := by
  rw [join, h, Bool.true_or, if_pos rfl]

theorem simple_append {name ending : String} (hname : '/' ∉ name.toList)
    (hslash : '/' ∉ ending.toList) (hlen : 2 < ending.toList.length) : Simple (name ++ ending) := by
  have hlong : 2 < (name ++ ending).toList.length := by
    rw [String.toList_append, List.length_append]
    omega
  refine ⟨fun h => ?_, fun h => ?_, fun h => ?_, ?_⟩
  · simp [h] at hlong
  · simp [h] at hlong
  · simp [h] at hlong
  · rw [String.toList_append, List.mem_append]
    exact not_or.2 ⟨hname, hslash⟩

section
variable {name : String} (hname : Simple name) (t : Tree)
include hname

theorem placeOf_append (habs : isAbsolute path = isAbsolute dir)
    (hparts : parts path = parts dir ++ [name]) : t.placeOf path = t.placeOf dir ++ [name] := by
  rw [placeOf, placeOf, hparts, start, habs, ← start, List.foldl_append, List.foldl_cons,
    List.foldl_nil, next, if_neg hname.ne_dot, if_neg hname.ne_up]

theorem parts_simple : parts name = [name] :=
  parts_of_not_slash hname.noSlash fun h => hname.ne_empty (String.toList_eq_nil_iff.1 h)

theorem parts_join_simple (dir : String) : parts (join dir name) = parts dir ++ [name] := by
  rw [parts_join (isAbsolute_of_not_slash hname.noSlash), parts_simple hname]

theorem placeOf_join (dir : String) : t.placeOf (join dir name) = t.placeOf dir ++ [name] :=
  placeOf_append hname t (isAbsolute_join (isAbsolute_of_not_slash hname.noSlash) dir)
    (parts_join_simple hname dir)

/-- A name in a directory that is given from another one. -/
theorem placeOf_join_join (base path : String) :
    t.placeOf (join base (join path name)) = t.placeOf (join base path) ++ [name] := by
  have habs := isAbsolute_join (isAbsolute_of_not_slash hname.noSlash) path
  have hparts := parts_join_simple hname path
  cases hpath : isAbsolute path with
  | true =>
    rw [hpath] at habs
    rw [join_of_absolute habs, join_of_absolute hpath]
    exact placeOf_append hname t (by rw [habs, hpath]) hparts
  | false =>
    rw [hpath] at habs
    refine placeOf_append hname t ?_ ?_
    · rw [isAbsolute_join habs, isAbsolute_join hpath]
    · rw [parts_join habs, parts_join hpath, hparts, List.append_assoc]

end

theorem reach_simple (hname : Simple name) :
    reach dir name = .ok p ↔ name.utf8ByteSize ≤ 255 ∧ p = dir ++ [name] := by
  have hdots : ¬ (name = "." ∨ name = "..") := by simp [hname.ne_dot, hname.ne_up]
  rw [reach, if_neg hdots, next, if_neg hname.ne_dot, if_neg hname.ne_up]
  split
  · simp
    omega
  · simp only [Except.ok.injEq]
    rw [eq_comm, and_iff_right (by omega)]

/-- A name in a directory that is there. -/
theorem locate_join {t : Tree} (hw : t.walk (t.start dir) (parts dir) = .ok d)
    (hname : Simple name) :
    t.locate (join dir name) = .ok p ↔
      Proper (join dir name) ∧ name.utf8ByteSize ≤ 255 ∧ p = d ++ [name] := by
  have hstart : t.start (join dir name) = t.start dir := by
    rw [start, start, isAbsolute_join (isAbsolute_of_not_slash hname.noSlash)]
  rw [locate_eq_ok_iff, parts_join_simple hname, hstart, ← reach_simple hname]
  refine and_congr_right fun _ => ⟨?_, fun hr => .inr ⟨_, _, d, rfl, hw, hr⟩⟩
  rintro (⟨hnil, -⟩ | ⟨names, name', dir', hn, hw', hr⟩)
  · simp at hnil
  · obtain ⟨rfl, rfl⟩ : parts dir = names ∧ name = name' := by simpa using hn
    rw [hw] at hw'
    cases hw'
    exact hr

/-- A path that ends in a text such as an extension leads to a name of its own. -/
theorem simple_of_ending {t : Tree} {ending path : String} (h : ending.toList <:+ path.toList)
    (hslash : '/' ∉ ending.toList) (hlen : 2 < ending.toList.length)
    (hl : t.locate path = .ok (d ++ [name])) : Simple name ∧ name.utf8ByteSize ≤ 255 := by
  obtain ⟨ps, s, hsegments, -, hn, hdot, hup⟩ := exists_last_name h hslash hlen
  have hparts : parts path = named ps ++ [String.ofList s] := by
    rw [parts, hsegments, named_append, named_singleton (ne_nil_of_isName hn)]
  have hmem : String.ofList s ∈ parts path := by simp [hparts]
  have hsimple : Simple (String.ofList s) :=
    ⟨(of_mem_parts hmem).1, hdot, hup, (of_mem_parts hmem).2⟩
  obtain ⟨-, ⟨hnil, -⟩ | ⟨names, last, dir, hsplit, -, hr⟩⟩ := locate_eq_ok_iff.1 hl
  · simp [hparts] at hnil
  · obtain ⟨-, rfl⟩ : named ps = names ∧ String.ofList s = last := by
      rw [hparts] at hsplit
      simpa using hsplit
    obtain ⟨hsize, hplace⟩ := (reach_simple hsimple).1 hr
    obtain ⟨-, rfl⟩ : d = dir ∧ name = String.ofList s := by simpa using hplace
    exact ⟨hsimple, hsize⟩

-- ---------------------------------------------------------------------------
-- The listing after a script
-- ---------------------------------------------------------------------------

/-- A listing after some of its places have gone to the end, one after the other. -/
def moved (ps l : List Place) : List Place := ps.foldl (fun l p => l.filter (· ≠ p) ++ [p]) l

theorem moved_eq (ps l : List Place) : moved ps l = l.filter (· ∉ ps) ++ moved ps [] := by
  induction ps generalizing l with
  | nil =>
    rw [moved, moved, List.foldl_nil, List.foldl_nil, List.append_nil]
    exact (List.filter_eq_self.2 (by simp)).symm
  | cons p ps ih =>
    have hcons : ∀ l, moved (p :: ps) l = moved ps (l.filter (· ≠ p) ++ [p]) := fun _ => rfl
    rw [hcons, hcons, ih, ih (_ ++ [p])]
    simp only [List.filter_append, List.filter_filter, List.filter_nil, List.nil_append,
      List.append_assoc]
    congr 2
    funext q
    rw [Bool.eq_iff_iff]
    simp [not_or, and_comm]

theorem mem_of_mem_moved (h : p ∈ moved ps []) : p ∈ ps := by
  induction ps using List.reverseRecOn with
  | nil => cases h
  | append_singleton ps q ih =>
    rw [moved, List.foldl_append, List.foldl_cons, List.foldl_nil, List.mem_append,
      List.mem_filter] at h
    rcases h with ⟨h, -⟩ | h
    · exact List.mem_append_left _ (ih h)
    · exact List.mem_append_right _ h

theorem nodup_moved (ps : List Place) : (moved ps []).Nodup := by
  induction ps using List.reverseRecOn with
  | nil => exact List.nodup_nil
  | append_singleton ps p ih =>
    rw [moved, List.foldl_append, List.foldl_cons, List.foldl_nil, ← moved]
    refine List.nodup_append.2 ⟨ih.filter _, by simp, fun a ha b hb => ?_⟩
    rw [List.mem_singleton] at hb
    simpa [hb] using (List.mem_filter.1 ha).2

theorem moved_moved (ps l : List Place) : moved ps (moved ps l) = moved ps l := by
  rw [moved_eq ps (moved ps l), moved_eq ps l, List.filter_append, List.filter_filter]
  have hnone : (moved ps []).filter (· ∉ ps) = [] := by
    rw [List.filter_eq_nil_iff]
    intro p hp
    simp [mem_of_mem_moved hp]
  rw [hnone, List.append_nil]
  simp only [Bool.and_self]

theorem Tree.lookup_dirs {new : List Place} (h : q ∈ new) :
    (new.map (·, Entry.directory)).lookup q = some .directory := by
  induction new with
  | nil => cases h
  | cons p new ih =>
    rw [List.map_cons, lookup_cons_if]
    split
    · rfl
    · rename_i hne
      exact ih ((List.mem_cons.1 h).resolve_left hne)

theorem Tree.Adds.filter_places {t t' : Tree} (h : Adds t t') {shown : Place → Bool}
    (hshown : ∀ dir name, Simple name → t'.get? (dir ++ [name]) = some .directory →
      shown (dir ++ [name]) = false) : t'.places.filter shown = t.places.filter shown := by
  obtain ⟨new, rfl, hnew⟩ := h
  have hlist : ({ t with entries := t.entries ++ new.map (·, Entry.directory) } : Tree).places =
      t.places ++ new := by
    simp [places, Function.comp_def]
  have hnone : new.filter shown = [] := by
    rw [List.filter_eq_nil_iff]
    intro q hq
    obtain ⟨hnone, dir, name, rfl, hname⟩ := hnew q hq
    rw [hshown dir name hname (by rw [get?_append hnone, lookup_dirs hq])]
    exact Bool.false_ne_true
  rw [hlist, List.filter_append, hnone, List.append_nil]

/-- The places of the files that a script writes anew, as far as they are shown. -/
def renewed (shown : Place → Bool) (t : Tree) (ws : List Write) : List Place :=
  ((ws.filter (·.anew)).map (t.placeOf ·.path)).filter shown

/-- A file that is written anew comes last. -/
theorem Write.places_anew {w : Write} {t : Tree} (ht : t.Sound) (ha : w.anew = true)
    (hm : makeDirs w.dir t = .ok () t₁) (h : w.run t = .ok v t') :
    t'.places = t₁.places.filter (· ≠ t.placeOf w.path) ++ [t.placeOf w.path] := by
  obtain ⟨t₂, p, hm', hl, hg, hrest⟩ := Write.run_eq_ok h
  rw [hm] at hm'
  cases hm'
  have hc := changes_makeDirs ht w.dir
  rw [hm, final_ok] at hc
  rw [← hc.placeOf, ← locate_eq_placeOf hl]
  have hp : p ≠ [] := by
    rintro rfl
    exact hg rfl
  obtain ⟨-, ⟨b, hb⟩, rfl⟩ | ⟨hnone, rfl⟩ := hrest
  · rw [places_put, hc.sound.places_erase hb, if_neg (by simp)]
  · have hmem : p ∉ t₁.places := fun hm => (mem_places hp).1 hm (hnone ha)
    rw [places_put, if_neg hmem, List.filter_eq_self.2]
    intro q hq
    simp only [ne_eq, decide_eq_true_eq]
    rintro rfl
    exact hmem hq

theorem Write.filter_places_over {w : Write} {t : Tree} (ht : t.Sound) (ha : w.anew = false)
    (hm : makeDirs w.dir t = .ok () t₁) (h : w.run t = .ok v t')
    (hold : shown (t.placeOf w.path) = false) :
    t'.places.filter shown = t₁.places.filter shown := by
  obtain ⟨t₂, p, hm', hl, -, hrest⟩ := Write.run_eq_ok h
  rw [hm] at hm'
  cases hm'
  have hc := changes_makeDirs ht w.dir
  rw [hm, final_ok] at hc
  rw [← hc.placeOf, ← locate_eq_placeOf hl] at hold
  obtain ⟨ha', -⟩ | ⟨-, rfl⟩ := hrest
  · rw [ha] at ha'
    cases ha'
  · rw [places_put]
    split
    · rfl
    · simp [List.filter_append, hold]

section
variable {shown : Place → Bool} {t t' : Tree} (ht : t.Sound)
include ht

/-- Of what is shown of a listing, a write changes no more than that a file which is written anew
comes last. -/
theorem Write.filter_places {w : Write} (h : w.run t = .ok v t')
    (hdirs : ∀ dir name, Simple name → t'.get? (dir ++ [name]) = some .directory →
      shown (dir ++ [name]) = false)
    (hold : w.anew = false → shown (t.placeOf w.path) = false) :
    t'.places.filter shown = moved (renewed shown t [w]) (t.places.filter shown) := by
  obtain ⟨t₁, hm, -, hc, -⟩ := Write.run_steps ht h
  have hadds := adds_makeDirsFrom ht (ancestors w.dir)
  rw [show makeDirsFrom (ancestors w.dir) t = _ from hm, final_ok] at hadds
  have hmade : t₁.places.filter shown = t.places.filter shown :=
    hadds.filter_places fun dir name hname hdir => hdirs dir name hname (hc.dirs _ hdir)
  cases ha : w.anew with
  | false =>
    rw [Write.filter_places_over ht ha hm h (hold ha), hmade]
    simp [renewed, ha, moved]
  | true =>
    rw [Write.places_anew ht ha hm h, ← hmade]
    by_cases hs : shown (t.placeOf w.path) = true
    · simp [renewed, ha, moved, hs, List.filter_filter, Bool.and_comm]
    · have hfree : ∀ q, (shown q && decide (q ≠ t.placeOf w.path)) = shown q := by
        intro q
        by_cases hq : q = t.placeOf w.path
        · simp [hq, hs]
        · simp [hq]
      rw [List.filter_append, List.filter_filter]
      simp only [hfree]
      simp [renewed, ha, moved, hs]

theorem filter_places_perform {ws : List Write} (h : perform ws t = .ok v t')
    (hdirs : ∀ dir name, Simple name → t'.get? (dir ++ [name]) = some .directory →
      shown (dir ++ [name]) = false)
    (hold : ∀ w ∈ ws, w.anew = false → shown (t.placeOf w.path) = false) :
    t'.places.filter shown = moved (renewed shown t ws) (t.places.filter shown) := by
  induction ws generalizing t with
  | nil =>
    cases h
    rfl
  | cons w ws ih =>
    obtain ⟨t₁, hw, hws⟩ := perform_cons_eq_ok h
    obtain ⟨holdw, hold⟩ := List.forall_mem_cons.1 hold
    have hc := Write.changes ht hw
    have hc' := changes_perform hc.sound hws
    have hsame : renewed shown t₁ ws = renewed shown t ws := by
      simp only [renewed, hc.placeOf]
    rw [ih hc.sound hws (by simpa only [hc.placeOf] using hold), hsame,
      Write.filter_places ht hw (fun dir name hname hdir => hdirs dir name hname (hc'.dirs _ hdir))
        holdw, moved, moved, ← List.foldl_append, moved]
    congr 1
    rw [renewed, renewed, renewed, ← List.filter_append, ← List.map_append, ← List.filter_append]
    rfl

end

-- ---------------------------------------------------------------------------
-- Files that a script leaves alone
-- ---------------------------------------------------------------------------

section
variable {keep : Place × Entry → Bool} (hdir : ∀ q, keep (q, .directory) = false)

theorem Tree.filter_assign (hp : ∀ e, keep (p, e) = false) (e : Entry)
    (entries : List (Place × Entry)) :
    (assign p e entries).filter keep = entries.filter keep := by
  induction entries with
  | nil => simp [assign, hp]
  | cons r entries ih =>
    obtain ⟨q, old⟩ := r
    by_cases hq : q = p
    · simp [assign, hq, hp]
    · rw [assign, if_neg hq, List.filter_cons, List.filter_cons, ih]

theorem Tree.Sound.filter_erase {t : Tree} (ht : t.Sound) (hp : ∀ e, keep (p, e) = false)
    (hg : t.get? p = some (.file b)) : (t.erase p).entries.filter keep = t.entries.filter keep := by
  rw [erase, List.filter_filter]
  refine List.filter_congr fun r hr => ?_
  have hmem : r.1 ∈ t.places := List.mem_map_of_mem hr
  have hprefix := ht.prefix_iff hg hmem
  cases hpr : p.isPrefixOf r.1 with
  | false => simp [hpr]
  | true =>
    have hkeep : keep r = false := by
      obtain ⟨q, e⟩ := r
      rw [show q = p from hprefix.1 hpr, hp]
    simp [hkeep]

include hdir

theorem Tree.Adds.filter_entries {t t' : Tree} (h : Adds t t') :
    t'.entries.filter keep = t.entries.filter keep := by
  obtain ⟨new, rfl, -⟩ := h
  rw [List.filter_append, (List.filter_eq_nil_iff (l := new.map _)).2, List.append_nil]
  intro r hr
  obtain ⟨q, -, rfl⟩ := List.mem_map.1 hr
  simp [hdir]

theorem Write.filter_entries {w : Write} {t : Tree} (ht : t.Sound) (h : w.run t = .ok v t')
    (hp : ∀ e, keep (t.placeOf w.path, e) = false) :
    t'.entries.filter keep = t.entries.filter keep := by
  obtain ⟨t₁, p, hm, hl, -, hrest⟩ := Write.run_eq_ok h
  have hc := changes_makeDirs ht w.dir
  rw [hm, final_ok] at hc
  have hadds := adds_makeDirsFrom ht (ancestors w.dir)
  rw [show makeDirsFrom (ancestors w.dir) t = _ from hm, final_ok] at hadds
  rw [← hc.placeOf, ← locate_eq_placeOf hl] at hp
  rw [← hadds.filter_entries hdir]
  obtain ⟨-, ⟨b, hb⟩, rfl⟩ | ⟨-, rfl⟩ := hrest
  · exact (filter_assign hp _ _).trans (hc.sound.filter_erase hp hb)
  · exact filter_assign hp _ _

/-- Files that a script does not write to stay listed as they were. -/
theorem filter_entries_perform {ws : List Write} {t : Tree} (ht : t.Sound)
    (h : perform ws t = .ok v t') (hp : ∀ w ∈ ws, ∀ e, keep (t.placeOf w.path, e) = false) :
    t'.entries.filter keep = t.entries.filter keep := by
  induction ws generalizing t with
  | nil =>
    cases h
    rfl
  | cons w ws ih =>
    obtain ⟨t₁, hw, hws⟩ := perform_cons_eq_ok h
    obtain ⟨hpw, hp⟩ := List.forall_mem_cons.1 hp
    have hc := Write.changes ht hw
    rw [ih hc.sound hws (by simpa only [hc.placeOf] using hp), Write.filter_entries hdir ht hw hpw]

end

end DocSite.Files
