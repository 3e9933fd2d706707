import DocSite.Proofs.LibraryRoot
import DocSite.Proofs.Listing
import DocSite.Site

/-!
# The order of directories

A file system lists a directory in an order of its own. Of all that a run does only the list of
libraries goes by this order: every other step comes out the same on the same entries in another
order, and leaves the same entries (`Orderless`). The sources of a library are sorted by their
paths, and no two have the same path (`sourcesBelow_rearranged`).
-/

namespace DocSite

open Files Files.Tree

-- ---------------------------------------------------------------------------
-- Actions on related states
-- ---------------------------------------------------------------------------

/-- Outcomes that agree and leave related states. -/
inductive Agree (R : σ → σ → Prop) : EStateM.Result ε σ α → EStateM.Result ε σ α → Prop
  | ok (v : α) (h : R s s') : Agree R (.ok v s) (.ok v s')
  | error (e : ε) (h : R s s') : Agree R (.error e s) (.error e s')

/-- Actions whose outcomes agree in related states. -/
def Matches (R : σ → σ → Prop) (a b : EStateM ε σ α) : Prop :=
  ∀ s s', R s s' → Agree R (a s) (b s')

section
variable {R : σ → σ → Prop}

theorem Matches.pure (v : α) : Matches R (pure v : EStateM ε σ α) (pure v) := fun _ _ h => .ok v h

theorem Matches.bind {a b : EStateM ε σ α} {f g : α → EStateM ε σ β} (ha : Matches R a b)
    (hf : ∀ v, Matches R (f v) (g v)) : Matches R (a >>= f) (b >>= g) := by
  intro s s' h
  have hagree := ha s s' h
  rw [run_bind, run_bind]
  generalize a s = r, b s' = r' at hagree ⊢
  cases hagree with
  | ok v h => exact hf v _ _ h
  | error e h => exact .error e h

theorem Matches.forM {xs : List α} {f g : α → EStateM ε σ PUnit}
    (h : ∀ x, Matches R (f x) (g x)) : Matches R (xs.forM f) (xs.forM g) := by
  induction xs with
  | nil => exact .pure _
  | cons x xs ih => exact (h x).bind fun _ => ih

theorem Matches.mapM {xs : List α} {f g : α → EStateM ε σ β} (h : ∀ x, Matches R (f x) (g x)) :
    Matches R (xs.mapM f) (xs.mapM g) := by
  induction xs with
  | nil => exact .pure _
  | cons x xs ih =>
    rw [List.mapM_cons, List.mapM_cons]
    exact (h x).bind fun y => ih.bind fun ys => .pure _

theorem Agree.right_ok {r : EStateM.Result ε σ α} (h : Agree R (.ok v s) r) :
    ∃ s', r = .ok v s' ∧ R s s' := by
  cases h with
  | ok _ h => exact ⟨_, rfl, h⟩

theorem Agree.left_ok {r : EStateM.Result ε σ α} (h : Agree R r (.ok v s)) :
    ∃ s', r = .ok v s' ∧ R s' s := by
  cases h with
  | ok _ h => exact ⟨_, rfl, h⟩

end

-- ---------------------------------------------------------------------------
-- Trees
-- ---------------------------------------------------------------------------

namespace Files.Tree

/-- The same entries in another order, and the same at every place. -/
structure Rearranged (t u : Tree) : Prop where
  workDir : u.workDir = t.workDir
  get? : ∀ p, u.get? p = t.get? p
  entries : u.entries.Perm t.entries

theorem Rearranged.refl (t : Tree) : Rearranged t t := ⟨rfl, fun _ => rfl, .refl _⟩

theorem Rearranged.symm (h : Rearranged t u) : Rearranged u t :=
  ⟨h.workDir.symm, fun p => (h.get? p).symm, h.entries.symm⟩

theorem Rearranged.trans (h : Rearranged t u) (h' : Rearranged u v) : Rearranged t v :=
  ⟨h'.workDir.trans h.workDir, fun p => (h'.get? p).trans (h.get? p), h'.entries.trans h.entries⟩

theorem perm_assign {entries entries' : List (Place × Entry)} (h : entries'.Perm entries)
    (hp : entries'.lookup p = entries.lookup p) (e : Entry) :
    (assign p e entries').Perm (assign p e entries) := by
  cases hl : entries.lookup p with
  | none =>
    have hnot : ∀ es : List (Place × Entry), es.lookup p = none → p ∉ es.map (·.1) := by
      intro es hes hm
      obtain ⟨r, hr, rfl⟩ := List.mem_map.1 hm
      simpa using List.lookup_eq_none_iff.1 hes r hr
    rw [assign_of_not_mem (hnot _ (hp.trans hl)), assign_of_not_mem (hnot _ hl)]
    exact h.append_right _
  | some old =>
    -- the first entry at the place is the same one in both lists, and is replaced in both
    have hsplit : ∀ es : List (Place × Entry), es.lookup p = some old →
        ∃ rest, es.Perm ((p, old) :: rest) ∧ (assign p e es).Perm ((p, e) :: rest) := by
      intro es hes
      induction es with
      | nil => cases hes
      | cons r es ih =>
        obtain ⟨q, found⟩ := r
        rw [lookup_cons_if] at hes
        by_cases hq : q = p
        · rw [if_pos hq.symm] at hes
          cases hes
          rw [hq, assign, if_pos rfl]
          exact ⟨es, .refl _, .refl _⟩
        · rw [if_neg (Ne.symm hq)] at hes
          obtain ⟨rest, hes', hassign⟩ := ih hes
          rw [assign, if_neg hq]
          exact ⟨(q, found) :: rest, (hes'.cons _).trans (.swap ..),
            (hassign.cons _).trans (.swap ..)⟩
    obtain ⟨rest, hes, hassign⟩ := hsplit entries hl
    obtain ⟨rest', hes', hassign'⟩ := hsplit entries' (hp.trans hl)
    have hrest : rest'.Perm rest := (hes'.symm.trans (h.trans hes)).cons_inv
    exact hassign'.trans ((hrest.cons _).trans hassign.symm)

section
variable {t u : Tree} (h : Rearranged t u)
include h

theorem Rearranged.reordered : Store.Reordered t u := ⟨h.workDir, h.get?, h.entries.map _⟩

theorem Rearranged.locate (path : String) : u.locate path = t.locate path := h.reordered.locate path

theorem Rearranged.find (path : String) : u.find path = t.find path := h.reordered.find path

theorem Rearranged.read (path : String) : u.read path = t.read path := by
  simp only [Tree.read, h.find]

theorem Rearranged.readText (path : String) : u.readText path = t.readText path := by
  simp only [Tree.readText, h.read]

theorem Rearranged.placeOf (path : String) : u.placeOf path = t.placeOf path := by
  simp only [Tree.placeOf, start, h.workDir]

theorem Rearranged.put (hp : p ≠ []) (e : Entry) : Rearranged (t.put p e) (u.put p e) where
  workDir := h.workDir
  get? q := by
    by_cases hq : q = []
    · simp [hq]
    · rw [get?_put u e hq, get?_put t e hq, h.get?]
  entries := by
    have hlookup := h.get? p
    simp only [Tree.get?, hp, if_false] at hlookup
    exact perm_assign h.entries hlookup e

theorem Rearranged.erase (p : Place) : Rearranged (t.erase p) (u.erase p) where
  workDir := h.workDir
  get? q := by
    by_cases hq : q = []
    · simp [hq]
    · rw [Tree.get?_erase hq, Tree.get?_erase hq, h.get?]
  entries := h.entries.filter _

end

theorem ne_nil_of_get?_eq_none {t : Tree} (h : t.get? p = none) : p ≠ [] := by
  rintro rfl
  cases h

theorem matches_ensureDir (path : String) : Matches Rearranged (ensureDir path) (ensureDir path) := by
  intro t u h
  rw [ensureDir_eq, ensureDir_eq, h.locate]
  cases t.locate path with
  | error e => exact .error e h
  | ok p =>
    simp only [h.get?]
    rcases hg : t.get? p with _ | _ | _
    · exact .ok () (h.put (ne_nil_of_get?_eq_none hg) _)
    · exact .error _ h
    · exact .ok () h

theorem matches_makeDirsFrom (dirs : List String) :
    Matches Rearranged (makeDirsFrom dirs) (makeDirsFrom dirs) := by
  induction dirs with
  | nil => exact .pure ()
  | cons path dirs ih =>
    intro t u h
    by_cases hp : path = ""
    · simp only [makeDirsFrom, hp]
      exact .ok () h
    have hdir := matches_ensureDir path t u h
    have hrest : Matches Rearranged (do makeDirsFrom dirs; ensureDir path : Action Unit)
        (do makeDirsFrom dirs; ensureDir path : Action Unit) :=
      ih.bind fun _ => matches_ensureDir path
    simp only [makeDirsFrom, String.isEmpty_iff, hp, if_false]
    generalize ensureDir path t = r, ensureDir path u = r' at hdir ⊢
    cases hdir with
    | ok v h => exact .ok v h
    | error e h =>
      cases e with
      | notFound => exact hrest _ _ h
      | _ => exact .error _ h

theorem matches_write (path : String) (bytes : List UInt8) :
    Matches Rearranged (Tree.write path bytes) (Tree.write path bytes) := by
  intro t u h
  unfold Tree.write
  rw [h.locate]
  cases t.locate path with
  | error e => exact .error e h
  | ok p =>
    simp only [h.get?]
    rcases hg : t.get? p with _ | b | _
    · exact .ok () (h.put (ne_nil_of_get?_eq_none hg) _)
    · exact .ok () (h.put (ne_nil_of_get?_eq_file hg) _)
    · exact .error _ h

theorem matches_discard (path : String) :
    Matches Rearranged (Store.discard path) (Store.discard path) := by
  intro t u h
  rw [Store.discard_eq, Store.discard_eq, h.locate]
  cases t.locate path with
  | error e => cases e <;> first | exact .ok () h | exact .error _ h
  | ok p =>
    simp only [h.get?]
    rcases t.get? p with _ | _ | _
    · exact .ok () h
    · exact .ok () (h.erase p)
    · exact .error _ h

end Files.Tree

theorem Files.matches_perform (ws : List Write) :
    Matches Rearranged (perform ws) (perform ws) := by
  refine Matches.forM fun w => ?_
  have hwrite := matches_write w.path w.bytes
  refine (matches_makeDirsFrom _).bind fun _ => ?_
  cases w.anew with
  | true => exact (matches_discard _).bind fun _ => hwrite
  | false => exact Matches.bind (.pure ()) fun _ => hwrite

theorem Store.matches_onPath {a : Tree.Action α} (h : Matches Rearranged a a) (path : String) :
    Matches Rearranged (onPath path a) (onPath path a) := by
  intro t u ht
  have hagree := h t u ht
  unfold onPath
  generalize a t = r, a u = r' at hagree ⊢
  cases hagree with
  | ok v h => exact .ok v h
  | error e h => exact .error _ h

theorem Store.matches_write (s : Store) (c : Catalog) : Matches Rearranged (s.write c) (s.write c) :=
  (matches_onPath (matches_makeDirsFrom _) _).bind fun _ =>
    (matches_onPath (matches_discard _) _).bind fun _ =>
      (matches_onPath (Tree.matches_write _ _) _).bind fun _ => .pure _

-- ---------------------------------------------------------------------------
-- Sources
-- ---------------------------------------------------------------------------

namespace LibraryRoot

theorem placeBefore_total (p q : Place) : (placeBefore p q || placeBefore q p) = true := by
  induction p generalizing q with
  | nil => simp [placeBefore]
  | cons a p ih =>
    cases q with
    | nil => simp [placeBefore]
    | cons b q =>
      by_cases hab : a = b
      · simpa [placeBefore, hab] using ih q
      · have hlt : a < b ∨ b < a := by
          by_contra hn
          rw [not_or, String.not_lt, String.not_lt] at hn
          exact hab (String.le_antisymm hn.2 hn.1)
        simpa [placeBefore, hab, Ne.symm hab] using hlt

theorem placeBefore_trans (p q r : Place) (hpq : placeBefore p q = true)
    (hqr : placeBefore q r = true) : placeBefore p r = true := by
  induction p generalizing q r with
  | nil => simp [placeBefore]
  | cons a p ih =>
    obtain _ | ⟨b, q⟩ := q
    · cases hpq
    obtain _ | ⟨c, r⟩ := r
    · cases hqr
    simp only [placeBefore] at hpq hqr ⊢
    split at hpq <;> split at hqr
    · rename_i hab hbc
      rw [if_pos (hab.trans hbc)]
      exact ih q r hpq hqr
    · rename_i hab hbc
      rw [hab, if_neg hbc]
      exact hqr
    · rename_i hab hbc
      rw [← hbc, if_neg hab]
      exact hpq
    · have hac : a < c := String.lt_trans (of_decide_eq_true hpq) (of_decide_eq_true hqr)
      rw [if_neg (String.ne_of_lt hac)]
      exact decide_eq_true hac

theorem placeBefore_antisymm {p q : Place} (hpq : placeBefore p q = true)
    (hqp : placeBefore q p = true) : p = q := by
  induction p generalizing q with
  | nil =>
    cases q with
    | nil => rfl
    | cons b q => cases hqp
  | cons a p ih =>
    obtain _ | ⟨b, q⟩ := q
    · cases hpq
    simp only [placeBefore] at hpq hqp
    split at hpq
    · rename_i hab
      rw [if_pos hab.symm] at hqp
      rw [hab, ih hpq hqp]
    · rename_i hab
      rw [if_neg (Ne.symm hab)] at hqp
      exact absurd (of_decide_eq_true hqp) (String.lt_asymm (of_decide_eq_true hpq))

section
variable {t u : Tree} (h : Rearranged t u)
include h

/-- Sources are sorted, so their order is the same in every arrangement. -/
theorem sourcesBelow_rearranged (dir : String) : sourcesBelow u dir = sourcesBelow t dir := by
  have hfiles : (u.filesBelow dir).Perm (t.filesBelow dir) := by
    unfold filesBelow
    rw [h.locate]
    cases t.locate dir with
    | error e => exact .refl _
    | ok p => exact h.entries.filterMap _
  have hsorted : ∀ t : Tree, (sourcesBelow t dir).Pairwise (placeBefore · · = true) := fun t =>
    List.pairwise_mergeSort placeBefore_trans placeBefore_total _
  refine List.Perm.eq_of_pairwise (fun _ _ _ _ => placeBefore_antisymm) (hsorted u) (hsorted t) ?_
  exact (List.mergeSort_perm _ _).trans ((hfiles.filter _).trans (List.mergeSort_perm _ _).symm)

theorem manifest_rearranged (root : String) : manifest u root = manifest t root := by
  simp only [manifest, h.readText]

theorem sources_rearranged (library root : String) :
    sources u library root = sources t library root := by
  have hsource : ∀ dir found, source u library dir found = source t library dir found := by
    intro dir found
    funext p
    unfold source
    dsimp only
    rw [h.readText]
  have hdir : ∀ dir, u.isDir dir = t.isDir dir := fun dir => by simp only [isDir, h.find]
  unfold sources
  dsimp only
  rw [hdir, sourcesBelow_rearranged h]
  cases searchPath? (join root sourceDir) with
  | none => rfl
  | some found =>
    dsimp only
    rw [hsource]

end

end LibraryRoot

-- ---------------------------------------------------------------------------
-- Runs
-- ---------------------------------------------------------------------------

/-- The same session on rearranged entries. -/
structure Session.Rearranged (σ τ : Session) : Prop where
  tree : Tree.Rearranged σ.tree τ.tree
  events : τ.events = σ.events

namespace Site

/-- An action that does not go by the order of entries. -/
abbrev Orderless (a : Act α) : Prop := Matches Session.Rearranged a a

theorem orderless_tell (e : Event) : Orderless (tell e) :=
  fun _ _ h => .ok () ⟨h.tree, congrArg (· ++ [e]) h.events⟩

theorem orderless_change {ε : Type} {α : Type} (why : ε → Failure) {a : EStateM ε Tree α}
    (h : Matches Tree.Rearranged a a) : Orderless (change why a) := by
  intro σ τ hστ
  have hagree := h σ.tree τ.tree hστ.tree
  unfold change
  generalize a σ.tree = r, a τ.tree = r' at hagree ⊢
  cases hagree with
  | ok v h => exact .ok v ⟨h, hστ.events⟩
  | error e h => exact .error (why e) ⟨h, hστ.events⟩

theorem orderless_look {ε : Type} {α : Type} (why : ε → Failure) {f : Tree → Except ε α}
    (h : ∀ t u, Tree.Rearranged t u → f u = f t) : Orderless (look why f) := by
  intro σ τ hστ
  unfold look
  rw [h _ _ hστ.tree]
  cases f σ.tree with
  | ok v => exact .ok v hστ
  | error e => exact .error (why e) hστ

theorem orderless_attempt {a : Act α} (h : Orderless a) : Orderless (attempt a) := by
  intro σ τ hστ
  have hagree := h σ τ hστ
  unfold attempt
  generalize a σ = r, a τ = r' at hagree ⊢
  cases hagree with
  | ok v h => exact .ok (Except.ok v) h
  | error e h => exact .ok (Except.error e) h

theorem orderless_writeFile (path text : String) : Orderless (writeFile path text) := by
  have hwrite : Orderless (change (.write path) (Tree.write path (textBytes text))) :=
    orderless_change _ (Tree.matches_write _ _)
  unfold writeFile
  cases parent? path with
  | none => exact Matches.bind (.pure ()) fun _ => hwrite
  | some dir => exact (orderless_change _ (matches_makeDirsFrom _)).bind fun _ => hwrite

section
variable (s : Site)

theorem orderless_init : Orderless s.init :=
  (orderless_change _ (matches_makeDirsFrom _)).bind fun _ => orderless_writeFile _ _

theorem orderless_publish (c : Catalog) : Orderless (s.publish c) := by
  have hpages : Orderless (s.writePages c) :=
    (Matches.forM fun _ => orderless_writeFile _ _).bind fun _ => orderless_tell _
  have hsearch : Orderless (s.writeSearch c) :=
    (orderless_writeFile _ _).bind fun _ => orderless_tell _
  have hsave : Orderless (s.saveCache c) :=
    (orderless_change _ (s.store.matches_write c)).bind fun _ => orderless_tell _
  exact hpages.bind fun _ => hsearch.bind fun _ => hsave

theorem orderless_classify (r : Record) : Orderless (s.classify r) := by
  have hskipped : Orderless (do
      (Catalog.classify s.links.stdName r).skipped.forM fun why =>
        tell (.notAttached r.metadata.name why)
      return (Catalog.classify s.links.stdName r).catalog) :=
    (Matches.forM fun _ => orderless_tell _).bind fun _ => .pure _
  unfold classify
  split
  · exact (orderless_tell _).bind fun _ => hskipped
  · exact hskipped

theorem orderless_process (metadata : Metadata) (files : List SourceFile) :
    Orderless (s.process metadata files) :=
  (s.orderless_classify _).bind fun c => (s.orderless_publish c).bind fun _ =>
    (orderless_tell _).bind fun _ => .pure _

theorem orderless_tryRoot (root : String) : Orderless (s.tryRoot root) := by
  have hroot : Orderless (s.processRoot root) :=
    (orderless_look _ fun _ _ h => LibraryRoot.manifest_rearranged h root).bind fun metadata =>
      (orderless_look _ fun _ _ h => LibraryRoot.sources_rearranged h _ root).bind fun files =>
        (s.orderless_process metadata files).bind fun _ => .pure _
  refine (orderless_attempt hroot).bind fun result => ?_
  cases result with
  | ok v => exact Matches.bind (.pure ()) fun _ => .pure _
  | error cause => exact (orderless_tell _).bind fun _ => .pure _

theorem orderless_load? (library : String) : Orderless (s.load? library) := by
  refine (orderless_look _ fun _ _ h => Store.read_congr (h.read _)).bind fun found => ?_
  cases found with
  | none => exact .pure _
  | some cached =>
    exact (orderless_tell _).bind fun _ => (s.orderless_classify _).bind fun _ => .pure _

theorem orderless_splice (library : String) (items : List Item) :
    Orderless (s.splice library items) := by
  refine (s.orderless_load? library).bind fun found => ?_
  cases found with
  | none => exact (orderless_tell _).bind fun _ => .pure _
  | some c =>
    exact (Matches.forM fun _ => orderless_tell _).bind fun _ => (orderless_tell _).bind fun _ =>
      (s.orderless_publish _).bind fun _ => .pure _

theorem orderless_resolve (items : List Item) : Orderless (s.resolve items) := by
  have hgroup : ∀ g, Orderless (s.spliceGroup g) := by
    intro g
    refine (orderless_attempt (s.orderless_splice g.1 g.2)).bind fun outcome => ?_
    cases outcome with
    | ok o => exact .pure _
    | error cause => exact (orderless_tell _).bind fun _ => .pure _
  exact (Matches.forM fun _ => orderless_tell _).bind fun _ =>
    (Matches.mapM hgroup).bind fun _ => .pure _

end

-- ---------------------------------------------------------------------------
-- Orders
-- ---------------------------------------------------------------------------

/-- How a file system orders the entries of a tree. -/
structure Arrangement where
  arrange : Tree → Tree
  rearranged : ∀ t, Tree.Rearranged t (arrange t)

/-- What was made first is listed first. -/
def Arrangement.kept : Arrangement := ⟨id, .refl⟩

@[simp] theorem arrange_kept (t : Tree) : Arrangement.kept.arrange t = t := rfl

theorem lookup_reverse {entries : List (Place × Entry)} (h : (entries.map (·.1)).Nodup)
    (p : Place) : entries.reverse.lookup p = entries.lookup p := by
  induction entries with
  | nil => rfl
  | cons r entries ih =>
    obtain ⟨q, e⟩ := r
    rw [List.map_cons, List.nodup_cons] at h
    rw [List.reverse_cons, List.lookup_append, ih h.2, lookup_cons_if, lookup_cons_if]
    by_cases hp : p = q
    · have hnone : entries.lookup p = none := by
        rw [List.lookup_eq_none_iff]
        intro r hr
        have hne : p ≠ r.1 := fun hpr => h.1 (List.mem_map.2 ⟨r, hr, hpr.symm.trans hp⟩)
        simpa using hne
      rw [hnone, if_pos hp, if_pos hp, Option.none_or]
    · rw [if_neg hp, if_neg hp, List.lookup_nil, Option.or_none]

/-- What was made last is listed first. -/
def Arrangement.reversed : Arrangement where
  arrange t := if t.places.Nodup then { t with entries := t.entries.reverse } else t
  rearranged t := by
    split
    · rename_i hnodup
      refine ⟨rfl, fun p => ?_, t.entries.reverse_perm⟩
      simp only [get?]
      split
      · rfl
      · exact lookup_reverse hnodup p
    · exact .refl t

/-- From here on entries are listed as an arrangement has them. -/
def rearrange (o : Arrangement) : Act Unit := modify fun σ => { σ with tree := o.arrange σ.tree }

theorem run_rearrange (o : Arrangement) (σ : Session) :
    rearrange o σ = .ok () ⟨o.arrange σ.tree, σ.events⟩ := rfl

theorem rearrange_kept : rearrange .kept = pure () := rfl

end Site

end DocSite
