import DocSite.Proofs.Catalog.Extensions
import DocSite.Proofs.Catalog.Reload
import Mathlib.Data.List.Basic
import Mathlib.Data.List.Permutation
import Mathlib.Data.Prod.Lex
import Mathlib.Data.String.Basic

/-!
# Views

The views of a catalog divide its items among themselves: whatever is declared in a file,
constructors apart, and whatever is built in stands in one view, once, in the order of
that view. A name leads to the first entity that has it. All this is so however often the
catalog is extended (`arranged_of_built`), and the views keep to their places.
-/

namespace DocSite

/-- The order of places: files one after another, then what is built in. -/
def Ref.Before : Ref → Ref → Prop
  | .declared f n, .declared g m => f < g ∨ f = g ∧ n < m
  | .declared _ _, .native _ => True
  | .native _, .declared _ _ => False
  | .native n, .native m => n < m

theorem Ref.not_before_self (r : Ref) : ¬ r.Before r := by
  cases r with
  | declared f n => simp [Before]
  | native n => simp [Before]

namespace Catalog

inductive View where
  | entities
  | functions
  | fields
  | extensions
  deriving DecidableEq, Repr

def view (c : Catalog) : View → List (Ref × Item)
  | .entities => c.entities
  | .functions => c.functions
  | .fields => c.fields
  | .extensions => c.extensions

/-- The places of a view's entries, in order. -/
def refs (c : Catalog) (v : View) : List Ref := (c.view v).map (·.1)

/-- The view that shows an item. A constructor of a file is in none. -/
def viewOf : Ref → Item → Option View
  | .native _, _ => some .entities
  | .declared _ _, .entity _ _ => some .entities
  | .declared _ _, .constructor _ _ => none
  | .declared _ _, .field _ _ => some .fields
  | .declared _ _, .function f _ =>
    some (if f.on = none ∨ f.on = some "" then .functions else .extensions)

/-- In the order of a key, and in the order of places where the keys are equal. -/
def Ordered [LT κ] (key : Item → κ) (entries : List (Ref × Item)) : Prop :=
  entries.Pairwise fun a b => key a.2 < key b.2 ∨ key a.2 = key b.2 ∧ a.1.Before b.1

-- ---------------------------------------------------------------------------
-- Items and their places
-- ---------------------------------------------------------------------------

theorem pairwise_zipIdx (l : List α) (n : Nat) : (l.zipIdx n).Pairwise fun a b => a.2 < b.2 := by
  induction l generalizing n with
  | nil => exact .nil
  | cons x l ih =>
    exact .cons (fun b hb => List.le_snd_of_mem_zipIdx hb) (ih (n + 1))

theorem before_declared (c : Catalog) : c.declared.Pairwise fun a b => a.1.Before b.1 := by
  refine List.pairwise_flatMap.2 ⟨fun file _ => ?_, (pairwise_zipIdx c.files 0).imp ?_⟩
  · exact List.pairwise_map.2 ((pairwise_zipIdx _ 0).imp fun h => .inr ⟨rfl, h⟩)
  · intro file other hlt a ha b hb
    obtain ⟨_, -, rfl⟩ := List.mem_map.1 ha
    obtain ⟨_, -, rfl⟩ := List.mem_map.1 hb
    exact .inl hlt

theorem before_all (c : Catalog) : (c.declared ++ c.builtIn).Pairwise fun a b => a.1.Before b.1 := by
  refine List.pairwise_append.2 ⟨before_declared c, ?_, fun a ha b hb => ?_⟩
  · exact List.pairwise_map.2 ((pairwise_zipIdx c.natives 0).imp id)
  · obtain ⟨-, f, n, ha⟩ := mem_declared.1 ha
    obtain ⟨-, m, hb⟩ := mem_builtIn.1 hb
    rw [ha, hb]
    exact trivial

theorem pair_sublist_or {l : List α} (ha : a ∈ l) (hb : b ∈ l) (hne : a ≠ b) :
    [a, b].Sublist l ∨ [b, a].Sublist l := by
  induction l with
  | nil => cases ha
  | cons x l ih =>
    rcases List.mem_cons.1 ha with rfl | hal
    · have hbl := (List.mem_cons.1 hb).resolve_left hne.symm
      exact .inl ((List.singleton_sublist.2 hbl).cons_cons a)
    · rcases List.mem_cons.1 hb with rfl | hbl
      · exact .inr ((List.singleton_sublist.2 hal).cons_cons b)
      · exact (ih hal hbl).imp (.cons x) (.cons x)

/-- Sorting keeps entries with equal keys in the order of their places. -/
theorem ordered_mergeSort [LinearOrder κ] {key : Item → κ} {le : Ref × Item → Ref × Item → Bool}
    (hle : ∀ a b, le a b = true ↔ key a.2 ≤ key b.2) {entries : List (Ref × Item)}
    (h : entries.Pairwise fun a b => a.1.Before b.1) : Ordered key (entries.mergeSort le) := by
  have htrans : ∀ a b c, le a b = true → le b c = true → le a c = true := by
    intro a b c hab hbc
    exact (hle a c).2 (((hle a b).1 hab).trans ((hle b c).1 hbc))
  have htotal : ∀ a b, (le a b || le b a) = true := by
    intro a b
    rw [Bool.or_eq_true, hle, hle]
    exact le_total _ _
  have hnodup : (entries.mergeSort le).Nodup := by
    refine (List.mergeSort_perm entries le).nodup_iff.2 (h.imp ?_)
    rintro a b hab rfl
    exact a.1.not_before_self hab
  refine List.pairwise_iff_forall_sublist.2 fun {a b} hab => ?_
  have hkey := (hle a b).1 (List.pairwise_iff_forall_sublist.1
    (List.pairwise_mergeSort htrans htotal entries) hab)
  refine (lt_or_eq_of_le hkey).imp_right fun heq => ⟨heq, ?_⟩
  have hne : a ≠ b := by
    simpa using hnodup.sublist hab
  have hmem : ∀ x ∈ [a, b], x ∈ entries := fun x hx => List.mem_mergeSort.1 (hab.subset hx)
  -- the two stood in one order or the other, and the sorting kept that order
  rcases pair_sublist_or (hmem a (by simp)) (hmem b (by simp)) hne with hsub | hsub
  · exact List.pairwise_iff_forall_sublist.1 h hsub
  · have hba := List.pair_sublist_mergeSort htrans htotal ((hle b a).2 heq.ge) hsub
    have hswap := (hnodup.perm_iff_eq_of_sublist hab hba).1 (List.Perm.swap b a [])
    exact absurd (List.cons.inj hswap).1 hne

-- ---------------------------------------------------------------------------
-- Each view
-- ---------------------------------------------------------------------------

/-- Whether a view takes an item that is declared in a file. -/
def takes : View → Item → Bool
  | .entities, i => i.kind == .entity
  | .functions, i => i.kind == .function && (extended? i).isNone
  | .fields, i => i.kind == .field
  | .extensions, i => (extended? i).isSome

theorem extended?_eq_none_iff (s : FunctionSubject) (d : FunctionDoc) :
    extended? (.function s d) = none ↔ s.on = none ∨ s.on = some "" := by
  show s.on.filter (· ≠ "") = none ↔ _
  cases s.on with
  | none => simp
  | some t => simp

theorem viewOf_declared (f n : Nat) (i : Item) (v : View) :
    viewOf (.declared f n) i = some v ↔ takes v i = true := by
  cases i with
  | function s d =>
    have hnone := extended?_eq_none_iff s d
    by_cases hon : s.on = none ∨ s.on = some ""
    · cases v <;> simp [viewOf, takes, hon, hnone.2 hon, Item.kind, Item.subject, Subject.kind]
    · obtain ⟨t, ht⟩ := Option.ne_none_iff_exists'.1 (mt hnone.1 hon)
      cases v <;> simp [viewOf, takes, hon, ht, Item.kind, Item.subject, Subject.kind]
  | _ => cases v <;> simp [viewOf, takes, extended?, Item.function?, Item.kind, Item.subject, Subject.kind]

/-- All entries of a view, in the order of their places. -/
def shown (c : Catalog) (v : View) : List (Ref × Item) :=
  (c.declared ++ c.builtIn).filter fun e => viewOf e.1 e.2 = some v

theorem shown_eq (c : Catalog) (v : View) :
    c.shown v = c.declared.filter (takes v ·.2) ++ if v = .entities then c.builtIn else [] := by
  rw [shown, List.filter_append]
  congr 1
  · refine List.filter_congr fun e he => ?_
    obtain ⟨-, f, n, heq⟩ := mem_declared.1 he
    rw [heq, Bool.eq_iff_iff, decide_eq_true_eq, viewOf_declared]
  · have hview : ∀ e ∈ c.builtIn, viewOf e.1 e.2 = some .entities := by
      intro e he
      obtain ⟨-, n, heq⟩ := mem_builtIn.1 he
      rw [heq]
      rfl
    split
    · rename_i hv
      exact List.filter_eq_self.2 fun e he => by simp [hview e he, hv]
    · rename_i hv
      exact List.filter_eq_nil_iff.2 fun e he => by simp [hview e he, Ne.symm hv]

theorem before_shown (c : Catalog) (v : View) :
    (c.shown v).Pairwise fun a b => a.1.Before b.1 :=
  (before_all c).filter _

theorem perm_view (c : Catalog) (v : View) : (c.view v).Perm (c.shown v) := by
  rw [shown_eq]
  cases v with
  | entities => exact List.mergeSort_perm _ _
  | functions => exact (List.mergeSort_perm _ _).trans (.of_eq (List.append_nil _).symm)
  | fields => exact .of_eq (List.append_nil _).symm
  | extensions => exact (List.mergeSort_perm _ _).trans (.of_eq (List.append_nil _).symm)

theorem mem_view {c : Catalog} :
    (r, i) ∈ c.view v ↔ c.get? r = some i ∧ viewOf r i = some v := by
  rw [(perm_view c v).mem_iff, shown, List.mem_filter, List.mem_append, mem_declared, mem_builtIn,
    decide_eq_true_eq]
  refine and_congr_left fun _ => ⟨fun h => h.elim (·.1) (·.1), fun h => ?_⟩
  cases r with
  | declared f n => exact .inl ⟨h, f, n, rfl⟩
  | native n => exact .inr ⟨h, n, rfl⟩

theorem nodup_refs (c : Catalog) (v : View) : (c.refs v).Nodup := by
  refine ((perm_view c v).map (·.1)).nodup_iff.2 (List.pairwise_map.2 ((before_shown c v).imp ?_))
  intro a b hab heq
  rw [heq] at hab
  exact b.1.not_before_self hab

theorem extensionBefore_iff (a b : Item) : extensionBefore a b = true ↔
    toLex ((extended? a).getD "", a.name) ≤ toLex ((extended? b).getD "", b.name) := by
  simp [extensionBefore, Prod.Lex.toLex_le_toLex]

theorem idxOf_of_idxOf? {l : List String} (h : l.idxOf? a = some n) : l.idxOf a = n ∧ a ∈ l := by
  have hn : l.idxOf a = n := by
    rw [List.idxOf_eq_getD_idxOf?, h]
    rfl
  refine ⟨hn, ?_⟩
  by_contra hmem
  simp [List.idxOf?_eq_none_iff.2 hmem] at h

/-- Names that are not built in share the last position, so that they go by themselves. -/
theorem entityBefore_iff (a b : String) : entityBefore a b = true ↔
    toLex (Native.names.idxOf a, a) ≤ toLex (Native.names.idxOf b, b) := by
  rw [Prod.Lex.toLex_le_toLex]
  dsimp only
  unfold entityBefore
  cases ha : Native.names.idxOf? a with
  | some n =>
    obtain ⟨hn, hmem⟩ := idxOf_of_idxOf? ha
    have hlt := List.idxOf_lt_length_iff.2 hmem
    cases hb : Native.names.idxOf? b with
    | some m =>
      obtain ⟨hm, -⟩ := idxOf_of_idxOf? hb
      simp only [decide_eq_true_eq, ← hn, ← hm]
      constructor
      · intro hle
        exact (Nat.lt_or_eq_of_le hle).imp_right fun heq => ⟨heq, ((List.idxOf_inj hmem).1 heq).le⟩
      · rintro (h | ⟨h, -⟩)
        · exact h.le
        · exact h.le
    | none =>
      rw [List.idxOf_eq_length (List.idxOf?_eq_none_iff.1 hb)]
      simp [hlt]
  | none =>
    rw [List.idxOf_eq_length (List.idxOf?_eq_none_iff.1 ha)]
    cases hb : Native.names.idxOf? b with
    | some m =>
      have hlt := List.idxOf_lt_length_iff.2 (idxOf_of_idxOf? hb).2
      simp [hlt.not_gt, hlt.ne']
    | none =>
      rw [List.idxOf_eq_length (List.idxOf?_eq_none_iff.1 hb)]
      simp

theorem ordered_entities (c : Catalog) :
    Ordered (fun i => toLex (Native.names.idxOf i.name, i.name)) c.entities := by
  have h := before_shown c .entities
  rw [shown_eq] at h
  exact ordered_mergeSort (fun a b => entityBefore_iff a.2.name b.2.name) h

theorem ordered_functions (c : Catalog) : Ordered Item.name c.functions := by
  have h := before_shown c .functions
  rw [shown_eq, if_neg (by simp), List.append_nil] at h
  exact ordered_mergeSort (fun a b => decide_eq_true_iff) h

theorem ordered_extensions (c : Catalog) :
    Ordered (fun i => toLex ((extended? i).getD "", i.name)) c.extensions := by
  have h := before_shown c .extensions
  rw [shown_eq, if_neg (by simp), List.append_nil] at h
  exact ordered_mergeSort (fun a b => extensionBefore_iff a.2 b.2) h

theorem before_fields (c : Catalog) : c.fields.Pairwise fun a b => a.1.Before b.1 :=
  (before_declared c).filter _

-- ---------------------------------------------------------------------------
-- Entities by name
-- ---------------------------------------------------------------------------

theorem kind_of_mem_entities {c : Catalog} (hnatives : ∀ i ∈ c.natives, i.kind = .entity)
    (h : (r, i) ∈ c.entities) : i.kind = .entity := by
  obtain ⟨hget, hview⟩ := (mem_view (v := .entities)).1 h
  cases r with
  | declared f n => simpa [takes] using (viewOf_declared f n i .entities).1 hview
  | native n => exact hnatives i (List.mem_of_getElem? hget)

theorem find?_eq_find? {c : Catalog} (hnatives : ∀ i ∈ c.natives, i.kind = .entity) (name : String) :
    c.find? name = (c.entities.map (·.2)).find? (·.name == name) := by
  rw [find?_eq]
  cases hfind : (c.entities.map (·.2)).find? (·.name == name) with
  | none => rfl
  | some i =>
    obtain ⟨⟨r, i⟩, he, rfl⟩ := List.mem_map.1 (List.mem_of_find?_eq_some hfind)
    simp [kind_of_mem_entities hnatives he]

-- ---------------------------------------------------------------------------
-- All views together
-- ---------------------------------------------------------------------------

/-- How the items of a catalog are arranged in its views. -/
structure Arranged (c : Catalog) : Prop where
  /-- Every place is one of the catalog's, and holds what is shown for it. -/
  bounds : ∀ v, ∀ e ∈ c.view v, c.get? e.1 = some e.2
  /-- Constructors of files apart, every item stands in one view, once. -/
  once : ∀ r i, c.get? r = some i → (i.kind ≠ .constructor ∨ ∃ n, r = .native n) →
    ∃ v, (c.refs v).count r = 1 ∧ ∀ w, w ≠ v → r ∉ c.refs w
  members : ∀ v r i, (r, i) ∈ c.view v ↔ c.get? r = some i ∧ viewOf r i = some v
  extending : ∀ r i, (r, i) ∈ c.extensions ↔
    c.get? r = some i ∧ (∃ f n, r = .declared f n) ∧ ∃ s d t, i = .function s d ∧ s.on = some t ∧ t ≠ ""
  fields : c.fields.Pairwise fun a b => a.1.Before b.1
  functions : Ordered Item.name c.functions
  extensions : Ordered (fun i => toLex ((extended? i).getD "", i.name)) c.extensions
  /-- Built-in names have their position, all other names the one after them. -/
  entities : Ordered (fun i => toLex (Native.names.idxOf i.name, i.name)) c.entities
  found : (∀ i ∈ c.natives, i.kind = .entity) → ∀ name,
    c.find? name = (c.entities.map (·.2)).find? (·.name == name) ∧
      (c.find? name = none ↔ ∀ e ∈ c.entities, e.2.name ≠ name)

theorem exists_viewOf {r : Ref} {i : Item} (h : i.kind ≠ .constructor ∨ ∃ n, r = .native n) :
    ∃ v, viewOf r i = some v := by
  cases r with
  | native n => exact ⟨_, rfl⟩
  | declared f n =>
    cases i with
    | constructor s d => simp [Item.kind, Item.subject, Subject.kind] at h
    | _ => exact ⟨_, rfl⟩

theorem viewOf_eq_extensions_iff {r : Ref} {i : Item} : viewOf r i = some .extensions ↔
    (∃ f n, r = .declared f n) ∧ ∃ s d t, i = .function s d ∧ s.on = some t ∧ t ≠ "" := by
  cases r with
  | native n => simp [viewOf]
  | declared f n =>
    cases i with
    | function s d =>
      cases hon : s.on with
      | none => simp [viewOf, hon]
      | some t => by_cases ht : t = "" <;> simp [viewOf, hon, ht]
    | _ => simp [viewOf]

theorem arranged (c : Catalog) : Arranged c where
  bounds v e he := (mem_view.1 he).1
  once r i hget hshown := by
    obtain ⟨v, hv⟩ := exists_viewOf hshown
    refine ⟨v, ?_, fun w hw hmem => hw ?_⟩
    · rw [(nodup_refs c v).count, if_pos]
      exact List.mem_map.2 ⟨(r, i), mem_view.2 ⟨hget, hv⟩, rfl⟩
    · obtain ⟨⟨q, j⟩, he, rfl⟩ := List.mem_map.1 hmem
      obtain ⟨hget', hview⟩ := mem_view.1 he
      cases hget.symm.trans hget'
      exact Option.some.inj (hview.symm.trans hv)
  members v r i := mem_view
  extending r i := by
    rw [← viewOf_eq_extensions_iff]
    exact mem_view (v := .extensions)
  fields := before_fields c
  functions := ordered_functions c
  extensions := ordered_extensions c
  entities := ordered_entities c
  found hnatives name := by
    rw [find?_eq_find? hnatives]
    refine ⟨rfl, ?_⟩
    simp

/-- However a library was read, and by whatever it has been extended since, its items are
arranged in its views, and the places in these are still the ones it was given at first. -/
theorem arranged_of_built (std : String) (first : Buckets) (c : Catalog) (h : Built std first c) :
    Arranged c ∧ c.buckets = first :=
  ⟨arranged c, h.buckets_eq⟩

/-- A file with an entity that is named like a built-in type, and a function on it. -/
def intFile : SourceFile :=
  ⟨"a.ql", "a.ql", [.function ⟨"std", "a.ql", "f", [], false, false, some "int"⟩ {},
    .entity ⟨"std", "a.ql", "int"⟩ {}]⟩

def intLibrary : Catalog := ofParsed "std" ⟨"std", "1", "a", "d", none⟩ [intFile]

/-- The standard library, extended by what it has attached to itself already. -/
def intCatalog : Catalog := (intLibrary.extend intFile.items).catalog

theorem arranged_of_built_int :
    (∃ first, Built "std" first intCatalog ∧ intCatalog.buckets = first) ∧
      (∀ i ∈ intCatalog.natives, i.kind = .entity) ∧
      (intCatalog.find? "int" = none ↔ ∀ e ∈ intCatalog.entities, e.2.name ≠ "int") ∧
      intCatalog.find? "int" = (intCatalog.entities.map (·.2)).find? (·.name == "int") := by
  have hall : intCatalog.natives.all (·.kind == .entity) = true := by cbv
  have hnatives : ∀ i ∈ intCatalog.natives, i.kind = .entity := fun i hi =>
    eq_of_beq (List.all_eq_true.1 hall i hi)
  have hbuilt : Built "std" _ intCatalog :=
    .extend intFile.items (.parsed ⟨"std", "1", "a", "d", none⟩ [intFile])
  obtain ⟨harranged, hfirst⟩ := arranged_of_built "std" _ intCatalog hbuilt
  obtain ⟨hfirstNamed, hnone⟩ := harranged.found hnatives "int"
  exact ⟨⟨_, hbuilt, hfirst⟩, hnatives, hnone, hfirstNamed⟩

end Catalog

end DocSite
