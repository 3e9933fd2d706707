import DocSite.Catalog

/-!
# Attaching extensions

Attaching extension functions changes nothing but the extension lists of
entities. A catalog without those lists is `stripped`; all views, and the place
of every entity, can be read off the stripped catalog, so they stay as they are
(`buckets_extend`). `extend` sends every item to its `dest`ination and leaves it
there if it is new; an item that has been sent is `Settled` from then on.
-/

namespace DocSite

/-- An item without what has been attached to it. -/
def Item.stripped : Item → Item
  | .entity s d => .entity s { d with extensions := [] }
  | i => i

namespace Item

@[simp] theorem stripped_subject (i : Item) : i.stripped.subject = i.subject := by
  cases i <;> rfl

@[simp] theorem stripped_kind (i : Item) : i.stripped.kind = i.kind := by
  cases i <;> rfl

@[simp] theorem stripped_name (i : Item) : i.stripped.name = i.name := by
  cases i <;> rfl

@[simp] theorem stripped_function? (i : Item) : i.stripped.function? = i.function? := by
  cases i <;> rfl

@[simp] theorem stripped_attach (e i : Item) : (e.attach i).stripped = i.stripped := by
  cases i with
  | entity s d =>
    simp only [attach, EntityDoc.attach, stripped]
    split <;> rfl
  | _ => rfl

theorem stripped_of_function? {i : Item} (h : i.function?.isSome) : i.stripped = i := by
  cases i with
  | function s d => rfl
  | _ => cases h

end Item

namespace EntityDoc

theorem has_attach {d : EntityDoc Item} (h : d.has f) (i : Item) : (d.attach i).has f := by
  unfold attach
  split
  · simp only [has, List.any_append, Bool.or_eq_true]
    exact .inl h
  · exact h

theorem admits_attach {d : EntityDoc Item} (h : d.admits i = false) (j : Item) :
    (d.attach j).admits i = false := by
  simp only [admits] at h ⊢
  cases hf : i.function? with
  | none => rfl
  | some f =>
    simp only [hf, Option.any_some, Bool.not_eq_false'] at h ⊢
    exact has_attach h j

theorem admits_attach_self (d : EntityDoc Item) (i : Item) : (d.attach i).admits i = false := by
  cases ha : d.admits i with
  | false => exact admits_attach ha i
  | true =>
    rw [attach, if_pos ha, admits]
    cases hf : i.function? with
    | none => rfl
    | some f => simp [has, hf, FunctionSubject.Same.refl]

end EntityDoc

namespace Catalog

def stripped (c : Catalog) : Catalog :=
  { c with
    files := c.files.map fun f => { f with items := f.items.map Item.stripped }
    natives := c.natives.map Item.stripped }

-- ---------------------------------------------------------------------------
-- Changing one item
-- ---------------------------------------------------------------------------

theorem map_modify_eq {l : List α} {f : α → α} {g : α → β} (h : ∀ a, g (f a) = g a) (n : Nat) :
    (l.modify n f).map g = l.map g := by
  apply List.ext_getElem?
  intro m
  simp only [List.getElem?_map, List.getElem?_modify]
  cases l[m]? with
  | none => rfl
  | some a =>
    by_cases hm : n = m
    · simp [hm, h]
    · simp [hm]

theorem modify_eq_self {l : List α} {f : α → α} (h : ∀ a, l[n]? = some a → f a = a) :
    l.modify n f = l := by
  apply List.ext_getElem?
  intro m
  rw [List.getElem?_modify]
  split
  · rename_i hm
    subst hm
    cases ha : l[n]? with
    | none => rfl
    | some a => simp [h a ha]
  · simp

theorem get?_modify (c : Catalog) (r q : Ref) (f : Item → Item) :
    (c.modify r f).get? q = if q = r then (c.get? q).map f else c.get? q := by
  cases r with
  | declared n m =>
    cases q with
    | declared k l =>
      simp only [modify, get?, List.getElem?_modify, Ref.declared.injEq]
      by_cases hk : n = k
      · subst hk
        cases c.files[n]? with
        | none => simp
        | some file =>
          simp only [↓reduceIte, Option.map_eq_map, Option.map_some, Option.bind_some,
            List.getElem?_modify, true_and]
          by_cases hl : m = l
          · simp [hl]
          · simp [hl, Ne.symm hl]
      · have : ¬(k = n ∧ l = m) := fun h => hk h.1.symm
        simp [hk, this]
    | native j => simp [modify, get?]
  | native n =>
    cases q with
    | declared k l => simp [modify, get?]
    | native j =>
      simp only [modify, get?, List.getElem?_modify, Ref.native.injEq]
      by_cases hj : n = j
      · simp [hj]
      · simp [hj, Ne.symm hj]

/-- A change that does nothing to the item it is made to does nothing at all. -/
theorem modify_of_fixed {c : Catalog} {r : Ref} {f : Item → Item}
    (h : ∀ i, c.get? r = some i → f i = i) : c.modify r f = c := by
  obtain ⟨metadata, stdName, files, natives⟩ := c
  cases r with
  | declared n m =>
    simp only [modify, Catalog.mk.injEq, true_and, and_true]
    apply modify_eq_self
    intro file hfile
    have hitems : file.items.modify m f = file.items :=
      modify_eq_self fun i hi => h i (by simp [get?, hfile, hi])
    simp [hitems]
  | native n =>
    simp only [modify, Catalog.mk.injEq, true_and]
    exact modify_eq_self fun i hi => h i (by simp [get?, hi])

theorem stripped_modify_attach (c : Catalog) (r : Ref) (e : Item) :
    (c.modify r e.attach).stripped = c.stripped := by
  cases r with
  | declared n m =>
    simp only [modify, stripped, Catalog.mk.injEq, true_and, and_true]
    apply map_modify_eq
    intro file
    simp [map_modify_eq (Item.stripped_attach e)]
  | native n =>
    simp only [modify, stripped, Catalog.mk.injEq, true_and]
    exact map_modify_eq (Item.stripped_attach e) n

-- ---------------------------------------------------------------------------
-- Views
-- ---------------------------------------------------------------------------

/-- An entry of a view, without what has been attached to its item. -/
def strippedEntry (r : Ref × Item) : Ref × Item := (r.1, r.2.stripped)

theorem declared_stripped (c : Catalog) : c.stripped.declared = c.declared.map strippedEntry := by
  simp only [declared, stripped, List.zipIdx_map, List.flatMap_map, List.map_flatMap, List.map_map,
    Prod.map_fst, Prod.map_snd]
  rfl

theorem builtIn_stripped (c : Catalog) : c.stripped.builtIn = c.builtIn.map strippedEntry := by
  simp only [builtIn, stripped, List.zipIdx_map, List.map_map]
  rfl

theorem get?_stripped (c : Catalog) (r : Ref) : c.stripped.get? r = (c.get? r).map Item.stripped := by
  cases r with
  | declared f i =>
    simp only [get?, stripped, List.getElem?_map]
    cases c.files[f]? <;> simp
  | native i => simp [get?, stripped]

theorem fields_stripped (c : Catalog) : c.stripped.fields = c.fields.map strippedEntry := by
  simp only [fields, declared_stripped, List.filter_map]
  congr 2
  simp [Function.comp_def, strippedEntry]

@[simp] theorem extended?_stripped (i : Item) : extended? i.stripped = extended? i := by
  simp [extended?]

theorem functions_stripped (c : Catalog) : c.stripped.functions = c.functions.map strippedEntry := by
  simp only [functions, declared_stripped, List.filter_map]
  rw [List.map_mergeSort (s := fun a b => a.2.name ≤ b.2.name)]
  · congr 2
    simp [Function.comp_def, strippedEntry]
  · intro a _ b _
    simp [strippedEntry]

theorem extensionBefore_stripped (a b : Item) :
    extensionBefore a.stripped b.stripped = extensionBefore a b := by
  unfold extensionBefore
  rw [extended?_stripped, extended?_stripped, Item.stripped_name, Item.stripped_name]

theorem extensions_stripped (c : Catalog) :
    c.stripped.extensions = c.extensions.map strippedEntry := by
  simp only [extensions, declared_stripped, List.filter_map]
  rw [List.map_mergeSort (s := fun a b => extensionBefore a.2 b.2)]
  · congr 2
    simp [Function.comp_def, strippedEntry]
  · intro a _ b _
    exact (extensionBefore_stripped a.2 b.2).symm

theorem entities_stripped (c : Catalog) : c.stripped.entities = c.entities.map strippedEntry := by
  simp only [entities, declared_stripped, builtIn_stripped, List.filter_map]
  rw [List.map_mergeSort (s := fun a b => entityBefore a.2.name b.2.name)]
  · rw [List.map_append]
    congr 3
    simp [Function.comp_def, strippedEntry]
  · intro a _ b _
    simp [strippedEntry]

/-- Extension functions are functions, and nothing is attached to those. -/
theorem extensions_eq_stripped (c : Catalog) : c.extensions = c.stripped.extensions := by
  rw [extensions_stripped]
  symm
  refine (List.map_congr_left fun r hr => ?_).trans (List.map_id _)
  have hr' := (List.mem_filter.1 (List.mem_mergeSort.1 hr)).2
  have hf : r.2.function?.isSome := by
    cases hi : r.2.function? with
    | none => simp [extended?, hi] at hr'
    | some f => rfl
  simp [strippedEntry, Item.stripped_of_function? hf]

/-- Where the entries of all views stand, in order, and where names lead. -/
structure Buckets where
  entities : List Ref
  functions : List Ref
  fields : List Ref
  extensions : List Ref
  index : String → Option Ref

def buckets (c : Catalog) : Buckets :=
  { entities := c.entities.map (·.1), functions := c.functions.map (·.1)
    fields := c.fields.map (·.1), extensions := c.extensions.map (·.1), index := c.index? }

theorem map_strippedEntry_fst (l : List (Ref × Item)) :
    (l.map strippedEntry).map (·.1) = l.map (·.1) := by
  simp [strippedEntry]

theorem index?_stripped (c : Catalog) : c.stripped.index? = c.index? := by
  funext e
  simp only [index?, entities_stripped, List.find?_map, Option.map_map]
  simp [Function.comp_def, strippedEntry]

theorem buckets_stripped (c : Catalog) : c.stripped.buckets = c.buckets := by
  simp only [buckets, entities_stripped, functions_stripped, fields_stripped, extensions_stripped,
    map_strippedEntry_fst, index?_stripped]

-- ---------------------------------------------------------------------------
-- Destinations
-- ---------------------------------------------------------------------------

/-- Where an item is to be attached, whether or not it is there already. -/
def dest (c : Catalog) (i : Item) : Option Ref :=
  (Target.ofItem? c.stdName i).bind fun t => c.index? t.entity

/-- Sends an item to its destination. -/
def send (c : Catalog) (i : Item) : Catalog :=
  match c.dest i with
  | some r => c.modify r i.attach
  | none => c

theorem function?_of_dest {c : Catalog} (h : c.dest i = some r) : i.function?.isSome := by
  cases i with
  | function s d => rfl
  | _ => simp [dest, Target.ofItem?] at h

theorem home_eq_ok_iff {c : Catalog} :
    c.home i = .ok r ↔ c.dest i = some r ∧ ∃ s d, c.get? r = some (.entity s d) ∧ d.admits i := by
  unfold home dest
  cases hf : i.function? with
  | none =>
    have : Target.ofItem? c.stdName i = none := by
      cases i with
      | function s d => cases hf
      | _ => rfl
    simp [this]
  | some f =>
    cases Target.ofItem? c.stdName i with
    | none => simp
    | some t =>
      simp only [Option.bind_some]
      cases c.index? t.entity with
      | none => simp
      | some q =>
        simp only [Option.some.injEq]
        cases hg : c.get? q with
        | none =>
          simp only [Option.bind_none, reduceCtorEq, false_iff]
          rintro ⟨rfl, s, d, h, -⟩
          simp [hg] at h
        | some j =>
          cases j with
          | entity s d =>
            simp only [Option.bind_some, Item.entityDoc?]
            by_cases ha : d.admits i
            · simp only [ha, ↓reduceIte, Except.ok.injEq]
              constructor
              · rintro rfl
                exact ⟨rfl, s, d, hg, ha⟩
              · exact fun h => h.1
            · simp only [ha, Bool.false_eq_true, ↓reduceIte, reduceCtorEq, false_iff]
              rintro ⟨rfl, s', d', h, ha'⟩
              rw [hg] at h
              cases h
              exact ha ha'
          | _ =>
            simp only [Option.bind_some, Item.entityDoc?, reduceCtorEq, false_iff]
            rintro ⟨rfl, s, d, h, -⟩
            rw [hg] at h
            cases h

/-- An item that would not be attached: it has no destination, or is there. -/
def Settled (c : Catalog) (i : Item) : Prop := ∀ r, c.home i ≠ .ok r

theorem settled_iff {c : Catalog} :
    c.Settled i ↔ ∀ r s d, c.dest i = some r → c.get? r = some (.entity s d) → d.admits i = false := by
  simp only [Settled, ne_eq, home_eq_ok_iff]
  constructor
  · intro h r s d hr hd
    cases ha : d.admits i with
    | false => rfl
    | true => exact absurd ⟨hr, s, d, hd, ha⟩ (h r)
  · rintro h r ⟨hr, s, d, hd, ha⟩
    rw [h r s d hr hd] at ha
    cases ha

theorem Settled.exists_error {c : Catalog} (h : c.Settled i) : ∃ why, c.home i = .error why := by
  cases hh : c.home i with
  | ok r => exact absurd hh (h r)
  | error why => exact ⟨why, rfl⟩

theorem Settled.send_eq {c : Catalog} (h : c.Settled i) : c.send i = c := by
  unfold send
  split
  · rename_i r hr
    apply modify_of_fixed
    intro j hj
    cases j with
    | entity s d => simp [Item.attach, EntityDoc.attach, settled_iff.1 h r s d hr hj]
    | _ => rfl
  · rfl

theorem extend_cons_catalog (c : Catalog) (i : Item) (is : List Item) :
    (c.extend (i :: is)).catalog = ((c.send i).extend is).catalog := by
  rw [extend]
  split
  · rename_i r hr
    simp [send, (home_eq_ok_iff.1 hr).1]
  · rename_i why hwhy
    have hs : c.Settled i := fun r hr => by rw [hwhy] at hr; cases hr
    simp [hs.send_eq]

/-- Extending a catalog sends the items one by one. -/
theorem extend_catalog (c : Catalog) (is : List Item) :
    (c.extend is).catalog = is.foldl send c := by
  induction is generalizing c with
  | nil => rfl
  | cons i is ih => rw [extend_cons_catalog, ih, List.foldl_cons]

theorem extend_append (c : Catalog) (is js : List Item) :
    (c.extend (is ++ js)).catalog = ((c.extend is).catalog.extend js).catalog := by
  simp only [extend_catalog, List.foldl_append]

-- ---------------------------------------------------------------------------
-- What stays
-- ---------------------------------------------------------------------------

@[simp] theorem stripped_send (c : Catalog) (i : Item) : (c.send i).stripped = c.stripped := by
  unfold send
  split
  · exact stripped_modify_attach c _ i
  · rfl

@[simp] theorem stripped_extend (c : Catalog) (is : List Item) :
    (c.extend is).catalog.stripped = c.stripped := by
  rw [extend_catalog]
  induction is generalizing c with
  | nil => rfl
  | cons i is ih => rw [List.foldl_cons, ih, stripped_send]

/-- Two catalogs that differ in attached extensions only. -/
theorem index?_congr {c c' : Catalog} (h : c.stripped = c'.stripped) : c.index? = c'.index? := by
  rw [← index?_stripped c, h, index?_stripped]

theorem buckets_congr {c c' : Catalog} (h : c.stripped = c'.stripped) : c.buckets = c'.buckets := by
  rw [← buckets_stripped c, h, buckets_stripped]

theorem metadata_congr {c c' : Catalog} (h : c.stripped = c'.stripped) : c.metadata = c'.metadata :=
  show c.stripped.metadata = c'.stripped.metadata from congrArg Catalog.metadata h

theorem stdName_congr {c c' : Catalog} (h : c.stripped = c'.stripped) : c.stdName = c'.stdName :=
  show c.stripped.stdName = c'.stripped.stdName from congrArg Catalog.stdName h

theorem dest_congr {c c' : Catalog} (h : c.stripped = c'.stripped) (i : Item) :
    c.dest i = c'.dest i := by
  simp only [dest, index?_congr h, stdName_congr h]

theorem extensions_congr {c c' : Catalog} (h : c.stripped = c'.stripped) :
    c.extensions = c'.extensions := by
  rw [extensions_eq_stripped c, h, ← extensions_eq_stripped]

theorem own_congr {c c' : Catalog} (h : c.stripped = c'.stripped) : c.own = c'.own := by
  simp only [own, extensions_congr h, stdName_congr h, name, metadata_congr h]

@[simp] theorem metadata_extend (c : Catalog) (is : List Item) :
    (c.extend is).catalog.metadata = c.metadata := metadata_congr (stripped_extend c is)

@[simp] theorem stdName_extend (c : Catalog) (is : List Item) :
    (c.extend is).catalog.stdName = c.stdName := stdName_congr (stripped_extend c is)

theorem natives_eq_nil_congr {c c' : Catalog} (h : c.stripped = c'.stripped) :
    c.natives = [] ↔ c'.natives = [] := by
  have := congrArg Catalog.natives h
  simp only [stripped] at this
  rw [← List.map_eq_nil_iff (f := Item.stripped), this, List.map_eq_nil_iff]

-- ---------------------------------------------------------------------------
-- What is attached
-- ---------------------------------------------------------------------------

theorem get?_send (c : Catalog) (i : Item) (r : Ref) :
    (c.send i).get? r = if c.dest i = some r then (c.get? r).map i.attach else c.get? r := by
  unfold send
  split
  · rename_i q hq
    rw [get?_modify, hq]
    by_cases h : r = q
    · simp [h]
    · simp [h, Ne.symm h]
  · rename_i hn
    simp [hn]

/-- Every item gets those of the list that are sent to it, in order. -/
theorem get?_extend (c : Catalog) (is : List Item) (r : Ref) :
    (c.extend is).catalog.get? r =
      (c.get? r).map fun j => (is.filter (c.dest · == some r)).foldl (fun j i => i.attach j) j := by
  rw [extend_catalog]
  induction is generalizing c with
  | nil => simp
  | cons i is ih =>
    have hdest : ∀ j, (c.send i).dest j = c.dest j := dest_congr (stripped_send c i)
    rw [List.foldl_cons, ih, get?_send]
    simp only [hdest, List.filter_cons]
    by_cases h : c.dest i = some r
    · simp [h, Function.comp_def]
    · simp [h]

theorem Settled.send {c : Catalog} (h : c.Settled i) (j : Item) : (c.send j).Settled i := by
  rw [settled_iff] at h ⊢
  intro r s d hr hd
  rw [dest_congr (stripped_send c j)] at hr
  rw [get?_send] at hd
  split at hd
  · obtain ⟨k, hk, hkd⟩ := Option.map_eq_some_iff.1 hd
    cases k with
    | entity s' d' =>
      cases hkd
      exact EntityDoc.admits_attach (h r s d' hr hk) j
    | _ => cases hkd
  · exact h r s d hr hd

theorem settled_send (c : Catalog) (i : Item) : (c.send i).Settled i := by
  rw [settled_iff]
  intro r s d hr hd
  rw [dest_congr (stripped_send c i)] at hr
  rw [get?_send, if_pos hr] at hd
  obtain ⟨k, hk, hkd⟩ := Option.map_eq_some_iff.1 hd
  cases k with
  | entity s' d' =>
    cases hkd
    exact EntityDoc.admits_attach_self d' i
  | _ => cases hkd

theorem Settled.extend {c : Catalog} (h : c.Settled i) (is : List Item) :
    (c.extend is).catalog.Settled i := by
  rw [extend_catalog]
  induction is generalizing c with
  | nil => exact h
  | cons j is ih => exact ih (h.send j)

/-- All items of a list are settled once a catalog has been extended by it. -/
theorem settled_extend {c : Catalog} (h : i ∈ is) : (c.extend is).catalog.Settled i := by
  rw [extend_catalog]
  induction is generalizing c with
  | nil => cases h
  | cons j is ih =>
    rw [List.foldl_cons]
    rcases List.mem_cons.1 h with rfl | h
    · rw [← extend_catalog]
      exact (settled_send c i).extend is
    · exact ih h

theorem extend_of_settled {c : Catalog} (h : ∀ i ∈ is, c.Settled i) :
    (c.extend is).catalog = c ∧ (c.extend is).added = 0 := by
  induction is with
  | nil => exact ⟨rfl, rfl⟩
  | cons i is ih =>
    obtain ⟨why, hwhy⟩ := (h i (by simp)).exists_error
    have := ih fun j hj => h j (by simp [hj])
    simpa only [extend, hwhy] using this

end Catalog

end DocSite
