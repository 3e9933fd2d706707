import DocSite.Proofs.Catalog.Attach
import DocSite.Proofs.Routing

/-!
# Extension lists

What the entities of a library end up with when items are attached to a library that had
none. The first entity of a name gets the items that resolve to it, the first of each
source function; any other entity of that name gets nothing.
-/

namespace DocSite

/-- Whether two items are one source function. -/
def Item.sameFunction (i j : Item) : Bool :=
  i.function?.any fun f => j.function?.any fun g => f.Same g

theorem mem_of_mem_eraseDupsBy {same : α → α → Bool} {xs : List α} (h : x ∈ xs.eraseDupsBy same) :
    x ∈ xs := by
  induction hn : xs.length using Nat.strongRecOn generalizing xs with
  | ind n ih =>
    cases xs with
    | nil => simp at h
    | cons y ys =>
      rw [List.eraseDupsBy_cons, List.mem_cons] at h
      rcases h with rfl | h
      · simp
      · have hlen := List.length_filter_le (fun z => decide (same z y = false)) ys
        rw [List.length_cons] at hn
        have hy := ih _ (by omega) h rfl
        exact List.mem_cons_of_mem _ (List.mem_filter.1 hy).1

-- ---------------------------------------------------------------------------
-- One entity
-- ---------------------------------------------------------------------------

namespace EntityDoc

theorem admits_concat (d : EntityDoc Item) (i j : Item) :
    ({ d with extensions := d.extensions ++ [i] } : EntityDoc Item).admits j =
      (d.admits j && !j.sameFunction i) := by
  unfold admits Item.sameFunction
  cases j.function? with
  | none => rfl
  | some f =>
    have hsymm : ∀ g : FunctionSubject, decide (g.Same f) = decide (f.Same g) := fun g =>
      decide_eq_decide.2 ⟨.symm, .symm⟩
    simp [has, hsymm]

/-- Attaching items one by one keeps the first of each function. -/
theorem extensions_foldl_attach (d : EntityDoc Item) (is : List Item) :
    (is.foldl attach d).extensions =
      d.extensions ++ (is.filter d.admits).eraseDupsBy Item.sameFunction := by
  -- the doc varies: each item that is attached narrows what is admitted after it
  induction is generalizing d with
  | nil => simp
  | cons i is ih =>
    rw [List.foldl_cons, ih, List.filter_cons]
    cases ha : d.admits i with
    | false => simp [attach, ha]
    | true =>
      have hrest : is.filter (d.attach i).admits =
          (is.filter d.admits).filter fun j => decide (j.sameFunction i = false) := by
        rw [attach, if_pos ha, List.filter_filter]
        congr 1
        funext j
        rw [admits_concat]
        cases j.sameFunction i <;> simp
      rw [hrest, attach, if_pos ha, if_pos rfl, List.eraseDupsBy_cons, List.append_assoc,
        List.singleton_append]

end EntityDoc

theorem Item.foldl_attach_entity (s : EntitySubject) (d : EntityDoc Item) (is : List Item) :
    is.foldl (fun j i => i.attach j) (.entity s d) = .entity s (is.foldl EntityDoc.attach d) := by
  induction is generalizing d with
  | nil => rfl
  | cons i is ih => exact ih (d.attach i)

namespace Catalog

open Routing (bound addressed filter_bound)

-- ---------------------------------------------------------------------------
-- Names and places
-- ---------------------------------------------------------------------------

theorem mem_declared {c : Catalog} :
    (r, i) ∈ c.declared ↔ c.get? r = some i ∧ ∃ f n, r = .declared f n := by
  constructor
  · intro h
    obtain ⟨⟨file, f⟩, hfile, hitem⟩ := List.mem_flatMap.1 h
    obtain ⟨⟨item, n⟩, hmem, heq⟩ := List.mem_map.1 hitem
    cases heq
    have hf : c.files[f]? = some file := List.mem_zipIdx_iff_getElem?.1 hfile
    have hn : file.items[n]? = some i := List.mem_zipIdx_iff_getElem?.1 hmem
    exact ⟨by simp [get?, hf, hn], f, n, rfl⟩
  · rintro ⟨h, f, n, rfl⟩
    obtain ⟨file, hfile, hitem⟩ := Option.bind_eq_some_iff.1 h
    refine List.mem_flatMap.2 ⟨(file, f), List.mem_zipIdx_iff_getElem?.2 hfile, ?_⟩
    exact List.mem_map.2 ⟨(i, n), List.mem_zipIdx_iff_getElem?.2 hitem, rfl⟩

theorem mem_builtIn {c : Catalog} :
    (r, i) ∈ c.builtIn ↔ c.get? r = some i ∧ ∃ n, r = .native n := by
  constructor
  · intro h
    obtain ⟨⟨item, n⟩, hmem, heq⟩ := List.mem_map.1 h
    cases heq
    exact ⟨List.mem_zipIdx_iff_getElem?.1 hmem, n, rfl⟩
  · rintro ⟨h, n, rfl⟩
    exact List.mem_map.2 ⟨(i, n), List.mem_zipIdx_iff_getElem?.2 h, rfl⟩

theorem get?_of_mem_entities {c : Catalog} (h : (r, i) ∈ c.entities) : c.get? r = some i := by
  rw [entities, List.mem_mergeSort, List.mem_append, List.mem_filter] at h
  rcases h with h | h
  · exact (mem_declared.1 h.1).1
  · exact (mem_builtIn.1 h).1

theorem mem_entities_of_index? {c : Catalog} (h : c.index? entity = some r) :
    ∃ i, (r, i) ∈ c.entities ∧ i.name = entity := by
  obtain ⟨⟨r', i⟩, hfind, rfl⟩ := Option.map_eq_some_iff.1 h
  exact ⟨i, List.mem_of_find?_eq_some hfind, by simpa using List.find?_some hfind⟩

/-- The entity of a name is the first entry that has it, if that is an entity. -/
theorem find?_eq (c : Catalog) (name : String) :
    c.find? name =
      ((c.entities.map (·.2)).find? (·.name == name)).filter (·.kind == .entity) := by
  rw [find?, index?, List.find?_map]
  cases hfind : c.entities.find? ((·.name == name) ∘ (·.2)) with
  | none =>
    have hnone : c.entities.find? (·.2.name == name) = none := hfind
    rw [hnone]
    rfl
  | some r =>
    have hsome : c.entities.find? (·.2.name == name) = some r := hfind
    rw [hsome, Option.map_some, Option.bind_some, Option.map_some,
      get?_of_mem_entities (List.mem_of_find?_eq_some hfind)]

/-- No two names lead to one place. -/
theorem eq_of_index? {c : Catalog} (h : c.index? e = some r) (h' : c.index? e' = some r) :
    e = e' := by
  obtain ⟨i, hi, rfl⟩ := mem_entities_of_index? h
  obtain ⟨j, hj, rfl⟩ := mem_entities_of_index? h'
  have heq := (get?_of_mem_entities hi).symm.trans (get?_of_mem_entities hj)
  rw [Option.some.inj heq]

theorem dest_eq_some_iff {c : Catalog} (h : c.index? entity = some r) :
    c.dest i = some r ↔ ∃ t, Target.ofItem? c.stdName i = some t ∧ t.entity = entity := by
  rw [dest, Option.bind_eq_some_iff]
  constructor
  · rintro ⟨t, ht, hr⟩
    exact ⟨t, ht, eq_of_index? hr h⟩
  · rintro ⟨t, ht, rfl⟩
    exact ⟨t, ht, h⟩

theorem find?_stripped (c : Catalog) (entity : String) :
    c.stripped.find? entity = (c.find? entity).map Item.stripped := by
  rw [find?, find?, index?_stripped]
  cases c.index? entity with
  | none => rfl
  | some r =>
    simp only [Option.bind_some, get?_stripped]
    cases c.get? r with
    | none => rfl
    | some i => simp [Option.filter]

/-- Attaching finds and loses no entity. -/
theorem find?_congr {c c' : Catalog} (h : c.stripped = c'.stripped) (entity : String) :
    (c.find? entity).isSome = (c'.find? entity).isSome := by
  have := congrArg (fun c => (c.find? entity).isSome) h
  simpa [find?_stripped] using this

theorem exists_entity_of_find? {c : Catalog} (h : (c.find? entity).isSome) :
    ∃ r s d, c.index? entity = some r ∧ c.get? r = some (.entity s d) ∧
      c.find? entity = some (.entity s d) := by
  obtain ⟨i, hi⟩ := Option.isSome_iff_exists.1 h
  have hfind := hi
  rw [find?, Option.filter_eq_some_iff, Option.bind_eq_some_iff] at hi
  obtain ⟨⟨r, hr, hget⟩, hkind⟩ := hi
  cases i with
  | entity s d => exact ⟨r, s, d, hr, hget, hfind⟩
  | _ => simp [Item.kind, Item.subject, Subject.kind] at hkind

theorem find?_of_mem_entities {c : Catalog} (h : (r, .entity s d) ∈ c.entities)
    (hr : c.index? s.name = some r) : c.find? s.name = some (.entity s d) := by
  rw [find?, hr, Option.bind_some, get?_of_mem_entities h]
  rfl

-- ---------------------------------------------------------------------------
-- Libraries that had no extensions
-- ---------------------------------------------------------------------------

section
variable {c : Catalog} (hc : c.stripped = c) {is : List Item}
include hc

theorem get?_before (h : (c.extend is).catalog.get? r = some (.entity s d)) :
    c.get? r = some (.entity s { d with extensions := [] }) := by
  have hs : (c.extend is).catalog.stripped = c := (stripped_extend c is).trans hc
  rw [← hs, get?_stripped, h]
  rfl

/-- An entity gets what is sent to it. -/
theorem extensions_extend (h : (c.extend is).catalog.get? r = some (.entity s d)) :
    d.extensions = (is.filter (c.dest · == some r)).eraseDupsBy Item.sameFunction := by
  have hbefore := get?_before hc h
  rw [get?_extend, hbefore, Option.map_some, Item.foldl_attach_entity, Option.some.injEq,
    Item.entity.injEq] at h
  rw [← h.2, EntityDoc.extensions_foldl_attach, List.nil_append, List.filter_eq_self.2]
  intro i hi
  have hfun := function?_of_dest (eq_of_beq (List.mem_filter.1 hi).2)
  obtain ⟨f, hf⟩ := Option.isSome_iff_exists.1 hfun
  simp [EntityDoc.admits, EntityDoc.has, hf]

/-- The entity that a name leads to gets the items with that name. -/
theorem extensions_extend_of_index? (hr : c.index? entity = some r)
    (h : (c.extend is).catalog.get? r = some (.entity s d)) :
    d.extensions = (is.filter fun i => (Target.ofItem? c.stdName i).any (·.entity == entity)).eraseDupsBy
      Item.sameFunction := by
  rw [extensions_extend hc h]
  congr 2
  funext i
  rw [Bool.eq_iff_iff, beq_iff_eq, dest_eq_some_iff hr, Option.any_eq_true]
  simp

/-- An entity that its name does not lead to gets nothing. -/
theorem extensions_extend_of_shadowed (h : (c.extend is).catalog.get? r = some (.entity s d))
    (hr : c.index? s.name ≠ some r) : d.extensions = [] := by
  have hbefore := get?_before hc h
  rw [extensions_extend hc h, List.filter_eq_nil_iff.2, List.eraseDupsBy_nil]
  intro i _ hdest
  rw [beq_iff_eq, dest, Option.bind_eq_some_iff] at hdest
  obtain ⟨t, -, ht⟩ := hdest
  obtain ⟨j, hj, hname⟩ := mem_entities_of_index? ht
  rw [get?_of_mem_entities hj] at hbefore
  cases hbefore
  rw [← hname] at ht
  exact hr ht

end

-- ---------------------------------------------------------------------------
-- Served libraries
-- ---------------------------------------------------------------------------

/-- A library with exactly the extensions that are due to its entities: the library's own,
in the order of its view, and then those of a list. Nothing else about it has changed. -/
structure Served (c : Catalog) (items : List Item) (c' : Catalog) : Prop where
  same : c'.stripped = c.stripped
  known : ∀ entity, (c.find? entity).isSome → ∃ s d, c'.find? entity = some (.entity s d) ∧
    d.extensions =
      (addressed c.stdName ⟨c.name, entity⟩ (c.extensions.map (·.2)) ++
        addressed c.stdName ⟨c.name, entity⟩ items).eraseDupsBy Item.sameFunction
  shadowed : ∀ r s d, (r, .entity s d) ∈ c'.entities → c.index? s.name ≠ some r →
    d.extensions = []

theorem own_eq_bound (c : Catalog) : c.own = bound c.stdName c.name (c.extensions.map (·.2)) := by
  unfold own bound
  congr 1
  funext i
  cases Target.ofItem? c.stdName i <;> rfl

theorem metadata_bare (std : String) (r : Record) : (bare std r).metadata = r.metadata := rfl

theorem name_bare (std : String) (r : Record) : (bare std r).name = r.metadata.name := rfl

theorem stdName_bare (std : String) (r : Record) : (bare std r).stdName = std := rfl

/-- What is attached to an entity resolves to it. -/
theorem Served.attached {c c' : Catalog} (h : c.Served items c')
    (hmem : (r, .entity s d) ∈ c'.entities) (hi : i ∈ d.extensions) :
    Target.ofItem? c.stdName i = some ⟨c.name, s.name⟩ ∧ (c.find? s.name).isSome := by
  by_cases hr : c.index? s.name = some r
  · have hfind := find?_of_mem_entities hmem (index?_congr h.same ▸ hr)
    have hknown : (c.find? s.name).isSome := by
      rw [← find?_congr h.same, hfind]
      rfl
    obtain ⟨s', d', hfind', hd⟩ := h.known s.name hknown
    rw [hfind] at hfind'
    cases hfind'
    rw [hd] at hi
    refine ⟨?_, hknown⟩
    rcases List.mem_append.1 (mem_of_mem_eraseDupsBy hi) with hi | hi
    · exact eq_of_beq (List.mem_filter.1 hi).2
    · exact eq_of_beq (List.mem_filter.1 hi).2
  · rw [h.shadowed r s d hmem hr] at hi
    cases hi

/-- A library that is classified and then extended is served. -/
theorem served_extend {std : String} {r : Record} (hr : (bare std r).stripped = bare std r)
    (items : List Item) :
    (ofRecord std r).Served items
      ((ofRecord std r).extend (bound std r.metadata.name items)).catalog := by
  have hs : (ofRecord std r).stripped = (bare std r).stripped := stripped_extend _ _
  -- classifying and extending attach one list after the other
  have hwhole : ((ofRecord std r).extend (bound std r.metadata.name items)).catalog =
      ((bare std r).extend ((bare std r).own ++ bound std r.metadata.name items)).catalog := by
    rw [extend_append]
    rfl
  refine ⟨stripped_extend _ _, fun entity h => ?_, fun q s d h hq => ?_⟩
  · rw [← find?_congr (stripped_extend _ (bound std r.metadata.name items)), hwhole] at h
    obtain ⟨q, s, d, hq, hget, hfind⟩ := exists_entity_of_find? h
    rw [index?_congr (stripped_extend _ _)] at hq
    refine ⟨s, d, hwhole ▸ hfind, ?_⟩
    rw [extensions_extend_of_index? hr hq hget, List.filter_append, extensions_congr hs,
      stdName_congr hs, name, metadata_congr hs, own_eq_bound, name_bare, metadata_bare,
      stdName_bare, filter_bound, filter_bound]
  · rw [index?_congr hs] at hq
    rw [hwhole] at h
    exact extensions_extend_of_shadowed hr (get?_of_mem_entities h) hq

end Catalog

end DocSite
