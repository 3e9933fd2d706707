import DocSite.Target

/-!
# Routing

Every library that an item goes to gets one group, which holds all the items that go
there in their order.
-/

namespace DocSite.Routing

/-- The items of a list that go to a library. -/
def bound (std library : String) (items : List Item) : List Item :=
  items.filter fun i => (Target.ofItem? std i).map (·.library) == some library

/-- Those that go to one of its entities. -/
def addressed (std : String) (t : Target) (items : List Item) : List Item :=
  items.filter fun i => Target.ofItem? std i == some t

theorem filter_bound (std library entity : String) (items : List Item) :
    (bound std library items).filter (fun i => (Target.ofItem? std i).any (·.entity == entity)) =
      addressed std ⟨library, entity⟩ items := by
  rw [bound, addressed, List.filter_filter]
  congr 1
  funext i
  cases Target.ofItem? std i with
  | none => rfl
  | some t =>
    obtain ⟨l, e⟩ := t
    rw [Bool.eq_iff_iff]
    simp [and_comm]

theorem nodup_eraseDups [BEq α] [LawfulBEq α] (xs : List α) : xs.eraseDups.Nodup := by
  induction h : xs.length using Nat.strongRecOn generalizing xs with
  | ind n ih =>
    cases xs with
    | nil => simp
    | cons x xs =>
      have hlen : (xs.filter fun y => !y == x).length < n := by
        have := List.length_filter_le (fun y => !y == x) xs
        simp only [List.length_cons] at h
        omega
      rw [List.eraseDups_cons, List.nodup_cons]
      exact ⟨by simp, ih _ hlen _ rfl⟩

theorem map_fst_byLibrary (std : String) (items : List Item) :
    (ofItems std items).byLibrary.map (·.1) =
      (items.filterMap fun i => (Target.ofItem? std i).map (·.library)).eraseDups.mergeSort
        (· ≤ ·) := by
  rw [ofItems, List.map_map]
  exact List.map_id _

theorem nodup_byLibrary (std : String) (items : List Item) :
    ((ofItems std items).byLibrary.map (·.1)).Nodup := by
  rw [map_fst_byLibrary]
  exact (List.mergeSort_perm _ _).nodup_iff.2 (nodup_eraseDups _)

theorem mem_byLibrary {std : String} {items : List Item} {g : String × List Item} :
    g ∈ (ofItems std items).byLibrary ↔
      (∃ i ∈ items, (Target.ofItem? std i).map (·.library) = some g.1) ∧
        g.2 = bound std g.1 items := by
  obtain ⟨l, is⟩ := g
  simp only [ofItems, List.mem_map, List.mem_mergeSort, List.mem_eraseDups, List.mem_filterMap,
    Prod.mk.injEq]
  constructor
  · rintro ⟨l', hl', rfl, rfl⟩
    exact ⟨hl', rfl⟩
  · rintro ⟨hl, rfl⟩
    exact ⟨l, hl, rfl, rfl⟩

theorem bound_eq_nil {std : String} {items : List Item}
    (h : library ∉ (ofItems std items).byLibrary.map (·.1)) : bound std library items = [] := by
  refine List.filter_eq_nil_iff.2 fun i hi heq => h ?_
  have hg : (library, bound std library items) ∈ (ofItems std items).byLibrary :=
    mem_byLibrary.2 ⟨⟨i, hi, eq_of_beq heq⟩, rfl⟩
  exact List.mem_map.2 ⟨_, hg, rfl⟩

end DocSite.Routing
