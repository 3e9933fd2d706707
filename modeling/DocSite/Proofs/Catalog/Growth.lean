import DocSite.Proofs.Catalog.Extensions
import DocSite.Proofs.Catalog.Reload
import Mathlib.Data.List.Basic
import Mathlib.Data.List.Induction

/-!
# What attaching does to a library

Items that are attached to a library make the extension lists of its entities longer, and do
nothing else (`grown_extend`). The list of an entity goes on with the items that resolve to it,
in their order, but for those that are in it already. Only the entity that its name leads to
gets anything.
-/

namespace DocSite

-- ---------------------------------------------------------------------------
-- Lists that go on
-- ---------------------------------------------------------------------------

/-- How a list goes on: each item that is due joins it, unless the list has the same function
when the item's turn comes. -/
inductive Joined (due : Item → Prop) (old : List Item) : List Item → List Item → Prop
  | nil : Joined due old [] []
  | joins (h : Joined due old items joined) (hdue : due i)
      (hnew : ∀ j ∈ old ++ joined, j.sameFunction i = false) :
      Joined due old (items ++ [i]) (joined ++ [i])
  | skipped (h : Joined due old items joined)
      (hskip : ¬ (due i ∧ ∀ j ∈ old ++ joined, j.sameFunction i = false)) :
      Joined due old (items ++ [i]) joined

/-- No source function is listed twice. -/
def Distinct (items : List Item) : Prop := items.Pairwise fun i j => i.sameFunction j = false

theorem Joined.distinct (h : Joined due old items joined) (hold : Distinct old) :
    Distinct (old ++ joined) := by
  induction h with
  | nil => rwa [List.append_nil]
  | joins _ _ hnew ih =>
    rw [← List.append_assoc]
    exact List.pairwise_append.2 ⟨ih, List.pairwise_singleton .., by simpa using hnew⟩
  | skipped _ _ ih => exact ih

namespace EntityDoc

theorem admits_iff {d : EntityDoc Item} {i : Item} :
    d.admits i = true ↔ i.function?.isSome ∧ ∀ j ∈ d.extensions, j.sameFunction i = false := by
  unfold admits has Item.sameFunction
  cases i.function? with
  | none => simp
  | some f => simp

/-- Attaching the items that are due, one after the other. -/
theorem joined_foldl {p : Item → Bool} {due : Item → Prop}
    (hdue : ∀ i, due i ↔ p i = true ∧ i.function?.isSome) (d : EntityDoc Item) (items : List Item) :
    ∃ joined, Joined due d.extensions items joined ∧
      (items.filter p).foldl attach d = { d with extensions := d.extensions ++ joined } := by
  -- on the last item: what has joined before it is what it is compared with
  induction items using List.reverseRecOn with
  | nil => exact ⟨[], .nil, by simp⟩
  | append_singleton items i ih =>
    obtain ⟨joined, hjoined, hfold⟩ := ih
    by_cases hp : p i = true
    · rw [List.filter_append, List.foldl_append, hfold, List.filter_singleton, hp]
      by_cases ha : ({ d with extensions := d.extensions ++ joined } : EntityDoc Item).admits i
      · obtain ⟨hfun, hnew⟩ := admits_iff.1 ha
        refine ⟨joined ++ [i], .joins hjoined ((hdue i).2 ⟨hp, hfun⟩) hnew, ?_⟩
        simp [attach, ha]
      · refine ⟨joined, .skipped hjoined fun h => ha (admits_iff.2 ?_), ?_⟩
        · exact ⟨((hdue i).1 h.1).2, h.2⟩
        · simp [attach, ha]
    · refine ⟨joined, .skipped hjoined fun h => hp ((hdue i).1 h.1).1, ?_⟩
      simp [List.filter_append, hp, hfold]

end EntityDoc

-- ---------------------------------------------------------------------------
-- Libraries
-- ---------------------------------------------------------------------------

/-- The extension functions attached to an item. -/
def Item.attached (i : Item) : List Item := (i.entityDoc?.map (·.extensions)).getD []

theorem Item.foldl_attach_other {i : Item} (h : i.entityDoc? = none) (is : List Item) :
    is.foldl (fun j i => i.attach j) i = i := by
  induction is with
  | nil => rfl
  | cons j is ih =>
    cases i with
    | entity s d => cases h
    | _ => exact ih

namespace Catalog

open Wire (nestedRecord)

/-- All extension lists of a library, one after the other. -/
def attached (c : Catalog) : List Item :=
  (c.files.flatMap fun f => f.items.flatMap Item.attached) ++ c.natives.flatMap Item.attached

/-- Whether an item is a function that resolves to an entity of this name. -/
def Due (c : Catalog) (entity : String) (i : Item) : Prop :=
  i.function?.isSome ∧ ∃ t, Target.ofItem? c.stdName i = some t ∧ t.entity = entity

/-- What becomes of a library when items are attached to it. -/
structure Grown (c : Catalog) (items : List Item) (c' : Catalog) (added : Nat) : Prop where
  /-- Without the extension lists of its entities the library is the same. -/
  frame : c'.stripped = c.stripped
  buckets : c'.buckets = c.buckets
  /-- The list of an entity that its name leads to goes on. -/
  indexed : ∀ entity r s d, c.index? entity = some r → c.get? r = some (.entity s d) →
    ∃ joined, Joined (c.Due entity) d.extensions items joined ∧
      c'.get? r = some (.entity s { d with extensions := d.extensions ++ joined })
  /-- What is no entity, or an entity that no name leads to, stays as it is. -/
  other : ∀ r, (∀ entity s d, c.index? entity = some r → c.get? r ≠ some (.entity s d)) →
    c'.get? r = c.get? r
  counted : c.attached.length + added = c'.attached.length
  distinct : (∀ r s d, c.get? r = some (.entity s d) → Distinct d.extensions) →
    ∀ r s d, c'.get? r = some (.entity s d) → Distinct d.extensions

-- ---------------------------------------------------------------------------
-- One entity
-- ---------------------------------------------------------------------------

theorem due_iff {c : Catalog} (h : c.index? entity = some r) (i : Item) :
    c.Due entity i ↔ (c.dest i == some r) = true ∧ i.function?.isSome := by
  rw [Due, beq_iff_eq, dest_eq_some_iff h, and_comm]

theorem get?_extend_indexed {c : Catalog} (hr : c.index? entity = some r)
    (hget : c.get? r = some (.entity s d)) (items : List Item) :
    ∃ joined, Joined (c.Due entity) d.extensions items joined ∧
      (c.extend items).catalog.get? r =
        some (.entity s { d with extensions := d.extensions ++ joined }) := by
  obtain ⟨joined, hjoined, hfold⟩ := EntityDoc.joined_foldl (due_iff hr) d items
  refine ⟨joined, hjoined, ?_⟩
  rw [get?_extend, hget, Option.map_some, Item.foldl_attach_entity, hfold]

theorem get?_extend_other {c : Catalog}
    (h : ∀ entity s d, c.index? entity = some r → c.get? r ≠ some (.entity s d))
    (items : List Item) : (c.extend items).catalog.get? r = c.get? r := by
  rw [get?_extend]
  cases hget : c.get? r with
  | none => rfl
  | some i =>
    rw [Option.map_some]
    congr 1
    cases i with
    | entity s d =>
      -- nothing is sent to where no name leads
      rw [List.filter_eq_nil_iff.2, List.foldl_nil]
      intro i _ hdest
      obtain ⟨t, -, ht⟩ := Option.bind_eq_some_iff.1 (eq_of_beq hdest)
      exact h t.entity s d ht hget
    | _ => exact Item.foldl_attach_other rfl _

theorem distinct_extend {c : Catalog}
    (hc : ∀ r s d, c.get? r = some (.entity s d) → Distinct d.extensions) (items : List Item) :
    ∀ r s d, (c.extend items).catalog.get? r = some (.entity s d) → Distinct d.extensions := by
  intro r s d hget
  by_cases h : ∃ entity s d, c.index? entity = some r ∧ c.get? r = some (.entity s d)
  · obtain ⟨entity, s₀, d₀, hr, hget₀⟩ := h
    obtain ⟨joined, hjoined, hget'⟩ := get?_extend_indexed hr hget₀ items
    rw [hget'] at hget
    cases hget
    exact hjoined.distinct (hc r s d₀ hget₀)
  · rw [get?_extend_other (fun entity s d hr hget => h ⟨entity, s, d, hr, hget⟩)] at hget
    exact hc r s d hget

-- ---------------------------------------------------------------------------
-- How much has been attached
-- ---------------------------------------------------------------------------

theorem length_flatMap_modify {l : List α} {f : α → α} {g : α → List β} (hn : l[n]? = some a)
    (hg : (g (f a)).length = (g a).length + 1) :
    ((l.modify n f).flatMap g).length = (l.flatMap g).length + 1 := by
  induction l generalizing n with
  | nil => cases hn
  | cons b l ih =>
    cases n with
    | zero =>
      cases hn
      simp only [List.modify_zero_cons, List.flatMap_cons, List.length_append, hg]
      omega
    | succ n =>
      have := ih hn
      simp only [List.modify_succ_cons, List.flatMap_cons, List.length_append, this]
      omega

theorem length_attached_attach {d : EntityDoc Item} (h : d.admits i) (s : EntitySubject) :
    (i.attach (.entity s d)).attached.length = (Item.entity s d).attached.length + 1 := by
  simp [Item.attach, EntityDoc.attach, h, Item.attached, Item.entityDoc?]

theorem length_attached_modify {c : Catalog} (hget : c.get? r = some (.entity s d))
    (ha : d.admits i) : (c.modify r i.attach).attached.length = c.attached.length + 1 := by
  have hone := length_attached_attach ha s
  cases r with
  | declared f n =>
    obtain ⟨file, hfile, hitem⟩ := Option.bind_eq_some_iff.1 hget
    have hitems := length_flatMap_modify hitem hone
    have hfiles := length_flatMap_modify (g := fun f => f.items.flatMap Item.attached)
      (f := fun f => { f with items := f.items.modify n i.attach }) hfile hitems
    simp only [modify, attached, List.length_append, hfiles]
    omega
  | native n =>
    have hnatives := length_flatMap_modify hget hone
    simp only [modify, attached, List.length_append, hnatives]
    omega

theorem length_attached_extend (c : Catalog) (items : List Item) :
    c.attached.length + (c.extend items).added = (c.extend items).catalog.attached.length := by
  induction items generalizing c with
  | nil => rfl
  | cons i items ih =>
    rw [extend]
    split
    · rename_i r hr
      obtain ⟨-, s, d, hget, ha⟩ := home_eq_ok_iff.1 hr
      have := ih (c.modify r i.attach)
      rw [length_attached_modify hget ha] at this
      simp only
      omega
    · exact ih c

/-- Attaching items makes the lists of the entities they resolve to go on, and changes nothing
else about the library. -/
theorem grown_extend (c : Catalog) (items : List Item) :
    c.Grown items (c.extend items).catalog (c.extend items).added where
  frame := stripped_extend c items
  buckets := buckets_congr (stripped_extend c items)
  indexed _ _ _ _ hr hget := get?_extend_indexed hr hget items
  other _ h := get?_extend_other h items
  counted := length_attached_extend c items
  distinct hc := distinct_extend hc items

/-- A function on an entity that the library does not have. -/
def strayed : Item :=
  .function ⟨"tape", "tape.ql", "stray", [], false, false, none⟩
    { on := some ⟨some ⟨.script, "boxes.Crate"⟩, none⟩ }

def boxLibrary : Catalog := ofRecord "std" nestedRecord

/-- A function joins the list of its entity once, and one that goes nowhere does not count. -/
theorem grown_extend_boxes :
    ∃ r s d joined, boxLibrary.index? "Box" = some r ∧ boxLibrary.get? r = some (.entity s d) ∧
      Joined (boxLibrary.Due "Box") d.extensions [wrapped, strayed, wrapped] joined ∧
      (boxLibrary.extend [wrapped, strayed, wrapped]).catalog.get? r =
        some (.entity s { d with extensions := d.extensions ++ joined }) ∧
      (boxLibrary.extend [wrapped, strayed, wrapped]).catalog.attached.length =
        boxLibrary.attached.length + 1 := by
  have hfound : (boxLibrary.find? "Box").isSome := by decide +kernel
  have hadded : (boxLibrary.extend [wrapped, strayed, wrapped]).added = 1 := by decide +kernel
  obtain ⟨r, s, d, hr, hget, -⟩ := exists_entity_of_find? hfound
  have h := grown_extend boxLibrary [wrapped, strayed, wrapped]
  obtain ⟨joined, hjoined, hget'⟩ := h.indexed "Box" r s d hr hget
  exact ⟨r, s, d, joined, hr, hget, hjoined, hget', by rw [← h.counted, hadded]⟩

end Catalog

end DocSite
