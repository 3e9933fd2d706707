import DocSite.Proofs.Catalog.Attach
import DocSite.Proofs.Wire.RoundTrip

/-!
# Reloading a library

A catalog that was classified, from files or from a record, and extended any
number of times is what its cache file is read as (`reload_eq`). Classifying
again finds nothing to do: the built-in entities are there, the library's own
extensions are settled, and the views are those of the first classification.
-/

namespace DocSite.Catalog

open Wire

-- ---------------------------------------------------------------------------
-- Sizes
-- ---------------------------------------------------------------------------

theorem fits_list_iff [Format α] {l : List α} :
    Fits l ↔ l.length < UInt32.size ∧ ∀ a ∈ l, Fits a := by
  simp only [Fits, Format.tokens, listTokens, fitAll_cons, fitAll_flatMap]
  rfl

theorem fits_of_modify [Format α] {l : List α} {f : α → α} (hf : ∀ a, Fits (f a) → Fits a)
    (h : Fits (l.modify n f)) : Fits l := by
  rw [fits_list_iff, List.length_modify] at h
  refine fits_list_iff.2 ⟨h.1, fun a ha => ?_⟩
  obtain ⟨m, hm⟩ := List.mem_iff_getElem?.1 ha
  by_cases hn : n = m
  · exact hf a (h.2 _ (List.mem_iff_getElem?.2 ⟨m, by simp [hm, hn]⟩))
  · exact h.2 _ (List.mem_iff_getElem?.2 ⟨m, by simp [hm, hn]⟩)

theorem fits_of_attach {i j : Item} (h : Fits (i.attach j)) : Fits j := by
  cases j with
  | entity s d =>
    change Fits (Item.entity s (d.attach i)) at h
    unfold EntityDoc.attach at h
    split at h
    · simp only [Fits, Format.tokens, itemTokens_eq, docTokens, Item.doc, entityDocTokens_eq,
        listTokens, fitAll_append, fitAll_cons, fitAll_flatMap, Token.Fits, List.length_append,
        List.mem_append] at h ⊢
      obtain ⟨hs, ht, hd, hc, hlen, he⟩ := h
      exact ⟨hs, ht, hd, hc, by omega, fun j hj => he j (.inl hj)⟩
    · exact h
  | _ => exact h

theorem fits_of_send {c : Catalog} (h : RecordFits (c.send i).record) : RecordFits c.record := by
  unfold send at h
  split at h
  · rename_i r _
    obtain ⟨hm, hf, hn⟩ := h
    cases r with
    | declared n m =>
      refine ⟨hm, fits_of_modify (fun file hfile => ?_) hf, hn⟩
      simp only [Fits, Format.tokens, fitAll_append] at hfile ⊢
      exact ⟨hfile.1, fits_of_modify (fun _ => fits_of_attach) hfile.2⟩
    | native n => exact ⟨hm, hf, fits_of_modify (fun _ => fits_of_attach) hn⟩
  · exact h

/-- A library that fits with extensions fits without them. -/
theorem fits_of_extend {c : Catalog} (h : RecordFits (c.extend is).catalog.record) :
    RecordFits c.record := by
  rw [extend_catalog] at h
  induction is generalizing c with
  | nil => exact h
  | cons i is ih => exact fits_of_send (ih h)

-- ---------------------------------------------------------------------------
-- Classification
-- ---------------------------------------------------------------------------

/-- A catalog classified under the standard library's name and then extended, with
the buckets it was given when it was classified. -/
inductive Built (std : String) : Buckets → Catalog → Prop
  | parsed (metadata : Metadata) (files : List SourceFile) :
      Built std (bare std ⟨metadata, files, []⟩).buckets (ofParsed std metadata files)
  | record (r : Record) : Built std (bare std r).buckets (ofRecord std r)
  | extend (is : List Item) : Built std b c → Built std b (c.extend is).catalog

/-- What classification leaves behind: built-in entities exactly in the standard
library, and no own extension that is still to be attached. -/
structure Classified (std : String) (c : Catalog) : Prop where
  stdName_eq : c.stdName = std
  natives_iff : c.natives = [] ↔ c.name ≠ std
  own_settled : ∀ i ∈ c.own, c.Settled i

theorem builtInOf_eq_nil_iff (std : String) (r : Record) :
    builtInOf std r = [] ↔ r.metadata.name ≠ std := by
  unfold builtInOf
  by_cases h : r.metadata.name = std
  · simp only [h, ne_eq, not_true_eq_false, ↓reduceIte, iff_false]
    split
    · simp [Native.entities, Native.names]
    · rename_i hn
      simpa using hn
  · simp [h]

theorem Classified.extend (h : Classified std c) (is : List Item) :
    Classified std (c.extend is).catalog := by
  have hs := stripped_extend c is
  refine ⟨?_, ?_, ?_⟩
  · rw [stdName_extend, h.stdName_eq]
  · rw [natives_eq_nil_congr hs, h.natives_iff, name, name, metadata_extend]
  · rw [own_congr hs]
    intro i hi
    exact (h.own_settled i hi).extend is

theorem classified_ofRecord (std : String) (r : Record) :
    Classified std (ofRecord std r) := by
  have hs := stripped_extend (bare std r) (bare std r).own
  refine ⟨stdName_congr hs, ?_, ?_⟩
  · show (classify std r).catalog.natives = [] ↔ _
    rw [classify, natives_eq_nil_congr hs, show (ofRecord std r).name = _ from
      congrArg Metadata.name (metadata_congr hs)]
    exact builtInOf_eq_nil_iff std r
  · rw [show (ofRecord std r).own = _ from own_congr hs]
    intro i hi
    exact settled_extend hi

theorem Built.classified (h : Built std b c) : Classified std c := by
  induction h with
  | parsed metadata files => exact classified_ofRecord _ _
  | record r => exact classified_ofRecord _ _
  | extend is _ ih => exact ih.extend is

theorem Built.buckets_eq (h : Built std b c) : c.buckets = b := by
  induction h with
  | parsed metadata files => exact buckets_congr (stripped_extend _ _)
  | record r => exact buckets_congr (stripped_extend _ _)
  | extend is _ ih => rw [buckets_congr (stripped_extend _ is), ih]

theorem bare_record (h : Classified std c) : bare std c.record = c := by
  obtain ⟨metadata, stdName, files, natives⟩ := c
  obtain ⟨rfl, hn, -⟩ := h
  simp only [bare, record, builtInOf, Catalog.mk.injEq, true_and]
  by_cases hstd : metadata.name = stdName
  · have hne : natives ≠ [] := fun h => hn.1 h hstd
    simp [hstd, hne]
  · simp only [ne_eq, hstd, not_false_eq_true, ↓reduceIte]
    exact (hn.2 hstd).symm

/-- Classifying a classified catalog again changes nothing. -/
theorem ofRecord_record (h : Classified std c) : ofRecord std c.record = c := by
  rw [ofRecord, classify, bare_record h]
  exact (extend_of_settled h.own_settled).1

/-- Writing a library and reading it back gives the library, with every item,
extension and view where it was. -/
theorem reload_eq {std : String} {b : Buckets} {c : Catalog} (h : Built std b c)
    (hf : RecordFits c.record) :
    (decodeRecord (encodeRecord c.record)).map (ofRecord std) = .ok c ∧
      c.buckets = b := by
  refine ⟨?_, h.buckets_eq⟩
  rw [decodeRecord_encodeRecord hf, Except.map, ofRecord_record h.classified]

/-- A function that extends an entity of another library. -/
def wrapped : Item :=
  .function ⟨"tape", "tape.ql", "wrap", [], false, false, some "Box"⟩
    { on := some ⟨some ⟨.script, "boxes.Box"⟩, none⟩ }

/-- A library with that function attached, which comes twice. -/
def extendedBoxes : Catalog :=
  let boxes := nestedRecord
  ((ofParsed "std" boxes.metadata boxes.files).extend [wrapped, wrapped]).catalog

theorem extendedBoxes_fits : RecordFits extendedBoxes.record :=
  by decide +kernel

theorem reload_eq_boxes :
    RecordFits extendedBoxes.record ∧
      (decodeRecord (encodeRecord extendedBoxes.record)).map (ofRecord "std") =
        .ok extendedBoxes ∧
      extendedBoxes.buckets =
        (bare "std" ⟨nestedRecord.metadata, nestedRecord.files, []⟩).buckets :=
  ⟨extendedBoxes_fits, reload_eq (.extend _ (.parsed _ _)) extendedBoxes_fits⟩

end DocSite.Catalog
