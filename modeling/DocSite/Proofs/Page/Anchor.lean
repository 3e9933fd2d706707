import DocSite.Proofs.Page.Address
import DocSite.Proofs.Page.Landing

/-!
# Anchors are as good as signatures

Form encoding writes a text in a few characters and loses nothing: the bytes of the text are read
back off it, a plus as a space and an escape as its byte. None of the characters means something
in markup, so an anchor stands in a page as it is, and there is one for each signature
(`form_reversible`).
-/

namespace DocSite.Page

open Text (formByte formEncode)
open Files (textBytes)

/-- What form encoded texts are made of. -/
def isFormChar (c : Char) : Bool := c.isAlphanum || ['.', '-', '*', '_', '+', '%'].contains c

/-- A plus stands for a space. -/
def spaced (c : Char) : Char := if c = '+' then ' ' else c

/-- The bytes a form encoded text stands for: a plus for a space, an escape for its byte, and all
else for itself. -/
def formDecoded (s : String) : List UInt8 := decoded (s.toList.map spaced)

-- ---------------------------------------------------------------------------
-- Reading back
-- ---------------------------------------------------------------------------

/-- Only a space is written as a plus. -/
theorem eq_space_of_plus_mem {b : UInt8} (h : '+' ∈ formByte b) : b = 0x20 := by
  have hall : ∀ n < 256, '+' ∈ formByte (UInt8.ofNat n) → UInt8.ofNat n = 0x20 := by
    decide +kernel
  have hb := hall b.toNat b.toNat_lt
  rw [UInt8.ofNat_toNat] at hb
  exact hb h

theorem decoded_spaced_formByte (b : UInt8) (s : List Char) :
    decoded ((formByte b).map spaced ++ s) = b :: decoded s := by
  by_cases hspace : b = 0x20
  · subst hspace
    exact decoded_of_no_escape (escapedByte?_of_ne (by decide) s)
  · have hself : ∀ c ∈ formByte b, spaced c = id c := by
      intro c hc
      refine if_neg fun hplus => hspace (eq_space_of_plus_mem ?_)
      rwa [hplus] at hc
    rw [List.map_congr_left hself, List.map_id, decoded_formByte, unescaped, if_neg hspace]

theorem formDecoded_formEncode (s : String) : formDecoded (formEncode s) = textBytes s := by
  have hbytes : ∀ bs : List UInt8, decoded ((bs.flatMap formByte).map spaced) = bs := by
    intro bs
    induction bs with
    | nil => simp [decoded]
    | cons b bs ih =>
      rw [List.flatMap_cons, List.map_append, decoded_spaced_formByte, ih]
  rw [formDecoded, formEncode, String.toList_ofList]
  exact hbytes _

-- ---------------------------------------------------------------------------
-- Anchors
-- ---------------------------------------------------------------------------

/-- Form encoding can be read back and stands in pages as it is. -/
theorem form_reversible :
    (∀ s : String, (∀ c ∈ (formEncode s).toList, isFormChar c = true) ∧
      formDecoded (formEncode s) = textBytes s ∧ escape (formEncode s) = formEncode s) ∧
    Function.Injective formEncode ∧
    ∀ a b : Subject, a.kind ≠ .entity → b.kind ≠ .entity →
      (a.anchor = b.anchor ↔ a.signature = b.signature) := by
  refine ⟨fun s => ⟨?_, formDecoded_formEncode s, escape_formEncode s⟩,
    fun s t => Text.formEncode_inj, fun a b ha hb => ?_⟩
  · exact Text.forall_mem_formEncode (p := (isFormChar · = true)) (by decide +kernel) s
  · rw [anchor_eq_formEncode ha, anchor_eq_formEncode hb]
    exact ⟨Text.formEncode_inj, congrArg formEncode⟩

def plainFunction : Subject := .function ⟨"l", "a.ql", "f", [], false, false, none⟩

/-- A field whose declaration reads like a function. -/
def functionField : Subject := .field ⟨"l", "b.ql", "fun", "f()"⟩

theorem form_reversible_alike :
    plainFunction.kind ≠ .entity ∧ functionField.kind ≠ .entity ∧
      plainFunction.anchor = functionField.anchor := by
  have hfunction : plainFunction.kind ≠ .entity := by decide
  have hfield : functionField.kind ≠ .entity := by decide
  have hsignature : plainFunction.signature = functionField.signature := by decide
  exact ⟨hfunction, hfield,
    (form_reversible.2.2 plainFunction functionField hfunction hfield).2 hsignature⟩

end DocSite.Page
