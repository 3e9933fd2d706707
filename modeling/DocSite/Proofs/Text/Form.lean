import DocSite.Text.Form

/-!
# Form encoding read back

Every byte is written so that it can be told where it ends, so an encoded text is the
encoding of one text only.
-/

namespace DocSite.Text

theorem hexValue?_hexDigitUpper : ∀ n < 16, hexValue? (hexDigitUpper n) = some n := by decide

/-- A byte can be read off its two digits. -/
theorem exists_hexByteUpper (b : UInt8) :
    ∃ x y high low, hexByteUpper b = [x, y] ∧ hexValue? x = some high ∧ hexValue? y = some low ∧
      UInt8.ofNat (16 * high + low) = b := by
  have hb := b.toNat_lt
  refine ⟨_, _, b.toNat / 16, b.toNat % 16, rfl, hexValue?_hexDigitUpper _ (by omega),
    hexValue?_hexDigitUpper _ (by omega), ?_⟩
  rw [Nat.div_add_mod, UInt8.ofNat_toNat]

/-- The byte at the front of an encoded text, and what follows it. -/
def formFirst? : List Char → Option (UInt8 × List Char)
  | [] => none
  | c :: s =>
    if c = '+' then some (0x20, s)
    else if c = '%' then
      match s with
      | a :: b :: s => do
        let high ← hexValue? a
        let low ← hexValue? b
        return (UInt8.ofNat (16 * high + low), s)
      | _ => none
    else some (UInt8.ofNat c.toNat, s)

theorem isFormSafe_ofUInt8 {b : UInt8} (h : Char.ofUInt8 b = c) :
    isFormSafe b = isFormSafe (UInt8.ofNat c.toNat) := by
  have hback : UInt8.ofNat (Char.ofUInt8 b).toNat = b := UInt8.ofNat_toNat
  rw [← h, hback]

theorem formFirst?_append (b : UInt8) (s : List Char) :
    formFirst? (formByte b ++ s) = some (b, s) := by
  unfold formByte
  split
  · rename_i hsafe
    have hplus : Char.ofUInt8 b ≠ '+' := fun h => by
      rw [isFormSafe_ofUInt8 h] at hsafe
      exact absurd hsafe (by decide)
    have hpercent : Char.ofUInt8 b ≠ '%' := fun h => by
      rw [isFormSafe_ofUInt8 h] at hsafe
      exact absurd hsafe (by decide)
    have hback : UInt8.ofNat (Char.ofUInt8 b).toNat = b := UInt8.ofNat_toNat
    simp [formFirst?, hplus, hpercent, hback]
  · split
    · rename_i hspace
      rw [hspace]
      rfl
    · obtain ⟨x, y, high, low, hdigits, hx, hy, hback⟩ := exists_hexByteUpper b
      simp only [formFirst?, hdigits, List.cons_append, List.nil_append, hx, hy,
        Option.bind_eq_bind, Option.bind_some, hback]
      rfl

/-- If what stands first can be read off a text, the text is written in one way only. -/
theorem flatMap_inj {code : α → List Char} {first? : List Char → Option (α × List Char)}
    (hnil : first? [] = none) (hfirst : ∀ x s, first? (code x ++ s) = some (x, s)) {xs ys : List α}
    (h : xs.flatMap code = ys.flatMap code) : xs = ys := by
  induction xs generalizing ys with
  | nil =>
    cases ys with
    | nil => rfl
    | cons y ys =>
      have hy := hfirst y (ys.flatMap code)
      rw [← List.flatMap_cons, ← h, List.flatMap_nil, hnil] at hy
      cases hy
  | cons x xs ih =>
    have hx := hfirst x (xs.flatMap code)
    rw [← List.flatMap_cons, h] at hx
    cases ys with
    | nil =>
      rw [List.flatMap_nil, hnil] at hx
      cases hx
    | cons y ys =>
      rw [List.flatMap_cons, hfirst, Option.some_inj, Prod.mk.injEq] at hx
      rw [hx.1, ih hx.2.symm]

theorem formEncode_inj {s t : String} (h : formEncode s = formEncode t) : s = t := by
  have hbytes := flatMap_inj rfl formFirst?_append (String.ofList_inj.1 h)
  exact String.toByteArray_inj.1 (ByteArray.ext (Array.toList_inj.1 hbytes))

end DocSite.Text
