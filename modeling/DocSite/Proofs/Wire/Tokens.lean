import DocSite.Proofs.Action
import DocSite.Wire.Format

/-!
# Tokens are read back

A decoder `Reads` a value from a token list if it returns the value and stops
right behind the tokens, wherever they stand and whatever follows them. Reading
composes along `++`, so the format of a type is proved token by token.

Lengths and counts are written in 32 bits at most. A token that needs more is
cut short, so reading back is stated for tokens that fit.
-/

namespace DocSite.Wire

/-- Lengths and counts have to fit in 32 bits. -/
def Token.Fits : Token → Prop
  | .str text => text.utf8ByteSize < UInt32.size
  | .array count => count < UInt32.size
  | .uint _ | .bool _ | .nil _ => True

instance : DecidablePred Token.Fits
  | .str text => inferInstanceAs (Decidable (text.utf8ByteSize < UInt32.size))
  | .array count => inferInstanceAs (Decidable (count < UInt32.size))
  | .uint _ | .bool _ | .nil _ => inferInstanceAs (Decidable True)

def FitAll (ts : List Token) : Prop := ∀ t ∈ ts, t.Fits

@[simp] theorem fitAll_nil : FitAll [] := by simp [FitAll]

@[simp] theorem fitAll_cons : FitAll (t :: ts) ↔ t.Fits ∧ FitAll ts := by simp [FitAll]

@[simp] theorem fitAll_append : FitAll (ts ++ us) ↔ FitAll ts ∧ FitAll us := by
  simp only [FitAll, List.mem_append]
  constructor
  · intro h
    exact ⟨fun t ht => h t (.inl ht), fun t ht => h t (.inr ht)⟩
  · rintro ⟨hts, hus⟩ t (ht | ht)
    · exact hts t ht
    · exact hus t ht

theorem fitAll_flatMap {vs : List α} {tokens : α → List Token} :
    FitAll (vs.flatMap tokens) ↔ ∀ v ∈ vs, FitAll (tokens v) := by
  simp only [FitAll, List.mem_flatMap]
  exact ⟨fun h v hv t ht => h t ⟨v, hv, ht⟩, fun h t ⟨v, hv, ht⟩ => h v hv t ht⟩

def bytesOf (ts : List Token) : List UInt8 := ts.flatMap Token.bytes

@[simp] theorem bytesOf_nil : bytesOf [] = [] := rfl

@[simp] theorem bytesOf_cons : bytesOf (t :: ts) = t.bytes ++ bytesOf ts := rfl

@[simp] theorem bytesOf_append : bytesOf (ts ++ us) = bytesOf ts ++ bytesOf us := by
  simp [bytesOf]

def Reads (d : Decoder α) (ts : List Token) (v : α) : Prop :=
  ∀ pos rest, d ⟨pos, bytesOf ts ++ rest⟩ = .ok v ⟨pos + (bytesOf ts).length, rest⟩

-- ---------------------------------------------------------------------------
-- Decoders in sequence
-- ---------------------------------------------------------------------------

theorem Reads.pure (v : α) : Reads (Pure.pure v) [] v := fun _ _ => by simp

theorem Reads.bind {d : Decoder α} {k : α → Decoder β} (h : Reads d ts v)
    (hk : Reads (k v) us w) : Reads (d >>= k) (ts ++ us) w := by
  intro pos rest
  rw [bytesOf_append, List.append_assoc, run_bind_ok (h pos _), hk]
  simp [Nat.add_assoc]

/-- The last field of a value: what is read is wrapped up and returned. -/
theorem Reads.wrap {d : Decoder α} {k : α → Decoder β} (h : Reads d ts v)
    (hk : Reads (k v) [] w) : Reads (d >>= k) ts w := by
  simpa using h.bind hk

-- ---------------------------------------------------------------------------
-- Markers and numbers
-- ---------------------------------------------------------------------------

namespace Decoder

theorem take_append (h : xs.length = n) (pos : Nat) (rest : List UInt8) :
    take n ⟨pos, xs ++ rest⟩ = .ok xs ⟨pos + n, rest⟩ := by
  simp [take, ← h]

theorem marker_cons (expected : Shape) (h : b ≠ 0xc0) (pos : Nat) (rest : List UInt8) :
    marker expected ⟨pos, b :: rest⟩ = .ok b ⟨pos + 1, rest⟩ := by
  simp [marker, position, byte, h, bind, EStateM.bind]

theorem ofBytes_byte (h : n ≤ 0xff) : ofBytes [UInt8.ofNat n] = n := by
  simp [ofBytes]
  omega

theorem ofBytes_bytes16 (h : n ≤ 0xffff) : ofBytes (bytes16 n) = n := by
  simp [ofBytes, bytes16]
  omega

theorem ofBytes_bytes32 (h : n < UInt32.size) : ofBytes (bytes32 n) = n := by
  have h : n < 4294967296 := h
  simp [ofBytes, bytes32]
  omega

theorem number_append (h : xs.length = width) (hn : ofBytes xs = n) (pos : Nat)
    (rest : List UInt8) : number width ⟨pos, xs ++ rest⟩ = .ok n ⟨pos + width, rest⟩ := by
  unfold number
  rw [run_bind_ok (take_append h pos rest), hn]
  rfl

end Decoder

-- ---------------------------------------------------------------------------
-- Headers
-- ---------------------------------------------------------------------------

theorem ofNat_ne_nil (h : n < 0xc0) : UInt8.ofNat n ≠ 0xc0 := by
  intro he
  have := congrArg UInt8.toNat he
  simp only [UInt8.toNat_ofNat', UInt8.reduceToNat] at this
  omega

theorem ofNat_le_iff (h : n ≤ 0xff) (b : UInt8) : UInt8.ofNat n ≤ b ↔ n ≤ b.toNat := by
  rw [UInt8.le_iff_toNat_le, UInt8.toNat_ofNat', Nat.mod_eq_of_lt (by omega)]

theorem le_ofNat_iff (h : n ≤ 0xff) (b : UInt8) : b ≤ UInt8.ofNat n ↔ b.toNat ≤ n := by
  rw [UInt8.le_iff_toNat_le, UInt8.toNat_ofNat', Nat.mod_eq_of_lt (by omega)]

namespace Decoder

/-- Every header reader starts like this. -/
theorem header_cons {k : Nat → UInt8 → Decoder α} (expected : Shape) (h : b ≠ 0xc0) (pos : Nat)
    (rest : List UInt8) :
    (do let offset ← position; let m ← marker expected; k offset m : Decoder α) ⟨pos, b :: rest⟩ =
      k pos b ⟨pos + 1, rest⟩ := by
  rw [run_bind_ok (show position ⟨pos, b :: rest⟩ = .ok pos ⟨pos, b :: rest⟩ from rfl),
    run_bind_ok (marker_cons expected h pos rest)]

theorem uint_uintBytes (h : n < UInt32.size) (pos : Nat) (rest : List UInt8) :
    uint ⟨pos, Token.uintBytes n ++ rest⟩ = .ok n ⟨pos + (Token.uintBytes n).length, rest⟩ := by
  unfold Token.uintBytes uint
  split
  · rename_i hn
    have hm : (UInt8.ofNat n) ≤ 0x7f := (ofNat_le_iff (by omega) _).2 hn
    simp [header_cons _ (ofNat_ne_nil (show n < 0xc0 by omega)), hm]
    omega
  split
  · rename_i hn
    simp only [List.cons_append, header_cons _ (show (0xcc : UInt8) ≠ 0xc0 by decide)]
    exact number_append rfl (ofBytes_byte hn) (pos + 1) rest
  split
  · rename_i hn
    simp only [List.cons_append, header_cons _ (show (0xcd : UInt8) ≠ 0xc0 by decide)]
    exact number_append rfl (ofBytes_bytes16 hn) (pos + 1) rest
  · simp only [List.cons_append, header_cons _ (show (0xce : UInt8) ≠ 0xc0 by decide)]
    exact number_append rfl (ofBytes_bytes32 h) (pos + 1) rest

theorem strLength_strHeader (h : n < UInt32.size) (pos : Nat) (rest : List UInt8) :
    strLength ⟨pos, Token.strHeader n ++ rest⟩ = .ok n ⟨pos + (Token.strHeader n).length, rest⟩ := by
  unfold Token.strHeader strLength
  split
  · rename_i hn
    have hm : 0xa0 ≤ UInt8.ofNat (0xa0 + n) ∧ UInt8.ofNat (0xa0 + n) ≤ 0xbf :=
      ⟨(le_ofNat_iff (by omega) _).2 (by simp), (ofNat_le_iff (by omega) _).2 (by simp; omega)⟩
    rw [List.singleton_append, header_cons _ (ofNat_ne_nil (show 0xa0 + n < 0xc0 by omega))]
    rw [if_pos hm, UInt8.toNat_ofNat', Nat.mod_eq_of_lt (by omega), Nat.add_sub_cancel_left]
    rfl
  split
  · rename_i hn
    simp only [List.cons_append, header_cons _ (show (0xd9 : UInt8) ≠ 0xc0 by decide)]
    exact number_append rfl (ofBytes_byte hn) (pos + 1) rest
  split
  · rename_i hn
    simp only [List.cons_append, header_cons _ (show (0xda : UInt8) ≠ 0xc0 by decide)]
    exact number_append rfl (ofBytes_bytes16 hn) (pos + 1) rest
  · simp only [List.cons_append, header_cons _ (show (0xdb : UInt8) ≠ 0xc0 by decide)]
    exact number_append rfl (ofBytes_bytes32 h) (pos + 1) rest

theorem arrayLength_arrayHeader (h : n < UInt32.size) (pos : Nat) (rest : List UInt8) :
    arrayLength ⟨pos, Token.arrayHeader n ++ rest⟩ =
      .ok n ⟨pos + (Token.arrayHeader n).length, rest⟩ := by
  unfold Token.arrayHeader arrayLength
  split
  · rename_i hn
    have hm : 0x90 ≤ UInt8.ofNat (0x90 + n) ∧ UInt8.ofNat (0x90 + n) ≤ 0x9f :=
      ⟨(le_ofNat_iff (by omega) _).2 (by simp), (ofNat_le_iff (by omega) _).2 (by simp; omega)⟩
    rw [List.singleton_append, header_cons _ (ofNat_ne_nil (show 0x90 + n < 0xc0 by omega))]
    rw [if_pos hm, UInt8.toNat_ofNat', Nat.mod_eq_of_lt (by omega), Nat.add_sub_cancel_left]
    rfl
  split
  · rename_i hn
    simp only [List.cons_append, header_cons _ (show (0xdc : UInt8) ≠ 0xc0 by decide)]
    exact number_append rfl (ofBytes_bytes16 hn) (pos + 1) rest
  · simp only [List.cons_append, header_cons _ (show (0xdd : UInt8) ≠ 0xc0 by decide)]
    exact number_append rfl (ofBytes_bytes32 h) (pos + 1) rest

end Decoder

-- ---------------------------------------------------------------------------
-- Single tokens
-- ---------------------------------------------------------------------------

namespace Reads

theorem uint (value : UInt32) : Reads Decoder.uint [.uint value] value.toNat := by
  intro pos rest
  simpa [Token.bytes] using Decoder.uint_uintBytes value.toNat_lt pos rest

theorem tag (tagged : Tagged) (value : UInt32) {n : Nat} (hn : value.toNat = n)
    (h : n ≤ tagged.maxTag) : Reads (Decoder.tag tagged) [.uint value] n := by
  intro pos rest
  unfold Decoder.tag
  rw [run_bind_ok (show Decoder.position _ = .ok pos _ from rfl),
    run_bind_ok (uint value pos rest), hn, if_pos h]
  rfl

theorem bool (value : Bool) : Reads Decoder.bool [.bool value] value := by
  intro pos rest
  cases value <;> rfl

theorem fromUTF8?_toUTF8 (text : String) :
    String.fromUTF8? ⟨text.toUTF8.data.toList.toArray⟩ = some text := by
  have hv : (⟨text.toUTF8.data.toList.toArray⟩ : ByteArray).IsValidUTF8 := by
    simpa using text.isValidUTF8
  rw [String.fromUTF8?, dif_pos hv]
  simp [String.fromUTF8]

theorem str (text : String) (h : text.utf8ByteSize < UInt32.size) :
    Reads Decoder.str [.str text] text := by
  intro pos rest
  have hl : text.toUTF8.data.toList.length = text.utf8ByteSize := by simp
  simp only [bytesOf_cons, Token.bytes, bytesOf_nil, List.append_nil, List.append_assoc]
  unfold Decoder.str
  rw [run_bind_ok (Decoder.strLength_strHeader h pos _),
    run_bind_ok (show Decoder.position _ = .ok _ _ from rfl),
    run_bind_ok (Decoder.take_append hl _ rest)]
  simp only [fromUTF8?_toUTF8]
  simp [Nat.add_assoc]

theorem array (count : Nat) (h : count < UInt32.size) :
    Reads Decoder.arrayLength [.array count] count := by
  intro pos rest
  simpa [Token.bytes] using Decoder.arrayLength_arrayHeader h pos rest

-- ---------------------------------------------------------------------------
-- Lists
-- ---------------------------------------------------------------------------

theorem repeated {d : Decoder α} {tokens : α → List Token}
    (h : ∀ v ∈ vs, Reads d (tokens v) v) :
    Reads (Decoder.repeated d vs.length) (vs.flatMap tokens) vs := by
  induction vs with
  | nil => exact .pure []
  | cons v vs ih =>
    have hv := h v (by simp)
    have hvs := ih fun w hw => h w (by simp [hw])
    exact hv.bind (hvs.wrap (.pure _))

theorem list {d : Decoder α} {tokens : α → List Token} (hc : vs.length < UInt32.size)
    (h : ∀ v ∈ vs, Reads d (tokens v) v) :
    Reads (Decoder.list d) (listTokens tokens vs) vs :=
  (array vs.length hc).bind (repeated h)

end Reads

-- ---------------------------------------------------------------------------
-- Optional values
-- ---------------------------------------------------------------------------

/-- Only a nil starts with the nil marker. -/
theorem Token.bytes_cases (t : Token) :
    (∃ k, t = .nil k) ∨ ∃ b bs, t.bytes = b :: bs ∧ b ≠ 0xc0 := by
  cases t with
  | nil k => exact .inl ⟨k, rfl⟩
  | bool value =>
    refine .inr ⟨_, [], rfl, ?_⟩
    cases value <;> decide
  | uint value =>
    right
    simp only [bytes, uintBytes]
    split
    · exact ⟨_, _, rfl, ofNat_ne_nil (by omega)⟩
    · split
      · exact ⟨_, _, rfl, by decide⟩
      · split <;> exact ⟨_, _, rfl, by decide⟩
  | str text =>
    right
    simp only [bytes, strHeader]
    split
    · exact ⟨_, _, rfl, ofNat_ne_nil (by omega)⟩
    · split
      · exact ⟨_, _, rfl, by decide⟩
      · split <;> exact ⟨_, _, rfl, by decide⟩
  | array count =>
    right
    simp only [bytes, arrayHeader]
    split
    · exact ⟨_, _, rfl, ofNat_ne_nil (by omega)⟩
    · split <;> exact ⟨_, _, rfl, by decide⟩

theorem Decoder.skipNil_nil (k : Absent) (pos : Nat) (rest : List UInt8) :
    skipNil k ⟨pos, (Token.nil k).bytes ++ rest⟩ = .ok true ⟨pos + 2, rest⟩ := by
  simp [skipNil, Token.bytes]

theorem Decoder.skipNil_other {t : Token} (h : t ≠ .nil k) (pos : Nat) (rest : List UInt8) :
    skipNil k ⟨pos, t.bytes ++ rest⟩ = .ok false ⟨pos, t.bytes ++ rest⟩ := by
  rcases t.bytes_cases with ⟨j, rfl⟩ | ⟨b, bs, ht, hb⟩
  · have hjk : j ≠ k := fun hjk => h (hjk ▸ rfl)
    simp [skipNil, Token.bytes, hjk]
  · simp [skipNil, ht, hb]

namespace Reads

theorem none (d : Decoder α) (k : Absent) :
    Reads (Decoder.optional k d) [.nil k] Option.none := by
  intro pos rest
  simp only [bytesOf_cons, bytesOf_nil, List.append_nil]
  unfold Decoder.optional
  rw [run_bind_ok (Decoder.skipNil_nil k pos rest)]
  rfl

/-- A present value must not look like the absence it stands for. -/
theorem some {d : Decoder α} (h : Reads d (t :: ts) v) (ht : t ≠ .nil k) :
    Reads (Decoder.optional k d) (t :: ts) (Option.some v) := by
  intro pos rest
  have hskip := Decoder.skipNil_other ht pos (bytesOf ts ++ rest)
  rw [← List.append_assoc, ← bytesOf_cons] at hskip
  unfold Decoder.optional
  rw [run_bind_ok hskip, if_neg Bool.false_ne_true, run_bind_ok (h pos rest)]
  rfl

end Reads

end DocSite.Wire
