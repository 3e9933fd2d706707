import DocSite.Proofs.Wire.Motion

/-!
# Spellings of tokens

A number, a length or a count may stand in more bytes than it needs, so a token
can be spelled in several ways, and readers take them all. `Carries` relates a
byte string to the tokens it spells. The form that is written is the shortest,
and no other spelling is as short (`shortest_carries`).
-/

namespace DocSite.Wire

/-- The forms of a header. A small value stands in the marker itself; any value may stand in the
bytes behind a marker that says how many there are. -/
structure HeaderForm where
  base : Nat
  limit : Nat
  wide : List (UInt8 × Nat)
  wide_pos : ∀ p ∈ wide, 0 < p.2 := by decide
  wide_inj : ∀ p ∈ wide, ∀ q ∈ wide, p.2 = q.2 → p = q := by decide

namespace HeaderForm

def uint : HeaderForm where
  base := 0
  limit := 0x7f
  wide := [(0xcc, 1), (0xcd, 2), (0xce, 4)]

def str : HeaderForm where
  base := 0xa0
  limit := 31
  wide := [(0xd9, 1), (0xda, 2), (0xdb, 4)]

def array : HeaderForm where
  base := 0x90
  limit := 15
  wide := [(0xdc, 2), (0xdd, 4)]

inductive Spells (f : HeaderForm) (n : Nat) : List UInt8 → Prop
  | small (hn : n ≤ f.limit) : Spells f n [UInt8.ofNat (f.base + n)]
  | wide (hm : (m, bs.length) ∈ f.wide) (hn : Decoder.ofBytes bs = n) : Spells f n (m :: bs)

end HeaderForm

inductive Token.Spelled : Token → List UInt8 → Prop
  | uint (h : HeaderForm.uint.Spells value.toNat bs) : Spelled (.uint value) bs
  | bool (value : Bool) : Spelled (.bool value) (Token.bool value).bytes
  | str (h : HeaderForm.str.Spells text.utf8ByteSize bs) :
    Spelled (.str text) (bs ++ text.toUTF8.data.toList)
  | array (h : HeaderForm.array.Spells count bs) : Spelled (.array count) bs
  | nil (absent : Absent) : Spelled (.nil absent) (Token.nil absent).bytes

/-- A byte string spells a token list, one token after the other. -/
inductive Carries : List UInt8 → List Token → Prop
  | nil : Carries [] []
  | cons (ht : t.Spelled bs) (h : Carries cs ts) : Carries (bs ++ cs) (t :: ts)

theorem Carries.append (h : Carries bs ts) (h' : Carries cs us) : Carries (bs ++ cs) (ts ++ us) := by
  induction h with
  | nil => exact h'
  | cons ht _ ih =>
    rw [List.append_assoc]
    exact .cons ht ih

theorem Carries.single (h : t.Spelled bs) : Carries bs [t] := by
  simpa using Carries.cons h .nil

-- ---------------------------------------------------------------------------
-- Numbers of a given width
-- ---------------------------------------------------------------------------

namespace Decoder

theorem ofBytes_concat (bs : List UInt8) (b : UInt8) :
    ofBytes (bs.concat b) = 256 * ofBytes bs + b.toNat := by
  simp [ofBytes]

/-- How many numbers there are of a width. -/
def span : Nat → Nat
  | 0 => 1
  | width + 1 => 256 * span width

theorem ofBytes_lt (bs : List UInt8) : ofBytes bs < span bs.length := by
  -- on the width, with the low byte taken off the end
  induction h : bs.length generalizing bs with
  | zero =>
    cases List.length_eq_zero_iff.1 h
    decide
  | succ n ih =>
    obtain rfl | ⟨cs, b, rfl⟩ := List.eq_nil_or_concat bs
    · cases h
    · rw [List.length_concat, Nat.add_right_cancel_iff] at h
      have := ih cs h
      have := b.toNat_lt
      rw [ofBytes_concat, span]
      omega

theorem ofBytes_inj (hl : bs.length = cs.length) (h : ofBytes bs = ofBytes cs) : bs = cs := by
  induction hn : bs.length generalizing bs cs with
  | zero =>
    cases List.length_eq_zero_iff.1 hn
    cases List.length_eq_zero_iff.1 (hl.symm.trans hn)
    rfl
  | succ n ih =>
    obtain rfl | ⟨bs, b, rfl⟩ := List.eq_nil_or_concat bs
    · cases hn
    obtain rfl | ⟨cs, c, rfl⟩ := List.eq_nil_or_concat cs
    · simp at hl
    simp only [List.length_concat, Nat.add_right_cancel_iff] at hl hn
    rw [ofBytes_concat, ofBytes_concat] at h
    have := b.toNat_lt
    have := c.toNat_lt
    rw [ih hl (by omega) hn, UInt8.toNat_inj.1 (show b.toNat = c.toNat by omega)]

end Decoder

-- ---------------------------------------------------------------------------
-- Shortest spellings
-- ---------------------------------------------------------------------------

/-- The shortest of a family of byte strings, and the only one of its length. -/
def Shortest (P : List UInt8 → Prop) (bs : List UInt8) : Prop :=
  P bs ∧ ∀ cs, P cs → bs.length ≤ cs.length ∧ (cs.length = bs.length → cs = bs)

theorem HeaderForm.Spells.lt {f : HeaderForm} (h : f.Spells n bs) (hl : f.limit < UInt32.size)
    (hw : ∀ p ∈ f.wide, Decoder.span p.2 ≤ UInt32.size) : n < UInt32.size := by
  cases h with
  | small hn => omega
  | @wide m bs hm hn =>
    rw [← hn]
    exact Nat.lt_of_lt_of_le (Decoder.ofBytes_lt bs) (hw _ hm)

/-- The length says which form it is. -/
theorem HeaderForm.Spells.eq_of_length {f : HeaderForm} (h : f.Spells n bs) (h' : f.Spells n cs)
    (hl : bs.length = cs.length) : bs = cs := by
  cases h with
  | small hn =>
    cases h' with
    | small => rfl
    | wide hm' =>
      have hpos := f.wide_pos _ hm'
      simp only [List.length_nil, List.length_cons] at hl hpos
      omega
  | wide hm hn =>
    cases h' with
    | small =>
      have hpos := f.wide_pos _ hm
      simp only [List.length_nil, List.length_cons] at hl hpos
      omega
    | wide hm' hn' =>
      have hl := Nat.succ.inj hl
      have hmarker := congrArg Prod.fst (f.wide_inj _ hm _ hm' hl)
      rw [Decoder.ofBytes_inj hl (hn.trans hn'.symm)]
      exact congrArg (· :: _) hmarker

/-- A spelling is the shortest if it uses the marker and the narrowest width that it can. -/
theorem HeaderForm.Spells.shortest {f : HeaderForm} (h : f.Spells n bs)
    (hsmall : n ≤ f.limit → bs.length = 1)
    (hwide : ∀ p ∈ f.wide, n < Decoder.span p.2 → bs.length ≤ p.2 + 1) : Shortest (f.Spells n) bs := by
  refine ⟨h, fun cs hc => ⟨?_, hc.eq_of_length h⟩⟩
  cases hc with
  | small hn => exact Nat.le_of_eq (hsmall hn)
  | @wide m cs hm hn => exact hwide _ hm (hn ▸ Decoder.ofBytes_lt cs)

theorem spells_uintBytes (h : n < UInt32.size) : HeaderForm.uint.Spells n (Token.uintBytes n) := by
  unfold Token.uintBytes
  split
  · rename_i hn
    have := HeaderForm.Spells.small (f := .uint) hn
    rwa [HeaderForm.uint, Nat.zero_add] at this
  split
  · rename_i hn
    exact .wide (by simp [HeaderForm.uint]) (Decoder.ofBytes_byte hn)
  split
  · rename_i hn
    exact .wide (by simp [HeaderForm.uint, bytes16]) (Decoder.ofBytes_bytes16 hn)
  · exact .wide (by simp [HeaderForm.uint, bytes32]) (Decoder.ofBytes_bytes32 h)

theorem spells_strHeader (h : n < UInt32.size) : HeaderForm.str.Spells n (Token.strHeader n) := by
  unfold Token.strHeader
  split
  · rename_i hn
    exact .small hn
  split
  · rename_i hn
    exact .wide (by simp [HeaderForm.str]) (Decoder.ofBytes_byte hn)
  split
  · rename_i hn
    exact .wide (by simp [HeaderForm.str, bytes16]) (Decoder.ofBytes_bytes16 hn)
  · exact .wide (by simp [HeaderForm.str, bytes32]) (Decoder.ofBytes_bytes32 h)

theorem spells_arrayHeader (h : n < UInt32.size) :
    HeaderForm.array.Spells n (Token.arrayHeader n) := by
  unfold Token.arrayHeader
  split
  · rename_i hn
    exact .small hn
  split
  · rename_i hn
    exact .wide (by simp [HeaderForm.array, bytes16]) (Decoder.ofBytes_bytes16 hn)
  · exact .wide (by simp [HeaderForm.array, bytes32]) (Decoder.ofBytes_bytes32 h)

@[simp] theorem length_bytes16 (n : Nat) : (bytes16 n).length = 2 := rfl

@[simp] theorem length_bytes32 (n : Nat) : (bytes32 n).length = 4 := rfl

theorem shortest_uintBytes (h : n < UInt32.size) :
    Shortest (HeaderForm.uint.Spells n) (Token.uintBytes n) := by
  refine (spells_uintBytes h).shortest (fun (hn : n ≤ 0x7f) => ?_) ?_
  · rw [Token.uintBytes, if_pos hn, List.length_singleton]
  · simp only [HeaderForm.uint, List.forall_mem_cons, Decoder.span, Token.uintBytes]
    grind [length_bytes16, length_bytes32]

theorem shortest_strHeader (h : n < UInt32.size) :
    Shortest (HeaderForm.str.Spells n) (Token.strHeader n) := by
  refine (spells_strHeader h).shortest (fun (hn : n ≤ 31) => ?_) ?_
  · rw [Token.strHeader, if_pos hn, List.length_singleton]
  · simp only [HeaderForm.str, List.forall_mem_cons, Decoder.span, Token.strHeader]
    grind [length_bytes16, length_bytes32]

theorem shortest_arrayHeader (h : n < UInt32.size) :
    Shortest (HeaderForm.array.Spells n) (Token.arrayHeader n) := by
  refine (spells_arrayHeader h).shortest (fun (hn : n ≤ 15) => ?_) ?_
  · rw [Token.arrayHeader, if_pos hn, List.length_singleton]
  · simp only [HeaderForm.array, List.forall_mem_cons, Decoder.span, Token.arrayHeader]
    grind [length_bytes16, length_bytes32]

theorem Token.shortest (t : Token) (h : t.Fits) : Shortest t.Spelled t.bytes := by
  cases t with
  | uint value =>
    obtain ⟨hw, hs⟩ := shortest_uintBytes value.toNat_lt
    refine ⟨.uint hw, fun cs hc => ?_⟩
    cases hc with
    | uint hc => exact hs cs hc
  | bool value =>
    refine ⟨.bool value, fun cs hc => ?_⟩
    cases hc
    exact ⟨Nat.le_refl _, fun _ => rfl⟩
  | str text =>
    obtain ⟨hw, hs⟩ := shortest_strHeader h
    refine ⟨.str hw, fun cs hc => ?_⟩
    cases hc with
    | str hc =>
      obtain ⟨hle, heq⟩ := hs _ hc
      simp only [bytes, List.length_append]
      exact ⟨by omega, fun hl => by rw [heq (by omega)]⟩
  | array count =>
    obtain ⟨hw, hs⟩ := shortest_arrayHeader h
    refine ⟨.array hw, fun cs hc => ?_⟩
    cases hc with
    | array hc => exact hs cs hc
  | nil absent =>
    refine ⟨.nil absent, fun cs hc => ?_⟩
    cases hc
    exact ⟨Nat.le_refl _, fun _ => rfl⟩

theorem shortest_carries (h : FitAll ts) : Shortest (Carries · ts) (bytesOf ts) := by
  induction ts with
  | nil =>
    refine ⟨.nil, fun cs hc => ?_⟩
    cases hc
    exact ⟨Nat.le_refl _, fun _ => rfl⟩
  | cons t ts ih =>
    rw [fitAll_cons] at h
    obtain ⟨ht, hshort⟩ := t.shortest h.1
    obtain ⟨hts, hshorts⟩ := ih h.2
    refine ⟨.cons ht hts, fun cs hc => ?_⟩
    cases hc with
    | cons hb hcs =>
      obtain ⟨hle, heq⟩ := hshort _ hb
      obtain ⟨hles, heqs⟩ := hshorts _ hcs
      simp only [bytesOf_cons, List.length_append]
      exact ⟨by omega, fun hl => by rw [heq (by omega), heqs (by omega)]⟩

/-- No spelling has room for a length that does not fit. -/
theorem Token.Spelled.fits {t : Token} (h : t.Spelled bs) : t.Fits := by
  cases h with
  | uint | bool | nil => trivial
  | str h => exact h.lt (by decide) (by decide)
  | array h => exact h.lt (by decide) (by decide)

theorem Carries.fitAll (h : Carries bs ts) : FitAll ts := by
  induction h with
  | nil => exact fitAll_nil
  | cons ht _ ih => exact fitAll_cons.2 ⟨ht.fits, ih⟩

-- ---------------------------------------------------------------------------
-- What headers are read from
-- ---------------------------------------------------------------------------

namespace Decoder

theorem take_eq_ok {c : Cursor} (h : take n c = .ok bs c') :
    c.rest = bs ++ c'.rest ∧ bs.length = n := by
  simp only [take] at h
  split at h
  · cases h
  · rename_i hn
    cases h
    rw [List.length_take] at hn ⊢
    exact ⟨(List.take_append_drop n c.rest).symm, by omega⟩

theorem marker_eq_ok {c : Cursor} (h : marker expected c = .ok m c') : c.rest = m :: c'.rest := by
  obtain ⟨pos, rest⟩ := c
  match rest with
  | [] => cases h
  | b :: rest =>
    by_cases hb : b = 0xc0
    · subst hb
      cases rest with
      | nil => cases h
      | cons kind rest =>
        obtain ⟨e, -, hrun⟩ := marker_nil expected kind pos
        rw [hrun] at h
        cases h
    · rw [marker_cons expected hb] at h
      cases h
      rfl

theorem header_eq_ok {c : Cursor} {k : Nat → UInt8 → Decoder α}
    (h : (do let offset ← position; let m ← marker expected; k offset m : Decoder α) c = .ok v c') :
    ∃ m c₁, c.rest = m :: c₁.rest ∧ k c.pos m c₁ = .ok v c' := by
  obtain ⟨offset, c₀, hp, h⟩ := run_bind_eq_ok h
  cases hp
  obtain ⟨m, c₁, hm, h⟩ := run_bind_eq_ok h
  exact ⟨m, c₁, marker_eq_ok hm, h⟩

end Decoder

/-- The bytes between two cursors spell a header. -/
def HeaderForm.Between (f : HeaderForm) (n : Nat) (c c' : Cursor) : Prop :=
  ∃ bs, c.rest = bs ++ c'.rest ∧ f.Spells n bs

namespace HeaderForm

theorem between_small {f : HeaderForm} {c : Cursor} (hc : c.rest = m :: c'.rest)
    (hm : m.toNat = f.base + n) (hl : n ≤ f.limit) : f.Between n c c' := by
  have h := Spells.small hl
  rw [← hm, UInt8.ofNat_toNat] at h
  exact ⟨[m], hc, h⟩

theorem between_wide {f : HeaderForm} {c : Cursor} (hc : c.rest = m :: c₁.rest)
    (hm : (m, width) ∈ f.wide) (h : Decoder.number width c₁ = .ok n c') : f.Between n c c' := by
  obtain ⟨bs, c₂, hbs, h⟩ := run_bind_eq_ok h
  cases h
  obtain ⟨hrest, rfl⟩ := Decoder.take_eq_ok hbs
  exact ⟨m :: bs, by rw [hc, hrest, List.cons_append], .wide hm rfl⟩

end HeaderForm

theorem uint_between {c : Cursor} (h : Decoder.uint c = .ok n c') :
    HeaderForm.uint.Between n c c' := by
  obtain ⟨m, c₁, hc, h⟩ := Decoder.header_eq_ok h
  split at h
  · rename_i hm
    cases h
    exact HeaderForm.between_small hc (Nat.zero_add _).symm (UInt8.le_iff_toNat_le.1 hm)
  split at h
  · exact HeaderForm.between_wide hc (by simp [*, HeaderForm.uint]) h
  split at h
  · exact HeaderForm.between_wide hc (by simp [*, HeaderForm.uint]) h
  split at h
  · exact HeaderForm.between_wide hc (by simp [*, HeaderForm.uint]) h
  · cases h

theorem strLength_between {c : Cursor} (h : Decoder.strLength c = .ok n c') :
    HeaderForm.str.Between n c c' := by
  obtain ⟨m, c₁, hc, h⟩ := Decoder.header_eq_ok h
  split at h
  · rename_i hm
    obtain ⟨rfl, rfl⟩ := EStateM.Result.ok.inj h
    have hlo : 0xa0 ≤ m.toNat := UInt8.le_iff_toNat_le.1 hm.1
    have hhi : m.toNat ≤ 0xbf := UInt8.le_iff_toNat_le.1 hm.2
    exact HeaderForm.between_small hc (Nat.add_sub_cancel' hlo).symm
      (show m.toNat - 0xa0 ≤ 31 by omega)
  split at h
  · exact HeaderForm.between_wide hc (by simp [*, HeaderForm.str]) h
  split at h
  · exact HeaderForm.between_wide hc (by simp [*, HeaderForm.str]) h
  split at h
  · exact HeaderForm.between_wide hc (by simp [*, HeaderForm.str]) h
  · cases h

theorem arrayLength_between {c : Cursor} (h : Decoder.arrayLength c = .ok n c') :
    HeaderForm.array.Between n c c' := by
  obtain ⟨m, c₁, hc, h⟩ := Decoder.header_eq_ok h
  split at h
  · rename_i hm
    obtain ⟨rfl, rfl⟩ := EStateM.Result.ok.inj h
    have hlo : 0x90 ≤ m.toNat := UInt8.le_iff_toNat_le.1 hm.1
    have hhi : m.toNat ≤ 0x9f := UInt8.le_iff_toNat_le.1 hm.2
    exact HeaderForm.between_small hc (Nat.add_sub_cancel' hlo).symm
      (show m.toNat - 0x90 ≤ 15 by omega)
  split at h
  · exact HeaderForm.between_wide hc (by simp [*, HeaderForm.array]) h
  split at h
  · exact HeaderForm.between_wide hc (by simp [*, HeaderForm.array]) h
  · cases h

-- ---------------------------------------------------------------------------
-- Sound decoders
-- ---------------------------------------------------------------------------

/-- A decoder that has `seen` the first tokens of a value goes past bytes that carry the others,
if it returns the value. -/
def Sound (seen : List Token) (d : Decoder α) (tokens : α → List Token) : Prop :=
  ∀ c v c', d c = .ok v c' → ∃ bs ts, c.rest = bs ++ c'.rest ∧ Carries bs ts ∧ tokens v = seen ++ ts

namespace Sound

theorem pure {tokens : α → List Token} (h : tokens v = seen) :
    Sound seen (Pure.pure v : Decoder α) tokens := by
  intro c w c' hc
  cases hc
  exact ⟨[], [], rfl, .nil, by rw [h, List.append_nil]⟩

theorem fail {tokens : α → List Token} (e : Corruption) :
    Sound seen (Decoder.fail e : Decoder α) tokens := by
  intro c v c' hc
  cases hc

/-- What is known of the value that was read can be used to read on. -/
theorem bindOf {P : α → Prop} {d : Decoder α} {k : α → Decoder β} {tokens : α → List Token}
    {tokens' : β → List Token} (h : Sound [] d tokens) (hP : ∀ c v c', d c = .ok v c' → P v)
    (hk : ∀ v, P v → Sound (seen ++ tokens v) (k v) tokens') : Sound seen (d >>= k) tokens' := by
  intro c w c' hc
  obtain ⟨v, c₁, hv, hc⟩ := run_bind_eq_ok hc
  obtain ⟨bs, ts, hbs, hts, rfl⟩ := h c v c₁ hv
  obtain ⟨bs', ts', hbs', hts', hw⟩ := hk v (hP c v c₁ hv) c₁ w c' hc
  exact ⟨bs ++ bs', tokens v ++ ts', by simp [hbs, hbs'], hts.append hts', by simp [hw]⟩

theorem bind {d : Decoder α} {k : α → Decoder β} {tokens : α → List Token}
    {tokens' : β → List Token} (h : Sound [] d tokens)
    (hk : ∀ v, Sound (seen ++ tokens v) (k v) tokens') : Sound seen (d >>= k) tokens' :=
  h.bindOf (fun _ _ _ _ => trivial) fun v _ => hk v

theorem uint : Sound [] Decoder.uint fun n => [.uint (.ofNat n)] := by
  intro c n c' h
  obtain ⟨bs, hc, hbs⟩ := uint_between h
  have hn : (UInt32.ofNat n).toNat = n :=
    UInt32.toNat_ofNat_of_lt' (hbs.lt (by decide) (by decide))
  exact ⟨bs, _, hc, .single (.uint (by rwa [hn])), rfl⟩

theorem tag_eq_ok {c : Cursor} (h : Decoder.tag tagged c = .ok n c') :
    Decoder.uint c = .ok n c' ∧ n ≤ tagged.maxTag := by
  obtain ⟨offset, c₀, hp, h⟩ := run_bind_eq_ok h
  cases hp
  obtain ⟨m, c₁, hm, h⟩ := run_bind_eq_ok h
  split at h
  · rename_i hle
    cases h
    exact ⟨hm, hle⟩
  · cases h

theorem tag {k : Nat → Decoder α} {tokens : α → List Token} (tagged : Tagged)
    (hk : ∀ n, n ≤ tagged.maxTag → Sound (seen ++ [.uint (.ofNat n)]) (k n) tokens) :
    Sound seen (Decoder.tag tagged >>= k) tokens := by
  have htag : Sound [] (Decoder.tag tagged) fun n => [.uint (.ofNat n)] :=
    fun c n c' h => uint c n c' (tag_eq_ok h).1
  exact htag.bindOf (fun c n c' h => (tag_eq_ok h).2) hk

theorem bool : Sound [] Decoder.bool fun b => [.bool b] := by
  intro c b c' h
  obtain ⟨m, c₁, hc, h⟩ := Decoder.header_eq_ok h
  split at h
  · rename_i hm
    cases h
    exact ⟨[m], _, hc, .single (hm ▸ .bool true), rfl⟩
  split at h
  · rename_i hm
    cases h
    exact ⟨[m], _, hc, .single (hm ▸ .bool false), rfl⟩
  · cases h

theorem toUTF8_of_fromUTF8? {text : String} (h : String.fromUTF8? bytes = some text) :
    text.toUTF8 = bytes := by
  unfold String.fromUTF8? at h
  split at h
  · cases h
    rfl
  · cases h

theorem str : Sound [] Decoder.str fun text => [.str text] := by
  intro c text c' h
  obtain ⟨n, c₁, hlen, h⟩ := run_bind_eq_ok h
  obtain ⟨start, c₀, hp, h⟩ := run_bind_eq_ok h
  cases hp
  obtain ⟨body, c₂, hbody, h⟩ := run_bind_eq_ok h
  cases htext : String.fromUTF8? ⟨body.toArray⟩ with
  | none =>
    rw [htext] at h
    cases h
  | some text =>
    rw [htext] at h
    cases h
    obtain ⟨bs, hc, hbs⟩ := strLength_between hlen
    obtain ⟨hc', hn⟩ := Decoder.take_eq_ok hbody
    -- the header spells the number of bytes that were taken, which are those of the text
    have hutf : text.toUTF8.data.toList = body := by rw [toUTF8_of_fromUTF8? htext]
    have hsize : text.utf8ByteSize = n := by rw [← hn, ← hutf]; simp
    refine ⟨bs ++ body, _, by rw [hc, hc', List.append_assoc], .single ?_, rfl⟩
    rw [← hutf]
    exact .str (hsize ▸ hbs)

theorem arrayLength : Sound [] Decoder.arrayLength fun n => [.array n] := by
  intro c n c' h
  obtain ⟨bs, hc, hbs⟩ := arrayLength_between h
  exact ⟨bs, _, hc, .single (.array hbs), rfl⟩

theorem optional {d : Decoder α} {tokens : α → List Token} (h : Sound [] d tokens)
    (absent : Absent) : Sound [] (Decoder.optional absent d) (optionalTokens absent tokens) := by
  intro c v c' hc
  obtain ⟨skipped, c₁, hskip, hc⟩ := run_bind_eq_ok hc
  cases skipped with
  | true =>
    cases hc
    exact ⟨_, _, (skipNil_eq_true hskip).1, .single (.nil absent), rfl⟩
  | false =>
    -- nothing was taken, so the value is all there is
    cases skipNil_eq_false hskip
    obtain ⟨w, c₂, hw, hc⟩ := run_bind_eq_ok hc
    cases hc
    exact h _ w _ hw

theorem repeated {d : Decoder α} {tokens : α → List Token} (h : Sound [] d tokens) (n : Nat) :
    Sound [] (Decoder.repeated d n) (List.flatMap tokens) := by
  induction n with
  | zero => exact .pure rfl
  | succ n ih => exact h.bind fun v => ih.bind fun vs => .pure rfl

theorem list {d : Decoder α} {tokens : α → List Token} (h : Sound [] d tokens) :
    Sound [] (Decoder.list d) (listTokens tokens) := by
  refine arrayLength.bind fun n c vs c' hc => ?_
  obtain ⟨bs, ts, hbs, hts, hvs⟩ := h.repeated n c vs c' hc
  exact ⟨bs, ts, hbs, hts, by rw [listTokens, length_of_repeated hc, hvs]; rfl⟩

end Sound

end DocSite.Wire
