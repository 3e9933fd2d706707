import DocSite.Proofs.Wire.Damage

/-!
# What is short enough fits

Every element of a list takes up at least one byte. So a cache file of fewer than 2 ^ 32
bytes has no list with a count that does not fit, and the library in it is read back
(`recordFits_of_length`). One with a longer text need not be (`decodeRecord_wrapped`).
-/

namespace DocSite.Wire

open Format (tokens read)

/-- Every list header is followed by at least as many tokens as it counts elements. -/
def Ample : List Token → Prop
  | [] => True
  | t :: ts => (∀ n, t = .array n → n ≤ ts.length) ∧ Ample ts

theorem Ample.append (ht : Ample ts) (hu : Ample us) : Ample (ts ++ us) := by
  induction ts with
  | nil => exact hu
  | cons t ts ih =>
    refine ⟨fun n hn => Nat.le_trans (ht.1 n hn) ?_, ih ht.2⟩
    show ts.length ≤ (ts ++ us).length
    rw [List.length_append]
    omega

/-- Tokens that are ample, and not none. -/
def Dense (ts : List Token) : Prop := Ample ts ∧ ts ≠ []

theorem Dense.append (ht : Dense ts) (hu : Dense us) : Dense (ts ++ us) :=
  ⟨ht.1.append hu.1, by simp [ht.2]⟩

theorem dense_cons {t : Token} (h : ∀ n, t ≠ .array n) (hts : Ample ts) : Dense (t :: ts) :=
  ⟨⟨fun n hn => absurd hn (h n), hts⟩, by simp⟩

theorem length_flatMap_le {value : α → List Token} {vs : List α}
    (h : ∀ v ∈ vs, Dense (value v)) :
    vs.length ≤ (vs.flatMap value).length := by
  induction vs with
  | nil => simp
  | cons v vs ih =>
    obtain ⟨hv, hvs⟩ := List.forall_mem_cons.1 h
    have hpos := List.length_pos_iff.2 hv.2
    have hrest := ih hvs
    rw [List.flatMap_cons, List.length_append, List.length_cons]
    omega

theorem ample_flatMap {value : α → List Token} {vs : List α} (h : ∀ v ∈ vs, Dense (value v)) :
    Ample (vs.flatMap value) := by
  induction vs with
  | nil => trivial
  | cons v vs ih =>
    obtain ⟨hv, hvs⟩ := List.forall_mem_cons.1 h
    exact hv.1.append (ih hvs)

theorem dense_list {value : α → List Token} {vs : List α} (h : ∀ v ∈ vs, Dense (value v)) :
    Dense (listTokens value vs) := by
  refine ⟨⟨fun n hn => ?_, ample_flatMap h⟩, by simp [listTokens]⟩
  cases hn
  exact length_flatMap_le h

theorem dense_optional {value : α → List Token} (h : ∀ v, Dense (value v)) (o : Option α) :
    Dense (optionalTokens k value o) := by
  cases o with
  | none => exact dense_cons (by simp) trivial
  | some v => exact h v

-- ---------------------------------------------------------------------------
-- Values
-- ---------------------------------------------------------------------------

theorem dense_string (s : String) : Dense (tokens s) := dense_cons (by simp) trivial

theorem dense_typeRef (t : TypeRef) : Dense (tokens t) := by
  obtain ⟨origin, name⟩ := t
  cases origin <;> exact dense_cons (by simp) (dense_string name).1

theorem dense_piece (p : Piece) : Dense (tokens p) := by
  cases p <;> exact dense_cons (by simp) (dense_string _).1

theorem dense_description (d : Description) : Dense (tokens d) :=
  dense_list fun p _ => dense_piece p

theorem dense_typeRef? (t : Option TypeRef) : Dense (tokens t) := dense_optional dense_typeRef t

theorem dense_description? (d : Option Description) : Dense (tokens d) :=
  dense_optional dense_description d

theorem dense_paramDocs (ds : List ParamDoc) : Dense (tokens ds) :=
  dense_list fun d _ =>
    ((dense_string d.name).append (dense_typeRef? d.type)).append (dense_description? d.description)

theorem dense_constructorDoc (d : ConstructorDoc) : Dense (tokens d) :=
  (dense_description? d.description).append (dense_paramDocs d.params)

theorem dense_fieldDoc (d : FieldDoc) : Dense (tokens d) :=
  (dense_description? d.description).append (dense_typeRef? d.type)

theorem dense_functionDoc (d : FunctionDoc) : Dense (tokens d) :=
  ((((dense_description? d.description).append (dense_paramDocs d.params)).append
    (dense_optional (fun r : ReturnDoc =>
      (dense_typeRef? r.type).append (dense_description? r.description)) d.returns)).append
    (dense_optional (fun o : OnDoc =>
      (dense_typeRef? o.type).append (dense_description? o.description)) d.on)).append
    (dense_optional (fun e : ErrorsDoc => dense_description? e.description) d.errors)

theorem dense_strings (l : List String) : Dense (tokens l) := dense_list fun s _ => dense_string s

theorem dense_subject (s : Subject) : Dense (tokens s) := by
  cases s with
  | entity s =>
    exact dense_cons (by simp)
      (((dense_string s.library).append (dense_string s.path)).append (dense_string s.name)).1
  | constructor s =>
    exact dense_cons (by simp) ((((dense_string s.library).append (dense_string s.path)).append
      (dense_string s.name)).append (dense_strings s.params)).1
  | field s =>
    exact dense_cons (by simp) ((((dense_string s.library).append (dense_string s.path)).append
      (dense_string s.declaredType)).append (dense_string s.name)).1
  | function s =>
    have hflags : Dense [Token.bool s.isNative, Token.bool s.isStatic] :=
      dense_cons (by simp) ⟨by simp, trivial⟩
    exact dense_cons (by simp) ((((((dense_string s.library).append (dense_string s.path)).append
      (dense_string s.name)).append (dense_strings s.params)).append hflags).append
      (dense_optional dense_string s.on)).1

theorem dense_doc {d : Doc} (h : ∀ i ∈ innerItems d, Dense (itemTokens i)) : Dense (docTokens d) := by
  cases d with
  | entity d =>
    rw [docTokens, entityDocTokens_eq]
    exact dense_cons (by simp) ((dense_description? d.description).append
      ((dense_list fun i hi => h i (List.mem_append_left _ hi)).append
        (dense_list fun i hi => h i (List.mem_append_right _ hi)))).1
  | constructor d => exact dense_cons (by simp) (dense_constructorDoc d).1
  | field d => exact dense_cons (by simp) (dense_fieldDoc d).1
  | function d => exact dense_cons (by simp) (dense_functionDoc d).1

/-- By the room that an item takes up: what stands inside it takes up less. -/
theorem dense_itemWithin {n : Nat} {i : Item} (hn : (bytesOf (itemTokens i)).length ≤ n) :
    Dense (itemTokens i) := by
  induction n using Nat.strongRecOn generalizing i with
  | ind n ih =>
    rw [itemTokens_eq] at hn ⊢
    refine (dense_subject _).append (dense_doc fun j hj => ih _ ?_ (Nat.le_refl _))
    have hlt := length_bytesOf_inner hj
    rw [bytesOf_append, List.length_append] at hn
    omega

theorem dense_items (is : List Item) : Dense (tokens is) :=
  dense_list fun _ _ => dense_itemWithin (Nat.le_refl _)

theorem dense_metadata (m : Metadata) : Dense (tokens m) :=
  ((((dense_string m.name).append (dense_string m.version)).append (dense_string m.author)).append
    (dense_string m.description)).append (dense_optional dense_string m.sourceUrl)

theorem dense_files (fs : List SourceFile) : Dense (tokens fs) :=
  dense_list fun f _ =>
    ((dense_string f.name).append (dense_string f.importPath)).append (dense_items f.items)

-- ---------------------------------------------------------------------------
-- Sizes
-- ---------------------------------------------------------------------------

theorem Token.bytes_ne_nil (t : Token) : t.bytes ≠ [] := by
  cases t with
  | uint value =>
    simp only [bytes, uintBytes]
    repeat' split
    all_goals simp
  | str text =>
    simp only [bytes, strHeader]
    repeat' split
    all_goals simp
  | array count =>
    simp only [bytes, arrayHeader]
    repeat' split
    all_goals simp
  | bool value => simp [bytes]
  | nil absent => simp [bytes]

theorem length_le_length_bytesOf (ts : List Token) : ts.length ≤ (bytesOf ts).length := by
  induction ts with
  | nil => simp
  | cons t ts ih =>
    have := List.length_pos_iff.2 t.bytes_ne_nil
    rw [bytesOf_cons, List.length_append, List.length_cons]
    omega

theorem fitAll_of_ample (h : Ample ts) (hlen : (bytesOf ts).length < UInt32.size) : FitAll ts := by
  induction ts with
  | nil => simp
  | cons t ts ih =>
    rw [bytesOf_cons, List.length_append] at hlen
    refine fitAll_cons.2 ⟨?_, ih h.2 (by omega)⟩
    cases t with
    | str text =>
      have hsize : text.toUTF8.data.toList.length = text.utf8ByteSize := rfl
      simp only [Token.bytes, List.length_append, hsize] at hlen
      show text.utf8ByteSize < UInt32.size
      omega
    | array count =>
      have hcount := h.1 count rfl
      have hroom := length_le_length_bytesOf ts
      show count < UInt32.size
      omega
    | _ => trivial

/-- A cache file that is short enough can be read back. -/
theorem recordFits_of_length {r : Record} (h : (encodeRecord r).length < UInt32.size) :
    RecordFits r := by
  rw [encodeRecord_eq] at h
  simp only [List.length_append, List.length_cons, bytesOf_append] at h
  exact ⟨fitAll_of_ample (dense_metadata _).1 (by omega), fitAll_of_ample (dense_files _).1 (by omega),
    fitAll_of_ample (dense_items _).1 (by omega)⟩

-- ---------------------------------------------------------------------------
-- What is too long
-- ---------------------------------------------------------------------------

theorem Decoder.strLength_small {b : UInt8} (hb : b ≤ 0x7f) (pos : Nat) (rest : List UInt8) :
    strLength ⟨pos, b :: rest⟩ = .error (.unexpectedMarker .string b pos) ⟨pos + 1, rest⟩ := by
  have hle : b.toNat ≤ 0x7f := UInt8.le_iff_toNat_le.1 hb
  have hshort : ¬ (0xa0 ≤ b ∧ b ≤ 0xbf) := by
    rintro ⟨hb, -⟩
    have hb : 0xa0 ≤ b.toNat := UInt8.le_iff_toNat_le.1 hb
    omega
  have hne : ∀ m : UInt8, 0x7f < m.toNat → b ≠ m := by
    rintro m hm rfl
    omega
  rw [strLength, header_cons _ (ne_nil_of_le hb), if_neg hshort, if_neg (hne _ (by decide)),
    if_neg (hne _ (by decide)), if_neg (hne _ (by decide))]
  rfl

/-- Of a length the four low bytes are written, so a text of 2 ^ 32 bytes is taken for an empty
one. -/
theorem Decoder.str_wrapped {text : String} (h : text.utf8ByteSize = UInt32.size) (pos : Nat)
    (rest : List UInt8) :
    str ⟨pos, (Token.str text).bytes ++ rest⟩ =
      .ok "" ⟨pos + 5, text.toUTF8.data.toList ++ rest⟩ := by
  have hheader : Token.strHeader UInt32.size = 0xdb :: bytes32 0 := by decide
  have hlength : ∀ rest, strLength ⟨pos, 0xdb :: (bytes32 0 ++ rest)⟩ = .ok 0 ⟨pos + 5, rest⟩ := by
    intro rest
    unfold strLength
    simp only [header_cons _ (show (0xdb : UInt8) ≠ 0xc0 by decide)]
    exact number_append rfl (ofBytes_bytes32 (by decide)) (pos + 1) rest
  rw [Token.bytes, h, hheader, List.append_assoc, List.cons_append]
  unfold str
  rw [run_bind_ok (hlength _)]
  rfl

/-- A text of 2 ^ 32 bytes is refused if another may follow: that one would start with a marker,
and not with a character. -/
theorem refuses_wrapped {text : String} (h : text.utf8ByteSize = UInt32.size)
    (hbytes : text.toUTF8.data.toList = b :: bs) (hb : b ≤ 0x7f)
    (k : String → Option String → Decoder α) :
    Refuses (do let d ← Decoder.str; let u ← Decoder.optional absent Decoder.str; k d u) []
      (Token.str text).bytes fun offset => .unexpectedMarker .string b (offset + 5) := by
  intro pos rest
  have hskip : Decoder.skipNil absent ⟨pos + 5, b :: (bs ++ rest)⟩ =
      .ok false ⟨pos + 5, b :: (bs ++ rest)⟩ := by
    simp [Decoder.skipNil, ne_nil_of_le hb]
  have hnext : Decoder.optional absent Decoder.str ⟨pos + 5, b :: (bs ++ rest)⟩ =
      .error (.unexpectedMarker .string b (pos + 5)) ⟨pos + 5 + 1, bs ++ rest⟩ := by
    rw [Decoder.optional, run_bind_ok hskip]
    exact run_bind_error (run_bind_error (Decoder.strLength_small hb _ _))
  have hfirst := Decoder.str_wrapped h pos rest
  rw [hbytes, List.cons_append] at hfirst
  exact ⟨_, (run_bind_ok hfirst).trans (run_bind_error hnext)⟩

/-- A library with a description of 2 ^ 32 bytes, all of them characters, is not read back. -/
theorem decodeRecord_wrapped {r : Record}
    (hfit : ∀ text ∈ [r.metadata.name, r.metadata.version, r.metadata.author],
      text.utf8ByteSize < UInt32.size)
    (hsize : r.metadata.description.utf8ByteSize = UInt32.size)
    (hchars : ∀ b ∈ r.metadata.description.toUTF8.data.toList, b ≤ 0x7f) :
    ∃ e, decodeRecord (encodeRecord r) = .error e := by
  simp only [List.forall_mem_cons] at hfit
  obtain ⟨hn, hv, ha, -⟩ := hfit
  obtain ⟨b, bs, hbytes⟩ : ∃ b bs, r.metadata.description.toUTF8.data.toList = b :: bs := by
    refine List.exists_cons_of_length_pos ?_
    rw [show r.metadata.description.toUTF8.data.toList.length = UInt32.size from hsize]
    decide
  have hb : b ≤ 0x7f := hchars b (hbytes ▸ List.mem_cons_self)
  have hmetadata : Refuses (read : Decoder Metadata)
      ([.str r.metadata.name] ++ ([.str r.metadata.version] ++ ([.str r.metadata.author] ++ [])))
      (Token.str r.metadata.description).bytes
      fun offset => .unexpectedMarker .string b (offset + 5) :=
    .next (.str _ hn) (.next (.str _ hv) (.next (.str _ ha) (refuses_wrapped hsize hbytes hb
      fun d u => pure (Metadata.mk r.metadata.name r.metadata.version r.metadata.author d u))))
  obtain ⟨e, c, hc⟩ : ∃ e c, (read : Decoder Metadata) ⟨5, bytesOf (tokens r.metadata ++
      (tokens r.files ++ tokens r.natives))⟩ = .error e c := by
    obtain ⟨c, hc⟩ := hmetadata 5 (bytesOf (optionalTokens .sourceUrl tokens r.metadata.sourceUrl ++
      (tokens r.files ++ tokens r.natives)))
    refine ⟨_, c, Eq.trans ?_ hc⟩
    simp [tokens]
  have hrecord : readRecord (.ofBytes (encodeRecord r)) = .error e c := by
    rw [readRecord, Cursor.ofBytes, encodeRecord_eq, run_bind_ok (readHeader_append _)]
    exact run_bind_error hc
  refine ⟨e, ?_⟩
  rw [decodeRecord, Decoder.run, run_bind_error hrecord]

/-- A text of so many bytes. -/
def textOf (n : Nat) : String := .ofList (List.replicate n 'x')

theorem toUTF8_textOf (n : Nat) : (textOf n).toUTF8.data.toList = List.replicate n 0x78 := by
  unfold textOf
  induction n with
  | zero => rfl
  | succ n ih =>
    rw [List.replicate_succ, List.replicate_succ, ← ih]
    simp [String.toUTF8]
    rfl

theorem utf8ByteSize_textOf (n : Nat) : (textOf n).utf8ByteSize = n := by
  have hlength := congrArg List.length (toUTF8_textOf n)
  rwa [List.length_replicate] at hlength

theorem le_of_mem_textOf (h : b ∈ (textOf n).toUTF8.data.toList) : b ≤ 0x7f := by
  rw [toUTF8_textOf] at h
  rw [List.eq_of_mem_replicate h]
  decide

end DocSite.Wire
