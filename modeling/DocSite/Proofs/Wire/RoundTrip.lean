import DocSite.Proofs.Wire.Tokens
import DocSite.Wire.CacheFile

/-!
# Every value is read back

`Written` lists the types that are written to streams. A value of such a type
is read back from its bytes, wherever they stand, and the reader stops at the
first byte behind them. Whole cache files are read back too, and their cards
alone.

The values must fit: no text has 2 ^ 32 bytes and no list 2 ^ 32 elements.
Items may be nested to any depth.
-/

namespace DocSite.Wire

open Format (tokens read)

/-- All texts and lists in a value are short enough to be written. -/
def Fits [Format α] (v : α) : Prop := FitAll (tokens v)

instance [Format α] (v : α) : Decidable (Fits v) :=
  inferInstanceAs (Decidable (∀ t ∈ tokens v, t.Fits))

/-- All values of a type that fit are read back. -/
def Readable (α : Type) [Format α] : Prop := ∀ v : α, Fits v → Reads read (tokens v) v

/-- Tokens that do not start with the nil of a kind. -/
def Apart (k : Absent) (ts : List Token) : Prop := ∃ t us, ts = t :: us ∧ t ≠ .nil k

theorem Apart.append (h : Apart k ts) (us : List Token) : Apart k (ts ++ us) := by
  obtain ⟨t, vs, rfl, ht⟩ := h
  exact ⟨t, vs ++ us, rfl, ht⟩

-- ---------------------------------------------------------------------------
-- Texts, lists and optional values
-- ---------------------------------------------------------------------------

theorem readable_string : Readable String := by
  intro v h
  have hv : v.utf8ByteSize < UInt32.size := (fitAll_cons.1 h).1
  exact .str v hv

theorem Readable.list [Format α] (h : Readable α) : Readable (List α) := by
  intro vs hf
  obtain ⟨hc, hvs⟩ := fitAll_cons.1 hf
  exact .list hc fun v hv => h v (fitAll_flatMap.1 hvs v hv)

/-- A present value must not start like an absent one. -/
theorem reads_optional {value : α → List Token} {d : Decoder α} {o : Option α}
    (h : ∀ v, o = some v → Reads d (value v) v) (hk : ∀ v, o = some v → Apart k (value v)) :
    Reads (Decoder.optional k d) (optionalTokens k value o) o := by
  cases o with
  | none => exact .none d k
  | some v =>
    obtain ⟨t, ts, hv, ht⟩ := hk v rfl
    have hr := h v rfl
    simp only [optionalTokens, hv] at hr ⊢
    exact .some hr ht

theorem Readable.option [Omissible α] (h : Readable α)
    (hk : ∀ v : α, Apart (Omissible.absent α) (tokens v)) : Readable (Option α) := by
  intro o hf
  apply reads_optional
  · rintro v rfl
    exact h v hf
  · intro v _
    exact hk v

/-- What starts with an optional value of another kind is told apart by that kind. -/
theorem apart_option [Omissible α] (h : Omissible.absent α ≠ k)
    (hk : ∀ v : α, Apart k (tokens v)) (o : Option α) : Apart k (tokens o) := by
  cases o with
  | none => exact ⟨_, _, rfl, by simpa using h⟩
  | some v => exact hk v

theorem reads_optional_string {o : Option String} (hf : FitAll (optionalTokens k tokens o)) :
    Reads (Decoder.optional k read) (optionalTokens k tokens o) o := by
  apply reads_optional
  · rintro v rfl
    exact readable_string v hf
  · intro v _
    exact ⟨.str v, [], rfl, by simp⟩

-- ---------------------------------------------------------------------------
-- Prose
-- ---------------------------------------------------------------------------

theorem readable_origin : Readable Origin := by
  intro o _
  cases o with
  | script => exact (Reads.tag .origin 0 rfl (by decide)).wrap (.pure _)
  | host => exact (Reads.tag .origin 1 rfl (by decide)).wrap (.pure _)

theorem readable_typeRef : Readable TypeRef := by
  intro t hf
  obtain ⟨ho, hn⟩ := fitAll_append.1 hf
  exact (readable_origin _ ho).bind ((readable_string _ hn).wrap (.pure _))

theorem apart_typeRef (t : TypeRef) : Apart k (tokens t) := by
  obtain ⟨origin, name⟩ := t
  cases origin
  · exact ⟨.uint 0, _, rfl, by simp⟩
  · exact ⟨.uint 1, _, rfl, by simp⟩

theorem readable_typeRef? : Readable (Option TypeRef) :=
  .option readable_typeRef apart_typeRef

theorem readable_piece : Readable Piece := by
  intro p hf
  cases p with
  | text s =>
    exact (Reads.tag .piece 0 rfl (by decide)).bind
      ((readable_string s (fitAll_cons.1 hf).2).wrap (.pure _))
  | host s =>
    exact (Reads.tag .piece 1 rfl (by decide)).bind
      ((readable_string s (fitAll_cons.1 hf).2).wrap (.pure _))
  | param s =>
    exact (Reads.tag .piece 2 rfl (by decide)).bind
      ((readable_string s (fitAll_cons.1 hf).2).wrap (.pure _))
  | type s =>
    exact (Reads.tag .piece 3 rfl (by decide)).bind
      ((readable_string s (fitAll_cons.1 hf).2).wrap (.pure _))

theorem readable_description : Readable Description := by
  intro d hf
  exact (Readable.list readable_piece _ hf).wrap (.pure _)

theorem apart_description (d : Description) : Apart k (tokens d) := ⟨_, _, rfl, by simp⟩

theorem readable_description? : Readable (Option Description) :=
  .option readable_description apart_description

-- ---------------------------------------------------------------------------
-- Docs
-- ---------------------------------------------------------------------------

theorem readable_paramDoc : Readable ParamDoc := by
  intro d hf
  obtain ⟨hnt, hd⟩ := fitAll_append.1 hf
  obtain ⟨hn, ht⟩ := fitAll_append.1 hnt
  simp only [tokens, List.append_assoc]
  exact (readable_string _ hn).bind ((readable_typeRef? _ ht).bind
    ((readable_description? _ hd).wrap (.pure _)))

theorem readable_returnDoc : Readable ReturnDoc := by
  intro d hf
  obtain ⟨ht, hd⟩ := fitAll_append.1 hf
  exact (readable_typeRef? _ ht).bind ((readable_description? _ hd).wrap (.pure _))

theorem readable_returnDoc? : Readable (Option ReturnDoc) := by
  apply Readable.option readable_returnDoc
  intro d
  exact (apart_option (by decide) apart_typeRef d.type).append _

theorem readable_onDoc : Readable OnDoc := by
  intro d hf
  obtain ⟨ht, hd⟩ := fitAll_append.1 hf
  exact (readable_typeRef? _ ht).bind ((readable_description? _ hd).wrap (.pure _))

theorem readable_onDoc? : Readable (Option OnDoc) := by
  apply Readable.option readable_onDoc
  intro d
  exact (apart_option (by decide) apart_typeRef d.type).append _

theorem readable_errorsDoc : Readable ErrorsDoc := by
  intro d hf
  exact (readable_description? _ hf).wrap (.pure _)

theorem readable_errorsDoc? : Readable (Option ErrorsDoc) := by
  apply Readable.option readable_errorsDoc
  intro d
  exact apart_option (by decide) apart_description d.description

theorem readable_constructorDoc : Readable ConstructorDoc := by
  intro d hf
  obtain ⟨hd, hp⟩ := fitAll_append.1 hf
  exact (readable_description? _ hd).bind ((Readable.list readable_paramDoc _ hp).wrap (.pure _))

theorem readable_fieldDoc : Readable FieldDoc := by
  intro d hf
  obtain ⟨hd, ht⟩ := fitAll_append.1 hf
  exact (readable_description? _ hd).bind ((readable_typeRef? _ ht).wrap (.pure _))

theorem readable_functionDoc : Readable FunctionDoc := by
  intro d hf
  simp only [Fits, tokens, fitAll_append] at hf
  obtain ⟨⟨⟨⟨hd, hp⟩, hr⟩, ho⟩, he⟩ := hf
  simp only [tokens, List.append_assoc]
  exact (readable_description? _ hd).bind ((Readable.list readable_paramDoc _ hp).bind
    ((readable_returnDoc? _ hr).bind ((readable_onDoc? _ ho).bind
      ((readable_errorsDoc? _ he).wrap (.pure _)))))

-- ---------------------------------------------------------------------------
-- Subjects
-- ---------------------------------------------------------------------------

theorem readable_entitySubject : Readable EntitySubject := by
  intro s hf
  simp only [Fits, tokens, fitAll_append] at hf
  obtain ⟨⟨hl, hp⟩, hn⟩ := hf
  simp only [tokens, List.append_assoc]
  exact (readable_string _ hl).bind ((readable_string _ hp).bind
    ((readable_string _ hn).wrap (.pure _)))

theorem readable_constructorSubject : Readable ConstructorSubject := by
  intro s hf
  simp only [Fits, tokens, fitAll_append] at hf
  obtain ⟨⟨⟨hl, hp⟩, hn⟩, hps⟩ := hf
  simp only [tokens, List.append_assoc]
  exact (readable_string _ hl).bind ((readable_string _ hp).bind
    ((readable_string _ hn).bind ((Readable.list readable_string _ hps).wrap (.pure _))))

theorem readable_fieldSubject : Readable FieldSubject := by
  intro s hf
  simp only [Fits, tokens, fitAll_append] at hf
  obtain ⟨⟨⟨hl, hp⟩, ht⟩, hn⟩ := hf
  simp only [tokens, List.append_assoc]
  exact (readable_string _ hl).bind ((readable_string _ hp).bind
    ((readable_string _ ht).bind ((readable_string _ hn).wrap (.pure _))))

theorem readable_functionSubject : Readable FunctionSubject := by
  intro s hf
  simp only [Fits, tokens, fitAll_append] at hf
  obtain ⟨⟨⟨⟨⟨hl, hp⟩, hn⟩, hps⟩, -⟩, ho⟩ := hf
  simp only [tokens, List.append_assoc, List.cons_append, List.nil_append]
  exact (readable_string _ hl).bind ((readable_string _ hp).bind
    ((readable_string _ hn).bind ((Readable.list readable_string _ hps).bind
      ((Reads.bool _).bind ((Reads.bool _).bind ((reads_optional_string ho).wrap (.pure _)))))))

theorem readable_subject : Readable Subject := by
  intro s hf
  cases s with
  | entity s =>
    exact (Reads.tag .subject 0 rfl (by decide)).bind
      ((readable_entitySubject s (fitAll_cons.1 hf).2).wrap (.pure _))
  | constructor s =>
    exact (Reads.tag .subject 1 rfl (by decide)).bind
      ((readable_constructorSubject s (fitAll_cons.1 hf).2).wrap (.pure _))
  | field s =>
    exact (Reads.tag .subject 2 rfl (by decide)).bind
      ((readable_fieldSubject s (fitAll_cons.1 hf).2).wrap (.pure _))
  | function s =>
    exact (Reads.tag .subject 3 rfl (by decide)).bind
      ((readable_functionSubject s (fitAll_cons.1 hf).2).wrap (.pure _))

-- ---------------------------------------------------------------------------
-- Items
-- ---------------------------------------------------------------------------

/-- The items that stand directly inside a doc. -/
def innerItems : Doc → List Item
  | .entity d => d.contained ++ d.extensions
  | .constructor _ | .field _ | .function _ => []

theorem entityDocTokens_eq (d : EntityDoc Item) :
    entityDocTokens d = .uint 1 :: (tokens d.description ++
      (listTokens itemTokens d.contained ++ listTokens itemTokens d.extensions)) := by
  obtain ⟨description, contained, extensions⟩ := d
  simp [entityDocTokens, itemsTokens_eq_flatMap, listTokens]

theorem length_bytesOf_flatMap {is : List Item} (h : i ∈ is) :
    (bytesOf (itemTokens i)).length ≤ (bytesOf (is.flatMap itemTokens)).length := by
  induction is with
  | nil => cases h
  | cons j is ih =>
    simp only [List.flatMap_cons, bytesOf_append, List.length_append]
    rcases List.mem_cons.1 h with rfl | h
    · omega
    · have := ih h
      omega

/-- What stands inside a doc takes up less room than the doc. -/
theorem length_bytesOf_inner {d : Doc} (h : i ∈ innerItems d) :
    (bytesOf (itemTokens i)).length < (bytesOf (docTokens d)).length := by
  cases d with
  | entity d =>
    have htag : (Token.uint 1).bytes.length = 1 := rfl
    simp only [docTokens, entityDocTokens_eq, listTokens, bytesOf_cons, bytesOf_append,
      List.length_append, htag]
    rcases List.mem_append.1 h with h | h
    · have := length_bytesOf_flatMap h
      omega
    · have := length_bytesOf_flatMap h
      omega
  | _ => cases h

theorem fitAll_inner {d : Doc} (hf : FitAll (docTokens d)) (h : i ∈ innerItems d) :
    FitAll (itemTokens i) := by
  cases d with
  | entity d =>
    simp only [docTokens, entityDocTokens_eq, listTokens, fitAll_cons, fitAll_append,
      fitAll_flatMap] at hf
    obtain ⟨-, -, ⟨-, hc⟩, -, he⟩ := hf
    rcases List.mem_append.1 h with h | h
    · exact hc i h
    · exact he i h
  | _ => cases h

theorem reads_doc {item : Decoder Item} {d : Doc} (hf : FitAll (docTokens d))
    (hi : ∀ i ∈ innerItems d, Reads item (itemTokens i) i) :
    Reads (readDocWith item) (docTokens d) d := by
  cases d with
  | entity d =>
    simp only [docTokens, entityDocTokens_eq] at hf ⊢
    simp only [listTokens, fitAll_cons, fitAll_append] at hf
    obtain ⟨-, hd, ⟨hc, -⟩, he, -⟩ := hf
    have hcs := Reads.list hc fun i h => hi i (List.mem_append_left _ h)
    have hes := Reads.list he fun i h => hi i (List.mem_append_right _ h)
    exact (Reads.tag .doc 1 rfl (by decide)).bind
      ((readable_description? _ hd).bind (hcs.bind (hes.wrap (.pure _))))
  | constructor d =>
    exact (Reads.tag .doc 0 rfl (by decide)).bind
      ((readable_constructorDoc d (fitAll_cons.1 hf).2).wrap (.pure _))
  | field d =>
    exact (Reads.tag .doc 2 rfl (by decide)).bind
      ((readable_fieldDoc d (fitAll_cons.1 hf).2).wrap (.pure _))
  | function d =>
    exact (Reads.tag .doc 3 rfl (by decide)).bind
      ((readable_functionDoc d (fitAll_cons.1 hf).2).wrap (.pure _))

theorem reads_itemWith {item : Decoder Item} {i : Item} (hf : FitAll (itemTokens i))
    (hi : ∀ j ∈ innerItems i.doc, Reads item (itemTokens j) j) :
    Reads (readItemWith item) (itemTokens i) i := by
  rw [itemTokens_eq] at hf ⊢
  obtain ⟨hs, hd⟩ := fitAll_append.1 hf
  refine (readable_subject _ hs).bind ((reads_doc hd hi).wrap ?_)
  simp only [Item.ofParts?_subject_doc]
  exact .pure i

/-- A bound of as many levels as the item has bytes is enough: each level takes
up at least one byte. -/
theorem reads_itemWithin {n : Nat} {i : Item} (hf : FitAll (itemTokens i))
    (hn : (bytesOf (itemTokens i)).length ≤ n) :
    Reads (readItemWithin n) (itemTokens i) i := by
  induction n generalizing i with
  | zero =>
    have hlt : (bytesOf (itemTokens i)).length = 0 := by omega
    cases i <;> simp [itemTokens, tokens, Token.bytes, Token.uintBytes] at hlt
  | succ n ih =>
    apply reads_itemWith hf
    rw [itemTokens_eq, bytesOf_append, List.length_append] at hn
    rw [itemTokens_eq] at hf
    intro j hj
    have hlt := length_bytesOf_inner hj
    exact ih (fitAll_inner (fitAll_append.1 hf).2 hj) (by omega)

theorem readable_item : Readable Item := by
  intro i hf pos rest
  exact reads_itemWithin hf (by simp [Cursor.remaining, tokens]) pos rest

theorem readable_doc : Readable Doc := by
  intro d hf pos rest
  refine reads_doc hf (fun i hi => reads_itemWithin (fitAll_inner hf hi) ?_) pos rest
  have := length_bytesOf_inner hi
  simp only [Cursor.remaining, tokens, List.length_append]
  omega

-- ---------------------------------------------------------------------------
-- Libraries
-- ---------------------------------------------------------------------------

theorem readable_sourceFile : Readable SourceFile := by
  intro f hf
  simp only [Fits, tokens, fitAll_append] at hf
  obtain ⟨⟨hn, hp⟩, hi⟩ := hf
  simp only [tokens, List.append_assoc]
  exact (readable_string _ hn).bind ((readable_string _ hp).bind
    ((Readable.list readable_item _ hi).wrap (.pure _)))

theorem readable_metadata : Readable Metadata := by
  intro m hf
  simp only [Fits, tokens, fitAll_append] at hf
  obtain ⟨⟨⟨⟨hn, hv⟩, ha⟩, hd⟩, hu⟩ := hf
  simp only [tokens, List.append_assoc]
  exact (readable_string _ hn).bind ((readable_string _ hv).bind
    ((readable_string _ ha).bind ((readable_string _ hd).bind
      ((reads_optional_string hu).wrap (.pure _)))))

-- ---------------------------------------------------------------------------
-- Whole streams
-- ---------------------------------------------------------------------------

/-- The types that are written to streams. -/
inductive Written : (α : Type) → [Format α] → Prop
  | string : Written String
  | piece : Written Piece
  | description : Written Description
  | typeRef : Written TypeRef
  | paramDoc : Written ParamDoc
  | returnDoc : Written ReturnDoc
  | onDoc : Written OnDoc
  | errorsDoc : Written ErrorsDoc
  | subject : Written Subject
  | doc : Written Doc
  | item : Written Item
  | sourceFile : Written SourceFile
  | metadata : Written Metadata
  | description? : Written (Option Description)
  | typeRef? : Written (Option TypeRef)
  | returnDoc? : Written (Option ReturnDoc)
  | onDoc? : Written (Option OnDoc)
  | errorsDoc? : Written (Option ErrorsDoc)
  | list {α : Type} [Format α] : Written α → Written (List α)

theorem Written.readable [Format α] (h : Written α) : Readable α := by
  induction h with
  | string => exact readable_string
  | piece => exact readable_piece
  | description => exact readable_description
  | typeRef => exact readable_typeRef
  | paramDoc => exact readable_paramDoc
  | returnDoc => exact readable_returnDoc
  | onDoc => exact readable_onDoc
  | errorsDoc => exact readable_errorsDoc
  | subject => exact readable_subject
  | doc => exact readable_doc
  | item => exact readable_item
  | sourceFile => exact readable_sourceFile
  | metadata => exact readable_metadata
  | description? => exact readable_description?
  | typeRef? => exact readable_typeRef?
  | returnDoc? => exact readable_returnDoc?
  | onDoc? => exact readable_onDoc?
  | errorsDoc? => exact readable_errorsDoc?
  | list _ ih => exact ih.list

theorem Reads.run {d : Decoder α} (h : Reads d ts v) : d.run (bytesOf ts) = .ok v := by
  have h0 := h 0 []
  rw [List.append_nil] at h0
  unfold Decoder.run Cursor.ofBytes
  rw [run_bind_ok h0, run_bind_ok (show Decoder.finish _ = .ok () _ from rfl)]
  rfl

def RecordFits (r : Record) : Prop := Fits r.metadata ∧ Fits r.files ∧ Fits r.natives

instance : DecidablePred RecordFits := fun _ => inferInstanceAs (Decidable (_ ∧ _ ∧ _))

theorem readHeader_append (rest : List UInt8) :
    readHeader ⟨0, magic ++ (formatVersion :: rest)⟩ = .ok () ⟨5, rest⟩ := rfl

theorem encodeRecord_eq (r : Record) :
    encodeRecord r = magic ++ (formatVersion ::
      bytesOf (tokens r.metadata ++ (tokens r.files ++ tokens r.natives))) := by
  simp [encodeRecord, encode, bytesOf]

/-- What follows the header of a cache file. -/
theorem reads_body {r : Record} (h : RecordFits r) :
    Reads (do return { metadata := ← read, files := ← read, natives := ← read })
      (tokens r.metadata ++ (tokens r.files ++ tokens r.natives)) r := by
  obtain ⟨hm, hf, hn⟩ := h
  exact (readable_metadata _ hm).bind ((Readable.list readable_sourceFile _ hf).bind
    ((Readable.list readable_item _ hn).wrap (.pure _)))

theorem readRecord_encodeRecord {r : Record} (h : RecordFits r) :
    readRecord (.ofBytes (encodeRecord r)) = .ok r ⟨(encodeRecord r).length, []⟩ := by
  unfold readRecord Cursor.ofBytes
  rw [encodeRecord_eq, run_bind_ok (readHeader_append _)]
  have h5 := reads_body h 5 []
  rw [List.append_nil] at h5
  rw [h5]
  simp [magic]
  omega

theorem decodeRecord_encodeRecord {r : Record} (h : RecordFits r) :
    decodeRecord (encodeRecord r) = .ok r := by
  unfold decodeRecord Decoder.run
  rw [run_bind_ok (readRecord_encodeRecord h),
    run_bind_ok (show Decoder.finish _ = .ok () _ from rfl)]
  rfl

/-- No two libraries have the same cache file. -/
theorem eq_of_encodeRecord_eq {r r' : Record} (h : RecordFits r) (h' : RecordFits r')
    (heq : encodeRecord r = encodeRecord r') : r = r' := by
  have hr := decodeRecord_encodeRecord h
  rw [heq, decodeRecord_encodeRecord h'] at hr
  exact (Except.ok.inj hr).symm

theorem decodeMetadata_encodeRecord {r : Record} (h : Fits r.metadata) :
    decodeMetadata (encodeRecord r) = .ok r.metadata := by
  unfold decodeMetadata Cursor.ofBytes
  rw [encodeRecord_eq, run_bind_ok (readHeader_append _), bytesOf_append,
    readable_metadata _ h]

/-- What has been written is read back: a value of any type that is written to
streams, with the reader right behind it; the value alone; a cache file; and
the card of a cache file. -/
theorem read_back :
    (∀ (α : Type) [Format α], Written α → ∀ v : α, Fits v →
      (∀ pos rest,
        read ⟨pos, encode v ++ rest⟩ = .ok v ⟨pos + (encode v).length, rest⟩) ∧
      decode (encode v) = .ok v) ∧
    ∀ r : Record, RecordFits r →
      decodeRecord (encodeRecord r) = .ok r ∧ decodeMetadata (encodeRecord r) = .ok r.metadata := by
  constructor
  · intro α _ hα v hv
    exact ⟨hα.readable v hv, (hα.readable v hv).run⟩
  · intro r hr
    exact ⟨decodeRecord_encodeRecord hr, decodeMetadata_encodeRecord hr.1⟩

/-- A library with an entity in an entity, a result that is documented with nothing,
and an extension function. -/
def nestedRecord : Record :=
  let opened : Item := .function ⟨"boxes", "box.ql", "open", ["n"], false, true, none⟩
    { params := [⟨"n", none, none⟩], returns := some ⟨none, none⟩ }
  let shared : Item := .function ⟨"boxes", "box.ql", "share", [], true, false, some "Box"⟩
    { on := some ⟨some ⟨.script, "boxes.Box"⟩, none⟩ }
  let inner : Item := .entity ⟨"boxes", "box.ql", "Lid"⟩ { contained := [opened] }
  let box : Item := .entity ⟨"boxes", "box.ql", "Box"⟩
    { description := some (.ofText "A box."), contained := [inner], extensions := [shared] }
  ⟨⟨"boxes", "1.0", "me", "Boxes.", none⟩, [⟨"box.ql", "box.ql", [box, shared]⟩], []⟩

theorem read_back_nested :
    Fits nestedRecord.files ∧ RecordFits nestedRecord ∧
      (∀ pos rest, read ⟨pos, encode nestedRecord.files ++ rest⟩ =
        .ok nestedRecord.files ⟨pos + (encode nestedRecord.files).length, rest⟩) ∧
      decodeRecord (encodeRecord nestedRecord) = .ok nestedRecord ∧
      decodeMetadata (encodeRecord nestedRecord) = .ok nestedRecord.metadata :=
  ⟨by decide, by decide, (read_back.1 _ (.list .sourceFile) _ (by decide)).1,
    read_back.2 _ (by decide)⟩

end DocSite.Wire
