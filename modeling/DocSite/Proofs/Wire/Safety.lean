import DocSite.Proofs.Wire.Motion
import DocSite.Proofs.Wire.RoundTrip

/-!
# Readers are safe on every stream

Whatever the bytes are, a reader of a written type stays inside the stream, goes
past a byte for every value it returns, and pins its complaints to bytes it was
given (`read_safe`).

The bound on the depth of items is never what stops a reader: an item starts
behind the item it stands in, so there is less left to read. The readers of
items and docs are therefore the recursion they would be without a bound
(`read_item_eq`, `read_doc_eq`).
-/

namespace DocSite.Wire

open Format (tokens read)

-- ---------------------------------------------------------------------------
-- Prose
-- ---------------------------------------------------------------------------

theorem tame_string : Tame lo 1 (read : Decoder String) := tame_str

theorem tame_origin : Tame lo 1 (read : Decoder Origin) := by
  refine .bind (n := 0) (tame_tag .origin) fun t => ?_
  split
  · exact .pure _
  · exact .pure _

theorem tame_typeRef : Tame lo 1 (read : Decoder TypeRef) :=
  .bind tame_origin fun _ => .bind tame_string fun _ => .pure _

theorem tame_typeRef? : Tame lo 1 (read : Decoder (Option TypeRef)) := .optional tame_typeRef _

theorem tame_piece : Tame lo 1 (read : Decoder Piece) := by
  refine .bind (n := 1) (tame_tag .piece) fun t => .bind (n := 0) tame_str fun text => ?_
  split
  all_goals exact .pure _

theorem tame_description : Tame lo 1 (read : Decoder Description) :=
  .bind (.list tame_piece) fun _ => .pure _

theorem tame_description? : Tame lo 1 (read : Decoder (Option Description)) :=
  .optional tame_description _

-- ---------------------------------------------------------------------------
-- Docs
-- ---------------------------------------------------------------------------

theorem tame_paramDoc : Tame lo 1 (read : Decoder ParamDoc) :=
  .bind tame_string fun _ => .bind tame_typeRef? fun _ => .bind tame_description? fun _ => .pure _

theorem tame_returnDoc : Tame lo 1 (read : Decoder ReturnDoc) :=
  .bind tame_typeRef? fun _ => .bind tame_description? fun _ => .pure _

theorem tame_onDoc : Tame lo 1 (read : Decoder OnDoc) :=
  .bind tame_typeRef? fun _ => .bind tame_description? fun _ => .pure _

theorem tame_errorsDoc : Tame lo 1 (read : Decoder ErrorsDoc) :=
  .bind tame_description? fun _ => .pure _

theorem tame_constructorDoc : Tame lo 1 (read : Decoder ConstructorDoc) :=
  .bind tame_description? fun _ => .bind (.list tame_paramDoc) fun _ => .pure _

theorem tame_fieldDoc : Tame lo 1 (read : Decoder FieldDoc) :=
  .bind tame_description? fun _ => .bind tame_typeRef? fun _ => .pure _

theorem tame_functionDoc : Tame lo 1 (read : Decoder FunctionDoc) :=
  .bind tame_description? fun _ => .bind (.list tame_paramDoc) fun _ =>
    .bind (.optional tame_returnDoc _) fun _ => .bind (.optional tame_onDoc _) fun _ =>
      .bind (.optional tame_errorsDoc _) fun _ => .pure _

-- ---------------------------------------------------------------------------
-- Subjects
-- ---------------------------------------------------------------------------

theorem tame_entitySubject : Tame lo 1 (read : Decoder EntitySubject) :=
  .bind tame_string fun _ => .bind tame_string fun _ => .bind tame_string fun _ => .pure _

theorem tame_constructorSubject : Tame lo 1 (read : Decoder ConstructorSubject) :=
  .bind tame_string fun _ => .bind tame_string fun _ => .bind tame_string fun _ =>
    .bind (.list tame_string) fun _ => .pure _

theorem tame_fieldSubject : Tame lo 1 (read : Decoder FieldSubject) :=
  .bind tame_string fun _ => .bind tame_string fun _ => .bind tame_string fun _ =>
    .bind tame_string fun _ => .pure _

theorem tame_functionSubject : Tame lo 1 (read : Decoder FunctionSubject) :=
  .bind tame_string fun _ => .bind tame_string fun _ => .bind tame_string fun _ =>
    .bind (.list tame_string) fun _ => .bind tame_bool fun _ => .bind tame_bool fun _ =>
      .bind (.optional tame_string _) fun _ => .pure _

theorem tame_subject : Tame lo 1 (read : Decoder Subject) := by
  refine .bind (n := 1) (tame_tag .subject) fun t => ?_
  split
  · exact .bind tame_entitySubject fun _ => .pure _
  · exact .bind tame_constructorSubject fun _ => .pure _
  · exact .bind tame_fieldSubject fun _ => .pure _
  · exact .bind tame_functionSubject fun _ => .pure _

-- ---------------------------------------------------------------------------
-- Items, up to a bound
-- ---------------------------------------------------------------------------

theorem tame_docWith {item : Decoder Item} (h : Tame lo 1 item) : Tame lo 1 (readDocWith item) := by
  refine .bind (n := 1) (tame_tag .doc) fun t => ?_
  split
  · exact .bind tame_constructorDoc fun _ => .pure _
  · exact .bind tame_description? fun _ => h.list.bind fun _ => h.list.bind fun _ => .pure _
  · exact .bind tame_fieldDoc fun _ => .pure _
  · exact .bind tame_functionDoc fun _ => .pure _

theorem tame_itemWith {item : Decoder Item} (h : Tame lo 1 item) :
    Tame lo 1 (readItemWith item) := by
  refine .bind (n := 1) tame_subject fun s => (tame_docWith h).bind (n := 0) fun d => ?_
  split
  · exact .pure _
  · exact .fail fun o ho => by cases ho

theorem tame_itemWithin (bound : Nat) : Tame lo 1 (readItemWithin bound) := by
  induction bound with
  | zero => exact .truncated
  | succ bound ih => exact tame_itemWith ih

-- ---------------------------------------------------------------------------
-- The bound is never reached
-- ---------------------------------------------------------------------------

/-- Two decoders that give the same answer where fewer than `n` bytes are left. -/
def AgreeBelow (n : Nat) (d d' : Decoder α) : Prop := ∀ c : Cursor, c.remaining < n → d c = d' c

namespace AgreeBelow

theorem refl (d : Decoder α) : AgreeBelow n d d := fun _ _ => rfl

theorem bind {d d' : Decoder α} {k k' : α → Decoder β} (h : AgreeBelow n d d') (ht : Tame 0 m d)
    (hk : ∀ v, AgreeBelow p (k v) (k' v)) (hp : n ≤ p + m) :
    AgreeBelow n (d >>= k) (d' >>= k') := by
  intro c hc
  rw [run_bind, run_bind, ← h c hc]
  cases hd : d c with
  | error e c₁ => rfl
  | ok v c₁ =>
    obtain ⟨ahead, past⟩ := ht.ahead_ok (Nat.zero_le _) hd
    have hstop := ahead.stop_eq
    simp only [Cursor.stop, Cursor.remaining] at hstop hc
    exact hk v c₁ (by rw [Cursor.remaining]; omega)

theorem repeated {d d' : Decoder α} (h : AgreeBelow n d d') (ht : Tame 0 1 d) (count : Nat) :
    AgreeBelow n (Decoder.repeated d count) (Decoder.repeated d' count) := by
  induction count with
  | zero => exact .refl _
  | succ count ih =>
    refine h.bind ht (fun v => ?_) (Nat.le_add_right n 1)
    exact ih.bind (ht.repeated count) (fun vs => .refl _) (Nat.le_add_right n count)

theorem list {d d' : Decoder α} (h : AgreeBelow n d d') (ht : Tame 0 1 d) :
    AgreeBelow n (Decoder.list d) (Decoder.list d') :=
  (refl _).bind tame_arrayLength (h.repeated ht) (Nat.le_add_right n 1)

theorem docWith {item item' : Decoder Item} (h : AgreeBelow n item item') (ht : Tame 0 1 item) :
    AgreeBelow n (readDocWith item) (readDocWith item') := by
  refine (refl _).bind (tame_tag .doc) (fun t => ?_) (Nat.le_add_right n 1)
  split
  · exact .refl _
  · refine (refl _).bind tame_description? (fun description => ?_) (Nat.le_add_right n 1)
    refine (h.list ht).bind ht.list (fun contained => ?_) (Nat.le_add_right n 1)
    exact (h.list ht).bind ht.list (fun extensions => .refl _) (Nat.le_add_right n 1)
  · exact .refl _
  · exact .refl _

/-- Items inside an item start behind its subject. -/
theorem itemWith {item item' : Decoder Item} (h : AgreeBelow n item item') (ht : Tame 0 1 item) :
    AgreeBelow (n + 1) (readItemWith item) (readItemWith item') := by
  refine (refl _).bind tame_subject (fun s => ?_) (Nat.le_refl _)
  exact (h.docWith ht).bind (tame_docWith ht) (fun d => .refl _) (Nat.le_add_right n 1)

end AgreeBelow

/-- One level more makes no difference where no more bytes are left than there are levels. -/
theorem agreeBelow_itemWithin (bound : Nat) :
    AgreeBelow (bound + 1) (readItemWithin bound) (readItemWithin (bound + 1)) := by
  induction bound with
  | zero =>
    rintro ⟨pos, rest⟩ hc
    cases rest with
    | nil => rfl
    | cons b rest => simp [Cursor.remaining] at hc
  | succ bound ih => exact ih.itemWith (tame_itemWithin bound)

theorem readItemWithin_eq_read {c : Cursor} (h : c.remaining ≤ bound) :
    readItemWithin bound c = (read : Decoder Item) c := by
  induction h with
  | refl => rfl
  | @step bound h ih => exact (agreeBelow_itemWithin bound c (Nat.lt_succ_of_le h)).symm.trans ih

theorem read_item_eq : (read : Decoder Item) = readItemWith read := by
  funext c
  have hinner : AgreeBelow c.remaining (readItemWithin c.remaining) read :=
    fun c' h => readItemWithin_eq_read (Nat.le_of_lt h)
  calc (read : Decoder Item) c
      = readItemWithin (c.remaining + 1) c := (readItemWithin_eq_read (Nat.le_succ _)).symm
    _ = readItemWith read c := hinner.itemWith (tame_itemWithin _) c (Nat.lt_succ_self _)

theorem read_doc_eq : (read : Decoder Doc) = readDocWith read := by
  funext c
  have hinner : AgreeBelow (c.remaining + 1) (readItemWithin c.remaining) read :=
    fun c' h => readItemWithin_eq_read (Nat.le_of_lt_succ h)
  exact hinner.docWith (tame_itemWithin _) c (Nat.lt_succ_self _)

theorem tame_item : Tame lo 1 (read : Decoder Item) := by
  intro c more hlo
  -- one bound is enough for the stream as it is and for the longer one
  have hbound : c.remaining ≤ (c.append more).remaining := by
    simp [Cursor.remaining, Cursor.append]
  have hrun := readItemWithin_eq_read hbound
  have hsame := readItemWithin_eq_read (Nat.le_refl (c.append more).remaining)
  cases tame_itemWithin (c.append more).remaining c more hlo with
  | value v c' ahead past run same =>
    exact .value v c' ahead past (hrun.symm.trans run) (hsame.symm.trans same)
  | refusal e c' ahead pinned run same =>
    exact .refusal e c' ahead pinned (hrun.symm.trans run) (hsame.symm.trans same)
  | cut c' ahead run => exact .cut c' ahead (hrun.symm.trans run)

theorem tame_doc : Tame lo 1 (read : Decoder Doc) := by
  rw [read_doc_eq]
  exact tame_docWith tame_item

/-- A subject and a doc make an item if they are of one kind, and are refused if they are not. -/
theorem read_item_of_parts {c : Cursor} (hs : (read : Decoder Subject) c = .ok s c₁)
    (hd : (read : Decoder Doc) c₁ = .ok d c₂) :
    (s.kind = d.kind → ∃ i, (read : Decoder Item) c = .ok i c₂ ∧ i.subject = s ∧ i.doc = d) ∧
      (s.kind ≠ d.kind →
        (read : Decoder Item) c = .error (.mismatchedItem s.kind d.kind) c₂) := by
  rw [read_doc_eq] at hd
  rw [read_item_eq, readItemWith, run_bind_ok hs, run_bind_ok hd]
  constructor
  · intro hk
    cases hi : Item.ofParts? s d with
    | none => exact absurd hk (Item.ofParts?_eq_none_iff.1 hi)
    | some i =>
      obtain ⟨rfl, rfl⟩ := Item.ofParts?_eq_some_iff.1 hi
      exact ⟨i, rfl, rfl, rfl⟩
  · intro hk
    rw [Item.ofParts?_eq_none_iff.2 hk]
    rfl

-- ---------------------------------------------------------------------------
-- Libraries
-- ---------------------------------------------------------------------------

theorem tame_sourceFile : Tame lo 1 (read : Decoder SourceFile) :=
  .bind tame_string fun _ => .bind tame_string fun _ => .bind (.list tame_item) fun _ => .pure _

theorem tame_metadata : Tame lo 1 (read : Decoder Metadata) :=
  .bind tame_string fun _ => .bind tame_string fun _ => .bind tame_string fun _ =>
    .bind tame_string fun _ => .bind (.optional tame_string _) fun _ => .pure _

theorem Written.tame [Format α] (h : Written α) : Tame lo 1 (read : Decoder α) := by
  induction h with
  | string => exact tame_string
  | piece => exact tame_piece
  | description => exact tame_description
  | typeRef => exact tame_typeRef
  | paramDoc => exact tame_paramDoc
  | returnDoc => exact tame_returnDoc
  | onDoc => exact tame_onDoc
  | errorsDoc => exact tame_errorsDoc
  | subject => exact tame_subject
  | doc => exact tame_doc
  | item => exact tame_item
  | sourceFile => exact tame_sourceFile
  | metadata => exact tame_metadata
  | description? => exact tame_description?
  | typeRef? => exact tame_typeRef?
  | returnDoc? => exact .optional tame_returnDoc _
  | onDoc? => exact .optional tame_onDoc _
  | errorsDoc? => exact .optional tame_errorsDoc _
  | list _ ih => exact ih.list

-- ---------------------------------------------------------------------------
-- Streams
-- ---------------------------------------------------------------------------

/-- The cursor at a position of a stream. -/
def Cursor.into (bytes : List UInt8) (pos : Nat) : Cursor := ⟨pos, bytes.drop pos⟩

theorem Cursor.Ahead.into {bytes : List UInt8} {pos : Nat} (h : (Cursor.into bytes pos).Ahead c)
    (hpos : pos ≤ bytes.length) : c = .into bytes c.pos ∧ c.pos ≤ bytes.length := by
  obtain ⟨bs, hr, hp⟩ := h
  obtain ⟨q, rest⟩ := c
  simp only [Cursor.into] at hr hp ⊢
  subst hp
  have hlen := congrArg List.length hr
  simp only [List.length_drop, List.length_append] at hlen
  refine ⟨?_, by omega⟩
  rw [← List.drop_drop, hr, List.drop_left]

theorem Cursor.stop_into {bytes : List UInt8} {pos : Nat} (h : pos ≤ bytes.length) :
    (Cursor.into bytes pos).stop = bytes.length := by
  simp only [Cursor.stop, Cursor.into, List.length_drop]
  omega

/-- Every element takes up a byte, and so does the header. -/
theorem length_of_list {d : Decoder α} (hd : Tame c.pos 1 d) (h : Decoder.list d c = .ok vs c') :
    c.pos + (vs.length + 1) ≤ c'.pos := by
  obtain ⟨n, c₁, hn, h⟩ := run_bind_eq_ok h
  obtain ⟨ahead, past⟩ := Tame.ahead_ok tame_arrayLength (Nat.le_refl c.pos) hn
  obtain ⟨-, past'⟩ := (hd.repeated n).ahead_ok ahead.pos_le h
  rw [length_of_repeated h]
  omega

/-- A slice is given only of bytes that are there. -/
theorem take_into {bytes : List UInt8} {pos : Nat} (h : pos ≤ bytes.length) (n : Nat) :
    Decoder.take n (.into bytes pos) =
      if pos + n ≤ bytes.length then .ok ((bytes.drop pos).take n) (.into bytes (pos + n))
      else .error (.truncated bytes.length) (.into bytes pos) := by
  simp only [Decoder.take, Cursor.stop_into h]
  simp only [Cursor.into, List.length_take, List.length_drop, List.drop_drop]
  by_cases hn : pos + n ≤ bytes.length
  · rw [if_neg (by omega), if_pos hn]
  · rw [if_pos (by omega), if_neg hn]

/-- The cursor is left inside the stream: behind where it was if there is a value, and not before
it if there is none. The offset of a cause lies between the start and the end. -/
def StaysWithin (bytes : List UInt8) (pos : Nat) : EStateM.Result Corruption Cursor α → Prop
  | .ok _ c => c = .into bytes c.pos ∧ pos < c.pos ∧ c.pos ≤ bytes.length
  | .error e c => c = .into bytes c.pos ∧ pos ≤ c.pos ∧ c.pos ≤ bytes.length ∧
      ∀ o, e.offset? = some o → pos ≤ o ∧ o ≤ bytes.length

theorem Tame.staysWithin {d : Decoder α} (h : Tame pos 1 d) (hpos : pos ≤ bytes.length) :
    StaysWithin bytes pos (d (.into bytes pos)) := by
  have hlo : pos ≤ (Cursor.into bytes pos).pos := Nat.le_refl pos
  cases hd : d (.into bytes pos) with
  | ok v c =>
    obtain ⟨ahead, past⟩ := h.ahead_ok hlo hd
    obtain ⟨heq, hle⟩ := ahead.into hpos
    exact ⟨heq, past, hle⟩
  | error e c =>
    obtain ⟨ahead, pinned⟩ := h.ahead_error hlo hd
    obtain ⟨heq, hle⟩ := ahead.into hpos
    rw [Cursor.stop_into hpos] at pinned
    exact ⟨heq, ahead.pos_le, hle, pinned⟩

/-- Reading is safe on every stream and from every position in it, for every type that is written
to streams: the reader stays in the stream and gets ahead, whatever counts the stream claims.
Slices are given of the stream only. The recursion through items ends on its own, and an item is
never put together from parts of different kinds. -/
theorem read_safe :
    (∀ (α : Type) [Format α], Written α → ∀ bytes pos, pos ≤ bytes.length →
      StaysWithin bytes pos ((read : Decoder α) (.into bytes pos)) ∧
      ∀ (vs : List α) c, (read : Decoder (List α)) (.into bytes pos) = .ok vs c →
        pos + (vs.length + 1) ≤ c.pos) ∧
    (∀ bytes pos n, pos ≤ bytes.length → Decoder.take n (.into bytes pos) =
      if pos + n ≤ bytes.length then .ok ((bytes.drop pos).take n) (.into bytes (pos + n))
      else .error (.truncated bytes.length) (.into bytes pos)) ∧
    (read : Decoder Item) = readItemWith read ∧
    (read : Decoder Doc) = readDocWith read ∧
    ∀ c s c₁ d c₂, (read : Decoder Subject) c = .ok s c₁ → (read : Decoder Doc) c₁ = .ok d c₂ →
      (s.kind = d.kind → ∃ i, (read : Decoder Item) c = .ok i c₂ ∧ i.subject = s ∧ i.doc = d) ∧
      (s.kind ≠ d.kind →
        (read : Decoder Item) c = .error (.mismatchedItem s.kind d.kind) c₂) := by
  refine ⟨fun α _ hα bytes pos hpos => ⟨hα.tame.staysWithin hpos, fun vs c h => ?_⟩,
    fun bytes pos n hpos => take_into hpos n, read_item_eq, read_doc_eq,
    fun c s c₁ d c₂ hs hd => read_item_of_parts hs hd⟩
  exact length_of_list hα.tame h

/-- A list that claims 2 ^ 32 - 1 texts and holds two empty ones. -/
def hostileList : List UInt8 := [0xdd, 0xff, 0xff, 0xff, 0xff, 0xa0, 0xa0]

/-- An entity's subject with a function's doc. -/
def mixedItem : List UInt8 := [0, 0xa0, 0xa0, 0xa0, 3, 0xc0, 5, 0x90, 0xc0, 3, 0xc0, 1, 0xc0, 0]

theorem read_safe_hostile :
    (read : Decoder (List String)) (.into hostileList 0) = .error (.truncated 7) ⟨7, []⟩ ∧
      StaysWithin hostileList 0 ((read : Decoder (List String)) (.into hostileList 0)) ∧
      (∀ vs c, (read : Decoder (List String)) (.into [0x92, 0xa1, 0x61, 0xa0] 0) = .ok vs c →
        vs.length + 1 ≤ c.pos) ∧
      (read : Decoder Item) (.into mixedItem 0) =
        .error (.mismatchedItem .entity .function) ⟨14, []⟩ := by
  have hlist := (read_safe.1 (List String) (.list .string) hostileList 0 (by decide)).1
  have htwo := (read_safe.1 String .string [0x92, 0xa1, 0x61, 0xa0] 0 (by decide)).2
  have hmixed := (read_safe.2.2.2.2 (.into mixedItem 0) (.entity ⟨"", "", ""⟩) ⟨4, mixedItem.drop 4⟩
    (.function {}) ⟨14, []⟩ rfl rfl).2 (by decide)
  refine ⟨by cbv, hlist, fun vs c h => ?_, hmixed⟩
  have := htwo vs c h
  omega

end DocSite.Wire
