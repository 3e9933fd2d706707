import DocSite.Proofs.Wire.Lexeme
import DocSite.Proofs.Wire.Truncation

/-!
# Damage is pinned to its byte

A tag that has become too large, or a nil of no known kind, is refused where it stands, at any
depth (`damage_pinned`): the bytes before it are read as they were written, and what looks ahead
at the damaged byte reports it or leaves it alone.
-/

namespace DocSite.Wire

open Format (tokens read)
open Lexical (lexemes)

-- ---------------------------------------------------------------------------
-- Damaged lexemes
-- ---------------------------------------------------------------------------

/-- Bytes that are found in the place of a lexeme when one of its bytes has changed, and what
they are refused for at the lexeme's offset. -/
inductive Flaw : Lexeme → List UInt8 → (Nat → Corruption) → Prop
  | tag (hmax : kind.maxTag < b.toNat) (hb : b ≤ 0x7f) :
      Flaw (.tag kind value) [b] (.unknownTag kind b.toNat)
  | nil (hb : 6 < b) :
      Flaw (.nil absent) [0xc0, b] fun offset => .unknownPlaceholder b (offset + 1)

/-- A decoder gets through the tokens before the bad bytes, and refuses those. -/
def Refuses (d : Decoder α) (before : List Token) (bad : List UInt8) (e : Nat → Corruption) :
    Prop :=
  ∀ pos rest, ∃ c, d ⟨pos, bytesOf before ++ (bad ++ rest)⟩ =
    .error (e (pos + (bytesOf before).length)) c

/-- A decoder refuses the lexemes of a value wherever they are damaged. -/
def Guards (d : Decoder α) (ls : List Lexeme) : Prop :=
  ∀ before l after bad e, ls = before ++ l :: after → Flaw l bad e →
    Refuses d (tokensOf before) bad e

theorem Refuses.first {d : Decoder α} (h : Refuses d before bad e) (k : α → Decoder β) :
    Refuses (d >>= k) before bad e := by
  intro pos rest
  obtain ⟨c, hc⟩ := h pos rest
  exact ⟨c, run_bind_error hc⟩

theorem Refuses.next {d : Decoder α} {k : α → Decoder β} (hd : Reads d ts v)
    (h : Refuses (k v) before bad e) : Refuses (d >>= k) (ts ++ before) bad e := by
  intro pos rest
  obtain ⟨c, hc⟩ := h (pos + (bytesOf ts).length) rest
  refine ⟨c, ?_⟩
  rw [bytesOf_append, List.append_assoc, run_bind_ok (hd pos _), hc, List.length_append,
    Nat.add_assoc]

namespace Guards

theorem nothing (d : Decoder α) : Guards d [] := by
  intro before l after bad e h
  simp at h

/-- Nothing but tags and nils can be damaged so. -/
theorem quiet {ls : List Lexeme} (h : ∀ l ∈ ls, ∀ bad e, ¬ Flaw l bad e) (d : Decoder α) :
    Guards d ls := by
  rintro before l after bad e rfl hflaw
  exact absurd hflaw (h l (by simp) bad e)

theorem wrap {d : Decoder α} (h : Guards d ls) (k : α → Decoder β) : Guards (d >>= k) ls :=
  fun before l after bad e hsplit hflaw => (h before l after bad e hsplit hflaw).first k

theorem bind {d : Decoder α} {k : α → Decoder β} (h : Guards d ls) (hd : Reads d (tokensOf ls) v)
    (hk : Guards (k v) ms) : Guards (d >>= k) (ls ++ ms) := by
  intro before l after bad e hsplit hflaw
  rcases List.append_eq_append_iff.1 hsplit with ⟨mid, rfl, hmid⟩ | ⟨mid, rfl, hmid⟩
  · -- the damage is behind what the first decoder reads
    rw [tokensOf_append]
    exact .next hd (hk mid l after bad e hmid hflaw)
  · cases mid with
    | nil =>
      rw [List.append_nil] at hd
      simpa using Refuses.next hd (hk [] l after bad e hmid.symm hflaw)
    | cons l' mid =>
      obtain ⟨rfl, -⟩ := List.cons.inj hmid
      exact (h before l mid bad e rfl hflaw).first k

end Guards

-- ---------------------------------------------------------------------------
-- Tags and nils
-- ---------------------------------------------------------------------------

theorem ne_nil_of_le {b : UInt8} (hb : b ≤ 0x7f) : b ≠ 0xc0 := by
  rintro rfl
  exact absurd hb (by decide)

theorem Absent.ofCode?_eq_none {b : UInt8} (hb : 6 < b) : Absent.ofCode? b = none := by
  have hb : 6 < b.toNat := UInt8.lt_iff_toNat_lt.1 hb
  unfold Absent.ofCode?
  split <;> first | rfl | omega

theorem Decoder.tag_large {kind : Tagged} (hmax : kind.maxTag < b.toNat) (hb : b ≤ 0x7f) (pos : Nat)
    (rest : List UInt8) : tag kind ⟨pos, b :: rest⟩ =
      .error (.unknownTag kind b.toNat pos) ⟨pos + 1, rest⟩ := by
  have hread : uint ⟨pos, b :: rest⟩ = .ok b.toNat ⟨pos + 1, rest⟩ := by
    rw [uint, header_cons _ (ne_nil_of_le hb), if_pos hb]
    rfl
  rw [tag, run_bind_ok (show position _ = .ok pos _ from rfl), run_bind_ok hread,
    if_neg (Nat.not_le.2 hmax)]
  rfl

theorem Decoder.skipNil_unknown {b : UInt8} (hb : 6 < b) (k : Absent) (pos : Nat)
    (rest : List UInt8) : skipNil k ⟨pos, 0xc0 :: b :: rest⟩ =
      .error (.unknownPlaceholder b (pos + 1)) ⟨pos, 0xc0 :: b :: rest⟩ := by
  simp [skipNil, Absent.ofCode?_eq_none hb]

namespace Guards

theorem tag (kind : Tagged) (value : Fin (kind.maxTag + 1)) :
    Guards (Decoder.tag kind) [.tag kind value] := by
  intro before l after bad e hsplit hflaw
  obtain ⟨rfl, rfl, rfl⟩ : before = [] ∧ l = .tag kind value ∧ after = [] := by
    simpa [List.singleton_eq_append_iff, List.cons_eq_cons] using hsplit
  cases hflaw with
  | tag hmax hb => exact fun pos rest => ⟨_, Decoder.tag_large hmax hb pos rest⟩

/-- Looking ahead for a nil finds out that its kind is unknown. -/
theorem unknown_ahead {b : UInt8} (hb : 6 < b) (k : Absent) (d : Decoder α) :
    Refuses (Decoder.optional k d) [] [0xc0, b] fun offset => .unknownPlaceholder b (offset + 1) := by
  intro pos rest
  exact ⟨_, run_bind_error (Decoder.skipNil_unknown hb k pos rest)⟩

theorem none (k : Absent) (d : Decoder α) : Guards (Decoder.optional k d) [.nil k] := by
  intro before l after bad e hsplit hflaw
  obtain ⟨rfl, rfl, rfl⟩ : before = [] ∧ l = .nil k ∧ after = [] := by
    simpa [List.singleton_eq_append_iff, List.cons_eq_cons] using hsplit
  cases hflaw with
  | nil hb => exact unknown_ahead hb k d

/-- Where no nil is found ahead, the value is read. -/
theorem value_ahead {d : Decoder α} (hd : Refuses d before bad e)
    (hskip : ∀ pos rest, Decoder.skipNil k ⟨pos, bytesOf before ++ (bad ++ rest)⟩ =
      .ok false ⟨pos, bytesOf before ++ (bad ++ rest)⟩) :
    Refuses (Decoder.optional k d) before bad e := by
  intro pos rest
  obtain ⟨c, hc⟩ := hd pos rest
  refine ⟨c, ?_⟩
  rw [Decoder.optional, run_bind_ok (hskip pos rest), if_neg Bool.false_ne_true]
  exact run_bind_error hc

theorem some {d : Decoder α} (h : Guards d ls) (hk : Apart k (tokensOf ls)) :
    Guards (Decoder.optional k d) ls := by
  intro before l after bad e hsplit hflaw
  have hd := h before l after bad e hsplit hflaw
  cases before with
  | nil =>
    cases hflaw with
    | nil hb => exact unknown_ahead hb k d
    | tag hmax hb =>
      refine value_ahead hd fun pos rest => ?_
      simp [Decoder.skipNil, ne_nil_of_le hb]
  | cons l' before =>
    obtain ⟨t, us, hts, ht⟩ := hk
    rw [hsplit, List.cons_append, tokensOf_cons] at hts
    obtain ⟨rfl, -⟩ := List.cons.inj hts
    refine value_ahead hd fun pos rest => ?_
    rw [tokensOf_cons, bytesOf_cons, List.append_assoc]
    exact Decoder.skipNil_other ht pos _

theorem repeated {d : Decoder α} {value : α → List Lexeme} {vs : List α}
    (h : ∀ v ∈ vs, Guards d (value v)) (hd : ∀ v ∈ vs, Reads d (tokensOf (value v)) v) :
    Guards (Decoder.repeated d vs.length) (vs.flatMap value) := by
  induction vs with
  | nil => exact nothing _
  | cons v vs ih =>
    rw [List.forall_mem_cons] at h hd
    exact h.1.bind hd.1 ((ih h.2 hd.2).wrap _)

theorem list {d : Decoder α} {value : α → List Lexeme} {vs : List α}
    (hc : vs.length < UInt32.size) (h : ∀ v ∈ vs, Guards d (value v))
    (hd : ∀ v ∈ vs, Reads d (tokensOf (value v)) v) :
    Guards (Decoder.list d) (listLexemes value vs) := by
  have harray : Guards Decoder.arrayLength [.array vs.length] := quiet (by simpa using nofun) _
  exact harray.bind (.array vs.length hc) (repeated h hd)

end Guards

-- ---------------------------------------------------------------------------
-- Types
-- ---------------------------------------------------------------------------

/-- All values of a type that fit are read back, and are refused where they are damaged. -/
class Guarded (α : Type) [Format α] [Lexical α] : Prop where
  readable : Readable α
  guards : ∀ v : α, Fits v → Guards (read : Decoder α) (lexemes v)

namespace Guarded

section
variable [Format α] [Lexical α] [Guarded α]

theorem reads {v : α} (hv : Fits v) : Reads read (tokensOf (lexemes v)) v :=
  Lexical.tokens_eq v ▸ readable v hv

theorem first (v : α) (hv : Fits v) {k : α → Decoder β} (hk : Guards (k v) ls) :
    Guards ((read : Decoder α) >>= k) (lexemes v ++ ls) :=
  (guards v hv).bind (reads hv) hk

theorem last (v : α) (hv : Fits v) (k : α → Decoder β) :
    Guards ((read : Decoder α) >>= k) (lexemes v) :=
  (guards v hv).wrap k

end

instance [Format α] [Lexical α] [Guarded α] : Guarded (List α) where
  readable := (readable : Readable α).list
  guards vs hf := by
    obtain ⟨hc, hvs⟩ := fitAll_cons.1 hf
    have hfit : ∀ v ∈ vs, Fits v := fitAll_flatMap.1 hvs
    exact .list hc (fun v hv => guards v (hfit v hv)) fun v hv => reads (hfit v hv)

theorem option [Omissible α] [Lexical α] [Guarded α]
    (hk : ∀ v : α, Apart (Omissible.absent α) (tokens v)) : Guarded (Option α) where
  readable := (readable : Readable α).option hk
  guards o hf := by
    cases o with
    | none => exact .none _ _
    | some v => exact (guards v hf).some (Lexical.tokens_eq v ▸ hk v)

end Guarded

/-- A tag and what follows it. -/
theorem Guards.tagged (kind : Tagged) (value : Fin (kind.maxTag + 1)) {k : Nat → Decoder α}
    (hk : Guards (k value) ls) : Guards (Decoder.tag kind >>= k) (.tag kind value :: ls) := by
  have hread : Reads (Decoder.tag kind) (tokensOf [.tag kind value]) value := by
    refine .tag kind (.ofNat value) (UInt32.toNat_ofNat_of_lt' ?_) (Nat.le_of_lt_succ value.isLt)
    cases kind <;> exact Nat.lt_of_lt_of_le value.isLt (by decide)
  exact (Guards.tag kind value).bind hread hk

theorem Guards.bool (value : Bool) {k : Bool → Decoder α} (hk : Guards (k value) ls) :
    Guards (Decoder.bool >>= k) (.bool value :: ls) := by
  have hbool : Guards Decoder.bool [.bool value] := quiet (by simpa using nofun) _
  exact hbool.bind (.bool value) hk

open Guarded (first last)

instance : Guarded String where
  readable := readable_string
  guards _ _ := .quiet (by simpa [lexemes] using nofun) _

theorem guards_optional_string {o : Option String} (hf : FitAll (optionalTokens k tokens o)) :
    Guards (Decoder.optional k (read : Decoder String)) (optionalLexemes k lexemes o) := by
  cases o with
  | none => exact .none _ _
  | some text => exact (Guarded.guards text hf).some ⟨.str text, [], rfl, by simp⟩

instance : Guarded Origin where
  readable := readable_origin
  guards o _ := by
    cases o with
    | script => exact (Guards.tag .origin 0).wrap _
    | host => exact (Guards.tag .origin 1).wrap _

instance : Guarded TypeRef where
  readable := readable_typeRef
  guards t hf := by
    obtain ⟨ho, hn⟩ := fitAll_append.1 hf
    exact first t.origin ho (last t.name hn _)

instance : Guarded (Option TypeRef) := .option apart_typeRef

instance : Guarded Piece where
  readable := readable_piece
  guards p hf := by
    cases p with
    | text s => exact .tagged .piece 0 (last s (fitAll_cons.1 hf).2 _)
    | host s => exact .tagged .piece 1 (last s (fitAll_cons.1 hf).2 _)
    | param s => exact .tagged .piece 2 (last s (fitAll_cons.1 hf).2 _)
    | type s => exact .tagged .piece 3 (last s (fitAll_cons.1 hf).2 _)

instance : Guarded Description where
  readable := readable_description
  guards d hf := last d.pieces hf _

instance : Guarded (Option Description) := .option apart_description

instance : Guarded ParamDoc where
  readable := readable_paramDoc
  guards d hf := by
    simp only [Fits, tokens, fitAll_append] at hf
    obtain ⟨⟨hn, ht⟩, hd⟩ := hf
    simp only [lexemes, List.append_assoc]
    exact first d.name hn (first d.type ht (last d.description hd _))

instance : Guarded ReturnDoc where
  readable := readable_returnDoc
  guards d hf := by
    obtain ⟨ht, hd⟩ := fitAll_append.1 hf
    exact first d.type ht (last d.description hd _)

instance : Guarded (Option ReturnDoc) :=
  .option fun d => (apart_option (by decide) apart_typeRef d.type).append _

instance : Guarded OnDoc where
  readable := readable_onDoc
  guards d hf := by
    obtain ⟨ht, hd⟩ := fitAll_append.1 hf
    exact first d.type ht (last d.description hd _)

instance : Guarded (Option OnDoc) :=
  .option fun d => (apart_option (by decide) apart_typeRef d.type).append _

instance : Guarded ErrorsDoc where
  readable := readable_errorsDoc
  guards d hf := last d.description hf _

instance : Guarded (Option ErrorsDoc) :=
  .option fun d => apart_option (by decide) apart_description d.description

instance : Guarded ConstructorDoc where
  readable := readable_constructorDoc
  guards d hf := by
    obtain ⟨hd, hp⟩ := fitAll_append.1 hf
    exact first d.description hd (last d.params hp _)

instance : Guarded FieldDoc where
  readable := readable_fieldDoc
  guards d hf := by
    obtain ⟨hd, ht⟩ := fitAll_append.1 hf
    exact first d.description hd (last d.type ht _)

instance : Guarded FunctionDoc where
  readable := readable_functionDoc
  guards d hf := by
    simp only [Fits, tokens, fitAll_append] at hf
    obtain ⟨⟨⟨⟨hd, hp⟩, hr⟩, ho⟩, he⟩ := hf
    simp only [lexemes, List.append_assoc]
    exact first d.description hd (first d.params hp (first d.returns hr (first d.on ho
      (last d.errors he _))))

instance : Guarded EntitySubject where
  readable := readable_entitySubject
  guards s hf := by
    simp only [Fits, tokens, fitAll_append] at hf
    obtain ⟨⟨hl, hp⟩, hn⟩ := hf
    simp only [lexemes, List.append_assoc]
    exact first s.library hl (first s.path hp (last s.name hn _))

instance : Guarded ConstructorSubject where
  readable := readable_constructorSubject
  guards s hf := by
    simp only [Fits, tokens, fitAll_append] at hf
    obtain ⟨⟨⟨hl, hp⟩, hn⟩, hps⟩ := hf
    simp only [lexemes, List.append_assoc]
    exact first s.library hl (first s.path hp (first s.name hn (last s.params hps _)))

instance : Guarded FieldSubject where
  readable := readable_fieldSubject
  guards s hf := by
    simp only [Fits, tokens, fitAll_append] at hf
    obtain ⟨⟨⟨hl, hp⟩, ht⟩, hn⟩ := hf
    simp only [lexemes, List.append_assoc]
    exact first s.library hl (first s.path hp (first s.declaredType ht (last s.name hn _)))

instance : Guarded FunctionSubject where
  readable := readable_functionSubject
  guards s hf := by
    simp only [Fits, tokens, fitAll_append] at hf
    obtain ⟨⟨⟨⟨⟨hl, hp⟩, hn⟩, hps⟩, -⟩, ho⟩ := hf
    simp only [lexemes, List.append_assoc, List.cons_append, List.nil_append]
    exact first s.library hl (first s.path hp (first s.name hn (first s.params hps
      (.bool _ (.bool _ ((guards_optional_string ho).wrap _))))))

instance : Guarded Subject where
  readable := readable_subject
  guards s hf := by
    cases s with
    | entity s => exact .tagged .subject 0 (last s (fitAll_cons.1 hf).2 _)
    | constructor s => exact .tagged .subject 1 (last s (fitAll_cons.1 hf).2 _)
    | field s => exact .tagged .subject 2 (last s (fitAll_cons.1 hf).2 _)
    | function s => exact .tagged .subject 3 (last s (fitAll_cons.1 hf).2 _)

-- ---------------------------------------------------------------------------
-- Items and libraries
-- ---------------------------------------------------------------------------

theorem guards_doc {item : Decoder Item} {d : Doc} (hf : FitAll (docTokens d))
    (hi : ∀ i ∈ innerItems d, Guards item (itemLexemes i))
    (hr : ∀ i ∈ innerItems d, Reads item (itemTokens i) i) :
    Guards (readDocWith item) (docLexemes d) := by
  cases d with
  | entity d =>
    simp only [docTokens, docLexemes, entityDocTokens_eq, entityDocLexemes_eq] at hf ⊢
    simp only [listTokens, fitAll_cons, fitAll_append] at hf
    obtain ⟨-, hd, ⟨hc, -⟩, he, -⟩ := hf
    simp only [itemTokens_eq_tokensOf] at hr
    have hcr : ∀ i ∈ d.contained, Reads item (tokensOf (itemLexemes i)) i := fun i h =>
      hr i (List.mem_append_left _ h)
    have hcs := Guards.list hc (fun i h => hi i (List.mem_append_left _ h)) hcr
    have hes := Guards.list he (fun i h => hi i (List.mem_append_right _ h))
      fun i h => hr i (List.mem_append_right _ h)
    have hcread : Reads (Decoder.list item) (tokensOf (listLexemes itemLexemes d.contained))
        d.contained := by
      rw [← listTokens_eq fun i _ => rfl]
      exact .list hc hcr
    exact .tagged .doc 1 (first d.description hd (hcs.bind hcread (hes.wrap _)))
  | constructor d => exact .tagged .doc 0 (last d (fitAll_cons.1 hf).2 _)
  | field d => exact .tagged .doc 2 (last d (fitAll_cons.1 hf).2 _)
  | function d => exact .tagged .doc 3 (last d (fitAll_cons.1 hf).2 _)

theorem guards_item {i : Item} (hf : Fits i) : Guards (read : Decoder Item) (itemLexemes i) := by
  -- on the bytes of the item, of which an item inside it has fewer
  induction hn : (bytesOf (itemTokens i)).length using Nat.strongRecOn generalizing i with
  | ind n ih =>
    replace hf : FitAll (itemTokens i) := hf
    rw [itemTokens_eq] at hf hn
    obtain ⟨hs, hd⟩ := fitAll_append.1 hf
    rw [bytesOf_append, List.length_append] at hn
    have hfits : ∀ j ∈ innerItems i.doc, Fits j := fun j hj => fitAll_inner hd hj
    have hdoc : Guards (readDocWith read) (docLexemes i.doc) :=
      guards_doc hd (fun j hj => ih _ (by have := length_bytesOf_inner hj; omega) (hfits j hj) rfl)
        fun j hj => readable_item j (hfits j hj)
    rw [read_item_eq, itemLexemes_eq]
    exact first i.subject hs (hdoc.wrap _)

instance : Guarded Item where
  readable := readable_item
  guards _ := guards_item

instance : Guarded SourceFile where
  readable := readable_sourceFile
  guards f hf := by
    simp only [Fits, tokens, fitAll_append] at hf
    obtain ⟨⟨hn, hp⟩, hi⟩ := hf
    simp only [lexemes, List.append_assoc]
    exact first f.name hn (first f.importPath hp (last f.items hi _))

instance : Guarded Metadata where
  readable := readable_metadata
  guards m hf := by
    simp only [Fits, tokens, fitAll_append] at hf
    obtain ⟨⟨⟨⟨hn, hv⟩, ha⟩, hd⟩, hu⟩ := hf
    simp only [lexemes, List.append_assoc]
    exact first m.name hn (first m.version hv (first m.author ha (first m.description hd
      ((guards_optional_string hu).wrap _))))

theorem guards_body {r : Record} (h : RecordFits r) :
    Guards (do return { metadata := ← read, files := ← read, natives := ← read } : Decoder Record)
      (recordLexemes r) := by
  obtain ⟨hm, hf, hn⟩ := h
  exact first r.metadata hm (first r.files hf (last r.natives hn _))

/-- A cache file with bad bytes in the place of a lexeme. -/
theorem decodeRecord_damaged {r : Record} (h : RecordFits r)
    (hsplit : recordLexemes r = before ++ l :: after) (hflaw : Flaw l bad e) :
    decodeRecord (magic ++ (formatVersion ::
        (bytesOf (tokensOf before) ++ (bad ++ bytesOf (tokensOf after))))) =
      .error (e (5 + (bytesOf (tokensOf before)).length)) := by
  obtain ⟨c, hc⟩ := guards_body h before l after bad e hsplit hflaw 5 (bytesOf (tokensOf after))
  exact run_eq_error ((run_bind_ok (readHeader_append _)).trans hc)

-- ---------------------------------------------------------------------------
-- Changed bytes
-- ---------------------------------------------------------------------------

/-- Where a lexeme of a library starts in its cache file. -/
def LexemeAt (r : Record) (l : Lexeme) (offset : Nat) : Prop :=
  ∃ before after, recordLexemes r = before ++ l :: after ∧
    offset = (magic ++ [formatVersion] ++ bytesOf (tokensOf before)).length

/-- A changed byte inside a lexeme. -/
theorem set_encodeRecord {r : Record} (hsplit : recordLexemes r = before ++ l :: after) (n : Nat)
    (hn : n < l.token.bytes.length) (b : UInt8) :
    (encodeRecord r).set ((magic ++ [formatVersion] ++ bytesOf (tokensOf before)).length + n) b =
      magic ++ (formatVersion ::
        (bytesOf (tokensOf before) ++ (l.token.bytes.set n b ++ bytesOf (tokensOf after)))) := by
  have hbytes : encodeRecord r = (magic ++ [formatVersion] ++ bytesOf (tokensOf before)) ++
      (l.token.bytes ++ bytesOf (tokensOf after)) := by
    simp [encodeRecord_eq_lexemes, hsplit]
  rw [hbytes, List.set_append_right _ _ (Nat.le_add_right _ _), Nat.add_sub_cancel_left,
    List.set_append_left _ _ hn]
  simp

theorem bytes_tag (kind : Tagged) (value : Fin (kind.maxTag + 1)) :
    (Lexeme.tag kind value).token.bytes = [UInt8.ofNat value] := by
  have hle : (value : Nat) ≤ 3 := by
    have := value.isLt
    cases kind <;> simp only [Tagged.maxTag] at this <;> omega
  have hn : (UInt32.ofNat value).toNat = value :=
    UInt32.toNat_ofNat_of_lt' (Nat.lt_of_le_of_lt hle (by decide))
  rw [Lexeme.token, Token.bytes, hn, Token.uintBytes, if_pos (by omega)]

theorem length_start (before : List Lexeme) :
    (magic ++ [formatVersion] ++ bytesOf (tokensOf before)).length =
      5 + (bytesOf (tokensOf before)).length := by
  rw [List.length_append]
  rfl

/-- A cache file consists of its header and the lexemes of the library. A tag in it that has
been changed to a larger byte than any tag of its kind, or a nil with a changed kind that is none,
makes the file unreadable, and the cause names the byte. -/
theorem damage_pinned (r : Record) (h : RecordFits r) :
    encodeRecord r = magic ++ [formatVersion] ++ bytesOf (tokensOf (recordLexemes r)) ∧
    (∀ kind value offset (b : UInt8), LexemeAt r (.tag kind value) offset →
      kind.maxTag < b.toNat → b ≤ 0x7f →
      decodeRecord ((encodeRecord r).set offset b) = .error (.unknownTag kind b.toNat offset)) ∧
    ∀ absent offset (b : UInt8), LexemeAt r (.nil absent) offset → 6 < b →
      decodeRecord ((encodeRecord r).set (offset + 1) b) =
        .error (.unknownPlaceholder b (offset + 1)) := by
  refine ⟨by simp [encodeRecord_eq_lexemes], ?_, ?_⟩
  · rintro kind value offset b ⟨before, after, hsplit, rfl⟩ hmax hb
    have hset := set_encodeRecord hsplit 0 (by simp [bytes_tag]) b
    rw [bytes_tag, Nat.add_zero] at hset
    rw [hset, length_start]
    exact decodeRecord_damaged h hsplit (.tag hmax hb)
  · rintro absent offset b ⟨before, after, hsplit, rfl⟩ hb
    have hset := set_encodeRecord hsplit 1 (by simp [Lexeme.token, Token.bytes]) b
    rw [hset, length_start]
    exact decodeRecord_damaged h hsplit (.nil hb)

/-- The tag of a type behind two look-aheads, and the first nil inside a result that is
documented with nothing. -/
theorem damage_pinned_nested :
    RecordFits nestedRecord ∧
      (LexemeAt nestedRecord (.tag .origin 0) 173 ∧
        decodeRecord ((encodeRecord nestedRecord).set 173 2) = .error (.unknownTag .origin 2 173)) ∧
      LexemeAt nestedRecord (.nil .fieldType) 130 ∧
        decodeRecord ((encodeRecord nestedRecord).set 131 9) =
          .error (.unknownPlaceholder 9 131) := by
  have hfits : RecordFits nestedRecord := by decide
  have htag : LexemeAt nestedRecord (.tag .origin 0) 173 :=
    ⟨(recordLexemes nestedRecord).take 58, (recordLexemes nestedRecord).drop 59, rfl,
      by decide +kernel⟩
  have hnil : LexemeAt nestedRecord (.nil .fieldType) 130 :=
    ⟨(recordLexemes nestedRecord).take 40, (recordLexemes nestedRecord).drop 41, rfl,
      by decide +kernel⟩
  obtain ⟨-, htags, hnils⟩ := damage_pinned nestedRecord hfits
  exact ⟨hfits, ⟨htag, htags _ _ _ 2 htag (by decide) (by decide)⟩, hnil,
    hnils _ _ 9 hnil (by decide)⟩

end DocSite.Wire
