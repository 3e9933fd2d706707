import DocSite.Proofs.Wire.RoundTrip
import DocSite.Proofs.Wire.Spelling

/-!
# What is written is the shortest that can be read

Whatever stream a value is read from, it carries the tokens of the value
(`Sound`). Streams of one value therefore differ in the spelling of their tokens
only, and the stream that is written is the shortest of them
(`encode_shortest`).
-/

namespace DocSite.Wire

open Format (tokens read)

-- ---------------------------------------------------------------------------
-- Prose
-- ---------------------------------------------------------------------------

theorem sound_string : Sound [] (read : Decoder String) tokens := .str

theorem sound_origin : Sound [] (read : Decoder Origin) tokens :=
  .tag .origin fun
    | 0, _ => .pure rfl
    | 1, _ => .pure rfl

theorem sound_typeRef : Sound [] (read : Decoder TypeRef) tokens :=
  .bind sound_origin fun _ => .bind sound_string fun _ => .pure rfl

theorem sound_typeRef? : Sound [] (read : Decoder (Option TypeRef)) tokens :=
  .optional sound_typeRef _

theorem sound_piece : Sound [] (read : Decoder Piece) tokens :=
  .tag .piece fun
    | 0, _ => .bind sound_string fun _ => .pure rfl
    | 1, _ => .bind sound_string fun _ => .pure rfl
    | 2, _ => .bind sound_string fun _ => .pure rfl
    | 3, _ => .bind sound_string fun _ => .pure rfl

theorem sound_description : Sound [] (read : Decoder Description) tokens :=
  .bind (.list sound_piece) fun _ => .pure rfl

theorem sound_description? : Sound [] (read : Decoder (Option Description)) tokens :=
  .optional sound_description _

-- ---------------------------------------------------------------------------
-- Docs
-- ---------------------------------------------------------------------------

theorem sound_paramDoc : Sound [] (read : Decoder ParamDoc) tokens :=
  .bind sound_string fun _ => .bind sound_typeRef? fun _ => .bind sound_description? fun _ =>
    .pure rfl

theorem sound_returnDoc : Sound [] (read : Decoder ReturnDoc) tokens :=
  .bind sound_typeRef? fun _ => .bind sound_description? fun _ => .pure rfl

theorem sound_onDoc : Sound [] (read : Decoder OnDoc) tokens :=
  .bind sound_typeRef? fun _ => .bind sound_description? fun _ => .pure rfl

theorem sound_errorsDoc : Sound [] (read : Decoder ErrorsDoc) tokens :=
  .bind sound_description? fun _ => .pure rfl

theorem sound_constructorDoc : Sound [] (read : Decoder ConstructorDoc) tokens :=
  .bind sound_description? fun _ => .bind (.list sound_paramDoc) fun _ => .pure rfl

theorem sound_fieldDoc : Sound [] (read : Decoder FieldDoc) tokens :=
  .bind sound_description? fun _ => .bind sound_typeRef? fun _ => .pure rfl

theorem sound_functionDoc : Sound [] (read : Decoder FunctionDoc) tokens :=
  .bind sound_description? fun _ => .bind (.list sound_paramDoc) fun _ =>
    .bind (.optional sound_returnDoc _) fun _ => .bind (.optional sound_onDoc _) fun _ =>
      .bind (.optional sound_errorsDoc _) fun _ => .pure rfl

-- ---------------------------------------------------------------------------
-- Subjects
-- ---------------------------------------------------------------------------

theorem sound_entitySubject : Sound [] (read : Decoder EntitySubject) tokens :=
  .bind sound_string fun _ => .bind sound_string fun _ => .bind sound_string fun _ => .pure rfl

theorem sound_constructorSubject : Sound [] (read : Decoder ConstructorSubject) tokens :=
  .bind sound_string fun _ => .bind sound_string fun _ => .bind sound_string fun _ =>
    .bind (.list sound_string) fun _ => .pure rfl

theorem sound_fieldSubject : Sound [] (read : Decoder FieldSubject) tokens :=
  .bind sound_string fun _ => .bind sound_string fun _ => .bind sound_string fun _ =>
    .bind sound_string fun _ => .pure rfl

theorem sound_functionSubject : Sound [] (read : Decoder FunctionSubject) tokens :=
  .bind sound_string fun _ => .bind sound_string fun _ => .bind sound_string fun _ =>
    .bind (.list sound_string) fun _ => .bind .bool fun _ => .bind .bool fun _ =>
      .bind (.optional sound_string _) fun _ => .pure (by simp [tokens])

theorem sound_subject : Sound [] (read : Decoder Subject) tokens :=
  .tag .subject fun
    | 0, _ => .bind sound_entitySubject fun _ => .pure rfl
    | 1, _ => .bind sound_constructorSubject fun _ => .pure rfl
    | 2, _ => .bind sound_fieldSubject fun _ => .pure rfl
    | 3, _ => .bind sound_functionSubject fun _ => .pure rfl

-- ---------------------------------------------------------------------------
-- Items and libraries
-- ---------------------------------------------------------------------------

section
variable {item : Decoder Item} (h : Sound [] item tokens)
include h

theorem sound_docWith : Sound [] (readDocWith item) tokens :=
  .tag .doc fun
    | 0, _ => .bind sound_constructorDoc fun _ => .pure rfl
    | 1, _ => .bind sound_description? fun description => .bind h.list fun contained =>
        .bind h.list fun extensions => .pure (by
          simp [tokens, docTokens, entityDocTokens, listTokens, itemsTokens_eq_flatMap])
    | 2, _ => .bind sound_fieldDoc fun _ => .pure rfl
    | 3, _ => .bind sound_functionDoc fun _ => .pure rfl

theorem sound_itemWith : Sound [] (readItemWith item) tokens := by
  refine .bind sound_subject fun subject => .bind (sound_docWith h) fun doc => ?_
  split
  · rename_i i hi
    obtain ⟨rfl, rfl⟩ := Item.ofParts?_eq_some_iff.1 hi
    exact .pure (itemTokens_eq i)
  · exact .fail _

end

theorem sound_itemWithin (bound : Nat) : Sound [] (readItemWithin bound) tokens := by
  induction bound with
  | zero =>
    intro c v c' h
    cases h
  | succ bound ih => exact sound_itemWith ih

theorem sound_item : Sound [] (read : Decoder Item) tokens :=
  fun c i c' h => sound_itemWithin c.remaining c i c' h

theorem sound_doc : Sound [] (read : Decoder Doc) tokens :=
  fun c d c' h => sound_docWith (sound_itemWithin c.remaining) c d c' h

theorem sound_sourceFile : Sound [] (read : Decoder SourceFile) tokens :=
  .bind sound_string fun _ => .bind sound_string fun _ => .bind (.list sound_item) fun _ => .pure rfl

theorem sound_metadata : Sound [] (read : Decoder Metadata) tokens :=
  .bind sound_string fun _ => .bind sound_string fun _ => .bind sound_string fun _ =>
    .bind sound_string fun _ => .bind (.optional sound_string _) fun _ => .pure rfl

theorem Written.sound [Format α] (h : Written α) : Sound [] (read : Decoder α) tokens := by
  induction h with
  | string => exact sound_string
  | piece => exact sound_piece
  | description => exact sound_description
  | typeRef => exact sound_typeRef
  | paramDoc => exact sound_paramDoc
  | returnDoc => exact sound_returnDoc
  | onDoc => exact sound_onDoc
  | errorsDoc => exact sound_errorsDoc
  | subject => exact sound_subject
  | doc => exact sound_doc
  | item => exact sound_item
  | sourceFile => exact sound_sourceFile
  | metadata => exact sound_metadata
  | description? => exact sound_description?
  | typeRef? => exact sound_typeRef?
  | returnDoc? => exact .optional sound_returnDoc _
  | onDoc? => exact .optional sound_onDoc _
  | errorsDoc? => exact .optional sound_errorsDoc _
  | list _ ih => exact ih.list

-- ---------------------------------------------------------------------------
-- Whole streams
-- ---------------------------------------------------------------------------

theorem run_eq_ok {d : Decoder α} (h : d.run bytes = .ok v) :
    ∃ c, d (.ofBytes bytes) = .ok v c ∧ c.rest = [] := by
  unfold Decoder.run at h
  split at h
  · rename_i w c hd
    cases h
    obtain ⟨w, c₁, hd, hfin⟩ := run_bind_eq_ok hd
    obtain ⟨_, c₂, hfin, hpure⟩ := run_bind_eq_ok hfin
    cases hpure
    refine ⟨c₁, hd, ?_⟩
    unfold Decoder.finish at hfin
    split at hfin
    · assumption
    · cases hfin
  · cases h

/-- A stream that is read as a value carries the tokens of the value, spelled in some way. The
stream that is written carries them too, and it is read back; it is the shortest stream of the
value, and the only one of its length. -/
theorem encode_shortest [Format α] (hα : Written α) (h : decode bytes = .ok (v : α)) :
    Carries bytes (tokens v) ∧ Carries (encode v) (tokens v) ∧ decode (encode v) = .ok v ∧
      (encode v).length ≤ bytes.length ∧
      ((encode v).length = bytes.length ↔ bytes = encode v) := by
  obtain ⟨c, hread, hrest⟩ := run_eq_ok h
  obtain ⟨bs, ts, hbs, hts, htokens⟩ := hα.sound _ v c hread
  have hbytes : bytes = bs := by rw [hrest, List.append_nil] at hbs; exact hbs
  have hcarries : Carries bytes (tokens v) := by rwa [hbytes, htokens]
  -- what has been read once can be written: every length was spelled in 32 bits
  have hfits : FitAll (tokens v) := hcarries.fitAll
  obtain ⟨hwritten, hshort⟩ := shortest_carries hfits
  obtain ⟨hle, heq⟩ := hshort bytes hcarries
  refine ⟨hcarries, hwritten, (hα.readable v hfits).run, hle, fun hl => heq hl.symm, ?_⟩
  rintro rfl
  rfl

/-- One piece of text in a list, with every header wider than it has to be. -/
def wideList : List UInt8 := [0xdc, 0, 1, 0xcc, 0, 0xda, 0, 1, 0x61]

theorem encode_shortest_wide :
    decode wideList = .ok [Piece.text "a"] ∧
      Carries wideList [.array 1, .uint 0, .str "a"] ∧
      encode [Piece.text "a"] = [0x91, 0, 0xa1, 0x61] ∧
      ((encode [Piece.text "a"]).length = wideList.length ↔ wideList = encode [Piece.text "a"]) := by
  have hread : decode wideList = .ok [Piece.text "a"] := rfl
  obtain ⟨hcarries, -, -, -, hiff⟩ := encode_shortest (.list .piece) hread
  exact ⟨hread, hcarries, by decide, hiff⟩

end DocSite.Wire
