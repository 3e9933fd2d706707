import DocSite.Files.Tree
import DocSite.Page
import DocSite.Proofs.Page.Link
import Mathlib.Data.List.Infix
import Mathlib.Data.List.TakeWhile

/-!
# What links ask for

A link asks for the bytes that its path stands for, with every escape read as its byte. Links
write names in form encoding, where a space is not an escape, and the names of source files as
they are. So a link leads to the page it is for unless there is a space in a name, or the path of
a source file has something in it that links take for their own (`url_page`).
-/

namespace DocSite.Page

open Text (hexValue? formByte formEncode isFormSafe)
open Files (join segments isAbsolute textBytes)

-- ---------------------------------------------------------------------------
-- Reading a link
-- ---------------------------------------------------------------------------

def isPathEnd (c : Char) : Bool := c == '?' || c == '#'

/-- The path of a link, without a query and a fragment. -/
def urlPath (url : List Char) : List Char := url.takeWhile (! isPathEnd ·)

/-- The byte of the escape at the front of a text. -/
def escapedByte? : List Char → Option UInt8
  | '%' :: a :: b :: _ => do
    let high ← hexValue? a
    let low ← hexValue? b
    return UInt8.ofNat (16 * high + low)
  | _ => none

/-- The bytes a text stands for: an escape for its byte, and all else for itself. -/
def decoded : List Char → List UInt8
  | [] => []
  | c :: s =>
    match escapedByte? (c :: s) with
    | some b => b :: decoded (s.drop 2)
    | none => String.utf8EncodeChar c ++ decoded s
termination_by s => s.length

/-- What a link asks for. -/
def requested (url : String) : List UInt8 := decoded (urlPath url.toList)

/-- Nothing in the text means something else in a link. -/
structure Literal (s : List Char) : Prop where
  no_end : ∀ c ∈ s, isPathEnd c = false
  no_escape : ∀ t, t <:+ s → escapedByte? t = none

theorem escapedByte?_eq_some (h : escapedByte? s = some b) :
    ∃ x y rest, s = '%' :: x :: y :: rest := by
  unfold escapedByte? at h
  split at h
  · exact ⟨_, _, _, rfl⟩
  · cases h

theorem escapedByte?_of_ne (hc : c ≠ '%') (s : List Char) : escapedByte? (c :: s) = none := by
  unfold escapedByte?
  split
  · rename_i heq
    exact absurd (List.cons.inj heq).1 hc
  · rfl

theorem decoded_of_escape (h : escapedByte? (c :: s) = some b) :
    decoded (c :: s) = b :: decoded (s.drop 2) := by
  rw [decoded, h]

theorem decoded_of_no_escape (h : escapedByte? (c :: s) = none) :
    decoded (c :: s) = String.utf8EncodeChar c ++ decoded s := by
  rw [decoded, h]

theorem length_utf8EncodeChar_pos (c : Char) : 0 < (String.utf8EncodeChar c).length := by
  rw [String.length_utf8EncodeChar]
  exact c.utf8Size_pos

/-- The bytes of a text, character by character. -/
theorem textBytes_eq (s : String) : textBytes s = s.toList.flatMap String.utf8EncodeChar := by
  have hbytes : s.toUTF8 = (s.toList.flatMap String.utf8EncodeChar).toByteArray := by
    conv_lhs => rw [← String.ofList_toList (s := s)]
    exact String.toByteArray_ofList
  rw [textBytes, hbytes]
  simp

theorem textBytes_append (s t : String) : textBytes (s ++ t) = textBytes s ++ textBytes t := by
  rw [textBytes_eq, textBytes_eq, textBytes_eq, String.toList_append, List.flatMap_append]

theorem length_decoded_le (s : List Char) :
    (decoded s).length ≤ (s.flatMap String.utf8EncodeChar).length := by
  fun_induction decoded s with
  | case1 => rfl
  | case2 c s b hb ih =>
    obtain ⟨x, y, rest, heq⟩ := escapedByte?_eq_some hb
    obtain ⟨rfl, rfl⟩ := List.cons.inj heq
    have hpercent := length_utf8EncodeChar_pos '%'
    simp only [List.drop_succ_cons, List.drop_zero, List.length_cons, List.flatMap_cons,
      List.length_append] at ih ⊢
    omega
  | case3 c s hb ih =>
    simp only [List.flatMap_cons, List.length_append]
    omega

/-- A text stands for itself if there is no escape in it. -/
theorem decoded_eq_iff (s : List Char) :
    decoded s = s.flatMap String.utf8EncodeChar ↔ ∀ t, t <:+ s → escapedByte? t = none := by
  fun_induction decoded s with
  | case1 => simp [escapedByte?]
  | case2 c s b hb ih =>
    obtain ⟨x, y, rest, heq⟩ := escapedByte?_eq_some hb
    obtain ⟨rfl, rfl⟩ := List.cons.inj heq
    refine ⟨fun h => ?_, fun h => ?_⟩
    · -- an escape is longer than its byte
      have hlen := congrArg List.length h
      have hle := length_decoded_le rest
      have hpercent := length_utf8EncodeChar_pos '%'
      have hx := length_utf8EncodeChar_pos x
      simp only [List.drop_succ_cons, List.drop_zero, List.length_cons, List.flatMap_cons,
        List.length_append] at hlen
      omega
    · rw [h _ (List.suffix_refl _)] at hb
      cases hb
  | case3 c s hb ih =>
    simp only [List.flatMap_cons, List.append_cancel_left_eq, ih, List.suffix_cons_iff,
      forall_eq_or_imp, hb, true_and]

theorem urlPath_append (h : ∀ c ∈ s, isPathEnd c = false) (t : List Char) :
    urlPath (s ++ t) = s ++ urlPath t :=
  List.takeWhile_append_of_pos fun c hc => by rw [h c hc, Bool.not_false]

/-- A path stands for the whole text if nothing in the text means something else. -/
theorem decoded_urlPath_eq_iff (s : List Char) :
    decoded (urlPath s) = s.flatMap String.utf8EncodeChar ↔ Literal s := by
  refine ⟨fun h => ?_, fun h => ?_⟩
  · have hcut : urlPath s ++ s.dropWhile (! isPathEnd ·) = s := List.takeWhile_append_dropWhile
    have hrest : s.dropWhile (! isPathEnd ·) = [] := by
      have hle := length_decoded_le (urlPath s)
      rw [h] at hle
      conv_lhs at hle => rw [← hcut, List.flatMap_append, List.length_append]
      cases hd : s.dropWhile (! isPathEnd ·) with
      | nil => rfl
      | cons c t =>
        have hc := length_utf8EncodeChar_pos c
        rw [hd, List.flatMap_cons, List.length_append] at hle
        omega
    rw [hrest, List.append_nil] at hcut
    rw [hcut, decoded_eq_iff] at h
    exact ⟨by simpa using List.dropWhile_eq_nil_iff.1 hrest, h⟩
  · have hpath := urlPath_append h.no_end []
    rw [List.append_nil] at hpath
    rw [hpath, urlPath, List.takeWhile_nil, List.append_nil, decoded_eq_iff]
    exact h.no_escape

-- ---------------------------------------------------------------------------
-- What links are made of
-- ---------------------------------------------------------------------------

theorem decoded_append {front : List Char} (h : '%' ∉ front) (s : List Char) :
    decoded (front ++ s) = front.flatMap String.utf8EncodeChar ++ decoded s := by
  induction front with
  | nil => rfl
  | cons c front ih =>
    rw [List.mem_cons, not_or] at h
    rw [List.cons_append, decoded_of_no_escape (escapedByte?_of_ne (Ne.symm h.1) _), ih h.2,
      List.flatMap_cons, List.append_assoc]

/-- The byte that a form encoded one is taken for. A space is written as a plus, which is no
escape. -/
def unescaped (b : UInt8) : UInt8 := if b = 0x20 then 0x2b else b

theorem decoded_formByte (b : UInt8) (s : List Char) :
    decoded (formByte b ++ s) = unescaped b :: decoded s := by
  unfold formByte unescaped
  split
  · rename_i hsafe
    have hall : ∀ n < 256, isFormSafe (UInt8.ofNat n) = true →
        UInt8.ofNat n ≠ 0x20 ∧ Char.ofUInt8 (UInt8.ofNat n) ≠ '%' ∧
          String.utf8EncodeChar (Char.ofUInt8 (UInt8.ofNat n)) = [UInt8.ofNat n] := by
      decide +kernel
    have hb := hall b.toNat b.toNat_lt
    rw [UInt8.ofNat_toNat] at hb
    obtain ⟨hspace, hpercent, hself⟩ := hb hsafe
    rw [if_neg hspace, List.cons_append, List.nil_append,
      decoded_of_no_escape (escapedByte?_of_ne hpercent s), hself, List.singleton_append]
  · split
    · exact decoded_of_no_escape (escapedByte?_of_ne (by decide) s)
    · obtain ⟨x, y, high, low, hdigits, hx, hy, hback⟩ := Text.exists_hexByteUpper b
      rw [hdigits]
      have hescape : escapedByte? ('%' :: x :: y :: s) = some b := by
        simp only [escapedByte?, hx, hy, Option.bind_eq_bind, Option.bind_some, hback]
        rfl
      exact decoded_of_escape hescape

theorem decoded_formEncode (name : String) (s : List Char) :
    decoded ((formEncode name).toList ++ s) = (textBytes name).map unescaped ++ decoded s := by
  have hbytes : ∀ bs : List UInt8,
      decoded (bs.flatMap formByte ++ s) = bs.map unescaped ++ decoded s := by
    intro bs
    induction bs with
    | nil => rfl
    | cons b bs ih =>
      rw [List.flatMap_cons, List.append_assoc, decoded_formByte, ih, List.map_cons,
        List.cons_append]
  rw [formEncode, String.toList_ofList]
  exact hbytes _

/-- A byte of a text is a space only if a character is. -/
theorem space_mem_utf8EncodeChar (c : Char) : 0x20 ∈ String.utf8EncodeChar c ↔ c = ' ' := by
  have hbyte : ∀ n, (0x20 : UInt8) = UInt8.ofNat n ↔ n % 256 = 0x20 := by
    intro n
    rw [← UInt8.toNat_inj, UInt8.toNat_ofNat', eq_comm]
    rfl
  have hchar : c = ' ' ↔ c.val.toNat = 0x20 := by
    rw [← Char.val_inj, ← UInt32.toNat_inj]
    rfl
  -- all bytes of a longer character are over 127
  rw [hchar, String.utf8EncodeChar]
  split
  · rw [List.mem_singleton, hbyte]
    omega
  · split
    · simp only [List.mem_cons, List.not_mem_nil, or_false, hbyte]
      omega
    · split <;>
      · simp only [List.mem_cons, List.not_mem_nil, or_false, hbyte]
        omega

theorem map_unescaped_eq_iff (name : String) :
    (textBytes name).map unescaped = textBytes name ↔ ' ' ∉ name.toList := by
  have hself : ∀ b, unescaped b = b ↔ b ≠ 0x20 := by
    intro b
    unfold unescaped
    split
    · rename_i hb
      simp [hb]
    · rename_i hb
      simp [hb]
  have hmap := @List.map_eq_map_iff _ _ unescaped (textBytes name) id
  rw [List.map_id] at hmap
  rw [hmap, textBytes_eq]
  simp only [id_eq, hself]
  refine ⟨fun h hspace => ?_, fun h b hb hspace => ?_⟩
  · exact h 0x20 (List.mem_flatMap.2 ⟨' ', hspace, (space_mem_utf8EncodeChar _).2 rfl⟩) rfl
  · obtain ⟨c, hc, hbc⟩ := List.mem_flatMap.1 hb
    rw [hspace] at hbc
    rw [(space_mem_utf8EncodeChar c).1 hbc] at hc
    exact h hc

-- ---------------------------------------------------------------------------
-- Texts that stand for themselves
-- ---------------------------------------------------------------------------

theorem literal_nil : Literal [] := ⟨by simp, by simp [escapedByte?]⟩

theorem literal_cons_iff (c : Char) (s : List Char) :
    Literal (c :: s) ↔ isPathEnd c = false ∧ escapedByte? (c :: s) = none ∧ Literal s := by
  constructor
  · intro h
    have hends := List.forall_mem_cons.1 h.no_end
    exact ⟨hends.1, h.no_escape _ (List.suffix_refl _), hends.2, fun t ht =>
      h.no_escape t (ht.trans (List.suffix_cons c s))⟩
  · rintro ⟨hend, hnone, hs⟩
    refine ⟨List.forall_mem_cons.2 ⟨hend, hs.no_end⟩, fun t ht => ?_⟩
    rcases List.suffix_cons_iff.1 ht with rfl | ht
    · exact hnone
    · exact hs.no_escape t ht

instance decidableLiteral : (s : List Char) → Decidable (Literal s)
  | [] => isTrue literal_nil
  | c :: s =>
    have := decidableLiteral s
    decidable_of_iff _ (literal_cons_iff c s).symm

theorem literal_append {front : List Char}
    (h : ∀ c ∈ front, c ≠ '%' ∧ isPathEnd c = false) (s : List Char) :
    Literal (front ++ s) ↔ Literal s := by
  induction front with
  | nil => rfl
  | cons c front ih =>
    rw [List.forall_mem_cons] at h
    rw [List.cons_append, literal_cons_iff, ih h.2]
    simp [h.1.2, escapedByte?_of_ne h.1.1]

/-- An escape in a name with an ending is one of the name, since a dot is no digit. -/
theorem escapedByte?_append_html (c : Char) (s : List Char) :
    escapedByte? (c :: s ++ ".html".toList) = escapedByte? (c :: s) := by
  by_cases hc : c = '%'
  · subst hc
    have hdot : hexValue? '.' = none := by decide
    rcases s with _ | ⟨x, _ | ⟨y, rest⟩⟩
    · rfl
    · cases hx : hexValue? x <;> simp [escapedByte?, hx, hdot]
    · rfl
  · rw [List.cons_append, escapedByte?_of_ne hc, escapedByte?_of_ne hc]

theorem literal_append_html (s : List Char) : Literal (s ++ ".html".toList) ↔ Literal s := by
  induction s with
  | nil => exact iff_of_true (by decide) literal_nil
  | cons c s ih =>
    have hescape := escapedByte?_append_html c s
    rw [List.cons_append] at hescape ⊢
    rw [literal_cons_iff, literal_cons_iff, hescape, ih]

section

variable {f : Char → Char} (hpercent : ∀ c, f c = '%' ↔ c = '%')
  (hhex : ∀ c, hexValue? (f c) = hexValue? c) (hend : ∀ c, isPathEnd (f c) = isPathEnd c)

include hpercent hhex in
theorem escapedByte?_map (s : List Char) : escapedByte? (s.map f) = escapedByte? s := by
  cases s with
  | nil => rfl
  | cons c s =>
    by_cases hc : c = '%'
    · subst hc
      have hf := (hpercent '%').2 rfl
      rcases s with _ | ⟨x, _ | ⟨y, rest⟩⟩ <;> simp [escapedByte?, hf, hhex]
    · rw [List.map_cons, escapedByte?_of_ne hc, escapedByte?_of_ne (mt (hpercent c).1 hc)]

include hpercent hhex hend in
theorem literal_map (s : List Char) : Literal (s.map f) ↔ Literal s := by
  induction s with
  | nil => rfl
  | cons c s ih =>
    have hescape := escapedByte?_map hpercent hhex (c :: s)
    rw [List.map_cons] at hescape ⊢
    rw [literal_cons_iff, literal_cons_iff, hescape, hend, ih]

end

/-- Separators mean nothing to links, nor do the underscores in their place. -/
theorem literal_sourceName (importPath : String) :
    Literal (sourceName importPath).toList ↔ Literal importPath.toList := by
  have hcases : ∀ c : Char, (c = '/' ∨ c = '\\') ∨ ¬ (c == '/' || c == '\\') = true := by
    intro c
    rw [Bool.or_eq_true, beq_iff_eq, beq_iff_eq]
    exact Decidable.em _
  rw [sourceName, String.toList_ofList]
  apply literal_map
  all_goals
    intro c
    rcases hcases c with (rfl | rfl) | hc
    · decide
    · decide
    · rw [if_neg hc]

-- ---------------------------------------------------------------------------
-- Links and places
-- ---------------------------------------------------------------------------

section

variable {l : String} (hl : [] ∉ segments l)

include hl

theorem libraryDir_eq : libraryDir l = "library" ++ "/" ++ l :=
  Files.join_of_segments (by decide) (Files.isAbsolute_of_segments hl)

theorem libraryDir_segments : [] ∉ segments (libraryDir l) := by
  rw [libraryDir_eq hl, Files.segments_slash, List.mem_append, not_or]
  exact ⟨by decide, hl⟩

/-- Where a page lies that is in a directory of its library. -/
theorem join_libraryDir {dir file : String} (hdir : [] ∉ segments dir)
    (hfile : isAbsolute file = false) :
    "/" ++ join (join (libraryDir l) dir) file =
      "/library/" ++ l ++ ("/" ++ dir ++ "/" ++ file) := by
  have hinner := Files.join_of_segments (libraryDir_segments hl)
    (Files.isAbsolute_of_segments hdir)
  have hsegments : [] ∉ segments (join (libraryDir l) dir) := by
    rw [hinner, Files.segments_slash, List.mem_append, not_or]
    exact ⟨libraryDir_segments hl, hdir⟩
  rw [Files.join_of_segments hsegments hfile, hinner, libraryDir_eq hl, ← String.toList_inj]
  simp

end

/-- A link to something in a directory that is named by an encoded name. -/
theorem decoded_urlPath_formEncode_iff {front : String}
    (hfront : ∀ c ∈ front.toList, c ≠ '%' ∧ isPathEnd c = false) (name : String)
    (rest : List Char) (place : String) :
    decoded (urlPath (front.toList ++ ((formEncode name).toList ++ rest))) =
        textBytes (front ++ name ++ place) ↔
      ' ' ∉ name.toList ∧ decoded (urlPath rest) = textBytes place := by
  have hname : ∀ c ∈ (formEncode name).toList, isPathEnd c = false :=
    Text.forall_mem_formEncode (by decide +kernel) name
  have hlength : ((textBytes name).map unescaped).length = (textBytes name).length :=
    List.length_map _
  rw [urlPath_append fun c hc => (hfront c hc).2, urlPath_append hname,
    decoded_append fun hc => (hfront _ hc).1 rfl, decoded_formEncode, ← textBytes_eq,
    textBytes_append, textBytes_append, List.append_assoc, List.append_cancel_left_eq,
    ← map_unescaped_eq_iff]
  refine ⟨fun h => List.append_inj h hlength, fun h => ?_⟩
  rw [h.1, h.2]

/-- A text that is written as it is. -/
theorem decoded_urlPath_toList_iff (place : String) :
    decoded (urlPath place.toList) = textBytes place ↔ Literal place.toList := by
  rw [textBytes_eq, decoded_urlPath_eq_iff]

theorem toList_sourceUrl (library importPath : String) :
    (sourceUrl library importPath).toList = "/library/".toList ++ ((formEncode library).toList ++
      ("/file/" ++ (sourceName importPath ++ ".html")).toList) := by
  simp [sourceUrl]

theorem requested_libraryUrl_iff {l : String} (hl : [] ∉ segments l) :
    requested (libraryUrl l) = textBytes ("/" ++ libraryDir l ++ "/") ↔ ' ' ∉ l.toList := by
  have hplace : "/" ++ libraryDir l ++ "/" = "/library/" ++ l ++ "/" := by
    rw [libraryDir_eq hl, ← String.toList_inj]
    simp
  have hurl : (libraryUrl l).toList =
      "/library/".toList ++ ((formEncode l).toList ++ "/".toList) := toList_libraryUrl l
  have hend : Literal "/".toList := by decide
  rw [requested, hurl, hplace,
    decoded_urlPath_formEncode_iff (Text.forall_mem_of_all (by decide)),
    decoded_urlPath_toList_iff, and_iff_left hend]

theorem requested_entityUrl_iff {c : Catalog} {e : Item} (hc : [] ∉ segments c.name)
    (he : [] ∉ segments e.name) :
    requested (entityUrl c.name e.name) = textBytes ("/" ++ Page.path (.entity c e)) ↔
      ' ' ∉ c.name.toList ∧ ' ' ∉ e.name.toList := by
  have hfile : isAbsolute (e.name ++ ".html") = false := by
    obtain ⟨ps, s, hsplit⟩ := Files.exists_segments e.name
    apply Files.isAbsolute_of_segments
    rw [hsplit, List.mem_append, not_or] at he
    rw [Files.segments_append hsplit (by decide), List.mem_append, not_or]
    exact ⟨he.1, by simp⟩
  have hurl : (entityUrl c.name e.name).toList =
      "/library/".toList ++ ((formEncode c.name).toList ++
        ("/entity/".toList ++ ((formEncode e.name).toList ++ ".html".toList))) :=
    toList_entityUrl c.name e.name
  have hplace : "/" ++ Page.path (.entity c e) =
      "/library/" ++ c.name ++ ("/entity/" ++ e.name ++ ".html") := by
    rw [Page.path, join_libraryDir hc (by decide) hfile, ← String.toList_inj]
    simp
  have hend : Literal ".html".toList := by decide
  rw [requested, hurl, hplace,
    decoded_urlPath_formEncode_iff (Text.forall_mem_of_all (by decide)),
    decoded_urlPath_formEncode_iff (Text.forall_mem_of_all (by decide)),
    decoded_urlPath_toList_iff, and_iff_left hend]

theorem requested_sourceUrl_iff {c : Catalog} (hc : [] ∉ segments c.name) (f : SourceFile) :
    requested (sourceUrl c.name f.importPath) = textBytes ("/" ++ Page.path (.source c f)) ↔
      ' ' ∉ c.name.toList ∧ Literal f.importPath.toList := by
  have hfile : isAbsolute (sourceName f.importPath ++ ".html") = false := by
    apply Files.isAbsolute_of_not_slash
    rw [String.toList_append, List.mem_append, not_or]
    exact ⟨not_slash_sourceName _, by decide⟩
  have hplace : "/" ++ Page.path (.source c f) =
      "/library/" ++ c.name ++ ("/file/" ++ (sourceName f.importPath ++ ".html")) := by
    rw [Page.path, join_libraryDir hc (by decide) hfile]
    rfl
  rw [requested, toList_sourceUrl, hplace,
    decoded_urlPath_formEncode_iff (Text.forall_mem_of_all (by decide)),
    decoded_urlPath_toList_iff, String.toList_append, String.toList_append,
    literal_append (Text.forall_mem_of_all (by decide)), literal_append_html, literal_sourceName]

/-- A link leads to its page unless a name has a space in it, or the path of a source file an
escape or the end of a path. -/
theorem url_page (c : Catalog) (e : Item) (f : SourceFile) (hc : [] ∉ segments c.name)
    (he : [] ∉ segments e.name) :
    (requested (libraryUrl c.name) = textBytes ("/" ++ libraryDir c.name ++ "/") ↔
      ' ' ∉ c.name.toList) ∧
    (requested (entityUrl c.name e.name) = textBytes ("/" ++ Page.path (.entity c e)) ↔
      ' ' ∉ c.name.toList ∧ ' ' ∉ e.name.toList) ∧
    (requested (sourceUrl c.name f.importPath) = textBytes ("/" ++ Page.path (.source c f)) ↔
      ' ' ∉ c.name.toList ∧ Literal f.importPath.toList) :=
  ⟨requested_libraryUrl_iff hc, requested_entityUrl_iff hc he, requested_sourceUrl_iff hc f⟩

def bareCatalog (name : String) : Catalog := ⟨⟨name, "1", "a", "d", none⟩, "std", [], []⟩

/-- Names may have any other characters, and the path of a source file a percent sign. -/
theorem url_page_reached :
    requested (libraryUrl "a/é") = textBytes "/library/a/é/" ∧
      requested (entityUrl "a/é" "B+") = textBytes "/library/a/é/entity/B+.html" ∧
      requested (sourceUrl "a/é" "x/100%.ql") = textBytes "/library/a/é/file/x_100%.ql.html" := by
  obtain ⟨hlibrary, hentity, hsource⟩ := url_page (bareCatalog "a/é")
    (.entity ⟨"a/é", "b.ql", "B+"⟩ {}) ⟨"100%.ql", "x/100%.ql", []⟩ (by decide) (by decide)
  exact ⟨hlibrary.2 (by decide), hentity.2 (by decide), hsource.2 (by decide)⟩

/-- A space is taken for a plus, and what looks like an escape for its byte. -/
theorem url_page_missed :
    ([] ∉ segments "my lib" ∧
      requested (libraryUrl "my lib") ≠ textBytes ("/" ++ libraryDir "my lib" ++ "/")) ∧
    ∃ f : SourceFile, [] ∉ segments f.importPath ∧
      requested (sourceUrl "b" f.importPath) ≠
        textBytes ("/" ++ Page.path (.source (bareCatalog "b") f)) := by
  have hsource := @requested_sourceUrl_iff (bareCatalog "b") (by decide)
    ⟨"50%25.ql", "50%25.ql", []⟩
  exact ⟨⟨by decide, mt (requested_libraryUrl_iff (by decide)).1 (by decide)⟩,
    ⟨"50%25.ql", "50%25.ql", []⟩, by decide, mt hsource.1 (by decide)⟩

end DocSite.Page
