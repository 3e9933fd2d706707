import DocSite.Proofs.Source.Declaration
import DocSite.Source.Reference
import Mathlib.Data.List.Basic

/-!
# Prose is cut without loss

Prose is a row of segments, one for each of its pieces: a reference is written out in the
segment of its piece, and a text piece is its own segment, with no reference in it and no other
text piece beside it (`Segmented`). A text has exactly one such row of pieces, and reading finds
it. What is between a reference's word and its name may be any blanks; written back with single
spaces, the pieces are read again as they were (`prose_segmented`).
-/

namespace DocSite.Source

open Text (isBlank after? trim)

-- ---------------------------------------------------------------------------
-- References as they are written
-- ---------------------------------------------------------------------------

inductive ReferenceKind where
  | param
  | type
  | host

def ReferenceKind.word : ReferenceKind → List Char
  | .param => "param".toList
  | .type => "type".toList
  | .host => "java".toList

def ReferenceKind.opening (kind : ReferenceKind) : List Char := "[@".toList ++ kind.word

def ReferenceKind.piece : ReferenceKind → String → Piece
  | .param => .param
  | .type => .type
  | .host => .host

/-- What follows the word of a reference. The blanks may be line ends. -/
structure ReferenceBody where
  space : List Char
  spaced : space ≠ []
  space_blank : ∀ c ∈ space, isBlank c
  name : List Char
  named : name ≠ []
  plain : ∀ c ∈ name, c ≠ ']' ∧ isBlank c = false
  tail : List Char
  tail_blank : ∀ c ∈ tail, isBlank c

def ReferenceBody.text (b : ReferenceBody) : List Char := b.space ++ (b.name ++ (b.tail ++ [']']))

structure Reference where
  kind : ReferenceKind
  body : ReferenceBody

namespace Reference

def text (r : Reference) : List Char := r.kind.opening ++ r.body.text

def piece (r : Reference) : Piece := r.kind.piece (String.ofList r.body.name)

theorem blank_space : ∀ c ∈ [' '], isBlank c := Text.forall_mem_of_all (by decide)

theorem blank_nothing : ∀ c ∈ ([] : List Char), isBlank c := by simp

/-- The reference with one space before its name and none after it. -/
def tidy (r : Reference) : Reference where
  kind := r.kind
  body := { r.body with
    space := [' ']
    spaced := List.cons_ne_nil ' ' []
    space_blank := blank_space
    tail := []
    tail_blank := blank_nothing }

end Reference

/-- The characters a name is made of. -/
def inName (c : Char) : Bool := c != ']' && !isBlank c

namespace ReferenceBody

theorem inName_name (b : ReferenceBody) : ∀ c ∈ b.name, inName c := by
  intro c hc
  simp [inName, b.plain c hc]

theorem head_name (b : ReferenceBody) {s : List Char} :
    ∀ c, (b.name ++ s).head? = some c → c ≠ ']' ∧ isBlank c = false := by
  intro c hc
  rw [List.head?_append_of_ne_nil _ b.named] at hc
  exact b.plain c (List.mem_of_head? hc)

theorem head_space (b : ReferenceBody) {s : List Char} :
    ∀ c, (b.space ++ s).head? = some c → isBlank c := by
  intro c hc
  rw [List.head?_append_of_ne_nil _ b.spaced] at hc
  exact b.space_blank c (List.mem_of_head? hc)

theorem head_tail (b : ReferenceBody) {s : List Char} :
    ∀ c, (b.tail ++ ']' :: s).head? = some c → inName c = false := by
  intro c hc
  cases htail : b.tail with
  | nil =>
    rw [htail] at hc
    cases hc
    rfl
  | cons d tail =>
    rw [htail] at hc
    cases hc
    simp [inName, b.tail_blank c (by simp [htail])]

theorem text_append (b : ReferenceBody) (s : List Char) :
    b.text ++ s = b.space ++ (b.name ++ (b.tail ++ ']' :: s)) := by
  simp [text]

end ReferenceBody

-- ---------------------------------------------------------------------------
-- Reading one reference
-- ---------------------------------------------------------------------------

theorem after?_append (start s : List Char) : after? start (start ++ s) = some s :=
  Text.after?_eq_some_iff.2 rfl

theorem referenceName?_text (b : ReferenceBody) (rest : List Char) :
    referenceName? (b.text ++ rest) = some (b.name, rest) := by
  have hstart : ∀ d, (b.name ++ (b.tail ++ ']' :: rest)).head? = some d → isBlank d = false :=
    fun d hd => (b.head_name d hd).2
  have hname : ∀ d ∈ b.name, (d != ']' && !isBlank d) = true := b.inName_name
  have hend : ∀ d, (b.tail ++ ']' :: rest).head? = some d → (d != ']' && !isBlank d) = false :=
    b.head_tail
  rw [b.text_append]
  cases hspace : b.space with
  | nil => exact absurd hspace b.spaced
  | cons c space =>
    have hblank : ∀ d ∈ c :: space, isBlank d := hspace ▸ b.space_blank
    rw [List.forall_mem_cons] at hblank
    rw [List.cons_append, referenceName?, if_neg (by simp [hblank.1])]
    simp only [Text.dropWhile_append_exact hblank.2 hstart, Text.takeWhile_append_exact hname hend,
      Text.dropWhile_append_exact hname hend]
    rw [Text.dropWhile_append_exact b.tail_blank (by rintro d ⟨⟩; decide)]
    simp [b.named]

/-- A name is read off the front of a text only where a body is written out. -/
theorem exists_body_of_referenceName? {s name rest : List Char}
    (h : referenceName? s = some (name, rest)) :
    ∃ b : ReferenceBody, b.name = name ∧ s = b.text ++ rest := by
  cases s with
  | nil => cases h
  | cons c s =>
    rw [referenceName?] at h
    split at h
    · cases h
    · rename_i hc
      simp only at h
      split at h
      · rename_i rest' hclose
        split at h
        · cases h
        · rename_i hname
          obtain ⟨rfl, rfl⟩ := Prod.mk.inj (Option.some.inj h)
          have hspace : s.takeWhile isBlank ++ s.dropWhile isBlank = s :=
            List.takeWhile_append_dropWhile
          have hnamed : (s.dropWhile isBlank).takeWhile inName ++
              (s.dropWhile isBlank).dropWhile inName = s.dropWhile isBlank :=
            List.takeWhile_append_dropWhile
          have htail : ((s.dropWhile isBlank).dropWhile inName).takeWhile isBlank ++ ']' :: rest' =
              (s.dropWhile isBlank).dropWhile inName :=
            hclose ▸ List.takeWhile_append_dropWhile
          refine ⟨{
            space := c :: s.takeWhile isBlank
            spaced := by simp
            space_blank := ?_
            name := (s.dropWhile isBlank).takeWhile inName
            named := fun h => hname (List.isEmpty_iff.2 h)
            plain := ?_
            tail := ((s.dropWhile isBlank).dropWhile inName).takeWhile isBlank
            tail_blank := fun d hd => List.mem_takeWhile_imp hd }, rfl, ?_⟩
          · rw [List.forall_mem_cons]
            exact ⟨by simpa using hc, fun d hd => List.mem_takeWhile_imp hd⟩
          · intro d hd
            simpa [inName] using List.mem_takeWhile_imp hd
          · rw [ReferenceBody.text_append]
            simp only [List.cons_append, htail, hnamed, hspace]
      · cases h

theorem referenceWords_eq : referenceWords =
    [ReferenceKind.param, .type, .host].map fun kind => (kind.word, kind.piece) := rfl

/-- No word of a reference is the beginning of another. -/
theorem after?_referenceWord {kind kind' : ReferenceKind} (h : kind ≠ kind') (s : List Char) :
    after? kind.word (kind'.word ++ s) = none := by
  cases kind <;> cases kind' <;> first | rfl | exact absurd rfl h

theorem reference?_text (r : Reference) (rest : List Char) :
    reference? (r.text ++ rest) = some (r.piece, rest) := by
  obtain ⟨kind, body⟩ := r
  have hbody := referenceName?_text body rest
  have hother : ∀ kind' ≠ kind, ∀ s, after? kind'.word (kind.word ++ s) = none :=
    fun _ h s => after?_referenceWord h s
  rw [Reference.text, ReferenceKind.opening, List.append_assoc, List.append_assoc, reference?,
    after?_append, Option.bind_some, referenceWords_eq]
  cases kind with
  | param | type | host => simp [hother, after?_append, hbody, Reference.piece]

/-- Reading finds a reference at the front of a text exactly where one is written out. -/
theorem reference?_eq_some_iff {s rest : List Char} {p : Piece} :
    reference? s = some (p, rest) ↔ ∃ r : Reference, r.piece = p ∧ s = r.text ++ rest := by
  constructor
  · intro h
    obtain ⟨inside, hopen, h⟩ := Option.bind_eq_some_iff.1 h
    obtain ⟨⟨word, piece⟩, hword, h⟩ := List.exists_of_findSome?_eq_some h
    obtain ⟨⟨name, rest'⟩, hname, h⟩ := Option.map_eq_some_iff.1 h
    obtain ⟨behind, hbehind, hname⟩ := Option.bind_eq_some_iff.1 hname
    obtain ⟨rfl, rfl⟩ := Prod.mk.inj h
    obtain ⟨body, rfl, rfl⟩ := exists_body_of_referenceName? hname
    rw [referenceWords_eq] at hword
    obtain ⟨kind, -, hkind⟩ := List.mem_map.1 hword
    obtain ⟨rfl, rfl⟩ := Prod.mk.inj hkind
    refine ⟨⟨kind, body⟩, rfl, ?_⟩
    rw [Text.after?_eq_some_iff.1 hopen, Text.after?_eq_some_iff.1 hbehind, Reference.text,
      ReferenceKind.opening, List.append_assoc, List.append_assoc]
  · rintro ⟨r, rfl, rfl⟩
    exact reference?_text r rest

-- ---------------------------------------------------------------------------
-- Where references can stand
-- ---------------------------------------------------------------------------

theorem exists_of_append_eq_of_notMem_left {c : Char} {xs ys front back : List Char}
    (hc : c ∉ xs) (h : xs ++ ys = front ++ c :: back) :
    ∃ mid, front = xs ++ mid ∧ ys = mid ++ c :: back := by
  rcases List.append_eq_append_iff.1 h with ⟨mid, hfront, hys⟩ | ⟨mid, rfl, hmid⟩
  · exact ⟨mid, hfront, hys⟩
  · cases mid with
    | nil => exact ⟨[], by simp, by simpa using hmid.symm⟩
    | cons d mid =>
      obtain ⟨rfl, -⟩ := List.cons.inj hmid
      simp at hc

theorem exists_of_append_eq_of_notMem_right {c : Char} {xs ys front back : List Char}
    (hc : c ∉ ys) (h : xs ++ ys = front ++ c :: back) :
    ∃ mid, xs = front ++ c :: mid ∧ back = mid ++ ys := by
  rcases List.append_eq_append_iff.1 h with ⟨mid, -, rfl⟩ | ⟨mid, hxs, hmid⟩
  · simp at hc
  · cases mid with
    | nil => simp [← show c :: back = ys from hmid] at hc
    | cons d mid =>
      obtain ⟨rfl, hback⟩ := List.cons.inj hmid
      exact ⟨mid, hxs, hback⟩

theorem ReferenceKind.inName_opening (kind : ReferenceKind) : ∀ c ∈ kind.opening, inName c := by
  cases kind <;> exact Text.forall_mem_of_all (by decide)

theorem ReferenceKind.opening_eq_cons (kind : ReferenceKind) :
    ∃ mark, kind.opening = '[' :: mark ∧ '[' ∉ mark := by
  cases kind <;> exact ⟨_, rfl, by decide⟩

theorem ne_bracket_of_isBlank {c : Char} (h : isBlank c) : c ≠ '[' := by
  rintro rfl
  cases h

namespace Reference

theorem head?_text (r : Reference) (s : List Char) : (r.text ++ s).head? = some '[' := by
  obtain ⟨mark, hopening, -⟩ := r.kind.opening_eq_cons
  simp [text, hopening]

theorem getLast?_text (r : Reference) : r.text.getLast? = some ']' := by
  simp [text, ReferenceBody.text, List.getLast?_append]

/-- A bracket opens inside a reference only in its name. -/
theorem name_of_bracket {r : Reference} {front back : List Char} (hfront : front ≠ [])
    (h : r.text = front ++ '[' :: back) :
    ∃ before after, r.body.name = before ++ '[' :: after ∧
      back = after ++ (r.body.tail ++ [']']) := by
  obtain ⟨mark, hopening, hmark⟩ := r.kind.opening_eq_cons
  obtain ⟨c, front, rfl⟩ := List.exists_cons_of_ne_nil hfront
  have hspace : '[' ∉ r.body.space :=
    fun hmem => ne_bracket_of_isBlank (r.body.space_blank _ hmem) rfl
  have htail : '[' ∉ r.body.tail ++ [']'] := by
    rw [List.mem_append, not_or]
    exact ⟨fun hmem => ne_bracket_of_isBlank (r.body.tail_blank _ hmem) rfl, by decide⟩
  rw [text, hopening, List.cons_append, List.cons_append, ReferenceBody.text] at h
  obtain ⟨mid, -, h⟩ := exists_of_append_eq_of_notMem_left hmark (List.cons.inj h).2
  obtain ⟨mid, -, h⟩ := exists_of_append_eq_of_notMem_left hspace h
  obtain ⟨after, hname, hback⟩ := exists_of_append_eq_of_notMem_right htail h
  exact ⟨mid, after, hname, hback⟩

/-- No reference begins inside the name of another. Its opening would be the rest of that name,
and the blanks behind the opening would be followed by a closing bracket, where its own name is. -/
theorem text_append_ne {r r' : Reference} {before after rest rest' : List Char}
    (hname : r'.body.name = before ++ '[' :: after) :
    r.text ++ rest ≠ '[' :: after ++ (r'.body.tail ++ ']' :: rest') := by
  intro h
  have hplain : ∀ c ∈ '[' :: after, inName c := by
    intro c hc
    exact r'.body.inName_name c (by simp [hname, List.mem_append.2 (.inr hc)])
  have hspaced : ∀ c, (r.body.space ++ (r.body.name ++ (r.body.tail ++ ']' :: rest))).head? =
      some c → inName c = false := by
    intro c hc
    simp [inName, r.body.head_space c hc]
  rw [text, List.append_assoc, r.body.text_append] at h
  obtain ⟨-, hbehind⟩ := Text.append_inj_of_span r.kind.inName_opening hspaced hplain
    r'.body.head_tail h
  obtain ⟨-, hclose⟩ := Text.append_inj_of_span r.body.space_blank
    (fun c hc => (r.body.head_name c hc).2) r'.body.tail_blank (by rintro c ⟨⟩; rfl) hbehind
  exact (r.body.head_name ']' (by rw [hclose]; rfl)).1 rfl

/-- A reference that begins before another one ends before it, too. -/
theorem text_prefix {r r' : Reference} {front rest rest' : List Char} (hfront : front ≠ [])
    (h : r'.text ++ rest' = front ++ (r.text ++ rest)) : r'.text <+: front := by
  rcases List.append_eq_append_iff.1 h with ⟨mid, hmid, -⟩ | ⟨spill, hspill, hrest⟩
  · exact ⟨mid, hmid.symm⟩
  · cases spill with
    | nil => simp [hspill]
    | cons d spill =>
      obtain rfl : '[' = d := by
        have hhead := r.head?_text rest
        rw [hrest] at hhead
        exact (Option.some.inj hhead).symm
      obtain ⟨before, after, hname, rfl⟩ := name_of_bracket hfront hspill
      exact absurd (by simpa using hrest) (text_append_ne hname)

end Reference

-- ---------------------------------------------------------------------------
-- Segments
-- ---------------------------------------------------------------------------

/-- Pieces, and a text that is a row of segments for them. -/
inductive Segmented : List Piece → List Char → Prop
  | nil : Segmented [] []
  | reference (r : Reference) {ps : List Piece} {s : List Char} (h : Segmented ps s) :
      Segmented (r.piece :: ps) (r.text ++ s)
  | text {t : List Char} {ps : List Piece} {s : List Char} (nonempty : t ≠ [])
      (free : ∀ r : Reference, ¬ r.text <:+: t) (alone : ∀ t', ps.head? ≠ some (.text t'))
      (h : Segmented ps s) : Segmented (.text (String.ofList t) :: ps) (t ++ s)

/-- No reference begins in the first of two texts. -/
def Clear (t s : List Char) : Prop := ∀ back, back <:+ t → back ≠ [] → reference? (back ++ s) = none

theorem Clear.free {t s : List Char} (h : Clear t s) (r : Reference) : ¬ r.text <:+: t := by
  rintro ⟨front, back, rfl⟩
  have hnone := h (r.text ++ back) ⟨front, by simp⟩ (by simp [Reference.text, ReferenceKind.opening])
  rw [List.append_assoc, reference?_text] at hnone
  cases hnone

theorem Clear.concat {t s : List Char} {c : Char} (h : Clear t (c :: s))
    (hc : reference? (c :: s) = none) : Clear (t ++ [c]) s := by
  intro back hback hne
  rcases List.suffix_concat_iff.1 hback with rfl | ⟨back, rfl, hsuffix⟩
  · exact absurd rfl hne
  · rw [List.append_assoc]
    by_cases hb : back = []
    · subst hb
      exact hc
    · exact h back hsuffix hb

theorem piecesFrom_nil (seen : List Char) : piecesFrom seen [] = textPiece seen := by
  rw [piecesFrom]
  rfl

theorem piecesFrom_cons {seen s : List Char} {c : Char} (h : reference? (c :: s) = none) :
    piecesFrom seen (c :: s) = piecesFrom (c :: seen) s := by
  rw [piecesFrom]
  split
  · simp_all
  · rfl

theorem piecesFrom_text (seen : List Char) (r : Reference) (rest : List Char) :
    piecesFrom seen (r.text ++ rest) = textPiece seen ++ r.piece :: piecesFrom [] rest := by
  rw [piecesFrom]
  split
  · rename_i hread
    rw [reference?_text] at hread
    cases hread
    rfl
  · rename_i hread
    rw [reference?_text] at hread
    cases hread

theorem piecesFrom_clear {t s : List Char} (h : Clear t s) (seen : List Char) :
    piecesFrom seen (t ++ s) = piecesFrom (t.reverse ++ seen) s := by
  induction t generalizing seen with
  | nil => rfl
  | cons c t ih =>
    have hc : reference? (c :: (t ++ s)) = none := h (c :: t) List.suffix_rfl (by simp)
    have ht : Clear t s := fun back hback => h back (hback.trans (List.suffix_cons c t))
    rw [List.cons_append, piecesFrom_cons hc, ih ht]
    simp

theorem textPiece_reverse {t : List Char} (h : t ≠ []) :
    textPiece t.reverse = [.text (String.ofList t)] := by
  simp [textPiece, h]

theorem Segmented.append_textPiece {seen s : List Char} {ps : List Piece} (h : Segmented ps s)
    (alone : ∀ t, ps.head? ≠ some (.text t)) (hclear : Clear seen.reverse s) :
    Segmented (textPiece seen ++ ps) (seen.reverse ++ s) := by
  by_cases hseen : seen = []
  · subst hseen
    exact h
  · have hne : seen.reverse ≠ [] := by simpa using hseen
    rw [← seen.reverse_reverse, textPiece_reverse hne, List.reverse_reverse]
    exact .text hne hclear.free alone h

theorem ReferenceKind.piece_ne_text (kind : ReferenceKind) (name t : String) :
    kind.piece name ≠ .text t := by
  cases kind <;> simp [piece]

/-- Reading finds a row of segments. No reference begins in the text that was seen. -/
theorem segmented_piecesFrom {seen s : List Char} (h : Clear seen.reverse s) :
    Segmented (piecesFrom seen s) (seen.reverse ++ s) := by
  fun_induction piecesFrom seen s with
  | case1 seen s p rest hread ih =>
    obtain ⟨r, rfl, rfl⟩ := reference?_eq_some_iff.1 hread
    have hrest : Segmented (piecesFrom [] rest) rest := ih (by simp [Clear])
    refine Segmented.append_textPiece (.reference r hrest) ?_ h
    intro t ht
    exact r.kind.piece_ne_text _ t (Option.some.inj ht)
  | case2 seen hread =>
    have hend := Segmented.append_textPiece .nil (by simp) h
    rwa [List.append_nil] at hend
  | case3 seen c s hread ih =>
    have hclear : Clear (c :: seen).reverse s := by
      rw [List.reverse_cons]
      exact h.concat hread
    simpa using ih hclear

namespace Segmented

variable {ps : List Piece} {s : List Char}

theorem clear {t : List Char} (h : Segmented ps s) (alone : ∀ t', ps.head? ≠ some (.text t'))
    (free : ∀ r : Reference, ¬ r.text <:+: t) : Clear t s := by
  intro back hback hne
  rw [Option.eq_none_iff_forall_ne_some]
  rintro ⟨p, rest⟩ hread
  obtain ⟨r', -, htext⟩ := reference?_eq_some_iff.1 hread
  have hpre : r'.text <+: back := by
    cases h with
    | nil => exact ⟨rest, by simpa using htext.symm⟩
    | reference r h => exact Reference.text_prefix hne htext.symm
    | text => exact absurd rfl (alone _)
  exact free r' (hpre.isInfix.trans hback.isInfix)

/-- Text that was seen ends where a segment of a reference begins. -/
theorem piecesFrom_seen (h : Segmented ps s) (alone : ∀ t', ps.head? ≠ some (.text t'))
    (seen : List Char) : piecesFrom seen s = textPiece seen ++ piecesFrom [] s := by
  cases h with
  | nil => simp [piecesFrom_nil, textPiece]
  | reference r h => simp [piecesFrom_text, textPiece]
  | text => exact absurd rfl (alone _)

/-- There is no other row of segments. -/
theorem piecesFrom_eq (h : Segmented ps s) : piecesFrom [] s = ps := by
  induction h with
  | nil => rw [piecesFrom_nil]; rfl
  | reference r h ih => rw [piecesFrom_text, ih]; rfl
  | text nonempty free alone h ih =>
    rw [piecesFrom_clear (h.clear alone free), List.append_nil, h.piecesFrom_seen alone, ih,
      textPiece_reverse nonempty]
    rfl

end Segmented

-- ---------------------------------------------------------------------------
-- Writing pieces back
-- ---------------------------------------------------------------------------

def writtenReference (kind : ReferenceKind) (name : String) : List Char :=
  kind.opening ++ ' ' :: (name.toList ++ [']'])

/-- A piece as it is written in a comment. -/
def written : Piece → List Char
  | .text t => t.toList
  | .param name => writtenReference .param name
  | .type name => writtenReference .type name
  | .host name => writtenReference .host name

theorem written_piece (r : Reference) : written r.piece = r.tidy.text := by
  have htidy : r.tidy.text = writtenReference r.kind (String.ofList r.body.name) := by
    simp [Reference.text, Reference.tidy, ReferenceBody.text, writtenReference]
  rw [htidy, Reference.piece]
  cases r.kind <;> rfl

namespace Segmented

variable {ps : List Piece} {s : List Char}

theorem flatMap_written (h : Segmented ps s) : Segmented ps (ps.flatMap written) := by
  induction h with
  | nil => exact .nil
  | reference r h ih =>
    rw [List.flatMap_cons, written_piece]
    exact .reference r.tidy ih
  | text nonempty free alone h ih =>
    rw [List.flatMap_cons, written, String.toList_ofList]
    exact .text nonempty free alone ih

theorem head?_flatMap_written (h : Segmented ps s) : (ps.flatMap written).head? = s.head? := by
  cases h with
  | nil => rfl
  | reference r h =>
    rw [List.flatMap_cons, written_piece, r.head?_text, r.tidy.head?_text]
  | text nonempty free alone h =>
    rw [List.flatMap_cons, written, String.toList_ofList, List.head?_append_of_ne_nil _ nonempty,
      List.head?_append_of_ne_nil _ nonempty]

theorem getLast?_flatMap_written (h : Segmented ps s) :
    (ps.flatMap written).getLast? = s.getLast? := by
  induction h with
  | nil => rfl
  | reference r h ih =>
    rw [List.flatMap_cons, written_piece, List.getLast?_append, List.getLast?_append, ih,
      r.getLast?_text, r.tidy.getLast?_text]
  | text nonempty free alone h ih =>
    rw [List.flatMap_cons, written, String.toList_ofList, List.getLast?_append,
      List.getLast?_append, ih]

theorem trim_flatMap_written (h : Segmented ps (trim s)) :
    trim (ps.flatMap written) = ps.flatMap written := by
  refine Text.trim_eq_self ?_ ?_
  · rw [h.head?_flatMap_written]
    exact fun c => Text.isBlank_head_trim
  · rw [h.getLast?_flatMap_written]
    exact fun c => Text.isBlank_getLast_trim

end Segmented

/-- Blank prose has no description. All other prose is a row of segments for the pieces of its
description, and these are read again from what they are written as. -/
theorem prose_segmented (s : List Char) :
    if trim s = [] then description? s = none
    else ∃ d, description? s = some d ∧ Segmented d.pieces (trim s) ∧
      description? (d.pieces.flatMap written) = some d := by
  split
  case isTrue hblank => simp [description?, hblank]
  case isFalse hprose =>
    have hsegmented : Segmented (piecesFrom [] (trim s)) (trim s) :=
      segmented_piecesFrom (by simp [Clear])
    refine ⟨⟨piecesFrom [] (trim s)⟩, by simp [description?, hprose], hsegmented, ?_⟩
    have hwritten := hsegmented.flatMap_written
    have htrim := hsegmented.trim_flatMap_written
    have hne : (piecesFrom [] (trim s)).flatMap written ≠ [] := by
      intro hnil
      have hhead := hsegmented.head?_flatMap_written
      rw [hnil] at hhead
      exact hprose (List.head?_eq_none_iff.1 hhead.symm)
    simp [description?, htrim, hne, hwritten.piecesFrom_eq]

-- An opening that another one interrupts is text, and a bracket may stand in a name.
example : description? "see [@param [@type  T ][@java a[0 ] end".toList =
    some ⟨[.text "see [@param ", .type "T", .host "a[0", .text " end"]⟩ := by decide +kernel

end DocSite.Source
