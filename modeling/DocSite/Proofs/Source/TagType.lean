import DocSite.Proofs.Source.Aside
import DocSite.Proofs.Source.Prose
import Mathlib.Data.List.Basic

/-!
# The type of a tag

A tag's text may start with a type, `[@type T]` or `[@java C]`. The type is recorded as long
as the prose behind it has no line break in it. With one, the text is taken for plain prose,
and where a bare word stands for a type, that word is the beginning of the mark
(`recorded_type`).
-/

namespace DocSite.Source

open Text (isBlank isWord after? trimStart splitBlank)

-- ---------------------------------------------------------------------------
-- Tags that start with a type
-- ---------------------------------------------------------------------------

/-- Blanks on one line, and at least one. -/
structure Space extends Gap where
  nonempty : text ≠ []

def originWord : Origin → List Char
  | .script => "type".toList
  | .host => "java".toList

/-- The beginning of a mark that names a type. -/
def marker (origin : Origin) : List Char := "[@".toList ++ originWord origin

/-- A type as it stands in a comment. -/
structure TypeMark where
  origin : Origin
  space : Space
  name : List Char
  named : name ≠ []
  plain : ∀ c ∈ name, c ≠ ']' ∧ isBlank c = false
  tail : Gap

def TypeMark.text (m : TypeMark) : List Char :=
  marker m.origin ++ (m.space.text ++ (m.name ++ (m.tail.text ++ [']'])))

def TypeMark.type (m : TypeMark) : TypeRef := ⟨m.origin, String.ofList m.name⟩

def Tag.word : Tag → List Char
  | .param => "param".toList
  | .returns => "returns".toList
  | .on => "on".toList
  | .errors => "errors".toList
  | .type => "type".toList

/-- What stands between the word of a tag and its type: the name of a parameter, or nothing. -/
inductive Lead : Tag → Type where
  | param (gap : Space) (name : List Char) (named : name ≠ [])
      (plain : ∀ c ∈ name, isBlank c = false) (space : Space) : Lead .param
  | returns (gap : Gap) : Lead .returns
  | on (gap : Gap) : Lead .on
  | type (gap : Gap) : Lead .type

namespace Lead

def gap : Lead tag → List Char
  | .param gap .. => gap.text
  | .returns gap | .on gap | .type gap => gap.text

/-- The part of a tag's text before its type. -/
def front : Lead tag → List Char
  | .param _ name _ _ space => name ++ space.text
  | .returns _ | .on _ | .type _ => []

def line (lead : Lead tag) (m : TypeMark) (rest : List Char) : List Char :=
  '@' :: (tag.word ++ (lead.gap ++ (lead.front ++ (m.text ++ rest))))

/-- What is recorded of a tag: its type, and the name of a parameter. `k` parameters come
before it. -/
def Records (k : Nat) (type : Option TypeRef) (c : Comment) : Lead tag → Prop
  | .param _ name .. => ∃ d, c.params[k]? = some ⟨String.ofList name, type, d⟩
  | .returns _ => ∃ d, c.returns = some ⟨type, d⟩
  | .on _ => ∃ d, c.on = some ⟨type, d⟩
  | .type _ => c.type = type

/-- The type of a tag whose text starts with a mark that is not taken for one. -/
def bare (origin : Origin) : Lead tag → Option TypeRef
  | .param .. | .returns _ => none
  | .on _ | .type _ => some ⟨.script, String.ofList (marker origin)⟩

end Lead

-- ---------------------------------------------------------------------------
-- Reading a type
-- ---------------------------------------------------------------------------

theorem Space.head_blank (space : Space) (rest : List Char) :
    ∃ c s, space.text ++ rest = c :: (s ++ rest) ∧ isBlank c ∧ ∀ d ∈ s, isBlank d := by
  obtain ⟨⟨text, hblank, -⟩, hne⟩ := space
  cases text with
  | nil => exact absurd rfl hne
  | cons c s => exact ⟨c, s, rfl, hblank c (by simp), fun d hd => hblank d (by simp [hd])⟩

def referenceKind : Origin → ReferenceKind
  | .script => .type
  | .host => .host

def TypeMark.reference (m : TypeMark) : Reference where
  kind := referenceKind m.origin
  body := { m with
    space := m.space.text
    spaced := m.space.nonempty
    space_blank := m.space.blank
    tail := m.tail.text
    tail_blank := m.tail.blank }

theorem TypeMark.text_eq_reference (m : TypeMark) : m.text = m.reference.text := by
  obtain ⟨origin, space, name, named, plain, tail⟩ := m
  cases origin <;> rfl

/-- Prose that has no line break in it, apart from the blanks before it. -/
def OneLine (s : List Char) : Prop := '\n' ∉ s.dropWhile isBlank

instance : DecidablePred OneLine := fun _ => inferInstanceAs (Decidable (¬ _))

theorem leadingType?_text (m : TypeMark) (rest : List Char) :
    leadingType? (m.text ++ rest) =
      if OneLine rest then some (m.type, rest.dropWhile isBlank) else none := by
  rw [leadingType?, m.text_eq_reference, reference?_text]
  obtain ⟨origin, space, name, named, plain, tail⟩ := m
  cases origin <;> by_cases h : OneLine rest <;>
    simp_all [TypeMark.reference, referenceKind, Reference.piece, ReferenceKind.piece,
      leadingType?.oneLine, OneLine, TypeMark.type]

theorem splitBlank_append {word : List Char} (hword : ∀ c ∈ word, isBlank c = false)
    (space : Space) (rest : List Char) :
    splitBlank (word ++ (space.text ++ rest)) = (word, (space.text ++ rest).drop 1) := by
  obtain ⟨c, s, hs, hc, -⟩ := space.head_blank rest
  have hfront : ∀ d ∈ word, (!isBlank d) = true := fun d hd => by simp [hword d hd]
  have hstop : ∀ d, (space.text ++ rest).head? = some d → (!isBlank d) = false := by
    rw [hs]
    rintro d ⟨⟩
    simp [hc]
  rw [splitBlank, Text.takeWhile_append_exact hfront hstop,
    Text.dropWhile_append_exact hfront hstop]

theorem marker_plain (origin : Origin) : ∀ c ∈ marker origin, isBlank c = false := by
  cases origin <;> exact Text.forall_mem_of_all (by decide)

theorem leadingOrBareType_text (m : TypeMark) (rest : List Char) :
    (leadingOrBareType (m.text ++ rest)).1 =
      if OneLine rest then some m.type else some ⟨.script, String.ofList (marker m.origin)⟩ := by
  have hne : (marker m.origin).isEmpty = false := by cases m.origin <;> rfl
  have hbare : (splitBlank (m.text ++ rest)).1 = marker m.origin := by
    simp only [TypeMark.text, List.append_assoc]
    rw [splitBlank_append (marker_plain m.origin)]
  rw [leadingOrBareType, leadingType?_text]
  by_cases h : OneLine rest
  · rw [if_pos h, if_pos h]
  · simp only [if_neg h, hbare, hne]
    rfl

theorem typedProse_text (m : TypeMark) (rest : List Char) :
    (typedProse (m.text ++ rest)).1 = if OneLine rest then some m.type else none := by
  rw [typedProse, leadingType?_text]
  by_cases h : OneLine rest
  · rw [if_pos h, if_pos h]
  · rw [if_neg h, if_neg h]

-- ---------------------------------------------------------------------------
-- One tag
-- ---------------------------------------------------------------------------

theorem TypeMark.head_text (m : TypeMark) (rest : List Char) :
    (m.text ++ rest).head? = some '[' := by
  rw [TypeMark.text]
  cases m.origin <;> rfl

theorem TypeMark.head_not_blank (m : TypeMark) (rest : List Char) :
    ∀ c, (m.text ++ rest).head? = some c → isBlank c = false := by
  rw [m.head_text]
  rintro c ⟨⟩
  decide

theorem TypeMark.oneLine_text (m : TypeMark) : '\n' ∉ m.text := by
  have hmarker : '\n' ∉ marker m.origin := by cases m.origin <;> decide
  have hname : '\n' ∉ m.name := fun h => by
    have := (m.plain _ h).2
    revert this
    decide
  simp [TypeMark.text, hmarker, hname, m.space.oneLine, m.tail.oneLine]

/-- No word of a tag is the beginning of another. -/
theorem after?_word {tag tag' : Tag} (h : tag ≠ tag') (s : List Char) :
    after? tag.word (tag'.word ++ s) = none := by
  cases tag <;> cases tag' <;> first | rfl | exact absurd rfl h

theorem words_eq : Tag.words =
    [Tag.param, .returns, .on, .errors, .type].map fun tag => (tag.word, tag) := rfl

theorem tag?_word {tag : Tag} {s : List Char} (hs : ∀ c, s.head? = some c → isWord c = false)
    (hline : '\n' ∉ s.dropWhile isBlank) :
    tag? ('@' :: (tag.word ++ s)) = some (tag, s.dropWhile isBlank) := by
  have hword : s.head?.any isWord = false := by
    cases hc : s.head? with
    | none => rfl
    | some c => exact hs c hc
  have hother : ∀ tag' ≠ tag, after? tag'.word (tag.word ++ s) = none := fun _ h => after?_word h s
  rw [tag?, words_eq]
  cases tag with
  | param | returns | on | errors | type => simp [hother, after?_append, hword, hline]

theorem isWord_eq_false_of_isBlank {c : Char} (h : isBlank c) : isWord c = false := by
  by_contra hword
  rw [Text.isBlank_eq_false_of_isWord (by simpa using hword)] at h
  cases h

namespace Lead

theorem gap_blank (lead : Lead tag) : ∀ c ∈ lead.gap, isBlank c := by
  cases lead with
  | param gap => exact gap.blank
  | returns gap => exact gap.blank
  | on gap => exact gap.blank
  | type gap => exact gap.blank

theorem head_front (lead : Lead tag) (m : TypeMark) (rest : List Char) :
    ∀ c, (lead.front ++ (m.text ++ rest)).head? = some c → isBlank c = false := by
  intro c hc
  cases lead with
  | param gap name named plain space =>
    rw [front, List.append_assoc, List.head?_append_of_ne_nil _ named] at hc
    exact plain c (List.mem_of_head? hc)
  | returns gap | on gap | type gap => exact m.head_not_blank rest c hc

theorem head_gap (lead : Lead tag) (m : TypeMark) (rest : List Char) :
    ∀ c, (lead.gap ++ (lead.front ++ (m.text ++ rest))).head? = some c → isWord c = false := by
  intro c hc
  by_cases hgap : lead.gap = []
  · -- a parameter is set off from its tag
    cases lead with
    | param gap => exact absurd hgap gap.nonempty
    | returns gap | on gap | type gap =>
      rw [hgap, front, List.nil_append, List.nil_append, m.head_text] at hc
      cases hc
      decide
  · rw [List.head?_append_of_ne_nil _ hgap] at hc
    exact isWord_eq_false_of_isBlank (lead.gap_blank c (List.mem_of_head? hc))

theorem oneLine_front (lead : Lead tag) : '\n' ∉ lead.front := by
  cases lead with
  | param gap name named plain space =>
    have hname : '\n' ∉ name := fun h => by
      have := plain _ h
      revert this
      decide
    simp [front, hname, space.oneLine]
  | returns gap | on gap | type gap => exact List.not_mem_nil

theorem tag?_line (lead : Lead tag) (m : TypeMark) (hrest : '\n' ∉ rest) :
    tag? (lead.line m rest) = some (tag, lead.front ++ (m.text ++ rest)) := by
  have htext : (lead.gap ++ (lead.front ++ (m.text ++ rest))).dropWhile isBlank =
      lead.front ++ (m.text ++ rest) :=
    Text.dropWhile_append_exact lead.gap_blank (lead.head_front m rest)
  rw [line, tag?_word (lead.head_gap m rest), htext]
  rw [htext]
  simp [lead.oneLine_front, m.oneLine_text, hrest]

end Lead

/-- A text that is not empty goes on line by line. -/
theorem foldl_continueText {front : List Char} (hfront : front ≠ []) (rest : List Char)
    (lines : List (List Char)) :
    lines.foldl continueText (front ++ rest) = front ++ Text.join ['\n'] (rest :: lines) := by
  induction lines generalizing rest with
  | nil => rw [List.foldl_nil, Text.join_singleton]
  | cons l lines ih =>
    have hne : (front ++ rest).isEmpty = false := by simp [hfront]
    rw [List.foldl_cons, continueText, hne, if_neg Bool.false_ne_true, List.append_assoc, ih,
      Text.join_cons _ rest (by simp)]
    cases lines with
    | nil => simp [Text.join_singleton]
    | cons l' lines => simp [Text.join_cons]

/-- What is recorded of a tag is what its text starts with. -/
theorem Lead.records_add (lead : Lead tag) (m : TypeMark) (text : List Char) (c : Comment) :
    lead.Records c.params.length (if OneLine text then some m.type else lead.bare m.origin)
      (c.add (tag, lead.front ++ (m.text ++ text))) := by
  have htrim : trimStart (m.text ++ text) = m.text ++ text :=
    @Text.trimStart_append [] _ (by simp) (m.head_not_blank text)
  have hfront := @Text.trimStart_append [] _ (by simp) (lead.head_front m text)
  cases lead with
  | param gap name named plain space =>
    obtain ⟨b, bs, hs, -, hbs⟩ := space.head_blank (m.text ++ text)
    have hrest : trimStart ((space.text ++ (m.text ++ text)).drop 1) = m.text ++ text := by
      rw [hs, List.drop_one, List.tail_cons, Text.trimStart_append hbs (m.head_not_blank text)]
    rw [front, List.nil_append, List.append_assoc] at hfront
    refine ⟨(typedProse (m.text ++ text)).2, ?_⟩
    simp only [Comment.add, front, List.append_assoc, hfront, splitBlank_append plain, hrest,
      typedProse_text, bare]
    exact List.getElem?_concat_length
  | returns gap =>
    refine ⟨(typedProse (m.text ++ text)).2, ?_⟩
    simp only [Comment.add, front, List.nil_append, htrim, typedProse_text, bare]
  | on gap =>
    refine ⟨description? (leadingOrBareType (m.text ++ text)).2, ?_⟩
    simp only [Comment.add, front, List.nil_append, htrim, leadingOrBareType_text, bare]
  | type gap =>
    simp only [Records, Comment.add, front, List.nil_append, htrim, leadingOrBareType_text, bare]

-- ---------------------------------------------------------------------------
-- All tags
-- ---------------------------------------------------------------------------

/-- A later tag leaves what is recorded, unless it is of the same kind; but every parameter
is kept. -/
theorem Lead.Records.add {lead : Lead tag} (h : lead.Records k ty c)
    (hother : tag ≠ .param → t.1 ≠ tag) : lead.Records k ty (c.add t) := by
  obtain ⟨tag', text⟩ := t
  cases lead with
  | param gap name named plain space =>
    obtain ⟨d, hd⟩ := h
    refine ⟨d, ?_⟩
    cases tag' with
    | param =>
      simp only [Comment.add]
      rw [List.getElem?_append_left (List.getElem?_eq_some_iff.1 hd).1, hd]
    | returns | on | errors | type => exact hd
  | returns gap | on gap | type gap =>
    have hne := hother nofun
    cases tag' with
    | param | returns | on | errors | type => first | exact h | exact absurd rfl hne

theorem Lead.Records.foldl {lead : Lead tag} {ts : List (Tag × List Char)}
    (h : lead.Records k ty c) (hothers : tag ≠ .param → ∀ t ∈ ts, t.1 ≠ tag) :
    lead.Records k ty (ts.foldl Comment.add c) := by
  induction ts generalizing c with
  | nil => exact h
  | cons t ts ih =>
    exact ih (h.add fun hp => hothers hp t (by simp)) fun hp t ht => hothers hp t (by simp [ht])

/-- Every parameter is counted. -/
theorem length_params_foldl (ts : List (Tag × List Char)) (c : Comment) :
    (ts.foldl Comment.add c).params.length = c.params.length + ts.countP (·.1 == .param) := by
  induction ts generalizing c with
  | nil => rfl
  | cons t ts ih =>
    obtain ⟨tag, text⟩ := t
    rw [List.foldl_cons, ih]
    cases tag with
    | param =>
      simp [Comment.add]
      omega
    | returns | on | errors | type => simp [Comment.add]

section
variable {line : List Char} (h : (tag? line).isSome) (before after : List (List Char))
include h

theorem proseLines_append : proseLines (before ++ line :: after) = proseLines before := by
  have hstop : (tag? line).isNone = false := by simpa using h
  induction before with
  | nil => simp [proseLines, hstop]
  | cons l before ih =>
    simp only [proseLines, List.cons_append, List.takeWhile_cons] at ih ⊢
    rw [ih]

/-- A tag ends what comes before it. -/
theorem sections_append :
    sections (before ++ line :: after) = sections before ++ sections (line :: after) := by
  induction before with
  | nil => rfl
  | cons l before ih =>
    rw [List.cons_append, sections, sections, ih, proseLines_append h]
    split <;> simp

end

theorem sections_cons (h : tag? line = some (tag, text)) (lines : List (List Char)) :
    sections (line :: lines) =
      (tag, (proseLines lines).foldl continueText text) :: sections lines := by
  rw [sections, h]

/-- The number of parameters that lines describe. -/
def paramLines (lines : List (List Char)) : Nat :=
  lines.countP fun line => (tag? line).any (·.1 == .param)

theorem countP_sections (lines : List (List Char)) :
    (sections lines).countP (·.1 == .param) = paramLines lines := by
  induction lines with
  | nil => rfl
  | cons line lines ih =>
    rw [sections, paramLines, List.countP_cons, ← paramLines, ← ih]
    split <;> rename_i htag <;> simp [htag, List.countP_cons]

theorem exists_line_of_mem_sections {t : Tag × List Char} (h : t ∈ sections lines) :
    ∃ line ∈ lines, ∃ text, tag? line = some (t.1, text) := by
  induction lines with
  | nil => cases h
  | cons line lines ih =>
    have hrest : t ∈ sections lines → ∃ l ∈ line :: lines, ∃ text, tag? l = some (t.1, text) :=
      fun ht => (ih ht).imp fun l hl => ⟨List.mem_cons_of_mem _ hl.1, hl.2⟩
    rw [sections] at h
    split at h
    · rename_i tag text htag
      rcases List.mem_cons.1 h with rfl | h
      · exact ⟨line, by simp, text, htag⟩
      · exact hrest h
    · exact hrest h

theorem length_params (d : Option Description) (lines : List (List Char)) :
    ((sections lines).foldl Comment.add { description := d }).params.length = paramLines lines := by
  rw [length_params_foldl, countP_sections]
  exact Nat.zero_add _

/-- The type a tag starts with is recorded when there is no line break in the prose behind
it. A line break makes the mark a part of the prose. -/
theorem recorded_type (lead : Lead tag) (m : TypeMark) (rest : List Char) (hrest : '\n' ∉ rest)
    (before after : List (List Char))
    (hlast : tag ≠ .param → ∀ line ∈ after, ∀ text, tag? line ≠ some (tag, text)) :
    lead.Records (paramLines before)
      (if OneLine (Text.join ['\n'] (rest :: proseLines after)) then some m.type
        else lead.bare m.origin)
      (Comment.ofLines (before ++ lead.line m rest :: after)) := by
  have htag := lead.tag?_line m hrest
  have hsome : (tag? (lead.line m rest)).isSome := by
    rw [htag]
    rfl
  have hne : lead.front ++ m.text ≠ [] := fun h => by
    have := m.head_text []
    simp [(List.append_eq_nil_iff.1 h).2] at this
  have htext := foldl_continueText hne rest (proseLines after)
  rw [List.append_assoc, List.append_assoc] at htext
  rw [Comment.ofLines, sections_append hsome, List.foldl_append, sections_cons htag, htext,
    List.foldl_cons, ← length_params]
  refine (lead.records_add m _ _).foldl fun hp t ht hkind => ?_
  obtain ⟨line, hline, text, h⟩ := exists_line_of_mem_sections ht
  exact hlast hp line hline text (hkind ▸ h)

/-- `[@type demo.Widget]` -/
def widgetMark : TypeMark where
  origin := .script
  space := ⟨⟨[' '], by simp [isBlank], by decide⟩, by decide⟩
  name := "demo.Widget".toList
  named := by decide
  plain := Text.forall_mem_of_all (by decide)
  tail := noGap

def onLead : Lead .on := .on ⟨[' '], by simp [isBlank], by decide⟩

/-- A blank line does no harm in front of the prose. -/
theorem recorded_type_widget :
    ∃ d, (Comment.ofLines ["Scales.".toList, "@on [@type demo.Widget]".toList, [],
      "the widget".toList, "@returns all".toList]).on =
        some ⟨some ⟨.script, "demo.Widget"⟩, d⟩ := by
  have hafter : ∀ line ∈ [[], "the widget".toList, "@returns all".toList],
      (tag? line).map (·.1) ≠ some .on := by decide +kernel
  have hone : OneLine (Text.join ['\n'] ([] :: proseLines [[], "the widget".toList,
      "@returns all".toList])) := by decide +kernel
  have h := recorded_type onLead widgetMark [] (by decide) ["Scales.".toList]
    [[], "the widget".toList, "@returns all".toList]
    fun _ line hline text htag => hafter line hline (by rw [htag]; rfl)
  rw [if_pos hone] at h
  exact h

/-- Prose that goes on takes the type away. -/
theorem recorded_type_lost :
    (Comment.ofLines ["@returns [@type int] the number".toList, "of songs".toList]).returns.map
        (·.type) = some none ∧
      (Comment.ofLines ["@param n [@java a.B] at most".toList, []]).params.map (·.type) = [none] ∧
      (Comment.ofLines ["@on [@type demo.Widget] the widget".toList, "to draw".toList]).on.map
        (·.type) = some (some ⟨.script, "[@type"⟩) ∧
      (Comment.ofLines ["@type [@java a.B] a class".toList, "of the host".toList]).type =
        some ⟨.script, "[@java"⟩ := by
  decide +kernel

end DocSite.Source
