import DocSite.Files.Path
import Mathlib.Data.List.Induction

/-!
# Segments of paths

A path is its segments with slashes between them, and joining paths puts their
segments one after the other. The directories above a path are the paths of its
beginnings that end with a name, so each is found in the one before.
-/

namespace DocSite

-- ---------------------------------------------------------------------------
-- Splitting and joining texts
-- ---------------------------------------------------------------------------

namespace Text

/-- A property of all characters of a text, found by going through the text. -/
theorem forall_mem_of_all {p : Char → Prop} [DecidablePred p] {s : List Char}
    (h : s.all (fun c => decide (p c)) = true) : ∀ c ∈ s, p c :=
  fun c hc => of_decide_eq_true (List.all_eq_true.1 h c hc)

variable {sep : Char → Bool}

theorem splitAll_ne_nil (s : List Char) : splitAll sep s ≠ [] := by
  cases s with
  | nil => simp [splitAll]
  | cons c s =>
    simp only [splitAll]
    split
    · simp
    · split <;> simp

theorem splitAll_congr {sep sep' : Char → Bool} {s : List Char} (h : ∀ c ∈ s, sep c = sep' c) :
    splitAll sep s = splitAll sep' s := by
  induction s with
  | nil => rfl
  | cons c s ih =>
    obtain ⟨hc, hs⟩ := List.forall_mem_cons.1 h
    simp only [splitAll, hc, ih hs]

theorem splitAll_append_sep (h : sep c) (a b : List Char) :
    splitAll sep (a ++ c :: b) = splitAll sep a ++ splitAll sep b := by
  induction a with
  | nil => simp [splitAll, h]
  | cons d a ih =>
    simp only [List.cons_append, splitAll, ih]
    split
    · rfl
    · cases ha : splitAll sep a with
      | nil => exact absurd ha (splitAll_ne_nil a)
      | cons part parts => rfl

theorem splitAll_eq_singleton (h : ∀ c ∈ s, sep c = false) : splitAll sep s = [s] := by
  induction s with
  | nil => rfl
  | cons c s ih =>
    have hc := h c (by simp)
    have hs := ih fun d hd => h d (by simp [hd])
    simp [splitAll, hc, hs]

theorem not_sep_of_mem_splitAll (h : part ∈ splitAll sep s) : ∀ c ∈ part, sep c = false := by
  induction s generalizing part with
  | nil =>
    intro c hc
    simp only [splitAll, List.mem_singleton] at h
    simp [h] at hc
  | cons d s ih =>
    simp only [splitAll] at h
    split at h
    · rcases List.mem_cons.1 h with rfl | h
      · simp
      · exact ih h
    · rename_i hd
      cases hs : splitAll sep s with
      | nil => exact absurd hs (splitAll_ne_nil s)
      | cons first rest =>
        rw [hs] at h ih
        rcases List.mem_cons.1 h with rfl | h
        · intro c hc
          rcases List.mem_cons.1 hc with rfl | hc
          · simpa using hd
          · exact ih (by simp) c hc
        · exact ih (by simp [h])

@[simp] theorem join_nil (mark : List Char) : join mark [] = [] := rfl

@[simp] theorem join_singleton (mark part : List Char) : join mark [part] = part := by
  simp [join]

theorem join_cons (mark part : List Char) (h : parts ≠ []) :
    join mark (part :: parts) = part ++ (mark ++ join mark parts) := by
  cases parts with
  | nil => exact absurd rfl h
  | cons next rest => simp [join]

theorem join_concat (mark part : List Char) (h : parts ≠ []) :
    join mark (parts ++ [part]) = join mark parts ++ (mark ++ part) := by
  induction parts with
  | nil => exact absurd rfl h
  | cons first rest ih =>
    cases rest with
    | nil => simp [join]
    | cons next rest =>
      rw [List.cons_append, join_cons mark first (by simp), ih (by simp),
        join_cons mark first (by simp)]
      simp

theorem splitAll_join {mark : Char} (hm : sep mark) (hne : parts ≠ [])
    (h : ∀ part ∈ parts, ∀ c ∈ part, sep c = false) :
    splitAll sep (join [mark] parts) = parts := by
  induction parts with
  | nil => exact absurd rfl hne
  | cons part parts ih =>
    have hpart := splitAll_eq_singleton (h part (by simp))
    cases parts with
    | nil => simpa using hpart
    | cons next rest =>
      rw [join_cons _ _ (by simp), List.singleton_append, splitAll_append_sep hm, hpart,
        ih (by simp) fun p hp => h p (by simp [hp])]
      rfl

theorem join_splitAll (mark : Char) (s : List Char) :
    join [mark] (splitAll (· == mark) s) = s := by
  induction s with
  | nil => rfl
  | cons c s ih =>
    have hne : splitAll (· == mark) s ≠ [] := splitAll_ne_nil s
    simp only [splitAll]
    split
    · rename_i hc
      rw [join_cons _ _ hne, ih]
      simpa using (LawfulBEq.eq_of_beq hc).symm
    · cases hs : splitAll (· == mark) s with
      | nil => exact absurd hs hne
      | cons part parts =>
        rw [hs] at ih
        cases parts with
        | nil => simpa using ih
        | cons next rest =>
          rw [join_cons _ _ (by simp)] at ih ⊢
          simp only [List.cons_append, List.cons.injEq, true_and]
          exact ih

end Text

-- ---------------------------------------------------------------------------
-- Segments
-- ---------------------------------------------------------------------------

namespace Files

theorem segments_ne_nil (path : String) : segments path ≠ [] := Text.splitAll_ne_nil _

theorem not_slash_of_mem_segments {path : String} (h : s ∈ segments path) : '/' ∉ s := by
  intro hs
  have := Text.not_sep_of_mem_splitAll h '/' hs
  simp at this

@[simp] theorem ofSegments_segments (path : String) : ofSegments (segments path) = path := by
  simp [ofSegments, segments, Text.join_splitAll]

theorem segments_ofSegments (hne : ps ≠ []) (h : ∀ s ∈ ps, '/' ∉ s) :
    segments (ofSegments ps) = ps := by
  rw [segments, ofSegments, String.toList_ofList]
  apply Text.splitAll_join (by simp) hne
  intro s hs c hc
  have := h s hs
  simp only [beq_eq_false_iff_ne, ne_eq]
  rintro rfl
  exact this hc

theorem ofSegments_concat (hps : ps ≠ []) (s : List Char) :
    ofSegments (ps ++ [s]) = ofSegments ps ++ "/" ++ String.ofList s := by
  rw [ofSegments, Text.join_concat _ _ hps, String.ofList_append, String.ofList_append,
    String.append_assoc]
  rfl

theorem ofSegments_ne_empty (hs : s ≠ []) : ofSegments (ps ++ [s]) ≠ "" := by
  intro he
  have := congrArg String.toList he
  by_cases hps : ps = []
  · simp [hps, ofSegments, hs] at this
  · simp [ofSegments_concat hps] at this

theorem named_append (ps qs : List (List Char)) : named (ps ++ qs) = named ps ++ named qs := by
  simp [named]

theorem named_singleton (h : s ≠ []) : named [s] = [String.ofList s] := by
  simp [named, h]

theorem segments_of_not_slash {name : String} (h : '/' ∉ name.toList) :
    segments name = [name.toList] := by
  refine Text.splitAll_eq_singleton fun c hc => ?_
  simp only [beq_eq_false_iff_ne, ne_eq]
  rintro rfl
  exact h hc

theorem parts_of_not_slash {name : String} (h : '/' ∉ name.toList) (hne : name.toList ≠ []) :
    parts name = [name] := by
  rw [parts, segments_of_not_slash h, named_singleton hne, String.ofList_toList]

theorem isAbsolute_of_not_slash {name : String} (h : '/' ∉ name.toList) :
    isAbsolute name = false := by
  cases hn : name.toList with
  | nil => simp [isAbsolute, hn]
  | cons c cs =>
    have hc : c ≠ '/' := fun hc => h (by simp [hn, hc])
    simp [isAbsolute, hn, hc]

theorem segments_slash (a b : String) : segments (a ++ "/" ++ b) = segments a ++ segments b := by
  have : (a ++ "/" ++ b).toList = a.toList ++ '/' :: b.toList := by simp
  rw [segments, this, Text.splitAll_append_sep (by simp)]
  rfl

@[simp] theorem parts_empty : parts "" = [] := rfl

theorem isAbsolute_of_no_parts (hp : path ≠ "") (h : parts path = []) : isAbsolute path := by
  cases hl : path.toList with
  | nil => exact absurd (String.toList_eq_nil_iff.1 hl) hp
  | cons c cs =>
    by_cases hc : c = '/'
    · simp [isAbsolute, hl, hc]
    · cases hs : Text.splitAll (· == '/') cs with
      | nil => exact absurd hs (Text.splitAll_ne_nil cs)
      | cons part rest => simp [parts, segments, hl, Text.splitAll, hc, hs, named] at h

/-- What is joined to a base has its segments after those of the base. -/
theorem segments_join (base : String) :
    ∃ ps, named ps = parts base ∧
      ∀ path, isAbsolute path = false → segments (join base path) = ps ++ segments path := by
  by_cases hb : base = ""
  · exact ⟨[], by simp [hb, named], fun path h => by simp [join, hb]⟩
  have hb' : base.isEmpty = false := by simpa using hb
  by_cases hl : base.toList.getLast? = some '/'
  · -- the slash at the end of the base is the one between the two
    obtain ⟨front, hf⟩ : ∃ front, base.toList = front ++ ['/'] := List.getLast?_eq_some_iff.1 hl
    have hbase : base = String.ofList front ++ "/" ++ "" := by
      rw [← String.toList_inj]
      simp [hf]
    refine ⟨segments (String.ofList front), ?_, fun path h => ?_⟩
    · rw [parts, hbase, segments_slash, named_append]
      simp [segments, Text.splitAll, named]
    · have hboth : base ++ path = String.ofList front ++ "/" ++ path := by
        rw [hbase]
        simp
      simp only [join, h, hb', Bool.or_self, Bool.false_eq_true, ↓reduceIte, hl, BEq.rfl]
      rw [hboth, segments_slash]
  · refine ⟨segments base, rfl, fun path h => ?_⟩
    simp only [join, h, hb', Bool.or_self, Bool.false_eq_true, ↓reduceIte, beq_iff_eq, hl]
    exact segments_slash base path

theorem parts_join (h : isAbsolute path = false) (base : String) :
    parts (join base path) = parts base ++ parts path := by
  obtain ⟨ps, hps, hjoin⟩ := segments_join base
  rw [parts, hjoin path h, named_append, hps]
  rfl

theorem isAbsolute_join (h : isAbsolute path = false) (base : String) :
    isAbsolute (join base path) = isAbsolute base := by
  unfold join
  cases hl : base.toList with
  | nil =>
    rw [String.toList_eq_nil_iff.1 hl]
    simpa [show isAbsolute "" = false from rfl] using h
  | cons c cs =>
    have hb : base.isEmpty = false := by
      rw [String.isEmpty_eq_false_iff]
      rintro rfl
      simp at hl
    simp only [h, hb, Bool.or_self, Bool.false_eq_true, ↓reduceIte]
    split <;> simp [isAbsolute, hl]

/-- A joined path ends as its second part does. -/
theorem suffix_join (base path : String) : path.toList <:+ (join base path).toList := by
  unfold join
  split
  · exact List.suffix_refl _
  · split
    · rw [String.toList_append]
      exact List.suffix_append _ _
    · rw [String.toList_append]
      exact List.suffix_append _ _

/-- What is added to a path without a slash goes to its last segment. -/
theorem segments_append {a b : String} (h : segments a = ps ++ [s]) (hb : '/' ∉ b.toList) :
    segments (a ++ b) = ps ++ [s ++ b.toList] := by
  have hjoin : ofSegments (ps ++ [s ++ b.toList]) = ofSegments (ps ++ [s]) ++ b := by
    by_cases hps : ps = []
    · simp [hps, ofSegments, String.ofList_append]
    · rw [ofSegments_concat hps, ofSegments_concat hps, String.ofList_append, String.ofList_toList,
        String.append_assoc, String.append_assoc, String.append_assoc]
  have hslash : ∀ q ∈ ps ++ [s ++ b.toList], '/' ∉ q := by
    have ha : ∀ q ∈ ps ++ [s], '/' ∉ q := fun q hq => not_slash_of_mem_segments (h ▸ hq)
    intro q hq
    rcases List.mem_append.1 hq with hq | hq
    · exact ha q (by simp [hq])
    · rw [List.mem_singleton.1 hq, List.mem_append]
      exact not_or.2 ⟨ha s (by simp), hb⟩
  rw [← ofSegments_segments a, h, ← hjoin, segments_ofSegments (by simp) hslash]

theorem exists_segments (path : String) : ∃ ps s, segments path = ps ++ [s] := by
  rcases List.eq_nil_or_concat (segments path) with hn | ⟨ps, s, hs⟩
  · exact absurd hn (segments_ne_nil path)
  · exact ⟨ps, s, by rw [hs, List.concat_eq_append]⟩

/-- Where the text of a path ends without a slash, so does its last segment. -/
theorem exists_last_segment {ending path : String} (h : ending.toList <:+ path.toList)
    (hslash : '/' ∉ ending.toList) :
    ∃ ps s, segments path = ps ++ [s] ∧ ending.toList <:+ s := by
  obtain ⟨front, hfront⟩ := h
  obtain ⟨ps, s, hs⟩ := exists_segments (String.ofList front)
  have hpath : path = String.ofList front ++ ending := by
    rw [← String.toList_inj, ← hfront, String.toList_append, String.toList_ofList]
  exact ⟨ps, _, hpath ▸ segments_append hs hslash, List.suffix_append s _⟩

theorem ofList_ne_dots {s : List Char} (h : 2 < s.length) :
    String.ofList s ≠ "." ∧ String.ofList s ≠ ".." := by
  have hne : ∀ r : String, r.toList.length ≤ 2 → String.ofList s ≠ r := by
    rintro r hr rfl
    rw [String.toList_ofList] at hr
    omega
  exact ⟨hne "." (by decide), hne ".." (by decide)⟩

/-- The last segment of a path that ends in a longer text is a name, and not one of
the dots. -/
theorem exists_last_name {ending path : String} (h : ending.toList <:+ path.toList)
    (hslash : '/' ∉ ending.toList) (hlen : 2 < ending.toList.length) :
    ∃ ps s, segments path = ps ++ [s] ∧ ending.toList <:+ s ∧ isName ps s ∧
      String.ofList s ≠ "." ∧ String.ofList s ≠ ".." := by
  obtain ⟨ps, s, hp, hs⟩ := exists_last_segment h hslash
  have hlong : 2 < s.length := Nat.lt_of_lt_of_le hlen hs.length_le
  have hdot : s ≠ ['.'] := by
    rintro rfl
    simp at hlong
  have hnil : s ≠ [] := by
    rintro rfl
    simp at hlong
  exact ⟨ps, s, hp, hs, by simp [isName, hdot, hnil], ofList_ne_dots hlong⟩

-- ---------------------------------------------------------------------------
-- Directories above a path
-- ---------------------------------------------------------------------------

theorem fronts_concat (before ps : List (List Char)) (s : List Char) :
    fronts before (ps ++ [s]) =
      fronts before ps ++ if isName (before ++ ps) s then [before ++ ps ++ [s]] else [] := by
  induction ps generalizing before with
  | nil => simp [fronts]
  | cons q ps ih =>
    simp only [List.cons_append, fronts, ih, List.append_assoc, List.nil_append]
    split <;> rfl

/-- The directories that the segments before a name lead through, innermost first,
and at last the root that the path starts from. -/
def above (root : String) (ps : List (List Char)) : List String :=
  (fronts [] ps).reverse.map ofSegments ++ [root]

theorem above_concat (root : String) (ps : List (List Char)) (s : List Char) :
    above root (ps ++ [s]) =
      if isName ps s then ofSegments (ps ++ [s]) :: above root ps else above root ps := by
  simp only [above, fronts_concat, List.nil_append]
  split <;> simp

/-- Segments that start from a root: the first is empty when that is `/`. -/
structure Rooted (root : String) (ps : List (List Char)) : Prop where
  root_cases : root = "/" ∨ root = ""
  head : ∀ s, ps.head? = some s → (isAbsolute root ↔ s = [])
  noSlash : ∀ s ∈ ps, '/' ∉ s

theorem Rooted.front (h : Rooted root (ps ++ qs)) : Rooted root ps := by
  refine ⟨h.root_cases, fun s hs => h.head s ?_, fun s hs => h.noSlash s (by simp [hs])⟩
  cases ps with
  | nil => cases hs
  | cons => exact hs

theorem isAbsolute_iff_head (hs : s ≠ []) (h : segments path = ps ++ [s]) :
    isAbsolute path ↔ (ps ++ [s]).head? = some [] := by
  have hslash : ∀ q ∈ ps ++ [s], '/' ∉ q := fun q hq => not_slash_of_mem_segments (h ▸ hq)
  have htext : path.toList = Text.join ['/'] (ps ++ [s]) := by
    rw [← ofSegments_segments path, h, ofSegments, String.toList_ofList]
  cases ps with
  | nil =>
    cases s with
    | nil => exact absurd rfl hs
    | cons c s =>
      have : c ≠ '/' := fun hc => hslash (c :: s) (by simp) (by simp [hc])
      simp [isAbsolute, htext, this]
  | cons q ps =>
    rw [isAbsolute, htext, List.cons_append, Text.join_cons _ _ (by simp)]
    cases q with
    | nil => simp
    | cons c q =>
      have : c ≠ '/' := fun hc => hslash (c :: q) (by simp) (by simp [hc])
      simp [this]

/-- A path with a name before every slash does not start at the root. -/
theorem isAbsolute_of_segments (h : [] ∉ segments path) : isAbsolute path = false := by
  obtain ⟨ps, s, hsplit⟩ := exists_segments path
  rw [hsplit] at h
  have hs : s ≠ [] := fun hs => h (by simp [hs])
  rw [← Bool.not_eq_true, isAbsolute_iff_head hs hsplit]
  exact fun hhead => h (List.mem_of_head? hhead)

/-- What is joined to such a path comes after a slash. -/
theorem join_of_segments {base : String} (hbase : [] ∉ segments base)
    (h : isAbsolute path = false) : join base path = base ++ "/" ++ path := by
  have hne : base.isEmpty = false := by
    rw [String.isEmpty_eq_false_iff]
    rintro rfl
    exact hbase (by decide)
  have hlast : ¬ base.toList.getLast? = some '/' := by
    intro hlast
    obtain ⟨front, hfront⟩ := List.getLast?_eq_some_iff.1 hlast
    rw [segments, hfront, Text.splitAll_append_sep (by simp)] at hbase
    exact hbase (by simp [Text.splitAll])
  simp [join, h, hne, hlast]

theorem rooted_segments (hs : s ≠ []) (h : segments path = ps ++ [s]) :
    Rooted (if isAbsolute path then "/" else "") (ps ++ [s]) := by
  refine ⟨by split <;> simp, fun q hq => ?_, fun q hq => not_slash_of_mem_segments (h ▸ hq)⟩
  have := isAbsolute_iff_head hs h
  rw [hq, Option.some_inj] at this
  rw [← this]
  split
  · rename_i ha
    exact iff_of_true rfl ha
  · rename_i ha
    exact iff_of_false (by decide) ha

/-- The path of rooted segments starts where they do. -/
theorem Rooted.isAbsolute_eq (h : Rooted root (ps ++ [s])) (hs : s ≠ []) :
    isAbsolute (ofSegments (ps ++ [s])) = isAbsolute root := by
  have hseg := segments_ofSegments (by simp) h.noSlash
  obtain ⟨q, hq⟩ : ∃ q, (ps ++ [s]).head? = some q := by
    cases ps <;> exact ⟨_, rfl⟩
  rw [Bool.eq_iff_iff, isAbsolute_iff_head hs hseg, h.head q hq, hq, Option.some_inj]

theorem Rooted.parts_eq (hr : Rooted root (ps ++ [s])) (hs : s ≠ []) :
    parts (ofSegments (ps ++ [s])) = named ps ++ [String.ofList s] := by
  rw [parts, segments_ofSegments (by simp) hr.noSlash, named_append, named_singleton hs]

theorem ne_nil_of_isName (h : isName ps s) : s ≠ [] := by
  rintro rfl
  simp [isName] at h

theorem Rooted.ancestors_eq (h : Rooted root (ps ++ [s])) (hn : isName ps s) :
    ancestors (ofSegments (ps ++ [s])) = ofSegments (ps ++ [s]) :: above root ps := by
  have hfronts : fronts [] (ps ++ [s]) = fronts [] ps ++ [ps ++ [s]] := by
    simp [fronts_concat, hn]
  have hroot : (if isAbsolute (ofSegments (ps ++ [s])) then "/" else "") = root := by
    rw [h.isAbsolute_eq (ne_nil_of_isName hn)]
    rcases h.root_cases with rfl | rfl <;> rfl
  unfold ancestors
  rw [segments_ofSegments (by simp) h.noSlash, hfronts]
  split
  · rename_i hnil
    simp at hnil
  · simp [above, hroot]

/-- The directories above a directory above a path are those that come after it. -/
theorem Rooted.ancestors_above (h : Rooted root ps) :
    ∃ dir, (above root ps).head? = some dir ∧ ancestors dir = above root ps := by
  induction ps using List.reverseRecOn with
  | nil => exact ⟨root, rfl, by rcases h.root_cases with rfl | rfl <;> rfl⟩
  | append_singleton ps s ih =>
    rw [above_concat]
    split
    · rename_i hn
      exact ⟨_, rfl, h.ancestors_eq hn⟩
    · exact ih h.front

/-- A path that ends with a name lies in the first of the directories above it. -/
theorem parent?_eq (h : segments path = ps ++ [s]) (hn : isName ps s) :
    ∃ root dir, Rooted root (ps ++ [s]) ∧ isAbsolute root = isAbsolute path ∧
      parent? path = some dir ∧ ancestors dir = above root ps := by
  have hr := rooted_segments (ne_nil_of_isName hn) h
  obtain ⟨dir, hhead, hdir⟩ := hr.front.ancestors_above
  refine ⟨_, dir, hr, ?_, ?_, hdir⟩
  · cases isAbsolute path <;> rfl
  · have hpath : path = ofSegments (ps ++ [s]) := by rw [← h, ofSegments_segments]
    rw [parent?]
    nth_rewrite 1 [hpath]
    rw [hr.ancestors_eq hn, List.getElem?_cons_succ, ← List.head?_eq_getElem?, hhead]

/-- The files of a directory lie in the same one. -/
theorem parent?_join {a b : String} (ha : '/' ∉ a.toList) (hb : '/' ∉ b.toList)
    (hla : 1 < a.toList.length) (hlb : 1 < b.toList.length) (base : String) :
    parent? (join base a) = parent? (join base b) := by
  obtain ⟨ps, -, hjoin⟩ := segments_join base
  have hfile : ∀ name : String, '/' ∉ name.toList → 1 < name.toList.length → ∃ root dir,
      (root = "/" ∨ root = "") ∧ isAbsolute root = isAbsolute base ∧
      parent? (join base name) = some dir ∧ ancestors dir = above root ps := by
    intro name hn hlen
    have habs := isAbsolute_of_not_slash hn
    have hseg : segments (join base name) = ps ++ [name.toList] := by
      rw [hjoin name habs, segments_of_not_slash hn]
    have hname : isName ps name.toList := by
      have hne : name.toList ≠ [] := List.length_pos_iff.1 (by omega)
      have hdot : name.toList ≠ ['.'] := fun h => by simp [h] at hlen
      simp [isName, hne, hdot]
    obtain ⟨root, dir, hr, hroot, hparent, habove⟩ := parent?_eq hseg hname
    exact ⟨root, dir, hr.root_cases, hroot.trans (isAbsolute_join habs base), hparent, habove⟩
  obtain ⟨r, d, hr, hra, hpa, hda⟩ := hfile a ha hla
  obtain ⟨r', d', hr', hrb, hpb, hdb⟩ := hfile b hb hlb
  have hroots : r = r' := by
    rw [← hrb] at hra
    rcases hr with rfl | rfl <;> rcases hr' with rfl | rfl <;> first | rfl | cases hra
  have hhead : ∀ path, (ancestors path).head? = some path := by
    intro path
    unfold ancestors
    split <;> rfl
  have hdirs : some d = some d' := by
    rw [← hhead d, ← hhead d', hda, hdb, hroots]
  rw [hpa, hpb, hdirs]

end Files

end DocSite
