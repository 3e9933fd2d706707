import DocSite.Page.Prose
import DocSite.Proofs.Text.Lines

/-!
# Wraps and paragraphs

Joining wraps changes nothing but line ends, and these where they stand. Of a row of line ends,
pairs are kept from the left and one that is left over becomes a blank (`wraps_joined`). So a text
is joined paragraph by paragraph, and a second time there is nothing left to join.
-/

namespace DocSite.Page

-- ---------------------------------------------------------------------------
-- Rows and paragraphs
-- ---------------------------------------------------------------------------

/-- The text has `k` line ends between two parts, and no more of them on either side. -/
structure Row (s front : List Char) (k : Nat) (back : List Char) : Prop where
  text : s = front ++ (List.replicate k '\n' ++ back)
  first : front.getLast? ≠ some '\n'
  last : back.head? ≠ some '\n'

/-- What becomes of `k` line ends in a row. -/
def joinedRow (k : Nat) : List Char :=
  List.replicate (2 * (k / 2)) '\n' ++ List.replicate (k % 2) ' '

theorem length_joinedRow (k : Nat) : (joinedRow k).length = k := by
  simp only [joinedRow, List.length_append, List.length_replicate]
  omega

/-- A text is split at every pair of line ends, from the left. -/
def paragraphs (s : List Char) : List (List Char) :=
  match _h : Text.cut? "\n\n".toList s with
  | some (front, rest) => front :: paragraphs rest
  | none => [s]
termination_by s.length
decreasing_by exact Text.length_of_cut? (by decide) _h

def unwrapped (paragraph : List Char) : List Char :=
  paragraph.map fun c => if c == '\n' then ' ' else c

-- ---------------------------------------------------------------------------
-- Joining
-- ---------------------------------------------------------------------------

section
variable {s front back : List Char} {c : Char}

theorem joinWraps_pair (s : List Char) :
    joinWraps ('\n' :: '\n' :: s) = '\n' :: '\n' :: joinWraps s := rfl

theorem joinWraps_cons (h : c ≠ '\n') (s : List Char) : joinWraps (c :: s) = c :: joinWraps s := by
  rw [joinWraps]
  · simp [h]
  · intro t hc
    exact absurd hc h

theorem joinWraps_lone (h : s.head? ≠ some '\n') : joinWraps ('\n' :: s) = ' ' :: joinWraps s := by
  rw [joinWraps]
  · rfl
  · rintro t - rfl
    exact h rfl

theorem getLast?_ne_of_cons (h : (c :: s).getLast? ≠ some '\n') : s.getLast? ≠ some '\n' := by
  cases s with
  | nil => simp
  | cons d s => rwa [List.getLast?_cons_cons] at h

/-- Where no row is cut in two, the parts of a text are joined one by one. -/
theorem joinWraps_append (h : front.getLast? ≠ some '\n') (back : List Char) :
    joinWraps (front ++ back) = joinWraps front ++ joinWraps back := by
  fun_induction joinWraps front with
  | case1 => rfl
  | case2 s ih =>
    rw [List.cons_append, List.cons_append, joinWraps_pair,
      ih (getLast?_ne_of_cons (getLast?_ne_of_cons h))]
    rfl
  | case3 c s hpair ih =>
    have hrest := ih (getLast?_ne_of_cons h)
    by_cases hc : c = '\n'
    · subst hc
      cases s with
      | nil => simp at h
      | cons d s =>
        have hd : d ≠ '\n' := fun hd => hpair s rfl (by rw [hd])
        have hlone : ((d :: s) ++ back).head? ≠ some '\n' := by simpa using hd
        rw [List.cons_append, joinWraps_lone hlone, hrest]
        rfl
    · rw [List.cons_append, joinWraps_cons hc, hrest]
      simp [hc]

theorem joinWraps_pairs (n : Nat) (s : List Char) :
    joinWraps (List.replicate (2 * n) '\n' ++ s) = List.replicate (2 * n) '\n' ++ joinWraps s := by
  induction n with
  | zero => rfl
  | succ n ih =>
    rw [Nat.mul_succ, List.replicate_succ, List.replicate_succ]
    exact congrArg (fun t => '\n' :: '\n' :: t) ih

theorem joinWraps_row (h : back.head? ≠ some '\n') (k : Nat) :
    joinWraps (List.replicate k '\n' ++ back) = joinedRow k ++ joinWraps back := by
  have hsplit : List.replicate k '\n' =
      List.replicate (2 * (k / 2)) '\n' ++ List.replicate (k % 2) '\n' := by
    rw [List.replicate_append_replicate, Nat.div_add_mod]
  rw [hsplit, List.append_assoc, joinWraps_pairs, joinedRow, List.append_assoc]
  rcases Nat.mod_two_eq_zero_or_one k with hk | hk <;> rw [hk]
  · rfl
  · exact congrArg _ (joinWraps_lone h)

theorem Row.joinWraps_eq (h : Row s front k back) :
    joinWraps s = joinWraps front ++ (joinedRow k ++ joinWraps back) := by
  rw [h.text, joinWraps_append h.first, joinWraps_row h.last]

/-- A blank takes as many bytes as a line end. -/
theorem utf8Size_joinWraps (s : List Char) :
    (joinWraps s).map Char.utf8Size = s.map Char.utf8Size := by
  fun_induction joinWraps s with
  | case1 => rfl
  | case2 s ih => simp [ih]
  | case3 c s hpair ih =>
    rw [List.map_cons, List.map_cons, ih]
    by_cases hc : c = '\n'
    · rw [hc]
      rfl
    · simp [hc]

theorem length_joinWraps (s : List Char) : (joinWraps s).length = s.length := by
  have hsizes := congrArg List.length (utf8Size_joinWraps s)
  rwa [List.length_map, List.length_map] at hsizes

theorem joinWraps_joinWraps (s : List Char) : joinWraps (joinWraps s) = joinWraps s := by
  fun_induction joinWraps s with
  | case1 => rfl
  | case2 s ih => rw [joinWraps_pair, ih]
  | case3 c s hpair ih =>
    rw [joinWraps_cons, ih]
    split <;> simp_all

theorem getElem?_joinWraps {i : Nat} (h : s[i]? = some c) (hc : c ≠ '\n') :
    (joinWraps s)[i]? = some c := by
  fun_induction joinWraps s generalizing i with
  | case1 => simp at h
  | case2 s ih =>
    cases i with
    | zero => exact absurd (Option.some.inj h).symm hc
    | succ i =>
      cases i with
      | zero => exact absurd (Option.some.inj h).symm hc
      | succ i => exact ih h
  | case3 d s hpair ih =>
    cases i with
    | zero =>
      obtain rfl : d = c := Option.some.inj h
      simp [hc]
    | succ i => exact ih h

theorem Row.joined (h : Row s front k back) :
    ((joinWraps s).drop front.length).take k = joinedRow k := by
  rw [h.joinWraps_eq, List.drop_left' (length_joinWraps front),
    List.take_left' (length_joinedRow k)]

/-- After joining, rows are made of pairs. -/
theorem Row.even (h : Row (joinWraps s) front k back) : k % 2 = 0 := by
  have hjoined := h.joined
  rw [joinWraps_joinWraps, h.text, List.drop_left' rfl, List.take_left' (by simp)] at hjoined
  rcases Nat.mod_two_eq_zero_or_one k with hk | hk
  · exact hk
  · have hblank : ' ' ∈ List.replicate k '\n' := by
      rw [hjoined, joinedRow, hk]
      simp
    cases List.eq_of_mem_replicate hblank

end

-- ---------------------------------------------------------------------------
-- Paragraphs
-- ---------------------------------------------------------------------------

theorem paragraphs_of_none (h : Text.cut? "\n\n".toList s = none) : paragraphs s = [s] := by
  rw [paragraphs]
  split <;> simp_all

theorem paragraphs_of_some (h : Text.cut? "\n\n".toList s = some (front, rest)) :
    paragraphs s = front :: paragraphs rest := by
  rw [paragraphs]
  split <;> simp_all

theorem paragraphs_pair (s : List Char) : paragraphs ('\n' :: '\n' :: s) = [] :: paragraphs s :=
  paragraphs_of_some rfl

/-- A character that begins no pair belongs to the first paragraph. -/
theorem paragraphs_cons (h : ∀ t, c = '\n' → s = '\n' :: t → False) :
    ∃ first others, paragraphs s = first :: others ∧
      paragraphs (c :: s) = (c :: first) :: others := by
  have hmark : ¬ "\n\n".toList <+: c :: s := by
    rintro ⟨rest, heq⟩
    obtain ⟨rfl, rfl⟩ := List.cons.inj heq
    exact h rest rfl rfl
  have hcut := Text.cut?_cons hmark
  cases hs : Text.cut? "\n\n".toList s with
  | none =>
    rw [hs] at hcut
    exact ⟨s, [], paragraphs_of_none hs, paragraphs_of_none hcut⟩
  | some parts =>
    rw [hs] at hcut
    exact ⟨parts.1, paragraphs parts.2, paragraphs_of_some hs, paragraphs_of_some hcut⟩

theorem paragraphs_ne_nil (s : List Char) : paragraphs s ≠ [] := by
  rw [paragraphs]
  split <;> simp

/-- Paragraphs are unwrapped one by one. -/
theorem joinWraps_eq_join (s : List Char) :
    joinWraps s = Text.join "\n\n".toList ((paragraphs s).map unwrapped) := by
  fun_induction joinWraps s with
  | case1 =>
    rw [paragraphs_of_none rfl]
    rfl
  | case2 s ih =>
    have hne : (paragraphs s).map unwrapped ≠ [] := by simp [paragraphs_ne_nil]
    rw [paragraphs_pair, List.map_cons, Text.join_cons _ _ hne, ← ih]
    rfl
  | case3 c s hpair ih =>
    obtain ⟨first, others, hs, hcs⟩ := paragraphs_cons hpair
    rw [hcs, List.map_cons, unwrapped, List.map_cons, Text.join_cons_cons, ih, hs]
    rfl

-- ---------------------------------------------------------------------------
-- The law
-- ---------------------------------------------------------------------------

/-- Nothing but line ends is changed, and these where they stand. -/
structure Joined (s t : List Char) : Prop where
  length : t.length = s.length
  bytes : t.map Char.utf8Size = s.map Char.utf8Size
  others : ∀ (i : Nat) (c : Char), s[i]? = some c → c ≠ '\n' → t[i]? = some c
  rows : ∀ front k back, Row s front k back →
    (t.drop front.length).take k = List.replicate (2 * (k / 2)) '\n' ++ List.replicate (k % 2) ' '

/-- Of every row of line ends the pairs are kept, which are the ends of paragraphs. -/
theorem wraps_joined (s : List Char) :
    Joined s (joinWraps s) ∧ joinWraps (joinWraps s) = joinWraps s ∧
      (∀ front k back, Row (joinWraps s) front k back → k % 2 = 0) ∧
      joinWraps s = Text.join "\n\n".toList ((paragraphs s).map unwrapped) := by
  refine ⟨?_, joinWraps_joinWraps s, fun front k back hrow => hrow.even, joinWraps_eq_join s⟩
  exact {
    length := length_joinWraps s
    bytes := utf8Size_joinWraps s
    others := fun i c => getElem?_joinWraps
    rows := fun front k back hrow => hrow.joined }

theorem wraps_joined_three :
    Row "a\n\n\nb\n".toList ['a'] 3 ['b', '\n'] ∧
      ((joinWraps "a\n\n\nb\n".toList).drop 1).take 3 = ['\n', '\n', ' '] := by
  have hrow : Row "a\n\n\nb\n".toList ['a'] 3 ['b', '\n'] := ⟨by decide, by decide, by decide⟩
  exact ⟨hrow, (wraps_joined _).1.rows ['a'] 3 ['b', '\n'] hrow⟩

end DocSite.Page
