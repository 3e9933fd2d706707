import DocSite.Proofs.Wire.Tokens

/-!
# How decoders move

What a decoder does at a cursor is one of three things (`Moves`). It returns a
value, or it refuses what it finds there, and in both cases more bytes behind
would not have changed that; or it runs out of bytes, and says so. A tame
decoder moves like this wherever it starts. On a stream that has been cut short
it therefore gives the same answer, or refuses the stream as truncated at the
cut.

Nothing here asks what the bytes mean. Tameness is closed under sequencing, so
it holds of every reader that is put together from tokens.
-/

namespace DocSite.Wire

-- ---------------------------------------------------------------------------
-- Cursors
-- ---------------------------------------------------------------------------

namespace Cursor

/-- The second cursor is further on in the same stream. -/
def Ahead (c c' : Cursor) : Prop := ∃ bs, c.rest = bs ++ c'.rest ∧ c'.pos = c.pos + bs.length

def append (c : Cursor) (more : List UInt8) : Cursor := ⟨c.pos, c.rest ++ more⟩

namespace Ahead

theorem refl (c : Cursor) : c.Ahead c := ⟨[], rfl, rfl⟩

theorem trans (h : Ahead c c₁) (h' : Ahead c₁ c₂) : Ahead c c₂ := by
  obtain ⟨bs, hr, hp⟩ := h
  obtain ⟨bs', hr', hp'⟩ := h'
  exact ⟨bs ++ bs', by simp [hr, hr'], by simp [hp, hp', Nat.add_assoc]⟩

theorem pos_le (h : Ahead c c') : c.pos ≤ c'.pos := by
  obtain ⟨bs, -, hp⟩ := h
  omega

theorem stop_eq (h : Ahead c c') : c'.stop = c.stop := by
  obtain ⟨bs, hr, hp⟩ := h
  simp [stop, hr, hp, Nat.add_assoc]

end Ahead

end Cursor

-- ---------------------------------------------------------------------------
-- Tame decoders
-- ---------------------------------------------------------------------------

/-- What a decoder does at a cursor, with or without more bytes behind. A value takes up at
least `least` bytes. A cause that carries an offset names a byte of the stream, or its end, and
none before `lo`. -/
inductive Moves (lo least : Nat) (d : Decoder α) (c : Cursor) (more : List UInt8) : Prop
  | value (v : α) (c' : Cursor) (ahead : c.Ahead c') (past : c.pos + least ≤ c'.pos)
    (run : d c = .ok v c') (same : d (c.append more) = .ok v (c'.append more))
  | refusal (e : Corruption) (c' : Cursor) (ahead : c.Ahead c')
    (pinned : ∀ o, e.offset? = some o → lo ≤ o ∧ o ≤ c.stop)
    (run : d c = .error e c') (same : d (c.append more) = .error e (c'.append more))
  | cut (c' : Cursor) (ahead : c.Ahead c') (run : d c = .error (.truncated c.stop) c')

/-- A reader that notes where it starts is tame from there, so the bound is on the start. -/
def Tame (lo least : Nat) (d : Decoder α) : Prop :=
  ∀ c more, lo ≤ c.pos → Moves lo least d c more

namespace Tame

section
variable {c : Cursor} {d : Decoder α} (h : Tame lo least d) (hlo : lo ≤ c.pos)
include h hlo

theorem ahead_ok (hc : d c = .ok v c') : c.Ahead c' ∧ c.pos + least ≤ c'.pos := by
  cases h c [] hlo with
  | value w c₁ ahead past run same =>
    rw [hc] at run
    cases run
    exact ⟨ahead, past⟩
  | refusal e c₁ ahead pinned run same => simp [hc] at run
  | cut c₁ ahead run => simp [hc] at run

theorem ahead_error (hc : d c = .error e c') :
    c.Ahead c' ∧ ∀ o, e.offset? = some o → lo ≤ o ∧ o ≤ c.stop := by
  cases h c [] hlo with
  | value w c₁ ahead past run same => simp [hc] at run
  | refusal e c₁ ahead pinned run same =>
    rw [hc] at run
    cases run
    exact ⟨ahead, pinned⟩
  | cut c₁ ahead run =>
    rw [hc] at run
    cases run
    refine ⟨ahead, fun o ho => ?_⟩
    cases ho
    exact ⟨Nat.le_trans hlo (Nat.le_add_right _ _), Nat.le_refl _⟩

/-- What is read of a whole stream is read of what is left of it, unless that ends too early. -/
theorem cut_of_append (hc : d (c.append more) = .ok v c') :
    (∃ c₁, d c = .error (.truncated c.stop) c₁) ∨ ∃ c₁, d c = .ok v c₁ ∧ c' = c₁.append more := by
  cases h c more hlo with
  | value w c₁ ahead past run same =>
    rw [hc] at same
    cases same
    exact .inr ⟨c₁, run, rfl⟩
  | refusal e c₁ ahead pinned run same => simp [hc] at same
  | cut c₁ ahead run => exact .inl ⟨c₁, run⟩

end

theorem pure (v : α) : Tame lo 0 (Pure.pure v : Decoder α) := fun c _ _ =>
  .value v c (.refl c) (Nat.le_refl _) rfl rfl

theorem fail {e : Corruption} (h : ∀ o, e.offset? = some o → o = lo) :
    Tame lo least (Decoder.fail e : Decoder α) := by
  intro c more hlo
  refine .refusal e c (.refl c) (fun o ho => ?_) rfl rfl
  cases h o ho
  exact ⟨Nat.le_refl lo, Nat.le_trans hlo (Nat.le_add_right _ _)⟩

theorem truncated : Tame lo least (Decoder.truncated : Decoder α) := fun c _ _ =>
  .cut c (.refl c) rfl

theorem position {k : Nat → Decoder α} (h : ∀ p, Tame p least (k p)) :
    Tame lo least (Decoder.position >>= k) := by
  intro c more hlo
  cases h c.pos c more (Nat.le_refl _) with
  | value v c' ahead past run same => exact .value v c' ahead past run same
  | refusal e c' ahead pinned run same =>
    refine .refusal e c' ahead (fun o ho => ?_) run same
    exact ⟨Nat.le_trans hlo (pinned o ho).1, (pinned o ho).2⟩
  | cut c' ahead run => exact .cut c' ahead run

theorem weaken {d : Decoder α} (h : Tame lo m d) (hn : n ≤ m) : Tame lo n d := by
  intro c more hlo
  cases h c more hlo with
  | value v c' ahead past run same => exact .value v c' ahead (by omega) run same
  | refusal e c' ahead pinned run same => exact .refusal e c' ahead pinned run same
  | cut c' ahead run => exact .cut c' ahead run

theorem seq {d : Decoder α} {k : α → Decoder β} (h : Tame lo m d) (hk : ∀ v, Tame lo n (k v)) :
    Tame lo (m + n) (d >>= k) := by
  intro c more hlo
  cases h c more hlo with
  | value v c₁ ahead past run same =>
    cases hk v c₁ more (Nat.le_trans hlo ahead.pos_le) with
    | value w c₂ ahead' past' run' same' =>
      exact .value w c₂ (ahead.trans ahead') (by omega) ((run_bind_ok run).trans run')
        ((run_bind_ok same).trans same')
    | refusal e c₂ ahead' pinned run' same' =>
      rw [ahead.stop_eq] at pinned
      exact .refusal e c₂ (ahead.trans ahead') pinned ((run_bind_ok run).trans run')
        ((run_bind_ok same).trans same')
    | cut c₂ ahead' run' =>
      rw [ahead.stop_eq] at run'
      exact .cut c₂ (ahead.trans ahead') ((run_bind_ok run).trans run')
  | refusal e c₁ ahead pinned run same =>
    exact .refusal e c₁ ahead pinned (run_bind_error run) (run_bind_error same)
  | cut c₁ ahead run => exact .cut c₁ ahead (run_bind_error run)

/-- What the first part takes up is enough. -/
theorem bind {d : Decoder α} {k : α → Decoder β} (h : Tame lo m d) (hk : ∀ v, Tame lo n (k v)) :
    Tame lo m (d >>= k) :=
  (h.seq hk).weaken (Nat.le_add_right m n)

theorem ite {p : Prop} [Decidable p] {d d' : Decoder α} (h : Tame lo least d)
    (h' : Tame lo least d') : Tame lo least (if p then d else d') := by
  split
  · exact h
  · exact h'

end Tame

-- ---------------------------------------------------------------------------
-- Bytes and markers
-- ---------------------------------------------------------------------------

theorem tame_take (n : Nat) : Tame lo 0 (Decoder.take n) := by
  intro c more _
  by_cases hn : n ≤ c.rest.length
  · have hlen : (c.rest.take n).length = n := by simp [hn]
    have hrun : Decoder.take n c = .ok (c.rest.take n) ⟨c.pos + n, c.rest.drop n⟩ := by
      have := Decoder.take_append hlen c.pos (c.rest.drop n)
      rwa [List.take_append_drop] at this
    have hsame : Decoder.take n (c.append more) =
        .ok (c.rest.take n) ⟨c.pos + n, c.rest.drop n ++ more⟩ := by
      have := Decoder.take_append hlen c.pos (c.rest.drop n ++ more)
      rwa [← List.append_assoc, List.take_append_drop] at this
    exact .value _ _ ⟨c.rest.take n, by simp, by simp [hn]⟩ (Nat.le_add_right _ _) hrun hsame
  · refine .cut c (.refl c) ?_
    simp only [Decoder.take, List.length_take]
    rw [if_pos (by omega)]

theorem tame_number (width : Nat) : Tame lo 0 (Decoder.number width) :=
  (tame_take width).bind fun _ => .pure _

/-- Nil is refused where a value has to stand. -/
theorem marker_nil (expected : Shape) (kind : UInt8) (pos : Nat) : ∃ e : Corruption,
    (∀ o, e.offset? = some o → pos ≤ o ∧ o ≤ pos + 1) ∧ ∀ rest,
      Decoder.marker expected ⟨pos, 0xc0 :: kind :: rest⟩ = .error e ⟨pos + 2, rest⟩ := by
  cases hk : Absent.ofCode? kind with
  | some found =>
    refine ⟨.placeholderMismatch expected found pos, fun o ho => ?_, fun rest => ?_⟩
    · cases ho
      omega
    · simp [Decoder.marker, Decoder.position, Decoder.byte, Decoder.fail, hk, Bind.bind, EStateM.bind]
  | none =>
    refine ⟨.unknownPlaceholder kind (pos + 1), fun o ho => ?_, fun rest => ?_⟩
    · cases ho
      omega
    · simp [Decoder.marker, Decoder.position, Decoder.byte, Decoder.fail, hk, Bind.bind, EStateM.bind]

theorem tame_marker (expected : Shape) : Tame lo 1 (Decoder.marker expected) := by
  rintro ⟨pos, rest⟩ more hlo
  replace hlo : lo ≤ pos := hlo
  cases rest with
  | nil => exact .cut _ (.refl _) rfl
  | cons b rest =>
    by_cases hb : b = 0xc0
    · subst hb
      cases rest with
      | nil => exact .cut ⟨pos + 1, []⟩ ⟨[0xc0], rfl, rfl⟩ rfl
      | cons kind rest =>
        obtain ⟨e, he, hrun⟩ := marker_nil expected kind pos
        refine .refusal e ⟨pos + 2, rest⟩ ⟨[0xc0, kind], rfl, rfl⟩ (fun o ho => ?_) (hrun _) (hrun _)
        have := he o ho
        simp only [Cursor.stop, List.length_cons]
        omega
    · exact .value b ⟨pos + 1, rest⟩ ⟨[b], rfl, rfl⟩ (Nat.le_refl _)
        (Decoder.marker_cons expected hb pos _) (Decoder.marker_cons expected hb pos _)

theorem tame_skipNil (absent : Absent) : Tame lo 0 (Decoder.skipNil absent) := by
  rintro ⟨pos, rest⟩ more hlo
  replace hlo : lo ≤ pos := hlo
  cases rest with
  | nil => exact .cut _ (.refl _) rfl
  | cons b rest =>
    by_cases hb : b = 0xc0
    · subst hb
      cases rest with
      | nil => exact .cut _ (.refl _) rfl
      | cons kind rest =>
        cases hk : Absent.ofCode? kind with
        | none =>
          refine .refusal (.unknownPlaceholder kind (pos + 1)) _ (.refl _) (fun o ho => ?_)
            (by simp [Decoder.skipNil, hk]) (by simp [Decoder.skipNil, Cursor.append, hk])
          cases ho
          simp only [Cursor.stop, List.length_cons]
          omega
        | some found =>
          by_cases hf : found = absent
          · exact .value true ⟨pos + 2, rest⟩ ⟨[0xc0, kind], rfl, rfl⟩ (by simp)
              (by simp [Decoder.skipNil, hk, hf]) (by simp [Decoder.skipNil, Cursor.append, hk, hf])
          · exact .value false _ (.refl _) (Nat.le_refl _)
              (by simp [Decoder.skipNil, hk, hf]) (by simp [Decoder.skipNil, Cursor.append, hk, hf])
    · exact .value false _ (.refl _) (Nat.le_refl _)
        (by simp [Decoder.skipNil, hb]) (by simp [Decoder.skipNil, Cursor.append, hb])

-- ---------------------------------------------------------------------------
-- Tokens
-- ---------------------------------------------------------------------------

/-- A marker that no form of the token starts with. -/
theorem tame_unexpected (expected : Shape) (marker : UInt8) :
    Tame lo least (Decoder.fail (.unexpectedMarker expected marker lo) : Decoder α) :=
  .fail fun _ ho => (Option.some.inj ho).symm

theorem tame_uint : Tame lo 1 Decoder.uint :=
  .position fun _ => (tame_marker _).bind fun m => .ite (.pure m.toNat) <|
    .ite (tame_number 1) <| .ite (tame_number 2) <| .ite (tame_number 4) <|
      tame_unexpected _ m

theorem tame_bool : Tame lo 1 Decoder.bool :=
  .position fun _ => (tame_marker _).bind fun m => .ite (.pure true) <| .ite (.pure false) <|
    tame_unexpected _ m

theorem tame_strLength : Tame lo 1 Decoder.strLength :=
  .position fun _ => (tame_marker _).bind fun m => .ite (.pure (m.toNat - 0xa0)) <|
    .ite (tame_number 1) <| .ite (tame_number 2) <| .ite (tame_number 4) <|
      tame_unexpected _ m

theorem tame_arrayLength : Tame lo 1 Decoder.arrayLength :=
  .position fun _ => (tame_marker _).bind fun m => .ite (.pure (m.toNat - 0x90)) <|
    .ite (tame_number 2) <| .ite (tame_number 4) <| tame_unexpected _ m

theorem tame_str : Tame lo 1 Decoder.str := by
  refine .bind (n := 0) tame_strLength fun length => .position fun start => ?_
  refine (tame_take length).bind (n := 0) fun body => ?_
  split
  · exact .pure _
  · exact .fail fun _ ho => (Option.some.inj ho).symm

theorem tame_tag (tagged : Tagged) : Tame lo 1 (Decoder.tag tagged) :=
  .position fun _ => .bind tame_uint fun value => .ite (.pure value) <|
    .fail fun _ ho => (Option.some.inj ho).symm

-- ---------------------------------------------------------------------------
-- Optional values and lists
-- ---------------------------------------------------------------------------

theorem Absent.eq_code (h : Absent.ofCode? b = some k) : b = k.code := by
  unfold Absent.ofCode? at h
  split at h <;> cases h <;> exact UInt8.toNat_inj.1 ‹_›

/-- A nil that has been skipped is of the kind that was asked for. -/
theorem skipNil_eq_true {c : Cursor} (h : Decoder.skipNil k c = .ok true c') :
    c.rest = 0xc0 :: k.code :: c'.rest ∧ c'.pos = c.pos + 2 := by
  unfold Decoder.skipNil at h
  repeat' split at h
  all_goals cases h
  rename_i hb _ kind rest hrest _ found hk hf
  subst hf
  rw [hrest, Absent.eq_code hk, Decidable.not_not.1 hb]
  exact ⟨rfl, rfl⟩

theorem skipNil_eq_false {c : Cursor} (h : Decoder.skipNil k c = .ok false c') : c' = c := by
  unfold Decoder.skipNil at h
  repeat' split at h
  all_goals cases h
  · rfl
  · rfl

/-- An absent value takes up two bytes. -/
theorem Tame.optional {d : Decoder α} (h : Tame lo 1 d) (absent : Absent) :
    Tame lo 1 (Decoder.optional absent d) := by
  have ht : Tame lo 0 (Decoder.optional absent d) :=
    (tame_skipNil absent).bind fun _ =>
      .ite (.pure none) ((h.bind fun v => .pure (some v)).weaken (Nat.zero_le 1))
  intro c more hlo
  cases ht c more hlo with
  | value v c' ahead past run same =>
    refine .value v c' ahead ?_ run same
    obtain ⟨skipped, c₁, hskip, hrest⟩ := run_bind_eq_ok run
    cases skipped with
    | true =>
      cases hrest
      have := (skipNil_eq_true hskip).2
      omega
    | false =>
      cases skipNil_eq_false hskip
      obtain ⟨w, c₂, hd, hpure⟩ := run_bind_eq_ok hrest
      cases hpure
      exact (h.ahead_ok hlo hd).2
  | refusal e c' ahead pinned run same => exact .refusal e c' ahead pinned run same
  | cut c' ahead run => exact .cut c' ahead run

theorem Tame.repeated {d : Decoder α} (h : Tame lo 1 d) (n : Nat) :
    Tame lo n (Decoder.repeated d n) := by
  induction n with
  | zero => exact .pure []
  | succ n ih => exact (h.seq fun v => ih.bind fun vs => .pure (v :: vs)).weaken (by omega)

theorem length_of_repeated {d : Decoder α} (h : Decoder.repeated d n c = .ok vs c') :
    vs.length = n := by
  induction n generalizing c vs with
  | zero =>
    cases h
    rfl
  | succ n ih =>
    obtain ⟨v, c₁, -, h⟩ := run_bind_eq_ok h
    obtain ⟨ws, c₂, hws, h⟩ := run_bind_eq_ok h
    cases h
    simp [ih hws]

theorem Tame.list {d : Decoder α} (h : Tame lo 1 d) : Tame lo 1 (Decoder.list d) :=
  .bind tame_arrayLength fun n => (h.repeated n).weaken (Nat.zero_le n)

end DocSite.Wire
