import DocSite.Proofs.Text.Lines
import DocSite.Source.Declaration
import Mathlib.Data.List.TakeDrop
import Mathlib.Data.List.TakeWhile

/-!
# Declarations read back

What a line declares is put together from words and parameters that can be written down
again: a word has no blanks in it, and a parameter is trimmed and has no comma and no
closing parenthesis. Written in one fixed way, a declaration is read as what it was.
-/

namespace DocSite

namespace Text

/-- No blank is a word character. -/
theorem isBlank_eq_false_of_isWord {c : Char} (h : isWord c) : isBlank c = false := by
  have hblanks : ∀ n ∈ [9, 10, 11, 12, 13, 0x20, 0x85, 0xa0, 0x1680, 0x2000, 0x2001, 0x2002, 0x2003,
      0x2004, 0x2005, 0x2006, 0x2007, 0x2008, 0x2009, 0x200a, 0x2028, 0x2029, 0x202f, 0x205f,
      0x3000], isWord (Char.ofNat n) = false := by decide +kernel
  by_contra hblank
  have hmem := hblanks c.toNat (by simp [isBlank] at hblank ⊢; omega)
  rw [Char.ofNat_toNat, h] at hmem
  cases hmem

theorem mem_of_mem_join {mark : List Char} {parts : List (List Char)} {c : Char}
    (h : c ∈ join mark parts) : c ∈ mark ∨ ∃ part ∈ parts, c ∈ part := by
  induction parts with
  | nil => cases h
  | cons part parts ih =>
    by_cases hp : parts = []
    · subst hp
      rw [join_singleton] at h
      exact .inr ⟨part, by simp, h⟩
    · rw [join_cons _ _ hp, List.mem_append, List.mem_append] at h
      rcases h with h | h | h
      · exact .inr ⟨part, by simp, h⟩
      · exact .inl h
      · exact (ih h).imp_right fun ⟨q, hq, hc⟩ => ⟨q, by simp [hq], hc⟩

/-- What stands between two parts can be counted to the second. -/
theorem join_append_mark (mark gap : List Char) (part : List Char) (parts : List (List Char)) :
    join (mark ++ gap) (part :: parts) = join mark (part :: parts.map (gap ++ ·)) := by
  induction parts generalizing part with
  | nil => rfl
  | cons next parts ih =>
    rw [join_cons _ _ (by simp), ih, List.map_cons, join_cons _ part (by simp)]
    cases parts with
    | nil => simp
    | cons third parts => simp [join_cons]

theorem trim_cons {c : Char} (h : isBlank c) (s : List Char) : trim (c :: s) = trim s := by
  rw [trim, trim, trimStart, List.dropWhile_cons_of_pos h, trimStart]

theorem isBlank_head_trim {s : List Char} {c : Char} (h : (trim s).head? = some c) :
    isBlank c = false := by
  obtain ⟨rest, hrest⟩ := trimEnd_prefix_self (trimStart s)
  have hhead : (s.dropWhile isBlank).head? = some c := by
    rw [trim] at h
    rw [← trimStart, ← hrest]
    simp [List.head?_append, h]
  have := List.head?_dropWhile_not isBlank s
  rw [hhead] at this
  simpa using this

theorem isBlank_getLast_trim {s : List Char} {c : Char} (h : (trim s).getLast? = some c) :
    isBlank c = false := by
  have := List.head?_dropWhile_not isBlank (trimStart s).reverse
  rw [trim, trimEnd, List.getLast?_reverse] at h
  rw [h] at this
  simpa using this

theorem trim_trim (s : List Char) : trim (trim s) = trim s :=
  trim_eq_self (fun _ => isBlank_head_trim) (fun _ => isBlank_getLast_trim)

end Text

namespace Source

open Text (isBlank isWord after? trim join)

-- ---------------------------------------------------------------------------
-- Keywords and names
-- ---------------------------------------------------------------------------

theorem keyword?_append {word start rest : List Char} (hstart : start = word ++ [' '])
    (hrest : ∀ c, rest.head? = some c → isBlank c = false) : keyword? word (start ++ rest) = some rest := by
  have hafter : after? word (start ++ rest) = some (' ' :: rest) :=
    Text.after?_eq_some_iff.2 (by simp [hstart])
  have hdrop : rest.dropWhile isBlank = rest :=
    @Text.dropWhile_append_exact isBlank [] rest (by simp) hrest
  simp only [keyword?, hafter, hdrop]
  rfl

theorem subset_of_keyword? {word s rest : List Char} (h : keyword? word s = some rest) : rest ⊆ s := by
  unfold keyword? at h
  split at h
  · rename_i c rest' hafter
    split at h
    · cases h
      rw [Text.after?_eq_some_iff.1 hafter]
      intro d hd
      have : d ∈ rest' := List.dropWhile_subset _ hd
      simp [this]
    · cases h
  · cases h

theorem subset_of_modifiers (m : Modifiers) (s : List Char) : (modifiers m s).2 ⊆ s := by
  fun_induction modifiers m s with
  | case1 m s rest h ih => exact List.Subset.trans ih (subset_of_keyword? h)
  | case2 m s _ rest h ih => exact List.Subset.trans ih (subset_of_keyword? h)
  | case3 m s => exact List.Subset.refl s

/-- A word that is not empty, as names are. -/
structure IsName (s : String) : Prop where
  nonempty : s.toList ≠ []
  word : ∀ c ∈ s.toList, isWord c

theorem IsName.head_not_blank (h : IsName name) (rest : List Char) :
    ∀ c, (name.toList ++ rest).head? = some c → isBlank c = false := by
  intro c hc
  obtain ⟨d, front, hname⟩ := List.exists_cons_of_ne_nil h.nonempty
  rw [hname, List.cons_append, List.head?_cons, Option.some_inj] at hc
  exact Text.isBlank_eq_false_of_isWord (h.word c (by simp [hname, hc]))

theorem name?_append {name : String} (h : IsName name) {rest : List Char}
    (hrest : ∀ c, rest.head? = some c → isWord c = false) :
    name? (name.toList ++ rest) = some (name.toList, rest) := by
  have hspan : Text.word (name.toList ++ rest) = (name.toList, rest) := by
    rw [Text.word, List.span_eq_takeWhile_dropWhile, Text.takeWhile_append_exact h.word hrest,
      Text.dropWhile_append_exact h.word hrest]
  simp [name?, hspan, h.nonempty]

theorem name?_eq_some {s name rest : List Char} (h : name? s = some (name, rest)) :
    IsName (String.ofList name) ∧ s = name ++ rest := by
  simp only [name?, Text.word, List.span_eq_takeWhile_dropWhile] at h
  split at h
  · cases h
  · rename_i hne
    cases h
    refine ⟨⟨by simpa using hne, fun c hc => ?_⟩, List.takeWhile_append_dropWhile.symm⟩
    rw [String.toList_ofList] at hc
    exact List.mem_takeWhile_imp hc

-- ---------------------------------------------------------------------------
-- Parameters
-- ---------------------------------------------------------------------------

/-- A parameter that can stand between commas and parentheses. -/
structure IsParam (s : String) : Prop where
  nonempty : s.toList ≠ []
  trimmed : trim s.toList = s.toList
  free : ∀ c ∈ s.toList, c ≠ ',' ∧ c ≠ ')' ∧ c ≠ '\n'

/-- Parameters as they are written, in their parentheses. -/
def paramText (params : List String) : List Char :=
  '(' :: (join ", ".toList (params.map String.toList) ++ [')'])

theorem splitParams_join {params : List String} (h : ∀ q ∈ params, IsParam q) :
    splitParams (join ", ".toList (params.map String.toList)) = params := by
  cases params with
  | nil => rfl
  | cons q params =>
    have hq := h q (by simp)
    have hparams : ∀ r ∈ params, IsParam r := fun r hr => h r (by simp [hr])
    have hfree : ∀ part ∈ q.toList :: (params.map String.toList).map ([' '] ++ ·),
        ∀ c ∈ part, (c == ',') = false := by
      intro part hpart c hc
      simp only [List.mem_cons, List.mem_map] at hpart
      rcases hpart with rfl | ⟨_, ⟨r, hr, rfl⟩, rfl⟩
      · simpa using (hq.free c hc).1
      · rcases List.mem_cons.1 hc with rfl | hc
        · rfl
        · simpa using ((hparams r hr).free c hc).1
    have htrim : ((params.map String.toList).map ([' '] ++ ·)).map trim = params.map String.toList := by
      rw [List.map_map, List.map_map]
      refine List.map_congr_left fun r hr => ?_
      exact (Text.trim_cons (by decide) _).trans (hparams r hr).trimmed
    have hne : ∀ part ∈ (q :: params).map String.toList, (!part.isEmpty) = true := by
      intro part hpart
      obtain ⟨r, hr, rfl⟩ := List.mem_map.1 hpart
      simpa using (h r hr).nonempty
    rw [splitParams, List.map_cons, show ", ".toList = [','] ++ [' '] from rfl,
      Text.join_append_mark, Text.splitAll_join (by rfl) (by simp) hfree, List.map_cons, htrim,
      hq.trimmed, ← List.map_cons, List.filter_eq_self.2 hne, List.map_map]
    simp

theorem parenthesized?_paramText {params : List String} (h : ∀ q ∈ params, IsParam q)
    (rest : List Char) :
    parenthesized? (paramText params ++ rest) =
      some (join ", ".toList (params.map String.toList), rest) := by
  have hinside : ∀ c ∈ join ", ".toList (params.map String.toList), (c != ')') = true := by
    intro c hc
    rcases Text.mem_of_mem_join hc with hc | ⟨_, hpart, hc⟩
    · have hmark : ∀ d ∈ ", ".toList, (d != ')') = true :=
        Text.forall_mem_of_all (by decide)
      exact hmark c hc
    · obtain ⟨q, hq, rfl⟩ := List.mem_map.1 hpart
      simpa using ((h q hq).free c hc).2.1
  have hend : ∀ c, (')' :: rest).head? = some c → (c != ')') = false := by simp
  have hstart : (paramText params ++ rest).dropWhile isBlank =
      '(' :: (join ", ".toList (params.map String.toList) ++ ')' :: rest) := by
    simp [paramText, show isBlank '(' = false from rfl]
  simp only [parenthesized?, hstart, Text.dropWhile_append_exact hinside hend,
    Text.takeWhile_append_exact hinside hend]

/-- Parameters that are read from one line. -/
theorem isParam_of_splitParams {text : List Char} (h : ∀ c ∈ text, c ≠ ')' ∧ c ≠ '\n') :
    ∀ q ∈ splitParams text, IsParam q := by
  intro q hq
  simp only [splitParams, List.mem_map, List.mem_filter] at hq
  obtain ⟨_, ⟨⟨part, hpart, rfl⟩, hne⟩, rfl⟩ := hq
  refine ⟨by simpa using hne, by rw [String.toList_ofList, Text.trim_trim], fun c hc => ?_⟩
  rw [String.toList_ofList] at hc
  have hc := Text.mem_trim hc
  have hcomma := Text.not_sep_of_mem_splitAll hpart c hc
  have htext : c ∈ text := by
    rw [← Text.join_splitAll ',' text]
    exact (Text.infix_join hpart _).subset hc
  exact ⟨by simpa using hcomma, h c htext⟩

theorem parenthesized?_eq_some {s text rest : List Char} (h : parenthesized? s = some (text, rest)) :
    text ++ ')' :: rest ⊆ s ∧ ')' ∉ text := by
  unfold parenthesized? at h
  split at h
  · rename_i s' hs
    split at h
    · rename_i rest' hrest
      cases h
      refine ⟨?_, fun hmem => ?_⟩
      · rw [← hrest, List.takeWhile_append_dropWhile]
        intro c hc
        exact List.dropWhile_subset isBlank (by simp [hs, hc])
      · simpa using List.mem_takeWhile_imp hmem
    · cases h
  · cases h

-- ---------------------------------------------------------------------------
-- Functions, constructors and entities
-- ---------------------------------------------------------------------------

/-- A function line that can be written down and read again. -/
structure FunctionLine.Tidy (f : FunctionLine) : Prop where
  name : IsName f.name
  params : ∀ q ∈ f.params, IsParam q
  on : ∀ type, f.on = some type → IsName type

def Modifiers.text (m : Modifiers) : List Char :=
  (if m.isNative then "native ".toList else []) ++ if m.isStatic then "static ".toList else []

def onText : Option String → List Char
  | some type => " on ".toList ++ type.toList
  | none => []

def FunctionLine.text (f : FunctionLine) : List Char :=
  f.modifiers.text ++ ("fun ".toList ++ (f.name.toList ++ (paramText f.params ++ onText f.on)))

theorem modifiers_native {s rest : List Char} (m : Modifiers)
    (h : keyword? "native".toList s = some rest) :
    modifiers m s = modifiers { m with isNative := true } rest := by
  rw [modifiers]
  split
  · simp_all
  · simp_all

theorem modifiers_static {s rest : List Char} (m : Modifiers)
    (hnative : keyword? "native".toList s = none) (h : keyword? "static".toList s = some rest) :
    modifiers m s = modifiers { m with isStatic := true } rest := by
  rw [modifiers]
  split
  · simp_all
  · split
    · simp_all
    · simp_all

theorem modifiers_eq_self {s : List Char} (m : Modifiers)
    (hnative : keyword? "native".toList s = none) (hstatic : keyword? "static".toList s = none) :
    modifiers m s = (m, s) := by
  rw [modifiers]
  split
  · simp_all
  · split
    · simp_all
    · rfl

theorem modifiers_fun (m : Modifiers) (rest : List Char) :
    modifiers m ("fun ".toList ++ rest) = (m, "fun ".toList ++ rest) :=
  modifiers_eq_self m rfl rfl

theorem modifiers_text (m : Modifiers) (rest : List Char) :
    modifiers {} (m.text ++ ("fun ".toList ++ rest)) = (m, "fun ".toList ++ rest) := by
  obtain ⟨isNative, isStatic⟩ := m
  have hstatic := @keyword?_append "static".toList "static ".toList ("fun ".toList ++ rest) rfl
    (by simp; rfl)
  have hother : keyword? "native".toList ("static ".toList ++ ("fun ".toList ++ rest)) = none := rfl
  cases isNative with
  | false =>
    cases isStatic with
    | false => exact modifiers_fun _ rest
    | true => exact (modifiers_static _ hother hstatic).trans (modifiers_fun _ rest)
  | true =>
    cases isStatic with
    | false =>
      have h := @keyword?_append "native".toList "native ".toList ("fun ".toList ++ rest) rfl
        (by simp; rfl)
      exact (modifiers_native _ h).trans (modifiers_fun _ rest)
    | true =>
      have h := @keyword?_append "native".toList "native ".toList
        ("static ".toList ++ ("fun ".toList ++ rest)) rfl (by simp; rfl)
      exact (modifiers_native _ h).trans
        ((modifiers_static _ hother hstatic).trans (modifiers_fun _ rest))

theorem onClause?_onText {on : Option String} (h : ∀ type, on = some type → IsName type) :
    onClause? (onText on) = on := by
  cases on with
  | none => rfl
  | some type =>
    have htype := h type rfl
    have hkeyword := @keyword?_append "on".toList "on ".toList type.toList rfl
      (by simpa using htype.head_not_blank [])
    have hname := @name?_append type htype [] (by simp)
    rw [List.append_nil] at hname
    have hdrop : ("on ".toList ++ type.toList).dropWhile isBlank = "on ".toList ++ type.toList := rfl
    have hsplit : onText (some type) = ' ' :: ("on ".toList ++ type.toList) := rfl
    simp only [hsplit, onClause?, hdrop, hkeyword, Option.bind_some, hname, Option.map_some,
      String.ofList_toList]
    rfl

theorem paramText_head_not_word (params : List String) (rest : List Char) :
    ∀ c, (paramText params ++ rest).head? = some c → isWord c = false := by
  intro c hc
  rw [paramText, List.cons_append, List.head?_cons, Option.some_inj] at hc
  rw [← hc]
  rfl

theorem functionLine?_text {f : FunctionLine} (h : f.Tidy) : functionLine? f.text = some f := by
  have hname := name?_append h.name (paramText_head_not_word f.params (onText f.on))
  have hfun := @keyword?_append "fun".toList "fun ".toList _ rfl
    (h.name.head_not_blank (paramText f.params ++ onText f.on))
  have hparams := parenthesized?_paramText h.params (onText f.on)
  simp only [functionLine?, FunctionLine.text, modifiers_text, hfun, hname, hparams,
    splitParams_join h.params, onClause?_onText h.on, String.ofList_toList, Option.bind_eq_bind,
    Option.bind_some]
  rfl

/-- A name that its parameters follow is no keyword. -/
theorem keyword?_eq_none {word : List Char} (hword : ∀ c ∈ word, isWord c) {name : String}
    (hname : IsName name) (params : List String) :
    keyword? word (name.toList ++ paramText params) = none := by
  have hrest := Text.dropWhile_append_exact hname.word (paramText_head_not_word params [])
  rw [List.append_nil] at hrest
  unfold keyword?
  split
  · rename_i c rest hafter
    split
    · rename_i hblank
      have hc : ∀ d, (c :: rest).head? = some d → isWord d = false := by
        rintro d hd
        cases hd
        by_contra hd
        simp [Text.isBlank_eq_false_of_isWord (by simpa using hd)] at hblank
      rw [Text.after?_eq_some_iff.1 hafter, Text.dropWhile_append_exact hword hc] at hrest
      cases hrest
      cases hblank
    · rfl
  · rfl

theorem functionLine?_eq_none {line : List Char} (hnative : keyword? "native".toList line = none)
    (hstatic : keyword? "static".toList line = none) (hfun : keyword? "fun".toList line = none) :
    functionLine? line = none := by
  simp only [functionLine?, modifiers_eq_self _ hnative hstatic, hfun]
  rfl

theorem constructorLine?_text {name : String} {params : List String} (hname : IsName name)
    (hparams : ∀ q ∈ params, IsParam q) :
    constructorLine? (name.toList ++ paramText params) = some (name, params) := by
  have hword := name?_append hname (paramText_head_not_word params [])
  have hinside := parenthesized?_paramText hparams []
  rw [List.append_nil] at hword hinside
  simp only [constructorLine?, hword, hinside, splitParams_join hparams, String.ofList_toList,
    Option.bind_eq_bind, Option.bind_some]
  rfl

theorem entityLine?_append {name : String} (hname : IsName name) {rest : List Char}
    (hrest : ∀ c, rest.head? = some c → isWord c = false) :
    entityLine? ("entity ".toList ++ (name.toList ++ rest)) = some name := by
  have hword := name?_append hname hrest
  have hentity := @keyword?_append "entity".toList "entity ".toList _ rfl (hname.head_not_blank rest)
  simp only [entityLine?, hentity, hword, String.ofList_toList, Option.bind_eq_bind,
    Option.bind_some]
  rfl

theorem isName_of_onClause? {s : List Char} (h : onClause? s = some type) : IsName type := by
  unfold onClause? at h
  split at h
  · split at h
    · simp only [Option.map_eq_some_iff, Option.bind_eq_some_iff] at h
      obtain ⟨⟨name, rest⟩, ⟨_, -, hname⟩, rfl⟩ := h
      exact (name?_eq_some hname).1
    · cases h
  · cases h

theorem isName_of_entityLine? {line : List Char} (h : entityLine? line = some name) : IsName name := by
  simp only [entityLine?, Option.bind_eq_bind, Option.bind_eq_some_iff] at h
  obtain ⟨_, -, ⟨name, rest⟩, hname, hpure⟩ := h
  cases hpure
  exact (name?_eq_some hname).1

/-- Parameters that are read in parentheses can be written there again. -/
theorem isParam_of_parenthesized? {s params rest : List Char} (hs : '\n' ∉ s)
    (h : parenthesized? s = some (params, rest)) : ∀ q ∈ splitParams params, IsParam q := by
  obtain ⟨hsub, hclosing⟩ := parenthesized?_eq_some h
  refine isParam_of_splitParams fun c hc => ⟨?_, ?_⟩
  · rintro rfl
    exact hclosing hc
  · rintro rfl
    exact hs (hsub (by simp [hc]))

theorem tidy_of_functionLine? {line : List Char} {f : FunctionLine} (hline : '\n' ∉ line)
    (h : functionLine? line = some f) : f.Tidy := by
  simp only [functionLine?, Option.bind_eq_bind, Option.bind_eq_some_iff] at h
  obtain ⟨s, hfun, ⟨name, s'⟩, hname, ⟨params, rest⟩, hparams, hpure⟩ := h
  cases hpure
  obtain ⟨hword, rfl⟩ := name?_eq_some hname
  have hs : '\n' ∉ s' := fun hmem =>
    hline (subset_of_modifiers _ _ (subset_of_keyword? hfun (by simp [hmem])))
  exact ⟨hword, isParam_of_parenthesized? hs hparams, fun type htype => isName_of_onClause? htype⟩

theorem tidy_of_constructorLine? {line : List Char} {name : String} {params : List String}
    (hline : '\n' ∉ line) (h : constructorLine? line = some (name, params)) :
    ∀ q ∈ params, IsParam q := by
  simp only [constructorLine?, Option.bind_eq_bind, Option.bind_eq_some_iff] at h
  obtain ⟨⟨word, s⟩, hname, ⟨text, rest⟩, hparams, hpure⟩ := h
  split at hpure
  · cases hpure
    obtain ⟨-, rfl⟩ := name?_eq_some hname
    exact isParam_of_parenthesized? (fun hmem => hline (by simp [hmem])) hparams
  · cases hpure

end Source

end DocSite
