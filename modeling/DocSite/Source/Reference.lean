import DocSite.Doc.Description
import DocSite.Text.Blank
import DocSite.Text.Cut

/-!
# Inline references

In a comment, `[@param x]`, `[@type T]` and `[@java C]` refer to a parameter, a
script type and a host class. Prose is cut into pieces at its references;
everything between them is text.
-/

namespace DocSite.Source

open Text (isBlank after?)

/-- The word after `[@` and the kind of reference it makes. -/
def referenceWords : List (List Char × (String → Piece)) :=
  [("param".toList, .param), ("type".toList, .type), ("java".toList, .host)]

/-- The name a reference gives, and what follows its closing bracket. Blanks
are required before the name and allowed after it. -/
def referenceName? (s : List Char) : Option (List Char × List Char) :=
  match s with
  | [] => none
  | c :: s =>
    if !isBlank c then none
    else
      let s := s.dropWhile isBlank
      let name := s.takeWhile fun c => c != ']' && !isBlank c
      match (s.dropWhile fun c => c != ']' && !isBlank c).dropWhile isBlank with
      | ']' :: rest => if name.isEmpty then none else some (name, rest)
      | _ => none

/-- The reference at the front of a text, and what follows it. -/
def reference? (s : List Char) : Option (Piece × List Char) :=
  (after? "[@".toList s).bind fun s =>
    referenceWords.findSome? fun (word, piece) =>
      ((after? word s).bind referenceName?).map fun (name, rest) =>
        (piece (String.ofList name), rest)

theorem length_of_after? {start s rest : List Char} (h : after? start s = some rest) :
    rest.length ≤ s.length := by
  unfold after? at h
  split at h
  · cases h; simp
  · cases h

theorem length_dropWhile_le (p : Char → Bool) (s : List Char) :
    (s.dropWhile p).length ≤ s.length :=
  (List.dropWhile_sublist p).length_le

theorem length_of_referenceName? {s name rest : List Char}
    (h : referenceName? s = some (name, rest)) : rest.length < s.length := by
  unfold referenceName? at h
  split at h
  · cases h
  · rename_i c s
    split at h
    · cases h
    · simp only at h
      split at h
      · rename_i rest' hrest
        split at h
        · cases h
        · obtain ⟨-, rfl⟩ := Prod.mk.inj (Option.some.inj h)
          have h1 := congrArg List.length hrest
          have h2 := length_dropWhile_le isBlank
            ((s.dropWhile isBlank).dropWhile fun c => c != ']' && !isBlank c)
          have h3 := length_dropWhile_le (fun c => c != ']' && !isBlank c) (s.dropWhile isBlank)
          have h4 := length_dropWhile_le isBlank s
          simp only [List.length_cons] at h1 ⊢
          omega
      · cases h

theorem length_of_reference? {s rest : List Char} {p : Piece}
    (h : reference? s = some (p, rest)) : rest.length < s.length := by
  unfold reference? at h
  obtain ⟨s', hs', h⟩ := Option.bind_eq_some_iff.mp h
  obtain ⟨⟨word, piece⟩, -, h⟩ := List.exists_of_findSome?_eq_some h
  obtain ⟨⟨name, rest'⟩, hn, h⟩ := Option.map_eq_some_iff.mp h
  obtain ⟨s'', hs'', hn⟩ := Option.bind_eq_some_iff.mp hn
  obtain ⟨-, rfl⟩ := Prod.mk.inj h
  have h1 := length_of_after? hs'
  have h2 := length_of_after? hs''
  have h3 := length_of_referenceName? hn
  omega

/-- A text piece, unless it is empty. Text is collected last character first. -/
def textPiece (seen : List Char) : List Piece :=
  if seen.isEmpty then [] else [.text (String.ofList seen.reverse)]

def piecesFrom (seen : List Char) (s : List Char) : List Piece :=
  match _h : reference? s with
  | some (p, rest) => textPiece seen ++ p :: piecesFrom [] rest
  | none =>
    match s with
    | [] => textPiece seen
    | c :: s => piecesFrom (c :: seen) s
termination_by s.length
decreasing_by
  · exact length_of_reference? _h
  · simp

/-- Prose is trimmed first; blank prose is no description. -/
def description? (s : List Char) : Option Description :=
  let s := Text.trim s
  if s.isEmpty then none else some ⟨piecesFrom [] s⟩

/-- A type at the front of a tag's text, and the prose that follows it. The
prose has to stand on one line. -/
def leadingType? (s : List Char) : Option (TypeRef × List Char) :=
  match reference? s with
  | some (.type name, rest) => oneLine ⟨.script, name⟩ rest
  | some (.host name, rest) => oneLine ⟨.host, name⟩ rest
  | _ => none
where
  oneLine (type : TypeRef) (rest : List Char) : Option (TypeRef × List Char) :=
    let rest := rest.dropWhile isBlank
    if rest.contains '\n' then none else some (type, rest)

end DocSite.Source
