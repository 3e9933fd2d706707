import DocSite.Proofs.Wire.Truncation

/-!
# Lexemes

The integers in a stream are all tags. A lexeme is a token that says of which kind, and the
lexemes of a value are told from its type alone (`Lexical`), so that a cache file is a header and
a list of lexemes (`encodeRecord_eq_lexemes`).
-/

namespace DocSite.Wire

open Format (tokens read)

/-- A token that says of an integer what it is the tag of. -/
inductive Lexeme where
  | tag (kind : Tagged) (value : Fin (kind.maxTag + 1))
  | bool (value : Bool)
  | str (text : String)
  | array (count : Nat)
  | nil (absent : Absent)

def Lexeme.token : Lexeme → Token
  | .tag _ value => .uint (.ofNat value)
  | .bool value => .bool value
  | .str text => .str text
  | .array count => .array count
  | .nil absent => .nil absent

def tokensOf (ls : List Lexeme) : List Token := ls.map Lexeme.token

@[simp] theorem tokensOf_nil : tokensOf [] = [] := rfl

@[simp] theorem tokensOf_cons : tokensOf (l :: ls) = l.token :: tokensOf ls := rfl

@[simp] theorem tokensOf_append : tokensOf (ls ++ ms) = tokensOf ls ++ tokensOf ms := by
  simp [tokensOf]

/-- What a value is written as, with the kinds of its tags. -/
class Lexical (α : Type) [Format α] where
  lexemes : α → List Lexeme
  tokens_eq : ∀ v, tokens v = tokensOf (lexemes v)

open Lexical (lexemes)

def optionalLexemes {α : Type} (absent : Absent) (value : α → List Lexeme) :
    Option α → List Lexeme
  | some v => value v
  | none => [.nil absent]

def listLexemes {α : Type} (value : α → List Lexeme) (vs : List α) : List Lexeme :=
  .array vs.length :: vs.flatMap value

theorem optionalTokens_eq {value : α → List Token} {value' : α → List Lexeme}
    (h : ∀ v, value v = tokensOf (value' v)) (o : Option α) :
    optionalTokens absent value o = tokensOf (optionalLexemes absent value' o) := by
  cases o with
  | none => rfl
  | some v => exact h v

theorem listTokens_eq {value : α → List Token} {value' : α → List Lexeme} {vs : List α}
    (h : ∀ v ∈ vs, value v = tokensOf (value' v)) :
    listTokens value vs = tokensOf (listLexemes value' vs) := by
  simp only [listTokens, listLexemes, tokensOf_cons, Lexeme.token]
  congr 1
  induction vs with
  | nil => rfl
  | cons v vs ih =>
    rw [List.forall_mem_cons] at h
    rw [List.flatMap_cons, List.flatMap_cons, tokensOf_append, h.1, ih h.2]

instance : Lexical String where
  lexemes text := [.str text]
  tokens_eq _ := rfl

instance {α : Type} [Omissible α] [Lexical α] : Lexical (Option α) where
  lexemes := optionalLexemes (Omissible.absent α) lexemes
  tokens_eq := optionalTokens_eq Lexical.tokens_eq

instance {α : Type} [Format α] [Lexical α] : Lexical (List α) where
  lexemes := listLexemes lexemes
  tokens_eq _ := listTokens_eq fun v _ => Lexical.tokens_eq v

instance : Lexical Origin where
  lexemes
    | .script => [.tag .origin 0]
    | .host => [.tag .origin 1]
  tokens_eq o := by cases o <;> rfl

instance : Lexical TypeRef where
  lexemes t := lexemes t.origin ++ lexemes t.name
  tokens_eq t := by simp [tokens, ← Lexical.tokens_eq]

instance : Lexical Piece where
  lexemes
    | .text text => [.tag .piece 0, .str text]
    | .host className => [.tag .piece 1, .str className]
    | .param name => [.tag .piece 2, .str name]
    | .type name => [.tag .piece 3, .str name]
  tokens_eq p := by cases p <;> rfl

instance : Lexical Description where
  lexemes d := lexemes d.pieces
  tokens_eq d := Lexical.tokens_eq d.pieces

instance : Lexical ParamDoc where
  lexemes d := lexemes d.name ++ lexemes d.type ++ lexemes d.description
  tokens_eq d := by simp [tokens, ← Lexical.tokens_eq]

instance : Lexical ReturnDoc where
  lexemes d := lexemes d.type ++ lexemes d.description
  tokens_eq d := by simp [tokens, ← Lexical.tokens_eq]

instance : Lexical OnDoc where
  lexemes d := lexemes d.type ++ lexemes d.description
  tokens_eq d := by simp [tokens, ← Lexical.tokens_eq]

instance : Lexical ErrorsDoc where
  lexemes d := lexemes d.description
  tokens_eq d := Lexical.tokens_eq d.description

instance : Lexical ConstructorDoc where
  lexemes d := lexemes d.description ++ lexemes d.params
  tokens_eq d := by simp [tokens, ← Lexical.tokens_eq]

instance : Lexical FieldDoc where
  lexemes d := lexemes d.description ++ lexemes d.type
  tokens_eq d := by simp [tokens, ← Lexical.tokens_eq]

instance : Lexical FunctionDoc where
  lexemes d :=
    lexemes d.description ++ lexemes d.params ++ lexemes d.returns ++ lexemes d.on ++
      lexemes d.errors
  tokens_eq d := by simp [tokens, ← Lexical.tokens_eq]

instance : Lexical EntitySubject where
  lexemes s := lexemes s.library ++ lexemes s.path ++ lexemes s.name
  tokens_eq s := by simp [tokens, ← Lexical.tokens_eq]

instance : Lexical ConstructorSubject where
  lexemes s := lexemes s.library ++ lexemes s.path ++ lexemes s.name ++ lexemes s.params
  tokens_eq s := by simp [tokens, ← Lexical.tokens_eq]

instance : Lexical FieldSubject where
  lexemes s := lexemes s.library ++ lexemes s.path ++ lexemes s.declaredType ++ lexemes s.name
  tokens_eq s := by simp [tokens, ← Lexical.tokens_eq]

instance : Lexical FunctionSubject where
  lexemes s :=
    lexemes s.library ++ lexemes s.path ++ lexemes s.name ++ lexemes s.params ++
      [.bool s.isNative, .bool s.isStatic] ++ optionalLexemes .onType lexemes s.on
  tokens_eq s := by
    simp [tokens, ← Lexical.tokens_eq, Lexeme.token, ← optionalTokens_eq Lexical.tokens_eq]

instance : Lexical Subject where
  lexemes
    | .entity s => .tag .subject 0 :: lexemes s
    | .constructor s => .tag .subject 1 :: lexemes s
    | .field s => .tag .subject 2 :: lexemes s
    | .function s => .tag .subject 3 :: lexemes s
  tokens_eq s := by cases s <;> exact congrArg (List.cons _) (Lexical.tokens_eq _)

mutual

def itemLexemes : Item → List Lexeme
  | .entity s d => lexemes (Subject.entity s) ++ entityDocLexemes d
  | .constructor s d => lexemes (Subject.constructor s) ++ (.tag .doc 0 :: lexemes d)
  | .field s d => lexemes (Subject.field s) ++ (.tag .doc 2 :: lexemes d)
  | .function s d => lexemes (Subject.function s) ++ (.tag .doc 3 :: lexemes d)

def entityDocLexemes : EntityDoc Item → List Lexeme
  | ⟨description, contained, extensions⟩ =>
    .tag .doc 1 :: (lexemes description ++
      (.array contained.length :: itemsLexemes contained) ++
      (.array extensions.length :: itemsLexemes extensions))

def itemsLexemes : List Item → List Lexeme
  | [] => []
  | i :: is => itemLexemes i ++ itemsLexemes is

end

mutual

theorem itemTokens_eq_tokensOf : (i : Item) → itemTokens i = tokensOf (itemLexemes i)
  | .entity s d => by
    rw [itemTokens, itemLexemes, tokensOf_append, ← Lexical.tokens_eq,
      entityDocTokens_eq_tokensOf d]
  | .constructor s d | .field s d | .function s d => by
    rw [itemTokens, itemLexemes, tokensOf_append, ← Lexical.tokens_eq, tokensOf_cons,
      ← Lexical.tokens_eq]
    rfl

theorem entityDocTokens_eq_tokensOf :
    (d : EntityDoc Item) → entityDocTokens d = tokensOf (entityDocLexemes d)
  | ⟨description, contained, extensions⟩ => by
    simp only [entityDocTokens, entityDocLexemes, tokensOf_cons, tokensOf_append,
      ← Lexical.tokens_eq, itemsTokens_eq_tokensOf contained, itemsTokens_eq_tokensOf extensions]
    rfl

theorem itemsTokens_eq_tokensOf : (is : List Item) → itemsTokens is = tokensOf (itemsLexemes is)
  | [] => rfl
  | i :: is => by
    rw [itemsTokens, itemsLexemes, tokensOf_append, itemTokens_eq_tokensOf i,
      itemsTokens_eq_tokensOf is]

end

instance : Lexical Item where
  lexemes := itemLexemes
  tokens_eq := itemTokens_eq_tokensOf

def docLexemes : Doc → List Lexeme
  | .entity d => entityDocLexemes d
  | .constructor d => .tag .doc 0 :: lexemes d
  | .field d => .tag .doc 2 :: lexemes d
  | .function d => .tag .doc 3 :: lexemes d

theorem itemLexemes_eq (i : Item) : itemLexemes i = lexemes i.subject ++ docLexemes i.doc := by
  cases i <;> simp [itemLexemes, Item.subject, Item.doc, docLexemes]

theorem itemsLexemes_eq_flatMap (is : List Item) : itemsLexemes is = is.flatMap itemLexemes := by
  induction is with
  | nil => rfl
  | cons i is ih => simp [itemsLexemes, ih]

theorem entityDocLexemes_eq (d : EntityDoc Item) :
    entityDocLexemes d = .tag .doc 1 :: (lexemes d.description ++
      (listLexemes itemLexemes d.contained ++ listLexemes itemLexemes d.extensions)) := by
  obtain ⟨description, contained, extensions⟩ := d
  simp [entityDocLexemes, itemsLexemes_eq_flatMap, listLexemes]

instance : Lexical SourceFile where
  lexemes f := lexemes f.name ++ lexemes f.importPath ++ lexemes f.items
  tokens_eq f := by simp [tokens, ← Lexical.tokens_eq]

instance : Lexical Metadata where
  lexemes m :=
    lexemes m.name ++ lexemes m.version ++ lexemes m.author ++ lexemes m.description ++
      optionalLexemes .sourceUrl lexemes m.sourceUrl
  tokens_eq m := by
    simp [tokens, ← Lexical.tokens_eq, ← optionalTokens_eq Lexical.tokens_eq]

/-- What follows the header of a cache file. -/
def recordLexemes (r : Record) : List Lexeme :=
  lexemes r.metadata ++ (lexemes r.files ++ lexemes r.natives)

theorem encodeRecord_eq_lexemes (r : Record) :
    encodeRecord r = magic ++ (formatVersion :: bytesOf (tokensOf (recordLexemes r))) := by
  simp [encodeRecord_eq, recordLexemes, ← Lexical.tokens_eq]

end DocSite.Wire
