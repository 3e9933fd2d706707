import DocSite.Proofs.Source.Declaration
import DocSite.Proofs.Source.Reader

/-!
# Members of files and entities

Whatever a source text is, the items read from it are well formed (`parse_members`): all
of them carry the library and the import path of the file, entities hold no entities and
have nothing attached, constructors stand only in the entity they are named like, and
only functions of the file itself extend a type, which then has a name.
-/

namespace DocSite.Source

/-- An item that carries the library and import path of its file. -/
def Placed (p : Place) (i : Item) : Prop := i.subject.library = p.library ∧ i.subject.path = p.path

/-- What may stand in the body of an entity. -/
def MemberOf (p : Place) (entity : String) (i : Item) : Prop :=
  Placed p i ∧
    match i with
    | .entity _ _ => False
    | .constructor c _ => c.name = entity
    | .field _ _ => True
    | .function f _ => f.on = none

/-- What may stand in a file. -/
def Member (p : Place) (i : Item) : Prop :=
  Placed p i ∧
    match i with
    | .entity e d => (∀ j ∈ d.contained, MemberOf p e.name j) ∧ d.extensions = []
    | .constructor _ _ => False
    | .field _ _ => True
    | .function f _ => f.on ≠ some ""

theorem reads_member (p : Place) : Reads p (Member p) (MemberOf p) := by
  constructor
  · intro line f hline hf c
    refine ⟨⟨⟨rfl, rfl⟩, fun hon => ?_⟩, fun _ => ⟨⟨rfl, rfl⟩, rfl⟩⟩
    exact ((tidy_of_functionLine? hline hf).on "" hon).nonempty rfl
  · exact fun _ _ _ => ⟨⟨rfl, rfl⟩, rfl⟩
  · exact fun _ _ _ => ⟨⟨⟨rfl, rfl⟩, trivial⟩, fun _ => ⟨⟨rfl, rfl⟩, trivial⟩⟩
  · exact fun _ _ _ _ hitems => ⟨⟨rfl, rfl⟩, hitems, rfl⟩

/-- Every source text is read to members of its file. -/
theorem parse_members (p : Place) (source : String) : ∀ i ∈ (parse p source).items, Member p i :=
  (reads_member p).parse source

/-- An entity that ends too often, with a constructor, one of another name, a function with
an `on` clause, and an entity inside. -/
def crowdedSource : String :=
  "entity Box \x7b\n  Box(w)\n  Crate(w)\n  fun area() on Box\n  entity Lid \x7b\n\x7d\n\x7d\n\x7d\nfun f() on Box\n"

theorem parse_members_crowded :
    ∃ i ∈ (parse ⟨"l", "a.ql"⟩ crowdedSource).items,
      i.subject = .entity ⟨"l", "a.ql", "Box"⟩ ∧ Member ⟨"l", "a.ql"⟩ i := by
  have hbox : Subject.entity ⟨"l", "a.ql", "Box"⟩ ∈
      (parse ⟨"l", "a.ql"⟩ crowdedSource).items.map Item.subject := by decide +kernel
  obtain ⟨i, hi, hsubject⟩ := List.mem_map.1 hbox
  exact ⟨i, hi, hsubject, parse_members ⟨"l", "a.ql"⟩ crowdedSource i hi⟩

end DocSite.Source
