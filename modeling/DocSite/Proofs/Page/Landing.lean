import DocSite.Page
import DocSite.Proofs.Catalog.Views
import DocSite.Proofs.Page.Link

/-!
# Where search results lead

A search finds entities, what they hold, and the functions of a library. What it finds of
constructors and functions is looked for at a fragment of a page, and the section of that page
that shows the item has the fragment for its id (`search_lands`). Extension functions on built-in
types and on entities of a library are looked for on the pages of these; they are not spoken of
here.
-/

namespace DocSite

open Text (formEncode)

namespace Page

-- ---------------------------------------------------------------------------
-- Parts of pages
-- ---------------------------------------------------------------------------

/-- One text stands in another. -/
def Within (part whole : String) : Prop := part.toList <:+: whole.toList

namespace Within

variable {part whole : String}

theorem refl (s : String) : Within s s := List.infix_rfl

theorem trans {s : String} (h : Within part whole) (h' : Within whole s) : Within part s :=
  List.IsInfix.trans h h'

theorem inl (h : Within part whole) (rest : String) : Within part (whole ++ rest) := by
  rw [Within, String.toList_append]
  exact List.IsInfix.trans h (List.prefix_append _ _).isInfix

theorem inr (front : String) (h : Within part whole) : Within part (front ++ whole) := by
  rw [Within, String.toList_append]
  exact List.IsInfix.trans h (List.suffix_append _ _).isInfix

theorem join {parts : List String} (h : part ∈ parts) : Within part (String.join parts) := by
  rw [Within, String.toList_join]
  exact List.infix_of_mem_flatten (List.mem_map_of_mem h)

end Within

variable (links : Links)

theorem within_layout (title : String) (library : Option String) (head body : String) :
    Within body (layout title library head body) :=
  .inl (.inr _ (.refl body)) _

theorem within_chapter {items : List Item} (library heading : String) (h : i ∈ items) :
    Within (links.section library i) (links.chapter library heading items) := by
  have hne : items.isEmpty = false := by
    cases items with
    | nil => cases h
    | cons _ _ => rfl
  rw [Links.chapter, hne]
  exact .inr _ (.join (List.mem_map_of_mem h))

/-- The page of an entity shows the constructors and functions it holds. -/
theorem within_entityBody {s : EntitySubject} {d : EntityDoc Item} (c : Catalog)
    (h : i ∈ d.contained) (hkind : i.kind = .constructor ∨ i.kind = .function) :
    Within (links.section c.name i) (links.entityBody c (.entity s d)) := by
  have hof : ∀ kind heading, i.kind = kind → Within (links.section c.name i)
      (links.chapter c.name heading (d.contained.filter (·.kind == kind))) := by
    intro kind heading hk
    exact within_chapter links c.name heading (List.mem_filter.2 ⟨h, by simp [hk]⟩)
  rw [Links.entityBody]
  refine .inr _ ?_
  rcases hkind with hk | hk
  · exact .inl (.inl (.inl (.inr _ (hof .constructor "Constructors" hk)) _) _) _
  · exact .inl (.inr _ (hof .function "Functions" hk)) _

/-- The index page shows the functions of a library. -/
theorem within_indexBody (c : Catalog) (h : i ∈ (c.extensions ++ c.functions).map (·.2)) :
    Within (links.section c.name i) (links.indexBody c) := by
  rw [List.map_append, List.mem_append] at h
  rw [Links.indexBody]
  rcases h with h | h
  · exact .inl (.inr _ (within_chapter links c.name _ h)) _
  · exact .inl (.inl (.inr _ (within_chapter links c.name _ h)) _) _

-- ---------------------------------------------------------------------------
-- Sections and their ids
-- ---------------------------------------------------------------------------

theorem escape_formEncode (s : String) : escape (formEncode s) = formEncode s := by
  have hself : ∀ c ∈ (formEncode s).toList, escapeChar c = [c] := by
    intro c hc
    have hne : ∀ mark ∈ Text.marks, c ≠ mark := by
      rintro mark hmark rfl
      exact Text.formEncode_plain hmark s hc
    simp [escapeChar, hne '&' (by decide), hne '<' (by decide), hne '>' (by decide),
      hne '\x22' (by decide)]
  rw [escape, List.flatMap_congr hself, List.flatMap_singleton', String.ofList_toList]

/-- A page shows an item in an element of the given id. The id stands between its quotes as it
is, with no quote and no character reference in it. This is about the text of the page:
descriptions may hold markup of their own, and what a reader of the page makes of a section that
stands behind such a description is not spoken of. -/
structure ShownAt (library : String) (i : Item) (id html : String) : Prop where
  placed : Within (links.section library i) html
  element : ∃ inner, links.section library i =
    "<section class=\"item\" id=\"" ++ id ++ "\">" ++ inner ++ "</section>\n"
  verbatim : '\x22' ∉ id.toList ∧ '&' ∉ id.toList

theorem opening_eq : "\">\n<pre>" = "\">" ++ "\n<pre>" := by decide +kernel

theorem exists_section_eq (library : String) {i : Item} {id : String} (h : escape i.subject.anchor = id) :
    ∃ inner, links.section library i =
      "<section class=\"item\" id=\"" ++ id ++ "\">" ++ inner ++ "</section>\n" := by
  subst h
  refine ⟨"\n<pre>" ++ codeTag i.subject.signature ++ "</pre>\n" ++ originTag library i.subject ++
    links.prose i.doc.description ++ links.details i.doc, ?_⟩
  unfold Links.section
  simp only [opening_eq, String.append_assoc]

/-- Entities have pages of their own and no anchors. -/
theorem anchor_eq_formEncode {a : Subject} (h : a.kind ≠ .entity) :
    a.anchor = formEncode a.signature := by
  cases a with
  | entity => exact absurd rfl h
  | constructor | field | function => rfl

theorem shownAt_anchor {i : Item} {library html : String}
    (hkind : i.kind = .constructor ∨ i.kind = .function)
    (hplaced : Within (links.section library i) html) :
    ShownAt links library i i.subject.anchor html := by
  have hentity : i.subject.kind ≠ .entity := by
    intro hentity
    rcases hkind with hkind | hkind <;> cases hkind.symm.trans hentity
  have hid := anchor_eq_formEncode hentity
  constructor
  · exact hplaced
  · exact exists_section_eq links library (by rw [hid, escape_formEncode])
  · rw [hid]
    exact ⟨Text.formEncode_plain (by decide) _, Text.formEncode_plain (by decide) _⟩

end Page

-- ---------------------------------------------------------------------------
-- What a search finds
-- ---------------------------------------------------------------------------

/-- The items of an entity's body. -/
def Item.contained (i : Item) : List Item := (i.entityDoc?.map (·.contained)).getD []

/-- What a search finds of an entity, with what holds it: the entity, and all it holds but for
fields. -/
def Item.findable (e : Item) : List (Option Item × Item) :=
  (none, e) :: (e.contained.filter (·.kind != .field)).map fun i => (some e, i)

/-- What a search finds in a library: entities with what they hold, and functions. -/
def Catalog.findable (c : Catalog) : List (Option Item × Item) :=
  (c.entities.map (·.2)).flatMap Item.findable ++
    ((c.extensions ++ c.functions).map (·.2)).map fun i => (none, i)

theorem Catalog.mem_findable {c : Catalog} {holder : Option Item} {i : Item}
    (h : (holder, i) ∈ c.findable) :
    (∃ r e, (r, e) ∈ c.entities ∧ (holder = none ∧ i = e ∨ holder = some e ∧ i ∈ e.contained)) ∨
      holder = none ∧ i ∈ (c.extensions ++ c.functions).map (·.2) := by
  rw [findable, List.mem_append, List.mem_flatMap] at h
  rcases h with ⟨e, he, h⟩ | h
  · obtain ⟨⟨r, e⟩, hmem, rfl⟩ := List.mem_map.1 he
    refine .inl ⟨r, e, hmem, ?_⟩
    rcases List.mem_cons.1 h with h | h
    · exact .inl (Prod.mk.inj h)
    · obtain ⟨j, hj, h⟩ := List.mem_map.1 h
      obtain ⟨rfl, rfl⟩ := Prod.mk.inj h
      exact .inr ⟨rfl, List.mem_of_mem_filter hj⟩
  · obtain ⟨j, hj, h⟩ := List.mem_map.1 h
    obtain ⟨rfl, rfl⟩ := Prod.mk.inj h
    exact .inr ⟨rfl, hj⟩

theorem Item.exists_of_mem_contained {e i : Item} (h : i ∈ e.contained) :
    ∃ s d, e = .entity s d ∧ i ∈ d.contained := by
  cases e with
  | entity s d => exact ⟨s, d, rfl, h⟩
  | constructor | field | function => cases h

namespace Page

variable (links : Links)

/-- The page of an entity, or the index page of its library. -/
def homeOf (c : Catalog) : Option Item → Page
  | some e => .entity c e
  | none => .index c

def homeUrl (library : String) : Option Item → String
  | some e => entityUrl library e.name
  | none => libraryUrl library

theorem not_anchor_homeUrl (library : String) (holder : Option Item) :
    '#' ∉ (homeUrl library holder).toList := by
  cases holder with
  | none => exact not_anchor_libraryUrl library
  | some e => exact not_anchor_entityUrl library e.name

theorem entityEntries_eq (library : String) (e : Item) : links.entityEntries library e =
    e.findable.map fun found => links.searchEntry library (found.1.map (·.name)) found.2 := by
  simp [Links.entityEntries, Item.findable, Item.contained, Function.comp_def]

theorem searchIndex_eq (c : Catalog) : links.searchIndex c =
    c.findable.map fun found => links.searchEntry c.name (found.1.map (·.name)) found.2 := by
  simp [Links.searchIndex, Catalog.findable, entityEntries_eq, List.map_flatMap, List.flatMap_map,
    Function.comp_def]

variable {links}

theorem searchEntry_url {library : String} {parent : Option String} {i : Item}
    (hkind : i.kind = .constructor ∨ i.kind = .function) :
    (links.searchEntry library parent i).url =
      links.shownOn library parent i.subject ++ "#" ++ i.subject.anchor := by
  cases i with
  | constructor | function => rfl
  | entity | field => rcases hkind with h | h <;> cases h

/-- Only a function whose `on` clause leads to the page of an entity is sought on a page other
than that of its holder. -/
theorem shownOn_eq_homeUrl {library : String} {holder : Option Item} {i : Item}
    (hon : holder = none → ∀ on, Catalog.extended? i = some on →
      Native.isNative on = false ∧ Target.ofQualified? on = none) :
    links.shownOn library (holder.map (·.name)) i.subject = homeUrl library holder := by
  cases holder with
  | some e => rfl
  | none =>
    cases i with
    | function f d =>
      have htarget : f.target.bind links.scriptType? = none := by
        rw [Option.bind_eq_none_iff]
        intro on htarget
        obtain ⟨hnative, hname⟩ := hon rfl on htarget
        simp [Links.scriptType?, hnative, hname]
      simp [Links.shownOn, Item.subject, htarget, homeUrl]
    | entity | constructor | field => rfl

theorem homeOf_mem_ofLibrary {c : Catalog} {holder : Option Item} {i : Item}
    (h : (holder, i) ∈ c.findable) : homeOf c holder ∈ ofLibrary c := by
  have hindex : Page.index c ∈ ofLibrary c := by simp [ofLibrary]
  rcases Catalog.mem_findable h with ⟨r, e, he, ⟨rfl, -⟩ | ⟨rfl, -⟩⟩ | ⟨rfl, -⟩
  · exact hindex
  · simp only [homeOf, ofLibrary, List.mem_append]
    exact .inl (.inr (List.mem_map.2 ⟨(r, e), he, rfl⟩))
  · exact hindex

/-- The page that an item is sought on has the item's section. -/
theorem within_home {c : Catalog} (hnatives : ∀ i ∈ c.natives, i.kind = .entity)
    {holder : Option Item} {i : Item} (h : (holder, i) ∈ c.findable)
    (hkind : i.kind = .constructor ∨ i.kind = .function) :
    Within (links.section c.name i) (render links (homeOf c holder)) := by
  rcases Catalog.mem_findable h with ⟨r, e, he, ⟨rfl, rfl⟩ | ⟨rfl, hi⟩⟩ | ⟨rfl, hi⟩
  · rw [Catalog.kind_of_mem_entities hnatives he] at hkind
    rcases hkind with hkind | hkind <;> cases hkind
  · obtain ⟨s, d, rfl, hi⟩ := Item.exists_of_mem_contained hi
    exact (within_entityBody links c hi hkind).trans (within_layout ..)
  · exact (within_indexBody links c hi).trans (within_layout ..)

end Page

/-- The entries of a search index, one for each item that can be found. Every entry of a
constructor or function leads to a fragment of the page of the entity that holds it, or of the
library's index page, and that page shows the item at the fragment. An extension function is
excepted if its `on` clause names a built-in type or an entity of a library. -/
theorem search_lands (links : Page.Links) (c : Catalog)
    (hnatives : ∀ i ∈ c.natives, i.kind = .entity) :
    (links.searchIndex c = c.findable.map fun found =>
      links.searchEntry c.name (found.1.map (·.name)) found.2) ∧
    ∀ holder i, (holder, i) ∈ c.findable → (i.kind = .constructor ∨ i.kind = .function) →
      (holder = none → ∀ on, Catalog.extended? i = some on →
        Native.isNative on = false ∧ Target.ofQualified? on = none) →
      ∃ fragment,
        (links.searchEntry c.name (holder.map (·.name)) i).url =
          Page.homeUrl c.name holder ++ "#" ++ fragment ∧
        '#' ∉ (Page.homeUrl c.name holder).toList ∧
        Page.homeOf c holder ∈ Page.ofLibrary c ∧
        Page.ShownAt links c.name i fragment ((Page.homeOf c holder).render links) := by
  refine ⟨Page.searchIndex_eq links c, fun holder i h hkind hon => ⟨i.subject.anchor, ?_, ?_, ?_, ?_⟩⟩
  · rw [Page.searchEntry_url hkind, Page.shownOn_eq_homeUrl hon]
  · exact Page.not_anchor_homeUrl c.name holder
  · exact Page.homeOf_mem_ofLibrary h
  · exact Page.shownAt_anchor links hkind (Page.within_home hnatives h hkind)

def shelfMaker : Item := .constructor ⟨"demo", "shelf.ql", "Shelf", ["a", "b"]⟩ {}

def shelf : Item := .entity ⟨"demo", "shelf.ql", "Shelf"⟩ { contained := [shelfMaker] }

def onShelf : Item := .function ⟨"demo", "shelf.ql", "clear", [], false, false, some "Shelf"⟩ {}

def shelfLibrary : Catalog where
  metadata := ⟨"demo", "1", "a", "d", none⟩
  stdName := "std"
  files := [⟨"shelf.ql", "shelf.ql", [shelf, onShelf]⟩]
  natives := []

/-- A constructor is found on the page of its entity, and an extension function of the library
itself on the index page. -/
theorem search_lands_shelf :
    (∀ i ∈ shelfLibrary.natives, i.kind = .entity) ∧
    shelfLibrary.findable = [(none, shelf), (some shelf, shelfMaker), (none, onShelf)] ∧
    (Catalog.extended? onShelf = some "Shelf" ∧ Native.isNative "Shelf" = false ∧
      Target.ofQualified? "Shelf" = none) ∧
    (∃ fragment, (docLinks.searchEntry "demo" (some "Shelf") shelfMaker).url =
        Page.entityUrl "demo" "Shelf" ++ "#" ++ fragment ∧
      Page.ShownAt docLinks "demo" shelfMaker fragment
        ((Page.entity shelfLibrary shelf).render docLinks)) ∧
    ∃ fragment, (docLinks.searchEntry "demo" none onShelf).url =
        Page.libraryUrl "demo" ++ "#" ++ fragment ∧
      Page.ShownAt docLinks "demo" onShelf fragment ((Page.index shelfLibrary).render docLinks) := by
  have hnatives : ∀ i ∈ shelfLibrary.natives, i.kind = .entity := by simp [shelfLibrary]
  have hfindable : shelfLibrary.findable =
      [(none, shelf), (some shelf, shelfMaker), (none, onShelf)] := by with_unfolding_all rfl
  have hon : Catalog.extended? onShelf = some "Shelf" ∧ Native.isNative "Shelf" = false ∧
      Target.ofQualified? "Shelf" = none := by decide +kernel
  have h := (search_lands docLinks shelfLibrary hnatives).2
  obtain ⟨f, hf, -, -, hshown⟩ := h (some shelf) shelfMaker (by simp [hfindable]) (.inl rfl)
    (by rintro ⟨⟩)
  obtain ⟨g, hg, -, -, hshown'⟩ := h none onShelf (by simp [hfindable]) (.inr rfl) (by
    rintro - on ho
    rw [hon.1] at ho
    obtain rfl := Option.some.inj ho
    exact hon.2)
  exact ⟨hnatives, hfindable, hon, ⟨f, hf, hshown⟩, g, hg, hshown'⟩

end DocSite
