import DocSite.Page.Search
import DocSite.Proofs.Files.Path
import DocSite.Proofs.Text.Form
import DocSite.Proofs.Text.Lines

/-!
# Where extension functions are linked

An extension function goes to one entity, and links about it lead to the page of one. The
link of its `@on` tag leads where the function goes, if the type is a script type
(`link_target`). The search index goes by the `on` clause alone, so a function whose tag says
something else is looked for on a page that does not have it.
-/

namespace DocSite

-- ---------------------------------------------------------------------------
-- Links that can be told apart
-- ---------------------------------------------------------------------------

namespace Text

/-- What takes links and markup apart. -/
def marks : List Char := ['/', '#', '&', '<', '>', '\x22']

/-- What is true of the characters of every byte is true of an encoded text. -/
theorem forall_mem_formEncode {p : Char → Prop} [DecidablePred p]
    (h : ∀ n < 256, (formByte (UInt8.ofNat n)).all (fun c => decide (p c)) = true) (s : String) :
    ∀ c ∈ (formEncode s).toList, p c := by
  intro c hc
  rw [formEncode, String.toList_ofList, List.mem_flatMap] at hc
  obtain ⟨b, -, hb⟩ := hc
  have hall := h b.toNat b.toNat_lt
  rw [UInt8.ofNat_toNat] at hall
  exact forall_mem_of_all hall c hb

/-- An encoded text can be told from what stands around it in a link or in markup. -/
theorem formEncode_plain {mark : Char} (hmark : mark ∈ marks) (s : String) :
    mark ∉ (formEncode s).toList := by
  intro hc
  exact forall_mem_formEncode (p := (· ∉ marks)) (by decide +kernel) s mark hc hmark

/-- A text is cut in one way at the first of a mark. -/
theorem append_cons_inj {mark : Char} {front rest front' rest' : List Char} (hfront : mark ∉ front)
    (hfront' : mark ∉ front') (h : front ++ mark :: rest = front' ++ mark :: rest') :
    front = front' ∧ rest = rest' := by
  have hne : ∀ s : List Char, mark ∉ s → ∀ c ∈ s, (c != mark) = true := by
    intro s hs c hc
    simp only [bne_iff_ne]
    rintro rfl
    exact hs hc
  have hmark : ∀ s c, (mark :: s).head? = some c → (c != mark) = false := by
    rintro s c ⟨⟩
    simp
  obtain ⟨hf, hr⟩ := append_inj_of_span (hne front hfront) (hmark rest) (hne front' hfront')
    (hmark rest') h
  exact ⟨hf, (List.cons.inj hr).2⟩

end Text

namespace Page

open Text (formEncode)

theorem toList_entityUrl (library entity : String) :
    (entityUrl library entity).toList = "/library/".toList ++ ((formEncode library).toList ++
      '/' :: ("entity/".toList ++ ((formEncode entity).toList ++ ".html".toList))) := by
  simp [entityUrl]

theorem toList_libraryUrl (library : String) :
    (libraryUrl library).toList = "/library/".toList ++ ((formEncode library).toList ++ ['/']) := by
  simp [libraryUrl]

theorem not_slash_formEncode (s : String) : '/' ∉ (formEncode s).toList :=
  Text.formEncode_plain (by decide) s

theorem not_slash_sourceName (path : String) : '/' ∉ (sourceName path).toList := by
  simp only [sourceName, String.toList_ofList, List.mem_map, not_exists, not_and]
  intro c _
  split
  · decide
  · rename_i hc
    rintro rfl
    exact hc rfl

theorem not_anchor_formEncode (s : String) : '#' ∉ (formEncode s).toList :=
  Text.formEncode_plain (by decide) s

/-- Every entity has a page of its own. -/
theorem entityUrl_inj (h : entityUrl l e = entityUrl l' e') : l = l' ∧ e = e' := by
  have hchars := congrArg String.toList h
  rw [toList_entityUrl, toList_entityUrl] at hchars
  obtain ⟨hl, he⟩ := Text.append_cons_inj (not_slash_formEncode l) (not_slash_formEncode l')
    (List.append_cancel_left hchars)
  refine ⟨Text.formEncode_inj (String.toList_inj.1 hl),
    Text.formEncode_inj (String.toList_inj.1 ?_)⟩
  exact List.append_cancel_right (List.append_cancel_left he)

theorem libraryUrl_ne_entityUrl (library l e : String) : libraryUrl library ≠ entityUrl l e := by
  intro h
  have hchars := congrArg String.toList h
  rw [toList_libraryUrl, toList_entityUrl] at hchars
  obtain ⟨-, hrest⟩ := Text.append_cons_inj (not_slash_formEncode library) (not_slash_formEncode l)
    (List.append_cancel_left hchars)
  cases hrest

theorem not_anchor_entityUrl (l e : String) : '#' ∉ (entityUrl l e).toList := by
  simp [toList_entityUrl, not_anchor_formEncode]

theorem not_anchor_libraryUrl (l : String) : '#' ∉ (libraryUrl l).toList := by
  simp [toList_libraryUrl, not_anchor_formEncode]

end Page

-- ---------------------------------------------------------------------------
-- Names of types
-- ---------------------------------------------------------------------------

namespace Target

def url (t : Target) : String := Page.entityUrl t.library t.entity

theorem url_inj {t t' : Target} (h : t.url = t'.url) : t = t' := by
  obtain ⟨l, e⟩ := t
  obtain ⟨l', e'⟩ := t'
  obtain ⟨rfl, rfl⟩ := Page.entityUrl_inj h
  rfl

theorem ofQualified?_eq_some (h : ofQualified? name = some t) :
    name = t.library ++ "." ++ t.entity ∧ '.' ∉ t.library.toList ∧ '.' ∉ t.entity.toList := by
  unfold ofQualified? at h
  split at h
  · rename_i library entity hsplit
    have hparts : ∀ part ∈ [library, entity], '.' ∉ part := fun part hpart hdot => by
      rw [← hsplit] at hpart
      have := Text.not_sep_of_mem_splitAll hpart _ hdot
      simp at this
    have hname := Text.join_splitAll '.' name.toList
    rw [hsplit, Text.join_cons _ _ (by simp), Text.join_singleton] at hname
    split at h
    · cases h
    · cases h
      refine ⟨String.toList_inj.1 ?_, ?_, ?_⟩
      · simp [← hname]
      · simpa using hparts library (by simp)
      · simpa using hparts entity (by simp)
  · cases h

/-- No built-in type has a dot in its name. -/
theorem not_native_of_ofQualified? (h : ofQualified? name = some t) :
    Native.isNative name = false := by
  have hnone : ∀ n ∈ Native.names, ofQualified? n = none := by decide +kernel
  by_contra hnative
  have hmem : name ∈ Native.names := by simpa [Native.isNative] using hnative
  rw [hnone name hmem] at h
  cases h

end Target

namespace Page.Links

/-- The entity that a script type stands for. -/
def entityOf? (links : Links) (name : String) : Option Target :=
  if Native.isNative name then some ⟨links.stdName, name⟩ else Target.ofQualified? name

theorem scriptType?_eq (links : Links) (name : String) :
    links.scriptType? name = (links.entityOf? name).map Target.url := by
  unfold scriptType? entityOf?
  split <;> rfl

theorem hostType?_of_ofQualified? (links : Links) (h : Target.ofQualified? name = some t) :
    links.hostType? name =
      links.hostDocs.map fun base => base ++ "/" ++ t.library ++ "/" ++ t.entity ++ ".html" := by
  obtain ⟨rfl, hlibrary, hentity⟩ := Target.ofQualified?_eq_some h
  have hsame : ∀ s : List Char, '.' ∉ s → s.map (fun c => if c = '.' then '/' else c) = s := by
    intro s hs
    refine (List.map_congr_left fun c hc => if_neg ?_).trans (List.map_id s)
    rintro rfl
    exact hs hc
  unfold hostType?
  cases links.hostDocs with
  | none => rfl
  | some base =>
    refine (if_pos (by simp)).trans (congrArg some (String.toList_inj.1 ?_))
    simp [hsame _ hlibrary, hsame _ hentity]

theorem searchUrl_function (links : Links) (library : String) (f : FunctionSubject) :
    links.searchUrl library none (.function f) =
      ((f.target.bind links.entityOf?).map Target.url).getD (libraryUrl library) ++ "#" ++
        f.anchor := by
  refine congrArg (· ++ "#" ++ f.anchor) ?_
  rw [shownOn]
  cases f.target with
  | none => rfl
  | some on => rw [Option.bind_some, Option.bind_some, scriptType?_eq]

/-- A function of a file is looked for on the page of the entity that its `on` clause stands
for, and of no other. -/
theorem searchUrl_eq_iff {links : Links} {library : String} {f : FunctionSubject} {t : Target} :
    (∃ a, links.searchUrl library none (.function f) = t.url ++ "#" ++ a) ↔
      f.target.bind links.entityOf? = some t := by
  have hcut : ∀ {page page' a a' : String}, '#' ∉ page.toList → '#' ∉ page'.toList →
      page ++ "#" ++ a = page' ++ "#" ++ a' → page = page' := by
    intro page page' a a' hp hp' h
    have hchars := congrArg String.toList h
    simp only [String.toList_append, List.append_assoc] at hchars
    exact String.toList_inj.1 (Text.append_cons_inj hp hp' hchars).1
  rw [searchUrl_function]
  cases hon : f.target.bind links.entityOf? with
  | none =>
    refine iff_of_false (fun ⟨a, h⟩ => ?_) nofun
    exact libraryUrl_ne_entityUrl library t.library t.entity
      (hcut (not_anchor_libraryUrl library) (not_anchor_entityUrl _ _) h)
  | some t' =>
    constructor
    · rintro ⟨a, h⟩
      rw [Target.url_inj (hcut (not_anchor_entityUrl _ _) (not_anchor_entityUrl _ _) h)]
    · rintro ⟨⟩
      exact ⟨_, rfl⟩

end Page.Links

namespace Target

theorem ofOnClause?_eq {links : Page.Links} {f : FunctionSubject}
    (h : f.target.bind links.entityOf? = some t) :
    ofOnClause? links.stdName f = if f.target.any Native.isNative then some t else none := by
  obtain ⟨on, hon, ht⟩ := Option.bind_eq_some_iff.1 h
  rw [ofOnClause?, hon, Option.any_some]
  rw [Page.Links.entityOf?] at ht
  split at ht
  · rename_i hnative
    simp [hnative, ← Option.some.inj ht]
  · rename_i hnative
    simp [hnative]

end Target

/-- Where the link of an `@on` tag leads, and when a function goes to the entity on whose
page it is looked for. -/
theorem link_target (links : Page.Links) (library : String) (f : FunctionSubject)
    (doc : FunctionDoc) (t : Target) :
    (∀ type, doc.on.bind (·.type) = some type → Target.ofOnTag? doc = some t →
      Target.ofItem? links.stdName (.function f doc) = some t ∧
        links.type? type = match type.origin with
          | .script => some (Page.entityUrl t.library t.entity)
          | .host => links.hostDocs.map fun base =>
            base ++ "/" ++ t.library ++ "/" ++ t.entity ++ ".html") ∧
    ((∃ a, (links.searchEntry library none (.function f doc)).url =
        Page.entityUrl t.library t.entity ++ "#" ++ a) →
      (Target.ofItem? links.stdName (.function f doc) = some t ↔
        Target.ofOnTag? doc = some t ∨
          Target.ofOnTag? doc = none ∧ f.target.any Native.isNative)) := by
  constructor
  · intro type htype htag
    have hname : Target.ofQualified? type.name = some t := by
      rwa [Target.ofOnTag?, htype] at htag
    refine ⟨by rw [Target.ofItem?, htag, Option.some_or], ?_⟩
    rw [Page.Links.type?]
    cases type.origin with
    | script =>
      rw [Page.Links.scriptType?, Target.not_native_of_ofQualified? hname, hname]
      rfl
    | host => exact links.hostType?_of_ofQualified? hname
  · intro hurl
    have hclause := Target.ofOnClause?_eq (Page.Links.searchUrl_eq_iff.1 hurl)
    rw [Target.ofItem?, hclause]
    cases Target.ofOnTag? doc with
    | none => simp
    | some t' => simp

def docLinks : Page.Links := ⟨"std", some "https://host"⟩

def intFun : FunctionSubject := ⟨"e", "e.ql", "f", [], false, false, some "int"⟩

def onTag (origin : Origin) (name : String) : FunctionDoc :=
  { on := some ⟨some ⟨origin, name⟩, none⟩ }

/-- The tag and the clause name the same entity. -/
theorem link_target_int :
    (Target.ofItem? "std" (.function intFun (onTag .script "std.int")) = some ⟨"std", "int"⟩ ∧
      docLinks.type? ⟨.script, "std.int"⟩ = some (Page.entityUrl "std" "int")) ∧
    (∃ a, (docLinks.searchEntry "e" none (.function intFun (onTag .script "std.int"))).url =
        Page.entityUrl "std" "int" ++ "#" ++ a) ∧
      (Target.ofItem? "std" (.function intFun (onTag .script "std.int")) = some ⟨"std", "int"⟩ ↔
        Target.ofOnTag? (onTag .script "std.int") = some ⟨"std", "int"⟩ ∨
          Target.ofOnTag? (onTag .script "std.int") = none ∧
            intFun.target.any Native.isNative) := by
  have hurl : ∃ a,
      (docLinks.searchEntry "e" none (.function intFun (onTag .script "std.int"))).url =
        Page.entityUrl "std" "int" ++ "#" ++ a :=
    (@Page.Links.searchUrl_eq_iff docLinks "e" intFun ⟨"std", "int"⟩).2 (by decide +kernel)
  have h := link_target docLinks "e" intFun (onTag .script "std.int") ⟨"std", "int"⟩
  exact ⟨h.1 ⟨.script, "std.int"⟩ rfl (by decide +kernel), hurl, h.2 hurl⟩

/-- A class of the host is taken for an entity, and the search index does not ask for the
tag. -/
theorem link_target_astray :
    (Target.ofItem? "std" (.function intFun (onTag .host "demo.Widget")) =
        some ⟨"demo", "Widget"⟩ ∧
      docLinks.type? ⟨.host, "demo.Widget"⟩ ≠ some (Page.entityUrl "demo" "Widget")) ∧
    (∃ a, (docLinks.searchEntry "e" none (.function intFun (onTag .script "demo.Widget"))).url =
        Page.entityUrl "std" "int" ++ "#" ++ a) ∧
      Target.ofItem? "std" (.function intFun (onTag .script "demo.Widget")) ≠
        some ⟨"std", "int"⟩ := by
  have hurl :=
    (@Page.Links.searchUrl_eq_iff docLinks "e" intFun ⟨"std", "int"⟩).2 (by decide +kernel)
  exact ⟨by decide +kernel, hurl, by decide +kernel⟩

end DocSite
