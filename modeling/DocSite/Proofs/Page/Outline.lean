import DocSite.Proofs.Files.Path
import DocSite.Proofs.Page.Href
import DocSite.Proofs.Routing
import Mathlib.Data.List.Infix

/-!
# The outline is the tree of all beginnings of paths

A path leads from the root through the directories that its components name, so every beginning of
a path is a place in the outline, and there are no other places (`outline_tree`). `Outlines` says
this level by level: the nodes of a level are the first components of the paths, in the order in
which they first come up, and the children of a node outline what follows its name. Adding a path
keeps it (`Outlines.insertPath`). If no file is a directory on the way to another, the files page
has one link for every file. Where paths are written with single slashes, these are the links to
the pages of the files (`hrefs_tidy`).
-/

namespace DocSite.Page

-- ---------------------------------------------------------------------------
-- Paths that share a beginning
-- ---------------------------------------------------------------------------

/-- What follows a beginning, in the paths that have it. -/
def following (front : List String) (paths : List (List String)) : List (List String) :=
  paths.filterMap (·.dropPrefix? front)

/-- The first components of paths, in the order in which they first come up. -/
def firsts (paths : List (List String)) : List String := (paths.filterMap List.head?).eraseDups

theorem mem_following {front : List String} : r ∈ following front paths ↔ front ++ r ∈ paths := by
  simp only [following, List.mem_filterMap, List.dropPrefix?_eq_some_iff, beq_iff_eq]
  constructor
  · rintro ⟨p, hp, front', rfl, rfl⟩
    exact hp
  · intro h
    exact ⟨_, h, front, rfl, rfl⟩

theorem following_nil (paths : List (List String)) : following [] paths = paths := by
  simp [following]

theorem following_following (name : String) (front : List String) (paths : List (List String)) :
    following front (following [name] paths) = following (name :: front) paths := by
  rw [following, following, List.filterMap_filterMap]
  refine List.filterMap_congr fun p _ => ?_
  cases p with
  | nil => rfl
  | cons x p =>
    by_cases hx : x = name
    · simp [List.dropPrefix?, hx]
    · simp [List.dropPrefix?, hx]

theorem following_concat (name : String) (rest : List String) (paths : List (List String)) :
    following [name] (paths ++ [name :: rest]) = following [name] paths ++ [rest] := by
  simp [following, List.dropPrefix?]

/-- One more path has no part in what follows another name. -/
theorem following_concat_of_ne (h : name ≠ other) (rest : List String)
    (paths : List (List String)) :
    following [other] (paths ++ [name :: rest]) = following [other] paths := by
  simp [following, List.dropPrefix?, h]

theorem following_concat_nil (name : String) (paths : List (List String)) :
    following [name] (paths ++ [[]]) = following [name] paths := by
  simp [following, List.dropPrefix?]

theorem eraseDups_concat (xs : List String) (x : String) :
    (xs ++ [x]).eraseDups = if x ∈ xs then xs.eraseDups else xs.eraseDups ++ [x] := by
  rw [List.eraseDups_append]
  by_cases hx : x ∈ xs
  · simp [List.removeAll, hx]
  · simp [List.removeAll, hx, List.eraseDups_cons]

theorem nodup_firsts (paths : List (List String)) : (firsts paths).Nodup :=
  Routing.nodup_eraseDups _

theorem mem_firsts : name ∈ firsts paths ↔ ∃ r, name :: r ∈ paths := by
  rw [firsts, List.mem_eraseDups, List.mem_filterMap]
  constructor
  · rintro ⟨p, hp, hname⟩
    cases p with
    | nil => cases hname
    | cons x p =>
      cases hname
      exact ⟨p, hp⟩
  · rintro ⟨r, hr⟩
    exact ⟨name :: r, hr, rfl⟩

theorem following_eq_nil (h : name ∉ firsts paths) : following [name] paths = [] := by
  rw [List.eq_nil_iff_forall_not_mem]
  intro r hr
  exact h (mem_firsts.2 ⟨r, mem_following.1 hr⟩)

theorem firsts_concat (name : String) (rest : List String) (paths : List (List String)) :
    firsts (paths ++ [name :: rest]) =
      if name ∈ firsts paths then firsts paths else firsts paths ++ [name] := by
  simp only [firsts, List.filterMap_append, List.mem_eraseDups]
  exact eraseDups_concat _ _

theorem firsts_concat_nil (paths : List (List String)) : firsts (paths ++ [[]]) = firsts paths := by
  have hnone : ([[]] : List (List String)).filterMap List.head? = [] := rfl
  rw [firsts, List.filterMap_append, hnone, List.append_nil, firsts]

-- ---------------------------------------------------------------------------
-- Level by level
-- ---------------------------------------------------------------------------

/-- Whether the first of some paths has components. -/
def goesOn (paths : List (List String)) : Bool := paths.head?.any (! ·.isEmpty)

/-- Nodes outline those of the paths below a place that begin with the given names. -/
inductive Outlines : List String → List (List String) → List String → List Node → Prop
  | nil : Outlines above paths [] []
  | cons : Outlines (above ++ [name]) (following [name] paths) (firsts (following [name] paths))
      children →
    Outlines above paths names nodes →
    Outlines above paths (name :: names)
      (.mk name ("/".intercalate (above ++ [name])) (goesOn (following [name] paths)) children ::
        nodes)

namespace Outlines

theorem names_eq (h : Outlines above paths names nodes) : nodes.map Node.name = names := by
  induction h with
  | nil => rfl
  | cons _ _ _ ih => rw [List.map_cons, ih]; rfl

theorem append (h : Outlines above paths names nodes) (h' : Outlines above paths names' nodes') :
    Outlines above paths (names ++ names') (nodes ++ nodes') := by
  induction h with
  | nil => exact h'
  | cons hchildren _ _ ih => exact .cons hchildren (ih h')

/-- Only what follows the names matters. -/
theorem congr (h : Outlines above paths names nodes)
    (hsame : ∀ name ∈ names, following [name] paths' = following [name] paths) :
    Outlines above paths' names nodes := by
  induction h with
  | nil => exact .nil
  | cons hchildren _ _ ih =>
    have hname := hsame _ List.mem_cons_self
    rw [← hname] at hchildren ⊢
    exact .cons hchildren (ih fun other hother => hsame other (List.mem_cons_of_mem _ hother))

/-- Changing the children of a node for one more path with its name. -/
theorem descend {change : List Node → List Node} (h : Outlines above paths names nodes)
    (hnodup : names.Nodup) (hname : name ∈ names) (hpaths : following [name] paths ≠ [])
    (hchange : ∀ children,
      Outlines (above ++ [name]) (following [name] paths) (firsts (following [name] paths))
        children →
      Outlines (above ++ [name]) (following [name] paths ++ [rest])
        (firsts (following [name] paths ++ [rest])) (change children)) :
    Outlines above (paths ++ [name :: rest]) names (Page.descend name change nodes) := by
  induction h with
  | nil => cases hname
  | @cons above other paths children names nodes hchildren hnodes _ ih =>
    obtain ⟨hother, hnodup⟩ := List.nodup_cons.1 hnodup
    by_cases hn : other = name
    · subst hn
      have hdir : goesOn (following [other] paths) =
          goesOn (following [other] paths ++ [rest]) := by
        obtain ⟨p, ps, hps⟩ := List.exists_cons_of_ne_nil hpaths
        rw [hps]
        rfl
      have hchildren := hchange children hchildren
      rw [Page.descend, if_pos rfl, hdir]
      rw [← following_concat] at hchildren ⊢
      refine .cons hchildren (hnodes.congr fun name hname => following_concat_of_ne ?_ _ _)
      rintro rfl
      exact hother hname
    · have hsame : following [other] paths = following [other] (paths ++ [name :: rest]) :=
        (following_concat_of_ne (Ne.symm hn) rest paths).symm
      rw [Page.descend, if_neg hn]
      rw [hsame] at hchildren ⊢
      have hmem : name ∈ names := (List.mem_cons.1 hname).resolve_left (Ne.symm hn)
      exact .cons hchildren (ih hnodup hmem hpaths hchange)

end Outlines

theorem intercalate_concat {above : List String} (h : ∀ x ∈ above, x ≠ "") (name : String) :
    (if ("/".intercalate above).isEmpty then name else "/".intercalate above ++ "/" ++ name) =
      "/".intercalate (above ++ [name]) := by
  cases above with
  | nil => simp
  | cons x above =>
    have hne : ("/".intercalate (x :: above)).isEmpty = false := by
      rw [String.isEmpty_eq_false_iff]
      intro he
      have hx := h x List.mem_cons_self
      cases above with
      | nil => simp [hx] at he
      | cons y above => simp [String.intercalate_cons_cons, hx] at he
    rw [hne, String.intercalate_append_of_ne_nil (by simp) (by simp), String.intercalate_singleton]
    rfl

/-- One more path is outlined too. -/
theorem Outlines.insertPath (h : Outlines above paths (firsts paths) nodes) (p : List String)
    (hne : ∀ x ∈ above ++ p, x ≠ "") :
    Outlines above (paths ++ [p]) (firsts (paths ++ [p]))
      (Page.insertPath ("/".intercalate above) p nodes) := by
  induction p generalizing above paths nodes with
  | nil =>
    rw [firsts_concat_nil, Page.insertPath]
    exact h.congr fun name _ => following_concat_nil name paths
  | cons name rest ih =>
    have habove : ∀ x ∈ above, x ≠ "" := fun x hx => hne x (List.mem_append_left _ hx)
    have hrest : ∀ x ∈ (above ++ [name]) ++ rest, x ≠ "" := by
      simpa using hne
    rw [Page.insertPath, intercalate_concat habove, firsts_concat]
    have hany : nodes.any (·.name = name) = decide (name ∈ firsts paths) := by
      rw [← h.names_eq, Bool.eq_iff_iff]
      simp
    rw [hany]
    by_cases hname : name ∈ firsts paths
    · have hpaths : following [name] paths ≠ [] := by
        obtain ⟨r, hr⟩ := mem_firsts.1 hname
        exact List.ne_nil_of_mem (mem_following.2 hr)
      simp only [hname, decide_true, ↓reduceIte]
      exact h.descend (nodup_firsts paths) hname hpaths fun children hchildren => ih hchildren hrest
    · have hnew := ih (@Outlines.nil (above ++ [name]) []) hrest
      simp only [hname, decide_false, Bool.false_eq_true, ↓reduceIte]
      refine Outlines.append (h.congr fun other hother => following_concat_of_ne ?_ _ _) ?_
      · rintro rfl
        exact hname hother
      · have hone : following [name] (paths ++ [name :: rest]) = [] ++ [rest] := by
          rw [following_concat, following_eq_nil hname]
        have hdir : (!rest.isEmpty) = goesOn (following [name] (paths ++ [name :: rest])) := by
          rw [hone]
          rfl
        rw [hdir]
        rw [← hone] at hnew
        exact .cons hnew .nil

theorem ne_empty_of_mem_components {file : String} (h : x ∈ components file) : x ≠ "" := by
  rw [components, List.mem_map] at h
  obtain ⟨part, hpart, rfl⟩ := h
  have hne := (List.mem_filter.1 hpart).2
  intro he
  have := congrArg String.toList he
  simp_all

theorem outlines_outline (paths : List String) :
    Outlines [] (paths.map components) (firsts (paths.map components)) (outline paths) := by
  induction paths using List.reverseRecOn with
  | nil => exact .nil
  | append_singleton paths p ih =>
    have hstep := ih.insertPath (components p) fun x hx => ne_empty_of_mem_components hx
    rw [List.map_append, List.map_singleton, outline, List.foldl_append]
    exact hstep

-- ---------------------------------------------------------------------------
-- Places of nodes
-- ---------------------------------------------------------------------------

mutual

/-- A node and all nodes below it, each with the names that lead to it. -/
def Node.entries (above : List String) : Node → List (List String × Node)
  | .mk name path isDir children =>
    (above ++ [name], .mk name path isDir children) :: entries (above ++ [name]) children

def entries (above : List String) : List Node → List (List String × Node)
  | [] => []
  | n :: ns => n.entries above ++ entries above ns

end

/-- The places of all nodes. -/
def places (above : List String) (nodes : List Node) : List (List String) :=
  (entries above nodes).map (·.1)

theorem entries_cons (above : List String) (name place : String) (isDir : Bool)
    (children nodes : List Node) :
    entries above (.mk name place isDir children :: nodes) =
      (above ++ [name], .mk name place isDir children) ::
        (entries (above ++ [name]) children ++ entries above nodes) := by
  rw [entries, Node.entries, List.cons_append]

theorem places_cons (above : List String) (name place : String) (isDir : Bool)
    (children nodes : List Node) :
    places above (.mk name place isDir children :: nodes) =
      (above ++ [name]) :: (places (above ++ [name]) children ++ places above nodes) := by
  simp [places, entries_cons]

/-- A node is what the paths say that go through its place, `front` below the top. -/
structure Placed (above : List String) (paths : List (List String)) (front : List String)
    (n : Node) : Prop where
  reached : ∃ r, front ++ r ∈ paths
  name : front.getLast? = some n.name
  path : n.path = "/".intercalate (above ++ front)
  isDir : n.isDir = goesOn (following front paths)
  children : n.children.map Node.name = firsts (following front paths)

theorem Placed.below {name : String}
    (h : Placed (above ++ [name]) (following [name] paths) front n) :
    Placed above paths (name :: front) n := by
  obtain ⟨⟨r, hr⟩, hname, hpath, hdir, hchildren⟩ := h
  have hthrough : [name] ++ (front ++ r) ∈ paths := mem_following.1 hr
  rw [following_following] at hdir hchildren
  refine ⟨⟨r, hthrough⟩, ?_, ?_, hdir, hchildren⟩
  · rw [List.getLast?_cons, hname]
    rfl
  · rw [hpath, List.append_assoc, List.singleton_append]

namespace Outlines

theorem placed (h : Outlines above paths names nodes) (hnames : ∀ x ∈ names, x ∈ firsts paths)
    (hmem : (q, n) ∈ entries above nodes) :
    ∃ front, q = above ++ front ∧ Placed above paths front n := by
  induction h with
  | nil => cases hmem
  | @cons above name paths children names nodes hchildren hnodes ihchildren ihnodes =>
    rw [entries_cons, List.mem_cons, List.mem_append] at hmem
    rcases hmem with hmem | hmem | hmem
    · obtain ⟨rfl, rfl⟩ := Prod.mk.inj hmem
      obtain ⟨r, hr⟩ := mem_firsts.1 (hnames name List.mem_cons_self)
      exact ⟨[name], rfl, ⟨r, hr⟩, rfl, rfl, rfl, hchildren.names_eq⟩
    · obtain ⟨front, rfl, hplaced⟩ := ihchildren (fun _ hx => hx) hmem
      exact ⟨name :: front, by simp, hplaced.below⟩
    · exact ihnodes (fun x hx => hnames x (List.mem_cons_of_mem _ hx)) hmem

/-- Every beginning of a path has a place. -/
theorem mem_places (h : Outlines above paths names nodes) (hname : name ∈ names)
    (hpath : name :: (front ++ r) ∈ paths) : above ++ name :: front ∈ places above nodes := by
  induction h generalizing name front with
  | nil => cases hname
  | @cons above other paths children names nodes _ _ ihchildren ihnodes =>
    rw [places_cons, List.mem_cons, List.mem_append]
    rcases List.mem_cons.1 hname with rfl | hname
    · cases front with
      | nil => exact .inl rfl
      | cons x front =>
        have hrest : x :: (front ++ r) ∈ following [name] paths := mem_following.2 hpath
        refine .inr (.inl ?_)
        have := ihchildren (mem_firsts.2 ⟨_, hrest⟩) hrest
        rwa [List.append_assoc, List.singleton_append] at this
    · exact .inr (.inr (ihnodes hname hpath))

theorem exists_name (h : Outlines above paths names nodes) (hq : q ∈ places above nodes) :
    ∃ name ∈ names, above ++ [name] <+: q := by
  induction h with
  | nil => cases hq
  | @cons above name paths children names nodes _ _ ihchildren ihnodes =>
    rw [places_cons, List.mem_cons, List.mem_append] at hq
    rcases hq with rfl | hq | hq
    · exact ⟨name, List.mem_cons_self, List.prefix_rfl⟩
    · obtain ⟨x, -, hx⟩ := ihchildren hq
      exact ⟨name, List.mem_cons_self, (List.prefix_append _ _).trans hx⟩
    · obtain ⟨x, hx, hq⟩ := ihnodes hq
      exact ⟨x, List.mem_cons_of_mem _ hx, hq⟩

/-- Places that begin with the same names are below the same node. -/
theorem name_unique {above : List String} (h : above ++ [x] <+: q) (h' : above ++ [y] <+: q) :
    x = y := by
  have heq := List.prefix_of_prefix_length_le h h' (by simp)
  simpa using heq.eq_of_length (by simp)

theorem nodup_places (h : Outlines above paths names nodes) (hnodup : names.Nodup) :
    (places above nodes).Nodup := by
  induction h with
  | nil => exact List.nodup_nil
  | @cons above name paths children names nodes hchildren hnodes ihchildren ihnodes =>
    obtain ⟨hname, hnodup⟩ := List.nodup_cons.1 hnodup
    have hother : ∀ q ∈ places above nodes, ¬ above ++ [name] <+: q := by
      intro q hq hprefix
      obtain ⟨x, hx, hxq⟩ := hnodes.exists_name hq
      exact hname (name_unique hprefix hxq ▸ hx)
    have hbelow : ∀ q ∈ places (above ++ [name]) children, ∃ x, above ++ [name] ++ [x] <+: q :=
      fun q hq => (hchildren.exists_name hq).imp fun _ hx => hx.2
    rw [places_cons, List.nodup_cons, List.mem_append, List.nodup_append]
    refine ⟨?_, ihchildren (nodup_firsts _), ihnodes hnodup, fun q hq q' hq' => ?_⟩
    · rintro (hself | hself)
      · obtain ⟨x, hx⟩ := hbelow _ hself
        have := hx.length_le
        simp at this
      · exact hother _ hself List.prefix_rfl
    · rintro rfl
      obtain ⟨x, hx⟩ := hbelow q hq
      exact hother q hq' ((List.prefix_append _ _).trans hx)

end Outlines

-- ---------------------------------------------------------------------------
-- Files and directories
-- ---------------------------------------------------------------------------

/-- No path leads through the place of another. -/
def NoneAbove (paths : List (List String)) : Prop :=
  ∀ p ∈ paths, ∀ q ∈ paths, p ≠ [] → p <+: q → p = q

theorem Placed.front_ne_nil (h : Placed above paths front n) : front ≠ [] := by
  rintro rfl
  cases h.name

theorem Placed.of_file (h : Placed above paths front n) (hnone : NoneAbove paths)
    (hfile : front ∈ paths) : n.isDir = false ∧ n.children = [] := by
  have hends : ∀ r ∈ following front paths, r = [] := by
    intro r hr
    have heq := hnone front hfile _ (mem_following.1 hr) h.front_ne_nil (List.prefix_append _ _)
    simpa using heq
  have hdir : goesOn (following front paths) = false := by
    cases hf : following front paths with
    | nil => rfl
    | cons r rs => simp [goesOn, hends r (by simp [hf])]
  have hchildren : firsts (following front paths) = [] := by
    rw [List.eq_nil_iff_forall_not_mem]
    intro x hx
    obtain ⟨r, hr⟩ := mem_firsts.1 hx
    cases hends _ hr
  exact ⟨h.isDir.trans hdir, List.map_eq_nil_iff.1 (h.children.trans hchildren)⟩

theorem Placed.of_dir (h : Placed above paths front n) (hdir : front ∉ paths) :
    n.isDir = true ∧ n.children ≠ [] := by
  have hgo : ∀ r ∈ following front paths, r ≠ [] := by
    rintro r hr rfl
    rw [mem_following, List.append_nil] at hr
    exact hdir hr
  obtain ⟨r, hr⟩ := h.reached
  obtain ⟨p, ps, hps⟩ := List.exists_cons_of_ne_nil (List.ne_nil_of_mem (mem_following.2 hr))
  have hp := hgo p (by simp [hps])
  obtain ⟨x, p, rfl⟩ := List.exists_cons_of_ne_nil hp
  refine ⟨by rw [h.isDir, hps]; rfl, fun hnil => ?_⟩
  have hfirst : x ∈ firsts (following front paths) := mem_firsts.2 ⟨p, by simp [hps]⟩
  rw [← h.children, hnil] at hfirst
  cases hfirst

/-- The nodes that are no directories. -/
def leaves (above : List String) (nodes : List Node) : List (List String × Node) :=
  (entries above nodes).filter (! ·.2.isDir)

-- ---------------------------------------------------------------------------
-- The files page
-- ---------------------------------------------------------------------------

theorem leaves_cons (above : List String) (name place : String) (isDir : Bool)
    (children nodes : List Node) :
    leaves above (.mk name place isDir children :: nodes) =
      (if isDir then [] else [(above ++ [name], .mk name place isDir children)]) ++
        (leaves (above ++ [name]) children ++ leaves above nodes) := by
  rw [leaves, entries_cons, List.filter_cons, List.filter_append]
  cases isDir <;> rfl

/-- Where the files of an outline are linked to. -/
def fileUrls (library : String) (above : List String) (nodes : List Node) : List String :=
  (leaves above nodes).map fun e => sourceUrl library e.2.path

/-- If what is no directory has no children, every file has its link. -/
theorem linking_nodeLines (library : String) (h : Outlines above paths names nodes)
    (hleaf : ∀ e ∈ entries above nodes, e.2.isDir = false → e.2.children = []) :
    Linking (nodeLines library nodes) ((fileUrls library above nodes).map escape) := by
  induction h with
  | nil =>
    rw [nodeLines]
    exact .literal (by decide)
  | @cons above name paths children names nodes _ _ ihchildren ihnodes =>
    rw [entries_cons] at hleaf
    have hchildren := ihchildren fun e he => hleaf e (by simp [he])
    have hnodes := ihnodes fun e he => hleaf e (by simp [he])
    rw [nodeLines, nodeLine, fileUrls, leaves_cons]
    cases hdir : goesOn (following [name] paths) with
    | true =>
      have hlist := Linking.wrap (.literal (s := "<ul class=\"tree\">\n") (by decide)) hchildren
        (.literal (s := "</ul>\n") (by decide))
      have hfront := Linking.wrap (.literal (s := "<li>") (by decide)) (.escape name)
        (.literal (s := "/\n") (by decide))
      have hline := Linking.wrap hfront hlist (.literal (s := "</li>\n") (by decide))
      simpa [nodeList, fileUrls] using hline.append hnodes
    | false =>
      have hempty : children = [] := hleaf _ List.mem_cons_self hdir
      have hlink := Linking.anchorTag (sourceUrl library ("/".intercalate (above ++ [name])))
        (.escape name)
      have hline := Linking.wrap (.literal (s := "<li>") (by decide)) hlink
        (.literal (s := "</li>\n") (by decide))
      simpa [hempty, leaves, entries, fileUrls, Node.path] using hline.append hnodes

/-- The links of the files page, if what is no directory has no children. -/
theorem hrefs_files (links : Links) {c : Catalog} {paths : List String}
    (hpaths : c.files.map (·.importPath) = paths)
    (hleaf : ∀ e ∈ entries [] (outline paths), e.2.isDir = false → e.2.children = []) :
    hrefs (render links (.files c)).toList =
      (navigationUrls c.name ++ fileUrls c.name [] (outline paths)).map escape := by
  have hnodes := linking_nodeLines c.name (outlines_outline paths) hleaf
  have hlist := Linking.wrap (.literal (s := "<ul class=\"tree\">\n") (by decide)) hnodes
    (.literal (s := "</ul>\n") (by decide))
  have hhead := Linking.wrap (.literal (s := "<h1>") (by decide)) (.escape c.name)
    (.literal (s := " source files</h1>\n") (by decide))
  have hbody : Linking (filesBody c) ((fileUrls c.name [] (outline paths)).map escape) := by
    unfold filesBody nodeList
    rw [hpaths]
    exact hhead.append hlist
  rw [List.map_append]
  exact (linking_layout (c.name ++ " files") c.name hbody).hrefs_eq

-- ---------------------------------------------------------------------------
-- The whole outline
-- ---------------------------------------------------------------------------

/-- All groups of siblings, each with the place it is in. -/
def levels (nodes : List Node) : List (List String × List Node) :=
  ([], nodes) :: (entries [] nodes).map fun e => (e.1, e.2.children)

/-- The nodes are the beginnings of paths. -/
structure IsPrefixTree (paths : List (List String)) (nodes : List Node) : Prop where
  once : (places [] nodes).Nodup
  mem_iff : ∀ q, q ∈ places [] nodes ↔ q ≠ [] ∧ ∃ p ∈ paths, q <+: p
  labelled : ∀ q n, (q, n) ∈ entries [] nodes →
    q.getLast? = some n.name ∧ n.path = "/".intercalate q
  siblings : ∀ q ns, (q, ns) ∈ levels nodes →
    (ns.map Node.name).Nodup ∧ ns.map Node.name = firsts (following q paths)

theorem Outlines.placed_top (h : Outlines [] paths (firsts paths) nodes)
    (hmem : (q, n) ∈ entries [] nodes) : Placed [] paths q n := by
  obtain ⟨front, rfl, hplaced⟩ := h.placed (fun _ hx => hx) hmem
  exact hplaced

theorem Outlines.isPrefixTree (h : Outlines [] paths (firsts paths) nodes) :
    IsPrefixTree paths nodes := by
  constructor
  · exact h.nodup_places (nodup_firsts paths)
  · intro q
    constructor
    · intro hq
      obtain ⟨⟨q, n⟩, hn, rfl⟩ := List.mem_map.1 hq
      obtain ⟨r, hr⟩ := (h.placed_top hn).reached
      exact ⟨(h.placed_top hn).front_ne_nil, _, hr, List.prefix_append q r⟩
    · rintro ⟨hne, p, hp, r, rfl⟩
      obtain ⟨name, front, rfl⟩ := List.exists_cons_of_ne_nil hne
      exact h.mem_places (mem_firsts.2 ⟨_, hp⟩) hp
  · intro q n hn
    exact ⟨(h.placed_top hn).name, (h.placed_top hn).path⟩
  · intro q ns hns
    have hnames : ns.map Node.name = firsts (following q paths) := by
      rcases List.mem_cons.1 hns with hns | hns
      · obtain ⟨rfl, rfl⟩ := Prod.mk.inj hns
        rw [following_nil]
        exact h.names_eq
      · obtain ⟨⟨q, n⟩, hn, hns⟩ := List.mem_map.1 hns
        obtain ⟨rfl, rfl⟩ := Prod.mk.inj hns
        exact (h.placed_top hn).children
    rw [hnames]
    exact ⟨nodup_firsts _, rfl⟩

section
variable (h : Outlines [] paths (firsts paths) nodes) (hnone : NoneAbove paths)
include h hnone

/-- A node is a file or a directory, not both. -/
theorem Outlines.file_or_dir (hn : (q, n) ∈ entries [] nodes) :
    (q ∈ paths ∧ n.isDir = false ∧ n.children = []) ∨
      (q ∉ paths ∧ n.isDir = true ∧ n.children ≠ []) := by
  by_cases hfile : q ∈ paths
  · exact .inl ⟨hfile, (h.placed_top hn).of_file hnone hfile⟩
  · exact .inr ⟨hfile, (h.placed_top hn).of_dir hfile⟩

theorem Outlines.children_of_leaf (e : List String × Node) (he : e ∈ entries [] nodes)
    (hdir : e.2.isDir = false) : e.2.children = [] := by
  rcases h.file_or_dir hnone he with ⟨-, -, hchildren⟩ | ⟨-, hn, -⟩
  · exact hchildren
  · rw [hn] at hdir
    cases hdir

theorem Outlines.mem_leaves :
    q ∈ (leaves [] nodes).map (·.1) ↔ q ≠ [] ∧ q ∈ paths := by
  have htree := h.isPrefixTree
  constructor
  · intro hq
    obtain ⟨⟨q, n⟩, hn, rfl⟩ := List.mem_map.1 hq
    obtain ⟨hn, hdir⟩ := List.mem_filter.1 hn
    refine ⟨((htree.mem_iff q).1 (List.mem_map_of_mem hn)).1, ?_⟩
    rcases h.file_or_dir hnone hn with ⟨hfile, -⟩ | ⟨-, hn, -⟩
    · exact hfile
    · simp [hn] at hdir
  · rintro ⟨hne, hq⟩
    obtain ⟨⟨q, n⟩, hn, rfl⟩ := List.mem_map.1 ((htree.mem_iff q).2 ⟨hne, q, hq, List.prefix_rfl⟩)
    refine List.mem_map.2 ⟨(q, n), List.mem_filter.2 ⟨hn, ?_⟩, rfl⟩
    rcases h.file_or_dir hnone hn with ⟨-, hdir, -⟩ | ⟨hdir, -⟩
    · simp [hdir]
    · exact absurd hq hdir

end

/-- The outline has one node for every beginning of a path, named and placed as the components say,
with siblings in the order in which they first come up. If no path leads through the place of
another, the directories are the nodes that have children, the other nodes are the paths, and the
files page links each of these once. -/
theorem outline_tree (paths : List String) :
    IsPrefixTree (paths.map components) (outline paths) ∧
    (NoneAbove (paths.map components) →
      (∀ q n, (q, n) ∈ entries [] (outline paths) → (n.isDir = true ↔ n.children ≠ [])) ∧
      (∀ q, q ∈ (leaves [] (outline paths)).map (·.1) ↔ q ≠ [] ∧ q ∈ paths.map components) ∧
      ∀ (links : Links) (c : Catalog), c.files.map (·.importPath) = paths →
        hrefs (render links (.files c)).toList =
          (navigationUrls c.name ++
            (leaves [] (outline paths)).map fun e => sourceUrl c.name e.2.path).map escape) := by
  have h := outlines_outline paths
  refine ⟨h.isPrefixTree, fun hnone => ⟨fun q n hn => ?_, fun q => h.mem_leaves hnone,
    fun links c hc => hrefs_files links hc (h.children_of_leaf hnone)⟩⟩
  rcases h.file_or_dir hnone hn with ⟨-, hdir, hchildren⟩ | ⟨-, hdir, hchildren⟩
  · simp [hdir, hchildren]
  · simp [hdir, hchildren]

/-- Paths with a repeated separator, separators of both kinds, and a file that comes up twice. -/
def utilPaths : List String :=
  ["main.ql", "util//strings.ql", "util\\deep/more.ql", "util/lists.ql", "main.ql"]

def utilLibrary : Catalog :=
  ⟨plainCard, "std", utilPaths.map fun path => ⟨path, path, []⟩, []⟩

theorem outline_tree_util :
    NoneAbove (utilPaths.map components) ∧
    IsPrefixTree (utilPaths.map components) (outline utilPaths) ∧
    (leaves [] (outline utilPaths)).map (·.1) =
      [["main.ql"], ["util", "strings.ql"], ["util", "deep", "more.ql"], ["util", "lists.ql"]] ∧
    hrefs (render quietLinks (.files utilLibrary)).toList =
      (navigationUrls "demo" ++
        (leaves [] (outline utilPaths)).map fun e => sourceUrl "demo" e.2.path).map escape := by
  have hnone : NoneAbove (utilPaths.map components) := by
    unfold NoneAbove
    decide +kernel
  obtain ⟨htree, hfiles⟩ := outline_tree utilPaths
  exact ⟨hnone, htree, by decide +kernel, (hfiles hnone).2.2 quietLinks utilLibrary rfl⟩

-- ---------------------------------------------------------------------------
-- Paths as they are written
-- ---------------------------------------------------------------------------

/-- A path whose names have one slash between them. -/
structure Tidy (path : String) : Prop where
  names : [] ∉ Text.splitAll (· == '/') path.toList
  slashes : '\\' ∉ path.toList

theorem Tidy.components_eq {path : String} (h : Tidy path) :
    components path = (Text.splitAll (· == '/') path.toList).map String.ofList := by
  have hsplit : Text.splitAll (fun c => c == '/' || c == '\\') path.toList =
      Text.splitAll (· == '/') path.toList := by
    refine Text.splitAll_congr fun c hc => ?_
    have hne : (c == '\\') = false := by
      rw [beq_eq_false_iff_ne]
      rintro rfl
      exact h.slashes hc
    rw [hne, Bool.or_false]
  have hfull : ∀ part ∈ Text.splitAll (· == '/') path.toList, (!part.isEmpty) = true := by
    intro part hpart
    cases part with
    | nil => exact absurd hpart h.names
    | cons c part => rfl
  rw [components, hsplit, List.filter_eq_self.2 hfull]

/-- A tidy path is what its names come to. -/
theorem Tidy.intercalate_components {path : String} (h : Tidy path) :
    "/".intercalate (components path) = path := by
  rw [h.components_eq, ← String.toList_inj, String.toList_intercalate, List.map_map]
  have hparts : (Text.splitAll (· == '/') path.toList).map (String.toList ∘ String.ofList) =
      Text.splitAll (· == '/') path.toList := by
    simp [Function.comp_def]
  rw [hparts]
  exact Text.join_splitAll '/' path.toList

theorem Tidy.components_ne_nil {path : String} (h : Tidy path) : components path ≠ [] := by
  rw [h.components_eq, ne_eq, List.map_eq_nil_iff]
  exact Text.splitAll_ne_nil _

/-- The files page of a library with tidy paths links the page of each of its files, and of no
other one. -/
theorem hrefs_tidy (links : Links) {c : Catalog} (htidy : ∀ f ∈ c.files, Tidy f.importPath)
    (hnone : NoneAbove ((c.files.map (·.importPath)).map components)) :
    ∃ urls, hrefs (render links (.files c)).toList = (navigationUrls c.name ++ urls).map escape ∧
      ∀ url, url ∈ urls ↔ ∃ f ∈ c.files, url = sourceUrl c.name f.importPath := by
  have h := outlines_outline (c.files.map (·.importPath))
  refine ⟨_, hrefs_files links rfl (h.children_of_leaf hnone), fun url => ?_⟩
  have hpath : ∀ e ∈ leaves [] (outline (c.files.map (·.importPath))),
      e.2.path = "/".intercalate e.1 :=
    fun e he => (h.isPrefixTree.labelled e.1 e.2 (List.mem_filter.1 he).1).2
  constructor
  · intro hurl
    obtain ⟨e, he, rfl⟩ := List.mem_map.1 hurl
    obtain ⟨-, hfile⟩ := (h.mem_leaves hnone).1 (List.mem_map_of_mem he)
    rw [List.map_map] at hfile
    obtain ⟨f, hf, hcomponents⟩ := List.mem_map.1 hfile
    refine ⟨f, hf, ?_⟩
    rw [hpath e he, ← hcomponents, Function.comp_apply, (htidy f hf).intercalate_components]
  · rintro ⟨f, hf, rfl⟩
    have hmem : components f.importPath ∈ (c.files.map (·.importPath)).map components :=
      List.mem_map_of_mem (List.mem_map_of_mem hf)
    obtain ⟨e, he, hplace⟩ := List.mem_map.1
      ((h.mem_leaves hnone).2 ⟨(htidy f hf).components_ne_nil, hmem⟩)
    refine List.mem_map.2 ⟨e, he, ?_⟩
    rw [hpath e he, hplace, (htidy f hf).intercalate_components]

end DocSite.Page
