import DocSite.Proofs.Page.Markup

/-!
# Links of pages

The links of a text are read off it from left to right. Escaped texts have none, so the links of a
page are those that its parts are made with, one part after the other (`Linking`).
-/

namespace DocSite.Page

-- ---------------------------------------------------------------------------
-- Reading links
-- ---------------------------------------------------------------------------

/-- Where the links in a text lead, as it is written. -/
def hrefs : List Char → List String
  | [] => []
  | c :: s =>
    match Text.after? "<a href=\"".toList (c :: s) with
    | some rest => String.ofList (rest.takeWhile (· != '\x22')) :: hrefs s
    | none => hrefs s

/-- Whether no link can begin in a text, whatever comes after it. -/
def linkless : List Char → Bool
  | [] => true
  | [c] => c != '<'
  | c :: d :: s => (c != '<' || d != 'a') && linkless (d :: s)

theorem linkTag_eq : "<a href=\"".toList = '<' :: 'a' :: " href=\"".toList := by decide

theorem hrefs_cons_of_ne (h : c ≠ '<') (s : List Char) : hrefs (c :: s) = hrefs s := by
  have hnone : Text.after? "<a href=\"".toList (c :: s) = none := by
    simp [Text.after?, linkTag_eq, h.symm]
  rw [hrefs, hnone]

theorem hrefs_cons_cons_of_ne (h : d ≠ 'a') (c : Char) (s : List Char) :
    hrefs (c :: d :: s) = hrefs (d :: s) := by
  have hnone : Text.after? "<a href=\"".toList (c :: d :: s) = none := by
    simp [Text.after?, linkTag_eq, h.symm]
  rw [hrefs, hnone]

theorem hrefs_append_of_linkless (h : linkless s = true) (rest : List Char) :
    hrefs (s ++ rest) = hrefs rest := by
  fun_induction linkless s with
  | case1 => rfl
  | case2 c => exact hrefs_cons_of_ne (by simpa using h) rest
  | case3 c d s ih =>
    obtain ⟨hcd, hs⟩ := Bool.and_eq_true_iff.1 h
    rw [← ih hs]
    by_cases hc : c = '<'
    · have hd : d ≠ 'a' := by simpa [hc] using hcd
      exact hrefs_cons_cons_of_ne hd c _
    · exact hrefs_cons_of_ne hc _

theorem linkless_of_not_mem (h : '<' ∉ s) : linkless s = true := by
  fun_induction linkless s with
  | case1 => rfl
  | case2 c => simpa using Ne.symm (by simpa using h)
  | case3 c d s ih =>
    obtain ⟨hc, hs⟩ := List.ne_and_not_mem_of_not_mem_cons h
    simp [Ne.symm hc, ih hs]

/-- A link leads to what stands before the next quote. -/
theorem hrefs_linkTag (s : List Char) :
    hrefs ("<a href=\"".toList ++ s) = String.ofList (s.takeWhile (· != '\x22')) :: hrefs s := by
  have hafter : Text.after? "<a href=\"".toList ("<a href=\"".toList ++ s) = some s := by
    simp [Text.after?]
  have hrest : hrefs ('a' :: " href=\"".toList ++ s) = hrefs s :=
    hrefs_append_of_linkless (by decide) s
  rw [linkTag_eq, List.cons_append] at hafter ⊢
  rw [hrefs, linkTag_eq, hafter]
  exact congrArg (String.ofList (s.takeWhile (· != '\x22')) :: ·) hrest

-- ---------------------------------------------------------------------------
-- Links of parts
-- ---------------------------------------------------------------------------

/-- A text has the given links, whatever it stands in front of. -/
def Linking (s : String) (urls : List String) : Prop :=
  ∀ rest, hrefs (s.toList ++ rest) = urls ++ hrefs rest

namespace Linking

theorem hrefs_eq (h : Linking s urls) : hrefs s.toList = urls := by
  simpa [hrefs] using h []

theorem append (h : Linking a urls) (h' : Linking b urls') : Linking (a ++ b) (urls ++ urls') := by
  intro rest
  rw [String.toList_append, List.append_assoc, h, h', List.append_assoc]

theorem wrap (hfront : Linking front []) (h : Linking s urls) (hback : Linking back []) :
    Linking (front ++ s ++ back) urls := by
  simpa using (hfront.append h).append hback

theorem literal (h : linkless s.toList = true) : Linking s [] := hrefs_append_of_linkless h

theorem escape (s : String) : Linking (escape s) [] := by
  refine literal (linkless_of_not_mem fun h => ?_)
  cases not_markup_of_mem_escape h

theorem anchorTag (url : String) (h : Linking markup urls) :
    Linking (anchorTag url markup) (Page.escape url :: urls) := by
  intro rest
  have hquote : ∀ c ∈ (Page.escape url).toList, (c != '\x22') = true := by
    intro c hc
    have hmarkup := not_markup_of_mem_escape hc
    simp only [isMarkup, Bool.or_eq_false_iff] at hmarkup
    simp [bne, hmarkup.2]
  -- the value of the attribute ends at the quote after it
  have hvalue : ∀ s, ((Page.escape url).toList ++ ("\">".toList ++ s)).takeWhile (· != '\x22') =
      (Page.escape url).toList := by
    intro s
    rw [List.takeWhile_append_of_pos hquote]
    exact List.append_nil _
  have hinner := (((escape url).append (literal (s := "\">") (by decide))).append h).append
    (literal (s := "</a>") (by decide)) rest
  simp only [String.toList_append, List.append_assoc, List.nil_append, List.append_nil] at hinner
  simp only [Page.anchorTag, String.toList_append, List.append_assoc]
  rw [hrefs_linkTag, hvalue, hinner, String.ofList_toList, List.cons_append]

end Linking

-- ---------------------------------------------------------------------------
-- The frame
-- ---------------------------------------------------------------------------

/-- Where the navigation of a library's pages leads. -/
def navigationUrls (library : String) : List String :=
  ["/index.html", libraryUrl library, libraryUrl library ++ "files.html"]

theorem linking_navigation (library : String) :
    Linking (navigation (some library)) ((navigationUrls library).map escape) := by
  have hall := (Linking.literal (s := "<nav>") (by decide)).append
    (.anchorTag "/index.html" (.literal (s := "All libraries") (by decide)))
  have hbar : Linking " | " [] := .literal (by decide)
  have hlibrary := hbar.append (.anchorTag (libraryUrl library) (.escape library))
  have hfiles := Linking.anchorTag (libraryUrl library ++ "files.html")
    (.literal (s := "Files") (by decide))
  have hlinks := (hall.append ((hlibrary.append hbar).append hfiles)).append
    (.literal (s := "</nav>\n") (by decide))
  unfold navigation
  exact hlinks

theorem linking_layout (title library : String) (h : Linking body urls) :
    Linking (layout title (some library) "" body)
      ((navigationUrls library).map escape ++ urls) := by
  have hhead := Linking.wrap (.literal
      (s := "<!DOCTYPE html>\n<html>\n<head>\n<meta charset=\"utf-8\">\n<title>") (by decide))
    (.escape title)
    (.literal (s := "</title>\n<link rel=\"stylesheet\" href=\"/style.css\">\n") (by decide))
  have htop := (hhead.append (.literal (s := "") (by decide))).append
    (.literal (s := "</head>\n<body>\n") (by decide))
  have hpage := ((htop.append (linking_navigation library)).append h).append
    (.literal (s := "</body>\n</html>\n") (by decide))
  simp only [List.nil_append, List.append_nil] at hpage
  unfold layout
  exact hpage

end DocSite.Page
