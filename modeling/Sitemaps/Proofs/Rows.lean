import Sitemaps.Proofs.Growth

/-!
What entries leave in a table of pages. A page keeps the place and the root it came in with and
takes the rest from the last entry about it, so entries that are handed over anew change nothing in
the end, and the order of entries about different pages only shows in the order of the rows.
-/

namespace Sitemaps

def Page.touch (page : Page) (news : List Page) : Page :=
  news.foldl (fun known page => { page with root := known.root }) page

theorem Page.touch_last (page : Page) (news : List Page) : page.touch news =
    match news.getLast? with
    | none => page
    | some last => { last with root := page.root } := by
  induction news generalizing page with
  | nil => rfl
  | cons first rest ih =>
    have next : page.touch (first :: rest) = Page.touch { first with root := page.root } rest := rfl
    rw [next, ih, List.getLast?_cons]
    cases rest.getLast? <;> rfl

theorem Page.touch_append (page : Page) (before after : List Page) (more : after ≠ []) :
    page.touch (before ++ after) = page.touch after := by
  rw [touch_last, touch_last, List.getLast?_append, List.getLast?_eq_some_getLast more,
    Option.some_or]

theorem Page.touch_again (page : Page) (before after : List Page) :
    page.touch (before ++ page :: (before ++ after)) = page.touch (before ++ after) := by
  by_cases last : before ++ after = []
  · obtain ⟨rfl, rfl⟩ := List.append_eq_nil_iff.mp last
    rfl
  · have again : before ++ page :: (before ++ after) = (before ++ [page]) ++ (before ++ after) := by
      simp
    rw [again, touch_append page _ _ last]

namespace Tables

def insertPages (pages news : List Page) : List Page :=
  news.foldl (fun pages page => insertPage page pages) pages

def about (url : String) (pages : List Page) : List Page := pages.filter (·.url == url)

def besides (url : String) (pages : List Page) : List Page := pages.filter (·.url != url)

section Filters

variable (url other : String) (first second : List Page)

theorem about_append : about url (first ++ second) = about url first ++ about url second :=
  List.filter_append ..

theorem besides_append :
    besides url (first ++ second) = besides url first ++ besides url second :=
  List.filter_append ..

theorem besides_length : (besides url first).length ≤ first.length := List.length_filter_le ..

theorem about_besides (apart : url ≠ other) :
    about url (besides other first) = about url first := by
  unfold about besides
  rw [List.filter_filter]
  refine List.filter_congr fun page _ => ?_
  by_cases here : page.url = url
  · simp [here, apart]
  · simp [here]

theorem about_besides_self : about url (besides url first) = [] := by
  unfold about besides
  rw [List.filter_filter, List.filter_eq_nil_iff]
  simp

theorem besides_comm : besides url (besides other first) = besides other (besides url first) := by
  unfold besides
  rw [List.filter_filter, List.filter_filter]
  exact List.filter_congr fun page _ => Bool.and_comm ..

end Filters

theorem insertPages_cons (first : Page) (rest news : List Page) :
    insertPages (first :: rest) news =
      first.touch (about first.url news) :: insertPages rest (besides first.url news) := by
  induction news generalizing first rest with
  | nil => rfl
  | cons page news ih =>
    have next : insertPages (first :: rest) (page :: news) =
        insertPages (insertPage page (first :: rest)) news := rfl
    rw [next, insertPage]
    split
    · rename_i same
      rw [ih]
      simp [about, besides, same, Page.touch]
    · rename_i apart
      rw [ih]
      simp [about, besides, Ne.symm apart, insertPages]

theorem insertPages_nil (page : Page) (news : List Page) :
    insertPages [] (page :: news) =
      page.touch (about page.url news) :: insertPages [] (besides page.url news) :=
  insertPages_cons page [] news

theorem insertPages_append (pages first second : List Page) :
    insertPages pages (first ++ second) = insertPages (insertPages pages first) second :=
  List.foldl_append

theorem insertPages_nil_replay (first second : List Page) :
    insertPages [] (first ++ (first ++ second)) = insertPages [] (first ++ second) := by
  induction size : first.length using Nat.strongRecOn generalizing first second with
  | ind count ih =>
    cases first with
    | nil => rfl
    | cons page more =>
      have again : about page.url (page :: (more ++ second)) =
          page :: about page.url (more ++ second) := by simp [about]
      have gone : besides page.url (page :: (more ++ second)) =
          besides page.url (more ++ second) := by simp [besides]
      have shorter : (besides page.url more).length < count := by
        have fewer := besides_length page.url more
        simp only [List.length_cons] at size
        omega
      rw [List.cons_append, List.cons_append, insertPages_nil, insertPages_nil]
      congr 1
      · rw [about_append, again, about_append]
        exact page.touch_again _ _
      · rw [besides_append, gone, besides_append]
        exact ih _ shorter _ _ rfl

/-- Pages that come in again from the first on, and further, leave the same table. -/
theorem insertPages_replay (pages first second : List Page) :
    insertPages (insertPages pages first) (first ++ second) =
      insertPages pages (first ++ second) := by
  rw [← insertPages_append]
  induction pages generalizing first second with
  | nil => exact insertPages_nil_replay first second
  | cons page rest ih =>
    rw [insertPages_cons, insertPages_cons]
    simp only [about_append, besides_append]
    congr 1
    · by_cases last : about page.url first ++ about page.url second = []
      · obtain ⟨none, nothing⟩ := List.append_eq_nil_iff.mp last
        rw [none, nothing]
        rfl
      · exact page.touch_append _ _ last
    · exact ih _ _

theorem insertPages_nil_perm {page : Page} {news more : List Page}
    (found : about page.url news = page :: more) :
    (insertPages [] news).Perm (page.touch more :: insertPages [] (besides page.url news)) := by
  induction size : news.length using Nat.strongRecOn generalizing news with
  | ind count ih =>
    cases news with
    | nil => cases found
    | cons first rest =>
      rw [insertPages_nil]
      by_cases here : first.url = page.url
      · have same : about page.url (first :: rest) = first :: about page.url rest := by
          simp [about, here]
        have gone : besides page.url (first :: rest) = besides page.url rest := by
          simp [besides, here]
        rw [same] at found
        cases found
        rw [gone]
      · have passed : about page.url (first :: rest) = about page.url rest := by
          simp [about, here]
        have kept : besides page.url (first :: rest) = first :: besides page.url rest := by
          simp [besides, here]
        have left : about page.url (besides first.url rest) = page :: more := by
          rw [about_besides _ _ _ (Ne.symm here), ← passed, found]
        have shorter : (besides first.url rest).length < count := by
          have fewer := besides_length first.url rest
          simp only [List.length_cons] at size
          omega
        rw [kept, insertPages_nil, about_besides _ _ _ here, besides_comm]
        exact ((ih _ shorter left rfl).cons _).trans (.swap ..)

theorem insertPages_perm {pages first second : List Page}
    (same : ∀ url, about url first = about url second) :
    (insertPages pages first).Perm (insertPages pages second) := by
  induction pages generalizing first second with
  | cons page rest ih =>
    rw [insertPages_cons, insertPages_cons, same]
    refine (ih fun url => ?_).cons _
    by_cases here : url = page.url
    · rw [here, about_besides_self, about_besides_self]
    · rw [about_besides _ _ _ here, about_besides _ _ _ here, same]
  | nil =>
    induction size : first.length using Nat.strongRecOn generalizing first second with
    | ind count ih =>
      cases first with
      | nil =>
        have nothing : second = [] := by
          cases second with
          | nil => rfl
          | cons page more => simpa [about] using (same page.url).symm
        rw [nothing]
      | cons page rest =>
        have found : about page.url second = page :: about page.url rest := by
          rw [← same]
          simp [about]
        have shorter : (besides page.url rest).length < count := by
          have fewer := besides_length page.url rest
          simp only [List.length_cons] at size
          omega
        rw [insertPages_nil]
        refine (List.Perm.cons _ (ih _ shorter (fun url => ?_) rfl)).trans
          (insertPages_nil_perm found).symm
        by_cases here : url = page.url
        · rw [here, about_besides_self, about_besides_self]
        · rw [about_besides _ _ _ here, about_besides _ _ _ here, ← same]
          simp [about, Ne.symm here]

theorem mem_insertPages {pages news : List Page} {url : String} :
    url ∈ (insertPages pages news).map Page.url ↔
      url ∈ pages.map Page.url ∨ url ∈ news.map Page.url := by
  induction news generalizing pages with
  | nil => simp [insertPages]
  | cons page news ih =>
    have next : insertPages pages (page :: news) = insertPages (insertPage page pages) news := rfl
    rw [next, ih, mem_insertPage, List.map_cons, List.mem_cons]
    exact or_assoc.trans or_left_comm

def upsertAll (tables : Tables) (entries : List Sitemap.Entry) : Tables :=
  entries.foldl upsert tables

section Upserts

variable (tables : Tables) (first second : List Sitemap.Entry)

theorem upsertAll_append :
    tables.upsertAll (first ++ second) = (tables.upsertAll first).upsertAll second :=
  List.foldl_append

theorem upsertAll_eq : tables.upsertAll first =
    ⟨tables.roots, insertPages tables.pages (first.map Page.ofEntry)⟩ := by
  induction first generalizing tables with
  | nil => rfl
  | cons entry rest ih => exact ih (tables.upsert entry)

theorem upsertAll_roots : (tables.upsertAll first).roots = tables.roots := by
  rw [upsertAll_eq]

theorem upsertAll_replay :
    (tables.upsertAll first).upsertAll (first ++ second) = tables.upsertAll (first ++ second) := by
  simp only [upsertAll_eq, List.map_append, insertPages_replay]

end Upserts

end Tables

end Sitemaps
