import Mathlib.Data.Set.Card
import Sitemaps.Proofs.Growth
import Sitemaps.Proofs.Ledger

/-!
The figures of a database file against its history. Each of them is counted by a query of its own,
and still they agree: the rows are the URLs that entries came in about, each once, and the rows of
the roots are a partition of them.
-/

namespace Sitemaps

open Operation

theorem encard_listed {α : Type} {xs : List α} {s : Set α} (distinct : xs.Nodup)
    (listed : ∀ x, x ∈ s ↔ x ∈ xs) : s.encard = xs.length := by
  classical
  have same : s = (xs.toFinset : Set α) := by
    ext x
    simp [listed]
  rw [same, Set.encard_coe_eq_coe_finsetCard, List.toFinset_card_of_nodup distinct]

namespace Tables

section Counts

variable {root other : String} {counts : List (String × Nat)}

theorem mem_countRoot :
    other ∈ (countRoot root counts).map Prod.fst ↔
      other = root ∨ other ∈ counts.map Prod.fst := by
  induction counts with
  | nil => simp [countRoot]
  | cons share rest ih =>
    unfold countRoot
    split
    · rename_i same
      simp [same]
    · rw [List.map_cons, List.mem_cons, ih, List.map_cons, List.mem_cons]
      exact or_left_comm

theorem countRoot_nodup (distinct : (counts.map Prod.fst).Nodup) :
    ((countRoot root counts).map Prod.fst).Nodup := by
  induction counts with
  | nil => simp [countRoot]
  | cons share rest ih =>
    obtain ⟨new, distinct⟩ := List.nodup_cons.mp distinct
    unfold countRoot
    split
    · exact List.nodup_cons.mpr ⟨new, distinct⟩
    · rename_i apart
      refine List.nodup_cons.mpr ⟨fun member => ?_, ih distinct⟩
      rcases mem_countRoot.mp member with same | known
      · exact apart same
      · exact new known

/-- The count of one root goes up, the others stay. -/
theorem of_mem_countRoot {share : String × Nat} (distinct : (counts.map Prod.fst).Nodup)
    (member : share ∈ countRoot root counts) :
    share.1 ≠ root ∧ share ∈ counts ∨
      share.1 = root ∧ (root ∉ counts.map Prod.fst ∧ share.2 = 1 ∨
        ∃ before, (root, before) ∈ counts ∧ share.2 = before + 1) := by
  induction counts with
  | nil =>
    rw [List.mem_singleton.mp member]
    exact Or.inr ⟨rfl, Or.inl ⟨List.not_mem_nil, rfl⟩⟩
  | cons first rest ih =>
    obtain ⟨new, distinct⟩ := List.nodup_cons.mp distinct
    unfold countRoot at member
    split at member
    · rename_i same
      rcases List.mem_cons.mp member with rfl | later
      · exact Or.inr ⟨same, Or.inr ⟨first.2, by rw [← same]; exact List.mem_cons_self, rfl⟩⟩
      · refine Or.inl ⟨fun own => new ?_, List.mem_cons_of_mem _ later⟩
        rw [same, ← own]
        exact List.mem_map_of_mem later
    · rename_i apart
      rcases List.mem_cons.mp member with rfl | later
      · exact Or.inl ⟨apart, List.mem_cons_self⟩
      · rcases ih distinct later with ⟨other, known⟩ | ⟨own, ⟨absent, one⟩ | ⟨before, known, more⟩⟩
        · exact Or.inl ⟨other, List.mem_cons_of_mem _ known⟩
        · refine Or.inr ⟨own, Or.inl ⟨fun listed => ?_, one⟩⟩
          rcases List.mem_cons.mp listed with same | listed
          · exact apart same.symm
          · exact absent listed
        · exact Or.inr ⟨own, Or.inr ⟨before, List.mem_cons_of_mem _ known, more⟩⟩

theorem sum_countRoot :
    ((countRoot root counts).map Prod.snd).sum = (counts.map Prod.snd).sum + 1 := by
  induction counts with
  | nil => rfl
  | cons share rest ih =>
    unfold countRoot
    split
    · simp only [List.map_cons, List.sum_cons]
      omega
    · simp only [List.map_cons, List.sum_cons, ih]
      omega

end Counts

structure Counted (seen : List String) (counts : List (String × Nat)) : Prop where
  roots : (counts.map Prod.fst).Nodup
  listed : ∀ root, root ∈ counts.map Prod.fst ↔ root ∈ seen
  count : ∀ share ∈ counts, share.2 = seen.count share.1
  total : (counts.map Prod.snd).sum = seen.length

namespace Counted

variable {seen : List String} {counts : List (String × Nat)}

theorem step (counted : Counted seen counts) (root : String) :
    Counted (seen ++ [root]) (countRoot root counts) where
  roots := countRoot_nodup counted.roots
  listed other := by
    rw [mem_countRoot, counted.listed, List.mem_append, List.mem_singleton]
    exact or_comm
  count share member := by
    rw [List.count_append]
    rcases of_mem_countRoot counted.roots member with
      ⟨apart, known⟩ | ⟨rfl, ⟨absent, one⟩ | ⟨before, known, more⟩⟩
    · rw [counted.count share known, List.count_singleton, beq_false_of_ne (Ne.symm apart)]
      rfl
    · rw [counted.listed] at absent
      rw [List.count_eq_zero_of_not_mem absent, one, List.count_singleton_self]
    · rw [more, List.count_singleton_self, ← counted.count _ known]
  total := by
    rw [sum_countRoot, counted.total, List.length_append, List.length_singleton]

theorem fold (counted : Counted seen counts) (pages : List Page) :
    Counted (seen ++ pages.map Page.root)
      (pages.foldl (fun counts page => countRoot page.root counts) counts) := by
  induction pages generalizing seen counts with
  | nil => simpa using counted
  | cons page pages ih =>
    rw [List.map_cons, List.append_cons, List.foldl_cons]
    exact ih (counted.step page.root)

theorem perm {others : List (String × Nat)} (counted : Counted seen counts)
    (same : others.Perm counts) : Counted seen others where
  roots := (same.map _).nodup_iff.mpr counted.roots
  listed root := (same.map _).mem_iff.trans (counted.listed root)
  count share member := counted.count share (same.mem_iff.mp member)
  total := (same.map _).sum_nat.trans counted.total

end Counted

theorem precedes_iff {a b : String × Nat} :
    precedes a b = true ↔ b.2 < a.2 ∨ a.2 = b.2 ∧ a.1 ≤ b.1 := by
  simp [precedes]

theorem precedes_trans (a b c : String × Nat) (first : precedes a b = true)
    (second : precedes b c = true) : precedes a c = true := by
  rw [precedes_iff] at first second ⊢
  rcases first with more | ⟨same, before⟩
  · left
    omega
  · rcases second with more | ⟨also, after⟩
    · left
      omega
    · exact Or.inr ⟨same.trans also, String.le_trans before after⟩

theorem precedes_total (a b : String × Nat) : (precedes a b || precedes b a) = true := by
  rw [Bool.or_eq_true, precedes_iff, precedes_iff]
  rcases String.le_total a.1 b.1 with before | after <;> grind

theorem pagesByRoot_counted (tables : Tables) :
    Counted (tables.pages.map Page.root) tables.pagesByRoot := by
  have none : Counted [] [] := ⟨.nil, fun _ => .rfl, nofun, rfl⟩
  exact (none.fold tables.pages).perm (List.mergeSort_perm _ _)

theorem pagesByRoot_ordered (tables : Tables) :
    tables.pagesByRoot.Pairwise fun a b => b.2 < a.2 ∨ a.2 = b.2 ∧ a.1 < b.1 := by
  have sorted : tables.pagesByRoot.Pairwise fun a b => precedes a b = true :=
    List.pairwise_mergeSort precedes_trans precedes_total _
  have apart := List.pairwise_map.mp tables.pagesByRoot_counted.roots
  refine (sorted.and apart).imp fun {a b} both => ?_
  rcases precedes_iff.mp both.1 with more | ⟨same, before⟩
  · exact Or.inl more
  · exact Or.inr ⟨same, Std.lt_of_le_of_ne before both.2⟩

theorem insertPage_nodup {page : Page} {pages : List Page}
    (distinct : (pages.map Page.url).Nodup) : ((insertPage page pages).map Page.url).Nodup := by
  induction pages with
  | nil => simp [insertPage]
  | cons first rest ih =>
    obtain ⟨new, distinct⟩ := List.nodup_cons.mp distinct
    unfold insertPage
    split
    · rename_i same
      rw [same] at new
      exact List.nodup_cons.mpr ⟨new, distinct⟩
    · rename_i apart
      refine List.nodup_cons.mpr ⟨fun member => ?_, ih distinct⟩
      rcases mem_insertPage.mp member with same | known
      · exact apart same
      · exact new known

theorem page?_member {tables : Tables} (distinct : (tables.pages.map Page.url).Nodup) {page : Page}
    (member : page ∈ tables.pages) : tables.page? page.url = some page := by
  unfold page?
  cases found : tables.pages.find? (·.url == page.url) with
  | none => simpa using List.find?_eq_none.mp found page member
  | some other =>
    have same : other.url = page.url := by simpa using List.find?_some found
    rw [List.inj_on_of_nodup_map distinct (List.mem_of_find?_eq_some found) member same]

end Tables

/-- The figures that follow from the operations that counted. -/
structure Statistics.Tells (statistics : Statistics) (done : List Operation) : Prop where
  pages : {url | ∃ op ∈ done, op.About url}.encard = statistics.pages
  dated : {url | ∃ entry, latest? url done = some entry ∧ entry.lastModified.isSome}.encard =
    statistics.withLastModified
  resolved : {root | Marks root done}.encard = statistics.resolvedRoots
  roots : (statistics.byRoot.map Prod.fst).Nodup
  listed : ∀ root, root ∈ statistics.byRoot.map Prod.fst ↔
    ∃ url, (∃ op ∈ done, op.About url) ∧ rootText url = root
  count : ∀ share ∈ statistics.byRoot, 1 ≤ share.2 ∧
    {url | (∃ op ∈ done, op.About url) ∧ rootText url = share.1}.encard = share.2
  ordered : statistics.byRoot.Pairwise fun a b =>
    b.2 < a.2 ∨ a.2 = b.2 ∧ Text.Utf8.encode a.1 < Text.Utf8.encode b.1
  total : (statistics.byRoot.map Prod.snd).sum = statistics.pages

namespace Database

variable {tables : Tables} {done : List Operation}

theorem operate_nodup {database : Database} (op : Operation)
    (file : database.medium = .file) (distinct : (database.tables.pages.map Page.url).Nodup) :
    ((database.operate op).tables.pages.map Page.url).Nodup := by
  cases opened : database.isOpen with
  | false =>
    by_cases again : op = .reopen
    · subst again
      simpa [operate, reopen, file] using distinct
    · rwa [(refuses opened).still op again]
  | true =>
    cases op with
    | upsert entry =>
      simp only [operate, Database.upsert, update, opened, if_true, Except.toOption,
        Option.getD_some]
      exact Tables.insertPage_nodup distinct
    | accept entry =>
      simp only [operate, Database.accept, Database.upsert, update, opened, if_true]
      exact Tables.insertPage_nodup distinct
    | mark root =>
      simp only [operate, markResolved, update, opened, if_true, Except.toOption, Option.getD_some]
      exact distinct
    | clear =>
      simp only [operate, clearResolved, update, opened, if_true, Except.map, Except.toOption,
        Option.map_some, Option.getD_some]
      exact distinct
    | close => exact distinct
    | reopen => simpa [operate, reopen, file] using distinct

theorem operateAll_nodup (history : List Operation) :
    (((create .file).operateAll history).tables.pages.map Page.url).Nodup := by
  induction history using List.reverseRecOn with
  | nil => exact .nil
  | append_singleton history op ih =>
    rw [operateAll_append]
    exact operate_nodup op (kept history).medium ih

theorem Holds.listed (holds : Holds tables done) (url : String) :
    url ∈ tables.pages.map Page.url ↔ ∃ op ∈ done, op.About url := by
  have found : url ∈ tables.pages.map Page.url ↔ tables.page? url ≠ none := by
    simp [Tables.page?]
  rw [found, holds.pages, ne_eq, Option.map_eq_none_iff, latest?_none]
  simp

theorem Holds.row (holds : Holds tables done) (distinct : (tables.pages.map Page.url).Nodup)
    {page : Page} (member : page ∈ tables.pages) :
    ∃ entry, latest? page.url done = some entry ∧ Page.ofEntry entry = page := by
  have here := holds.pages page.url
  rw [Tables.page?_member distinct member] at here
  exact Option.map_eq_some_iff.mp here.symm

theorem Holds.rooted (holds : Holds tables done) (distinct : (tables.pages.map Page.url).Nodup)
    {page : Page} (member : page ∈ tables.pages) : page.root = rootText page.url := by
  obtain ⟨entry, -, rfl⟩ := holds.row distinct member
  simp only [Page.ofEntry]

theorem Holds.encard (holds : Holds tables done) (distinct : (tables.pages.map Page.url).Nodup)
    (urls : Set String) (kind : Page → Bool)
    (same : ∀ page ∈ tables.pages, page.url ∈ urls ↔ kind page = true)
    (within : ∀ url ∈ urls, ∃ op ∈ done, op.About url) :
    urls.encard = tables.pages.countP kind := by
  have once : ((tables.pages.filter kind).map Page.url).Nodup :=
    distinct.sublist (List.filter_sublist.map _)
  rw [List.countP_eq_length_filter, ← List.length_map Page.url]
  refine encard_listed once fun url => ?_
  rw [List.mem_map]
  constructor
  · intro member
    obtain ⟨page, row, rfl⟩ := List.mem_map.mp ((holds.listed url).mpr (within url member))
    exact ⟨page, List.mem_filter.mpr ⟨row, (same page row).mp member⟩, rfl⟩
  · rintro ⟨page, row, rfl⟩
    obtain ⟨row, kept⟩ := List.mem_filter.mp row
    exact (same page row).mpr kept

theorem Holds.tells (holds : Holds tables done) (distinct : (tables.pages.map Page.url).Nodup) :
    tables.statistics.Tells done := by
  have counted := tables.pagesByRoot_counted
  have row (page : Page) (member : page ∈ tables.pages) : ∃ op ∈ done, op.About page.url :=
    (holds.listed page.url).mp (List.mem_map_of_mem member)
  refine ⟨?_, ?_, ?_, counted.roots, fun root => ?_, fun share member => ⟨?_, ?_⟩, ?_, ?_⟩
  · have whole := holds.encard distinct {url | ∃ op ∈ done, op.About url}
      (fun _ => true) (fun page member => by simpa using row page member) fun _ => id
    rw [whole, List.countP_true]
    rfl
  · refine holds.encard distinct _ _ (fun page member => ?_) fun url dated => ?_
    · obtain ⟨entry, latest, written⟩ := holds.row distinct member
      rw [Set.mem_ofPred_eq, latest]
      simp [← written, Page.ofEntry]
    · obtain ⟨entry, latest, -⟩ := dated
      by_contra silent
      rw [latest?_none.mpr (by simpa using silent)] at latest
      cases latest
  · have once : (tables.roots.map Root.mk).Nodup :=
      holds.sorted.imp String.ne_of_lt |>.map _ fun _ _ apart same => apart (Root.mk.inj same)
    have marked : ∀ root, root ∈ {root | Marks root done} ↔ root ∈ tables.roots.map Root.mk := by
      intro root
      rw [Set.mem_ofPred_eq, ← holds.roots, List.mem_map]
      constructor
      · exact fun member => ⟨root.text, member, rfl⟩
      · rintro ⟨text, member, rfl⟩
        exact member
    rw [encard_listed once marked, List.length_map]
    rfl
  · change root ∈ tables.pagesByRoot.map Prod.fst ↔ _
    rw [counted.listed, List.mem_map]
    constructor
    · rintro ⟨page, member, rfl⟩
      exact ⟨page.url, row page member, (holds.rooted distinct member).symm⟩
    · rintro ⟨url, brought, rfl⟩
      obtain ⟨page, member, rfl⟩ := List.mem_map.mp ((holds.listed url).mpr brought)
      exact ⟨page, member, holds.rooted distinct member⟩
  · have seen := (counted.listed share.1).mp (List.mem_map_of_mem member)
    rw [counted.count share member]
    exact List.count_pos_iff.mpr seen
  · rw [counted.count share member, List.count, List.countP_map]
    refine holds.encard distinct _ _ (fun page listed => ?_) fun _ => And.left
    have rooted := holds.rooted distinct listed
    simp [row page listed, rooted]
  · exact tables.pagesByRoot_ordered.imp fun order =>
      order.imp_right fun both => ⟨both.1, Text.Utf8.encode_lt both.2⟩
  · exact counted.total.trans (List.length_map _)

theorem statistics_open {database : Database} (opened : database.isOpen = true) :
    database.statistics = .ok database.tables.statistics := if_pos opened

/-- After any history that leaves a database file open, its figures are those of the operations that
found it open. -/
theorem statistics_consistent (history : List Operation) (opened : openAfter true history = true) :
    ∃ statistics, ((create .file).operateAll history).statistics = .ok statistics ∧
      statistics.Tells (heeded true history) := by
  obtain ⟨-, isOpen, holds⟩ := kept history
  exact ⟨_, statistics_open (isOpen.trans opened), holds.tells (operateAll_nodup history)⟩

def revised : List Operation :=
  [.upsert ⟨"http://[::1]/", some ⟨0, 0⟩, none, none⟩, .accept ⟨"page", none, none, none⟩,
    .accept ⟨"http://[::2]/p", none, none, none⟩, .mark ⟨"http://[::1]"⟩, .clear,
    .upsert ⟨"http://[::1]/", none, none, none⟩, .mark ⟨"http://[::2]"⟩, .close,
    .accept ⟨"http://[::3]/", none, none, none⟩, .reopen,
    .accept ⟨"http://[::2]/q", some ⟨0, 0⟩, none, none⟩]

theorem statistics_consistent_revised :
    let now := (create .file).operateAll revised
    openAfter true revised = true ∧ ∃ statistics, now.statistics = .ok statistics ∧
      statistics.Tells (heeded true revised) ∧
      statistics = ⟨1, 4, 1, [("http://[::2]", 2), ("", 1), ("http://[::1]", 1)]⟩ := by
  intro now
  have opened : openAfter true revised = true := rfl
  obtain ⟨statistics, told, tells⟩ := statistics_consistent revised opened
  have shown : now.statistics = .ok now.tables.statistics := statistics_open rfl
  have counted : now.tables.pages.foldl (fun counts page => Tables.countRoot page.root counts) [] =
      [("http://[::1]", 1), ("", 1), ("http://[::2]", 2)] := by decide +kernel
  have ordered : now.tables.pagesByRoot =
      [("http://[::2]", 2), ("", 1), ("http://[::1]", 1)] := by
    rw [Tables.pagesByRoot, counted]
    simp [List.mergeSort, Tables.precedes, List.MergeSort.Internal.splitInTwo]
  refine ⟨opened, statistics, told, tells, ?_⟩
  rw [shown] at told
  rw [← Except.ok.inj told, Tables.statistics, ordered]
  congr 1

end Database

end Sitemaps
