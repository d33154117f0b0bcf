import Mathlib.Data.List.Induction
import Sitemaps.Proofs.Encoding
import Sitemaps.Proofs.Records
import Sitemaps.Proofs.Widening
import Sitemaps.Record.Statistics

/-!
A database file as a keyed map. Of all operations only those count that find the database open:
each URL has what its last entry said, and the resolved roots are those marked since they were last
cleared. While it is closed every call is refused, and opening it again shows what was there.
-/

namespace Sitemaps

/-- What is done to a database file. -/
inductive Operation
  | upsert (entry : Sitemap.Entry)
  | accept (entry : Sitemap.Entry)
  | mark (root : Root)
  | clear
  | close
  | reopen
  deriving DecidableEq, Repr

namespace Operation

def leavesOpen (isOpen : Bool) : Operation → Bool
  | .close => false
  | .reopen => true
  | .upsert _ | .accept _ | .mark _ | .clear => isOpen

def openAfter (isOpen : Bool) (history : List Operation) : Bool := history.foldl leavesOpen isOpen

/-- The operations of a history that find the database open. -/
def heeded (isOpen : Bool) : List Operation → List Operation
  | [] => []
  | op :: rest => (if isOpen then [op] else []) ++ heeded (op.leavesOpen isOpen) rest

def entry? : Operation → Option Sitemap.Entry
  | .upsert entry | .accept entry => some entry
  | .mark _ | .clear | .close | .reopen => none

def About (url : String) (op : Operation) : Prop :=
  ∃ entry, op.entry? = some entry ∧ entry.reference = url

def Marks (root : Root) (done : List Operation) : Prop :=
  ∃ before after, done = before ++ .mark root :: after ∧ .clear ∉ after

def latest? (url : String) (done : List Operation) : Option Sitemap.Entry :=
  (done.filterMap entry?).reverse.find? (·.reference == url)

variable {url : String} {root : Root} {done after : List Operation} {op : Operation}

theorem openAfter_append (isOpen : Bool) (history : List Operation) (op : Operation) :
    openAfter isOpen (history ++ [op]) = op.leavesOpen (openAfter isOpen history) := by
  simp [openAfter]

theorem heeded_append (isOpen : Bool) (history : List Operation) (op : Operation) :
    heeded isOpen (history ++ [op]) =
      heeded isOpen history ++ if openAfter isOpen history then [op] else [] := by
  induction history generalizing isOpen with
  | nil => exact List.append_nil _
  | cons first rest ih =>
    have later : openAfter isOpen (first :: rest) = openAfter (first.leavesOpen isOpen) rest := rfl
    rw [List.cons_append, heeded, heeded, ih, later, List.append_assoc]

theorem latest?_append : latest? url (done ++ [op]) =
    match op.entry? with
    | some entry => if entry.reference = url then some entry else latest? url done
    | none => latest? url done := by
  unfold latest?
  rw [List.filterMap_append]
  cases brought : op.entry? with
  | none => simp [brought]
  | some entry =>
    by_cases here : entry.reference = url
    · simp [brought, here]
    · simp [brought, here]

theorem latest?_silent (silent : ∀ later ∈ after, ¬ later.About url) :
    latest? url (done ++ after) = latest? url done := by
  induction after using List.reverseRecOn with
  | nil => rw [List.append_nil]
  | append_singleton after op ih =>
    have before := ih fun later member => silent later (List.mem_append_left _ member)
    have last := silent op (by simp)
    rw [← List.append_assoc, latest?_append, before]
    cases brought : op.entry? with
    | none => rfl
    | some entry => exact if_neg fun here => last ⟨entry, brought, here⟩

theorem latest?_none : latest? url done = none ↔ ∀ op ∈ done, ¬ op.About url := by
  unfold latest? About
  simp only [List.find?_eq_none, List.mem_reverse, List.mem_filterMap, beq_iff_eq, not_exists,
    not_and, forall_exists_index, and_imp]
  exact ⟨fun none op member entry brought => none entry op member brought,
    fun none entry op member brought => none op member entry brought⟩

theorem marks_append : Marks root (done ++ [op]) ↔
    op = .mark root ∨ op ≠ .clear ∧ Marks root done := by
  constructor
  · rintro ⟨before, after, same, uncleared⟩
    cases after using List.reverseRecOn with
    | nil => exact Or.inl (List.singleton_inj.mp (List.append_inj' same rfl).2)
    | append_singleton after last =>
      rw [← List.cons_append, ← List.append_assoc] at same
      obtain ⟨rfl, lasts⟩ := List.append_inj' same rfl
      obtain rfl := List.singleton_inj.mp lasts
      simp only [List.mem_append, List.mem_singleton, not_or] at uncleared
      exact Or.inr ⟨Ne.symm uncleared.2, before, after, rfl, uncleared.1⟩
  · rintro (rfl | ⟨kept, before, after, rfl, uncleared⟩)
    · exact ⟨done, [], rfl, List.not_mem_nil⟩
    · refine ⟨before, after ++ [op], by simp, ?_⟩
      simp only [List.mem_append, List.mem_singleton, not_or]
      exact ⟨uncleared, Ne.symm kept⟩

end Operation

open Operation

/-- What a page tells of the last entry about it. -/
structure Page.Tells (page : Page) (entry : Sitemap.Entry) : Prop where
  url : page.url = entry.reference
  root : ∀ root, Root.parse entry.reference = .ok root → page.root = root.text
  rootless : ∀ fault, Root.parse entry.reference = .error fault → page.root = ""
  lastModified : page.lastModified = entry.lastModified.map (·.text)
  changeFrequency : page.changeFrequency = entry.changeFrequency
  priority : ∀ priority, entry.priority = some priority → Number.Kept priority page.priority
  unranked : entry.priority = none → page.priority = none

theorem Page.ofEntry_tells (entry : Sitemap.Entry) : (Page.ofEntry entry).Tells entry where
  url := rfl
  root root read := by simp only [ofEntry, rootText, read]
  rootless fault read := by simp only [ofEntry, rootText, read]
  lastModified := rfl
  changeFrequency := rfl
  priority priority given := by
    simp only [ofEntry, given, Option.bind_some]
    exact Number.storedPriority_kept priority
  unranked absent := by simp only [ofEntry, absent, Option.bind_none]

namespace Tables

theorem page?_insertPage (url : String) (page : Page) (pages : List Page) :
    (insertPage page pages).find? (·.url == url) =
      if page.url = url then
        some (match pages.find? (·.url == url) with
          | some known => { page with root := known.root }
          | none => page)
      else pages.find? (·.url == url) := by
  induction pages with
  | nil => by_cases here : page.url = url <;> simp [insertPage, here]
  | cons first rest ih =>
    unfold insertPage
    by_cases here : page.url = url
    · subst here
      by_cases same : first.url = page.url
      · simp [same]
      · simp [same, ih]
    · by_cases same : first.url = page.url
      · simp [same, here]
      · rw [if_neg here] at ih ⊢
        simp only [same, if_false, List.find?_cons, ih]

theorem page?_upsert {tables : Tables} {known : Option Sitemap.Entry} {url : String}
    (entry : Sitemap.Entry) (about : ∀ earlier, known = some earlier → earlier.reference = url)
    (before : tables.page? url = known.map Page.ofEntry) :
    (tables.upsert entry).page? url =
      (if entry.reference = url then some entry else known).map Page.ofEntry := by
  unfold page? at before ⊢
  rw [upsert, page?_insertPage, before]
  have named : (Page.ofEntry entry).url = entry.reference := rfl
  rw [named]
  split
  · rename_i here
    cases known with
    | none => rfl
    | some earlier =>
      have same : rootText earlier.reference = rootText entry.reference := by
        rw [about earlier rfl, here]
      simp only [Option.map_some, Page.ofEntry, same]
  · rfl

theorem insertRoot_sorted {text : String} {roots : List String}
    (sorted : roots.Pairwise (· < ·)) : (insertRoot text roots).Pairwise (· < ·) := by
  rw [insertRoot_location]
  exact insertLocation_sorted sorted

end Tables

namespace Database

def operate (database : Database) : Operation → Database
  | .upsert entry => (database.upsert entry).toOption.getD database
  | .accept entry => (database.accept entry).1
  | .mark root => (database.markResolved root).toOption.getD database
  | .clear => (database.clearResolved.toOption.map (·.2)).getD database
  | .close => database.close
  | .reopen => database.reopen

def operateAll (database : Database) (history : List Operation) : Database :=
  history.foldl operate database

/-- What the calls of an open database answer, from the operations that counted. -/
structure Shows (database : Database) (done : List Operation) : Prop where
  upsert : ∀ entry, database.upsert entry = .ok (database.operate (.upsert entry))
  accept : ∀ entry, database.accept entry = (database.operate (.accept entry), [])
  mark : ∀ root, database.markResolved root = .ok (database.operate (.mark root))
  absent : ∀ url, database.page? url = .ok none ↔ ∀ op ∈ done, ¬ op.About url
  present : ∀ before op after entry, done = before ++ op :: after → op.entry? = some entry →
    (∀ later ∈ after, ¬ later.About entry.reference) →
    ∃ page, database.page? entry.reference = .ok (some page) ∧ page.Tells entry
  resolved : ∀ root, ∃ told, database.isResolved root = .ok told ∧ (told = true ↔ Marks root done)
  roots : ∃ texts, database.resolvedRoots = .ok texts ∧
    texts.Pairwise (Text.Utf8.encode · < Text.Utf8.encode ·) ∧
    (∀ root : Root, root.text ∈ texts ↔ Marks root done) ∧
    database.clearResolved = .ok (texts.length, database.operate .clear) ∧
    (database.operate .clear).resolvedRoots = .ok []

/-- Every call but closing is refused, and none has an effect until the database is opened anew. -/
structure Refuses (database : Database) : Prop where
  upsert : ∀ entry, database.upsert entry = .error .closed
  accept : ∀ entry, database.accept entry = (database, [⟨.error,
    s!"Failed to store sitemap URL {entry.reference}: {StoreFault.closed.message}"⟩])
  page : ∀ url, database.page? url = .error .closed
  mark : ∀ root, database.markResolved root = .error .closed
  resolved : ∀ root, database.isResolved root = .error .closed
  roots : database.resolvedRoots = .error .closed
  clear : database.clearResolved = .error .closed
  statistics : database.statistics = .error .closed
  still : ∀ op, op ≠ .reopen → database.operate op = database

/-- What the tables hold after the operations that counted. -/
structure Holds (tables : Tables) (done : List Operation) : Prop where
  pages : ∀ url, tables.page? url = (latest? url done).map Page.ofEntry
  sorted : tables.roots.Pairwise (· < ·)
  roots : ∀ root : Root, root.text ∈ tables.roots ↔ Marks root done

variable {database : Database} {tables : Tables} {done : List Operation}

theorem Holds.step (holds : Holds tables done) (op : Operation) (file : database.medium = .file)
    (opened : database.isOpen = true) (same : database.tables = tables) :
    Holds (database.operate op).tables (done ++ [op]) := by
  have about : ∀ url earlier, latest? url done = some earlier → earlier.reference = url := by
    intro url earlier found
    simpa using List.find?_some found
  have quiet {after : Tables} (brings : op.entry? = none) (pages : after.pages = tables.pages) :
      ∀ url, after.page? url = (latest? url (done ++ [op])).map Page.ofEntry := by
    intro url
    rw [latest?_append, brings, ← holds.pages, Tables.page?, pages]
    rfl
  have unmarked (brings : ∀ root, op ≠ .mark root) (keeps : op ≠ .clear) :
      ∀ root, Marks root (done ++ [op]) ↔ Marks root done := by
    intro root
    rw [marks_append]
    simp [brings root, keeps]
  subst same
  cases op with
  | upsert entry =>
    simp only [operate, Database.upsert, update, opened, if_true, Except.toOption, Option.getD_some]
    refine ⟨fun url => ?_, holds.sorted, fun root => ?_⟩
    · rw [latest?_append]
      exact Tables.page?_upsert entry (about url) (holds.pages url)
    · rw [unmarked nofun nofun]
      exact holds.roots root
  | accept entry =>
    simp only [operate, Database.accept, Database.upsert, update, opened, if_true]
    refine ⟨fun url => ?_, holds.sorted, fun root => ?_⟩
    · rw [latest?_append]
      exact Tables.page?_upsert entry (about url) (holds.pages url)
    · rw [unmarked nofun nofun]
      exact holds.roots root
  | mark root =>
    simp only [operate, markResolved, update, opened, if_true, Except.toOption, Option.getD_some]
    refine ⟨quiet rfl rfl, Tables.insertRoot_sorted holds.sorted, fun other => ?_⟩
    rw [marks_append]
    have texts : other.text = root.text ↔ Operation.mark root = .mark other := by
      cases other
      cases root
      simp [eq_comm]
    rw [Tables.mark, mem_insertRoot, holds.roots, texts]
    simp
  | clear =>
    simp only [operate, clearResolved, update, opened, if_true, Except.map, Except.toOption,
      Option.map_some, Option.getD_some]
    refine ⟨quiet rfl rfl, .nil, fun root => ?_⟩
    rw [marks_append]
    simp
  | close =>
    refine ⟨quiet rfl rfl, holds.sorted, fun root => ?_⟩
    rw [unmarked nofun nofun]
    exact holds.roots root
  | reopen =>
    simp only [operate, reopen, file]
    refine ⟨quiet rfl rfl, holds.sorted, fun root => ?_⟩
    rw [unmarked nofun nofun]
    exact holds.roots root

structure Kept (database : Database) (history : List Operation) : Prop where
  medium : database.medium = .file
  isOpen : database.isOpen = openAfter true history
  tables : Holds database.tables (heeded true history)

theorem operateAll_append (history : List Operation) (op : Operation) :
    database.operateAll (history ++ [op]) = (database.operateAll history).operate op := by
  simp [operateAll]

theorem operate_isOpen (op : Operation) (file : database.medium = .file) :
    (database.operate op).medium = .file ∧
      (database.operate op).isOpen = op.leavesOpen database.isOpen := by
  cases opened : database.isOpen <;> cases op <;>
    simp [operate, Database.upsert, accept, markResolved, clearResolved, update, close, reopen,
      leavesOpen, Except.toOption, Except.map, file, opened]

theorem refuses (shut : database.isOpen = false) : database.Refuses := by
  have still {f : Tables → Tables} : database.update f = .error .closed := by simp [update, shut]
  have blank {α : Type} {f : Tables → α} : database.query f = .error .closed := by
    simp [query, shut]
  refine ⟨fun _ => still, fun _ => ?_, fun _ => blank, fun _ => still, fun _ => blank, blank, ?_,
    blank, fun op kept => ?_⟩
  · simp only [accept, Database.upsert, still]
  · simp [clearResolved, still, Except.map]
  · cases op with
    | upsert | accept | mark | clear =>
      simp [operate, Database.upsert, accept, markResolved, clearResolved, still, Except.toOption,
        Except.map]
    | close => simp [operate, close, ← shut]
    | reopen => exact absurd rfl kept

theorem kept (history : List Operation) : ((create .file).operateAll history).Kept history := by
  induction history using List.reverseRecOn with
  | nil =>
    refine ⟨rfl, rfl, fun url => rfl, .nil, fun root => ?_⟩
    simp [operateAll, create, Tables.empty, heeded, Marks]
  | append_singleton history op ih =>
    obtain ⟨medium, opens, tables⟩ := ih
    rw [operateAll_append]
    obtain ⟨file, opened⟩ := operate_isOpen op medium
    refine ⟨file, by rw [opened, opens, openAfter_append], ?_⟩
    rw [heeded_append, ← opens]
    cases shut : Database.isOpen _ with
    | true => exact tables.step op medium shut rfl
    | false =>
      rw [if_neg Bool.false_ne_true, List.append_nil]
      by_cases again : op = .reopen
      · subst again
        simpa [operate, reopen, medium] using tables
      · rwa [(refuses shut).still op again]

theorem Holds.shows (holds : Holds database.tables done) (opened : database.isOpen = true) :
    database.Shows done where
  upsert entry := by
    simp [operate, Database.upsert, update, opened, Except.toOption]
  accept entry := by
    simp [operate, accept, Database.upsert, update, opened]
  mark root := by
    simp [operate, markResolved, update, opened, Except.toOption]
  absent url := by
    rw [Database.page?, query, if_pos opened, Except.ok.injEq, holds.pages, Option.map_eq_none_iff,
      latest?_none]
  present before op after entry split brought silent := by
    have latest : latest? entry.reference done = some entry := by
      have parted : before ++ op :: after = (before ++ [op]) ++ after := by simp
      rw [split, parted, latest?_silent silent, latest?_append, brought]
      exact if_pos rfl
    refine ⟨.ofEntry entry, ?_, Page.ofEntry_tells entry⟩
    rw [Database.page?, query, if_pos opened, holds.pages, latest]
    rfl
  resolved root := by
    refine ⟨database.tables.roots.contains root.text, if_pos opened, ?_⟩
    rw [List.contains_iff_mem]
    exact holds.roots root
  roots := by
    refine ⟨database.tables.roots, if_pos opened, holds.sorted.imp Text.Utf8.encode_lt,
      holds.roots, ?_, ?_⟩
    · simp [operate, clearResolved, update, opened, Except.map, Except.toOption]
    · simp [operate, clearResolved, update, opened, Except.map, Except.toOption, resolvedRoots,
        query]

theorem reopen_operateAll (file : database.medium = .file) (shut : database.isOpen = false)
    {later : List Operation} (closed : .reopen ∉ later) :
    (database.operateAll later).reopen = { database with isOpen := true } := by
  have same : database.operateAll later = database := by
    induction later with
    | nil => rfl
    | cons op rest ih =>
      obtain ⟨other, closed⟩ := not_or.mp (List.mem_cons.not.mp closed)
      rw [operateAll, List.foldl_cons, (refuses shut).still op (Ne.symm other)]
      exact ih closed
  rw [same, reopen, file]

/-- A database file is a keyed map: what its calls answer follows from the operations that found it
open, and from nothing else. -/
theorem keyed_map (history : List Operation) :
    let now := (create .file).operateAll history
    now.isOpen = openAfter true history ∧
      (now.isOpen = true → now.Shows (heeded true history)) ∧
      (now.isOpen = false → now.Refuses) ∧
      (RootStore.close now = .ok now.close ∧ RootStore.isClosed now.close = true ∧
        RootStore.close now.close = .ok now.close) ∧
      ∀ later, .reopen ∉ later →
        (now.close.operateAll later).reopen = { now with isOpen := true } := by
  intro now
  obtain ⟨file, opens, tables⟩ := kept history
  refine ⟨opens, tables.shows, refuses, ⟨rfl, rfl, rfl⟩, fun later closed => ?_⟩
  have shut_file : now.close.medium = .file := file
  exact reopen_operateAll shut_file rfl closed

theorem keyed_map_cleared_shut : ((create .file).operateAll
    [.mark ⟨"https://a.example"⟩, .close, .clear, .reopen]).Shows
      [.mark ⟨"https://a.example"⟩, .close] :=
  (keyed_map [.mark ⟨"https://a.example"⟩, .close, .clear, .reopen]).2.1 (by decide)

end Database

end Sitemaps
