import Sitemaps.Proofs.Lockstep
import Sitemaps.Proofs.Reachability

/-!
Lenience only adds entries. Read leniently or strictly, the sitemaps of a root lead to the same
requests and the same end; what the strict run leaves out are the entries that are not at or below
the directory of the document that declares them.
-/

namespace Sitemaps

open Sitemap

namespace Sitemap

/-- A document read strictly announces what it announces read leniently, and tells the entries
beyond its directory to be out of scope. -/
theorem strict_judges (location : String) (bytes : List UInt8) (failure : Option String)
    (polls : Polls) :
    let lenient := parse location .lenient bytes failure polls
    let strict := parse location .strict bytes failure polls
    strict.findings = lenient.findings.map (Finding.judge .strict location) ∧
      match lenient.result, strict.result with
      | .error fault, .error other => other = fault
      | .ok wide, .ok narrow => narrow.outcome = wide.outcome ∧ narrow.children = wide.children ∧
        wide.emitted = narrow.emitted + narrow.outOfScope ∧ wide.outOfScope = 0
      | _, _ => False := by
  intro lenient strict
  obtain ⟨findings, ends⟩ := parse_within Scope.strict_within_lenient location bytes failure polls
  refine ⟨findings, ?_⟩
  change Document.Ends .lenient lenient.result strict.result at ends
  generalize lenient.result = wide at ends ⊢
  generalize strict.result = narrow at ends ⊢
  cases ends with
  | broken => rfl
  | closed outcome children entries none =>
    have nothing := none rfl
    refine ⟨outcome, children, ?_, nothing⟩
    omega

end Sitemap

namespace Pairing

variable {σ : Type} [RootStore σ] [Sink σ] [LawfulSink σ]

/-- A lenient run beside a strict one, in a web and over a sink that bring neither stop nor panic.
-/
def lenience (setting : Setting) (crawl : Crawl σ) (calm : setting.web.Calm) : Pairing σ where
  setting := { setting with scope := .lenient }
  narrow := .strict
  first := crawl
  second := crawl
  like one other := Sink.Steady one ∧ Sink.Steady other ∧ LawfulStore.Alike one other
  told := LawfulStore.Alike
  stops := False
  within := Scope.strict_within_lenient
  answers _ _ := rfl
  called location count stops := by
    rw [(calm location count).1] at stops
    cases stops
  shown same := same.2.2
  read same root := same.read root
  marked same root := same.2.2.marked root
  closed _ := False.elim
  taken same entry := by
    obtain ⟨steady, also, alike⟩ := same
    obtain ⟨after, notices, kept, still⟩ := steady.accept entry
    obtain ⟨later, others, taken, also_still⟩ := also.accept entry
    have same := ((LawfulSink.alike kept).symm.trans alike).trans (LawfulSink.alike taken)
    rw [kept, taken]
    exact .kept ⟨still, also_still, same⟩ fun stops => by cases stops
  skipped same page location _ _ := by
    obtain ⟨steady, also, alike⟩ := same
    obtain ⟨after, notices, kept, still⟩ := steady.accept page
    exact ⟨after, notices, kept, still, also, (LawfulSink.alike kept).symm.trans alike⟩

end Pairing

namespace Job

variable {σ : Type} [RootStore σ] [Sink σ] [LawfulSink σ]

/-- A lenient and a strict run, in a web and over a sink that bring neither stop nor panic. They
fetch the same and leave every root in the same state, and the strict one hands over what the
lenient one does, less the entries that do not pass where they are declared. -/
theorem lenient_adds (job : Job) (setting : Setting) (crawl : Crawl σ) (calm : setting.web.Calm)
    (steady : Sink.Steady crawl.desk.store) :
    let lenient := job.run { setting with scope := .lenient } crawl
    let strict := job.run { setting with scope := .strict } crawl
    let credits := job.credits { setting with scope := .lenient } crawl
    strict.1 = lenient.1 ∧
    strict.2.journal.fetched = lenient.2.journal.fetched ∧
    (∀ root, (strict.2.desk.state root).1 = (lenient.2.desk.state root).1) ∧
    lenient.2.journal.accepted = crawl.journal.accepted ++ credits.map (·.2) ∧
    strict.2.journal.accepted = crawl.journal.accepted ++
      (credits.filter fun credit => Scope.strict.passes credit.2.reference credit.1).map (·.2) ∧
    ∀ location bytes failure polls,
      let wide := parse location .lenient bytes failure polls
      let narrow := parse location .strict bytes failure polls
      narrow.findings = wide.findings.map (Finding.judge .strict location) ∧
        match wide.result, narrow.result with
        | .error fault, .error other => other = fault
        | .ok wide, .ok narrow => narrow.outcome = wide.outcome ∧ narrow.children = wide.children ∧
          wide.emitted = narrow.emitted + narrow.outOfScope ∧ wide.outOfScope = 0
        | _, _ => False := by
  intro lenient strict credits
  have store : LawfulStore.Alike crawl.desk.store crawl.desk.store := .refl _
  have start := (Pairing.lenience setting crawl calm).start rfl rfl ⟨steady, steady, store⟩
    (.refl _ _)
  obtain ⟨ends, level⟩ := Pairing.run_abreast job start
  obtain ⟨fetched, wide, narrow⟩ := level.fetched
  exact ⟨ends, narrow.trans wide.symm, fun root => level.state root, level.handed, level.selected,
    fun location bytes failure polls => strict_judges location bytes failure polls⟩

def shelf : Setting := .ofTexts [("http://a/x/s.xml",
  "<u><url><loc>http://a/x/p</loc></url><url><loc>http://a/q</loc></url></u>")]

def reader : Job := ⟨⟨"http://a"⟩, ["http://a/x/s.xml"], true, false⟩

theorem lenient_adds_shelf :
    let crawl : Crawl (Listener MemoryStore) := .start ⟨⟨[], false⟩, 0, none, none⟩ .empty
    let lenient := reader.run { shelf with scope := .lenient } crawl
    let strict := reader.run { shelf with scope := .strict } crawl
    shelf.web.Calm ∧ Sink.Steady crawl.desk.store ∧
    lenient.2.journal.accepted.map (·.reference) = ["http://a/x/p", "http://a/q"] ∧
    strict.2.journal.accepted.map (·.reference) = ["http://a/x/p"] ∧
    strict.2.journal.fetched = lenient.2.journal.fetched ∧
    (strict.2.desk.state reader.root).1 = (lenient.2.desk.state reader.root).1 := by
  intro crawl lenient strict
  have calm : shelf.web.Calm := Web.ofTexts_calm _
  have steady : Sink.Steady crawl.desk.store := Listener.steady _ 0
  have wide : lenient = reader.after { shelf with scope := .lenient } crawl 24 :=
    run_after reader _ (by decide +kernel)
  have narrow : strict = reader.after { shelf with scope := .strict } crawl 24 :=
    run_after reader _ (by decide +kernel)
  obtain ⟨-, fetched, state, -⟩ := lenient_adds reader shelf crawl calm steady
  refine ⟨calm, steady, ?_, ?_, fetched, state reader.root⟩
  · rw [wide]
    decide +kernel
  · rw [narrow]
    decide +kernel

end Job

end Sitemaps
