import Sitemaps.Proofs.Counts
import Sitemaps.Proofs.Scopes

/-!
Reading that is stopped from outside. What was announced until then is where an undisturbed reading
begins, and the summary tells just that; a stop that comes after the last poll is not noticed.
-/

namespace Sitemaps.Sitemap

namespace Document

/-- How often an undisturbed reading looks for a stop request: before each event, and before it
finds the end or a fault. -/
def polls (document : Document) : Nat :=
  match _step : document.next with
  | .onward after _ => after.polls + 1
  | _ => 1
  termination_by document.remaining
  decreasing_by exact next_shorter _step

section Steps

variable {document after : Document} {findings : List Finding}

theorem polls_onward (step : document.next = .onward after findings) :
    document.polls = after.polls + 1 := by
  rw [polls]
  split
  · rename_i same
    rw [step] at same
    cases same
    rfl
  · rename_i other
    exact absurd step (other after findings)

theorem polls_last (ends : ∀ after findings, document.next ≠ .onward after findings) :
    document.polls = 1 := by
  rw [polls]
  split
  · rename_i step
    exact absurd step (ends _ _)
  · rfl

theorem polls_pos (document : Document) : 0 < document.polls := by
  rw [polls]
  split
  · exact Nat.succ_pos _
  · exact Nat.one_pos

end Steps

theorem parseFrom_stopped (document : Document) (found : List Finding) :
    document.parseFrom found (some 0) = ⟨found.reverse, .ok (document.summary .stopped)⟩ := by
  unfold parseFrom
  rfl

theorem parseFrom_begins (document : Document) (found : List Finding) (polls : Polls) :
    found.reverse <+: (document.parseFrom found polls).findings := by
  fun_induction parseFrom found document polls with
  | case1 => exact List.prefix_refl _
  | case2 => exact List.prefix_refl _
  | case3 found document polls last findings step going =>
    rw [List.reverse_append]
    exact List.prefix_append _ _
  | case4 found document polls after findings step shorter going ih =>
    rw [List.reverse_append] at ih
    exact (List.prefix_append _ _).trans ih

theorem parseFrom_grows (document : Document) (found : List Finding) (count : Nat) (polls : Polls)
    (later : ∀ limit, polls = some limit → count ≤ limit) :
    (document.parseFrom found (some count)).findings <+:
      (document.parseFrom found polls).findings := by
  induction count generalizing document found polls with
  | zero =>
    rw [parseFrom_stopped]
    exact parseFrom_begins document found polls
  | succ count ih =>
    have going : polls = some 0 → False := fun stopped => absurd (later 0 stopped) (by omega)
    have rest : ∀ limit, polls.map (· - 1) = some limit → count ≤ limit := by
      intro limit same
      obtain ⟨whole, polled, rfl⟩ := Option.map_eq_some_iff.mp same
      have := later whole polled
      omega
    have polling : some (count + 1) = some 0 → False := nofun
    rw [parseFrom_going going, parseFrom_going polling]
    cases document.next with
    | failed fault => exact List.prefix_refl _
    | finished last findings => exact List.prefix_refl _
    | onward after findings => exact ih after _ _ rest

theorem parseFrom_outcome (document : Document) (found : List Finding) (count : Nat) :
    (count < document.polls → ∃ summary,
      (document.parseFrom found (some count)).result = .ok summary ∧
        summary.outcome = .stopped) ∧
    (document.polls ≤ count →
      document.parseFrom found (some count) = document.parseFrom found none) := by
  induction count generalizing document found with
  | zero =>
    constructor
    · intro going
      rw [parseFrom_stopped]
      exact ⟨_, rfl, rfl⟩
    · intro finished
      exact absurd document.polls_pos (Nat.not_lt_of_le finished)
  | succ count ih =>
    have polling : some (count + 1) = some 0 → False := nofun
    have free : (none : Polls) = some 0 → False := nofun
    rw [parseFrom_going polling, parseFrom_going free]
    cases step : document.next with
    | onward after findings =>
      rw [polls_onward step, Nat.add_lt_add_iff_right, Nat.add_le_add_iff_right]
      exact ih after _
    | failed fault =>
      have last : document.polls = 1 := polls_last (by simp [step])
      exact ⟨fun going => by omega, fun _ => rfl⟩
    | finished last findings =>
      have last : document.polls = 1 := polls_last (by simp [step])
      exact ⟨fun going => by omega, fun _ => rfl⟩

theorem parseFrom_summary (document : Document) {found : List Finding} {polls : Polls}
    (counted : ∀ outcome, document.summary outcome = .of outcome found.reverse) {summary : Summary}
    (ends : (document.parseFrom found polls).result = .ok summary) :
    summary = .of summary.outcome (document.parseFrom found polls).findings := by
  have longer {before : Document} {found : List Finding} {result : Document × List Finding}
      (counted : ∀ outcome, before.summary outcome = .of outcome found.reverse)
      (counts : before.Counts result) (outcome : Outcome) :
      result.1.summary outcome = .of outcome (result.2.reverse ++ found).reverse := by
    rw [counts outcome, counted outcome, List.reverse_append, List.reverse_reverse,
      Summary.of_append]
  fun_induction parseFrom found document polls with
  | case1 found document =>
    cases ends
    exact counted .stopped
  | case2 => cases ends
  | case3 found document polls last findings step going =>
    cases ends
    exact longer counted (finished_counts step) .completed
  | case4 found document polls after findings step shorter going ih =>
    exact ih (longer counted (onward_counts step)) ends

end Document

/-- A stop that is seen from some poll on: what is handed on until then begins what is handed on
without one, and is the more, the later the stop. It is told to be stopped, with what was announced
counted, if an undisturbed reading polls once more, and else reads on to the same end. -/
theorem parse_interrupted (location : String) (scope : Scope) (bytes : List UInt8)
    (failure : Option String) (count : Nat) :
    let whole := parse location scope bytes failure none
    let cut := parse location scope bytes failure (some count)
    let needed := (Document.ofBytes location scope bytes failure).polls
    handedOn cut.findings <+: handedOn whole.findings ∧
    (∀ more, count ≤ more → handedOn cut.findings <+:
      handedOn (parse location scope bytes failure (some more)).findings) ∧
    (count < needed → cut.result = .ok ⟨.stopped, (entriesOf cut.findings).length,
      (straysOf cut.findings).length, (childrenOf cut.findings).length⟩) ∧
    (needed ≤ count → cut = whole) := by
  intro whole cut needed
  let document := Document.ofBytes location scope bytes failure
  have grows : ∀ polls : Polls, (∀ limit, polls = some limit → count ≤ limit) →
      handedOn cut.findings <+: handedOn (parse location scope bytes failure polls).findings := by
    intro polls later
    have found : cut.findings <+: (parse location scope bytes failure polls).findings :=
      document.parseFrom_grows [] count polls later
    exact found.filter Finding.handsOn
  obtain ⟨early, late⟩ := document.parseFrom_outcome [] count
  refine ⟨grows none nofun, ?_, ?_, late⟩
  · intro more later
    apply grows
    intro limit same
    cases same
    exact later
  · intro going
    obtain ⟨summary, ends, stopped⟩ := early going
    have told : summary = .of summary.outcome cut.findings :=
      document.parseFrom_summary (fun _ => rfl) ends
    have result : cut.result = .ok summary := ends
    rw [result, told, stopped]
    rfl

end Sitemaps.Sitemap
