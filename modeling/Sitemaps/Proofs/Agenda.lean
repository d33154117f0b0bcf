import Sitemaps.Proofs.Findings

/-!
Depth-first search as a walk does it, without documents and files: what is still to be tried, what
lies ahead in the open documents, and what was attempted. A location that is met while its own
document is open is passed over, and still nothing that can be reached is missed.
-/

namespace Sitemaps

open Sitemap

/-- What a walk does to the world: it attempts a location, where a document may announce something,
or it hands an entry over. -/
inductive Deed
  | attempt (location : String) (found : List Finding)
  | hand (entry : Entry)

namespace Deed

def location? : Deed → Option String
  | .attempt location _ => some location
  | .hand _ => none

def entry? : Deed → Option Entry
  | .attempt _ _ => none
  | .hand entry => some entry

def findings : Deed → List Finding
  | .attempt _ found => found
  | .hand _ => []

def attempted (deeds : List Deed) : List String := deeds.filterMap location?

def handed (deeds : List Deed) : List Entry := deeds.filterMap entry?

def announced (deeds : List Deed) : List Finding := deeds.flatMap findings

def Leads (deeds : List Deed) (parent child : String) : Prop :=
  ∃ found, .attempt parent found ∈ deeds ∧ .child child ∈ found

variable (deeds more : List Deed)

theorem attempted_append : attempted (deeds ++ more) = attempted deeds ++ attempted more :=
  List.filterMap_append

theorem handed_append : handed (deeds ++ more) = handed deeds ++ handed more :=
  List.filterMap_append

theorem announced_append : announced (deeds ++ more) = announced deeds ++ announced more :=
  List.flatMap_append

end Deed

/-- The least set with the candidates that is closed under the relation. -/
inductive Reach (candidates : List String) (leads : String → String → Prop) : String → Prop
  | candidate {location : String} : location ∈ candidates → Reach candidates leads location
  | child {parent location : String} : Reach candidates leads parent → leads parent location →
      Reach candidates leads location

theorem Reach.closed {candidates visited : List String} {leads : String → String → Prop}
    (tried : ∀ location ∈ candidates, location ∈ visited)
    (followed : ∀ parent ∈ visited, ∀ child, leads parent child → child ∈ visited)
    {location : String} (reach : Reach candidates leads location) : location ∈ visited := by
  induction reach with
  | candidate member => exact tried _ member
  | child _ leads ih => exact followed _ ih _ leads

/-- A walk brought to its end: nothing that can be reached was missed, nothing was attempted twice,
and all announced entries were handed over. -/
structure Deed.Settles (candidates : List String) (deeds : List Deed) : Prop where
  complete : ∀ location, Reach candidates (Deed.Leads deeds) location →
    location ∈ Deed.attempted deeds
  distinct : (Deed.attempted deeds).Nodup
  entries : (Deed.handed deeds).Perm (entriesOf (Deed.announced deeds))

structure Agenda where
  candidates : List String
  ahead : List Finding
  fetching : Option String
  /-- Locations attempted, the latest first. -/
  visited : List String

namespace Agenda

def Due (agenda : Agenda) (location : String) : Prop :=
  location ∈ agenda.visited ∨ agenda.fetching = some location ∨ location ∈ agenda.candidates ∨
    .child location ∈ agenda.ahead

inductive Draws (agenda : Agenda) (location : String) : Agenda → Prop
  | candidate {rest : List String} (candidates : agenda.candidates = location :: rest) :
      Draws agenda location { agenda with candidates := rest }
  | child {rest : List Finding} (ahead : agenda.ahead = .child location :: rest) :
      Draws agenda location { agenda with ahead := rest }

inductive Step (agenda : Agenda) : Option Deed → Agenda → Prop
  | attempt {location : String} (found : List Finding)
      (fetching : agenda.fetching = some location) :
      Step agenda (some (.attempt location found))
        { agenda with
          ahead := found ++ agenda.ahead, fetching := none, visited := location :: agenda.visited }
  | hand {entry : Entry} {rest : List Finding} (ahead : agenda.ahead = .entry entry :: rest) :
      Step agenda (some (.hand entry)) { agenda with ahead := rest }
  | tell {finding : Finding} {rest : List Finding} (ahead : agenda.ahead = finding :: rest)
      (quiet : finding.handsOn = false) : Step agenda none { agenda with ahead := rest }
  | pass {location : String} {next : Agenda} (draws : agenda.Draws location next)
      (known : location ∈ agenda.visited) : Step agenda none next
  | turn {location : String} {next : Agenda} (idle : agenda.fetching = none)
      (draws : agenda.Draws location next) (fresh : location ∉ agenda.visited) :
      Step agenda none { next with fetching := some location }
  | rest : Step agenda none agenda

def turnTo (agenda : Agenda) (location : String) : Agenda :=
  if location ∈ agenda.visited then agenda else { agenda with fetching := some location }

def next (announces : String → List Finding) (agenda : Agenda) : Option (Option Deed × Agenda) :=
  match agenda.fetching, agenda.ahead, agenda.candidates with
  | some location, ahead, _ =>
    some (some (.attempt location (announces location)),
      { agenda with
        ahead := announces location ++ ahead
        fetching := none
        visited := location :: agenda.visited })
  | none, .child location :: rest, _ => some (none, { agenda with ahead := rest }.turnTo location)
  | none, .entry entry :: rest, _ => some (some (.hand entry), { agenda with ahead := rest })
  | none, _ :: rest, _ => some (none, { agenda with ahead := rest })
  | none, [], location :: rest => some (none, { agenda with candidates := rest }.turnTo location)
  | none, [], [] => none

variable {agenda after next : Agenda} {location other : String} {deed : Option Deed}

theorem Draws.visited (draws : agenda.Draws location next) : next.visited = agenda.visited := by
  cases draws <;> rfl

theorem Draws.fetching (draws : agenda.Draws location next) : next.fetching = agenda.fetching := by
  cases draws <;> rfl

theorem Draws.due (draws : agenda.Draws location next) :
    agenda.Due other ↔ other = location ∨ next.Due other := by
  unfold Due
  cases draws with
  | candidate candidates =>
    rw [candidates, List.mem_cons]
    grind
  | child ahead =>
    rw [ahead, List.mem_cons, Finding.child.injEq]
    grind

theorem Draws.entries (draws : agenda.Draws location next) :
    entriesOf next.ahead = entriesOf agenda.ahead := by
  cases draws with
  | candidate candidates => rfl
  | child ahead =>
    rw [ahead]
    rfl

/-- Nothing that is due is lost, and only what a deed announces becomes due. -/
theorem Step.due (step : agenda.Step deed after) :
    after.Due other ↔ agenda.Due other ∨ .child other ∈ Deed.announced deed.toList := by
  cases step with
  | attempt found fetching =>
    simp only [Due, fetching, Deed.announced, Deed.findings, Option.toList_some,
      List.flatMap_cons, List.flatMap_nil, List.append_nil, List.mem_cons, List.mem_append,
      Option.some.injEq, reduceCtorEq, false_or]
    grind
  | hand ahead => simp [Due, ahead, Deed.announced, Deed.findings]
  | @tell finding rest ahead quiet =>
    have apart : Finding.child other ≠ finding := by
      rintro rfl
      cases quiet
    simp [Due, ahead, Deed.announced, apart]
  | pass draws known =>
    have visited := draws.visited.symm ▸ known
    rw [draws.due]
    simp only [Deed.announced, Option.toList_none, List.flatMap_nil, List.not_mem_nil, or_false]
    refine ⟨Or.inr, ?_⟩
    rintro (rfl | due)
    · exact Or.inl visited
    · exact due
  | turn idle draws fresh =>
    rw [draws.due]
    simp only [Deed.announced, Option.toList_none, List.flatMap_nil, List.not_mem_nil, or_false]
    simp only [Due, draws.fetching, idle, Option.some.injEq, reduceCtorEq, false_or]
    grind
  | rest => simp [Deed.announced]

/-- How far a walk has come that has done these deeds. -/
structure Covers (candidates : List String) (deeds : List Deed) (agenda : Agenda) : Prop where
  visited : Deed.attempted deeds = agenda.visited.reverse
  distinct : (agenda.fetching.toList ++ agenda.visited).Nodup
  due : ∀ location, location ∈ candidates ∨ .child location ∈ Deed.announced deeds →
    agenda.Due location
  entries : (Deed.handed deeds ++ entriesOf agenda.ahead).Perm (entriesOf (Deed.announced deeds))

theorem Covers.start (candidates : List String) :
    Covers candidates [] ⟨candidates, [], none, []⟩ where
  visited := rfl
  distinct := List.nodup_nil
  due location known := by
    rcases known with candidate | announced
    · exact Or.inr (Or.inr (Or.inl candidate))
    · cases announced
  entries := .nil

theorem Step.visited (step : agenda.Step deed after) :
    after.visited = Deed.attempted deed.toList ++ agenda.visited := by
  cases step with
  | attempt found fetching => rfl
  | hand ahead => rfl
  | tell ahead quiet => rfl
  | pass draws known => exact draws.visited
  | turn idle draws fresh => exact draws.visited
  | rest => rfl

theorem Step.distinct (step : agenda.Step deed after)
    (distinct : (agenda.fetching.toList ++ agenda.visited).Nodup) :
    (after.fetching.toList ++ after.visited).Nodup := by
  cases step with
  | attempt found fetching =>
    rw [fetching] at distinct
    exact distinct
  | hand ahead => exact distinct
  | tell ahead quiet => exact distinct
  | pass draws known =>
    rw [draws.visited, draws.fetching]
    exact distinct
  | turn idle draws fresh =>
    rw [idle] at distinct
    simp only [draws.visited, Option.toList_some, List.singleton_append, List.nodup_cons]
    exact ⟨fresh, distinct⟩
  | rest => exact distinct

theorem Step.entries (step : agenda.Step deed after) :
    (Deed.handed deed.toList ++ entriesOf after.ahead).Perm
      (entriesOf agenda.ahead ++ entriesOf (Deed.announced deed.toList)) := by
  cases step with
  | @attempt location found fetching =>
    have none_handed : Deed.handed [.attempt location found] = [] := rfl
    rw [entriesOf_append]
    simpa [Deed.announced, Deed.findings, none_handed] using List.perm_append_comm
  | hand ahead =>
    rw [ahead]
    simp [Deed.announced, Deed.findings, Deed.handed, Deed.entry?, entriesOf, Finding.entry?]
  | @tell finding rest ahead quiet =>
    have silent : finding.entry? = none := by
      cases finding with
      | entry entry => cases quiet
      | _ => rfl
    rw [ahead]
    simp [Deed.announced, Deed.handed, entriesOf, silent]
  | pass draws known =>
    rw [draws.entries]
    simp [Deed.announced, Deed.handed, entriesOf]
  | turn idle draws fresh =>
    rw [draws.entries]
    simp [Deed.announced, Deed.handed, entriesOf]
  | rest => simp [Deed.announced, Deed.handed, entriesOf]

theorem Covers.step {candidates : List String} {deeds : List Deed}
    (covers : agenda.Covers candidates deeds) (step : agenda.Step deed after) :
    after.Covers candidates (deeds ++ deed.toList) where
  visited := by
    rw [Deed.attempted_append, covers.visited, step.visited, List.reverse_append]
    cases deed with
    | none => rfl
    | some deed => cases deed <;> rfl
  distinct := step.distinct covers.distinct
  due location known := by
    rw [step.due]
    rw [Deed.announced_append, List.mem_append, ← or_assoc] at known
    rcases known with known | announced
    · exact Or.inl (covers.due location known)
    · exact Or.inr announced
  entries := by
    rw [Deed.handed_append, Deed.announced_append, entriesOf_append, List.append_assoc]
    calc (Deed.handed deeds ++ (Deed.handed deed.toList ++ entriesOf after.ahead)).Perm
          (Deed.handed deeds ++ (entriesOf agenda.ahead ++
            entriesOf (Deed.announced deed.toList))) := step.entries.append_left _
      _ = Deed.handed deeds ++ entriesOf agenda.ahead ++
            entriesOf (Deed.announced deed.toList) := (List.append_assoc _ _ _).symm
      List.Perm _ (entriesOf (Deed.announced deeds) ++ entriesOf (Deed.announced deed.toList)) :=
        covers.entries.append_right _

theorem Covers.settles {candidates : List String} {deeds : List Deed}
    (covers : agenda.Covers candidates deeds) (idle : agenda.fetching = none)
    (tried : agenda.candidates = []) (read : agenda.ahead = []) :
    Deed.Settles candidates deeds where
  complete location reach := by
    have settled : ∀ location, agenda.Due location → location ∈ Deed.attempted deeds := by
      intro location due
      rw [covers.visited, List.mem_reverse]
      simpa [Due, idle, tried, read] using due
    have first : ∀ location ∈ candidates, location ∈ Deed.attempted deeds := by
      intro location member
      exact settled location (covers.due location (Or.inl member))
    have further : ∀ parent ∈ Deed.attempted deeds, ∀ child, Deed.Leads deeds parent child →
        child ∈ Deed.attempted deeds := by
      rintro parent - child ⟨found, attempted, announced⟩
      have known : .child child ∈ Deed.announced deeds :=
        List.mem_flatMap.mpr ⟨_, attempted, announced⟩
      exact settled child (covers.due child (Or.inr known))
    exact reach.closed first further
  distinct := by
    rw [covers.visited, (List.reverse_perm _).nodup_iff]
    simpa [idle] using covers.distinct
  entries := by
    have entries := covers.entries
    rw [read] at entries
    simpa [entriesOf] using entries

theorem Draws.turnTo (idle : agenda.fetching = none) (draws : agenda.Draws location next) :
    agenda.Step none (next.turnTo location) := by
  unfold Agenda.turnTo
  split
  · rename_i known
    exact .pass draws (draws.visited ▸ known)
  · rename_i fresh
    exact .turn idle draws (draws.visited ▸ fresh)

variable {announces : String → List Finding}

theorem next_step (stepped : agenda.next announces = some (deed, after)) :
    agenda.Step deed after := by
  unfold Agenda.next at stepped
  split at stepped
  · rename_i location fetching
    cases stepped
    exact .attempt _ fetching
  · rename_i location rest idle ahead
    cases stepped
    exact Draws.turnTo idle (.child ahead)
  · rename_i entry rest idle ahead
    cases stepped
    exact .hand ahead
  · rename_i finding rest unlike_child unlike_entry idle ahead
    cases stepped
    refine .tell ahead ?_
    cases finding with
    | child location => exact absurd rfl (unlike_child location)
    | entry entry => exact absurd rfl (unlike_entry entry)
    | _ => rfl
  · rename_i location rest idle ahead candidates
    cases stepped
    exact Draws.turnTo idle (.candidate candidates)
  · cases stepped

/-- The deeds that are left to be done. -/
inductive Remains (announces : String → List Finding) : Agenda → List Deed → Prop
  | ended {agenda : Agenda} (ended : agenda.next announces = none) : Remains announces agenda []
  | step {agenda after : Agenda} {deed : Option Deed} {rest : List Deed}
      (stepped : agenda.next announces = some (deed, after))
      (remains : Remains announces after rest) : Remains announces agenda (deed.toList ++ rest)

theorem Remains.ended_nil {deeds : List Deed} (remains : agenda.Remains announces deeds)
    (ended : agenda.next announces = none) : deeds = [] := by
  cases remains with
  | ended _ => rfl
  | step stepped _ =>
    rw [ended] at stepped
    cases stepped

theorem Remains.step_rest {deeds : List Deed} (remains : agenda.Remains announces deeds)
    (stepped : agenda.next announces = some (deed, after)) :
    ∃ rest, deeds = deed.toList ++ rest ∧ after.Remains announces rest := by
  cases remains with
  | ended ended =>
    rw [ended] at stepped
    cases stepped
  | step other remains =>
    rw [stepped] at other
    cases other
    exact ⟨_, rfl, remains⟩

theorem Step.within {known : String → Prop} (step : agenda.Step deed after)
    (within : ∀ location, agenda.Due location → known location)
    (announces : ∀ location, .child location ∈ Deed.announced deed.toList → known location)
    (location : String) (due : after.Due location) : known location := by
  rcases step.due.mp due with before | announced
  · exact within location before
  · exact announces location announced

end Agenda

end Sitemaps
