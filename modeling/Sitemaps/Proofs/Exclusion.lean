import Sitemaps.Proofs.Holders

/-!
One resolution per root. Explicit locations are asked for by calls that still have their claim and
by the one that finished the root; once all calls are back, only the latter is left.
-/

namespace Sitemaps

/-- Whether the call asked for the explicit locations of a root and still has the claim. -/
def Call.isOut (root : Root) (call : Call) : Bool := call.phase.isOut && call.job.root == root

theorem Crawl.Drift.recorded {σ : Type} [RootStore σ] [Sink σ] [LawfulSink σ]
    {before after : Crawl σ} (drift : before.Drift after) (elder : before.elder = none)
    (going : after.stopped = false) (root : Root) :
    (after.desk.recorded root).1 = (before.desk.recorded root).1 := by
  have never : ¬ (after.stopped = true ∨ before.elder ≠ none) := by simp [elder, going]
  rw [Desk.recorded_eq, Desk.recorded_eq, drift.store.isClosed never, drift.store.holds]

namespace Pool

variable {σ : Type}

theorem countP_set {calls : List Call} {index : Nat} {call : Call} (after : Call)
    (counts : Call → Bool) (found : calls[index]? = some call) :
    (calls.set index after).countP counts + (if counts call then 1 else 0) =
      calls.countP counts + if counts after then 1 else 0 := by
  obtain ⟨bound, rfl⟩ := List.getElem?_eq_some_iff.mp found
  rw [List.countP_set bound]
  have within : (if counts calls[index] then 1 else 0) ≤ calls.countP counts := by
    split
    · rename_i counted
      exact List.countP_pos_iff.mpr ⟨_, List.getElem_mem bound, counted⟩
    · exact Nat.zero_le _
  omega

/-- A stop or a panic, which never goes unnoticed. -/
def Disturbed (pool : Pool σ) : Prop :=
  pool.crawl.stopped = true ∨ ∃ (index : Nat) (call : Call), pool.calls[index]? = some call ∧
    (call.phase = .panicked ∨ call.phase = .dropping true)

/-- How often explicit locations of a root were asked for, in a pool that nothing disturbed. -/
structure Tallied [RootStore σ] (told : Bool) (root : Root) (asked : Nat) (pool : Pool σ) :
    Prop where
  guarded : pool.Guarded
  elder : pool.crawl.elder = none
  undropped : ∀ (index : Nat) (call : Call), pool.calls[index]? = some call →
    ∀ panics, call.phase ≠ .dropping panics
  recorded : (pool.crawl.desk.recorded root).1 = true →
    told = true ∨ root ∈ pool.crawl.desk.guard.finished
  known : told = true → (pool.crawl.desk.recorded root).1 = true ∧
    root ∉ pool.crawl.desk.guard.active ∧ root ∉ pool.crawl.desk.guard.finished
  count : asked = pool.crawl.desk.guard.finished.count root + pool.calls.countP (Call.isOut root)
  once : pool.crawl.desk.guard.finished.count root ≤ 1
  /-- Who comes back found the root recorded, finished or claimed. -/
  returned : ∀ (index : Nat) (call : Call), pool.calls[index]? = some call →
    call.job.root = root → call.phase = .done →
    told = true ∨ root ∈ pool.crawl.desk.guard.finished ∨ root ∈ pool.crawl.desk.guard.active

theorem gather_tallied [RootStore σ] (calls : List (Setting × Job)) (store : σ) (disk : Disk)
    (root : Root) :
    (gather calls store disk).Tallied (Desk.recorded ⟨.fresh, store⟩ root).1 root 0 := by
  have asking : ∀ (index : Nat) (call : Call),
      (gather calls store disk).calls[index]? = some call → call.phase = .asking := by
    intro index call found
    simp only [gather, List.getElem?_map, Option.map_eq_some_iff] at found
    obtain ⟨named, -, rfl⟩ := found
    rfl
  have recorded : (gather calls store disk).crawl.desk.recorded root =
      Desk.recorded ⟨.fresh, store⟩ root := rfl
  refine ⟨gather_guarded calls store disk, rfl, ?_, ?_, ?_, ?_, Nat.zero_le 1, ?_⟩
  · intro index call found panics dropping
    rw [asking index call found] at dropping
    cases dropping
  · intro told
    exact Or.inl (recorded ▸ told)
  · intro told
    refine ⟨recorded ▸ told, ?_, ?_⟩
    · intro member
      cases member
    · intro member
      cases member
  · have none_out : (gather calls store disk).calls.countP (Call.isOut root) = 0 := by
      apply List.countP_eq_zero.mpr
      intro call member
      obtain ⟨index, found⟩ := List.getElem?_of_mem member
      simp [Call.isOut, asking index call found, Phase.isOut]
    rw [none_out]
    rfl
  · intro index call found _ done
    rw [asking index call found] at done
    cases done

variable [RootStore σ] [Sink σ]

theorem act_disturbed {pool : Pool σ} (index : Nat) (disturbed : pool.Disturbed) :
    (pool.act index).Disturbed := by
  unfold act
  split
  · exact disturbed
  · rename_i call found
    rcases disturbed with stopped | ⟨other, broken, at_other, phase⟩
    · exact Or.inl (Job.step_stopped call.job call.setting pool.crawl call.phase stopped)
    · by_cases here : other = index
      · subst here
        rw [found] at at_other
        cases at_other
        refine Or.inr ⟨other, _, set_self _ found, Or.inl ?_⟩
        rcases phase with panicked | dropping
        · simp [panicked, Job.step]
        · simp [dropping, Job.step]
      · exact Or.inr ⟨other, broken, (set_other _ here).trans at_other, phase⟩

theorem move_disturbed {pool : Pool σ} (moment : Moment) (disturbed : pool.Disturbed) :
    (pool.move moment).Disturbed := by
  cases moment with
  | act index => exact act_disturbed index disturbed
  | raise => exact Or.inl (Crawl.raise_stopped pool.crawl)
  | close => exact disturbed.imp_left (Crawl.closeAfterStop_drift pool.crawl).stopped

omit [RootStore σ] [Sink σ] in
theorem asks_act {pool : Pool σ} {index : Nat} {call : Call} (root : Root)
    (found : pool.calls[index]? = some call) :
    (pool.asks? root (.act index)).toList.length =
      if call.phase.gathers && call.job.root == root then 1 else 0 := by
  simp only [asks?, found]
  split <;> rfl

theorem set_all {calls : List Call} {index : Nat} {after : Call} {kept : Call → Prop}
    (before : ∀ (other : Nat) (call : Call), calls[other]? = some call → kept call)
    (now : kept after) (other : Nat) (call : Call)
    (found : (calls.set index after)[other]? = some call) : kept call := by
  rcases set_found found with ⟨-, rfl⟩ | ⟨-, old⟩
  · exact now
  · exact before other call old

section Tally

variable {told : Bool} {root : Root} {asked index : Nat} {pool : Pool σ} {crawl : Crawl σ}
  {call : Call}

theorem Tallied.drift [LawfulSink σ] (tallied : pool.Tallied told root asked)
    (drift : pool.crawl.Drift crawl) (going : crawl.stopped = false) :
    (⟨pool.calls, crawl⟩ : Pool σ).Tallied told root asked where
  guarded := tallied.guarded.drift drift
  elder := drift.elder tallied.elder
  undropped := tallied.undropped
  recorded recorded := by
    rw [drift.recorded tallied.elder going] at recorded
    rw [drift.finished]
    exact tallied.recorded recorded
  known told := by
    rw [drift.recorded tallied.elder going, drift.active, drift.finished]
    exact tallied.known told
  count := by
    rw [drift.finished]
    exact tallied.count
  once := by
    rw [drift.finished]
    exact tallied.once
  returned := by
    rw [drift.finished, drift.active]
    exact tallied.returned

omit [Sink σ] in
theorem Tallied.settle (tallied : pool.Tallied told root asked) (returned : pool.Returned)
    (found : pool.calls[index]? = some call)
    (names : call.job.root = root) : asked = if told then 0 else 1 := by
  have none_out : pool.calls.countP (Call.isOut root) = 0 := by
    apply List.countP_eq_zero.mpr
    intro other member
    obtain ⟨index, found⟩ := List.getElem?_of_mem member
    simp [Call.isOut, returned.done found, Phase.isOut]
  have unclaimed : root ∉ pool.crawl.desk.guard.active := by
    intro member
    obtain ⟨index, holder, found, holds, -⟩ := tallied.guarded.claimed root member
    rw [returned.done found] at holds
    cases holds
  have count := tallied.count
  have once := tallied.once
  rw [none_out, Nat.add_zero] at count
  cases told with
  | true =>
    rw [count, List.count_eq_zero_of_not_mem (tallied.known rfl).2.2]
    rfl
  | false =>
    rcases tallied.returned index call found names (returned.done found) with
      told | finished | active
    · cases told
    · have positive := List.count_pos_iff.mpr finished
      simp only [Bool.false_eq_true, if_false]
      omega
    · exact absurd active unclaimed

theorem Tallied.keep [LawfulSink σ] (tallied : pool.Tallied told root asked)
    (found : pool.calls[index]? = some call) (quiet : call.phase.turnsClaim = false)
    (going : (call.job.step call.setting call.phase pool.crawl).2.stopped = false)
    (unbroken : (call.job.step call.setting call.phase pool.crawl).1 ≠ .dropping true) :
    (⟨pool.calls.set index
        { call with phase := (call.job.step call.setting call.phase pool.crawl).1 },
      (call.job.step call.setting call.phase pool.crawl).2⟩ : Pool σ).Tallied told root
      (asked + if call.phase.gathers && call.job.root == root then 1 else 0) := by
  obtain ⟨drift, holds⟩ := Job.step_drift call.job call.setting pool.crawl quiet
  have calm : pool.crawl.stopped = false := by
    apply Bool.eq_false_iff.mpr
    intro stopped
    rw [drift.stopped stopped] at going
    cases going
  obtain ⟨undropped, out, done⟩ :=
    Job.step_isOut call.job call.setting pool.crawl quiet calm unbroken
  have drifted := tallied.drift drift going
  refine ⟨tallied.guarded.keep found drift.active drift.finished holds, drifted.elder, ?_,
    drifted.recorded, drifted.known, ?_, drifted.once, ?_⟩
  · exact set_all tallied.undropped undropped
  · have counted := countP_set
      { call with phase := (call.job.step call.setting call.phase pool.crawl).1 }
      (Call.isOut root) found
    have before := drifted.count
    simp only [Call.isOut, out] at counted before ⊢
    cases phase : call.phase <;>
      cases same : call.job.root == root <;>
      simp [phase, same, Phase.gathers, Phase.isOut] at counted before ⊢ <;> omega
  · apply set_all drifted.returned
    intro same finished
    exact drifted.returned index call found same (done finished)

omit [Sink σ] in
theorem Tallied.refuse (tallied : pool.Tallied told root asked)
    (found : pool.calls[index]? = some call) (phase : call.phase = .entering)
    (taken : (pool.crawl.desk.isTaken call.job.root).1 = true)
    (desk : crawl.desk = pool.crawl.desk) (elder : crawl.elder = pool.crawl.elder) :
    (⟨pool.calls.set index { call with phase := .done }, crawl⟩ : Pool σ).Tallied told root
      asked := by
  have counted := countP_set { call with phase := .done } (Call.isOut root) found
  simp only [Call.isOut, phase, Phase.isOut, Bool.false_and, Bool.false_eq_true, if_false,
    Nat.add_zero] at counted
  refine ⟨?_, elder.trans tallied.elder, ?_, ?_, ?_, ?_, ?_, ?_⟩
  · exact tallied.guarded.keep found (by rw [desk]) (by rw [desk]) (by rw [phase]; rfl)
  · exact set_all tallied.undropped (by simp)
  · rw [desk]
    exact tallied.recorded
  · rw [desk]
    exact tallied.known
  · rw [desk, tallied.count]
    exact congrArg _ counted.symm
  · rw [desk]
    exact tallied.once
  · rw [desk]
    apply set_all tallied.returned
    rintro rfl -
    rcases (Desk.isTaken_iff pool.crawl.desk _).mp taken with active | finished | recorded
    · exact Or.inr (Or.inr active)
    · exact Or.inr (Or.inl finished)
    · exact (tallied.recorded recorded).imp_right Or.inl

omit [Sink σ] in
theorem Tallied.grant (tallied : pool.Tallied told root asked)
    (found : pool.calls[index]? = some call) (phase : call.phase = .entering)
    (free : (pool.crawl.desk.isTaken call.job.root).1 = false)
    (desk : crawl.desk = pool.crawl.desk.activate call.job.root)
    (elder : crawl.elder = pool.crawl.elder) :
    (⟨pool.calls.set index { call with phase := .gathering }, crawl⟩ : Pool σ).Tallied told root
      asked := by
  have untaken := mt (Desk.isTaken_iff pool.crawl.desk call.job.root).mpr (by simp [free])
  simp only [not_or] at untaken
  have counted := countP_set { call with phase := .gathering } (Call.isOut root) found
  simp only [Call.isOut, phase, Phase.isOut, Bool.false_and, Bool.false_eq_true, if_false,
    Nat.add_zero] at counted
  have recorded : ∀ root, crawl.desk.recorded root = pool.crawl.desk.recorded root := by
    intro root
    rw [desk]
    rfl
  refine ⟨?_, elder.trans tallied.elder, ?_, ?_, ?_, ?_, ?_, ?_⟩
  · exact tallied.guarded.take found untaken.1 untaken.2.1 (by rw [desk]; rfl) (by rw [desk]; rfl)
      (by rw [phase]; rfl) rfl
  · exact set_all tallied.undropped (by simp)
  · rw [recorded, desk]
    exact tallied.recorded
  · intro told
    obtain ⟨still, active, finished⟩ := tallied.known told
    rw [recorded, desk]
    refine ⟨still, ?_, finished⟩
    intro member
    rcases List.mem_cons.mp member with rfl | member
    · exact untaken.2.2 still
    · exact active member
  · rw [desk, tallied.count]
    exact congrArg _ counted.symm
  · rw [desk]
    exact tallied.once
  · rw [desk]
    refine set_all ?_ ?_
    · intro other before at_other same done
      exact (tallied.returned other before at_other same done).imp_right
        (Or.imp_right (List.mem_cons_of_mem _))
    · rintro - done
      cases done

theorem Tallied.finish [LawfulSink σ] {visited : List String}
    (tallied : pool.Tallied told root asked) (found : pool.calls[index]? = some call)
    (phase : call.phase = .finishing visited)
    (desk : crawl.desk = (pool.crawl.finish call.job.root).desk)
    (elder : crawl.elder = pool.crawl.elder) :
    (⟨pool.calls.set index { call with phase := .done }, crawl⟩ : Pool σ).Tallied told root
      asked := by
  have holds : call.phase.holds = true := by rw [phase]; rfl
  have claimed := tallied.guarded.active index call found holds
  have unfinished := tallied.guarded.unfinished index call found holds
  have active : ∀ other, other ∈ crawl.desk.guard.active ↔
      other ∈ pool.crawl.desk.guard.active ∧ other ≠ call.job.root := by
    intro other
    rw [desk, Crawl.finish_guard, Desk.mem_deactivate]
  have finished : crawl.desk.guard.finished =
      call.job.root :: pool.crawl.desk.guard.finished := by
    rw [desk, Crawl.finish_guard]
    rfl
  have counted := countP_set { call with phase := .done } (Call.isOut root) found
  simp only [Call.isOut, phase, Phase.isOut, Bool.false_and, Bool.true_and, Bool.false_eq_true,
    if_false, Nat.add_zero] at counted
  have marked := Crawl.finish_recorded pool.crawl call.job.root
  rw [← desk] at marked
  refine ⟨?_, elder.trans tallied.elder, ?_, ?_, ?_, ?_, ?_, ?_⟩
  · refine tallied.guarded.release found active ?_ holds rfl
    intro other member
    rw [finished] at member
    exact (List.mem_cons.mp member).symm
  · exact set_all tallied.undropped (by simp)
  · intro recorded
    rw [finished, List.mem_cons]
    rcases marked.2 root recorded with same | before
    · exact Or.inr (Or.inl same)
    · exact (tallied.recorded before).imp_right Or.inr
  · intro told
    obtain ⟨still, inactive, before⟩ := tallied.known told
    refine ⟨marked.1 root still, fun member => inactive ((active root).mp member).1, ?_⟩
    rw [finished, List.mem_cons]
    rintro (rfl | member)
    · exact inactive claimed
    · exact before member
  · have count := tallied.count
    rw [finished, List.count_cons]
    simp only at counted ⊢
    omega
  · have once := tallied.once
    rw [finished, List.count_cons]
    split
    · rename_i same
      rw [eq_of_beq same] at unfinished
      have first := List.count_eq_zero_of_not_mem unfinished
      omega
    · exact once
  · rw [finished]
    refine set_all ?_ ?_
    · intro other before at_other same done
      rcases tallied.returned other before at_other same done with told | member | member
      · exact Or.inl told
      · exact Or.inr (Or.inl (List.mem_cons_of_mem _ member))
      · by_cases here : root = call.job.root
        · exact Or.inr (Or.inl (here ▸ List.mem_cons_self))
        · exact Or.inr (Or.inr ((active root).mpr ⟨member, here⟩))
    · rintro rfl -
      exact Or.inr (Or.inl List.mem_cons_self)

end Tally

theorem Works.holds {pool : Pool σ} {index : Nat} (works : pool.Works index) :
    ∃ call, pool.calls[index]? = some call ∧ call.phase.holds = true := by
  rcases works with ⟨call, found, gathering⟩ | fetches
  · exact ⟨call, found, by rw [gathering]; rfl⟩
  · cases found : pool.calls[index]? with
    | none => exact absurd (by simp [act, found]) fetches
    | some call =>
      refine ⟨call, rfl, ?_⟩
      cases free : call.phase.holds with
      | true => rfl
      | false =>
        refine absurd ?_ fetches
        simp [act, found, Job.step_fetched call.job call.setting pool.crawl free]

theorem move_finished (pool : Pool σ) (moment : Moment) {root : Root}
    (finished : root ∈ pool.crawl.desk.guard.finished) :
    root ∈ (pool.move moment).crawl.desk.guard.finished := by
  cases moment with
  | act index =>
    simp only [move, act]
    split
    · exact finished
    · exact Job.step_finished _ _ _ _ finished
  | raise => exact finished
  | close =>
    simp only [move]
    rw [(Crawl.closeAfterStop_drift pool.crawl).finished]
    exact finished

theorem move_jobs (pool : Pool σ) (moment : Moment) :
    (pool.move moment).calls.map Call.job = pool.calls.map Call.job := by
  cases moment with
  | act index =>
    simp only [move, act]
    split
    · rfl
    · rename_i call found
      have named : (pool.calls.map Call.job)[index]? = some call.job := by
        rw [List.getElem?_map, found]
        rfl
      obtain ⟨bound, same⟩ := List.getElem?_eq_some_iff.mp named
      rw [List.map_set]
      simp only [← same, List.set_getElem_self]
  | raise => rfl
  | close => rfl

variable [LawfulSink σ] {told : Bool} {root : Root} {asked : Nat} {pool : Pool σ}

theorem act_tallied (index : Nat) (tallied : pool.Tallied told root asked)
    (calm : ¬ (pool.act index).Disturbed) :
    (pool.act index).Tallied told root
      (asked + (pool.asks? root (.act index)).toList.length) := by
  cases found : pool.calls[index]? with
  | none =>
    have same : pool.act index = pool := by simp [act, found]
    simpa [same, asks?, found] using tallied
  | some call =>
    have acted : pool.act index = ⟨pool.calls.set index
        { call with phase := (call.job.step call.setting call.phase pool.crawl).1 },
        (call.job.step call.setting call.phase pool.crawl).2⟩ := by simp [act, found]
    rw [acted] at calm ⊢
    rw [asks_act root found]
    by_cases quiet : call.phase.turnsClaim = false
    · refine tallied.keep found quiet ?_ ?_
      · exact Bool.eq_false_iff.mpr fun stopped => calm (Or.inl stopped)
      · intro broken
        exact calm (Or.inr ⟨index, _, set_self _ found, Or.inr broken⟩)
    · cases phase : call.phase with
      | entering =>
        obtain ⟨elder, -⟩ := Crawl.enter_rest pool.crawl call.job.root
        rcases Crawl.enter_outcome pool.crawl call.job.root with ⟨taken, refused, desk⟩ |
          ⟨free, granted, desk⟩
        · simp only [Job.step, refused]
          exact tallied.refuse found phase taken desk elder
        · simp only [Job.step, granted]
          exact tallied.grant found phase free desk elder
      | finishing visited => exact tallied.finish found phase rfl rfl
      | dropping panics => exact absurd phase (tallied.undropped index call found panics)
      | _ => exact absurd (by rw [phase]; rfl) quiet

theorem move_tallied (moment : Moment) (tallied : pool.Tallied told root asked)
    (calm : ¬ (pool.move moment).Disturbed) :
    (pool.move moment).Tallied told root (asked + (pool.asks? root moment).toList.length) := by
  cases moment with
  | act index => exact act_tallied index tallied calm
  | raise => exact absurd (Or.inl (Crawl.raise_stopped pool.crawl)) calm
  | close =>
    apply tallied.drift (Crawl.closeAfterStop_drift pool.crawl)
    exact Bool.eq_false_iff.mpr fun stopped => calm (Or.inl stopped)

theorem play_tallied (moments : List Moment) (tallied : pool.Tallied told root asked)
    (calm : ¬ (pool.play moments).Disturbed) :
    (pool.play moments).Tallied told root (asked + (pool.asked root moments).length) := by
  induction moments generalizing pool asked with
  | nil => exact tallied
  | cons moment rest ih =>
    have undisturbed : ¬ (pool.move moment).Disturbed := by
      intro disturbed
      exact calm (play_keeps Disturbed (fun _ => move_disturbed) rest _ disturbed)
    have moved := ih (move_tallied moment tallied undisturbed) calm
    have asked' : (pool.asked root (moment :: rest)).length =
        (pool.asks? root moment).toList.length + ((pool.move moment).asked root rest).length :=
      List.length_append
    rw [asked', ← Nat.add_assoc]
    exact moved

/-- Two walks of a root never overlap, nobody asks or fetches without the claim or for a root that
is finished, and where all calls come back the locations of a root are asked for once, or not at all
if the record knew it. -/
theorem resolves_once (calls : List (Setting × Job)) (store : σ) (disk : Disk)
    (moments : List Moment) :
    let start := gather calls store disk
    let now := start.play moments
    (∀ (i j : Nat) (first second : Call), now.calls[i]? = some first →
      now.calls[j]? = some second → first.phase.holds = true → second.phase.holds = true →
      first.job.root = second.job.root → i = j) ∧
    (∀ i, now.Works i → ∃ call, now.calls[i]? = some call ∧ call.phase.holds = true ∧
      call.job.root ∈ now.crawl.desk.guard.active) ∧
    (∀ (i : Nat) (call : Call) (visited : List String), now.calls[i]? = some call →
      call.phase = .finishing visited → ∀ (later : List Moment) (j : Nat) (other : Call),
        ((now.act i).play later).calls[j]? = some other → other.job.root = call.job.root →
        ¬ ((now.act i).play later).Works j) ∧
    (now.Returned → ∀ call ∈ calls,
      (RootStore.isResolved store call.2.root = .ok true →
        start.asked call.2.root moments = []) ∧
      (RootStore.isResolved store call.2.root ≠ .ok true →
        ∃ i, start.asked call.2.root moments = [i])) := by
  intro start now
  have guarded : now.Guarded :=
    play_keeps Guarded move_guarded moments start (gather_guarded calls store disk)
  refine ⟨guarded.alone, ?_, ?_, ?_⟩
  · intro i works
    obtain ⟨call, found, holds⟩ := works.holds
    exact ⟨call, found, holds, guarded.active i call found holds⟩
  · intro i call visited found phase later j other at_other same works
    have finished : call.job.root ∈ (now.act i).crawl.desk.guard.finished := by
      simp only [act, found, phase, Job.step, Crawl.info, Crawl.note_desk, Crawl.finish_guard]
      exact List.mem_cons_self
    have still := play_keeps (fun pool => call.job.root ∈ pool.crawl.desk.guard.finished)
      (fun pool moment => move_finished pool moment) later (now.act i) finished
    have afterwards := play_keeps Guarded move_guarded later (now.act i) (act_guarded guarded i)
    obtain ⟨holder, at_holder, holds⟩ := works.holds
    rw [at_other] at at_holder
    cases at_holder
    exact afterwards.unfinished j other at_other holds (same ▸ still)
  · intro returned call member
    have calm : ¬ now.Disturbed := by
      rintro (stopped | ⟨index, broken, found, phase⟩)
      · rw [returned.1] at stopped
        cases stopped
      · rw [returned.done found] at phase
        rcases phase with phase | phase <;> cases phase
    have tallied := play_tallied moments (gather_tallied calls store disk call.2.root) calm
    have jobs : now.calls.map Call.job = calls.map (·.2) := by
      have kept := play_keeps (fun pool => pool.calls.map Call.job = start.calls.map Call.job)
        (fun pool moment kept => (move_jobs pool moment).trans kept) moments start rfl
      apply kept.trans
      simp [start, gather]
    obtain ⟨index, at_index⟩ := List.getElem?_of_mem member
    have named : (now.calls.map Call.job)[index]? = some call.2 := by
      rw [jobs, List.getElem?_map, at_index]
      rfl
    rw [List.getElem?_map, Option.map_eq_some_iff] at named
    obtain ⟨mine, found, job⟩ := named
    have settled := tallied.settle returned found (congrArg Job.root job)
    rw [Nat.zero_add] at settled
    have recorded := Desk.recorded_iff (σ := σ) ⟨.fresh, store⟩ call.2.root
    constructor
    · intro resolved
      rw [recorded.mpr resolved] at settled
      exact List.eq_nil_of_length_eq_zero settled
    · intro unresolved
      rw [Bool.eq_false_iff.mpr (mt recorded.mp unresolved)] at settled
      exact List.length_eq_one_iff.mp settled

def rivals : List (Setting × Job) :=
  List.replicate 2 (.ofTexts [], ⟨⟨"http://a"⟩, ["http://a/s.xml"], true, false⟩)

theorem resolves_once_rivals :
    let start := gather rivals (⟨⟨[], false⟩, 0, none, none⟩ : Listener MemoryStore) .empty
    let moments := [0, 1, 0, 1, 0, 0, 0, 0, 0, 0].map Moment.act
    (start.play moments).Returned ∧ ∃ i, start.asked ⟨"http://a"⟩ moments = [i] := by
  intro start moments
  have returned : (start.play moments).Returned := by decide +kernel
  refine ⟨returned, ?_⟩
  apply ((resolves_once rivals _ .empty moments).2.2.2 returned _ List.mem_cons_self).2
  intro told
  cases told

end Pool

end Sitemaps
