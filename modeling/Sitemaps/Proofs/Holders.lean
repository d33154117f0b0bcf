import Sitemaps.Proofs.Moments

/-!
The claims of a pool of calls. A guard knows exactly the roots whose claims are held, each is held
by one call, and a finished root is never claimed again.
-/

namespace Sitemaps

namespace Pool

variable {σ : Type}

structure Guarded (pool : Pool σ) : Prop where
  claimed : ∀ root ∈ pool.crawl.desk.guard.active, ∃ (index : Nat) (call : Call),
    pool.calls[index]? = some call ∧ call.phase.holds = true ∧ call.job.root = root
  active : ∀ (index : Nat) (call : Call), pool.calls[index]? = some call →
    call.phase.holds = true → call.job.root ∈ pool.crawl.desk.guard.active
  unfinished : ∀ (index : Nat) (call : Call), pool.calls[index]? = some call →
    call.phase.holds = true → call.job.root ∉ pool.crawl.desk.guard.finished
  alone : ∀ (i j : Nat) (first second : Call), pool.calls[i]? = some first →
    pool.calls[j]? = some second → first.phase.holds = true → second.phase.holds = true →
    first.job.root = second.job.root → i = j

theorem gather_guarded (calls : List (Setting × Job)) (store : σ) (disk : Disk) :
    (gather calls store disk).Guarded := by
  have none_holds : ∀ (index : Nat) (call : Call),
      (gather calls store disk).calls[index]? = some call → call.phase.holds = true → False := by
    intro index call found holds
    simp only [gather, List.getElem?_map, Option.map_eq_some_iff] at found
    obtain ⟨named, -, rfl⟩ := found
    cases holds
  refine ⟨?_, ?_, ?_, ?_⟩
  · intro root member
    cases member
  · intro index call found holds
    exact (none_holds index call found holds).elim
  · intro index call found holds
    exact (none_holds index call found holds).elim
  · intro i j first second found _ holds
    exact (none_holds i first found holds).elim

section Change

variable {pool : Pool σ} {crawl : Crawl σ} {index : Nat} {call : Call} {phase : Phase}

theorem Guarded.keep (guarded : pool.Guarded) (found : pool.calls[index]? = some call)
    (active : crawl.desk.guard.active = pool.crawl.desk.guard.active)
    (finished : crawl.desk.guard.finished = pool.crawl.desk.guard.finished)
    (holds : phase.holds = call.phase.holds) :
    (⟨pool.calls.set index { call with phase := phase }, crawl⟩ : Pool σ).Guarded := by
  -- every call corresponds to one of the same root that held a claim before just as it does now
  have before : ∀ (other : Nat) (now : Call),
      (pool.calls.set index { call with phase := phase })[other]? = some now →
      ∃ old, pool.calls[other]? = some old ∧ old.phase.holds = now.phase.holds ∧
        old.job.root = now.job.root := by
    intro other now at_other
    rcases set_found at_other with ⟨rfl, rfl⟩ | ⟨-, old⟩
    · exact ⟨call, found, holds.symm, rfl⟩
    · exact ⟨now, old, rfl, rfl⟩
  refine ⟨?_, ?_, ?_, ?_⟩
  · intro root member
    obtain ⟨other, old, at_other, held, same⟩ := guarded.claimed root (active ▸ member)
    by_cases here : other = index
    · subst here
      rw [found] at at_other
      cases at_other
      exact ⟨other, _, set_self _ found, holds.trans held, same⟩
    · exact ⟨other, old, (set_other _ here).trans at_other, held, same⟩
  · intro other now at_other held
    obtain ⟨old, at_old, holding, same⟩ := before other now at_other
    rw [← same]
    exact active ▸ guarded.active other old at_old (holding.trans held)
  · intro other now at_other held
    obtain ⟨old, at_old, holding, same⟩ := before other now at_other
    rw [← same]
    exact finished ▸ guarded.unfinished other old at_old (holding.trans held)
  · intro i j first second at_i at_j first_holds second_holds roots
    obtain ⟨a, at_a, a_holds, a_root⟩ := before i first at_i
    obtain ⟨b, at_b, b_holds, b_root⟩ := before j second at_j
    exact guarded.alone i j a b at_a at_b (a_holds.trans first_holds) (b_holds.trans second_holds)
      (a_root.trans (roots.trans b_root.symm))

theorem Guarded.take (guarded : pool.Guarded) (found : pool.calls[index]? = some call)
    (unclaimed : call.job.root ∉ pool.crawl.desk.guard.active)
    (unfinished : call.job.root ∉ pool.crawl.desk.guard.finished)
    (active : crawl.desk.guard.active = call.job.root :: pool.crawl.desk.guard.active)
    (finished : crawl.desk.guard.finished = pool.crawl.desk.guard.finished)
    (free : call.phase.holds = false) (holds : phase.holds = true) :
    (⟨pool.calls.set index { call with phase := phase }, crawl⟩ : Pool σ).Guarded := by
  have others : ∀ (other : Nat) (now : Call), pool.calls[other]? = some now →
      now.phase.holds = true → now.job.root ≠ call.job.root := by
    intro other now at_other held same
    exact unclaimed (same ▸ guarded.active other now at_other held)
  refine ⟨?_, ?_, ?_, ?_⟩
  · intro root member
    simp only [active, List.mem_cons] at member
    rcases member with rfl | member
    · exact ⟨index, _, set_self _ found, holds, rfl⟩
    · obtain ⟨other, old, at_other, held, same⟩ := guarded.claimed root member
      have apart : other ≠ index := by
        rintro rfl
        rw [found] at at_other
        cases at_other
        rw [free] at held
        cases held
      exact ⟨other, old, (set_other _ apart).trans at_other, held, same⟩
  · intro other now at_other held
    simp only [active, List.mem_cons]
    rcases set_found at_other with ⟨rfl, rfl⟩ | ⟨-, old⟩
    · exact Or.inl rfl
    · exact Or.inr (guarded.active other now old held)
  · intro other now at_other held
    simp only [finished]
    rcases set_found at_other with ⟨rfl, rfl⟩ | ⟨-, old⟩
    · exact unfinished
    · exact guarded.unfinished other now old held
  · intro i j first second at_i at_j first_holds second_holds roots
    rcases set_found at_i with ⟨rfl, rfl⟩ | ⟨-, old_i⟩
    · rcases set_found at_j with ⟨rfl, -⟩ | ⟨-, old_j⟩
      · rfl
      · exact absurd roots.symm (others j second old_j second_holds)
    · rcases set_found at_j with ⟨rfl, rfl⟩ | ⟨-, old_j⟩
      · exact absurd roots (others i first old_i first_holds)
      · exact guarded.alone i j first second old_i old_j first_holds second_holds roots

theorem Guarded.release (guarded : pool.Guarded) (found : pool.calls[index]? = some call)
    (active : ∀ root, root ∈ crawl.desk.guard.active ↔
      root ∈ pool.crawl.desk.guard.active ∧ root ≠ call.job.root)
    (finished : ∀ root ∈ crawl.desk.guard.finished,
      root ∈ pool.crawl.desk.guard.finished ∨ root = call.job.root)
    (holds : call.phase.holds = true) (free : phase.holds = false) :
    (⟨pool.calls.set index { call with phase := phase }, crawl⟩ : Pool σ).Guarded := by
  -- whoever holds a claim now held it before, and not on the root that was released
  have before : ∀ (other : Nat) (now : Call),
      (pool.calls.set index { call with phase := phase })[other]? = some now →
      now.phase.holds = true →
      pool.calls[other]? = some now ∧ now.job.root ≠ call.job.root := by
    intro other now at_other held
    rcases set_found at_other with ⟨rfl, rfl⟩ | ⟨apart, old⟩
    · rw [free] at held
      cases held
    · exact ⟨old, fun same => apart (guarded.alone other index now call old found held holds same)⟩
  refine ⟨?_, ?_, ?_, ?_⟩
  · intro root member
    obtain ⟨member, apart⟩ := (active root).mp member
    obtain ⟨other, old, at_other, held, same⟩ := guarded.claimed root member
    have elsewhere : other ≠ index := by
      rintro rfl
      rw [found] at at_other
      cases at_other
      exact apart same.symm
    exact ⟨other, old, (set_other _ elsewhere).trans at_other, held, same⟩
  · intro other now at_other held
    obtain ⟨old, apart⟩ := before other now at_other held
    exact (active _).mpr ⟨guarded.active other now old held, apart⟩
  · intro other now at_other held done
    obtain ⟨old, apart⟩ := before other now at_other held
    rcases finished _ done with done | same
    · exact guarded.unfinished other now old held done
    · exact apart same
  · intro i j first second at_i at_j first_holds second_holds roots
    exact guarded.alone i j first second (before i first at_i first_holds).1
      (before j second at_j second_holds).1 first_holds second_holds roots

end Change

variable [RootStore σ] [Sink σ]

theorem Guarded.drift {pool : Pool σ} {crawl : Crawl σ} (guarded : pool.Guarded)
    (drift : pool.crawl.Drift crawl) : (⟨pool.calls, crawl⟩ : Pool σ).Guarded := by
  refine ⟨?_, ?_, ?_, guarded.alone⟩
  · rw [drift.active]
    exact guarded.claimed
  · rw [drift.active]
    exact guarded.active
  · rw [drift.finished]
    exact guarded.unfinished

theorem act_guarded {pool : Pool σ} (guarded : pool.Guarded) (index : Nat) :
    (pool.act index).Guarded := by
  unfold act
  split
  · exact guarded
  · rename_i call found
    by_cases quiet : call.phase.turnsClaim = false
    · have step := Job.step_drift call.job call.setting pool.crawl quiet
      exact guarded.keep found step.1.active step.1.finished step.2
    · cases phase : call.phase with
      | entering =>
        rcases Crawl.enter_outcome pool.crawl call.job.root with ⟨-, refused, desk⟩ |
          ⟨free, granted, desk⟩
        · simp only [Job.step, refused]
          exact guarded.keep found (by rw [desk]) (by rw [desk]) (by rw [phase]; rfl)
        · have untaken := mt (Desk.isTaken_iff pool.crawl.desk call.job.root).mpr (by simp [free])
          simp only [Job.step, granted]
          exact guarded.take found (fun active => untaken (Or.inl active))
            (fun finished => untaken (Or.inr (Or.inl finished))) (by rw [desk]; rfl)
            (by rw [desk]; rfl) (by rw [phase]; rfl) rfl
      | finishing visited =>
        simp only [Job.step]
        refine guarded.release found ?_ ?_ (by rw [phase]; rfl) rfl
        · intro root
          simp only [Crawl.info, Crawl.note_desk, Crawl.finish_guard, Desk.mem_deactivate]
        · intro root finished
          simp only [Crawl.info, Crawl.note_desk, Crawl.finish_guard] at finished
          exact (List.mem_cons.mp finished).symm
      | dropping panics =>
        simp only [Job.step]
        refine guarded.release found ?_ ?_ (by rw [phase]; rfl) (by cases panics <;> rfl)
        · intro root
          simp only [Crawl.drop_desk, Desk.mem_deactivate]
        · intro root finished
          exact Or.inl finished
      | _ => exact absurd (by rw [phase]; rfl) quiet

theorem move_guarded (pool : Pool σ) (moment : Moment) (guarded : pool.Guarded) :
    (pool.move moment).Guarded := by
  cases moment with
  | act index => exact act_guarded guarded index
  | raise => exact guarded.drift (Crawl.raise_drift pool.crawl)
  | close => exact guarded.drift (Crawl.closeAfterStop_drift pool.crawl)

end Pool

end Sitemaps
