import Sitemaps.Proofs.Archives
import Sitemaps.Proofs.Expansion
import Sitemaps.Proofs.Staging

/-!
Staging is all or nothing. A file results only from a body that came through to its end, and holds
all of it; an archive that is cut within a member never passes for a shorter one.
-/

namespace Sitemaps

namespace Gzip

/-- The bytes of one whole member, however it is compressed. -/
def IsMember (bytes : List UInt8) : Prop := ∃ content, member bytes = .ok (content, [])

theorem Member.isMember (member : Member) : IsMember member.written := by
  have read := member.member_written []
  rw [List.append_nil] at read
  exact ⟨member.content, read⟩

theorem members_failed {bytes : List UInt8} {fault : Fault} (failed : member bytes = .error fault) :
    members bytes = .error fault := by
  rw [members]
  split <;> simp_all

theorem member_cut {piece missing : List UInt8} (whole : IsMember (piece ++ missing))
    (cut : missing ≠ []) : ∃ fault, member piece = .error fault := by
  obtain ⟨content, read⟩ := whole
  cases short : member piece with
  | error fault => exact ⟨fault, rfl⟩
  | ok pair =>
    have longer := member_append missing short
    rw [read] at longer
    simp only [Except.ok.injEq, Prod.mk.injEq] at longer
    exact absurd (List.append_eq_nil_iff.mp longer.2.symm).2 cut

/-- An archive that ends anywhere but behind one of its members does not expand. -/
theorem members_cut {framed : List (List UInt8)} (whole : ∀ bytes ∈ framed, IsMember bytes)
    {piece : List UInt8} (cut : piece <+: framed.flatten)
    (within : ∀ count, piece ≠ (framed.take count).flatten) :
    ∃ fault, members piece = .error fault := by
  induction framed generalizing piece with
  | nil =>
    have blank : piece = [] := List.prefix_nil.mp cut
    exact absurd blank (within 0)
  | cons first framed ih =>
    obtain ⟨missing, same⟩ := cut
    rw [List.flatten_cons] at same
    rcases List.append_eq_append_iff.mp same with ⟨rest, firstly, -⟩ | ⟨inner, later, others⟩
    · subst firstly
      have missed : rest ≠ [] := by
        rintro rfl
        exact within 1 (by simp)
      obtain ⟨fault, failed⟩ := member_cut (whole _ List.mem_cons_self) missed
      exact ⟨fault, members_failed failed⟩
    · subst later
      obtain ⟨content, read⟩ := whole first List.mem_cons_self
      have step := members_step (member_append inner read)
      rw [List.nil_append] at step
      have more : inner ≠ [] := by
        rintro rfl
        exact within 1 (by simp)
      have inside : ∀ count, inner ≠ (framed.take count).flatten := by
        intro count boundary
        apply within (count + 1)
        rw [List.take_succ_cons, List.flatten_cons, ← boundary]
      obtain ⟨fault, failed⟩ := ih (fun bytes member => whole bytes (List.mem_cons_of_mem _ member))
        ⟨missing, others.symm⟩ inside
      refine ⟨fault, ?_⟩
      rw [step, if_neg more, failed]
      rfl

end Gzip

/-- The body came through to its end and amounts to `content`, expanded if it is declared to be
compressed. -/
def Response.Delivers (response : Response) (content : List UInt8) : Prop :=
  response.broken = none ∧
    if isGzip response.contentType then Gzip.members response.body = .ok content
    else response.body = content

theorem Response.content_iff (response : Response) (content : List UInt8) :
    response.content = .ok content ↔ response.Delivers content := by
  unfold Response.content Delivers
  cases isGzip response.contentType with
  | false =>
    cases response.broken with
    | none => simp
    | some message => simp
  | true =>
    cases expanded : Gzip.members response.body with
    | error fault =>
      cases response.broken <;> simp [Gzip.expandArchive, expanded, Except.mapError]
    | ok whole =>
      cases response.broken <;> simp [Gzip.expandArchive, expanded, Except.mapError]

namespace Staging

variable (staging : Staging) (disk : Disk) (location : String)

theorem stage_content_iff (result : Except FetchFault Response) (content : List UInt8) :
    (staging.stage disk location result).1.content? = some content ↔
      (∃ response, result = .ok response ∧ response.status = 200 ∧ response.Delivers content) ∧
        ∃ made, disk.makeDirectories staging.place = .ok made := by
  cases result with
  | error fault => simp [stage, Staged.content?]
  | ok response =>
    simp only [← response.content_iff, Except.ok.injEq, exists_eq_left']
    by_cases fine : response.status = 200
    · have isOk : response.isOk = true := by simp [Response.isOk, fine]
      rw [stage, if_pos isOk, save]
      cases disk.makeDirectories staging.place with
      | error fault => simp [Staged.content?]
      | ok made =>
        cases response.content with
        | error reason => simp [Staged.content?]
        | ok whole => simp [Staged.content?, Disk.addTemporary, fine]
    · have unfine : ¬ response.isOk = true := by simp [Response.isOk, fine]
      rw [stage, if_neg unfine]
      split <;> simp [Staged.content?, fine]

theorem stage_cut {framed : List (List UInt8)} (whole : ∀ bytes ∈ framed, Gzip.IsMember bytes)
    {piece : List UInt8} (cut : piece <+: framed.flatten)
    (within : ∀ count, piece ≠ (framed.take count).flatten) {contentType : String}
    (archive : DeclaresArchive contentType) (broken : Option String) {made : Disk}
    (ready : disk.makeDirectories staging.place = .ok made) :
    ∃ reason, staging.stage disk location (.ok ⟨200, some contentType, piece, broken⟩) =
      (.failed (.body location reason), made) := by
  obtain ⟨fault, failed⟩ := Gzip.members_cut whole cut within
  have unread : ∃ reason, Response.content ⟨200, some contentType, piece, broken⟩ =
      .error reason := by
    rw [Response.content, if_pos ((isGzip_iff contentType).mpr archive)]
    unfold Gzip.expandArchive
    rw [failed]
    cases broken <;> exact ⟨_, rfl⟩
  obtain ⟨reason, unread⟩ := unread
  refine ⟨reason, ?_⟩
  have fine : Response.isOk ⟨200, some contentType, piece, broken⟩ = true := rfl
  rw [stage, if_pos fine, save, ready, unread]

/-- A file is staged exactly if the answer is the document, all of its body came through and
expanded, and there is a directory for it; the file then holds all of that. Nothing else is left
behind by staging, and nothing at all once the file is deleted. An archive, compressed or not, that
was cut anywhere within a member is a faulty body. -/
theorem stage_atomic (result : Except FetchFault Response) :
    let staged := (staging.stage disk location result).1
    let after := (staging.stage disk location result).2
    (∀ content, staged.content? = some content ↔
      (∃ response, result = .ok response ∧ response.status = 200 ∧ response.Delivers content) ∧
        ∃ made, disk.makeDirectories staging.place = .ok made) ∧
    (∀ file, staged = .file file → (after.delete file).files = disk.files) ∧
    ((∀ file, staged ≠ .file file) → after.files = disk.files) ∧
    (∀ member : Gzip.Member, Gzip.IsMember member.written) ∧
    ∀ framed : List (List UInt8), (∀ bytes ∈ framed, Gzip.IsMember bytes) →
      ∀ (piece : List UInt8) (contentType : String) (broken : Option String) (made : Disk),
        piece <+: framed.flatten → (∀ count, piece ≠ (framed.take count).flatten) →
        DeclaresArchive contentType → disk.makeDirectories staging.place = .ok made →
        ∃ reason, staging.stage disk location (.ok ⟨200, some contentType, piece, broken⟩) =
          (.failed (.body location reason), made) := by
  intro staged after
  have files : after.files = staged.files ++ disk.files := staging.stage_files disk location result
  refine ⟨staging.stage_content_iff disk location result, ?_, ?_, Gzip.Member.isMember, ?_⟩
  · intro file stored
    rw [stored] at files
    exact Disk.delete_files files
  · intro unstored
    have nothing : staged.files = [] := by
      cases outcome : staged with
      | file file => exact absurd outcome (unstored file)
      | absent => rfl
      | failed fault => rfl
    rw [files, nothing, List.nil_append]
  · intro framed whole piece contentType broken made cut within archive ready
    exact staging.stage_cut disk location whole cut within archive broken ready

theorem stage_atomic_second :
    let first : List UInt8 := [0x1F, 0x8B, 8, 0, 0, 0, 0, 0, 0, 255, 1, 1, 0, 0xFE, 0xFF, 97, 0x43,
      0xBE, 0xB7, 0xE8, 1, 0, 0, 0]
    let second : List UInt8 := [0x1F, 0x8B, 8, 0, 0, 0, 0, 0, 0, 255, 1, 0, 0, 0xFF, 0xFF, 0, 0, 0,
      0, 0, 0, 0, 0]
    let staging : Staging := ⟨["tmp"], "tmp"⟩
    first ++ [0x1F] <+: [first, second].flatten ∧
      ∃ reason, staging.stage .empty "http://a/s.xml"
        (.ok ⟨200, some "application/gzip", first ++ [0x1F], none⟩) =
          (.failed (.body "http://a/s.xml" reason), ⟨[["tmp"]], [], 0⟩) := by
  intro first second staging
  have letter : Gzip.Checks 0xE8B7BE43 [97] := Gzip.checks_iff.mpr (by decide)
  have nothing : Gzip.Checks 0 [] := Gzip.checks_iff.mpr (by decide)
  let members : List Gzip.Member :=
    [⟨false, fun _ => 0, 0, 255, [], ⟨[97], by decide, 0⟩, _, letter⟩,
      ⟨false, fun _ => 0, 0, 255, [], ⟨[], by decide, 0⟩, _, nothing⟩]
  have framed : members.map Gzip.Member.written = [first, second] := by
    simp only [members, first, second, List.map_cons, List.map_nil, Gzip.Member.written,
      Gzip.Member.header, Gzip.Member.data, Gzip.Member.trailer, Gzip.Member.content,
      Gzip.Chunk.written]
    rfl
  obtain ⟨-, -, -, written, cut⟩ := stage_atomic staging .empty "http://a/s.xml" (.error .timeout)
  have whole : ∀ bytes ∈ [first, second], Gzip.IsMember bytes := by
    rw [← framed]
    intro bytes inside
    obtain ⟨member, -, rfl⟩ := List.mem_map.mp inside
    exact written member
  have part : first ++ [0x1F] <+: [first, second].flatten := by decide
  have within : ∀ count, first ++ [0x1F] ≠ ([first, second].take count).flatten := by
    intro count
    rcases count with _ | _ | count
    · decide
    · decide
    · rw [List.take_succ_cons, List.take_succ_cons, List.take_nil]
      decide
  have archive : DeclaresArchive "application/gzip" :=
    ⟨[], "application/gzip".toList, [], [], by decide, by simp, by simp, Or.inl rfl,
      Or.inl (by decide)⟩
  exact ⟨part, cut [first, second] whole _ _ none _ part within archive rfl⟩

end Staging

end Sitemaps
