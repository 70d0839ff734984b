import ReproItSdk.Subject.RustPackage

/-! # Bytes of a Rust subject spool

A capture reserves the bytes of its file before it copies them, and gives them back when the rename
of the copy fails because the object exists.  A rename that replaces the object gives nothing back.

Main results:

- Theorem {lit}`captureFile_ok`: what a capture that succeeds does to the spool.
- Theorem {lit}`captureFiles_excess`: what the reservation holds beyond the objects of the spool.
- Theorem {lit}`spool_accounting`: when the reservation holds the bytes of the objects.
-/

namespace ReproItSdk
namespace RustSubject

open Fallible

variable {Digest : Type} [DecidableEq Digest] {core : SubjectCore Digest}

/-! ## One capture -/

/-- The bytes that the copy loop reads: those of all reads before the first empty one. -/
def fileContent : List ReadAnswer → Bytes
  | [] => []
  | read :: reads =>
      match read.bytes with
      | none => []
      | some [] => []
      | some (byte :: chunk) => (byte :: chunk) ++ fileContent reads

/-- The bytes of a captured file. -/
def FileRequest.content (request : FileRequest) : Bytes :=
  fileContent request.answers.reads

/-- A copy has the bytes that its reads offered. -/
theorem copyFile_content {len : Nat} {reads : List ReadAnswer} {start copied : Copied}
    (copies : copyFile len reads start = .ok copied) :
    copied.content = start.content ++ fileContent reads := by
  induction reads generalizing start with
  | nil =>
      cases copies
      simp [fileContent]
  | cons read reads ih =>
      rcases read with ⟨bytes, written⟩
      cases bytes with
      | none => simp [copyFile] at copies
      | some chunk =>
          cases chunk with
          | nil =>
              cases copies
              simp [fileContent]
          | cons byte chunk =>
              simp only [copyFile] at copies
              split at copies
              · cases copies
              · split at copies
                · cases copies
                · rw [ih copies]
                  simp [Copied.extend, fileContent]

omit [DecidableEq Digest] in
/-- A reservation that succeeds. -/
theorem reserveSubjectBytes_ok {bytes : Nat} {granted : Bool} {spool next : SubjectSpool Digest}
    {done : Unit} (reserved : reserveSubjectBytes bytes granted spool = (.ok done, next)) :
    next = { spool with reserved := spool.reserved + bytes } := by
  unfold reserveSubjectBytes at reserved
  exact modify_eq_ok.mp (check_bind_eq_ok.mp reserved).2

/-- What a capture does to the spool: its object takes the place of what was there, or the object
that was there stays and the bytes are given back. -/
inductive Captured (core : SubjectCore Digest) (request : FileRequest)
    (spool : SubjectSpool Digest) : SubjectSpool Digest → Prop where
  | renamed (answer : request.answers.rename = .renamed) :
      Captured core request spool
        { files := spool.files.insert (core.digestOf request.content) request.content
          reserved := spool.reserved + request.content.length }
  | refused (stored : Bytes) (answer : request.answers.rename = .refused)
      (present : spool.files.lookup (core.digestOf request.content) = some stored)
      (sized : stored.length = request.content.length) :
      Captured core request spool spool

/-- A rename that succeeds, or that meets the object of the same digest. -/
theorem publish_ok {request : FileRequest} {spool next : SubjectSpool Digest} {done : Unit}
    (published : publish core (core.digestOf request.content) request.content request.answers
      { spool with reserved := spool.reserved + request.content.length } = (.ok done, next)) :
    Captured core request spool next := by
  unfold publish at published
  cases answer : request.answers.rename with
  | renamed =>
      rw [answer] at published
      rw [modify_eq_ok.mp published]
      exact .renamed answer
  | refused =>
      simp only [answer] at published
      simp only [find_bind_eq_ok, check_bind_eq_ok] at published
      obtain ⟨stored, present, -, -, counted, published⟩ := published
      rw [modify_eq_ok.mp published]
      have kept : ({ spool with reserved := spool.reserved + request.content.length } :
          SubjectSpool Digest).release request.content.length = spool := by
        simp [SubjectSpool.release]
      rw [kept]
      exact .refused stored answer present (beq_iff_eq.mp counted)

/-- A capture that succeeds names its file by the digest of the bytes it read. -/
theorem captureFile_ok {request : FileRequest} {spool next : SubjectSpool Digest}
    {file : CapturedFile Digest}
    (captured : captureFile core request.sourcePath request.kind request.policy request.answers
      spool = (.ok file, next)) :
    file.digest = core.digestOf request.content ∧ file.size = request.content.length ∧
      file.sourcePath = request.sourcePath ∧ file.kind = request.kind ∧
      Captured core request spool next := by
  unfold captureFile at captured
  simp only [check_bind_eq_ok, ofExcept_bind_eq_ok] at captured
  obtain ⟨-, before, -, -, captured⟩ := captured
  obtain ⟨_, _, reserved, captured⟩ := bind_eq_ok.mp captured
  simp only [check_bind_eq_ok, ofExcept_bind_eq_ok] at captured
  obtain ⟨-, _, -, -, _, -, -, -, copied, copies, -, _, -, whole, _, -, -, captured⟩ := captured
  obtain ⟨_, _, published, captured⟩ := bind_eq_ok.mp captured
  obtain ⟨rfl, rfl⟩ := pure_eq_ok.mp captured
  have content : copied.content = request.content := copyFile_content copies
  have counted : before.len = request.content.length := by
    have same : copied.content.length = before.len := by simp_all
    rw [← same, content]
  rw [reserveSubjectBytes_ok reserved, content, counted] at published
  refine ⟨by rw [content], by rw [content], rfl, rfl, publish_ok published⟩

/-! ## Books of a spool -/

/-- Bytes of the distinct objects of a spool. -/
def SubjectSpool.total (spool : SubjectSpool Digest) : Nat :=
  KeyedTable.total (fun _ content => content.length) spool.files

/-- Every object file holds the bytes of its digest. -/
def SubjectSpool.Exact (core : SubjectCore Digest) (spool : SubjectSpool Digest) : Prop :=
  ∀ digest content, spool.files.lookup digest = some content → core.digestOf content = digest

/-- The copy of a request takes the place of an object of its digest that has bytes. -/
def FileRequest.Replaces (core : SubjectCore Digest) (request : FileRequest)
    (spool : SubjectSpool Digest) : Prop :=
  request.answers.rename = .renamed ∧
    ∃ stored, spool.files.lookup (core.digestOf request.content) = some stored ∧ stored ≠ []

/-- A capture keeps every object file exact. -/
theorem Captured.exact {request : FileRequest} {spool next : SubjectSpool Digest}
    (captured : Captured core request spool next) (exact : spool.Exact core) :
    next.Exact core := by
  cases captured with
  | refused stored answer present sized => exact exact
  | renamed answer =>
      intro digest content found
      by_cases same : digest = core.digestOf request.content
      · subst same
        rw [AList.lookup_insert] at found
        injection found with equal
        rw [equal]
      · rw [AList.lookup_insert_ne same] at found
        exact exact digest content found

/-- What a capture adds to the reservation beyond its objects: the bytes of the object that its copy
takes the place of. -/
theorem Captured.excess {request : FileRequest} {spool next : SubjectSpool Digest} {excess : Nat}
    (captured : Captured core request spool next)
    (reserved : spool.reserved = spool.total + excess) :
    ∃ more, next.reserved = next.total + (excess + more) ∧
      (more = 0 ↔ ¬ request.Replaces core spool) := by
  cases captured with
  | refused stored answer present sized =>
      refine ⟨0, by simpa using reserved, ?_⟩
      simp [FileRequest.Replaces, answer]
  | renamed answer =>
      unfold SubjectSpool.total at reserved ⊢
      cases present : spool.files.lookup (core.digestOf request.content) with
      | none =>
          refine ⟨0, ?_, ?_⟩
          · rw [KeyedTable.total_insert_of_lookup_none _ present]
            simp only [reserved]
            omega
          · simp [FileRequest.Replaces, present]
      | some stored =>
          refine ⟨stored.length, ?_, ?_⟩
          · have inserted := KeyedTable.total_insert_of_lookup
              (fun (_ : Digest) (content : Bytes) => content.length) present request.content
            simp only [reserved] at inserted ⊢
            omega
          · simp [FileRequest.Replaces, answer, present]

/-- The digests of a spool after a capture. -/
theorem Captured.isSome_lookup {request : FileRequest} {spool next : SubjectSpool Digest}
    (captured : Captured core request spool next) (digest : Digest) :
    (next.files.lookup digest).isSome = true ↔
      digest = core.digestOf request.content ∨ (spool.files.lookup digest).isSome = true := by
  cases captured with
  | renamed answer =>
      by_cases same : digest = core.digestOf request.content
      · subst same
        simp
      · simp [AList.lookup_insert_ne same, same]
  | refused stored answer present sized =>
      by_cases same : digest = core.digestOf request.content
      · subst same
        simp [present]
      · simp [same]

/-! ## Captures of a package -/

/-- No copy takes the place of an object that has bytes. -/
def Orderly (core : SubjectCore Digest) : List FileRequest → SubjectSpool Digest → Prop
  | [], _ => True
  | request :: requests, spool =>
      ¬ request.Replaces core spool ∧
        Orderly core requests
          (captureFile core request.sourcePath request.kind request.policy request.answers spool).2

/-- Captures keep every object file exact, add to the reservation beyond the objects what their
copies replace, and put the objects of their digests into the spool. -/
theorem captureFiles_excess {requests : List FileRequest} {spool next : SubjectSpool Digest}
    {excess : Nat} {captured : List (CapturedFile Digest)}
    (exact : spool.Exact core) (reserved : spool.reserved = spool.total + excess)
    (captures : captureFiles core requests spool = (.ok captured, next)) :
    next.Exact core ∧
      (∃ more, next.reserved = next.total + (excess + more) ∧
        (more = 0 ↔ Orderly core requests spool)) ∧
      ∀ digest, (next.files.lookup digest).isSome = true ↔
        (∃ file ∈ captured, file.digest = digest) ∨ (spool.files.lookup digest).isSome = true := by
  induction requests generalizing spool excess captured with
  | nil =>
      obtain ⟨rfl, rfl⟩ := pure_eq_ok.mp captures
      exact ⟨exact, ⟨0, reserved, by simp [Orderly]⟩, by simp⟩
  | cons request requests ih =>
      obtain ⟨file, middle, first, captures⟩ := bind_eq_ok.mp captures
      obtain ⟨files, last, rest, captures⟩ := bind_eq_ok.mp captures
      obtain ⟨rfl, rfl⟩ := pure_eq_ok.mp captures
      obtain ⟨named, -, -, -, step⟩ := captureFile_ok first
      obtain ⟨more, counted, orderly⟩ := step.excess reserved
      obtain ⟨exactly, ⟨later, total, all⟩, present⟩ := ih (step.exact exact) counted rest
      refine ⟨exactly, ⟨more + later, ?_, ?_⟩, ?_⟩
      · rw [total]
        omega
      · rw [Orderly, first, ← orderly, ← all]
        omega
      · intro digest
        rw [present, step.isSome_lookup, ← named]
        simp only [List.mem_cons, exists_eq_or_imp]
        constructor
        · rintro (later | rfl | earlier)
          · exact Or.inl (Or.inr later)
          · exact Or.inl (Or.inl rfl)
          · exact Or.inr earlier
        · rintro ((rfl | later) | earlier)
          · exact Or.inr (Or.inl rfl)
          · exact Or.inl later
          · exact Or.inr (Or.inr earlier)

/-! ## Objects that the packager makes -/

/-- The packaged objects of an assembly are those of the spool. -/
def Packs (assembly : SubjectAssembly Digest) (spool : SubjectSpool Digest) : Prop :=
  ∀ digest, (assembly.packaged.lookup digest).isSome = (spool.files.lookup digest).isSome

/-- {lit}`or_insert` adds one digest. -/
theorem isSome_insertPackaged (packaged : KeyedTable Digest Nat) (added : Digest) (size : Nat)
    (digest : Digest) :
    ((insertPackaged packaged added size).lookup digest).isSome = true ↔
      digest = added ∨ (packaged.lookup digest).isSome = true := by
  unfold insertPackaged
  split
  · rename_i stored present
    by_cases same : digest = added
    · subst same
      simp [present]
    · simp [same]
  · by_cases same : digest = added
    · subst same
      simp
    · simp [AList.lookup_insert_ne same, same]

/-- An object that the packager makes is reserved and written unless the spool has it. -/
theorem captureBytes_ok {assembly : SubjectAssembly Digest} {request : BytesRequest}
    {spool next : SubjectSpool Digest} {made : Digest × SubjectAssembly Digest}
    (packs : Packs assembly spool)
    (captured : captureBytes core assembly request spool = (.ok made, next)) :
    Packs made.2 next ∧
      ((spool.files.lookup (core.digestOf request.bytes)).isSome = true ∧ next = spool ∨
        spool.files.lookup (core.digestOf request.bytes) = none ∧
          next =
            { files := spool.files.insert (core.digestOf request.bytes) request.bytes
              reserved := spool.reserved + request.bytes.length }) := by
  unfold captureBytes at captured
  simp only [check_bind_eq_ok] at captured
  obtain ⟨_, middle, reserves, captured⟩ := bind_eq_ok.mp captured.2
  obtain ⟨_, last, writes, captured⟩ := bind_eq_ok.mp captured
  simp only [ofExcept_bind_eq_ok] at captured
  obtain ⟨objects, -, captured⟩ := captured
  obtain ⟨rfl, rfl⟩ := pure_eq_ok.mp captured
  have changed := modify_eq_ok.mp (check_bind_eq_ok.mp writes).2
  unfold reserveUnpackaged at reserves
  rw [packs] at reserves
  cases present : spool.files.lookup (core.digestOf request.bytes) with
  | some stored =>
      simp only [present, Option.isSome_some, if_true] at reserves
      obtain ⟨-, rfl⟩ := pure_eq_ok.mp reserves
      simp only [present, Option.isSome_some, if_true] at changed
      refine ⟨?_, Or.inl ⟨rfl, changed⟩⟩
      intro digest
      rw [changed, Bool.eq_iff_iff, isSome_insertPackaged, packs digest]
      by_cases same : digest = core.digestOf request.bytes
      · subst same
        simp [present]
      · simp [same]
  | none =>
      simp only [present, Option.isSome_none, Bool.false_eq_true, if_false] at reserves
      obtain rfl := reserveSubjectBytes_ok reserves
      simp only [present, Option.isSome_none, Bool.false_eq_true, if_false] at changed
      refine ⟨?_, Or.inr ⟨rfl, changed⟩⟩
      intro digest
      rw [changed, Bool.eq_iff_iff, isSome_insertPackaged, packs digest]
      by_cases same : digest = core.digestOf request.bytes
      · subst same
        simp
      · simp [AList.lookup_insert_ne same, same]

/-- Objects that the packager makes keep every object file exact and what the reservation holds
beyond the objects. -/
theorem captureAll_excess {requests : List BytesRequest} {assembly made : SubjectAssembly Digest}
    {spool next : SubjectSpool Digest} {excess : Nat} (packs : Packs assembly spool)
    (exact : spool.Exact core) (reserved : spool.reserved = spool.total + excess)
    (captures : captureAll core requests assembly spool = (.ok made, next)) :
    next.Exact core ∧ next.reserved = next.total + excess := by
  induction requests generalizing assembly spool with
  | nil =>
      obtain ⟨-, rfl⟩ := pure_eq_ok.mp captures
      exact ⟨exact, reserved⟩
  | cons request requests ih =>
      obtain ⟨first, middle, captured, rest⟩ := bind_eq_ok.mp captures
      obtain ⟨packs, ⟨-, same⟩ | ⟨absent, added⟩⟩ := captureBytes_ok packs captured
      · rw [same] at packs rest
        exact ih packs exact reserved rest
      · rw [added] at packs rest
        refine ih packs ?_ ?_ rest
        · intro digest content found
          by_cases same : digest = core.digestOf request.bytes
          · subst same
            rw [AList.lookup_insert] at found
            injection found with equal
            rw [equal]
          · rw [AList.lookup_insert_ne same] at found
            exact exact digest content found
        · unfold SubjectSpool.total at reserved ⊢
          rw [KeyedTable.total_insert_of_lookup_none _ absent]
          simp only [reserved]
          omega

/-- The packaged objects of an assembly are the digests of its captured files. -/
theorem assembleFiles_packaged {names : DigestNames Digest} {executable : SourcePath}
    {executableDigest : Digest} (captured : List (CapturedFile Digest))
    {start assembly : SubjectAssembly Digest}
    (assembles : captured.foldlM (assembleFile names executable executableDigest) start =
      .ok assembly) (digest : Digest) :
    (assembly.packaged.lookup digest).isSome = true ↔
      (∃ file ∈ captured, file.digest = digest) ∨
        (start.packaged.lookup digest).isSome = true := by
  induction captured generalizing start with
  | nil =>
      cases assembles
      simp
  | cons file files ih =>
      rw [List.foldlM_cons] at assembles
      cases first : assembleFile names executable executableDigest start file with
      | error error =>
          rw [first] at assembles
          cases assembles
      | ok middle =>
          rw [first] at assembles
          rw [ih assembles]
          have packaged :
              middle.packaged = insertPackaged start.packaged file.digest file.size := by
            unfold assembleFile at first
            dsimp only at first
            split at first
            · cases first
            · cases first
              rfl
          rw [packaged, isSome_insertPackaged]
          simp only [List.mem_cons, exists_eq_or_imp]
          constructor
          · rintro (later | rfl | earlier)
            · exact Or.inl (Or.inr later)
            · exact Or.inl (Or.inl rfl)
            · exact Or.inr earlier
          · rintro ((rfl | later) | earlier)
            · exact Or.inr (Or.inl rfl)
            · exact Or.inl later
            · exact Or.inr (Or.inr earlier)

/-! ## Accounting -/

/-- The reservation holds the bytes of the distinct objects, and every object file holds the bytes
of its digest. -/
structure SubjectSpool.Accounted (core : SubjectCore Digest) (spool : SubjectSpool Digest) :
    Prop where
  reserved : spool.reserved = spool.total
  exact : spool.Exact core

/-- The books are right after a file, and a file whose content was there gave back what it
reserved. -/
structure FileAccounted (core : SubjectCore Digest) (request : FileRequest)
    (before after : SubjectSpool Digest) : Prop where
  accounted : after.Accounted core
  released : before.files.lookup (core.digestOf request.content) = some request.content →
    after.reserved = before.reserved

/-- A list of captures is orderly when all but the last are, and the last one replaces nothing. -/
theorem orderly_append {past : List FileRequest} (request : FileRequest)
    {spool before : SubjectSpool Digest} {captured : List (CapturedFile Digest)}
    (captures : captureFiles core past spool = (.ok captured, before)) :
    Orderly core (past ++ [request]) spool ↔
      Orderly core past spool ∧ ¬ request.Replaces core before := by
  induction past generalizing spool captured with
  | nil =>
      obtain ⟨-, rfl⟩ := pure_eq_ok.mp captures
      simp [Orderly]
  | cons first past ih =>
      obtain ⟨file, middle, made, rest⟩ := bind_eq_ok.mp captures
      obtain ⟨files, last, later, done⟩ := bind_eq_ok.mp rest
      obtain ⟨-, rfl⟩ := pure_eq_ok.mp done
      rw [List.cons_append, Orderly, Orderly, made, ih later, and_assoc]

omit [DecidableEq Digest] in
/-- An empty spool holds no objects. -/
theorem new_accounted [DecidableEq Digest] (core : SubjectCore Digest) :
    (SubjectSpool.new : SubjectSpool Digest).Exact core ∧
      (SubjectSpool.new : SubjectSpool Digest).reserved =
        (SubjectSpool.new : SubjectSpool Digest).total + 0 := by
  constructor
  · intro digest content found
    cases found
  · rfl

/-- The books after a file are right exactly when no copy so far took the place of an object that
has bytes. -/
theorem fileAccounted_iff {past : List FileRequest} {request : FileRequest}
    {captured : List (CapturedFile Digest)} {file : CapturedFile Digest}
    {before after : SubjectSpool Digest}
    (captures : captureFiles core past .new = (.ok captured, before))
    (last : captureFile core request.sourcePath request.kind request.policy request.answers before =
      (.ok file, after)) :
    FileAccounted core request before after ↔ Orderly core (past ++ [request]) .new := by
  obtain ⟨exact, reserved⟩ := new_accounted core
  obtain ⟨kept, ⟨more, counted, orderly⟩, -⟩ := captureFiles_excess exact reserved captures
  obtain ⟨-, -, -, -, step⟩ := captureFile_ok last
  obtain ⟨added, total, replaces⟩ := step.excess counted
  rw [orderly_append request captures, ← orderly, ← replaces]
  constructor
  · intro books
    have right := books.accounted.reserved
    omega
  · rintro ⟨none_before, none_added⟩
    refine ⟨⟨by omega, step.exact kept⟩, ?_⟩
    intro present
    cases step with
    | refused stored answer found sized => rfl
    | renamed answer =>
        have empty : request.content = [] := by
          by_contra bytes
          exact replaces.mp none_added ⟨answer, request.content, present, bytes⟩
        simp [empty]

/-- The books of a package are right exactly when no copy took the place of an object that has
bytes. -/
theorem packageAccounted_iff {names : DigestNames Digest} {executable : SourcePath}
    {files : List FileRequest} {objects : List BytesRequest} {assembly : SubjectAssembly Digest}
    {spool : SubjectSpool Digest}
    (packages : packageObjects core names executable files objects .new = (.ok assembly, spool)) :
    spool.Accounted core ↔ Orderly core files .new := by
  obtain ⟨exact, reserved⟩ := new_accounted core
  unfold packageObjects at packages
  obtain ⟨captured, before, captures, rest⟩ := bind_eq_ok.mp packages
  obtain ⟨running, -, rest⟩ := ofExcept_bind_eq_ok.mp rest
  obtain ⟨start, assembles, makes⟩ := ofExcept_bind_eq_ok.mp rest
  obtain ⟨kept, ⟨more, counted, orderly⟩, present⟩ := captureFiles_excess exact reserved captures
  have packs : Packs start before := by
    intro digest
    rw [Bool.eq_iff_iff, present, assembleFiles_packaged captured assembles digest]
    simp [SubjectSpool.new]
  obtain ⟨exactly, total⟩ := captureAll_excess packs kept counted makes
  rw [← orderly]
  constructor
  · intro books
    have right := books.reserved
    omega
  · intro none_more
    exact ⟨by omega, exactly⟩

/-- The accounting of a package after each of its files, and with the objects that the packager
makes. -/
def SpoolAccounting (core : SubjectCore Digest) (names : DigestNames Digest) : Prop :=
  (∀ past request captured file before after,
    captureFiles core past .new = (.ok captured, before) →
    captureFile core request.sourcePath request.kind request.policy request.answers before =
      (.ok file, after) →
    FileAccounted core request before after) ∧
  ∀ executable files objects assembly spool,
    packageObjects core names executable files objects .new = (.ok assembly, spool) →
    spool.Accounted core

/-- The reservation holds the bytes of the objects exactly when no copy took the place of an object
that has bytes. -/
theorem spool_accounting (core : SubjectCore Digest) (names : DigestNames Digest) :
    (∀ past request captured file before after,
      captureFiles core past .new = (.ok captured, before) →
      captureFile core request.sourcePath request.kind request.policy request.answers before =
        (.ok file, after) →
      (FileAccounted core request before after ↔ Orderly core (past ++ [request]) .new)) ∧
    ∀ executable files objects assembly spool,
      packageObjects core names executable files objects .new = (.ok assembly, spool) →
      (spool.Accounted core ↔ Orderly core files .new) := by
  constructor
  · intro past request captured file before after captures last
    exact fileAccounted_iff captures last
  · intro executable files objects assembly spool packages
    exact packageAccounted_iff packages

/-- A core in which the digest of some bytes is the bytes themselves. -/
def sampleCore : SubjectCore Bytes where
  digestOf := id
  objectDigestMismatch := plainError

/-- Names of such digests. -/
def sampleNames : DigestNames Bytes where
  name := plainText
  injective := plainText_injective
  unbroken := plainText_unbroken

/-- A module of one byte, on a system whose rename replaces an existing target. -/
def sampleModule (directory : String) (unbroken : Separated.Unbroken '/' directory) :
    FileRequest where
  sourcePath := [.text directory unbroken, .text "libshared.so" (by decide)]
  kind := .nativeDependency
  policy := .rejected
  answers :=
    { opened := true
      before := some { isFile := true, len := 1, version := 0 }
      reserved := true
      random := true
      atOpen := some { isFile := true, len := 1, version := 0 }
      sameAtOpen := .ok true
      created := true
      reads := [{ bytes := some [7], written := true }]
      flushed := true
      after := some { isFile := true, len := 1, version := 0 }
      sameAfter := .ok true
      rename := .renamed
      removed := true
      stat := true }

/-- Two modules with the same byte reserve it twice. -/
theorem duplicate_reserved_twice : ¬ SpoolAccounting sampleCore sampleNames := by
  intro claim
  have books := claim.1 [sampleModule "first" (by decide)] (sampleModule "second" (by decide))
    _ _ _ _ rfl rfl
  exact absurd books.accounted.reserved (by decide)

end RustSubject
end ReproItSdk
