import ReproItSdk.Core.Model
import Mathlib.Logic.Function.Basic

/-! # The spool directory of an automatic World

A coordinator keeps the bytes of its sessions in files of one temporary directory.  Each
file-system step may succeed or fail; the outcome of every step is an input of the model.

Main results:

- Theorem {lit}`appendChunk_ok`: an append that succeeds appends exactly the chunk.
- Theorem {lit}`digestFile_ok`: a digest is of the whole file, which has the expected length.
-/

namespace ReproItSdk
namespace AutomaticWorld

/-! ## Errors -/

/-- The limit of the automatic World capture was reached. -/
def captureLimit : Error where
  code := .runtimeQuota
  message := "The automatic World capture limit was reached."

/-- The session is in the wrong state for the call. -/
def invalidTransition : Error where
  code := .incompleteCandidate
  message := "The automatic observation session transition is invalid."

/-- A file-system step failed. -/
def localStorageError : Error where
  code := .serviceUnavailable
  message := "Repro It could not store the automatic World locally."

/-- The session identifier names no session. -/
def notFound : Error where
  code := .notFound
  message := "The automatic observation session does not exist."

/-- The World is not completely owned. -/
def worldNotClosed : Error where
  code := .worldNotClosed
  message := "Repro It could not own every automatic application observation."

/-! ## Files -/

/-- Files of the spool directory. -/
inductive SpoolFile where
  | sessionRequest (sessionId : Nat)
  | sessionResponse (sessionId : Nat)
  | unowned (sequence : Nat)
  | dependencyTranscript
deriving DecidableEq, Repr

/-- Content of every file that exists. -/
abbrev Spool : Type :=
  SpoolFile → Option Bytes

/-- Outcome of a step that writes bytes: all of them, none, or a prefix. -/
inductive WriteOutcome where
  | complete
  | refused
  | cut (count : Nat)
deriving DecidableEq, Repr

/-- {lit}`File::create`: the file exists and is empty. -/
def createFile (spool : Spool) (file : SpoolFile) : Spool :=
  Function.update spool file (some [])

/-- Open a file for appending and write a chunk to its end. -/
def appendChunk (spool : Spool) (file : SpoolFile) (chunk : Bytes) (outcome : WriteOutcome) :
    Except Error Unit × Spool :=
  match spool file with
  | none => (.error localStorageError, spool)
  | some content =>
      match outcome with
      | .complete => (.ok (), Function.update spool file (some (content ++ chunk)))
      | .refused => (.error localStorageError, spool)
      | .cut count =>
          (.error localStorageError,
            Function.update spool file (some (content ++ chunk.take count)))

/-- {lit}`fs::write`: replace the content of a file. -/
def writeFile (spool : Spool) (file : SpoolFile) (content : Bytes) (outcome : WriteOutcome) :
    Except Error Unit × Spool :=
  match outcome with
  | .complete => (.ok (), Function.update spool file (some content))
  | .refused => (.error localStorageError, spool)
  | .cut count => (.error localStorageError, Function.update spool file (some (content.take count)))

/-- Read a whole file; the flag tells whether the file system served the read. -/
def readFile (spool : Spool) (file : SpoolFile) (served : Bool) : Except Error Bytes :=
  match spool file, served with
  | some content, true => .ok content
  | _, _ => .error localStorageError

/-- Digest of a file that must hold exactly the expected number of bytes. -/
def digestFile {Digest Replay : Type} (core : Core Digest Replay) (spool : Spool)
    (file : SpoolFile) (expectedBytes : Nat) (served : Bool) : Except Error Digest :=
  match readFile spool file served with
  | .error error => .error error
  | .ok content =>
      if content.length ≠ expectedBytes then .error worldNotClosed
      else .ok (core.sha256 content)

/-! ## What a successful step means -/

/-- An append that succeeds appends exactly the chunk to a file that exists. -/
theorem appendChunk_ok {spool next : Spool} {file : SpoolFile} {chunk : Bytes}
    {outcome : WriteOutcome} (appended : appendChunk spool file chunk outcome = (.ok (), next)) :
    ∃ content, spool file = some content ∧
      next = Function.update spool file (some (content ++ chunk)) := by
  unfold appendChunk at appended
  cases stored : spool file with
  | none => simp [stored] at appended
  | some content =>
      cases outcome <;> simp only [stored, Prod.mk.injEq, reduceCtorEq, false_and, true_and]
        at appended
      exact ⟨content, rfl, appended.symm⟩

/-- An append leaves every other file alone. -/
theorem appendChunk_other (spool : Spool) (chunk : Bytes) (outcome : WriteOutcome)
    {file other : SpoolFile} (different : other ≠ file) :
    (appendChunk spool file chunk outcome).2 other = spool other := by
  unfold appendChunk
  cases spool file <;> cases outcome <;> simp [Function.update_of_ne different]

/-- A write leaves every other file alone. -/
theorem writeFile_other (spool : Spool) (content : Bytes) (outcome : WriteOutcome)
    {file other : SpoolFile} (different : other ≠ file) :
    (writeFile spool file content outcome).2 other = spool other := by
  unfold writeFile
  cases outcome <;> simp [Function.update_of_ne different]

/-- A read that succeeds returns the content of the file. -/
theorem readFile_ok {spool : Spool} {file : SpoolFile} {served : Bool} {content : Bytes}
    (read : readFile spool file served = .ok content) : spool file = some content := by
  unfold readFile at read
  split at read
  · rename_i stored
    cases read
    exact stored
  · cases read

/-- A digest is the digest of the whole file, which has the expected length. -/
theorem digestFile_ok {Digest Replay : Type} {core : Core Digest Replay} {spool : Spool}
    {file : SpoolFile} {expectedBytes : Nat} {served : Bool} {digest : Digest}
    (digested : digestFile core spool file expectedBytes served = .ok digest) :
    ∃ content, spool file = some content ∧ content.length = expectedBytes ∧
      digest = core.sha256 content := by
  unfold digestFile at digested
  split at digested
  · cases digested
  · rename_i content read
    split at digested
    · cases digested
    · rename_i length
      cases digested
      exact ⟨content, readFile_ok read, not_not.mp length, rfl⟩

end AutomaticWorld
end ReproItSdk
