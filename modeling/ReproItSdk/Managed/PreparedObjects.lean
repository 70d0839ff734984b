import ReproItSdk.Managed.ArtifactSet
import ReproItSdk.Sdk.State

/-! # Prepared objects of a candidate

A candidate that is to be uploaded consists of objects: a descriptor says what an object is, how
long it is and which digest it has, and its bytes are in memory or in a file.

Main definitions:

- Structure {lit}`LogicalObject`: the descriptor of an object.
- Structure {lit}`PreparedCandidateObject`: a descriptor with the place of the bytes.
- Function {lit}`readPreparedObject`: the bytes of a small object.
-/

namespace ReproItSdk
namespace Managed

variable {Digest Path : Type}

/-- {lit}`LogicalObjectRole`: the roles of all objects of a candidate. -/
inductive ObjectRole where
  | candidate
  | captureBatchManifest
  | dependencyTranscript
  | failure
  | subject
  | trigger
  | worldManifest
  | worldState
deriving DecidableEq, Repr

/-- {lit}`LogicalObject`. -/
structure LogicalObject (Digest : Type) where
  mediaType : String
  objectId : ObjectId
  plainDigest : Digest
  plainSize : Nat
  role : ObjectRole
deriving DecidableEq, Repr

/-- {lit}`PreparedObjectSource`. -/
inductive PreparedObjectSource (Path : Type) where
  | bytes (bytes : Bytes)
  | file (path : Path)
deriving DecidableEq, Repr

/-- {lit}`PreparedCandidateObject`. -/
structure PreparedCandidateObject (Digest Path : Type) where
  descriptor : LogicalObject Digest
  source : PreparedObjectSource Path
deriving DecidableEq, Repr

/-- {lit}`read_prepared_object`, with what {lit}`fs::read` gives for a file. -/
def readPreparedObject (files : Path → Option Bytes)
    (object : PreparedCandidateObject Digest Path) : Except Error Bytes :=
  if maxChunkBytes < object.descriptor.plainSize then .error incompleteCandidate
  else
    match object.source with
    | .bytes bytes => .ok bytes
    | .file path => (files path).elim (.error incompleteCandidate) .ok

end Managed
end ReproItSdk
