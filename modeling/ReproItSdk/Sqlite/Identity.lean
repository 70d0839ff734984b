import ReproItSdk.Sqlite.NodeAlone
import ReproItSdk.Sqlite.PythonAlone

/-! # Identities of SQLite requests in a fresh process

Main results:

- Theorem {lit}`request_identity_survives`: where identities are unique and requests are those of a
  fresh process, for both SDKs.
- Theorem {lit}`request_identity_moved`: histories in which other operations move them.
-/

namespace ReproItSdk
namespace Sqlite

/-- Living connections have different numbers when no connection gets the number of a living one of
an earlier install, and databases and statements always have.  An operation asks for the same alone
in a fresh process when others do not move its numbers. -/
theorem request_identity_survives (base64url : Bytes → Unicode.Text) :
    ((∀ history : List Python.Event,
        (∀ entry ∈ Runs.answered (Python.SqliteAdapter.step base64url) .new history,
          Python.Fresh entry.before entry.call) →
        Python.Identified (Runs.final (Python.SqliteAdapter.step base64url) .new history)) ∧
      ∀ (operation : Nat) (history : List Python.Event),
        (∀ done event later,
          Runs.during (Python.Event.madeBy operation) history = done ++ event :: later →
          event.madeBy operation = true →
          Python.Undisturbed operation (Python.atStart base64url operation history) done
            (Runs.final (Python.SqliteAdapter.step base64url)
              (Python.atStart base64url operation history) done) event) →
        Python.emitted base64url operation .new history =
          Python.emittedAlone base64url operation history) ∧
    (∀ (history : List Node.Event) (adapter : Node.SqliteAdapter),
      Runs.final (Node.step base64url) none history = some adapter → Node.Identified adapter) ∧
    ∀ (operation : Nat) (history : List Node.Event),
      (∀ done event later,
        Runs.during (Node.Event.madeBy operation) history = done ++ event :: later →
        event.madeBy operation = true →
        Node.Undisturbed operation (Node.atStart base64url operation history) done
          (Runs.final (Node.step base64url) (Node.atStart base64url operation history) done)
          event) →
      Node.emitted base64url operation none history =
        Node.emittedAlone base64url operation history := by
  refine ⟨⟨fun history fresh => ?_, fun operation history undisturbed => ?_⟩,
    fun history adapter reached => ?_, fun operation history undisturbed => ?_⟩
  · exact Python.identified_run base64url history fresh
  · exact Python.emitted_alone base64url history undisturbed
  · exact Node.identified_run base64url history adapter reached
  · exact Node.emitted_alone base64url history undisturbed

/-- A connection that lives through a release and an install of the adapter. -/
def reinstalled : List Python.Event :=
  [.install, .call none (.connect 0), .release, .install, .call none (.connect 1)]

/-- Two operations that make a cursor of one connection. -/
def sharedConnection : List Python.Event :=
  [.install, .call none (.connect 0), .call (some 1) (Python.cursor ⟨none, 0⟩ 0 true),
    .call (some 2) (Python.cursor ⟨none, 0⟩ 0 true)]

/-- Two operations with a database each. -/
def twoDatabases : List Node.Event :=
  [.install, .call (some 1) (.exec 0 (some [])), .call (some 2) (.exec 1 (some []))]

/-- A connection that lives through an install shares its number with a later one, and an operation
gets other numbers after another operation than alone, in both SDKs. -/
theorem request_identity_moved :
    ¬ Python.Identified
        (Runs.final (Python.SqliteAdapter.step fun _ => []) .new reinstalled) ∧
      Python.emitted (fun _ => []) 2 .new sharedConnection ≠
        Python.emittedAlone (fun _ => []) 2 sharedConnection ∧
      Node.emitted (fun _ => []) 2 none twoDatabases ≠
        Node.emittedAlone (fun _ => []) 2 twoDatabases := by
  refine ⟨fun identified => ?_, by decide +kernel, by decide +kernel⟩
  have same := identified.connections ⟨none, 0⟩ ⟨none, 1⟩ { databaseId := some 1 }
    { databaseId := some 1 } 1 (by decide) (by decide) rfl rfl rfl rfl
  cases same

end Sqlite
end ReproItSdk
