import ReproItSdk.Library.Json

/-! # Writers of JSON that can fail

A writer joins the texts of parts that may have failed, up to the first failure.

Main results:

- Theorem {lit}`writeSeparated_ok`: parts without a failure are written with commas between them.
- Theorem {lit}`writeObject_ok`: members without a failure are written in the order of their keys.
-/

namespace Json

open Unicode

variable {ε : Type}

/-- Writes parts with a comma before each one, up to the first failure. -/
def writeFollowing : List (Except ε Text) → Except ε Text
  | [] => .ok []
  | first :: rest => do
      let part ← first
      let parts ← writeFollowing rest
      return ',' :: part ++ parts

/-- Writes parts with a comma before each one but the first, up to the first failure. -/
def writeSeparated : List (Except ε Text) → Except ε Text
  | [] => .ok []
  | first :: rest => do
      let part ← first
      let parts ← writeFollowing rest
      return part ++ parts

/-- Writes an array from its elements. -/
def writeArray (elements : List (Except ε Text)) : Except ε Text := do
  let parts ← writeSeparated elements
  return '[' :: parts ++ [']']

/-- Writes an object from its members, sorted by a code of their keys. -/
def writeObject {γ : Type*} [LinearOrder γ] (code : Text → γ) (quote : Text → Text)
    (members : List (Text × Except ε Text)) : Except ε Text := do
  let parts ← writeSeparated ((sortBy (fun member => code member.1) members).map fun member => do
    let value ← member.2
    return quote member.1 ++ ':' :: value)
  return '\x7b' :: parts ++ ['\x7d']

/-- Parts without a failure are written with commas between them. -/
theorem writeSeparated_ok (parts : List Text) :
    writeSeparated (parts.map Except.ok) = (.ok (separated parts) : Except ε Text) := by
  have following (parts : List Text) :
      writeFollowing (parts.map Except.ok) = (.ok (parts.flatMap (',' :: ·)) : Except ε Text) := by
    induction parts with
    | nil => rfl
    | cons first rest ih =>
        rw [List.map_cons, writeFollowing, ih]
        rfl
  cases parts with
  | nil => rfl
  | cons first rest =>
      rw [List.map_cons, writeSeparated, following]
      rfl

/-- An array of elements without a failure. -/
theorem writeArray_ok {α : Type*} {write : α → Except ε Text} {render : α → Text} {items : List α}
    (written : ∀ item ∈ items, write item = .ok (render item)) :
    writeArray (items.map write) = .ok ('[' :: separated (items.map render) ++ [']']) := by
  have parts : items.map write = (items.map render).map Except.ok := by
    rw [List.map_map]
    exact List.map_congr_left written
  rw [writeArray, parts, writeSeparated_ok]
  rfl

/-- An object of members without a failure is written in the order of their keys. -/
theorem writeObject_ok {α : Type*} {γ : Type*} [LinearOrder γ] (code : Text → γ)
    (quote : Text → Text) {write : α → Except ε Text} (render : α → Text)
    {members : List (Text × α)}
    (written : ∀ member ∈ members, write member.2 = .ok (render member.2)) :
    writeObject code quote (members.map fun member => (member.1, write member.2)) =
      .ok ('\x7b' :: separated ((sortBy (fun member => code member.1) members).map fun member =>
        quote member.1 ++ ':' :: render member.2) ++ ['\x7d']) := by
  have parts := writeSeparated_ok (ε := ε)
    ((sortBy (fun member => code member.1) members).map fun member =>
      quote member.1 ++ ':' :: render member.2)
  rw [List.map_map] at parts
  rw [writeObject, ← map_sortBy_members code write, List.map_map,
    List.map_congr_left (fun member among => ?_), parts]
  · rfl
  · rw [Function.comp_apply, Function.comp_apply]
    dsimp only
    rw [written member (mem_sortBy.mp among)]
    rfl

end Json
