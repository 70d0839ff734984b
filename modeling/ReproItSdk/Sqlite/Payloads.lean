import ReproItSdk.Canonical.JsonReader
import ReproItSdk.Library.Base64
import ReproItSdk.Sqlite.Requests

/-! # Payloads of the adapters

A payload is the text of a document without members: lists of constant words, texts and integers.

Main results:

- Theorem {lit}`parseIntegers_render`: a document without members is parsed from its text.
- Theorem {lit}`Python.dumps_memberless`: the text that the Python SDK writes for such a document.
-/

namespace ReproItSdk
namespace Sqlite

open Unicode Json Decimal Canonical

/-! ## Documents without members -/

/-- Documents without members, with some property of their numbers. -/
abbrev Memberless (number : Int → Prop) : Document Int → Prop :=
  Document.All number (fun _ => True) (fun keys => keys = [])

/-- A document without members is sorted. -/
theorem sorted_memberless {number : Int → Prop} {γ : Type*} [LinearOrder γ] (code : Text → γ)
    {document : Document Int} (memberless : Memberless number document) :
    document.sorted code = document := by
  induction memberless with
  | array elements inside ih =>
      rw [Document.sorted, Document.sortedElements_eq]
      exact congrArg _ ((List.map_congr_left ih).trans (List.map_id _))
  | object members holds named inside ih =>
      rw [List.map_eq_nil_iff] at holds
      subst holds
      rfl
  | _ => rfl

/-- A document without members is read back from its text. -/
theorem readable_memberless {number : Int → Prop} {document : Document Int}
    (memberless : Memberless number document) : Readable (document.map decimal) := by
  apply (Document.all_map decimal document).mpr
  apply memberless.mono
  · exact fun value _ => ⟨value, rfl⟩
  · exact fun _ _ => trivial
  · rintro _ rfl
    exact List.nodup_nil

/-- The value of a text with integers for numbers. -/
def parseIntegers (text : Text) : Option (Document Int) := do
  let document ← parseJson text
  integers document

/-- A document without members is parsed from its text. -/
theorem parseIntegers_render {number : Int → Prop} {document : Document Int}
    (memberless : Memberless number document) :
    parseIntegers (renderWith quote (document.map decimal)) = some document := by
  unfold parseIntegers
  rw [parseJson_render (readable_memberless memberless)]
  exact integers_map document

/-! ## Python -/

namespace Python

/-- The text of a document without members. -/
theorem dumps_memberless {number : Int → Prop} {document : Document Int}
    (memberless : Memberless number document) :
    Canonical.Python.dumps document = renderWith quote (document.map decimal) := by
  rw [Canonical.Python.dumps_eq, canonicalDocument, sorted_memberless id memberless]

end Python
end Sqlite
end ReproItSdk
