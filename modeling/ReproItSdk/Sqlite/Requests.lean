import ReproItSdk.Canonical.Encoders
import ReproItSdk.Core.Model

/-! # Requests of the SQLite adapters

The adapters of the Python and the Node SDK turn a call of a connection, a cursor or a statement
into a request of the engine.  The number of the database and the number of the cursor or the
statement are part of the request.

Main definitions:

- Structure {lit}`DependencyRequest`: what the engine compares with the record.
- Function {lit}`Python.request`: the request of a call in the Python SDK.
- Function {lit}`Node.createRequest`: the request of a call in the Node SDK.
-/

namespace ReproItSdk
namespace Sqlite

open Unicode Json

/-! ## Bounds -/

/-- {lit}`_MAX_PAYLOAD_BYTES` and {lit}`MAX_ADAPTER_PAYLOAD_BYTES`. -/
def maxPayloadBytes : Nat :=
  16384

/-- {lit}`_MAX_BINDINGS` and {lit}`MAX_BIND_ARGUMENTS`. -/
def maxBindings : Nat :=
  256

/-- {lit}`MAX_OBJECT_FIELDS`. -/
def maxObjectFields : Nat :=
  256

/-- {lit}`_MAX_DATABASES` and {lit}`MAX_DATABASE_IDENTITIES`. -/
def maxDatabases : Nat :=
  65536

/-- {lit}`_MAX_CURSORS_PER_DATABASE` and {lit}`MAX_STATEMENTS_PER_DATABASE`. -/
def maxCursorsPerDatabase : Nat :=
  65536

/-- {lit}`_DependencyRequest`, as {lit}`dependencyRequest` makes it as well. -/
structure DependencyRequest where
  encoding : Text
  metadata : List (Text × Bytes)
  method : Option Text
  observationClass : Text
  operation : Text
  payload : Bytes
  protocol : Text
  target : Text
deriving DecidableEq, Repr

/-- The request of a database call. -/
def databaseRequest (encoding target : Text) (payload : Bytes) : DependencyRequest where
  encoding := encoding
  metadata := []
  method := none
  observationClass := "database".toList
  operation := "database-execute".toList
  payload := payload
  protocol := "sqlite".toList
  target := target

/-- Identity of a database with a number. -/
def databaseId (number : Nat) : Text :=
  "database-".toList ++ Nat.toDigits 10 number

/-- {lit}`_spend` and {lit}`spend`. -/
def spend (budget size : Nat) : Option Nat :=
  if budget < size then none else some (budget - size)

/-- {lit}`_bounded_string` and {lit}`boundedString`. -/
def boundedString (value : Text) (budget : Nat) : Option (Document Int × Nat) := do
  let budget ← spend budget (utf8 value).length
  return (.string value, budget)

/-- A constant text in a payload. -/
def word (text : String) : Document Int :=
  .string text.toList

/-- The size check at the end of {lit}`_encode_payload` and {lit}`encodePayload`. -/
def boundedPayload (bytes : Bytes) : Option Bytes :=
  if bytes = [] ∨ maxPayloadBytes < bytes.length then none else some bytes

/-- Encodes the values of a list one after another, with what is left of the budget. -/
def encodeAll {α : Type} (encode : α → Nat → Option (Document Int × Nat)) :
    List α → Nat → Option (List (Document Int) × Nat)
  | [], budget => some ([], budget)
  | value :: values, budget => do
      let (first, budget) ← encode value budget
      let (rest, budget) ← encodeAll encode values budget
      return (first :: rest, budget)

/-! ## Numbers -/

/-- An object of the application: the operation that made it, or none, and its number there. -/
structure Reference where
  caller : Option Nat
  index : Nat
deriving DecidableEq, Repr

/-- The number of the database at a place in the order of their numbers. -/
def numberAt (place : Nat) : Option Nat :=
  if place < maxDatabases then some (place + 1) else none

/-- Different places have different numbers. -/
theorem numberAt_injective {place other number : Nat} (here : numberAt place = some number)
    (there : numberAt other = some number) : place = other := by
  unfold numberAt at here there
  split at here
  · split at there
    · simp only [Option.some.injEq] at here there
      omega
    · cases there
  · cases here

/-- A number of a place is not the number of the next place. -/
theorem numberAt_ne_next {place length : Nat} (before : place < length) :
    numberAt place ≠ some (min length maxDatabases + 1) := by
  unfold numberAt
  split
  · simp only [ne_eq, Option.some.injEq]
    omega
  · simp

/-! ## Python -/

namespace Python

/-- {lit}`_FORMAT`. -/
def format : Document Int :=
  word "reproit.python-sqlite.v1"

/-- Values that {lit}`_encode_value` meets; a boolean is its integer, a float stands with the text
that is written for it, and every value that is refused whatever its content is
{lit}`unsupported`. -/
inductive SqliteValue where
  | null
  | integer (value : Int)
  | float (text : Text)
  | string (value : Text)
  | bytes (value : Bytes)
  | unsupported
deriving DecidableEq, Repr

/-- Bindings of a statement; a key that is not a string is absent. -/
inductive Bindings where
  | named (fields : List (Option Text × SqliteValue))
  | ordered (values : List SqliteValue)
  | unsupported
deriving DecidableEq, Repr

section Payload

variable (base64url : Bytes → Text)

/-- {lit}`_encode_value`. -/
def encodeValue : SqliteValue → Nat → Option (Document Int × Nat)
  | .null, budget => some (.array [word "null"], budget)
  | .integer value, budget =>
      if value < -2 ^ 63 ∨ 2 ^ 63 - 1 < value then none
      else some (.array [word "integer", .number value], budget)
  | .float text, budget => some (.array [word "float", .string text], budget)
  | .string value, budget => do
      let (encoded, budget) ← boundedString value budget
      return (.array [word "string", encoded], budget)
  | .bytes value, budget => do
      let budget ← spend budget value.length
      return (.array [word "bytes", .string (base64url value)], budget)
  | .unsupported, _ => none

/-- One field of named bindings. -/
def encodeField (field : Option Text × SqliteValue) (budget : Nat) :
    Option (Document Int × Nat) := do
  let key ← field.1
  let (name, budget) ← boundedString key budget
  let (value, budget) ← encodeValue base64url field.2 budget
  return (.array [name, value], budget)

/-- {lit}`_encode_bindings`. -/
def encodeBindings : Bindings → Nat → Option (Document Int)
  | .named fields, budget => do
      let (encoded, _) ←
        if maxBindings < fields.length then none
        else encodeAll (encodeField base64url) fields budget
      return .array [word "named", .array encoded]
  | .ordered values, budget => do
      let (encoded, _) ←
        if maxBindings < values.length then none
        else encodeAll (encodeValue base64url) values budget
      return .array [word "ordered", .array encoded]
  | .unsupported, _ => none

/-- {lit}`_encode_payload` of a value without objects. -/
def encodePayload (value : Document Int) : Option Bytes :=
  boundedPayload (utf8 (Canonical.Python.dumps value))

/-- What a call asks for. -/
structure Body where
  action : Text
  sql : Option Text
  bindings : Bindings
deriving DecidableEq, Repr

/-- {lit}`_request`. -/
def request (database : Option Nat) (cursorId : Nat) (body : Body) :
    Option DependencyRequest := do
  let number ← database
  let (sql, budget) ←
    match body.sql with
    | none => some (.null, maxPayloadBytes)
    | some sql => boundedString sql maxPayloadBytes
  let bindings ← encodeBindings base64url body.bindings budget
  let payload ← encodePayload
    (.array [format, .string body.action, .string (databaseId number), .number cursorId, sql,
      bindings])
  return databaseRequest "python-sqlite-json-v1".toList (databaseId number) payload

end Payload
end Python

/-! ## Node -/

namespace Node

/-- {lit}`PAYLOAD_FORMAT`. -/
def payloadFormat : Document Int :=
  word "reproit.node-sqlite.v1"

/-- Values that {lit}`encodeSqliteValue` meets; a finite number and a big integer stand with the
text that is written for them, and every value that is refused whatever its content is
{lit}`unsupported`. -/
inductive SqliteValue where
  | null
  | string (value : Text)
  | number (text : Text)
  | bigint (text : Text)
  | blob (value : Bytes)
  | unsupported
deriving DecidableEq, Repr

/-- An argument of a call; a record stands with the name of its prototype and its fields. -/
inductive Argument where
  | named (prototype : Text) (fields : List (Text × SqliteValue))
  | value (value : SqliteValue)
deriving DecidableEq, Repr

section Payload

variable (base64url : Bytes → Text)

/-- {lit}`encodeSqliteValue`. -/
def encodeSqliteValue : SqliteValue → Nat → Option (Document Int × Nat)
  | .null, budget => some (.array [word "null"], budget)
  | .string value, budget => do
      let (encoded, budget) ← boundedString value budget
      return (.array [word "string", encoded], budget)
  | .number text, budget => some (.array [word "number", .string text], budget)
  | .bigint text, budget => some (.array [word "bigint", .string text], budget)
  | .blob value, budget => do
      let budget ← spend budget value.length
      return (.array [word "blob", .string (base64url value)], budget)
  | .unsupported, _ => none

/-- One field of {lit}`encodeObject`. -/
def encodeField (field : Text × SqliteValue) (budget : Nat) : Option (Document Int × Nat) := do
  let (name, budget) ← boundedString field.1 budget
  let (value, budget) ← encodeSqliteValue base64url field.2 budget
  return (.array [name, value], budget)

/-- {lit}`encodeObject`, and one argument of {lit}`encodeBindings`. -/
def encodeArgument : Argument → Nat → Option (Document Int × Nat)
  | .named prototype fields, budget => do
      let (encoded, budget) ←
        if maxObjectFields < fields.length then none
        else encodeAll (encodeField base64url) fields budget
      return (.array [word "named", .array [.string prototype, .array encoded]], budget)
  | .value value, budget => do
      let (encoded, budget) ← encodeSqliteValue base64url value budget
      return (.array [word "value", encoded], budget)

/-- {lit}`encodeBindings`. -/
def encodeBindings (arguments : List Argument) (budget : Nat) : Option (Document Int) := do
  let (encoded, _) ←
    if maxBindings < arguments.length then none
    else encodeAll (encodeArgument base64url) arguments budget
  return .array encoded

/-- {lit}`encodePayload`. -/
def encodePayload (value : Document Int) : Option Bytes :=
  match Canonical.Node.canonicalValue value with
  | .ok canonical => boundedPayload (utf8 (Canonical.Node.stringify canonical))
  | .error _ => none

/-- {lit}`createRequest`; the SQL text is absent where it is not a string. -/
def createRequest (database : Nat) (action : Text) (statementId : Option Nat) (sql : Option Text)
    (arguments : List Argument) : Option DependencyRequest := do
  let sql ← sql
  let (sqlValue, budget) ← boundedString sql maxPayloadBytes
  let bindings ← encodeBindings base64url arguments budget
  let payload ← encodePayload
    (.array [payloadFormat, .string action, .string (databaseId database),
      statementId.elim .null fun number => .number number, sqlValue, bindings])
  return databaseRequest "node-sqlite-json-v1".toList (databaseId database) payload

end Payload
end Node
end Sqlite
end ReproItSdk
