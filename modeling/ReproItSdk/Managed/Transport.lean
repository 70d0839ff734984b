import ReproItSdk.Core.Model
import ReproItSdk.Library.Ascii
import ReproItSdk.Library.Fallible
import ReproItSdk.Library.Lines

/-! # Responses of the managed service

The managed transport reads a response from a stream: its head byte by byte up to the first blank
line, and then as many bytes as the head declares.  A read gives as many bytes as the stream has
ready, so one stream is read in many ways.

Main definitions:

- Structure {lit}`Stream`: the bytes of a stream and the sizes of its reads.
- Function {lit}`readResponse`: the response at the front of a stream.
- Structure {lit}`WellFormed`: which responses a stream begins with.

Main results:

- Theorem {lit}`readResponse_eq`: what is read does not depend on the sizes of the reads.
- Theorem {lit}`readsResponses_iff`: the responses read are those of plain decimal numbers, unless
  a number is written with a plus sign or the status with other than three digits.
-/

namespace ReproItSdk
namespace ManagedTransport

open Fallible Lines Unicode

/-! ## Constants and errors -/

/-- {lit}`MAX_HEADER_BYTES`. -/
def maxHeaderBytes : Nat :=
  8192

/-- {lit}`MAX_JSON_RESPONSE_BYTES`. -/
def maxJsonResponseBytes : Nat :=
  8388608

/-- A response that is not one. -/
def responseInvalid : Error where
  code := .schemaInvalid
  message := "The managed service response is invalid."

/-- A stream that fails. -/
def serviceUnavailable : Error where
  code := .serviceUnavailable
  message := "The managed capture service is unavailable."

/-! ## Streams -/

/-- A stream: the bytes that are left, the most bytes that its next reads give, and whether a read
after the last byte fails. -/
structure Stream where
  rest : Bytes
  plan : List Nat
  broken : Bool
deriving DecidableEq, Repr

namespace Stream

/-- How many bytes the next read gives at most: at least one, and after the plan all. -/
def most (stream : Stream) (asked : Nat) : Nat :=
  match stream.plan with
  | [] => asked
  | count :: _ => min asked (max 1 count)

/-- {lit}`Read::read` into a buffer of a positive size; no bytes mean the end of the stream. -/
def read (asked : Nat) : Fallible Stream Error Bytes := fun stream =>
  match stream.rest with
  | [] => (if stream.broken then .error serviceUnavailable else .ok [], stream)
  | byte :: bytes =>
      (.ok ((byte :: bytes).take (stream.most asked)),
        { stream with
          rest := (byte :: bytes).drop (stream.most asked)
          plan := stream.plan.tail })

/-- {lit}`Read::read_exact`, where the fuel is at least the number of missing bytes. -/
def readExact : Nat → Nat → Bytes → Fallible Stream Error Bytes
  | 0, _, buffer => pure buffer
  | _ + 1, 0, buffer => pure buffer
  | fuel + 1, missing + 1, buffer => do
      let chunk ← read (missing + 1)
      if chunk = [] then fail serviceUnavailable
      else readExact fuel (missing + 1 - chunk.length) (buffer ++ chunk)

end Stream

/-! ## Texts -/

/-- {lit}`char::is_whitespace`: the white space of Unicode. -/
def isWhitespace (character : Char) : Bool :=
  let code := character.val.toNat
  decide (9 ≤ code ∧ code ≤ 13) || code == 32 || code == 0x85 || code == 0xa0 || code == 0x1680 ||
    decide (0x2000 ≤ code ∧ code ≤ 0x200a) || code == 0x2028 || code == 0x2029 ||
    code == 0x202f || code == 0x205f || code == 0x3000

/-- {lit}`split_whitespace`: the parts between white space that are not empty. -/
def splitWhitespace : Text → List Text
  | [] => []
  | character :: text =>
      if isWhitespace character then splitWhitespace text
      else
        match text with
        | [] => [[character]]
        | next :: _ =>
            if isWhitespace next then [character] :: splitWhitespace text
            else extend character (splitWhitespace text)

/-- {lit}`trim`. -/
def trim (text : Text) : Text :=
  ((text.dropWhile isWhitespace).reverse.dropWhile isWhitespace).reverse

/-- {lit}`eq_ignore_ascii_case`. -/
def eqIgnoreAsciiCase (left right : Text) : Bool :=
  left.map Char.toLower == right.map Char.toLower

/-- {lit}`split_once`: what is before and after the first separator. -/
def splitOnce (separator : Char) : Text → Option (Text × Text)
  | [] => none
  | character :: text =>
      if character = separator then some ([], text)
      else (splitOnce separator text).map fun parts => (character :: parts.1, parts.2)

/-- The number that some decimal digits write. -/
def number (digits : Text) : Nat :=
  Nat.ofDigitChars 10 digits 0

/-- Only decimal digits, and at least one. -/
def Digits (text : Text) : Prop :=
  text ≠ [] ∧ text.all Char.isDigit = true

instance (text : Text) : Decidable (Digits text) :=
  inferInstanceAs (Decidable (_ ∧ _))

/-- {lit}`parse` of an unsigned integer with a largest value: a plus sign may come first. -/
def parseUnsigned (largest : Nat) (text : Text) : Option Nat :=
  let digits := match text with
    | '+' :: rest => rest
    | _ => text
  if Digits digits ∧ number digits ≤ largest then some (number digits) else none

/-! ## Responses -/

/-- {lit}`HttpResponse`. -/
structure HttpResponse where
  body : Bytes
  status : Nat
deriving DecidableEq, Repr

/-- The end of a line. -/
def crlf : Text :=
  ['\r', '\n']

/-- The end of a head: the end of a line and an empty line. -/
def blankLine : Bytes :=
  [13, 10, 13, 10]

/-- The field that says how the body is coded. -/
def transferEncoding : Text :=
  "transfer-encoding".toList

/-- The field that says how long the body is. -/
def contentLength : Text :=
  "content-length".toList

/-- The loop over the bytes of the head, with what it has so far. -/
def readHead : Nat → Bytes → Fallible Stream Error Bytes
  | 0, header => pure header
  | room + 1, header => do
      let byte ← Stream.read 1
      if byte = [] then fail responseInvalid
      else if blankLine <:+ header ++ byte then pure (header ++ byte)
      else readHead room (header ++ byte)

/-- A value that must be there. -/
def orInvalid {α : Type} (value : Option α) : Except Error α :=
  match value with
  | some value => .ok value
  | none => .error responseInvalid

/-- The loop over the lines of the fields, with the content length that it has so far. -/
def readFields : List Text → Option Nat → Except Error (Option Nat)
  | [], known => .ok known
  | line :: further, known =>
      match splitOnce ':' line with
      | none => .error responseInvalid
      | some (name, value) =>
          if eqIgnoreAsciiCase name transferEncoding then .error responseInvalid
          else if eqIgnoreAsciiCase name contentLength then
            if known.isSome then .error responseInvalid
            else
              match parseUnsigned u64Max (trim value) with
              | none => .error responseInvalid
              | some length => readFields further (some length)
          else readFields further known

/-- The status and the content length of a head. -/
def parseHead (header : Bytes) : Except Error (Nat × Nat) := do
  let text ← orInvalid (decodeUtf8 header)
  let status ← orInvalid (((lines '\r' '\n' text).head?.bind fun line =>
    (splitWhitespace line)[1]?).bind (parseUnsigned u16Max))
  let declared ← readFields ((lines '\r' '\n' text).tail.filter (· ≠ [])) none
  if maxJsonResponseBytes < declared.getD 0 then .error responseInvalid
  else pure (status, declared.getD 0)

/-- {lit}`read_response`. -/
def readResponse : Fallible Stream Error HttpResponse := do
  let header ← readHead maxHeaderBytes []
  check (fun _ => decide (blankLine <:+ header)) responseInvalid
  let declared ← ofExcept (parseHead header)
  let body ← Stream.readExact declared.2 declared.2 []
  pure { body := body, status := declared.1 }

/-! ## Reads of every size -/

namespace Stream

/-- A read of some bytes gives at least one of them. -/
theorem most_bounds (stream : Stream) {asked : Nat} (positive : 0 < asked) :
    0 < stream.most asked ∧ stream.most asked ≤ asked := by
  unfold most
  split
  · exact ⟨positive, Nat.le_refl _⟩
  · exact ⟨by omega, by omega⟩

/-- A read of one byte gives it, however the reads are planned. -/
theorem read_one (byte : UInt8) (rest : Bytes) (plan : List Nat) (broken : Bool) :
    read 1 ⟨byte :: rest, plan, broken⟩ = (.ok [byte], ⟨rest, plan.tail, broken⟩) := by
  have bounds := most_bounds ⟨byte :: rest, plan, broken⟩ (show 0 < 1 by decide)
  have one : most ⟨byte :: rest, plan, broken⟩ 1 = 1 := by
    omega
  simp [read, one]

/-- An exact read takes its bytes, or all that are left and fails. -/
theorem readExact_eq {fuel missing : Nat} (enough : missing ≤ fuel) (buffer rest : Bytes)
    (plan : List Nat) (broken : Bool) :
    ∃ plan', readExact fuel missing buffer ⟨rest, plan, broken⟩ =
      if missing ≤ rest.length then
        (.ok (buffer ++ rest.take missing), ⟨rest.drop missing, plan', broken⟩)
      else (.error serviceUnavailable, ⟨[], plan', broken⟩) := by
  induction fuel generalizing missing buffer rest plan with
  | zero =>
      obtain rfl : missing = 0 := by omega
      refine ⟨plan, ?_⟩
      rw [if_pos (Nat.zero_le _)]
      simp [readExact, pure, Fallible.pure]
  | succ fuel ih =>
      cases missing with
      | zero =>
          refine ⟨plan, ?_⟩
          rw [if_pos (Nat.zero_le _)]
          simp [readExact, pure, Fallible.pure]
      | succ missing =>
          cases rest with
          | nil =>
              refine ⟨plan, ?_⟩
              rw [if_neg (by simp)]
              cases broken with
              | true => rfl
              | false => rfl
          | cons byte rest =>
              have bounds := most_bounds ⟨byte :: rest, plan, broken⟩ (Nat.succ_pos missing)
              generalize taken : most ⟨byte :: rest, plan, broken⟩ (missing + 1) = count at bounds
              have given : read (missing + 1) ⟨byte :: rest, plan, broken⟩ =
                  (.ok ((byte :: rest).take count),
                    ⟨(byte :: rest).drop count, plan.tail, broken⟩) := by
                simp only [read, taken]
              have inhabited : (byte :: rest).take count ≠ [] := by
                simp
                omega
              unfold readExact
              rw [bind_ok given, if_neg inhabited]
              generalize (byte :: rest) = bytes at *
              have fewer : missing + 1 - (bytes.take count).length ≤ fuel := by
                have := List.length_pos_of_ne_nil inhabited
                omega
              obtain ⟨plan', further⟩ :=
                ih fewer (buffer ++ bytes.take count) (bytes.drop count) plan.tail
              refine ⟨plan', further.trans ?_⟩
              simp only [List.length_take, List.length_drop]
              by_cases whole : missing + 1 ≤ bytes.length
              · rw [if_pos (by omega), if_pos whole, Nat.min_eq_left (by omega)]
                have parts : bytes.take count ++ (bytes.drop count).take (missing + 1 - count) =
                    bytes.take (missing + 1) := by
                  rw [← List.take_add, Nat.add_sub_cancel' bounds.2]
                rw [List.append_assoc, parts, List.drop_drop, Nat.add_sub_cancel' bounds.2]
              · rw [if_neg (by omega), if_neg whole]

end Stream

/-- The head of some bytes and what follows it, where they are read at once. -/
def headFrom (broken : Bool) : Nat → Bytes → Bytes → Except Error Bytes × Bytes
  | 0, header, rest => (.ok header, rest)
  | _ + 1, _, [] => (.error (if broken then serviceUnavailable else responseInvalid), [])
  | room + 1, header, byte :: rest =>
      if blankLine <:+ header ++ [byte] then (.ok (header ++ [byte]), rest)
      else headFrom broken room (header ++ [byte]) rest

/-- The head that is read does not depend on the sizes of the reads. -/
theorem readHead_eq (room : Nat) (header rest : Bytes) (plan : List Nat) (broken : Bool) :
    ∃ plan', readHead room header ⟨rest, plan, broken⟩ =
      ((headFrom broken room header rest).1,
        ⟨(headFrom broken room header rest).2, plan', broken⟩) := by
  induction room generalizing header rest plan with
  | zero => exact ⟨plan, rfl⟩
  | succ room ih =>
      cases rest with
      | nil =>
          refine ⟨plan, ?_⟩
          cases broken with
          | true => rfl
          | false => rfl
      | cons byte rest =>
          unfold readHead headFrom
          rw [bind_ok (Stream.read_one byte rest plan broken), if_neg (List.cons_ne_nil _ _)]
          by_cases ends : blankLine <:+ header ++ [byte]
          · rw [if_pos ends, if_pos ends]
            exact ⟨plan.tail, rfl⟩
          · rw [if_neg ends, if_neg ends]
            exact ih (header ++ [byte]) rest plan.tail

/-- The response of some bytes and what follows it, where they are read at once. -/
def responseFrom (broken : Bool) (bytes : Bytes) : Except Error HttpResponse × Bytes :=
  match headFrom broken maxHeaderBytes [] bytes with
  | (.error error, rest) => (.error error, rest)
  | (.ok header, rest) =>
      if blankLine <:+ header then
        match parseHead header with
        | .error error => (.error error, rest)
        | .ok (status, length) =>
            if length ≤ rest.length then (.ok ⟨rest.take length, status⟩, rest.drop length)
            else (.error serviceUnavailable, [])
      else (.error responseInvalid, rest)

/-- What is read, and what is left unread, does not depend on the sizes of the reads. -/
theorem readResponse_eq (bytes : Bytes) (plan : List Nat) (broken : Bool) :
    ∃ plan', readResponse ⟨bytes, plan, broken⟩ =
      ((responseFrom broken bytes).1, ⟨(responseFrom broken bytes).2, plan', broken⟩) := by
  obtain ⟨plan', headed⟩ := readHead_eq maxHeaderBytes [] bytes plan broken
  unfold readResponse responseFrom
  generalize headFrom broken maxHeaderBytes [] bytes = outcome at headed
  rcases outcome with ⟨error | header, rest⟩
  · exact ⟨plan', bind_error headed⟩
  · rw [bind_ok headed]
    dsimp only
    by_cases ends : blankLine <:+ header
    · have checked : check (fun _ => decide (blankLine <:+ header)) responseInvalid
          (⟨rest, plan', broken⟩ : Stream) = (.ok (), ⟨rest, plan', broken⟩) := by
        simp [check, ends]
      rw [bind_ok checked, if_pos ends]
      rcases parsed : parseHead header with error | ⟨status, length⟩
      · exact ⟨plan', rfl⟩
      · obtain ⟨plan'', exact_⟩ :=
          Stream.readExact_eq (Nat.le_refl length) [] rest plan' broken
        refine ⟨plan'', ?_⟩
        show (Stream.readExact length length [] >>= _) _ = _
        by_cases whole : length ≤ rest.length
        · rw [if_pos whole] at exact_
          rw [bind_ok exact_]
          simp only [if_pos whole]
          rfl
        · rw [if_neg whole] at exact_
          rw [bind_error exact_]
          simp only [if_neg whole]
    · have checked : check (fun _ => decide (blankLine <:+ header)) responseInvalid
          (⟨rest, plan', broken⟩ : Stream) =
            (.error responseInvalid, ⟨rest, plan', broken⟩) := by
        simp [check, ends]
      rw [bind_error checked, if_neg ends]
      exact ⟨plan', rfl⟩

/-! ## Well-formed responses -/

/-- The head of some bytes: what comes before their first blank line, with that line. -/
structure IsHead (head bytes : Bytes) : Prop where
  begins : head <+: bytes
  blank : blankLine <:+ head
  first : ∀ early, early <+: head → blankLine <:+ early → early = head

/-- The lines of a head: that of the status, and the name and the value of each field. -/
structure ResponseHead where
  statusLine : Text
  fields : List (Text × Text)
deriving DecidableEq, Repr

/-- The line of a field. -/
def fieldLine (field : Text × Text) : Text :=
  field.1 ++ ':' :: field.2

/-- The values of the fields that say how long the body is. -/
def lengthValues (fields : List (Text × Text)) : List Text :=
  (fields.filter fun field => eqIgnoreAsciiCase field.1 contentLength).map fun field =>
    trim field.2

namespace ResponseHead

/-- All lines before the blank one. -/
def allLines (head : ResponseHead) : List Text :=
  head.statusLine :: head.fields.map fieldLine

/-- The text of a head. -/
def text (head : ResponseHead) : Text :=
  head.allLines.flatMap (· ++ crlf) ++ crlf

end ResponseHead

/-- The length of a body that the content lengths declare: none without one. -/
def Declares (Length : Text → Nat → Prop) : List Text → Nat → Prop
  | [], length => length = 0
  | [value], length => Length value length
  | _, _ => False

/-- A stream begins with a response, for a way to write statuses and lengths. -/
structure WellFormed (Status Length : Text → Nat → Prop) (bytes : Bytes) (head : ResponseHead)
    (status : Nat) (body : Bytes) : Prop where
  isHead : IsHead (utf8 head.text) bytes
  bounded : (utf8 head.text).length ≤ maxHeaderBytes
  unbroken : ∀ line ∈ head.allLines, Unbroken '\r' '\n' line
  named : ∀ field ∈ head.fields, ':' ∉ field.1
  status : ∃ second, (splitWhitespace head.statusLine)[1]? = some second ∧ Status second status
  plain : ∀ field ∈ head.fields, eqIgnoreAsciiCase field.1 transferEncoding = false
  length : Declares Length (lengthValues head.fields) body.length
  follows : utf8 head.text ++ body <+: bytes

/-- A status of three digits. -/
def StatusDigits (text : Text) (status : Nat) : Prop :=
  text.length = 3 ∧ Digits text ∧ status = number text

/-- A length of plain digits, at most the bound. -/
def LengthDigits (text : Text) (length : Nat) : Prop :=
  Digits text ∧ length = number text ∧ length ≤ maxJsonResponseBytes

/-- A status as the integer parser reads it. -/
def StatusParsed (text : Text) (status : Nat) : Prop :=
  parseUnsigned u16Max text = some status

/-- A length as the integer parser reads it, at most the bound. -/
def LengthParsed (text : Text) (length : Nat) : Prop :=
  parseUnsigned u64Max text = some length ∧ length ≤ maxJsonResponseBytes

/-! ## Heads -/

/-- A prefix of some bytes is empty or has their first byte. -/
theorem prefix_cons_iff {early rest : Bytes} {byte : UInt8} :
    early <+: byte :: rest ↔ early = [] ∨ ∃ later, early = byte :: later ∧ later <+: rest :=
  List.prefix_cons_iff

/-- The loop over the head stops at the first blank line within its room. -/
theorem headFrom_iff {broken : Bool} {room : Nat} {header rest head left : Bytes}
    (open_ : ¬ blankLine <:+ header) :
    (headFrom broken room header rest = (.ok head, left) ∧ blankLine <:+ head) ↔
      ∃ taken, head = header ++ taken ∧ rest = taken ++ left ∧ taken.length ≤ room ∧
        blankLine <:+ head ∧
        ∀ early, early <+: taken → blankLine <:+ header ++ early → early = taken := by
  induction room generalizing header rest with
  | zero =>
      constructor
      · rintro ⟨read, ends⟩
        obtain ⟨rfl, rfl⟩ : header = head ∧ rest = left := by
          simpa [headFrom] using read
        exact absurd ends open_
      · rintro ⟨taken, rfl, -, short, ends, -⟩
        have none : taken = [] := List.eq_nil_of_length_eq_zero (by omega)
        subst none
        exact absurd (by simpa using ends) open_
  | succ room ih =>
      cases rest with
      | nil =>
          constructor
          · rintro ⟨read, -⟩
            simp [headFrom] at read
          · rintro ⟨taken, rfl, whole, -, ends, -⟩
            have none : taken = [] := (List.append_eq_nil_iff.mp whole.symm).1
            subst none
            exact absurd (by simpa using ends) open_
      | cons byte rest =>
          unfold headFrom
          by_cases ends : blankLine <:+ header ++ [byte]
          · rw [if_pos ends]
            constructor
            · rintro ⟨read, -⟩
              obtain ⟨rfl, rfl⟩ : header ++ [byte] = head ∧ rest = left := by
                simpa using read
              refine ⟨[byte], rfl, rfl, by simp, ends, ?_⟩
              intro early begins blank
              rcases prefix_cons_iff.mp begins with rfl | ⟨later, rfl, none⟩
              · exact absurd (by simpa using blank) open_
              · rw [List.prefix_nil.mp none]
            · rintro ⟨taken, rfl, whole, -, blank, first⟩
              cases taken with
              | nil => exact absurd (by simpa using blank) open_
              | cons other taken =>
                  rw [List.cons_append, List.cons.injEq] at whole
                  obtain ⟨rfl, rfl⟩ := whole
                  have single := first [byte] ⟨taken, rfl⟩ ends
                  rw [List.cons.injEq] at single
                  obtain ⟨-, rfl⟩ := single
                  exact ⟨rfl, blank⟩
          · rw [if_neg ends, ih ends]
            constructor
            · rintro ⟨taken, rfl, rfl, short, blank, first⟩
              refine ⟨byte :: taken, by simp, rfl, by simpa using short, by simpa using blank, ?_⟩
              intro early begins found
              rcases prefix_cons_iff.mp begins with rfl | ⟨later, rfl, among⟩
              · exact absurd (by simpa using found) open_
              · rw [first later among (by simpa using found)]
            · rintro ⟨taken, rfl, whole, short, blank, first⟩
              cases taken with
              | nil => exact absurd (by simpa using blank) open_
              | cons other taken =>
                  rw [List.cons_append, List.cons.injEq] at whole
                  obtain ⟨rfl, rfl⟩ := whole
                  refine ⟨taken, by simp, rfl, by simpa using short, by simpa using blank, ?_⟩
                  intro early begins found
                  have same := first (byte :: early) (List.cons_prefix_cons.mpr ⟨rfl, begins⟩)
                    (by simpa using found)
                  exact (List.cons.inj same).2

/-- The head that is read is the one before the first blank line. -/
theorem headFrom_isHead_iff {broken : Bool} {bytes head left : Bytes} :
    (headFrom broken maxHeaderBytes [] bytes = (.ok head, left) ∧ blankLine <:+ head) ↔
      IsHead head bytes ∧ head.length ≤ maxHeaderBytes ∧ bytes = head ++ left := by
  rw [headFrom_iff (by decide)]
  constructor
  · rintro ⟨taken, rfl, rfl, short, blank, first⟩
    exact ⟨⟨List.prefix_append _ _, blank, first⟩, short, rfl⟩
  · rintro ⟨⟨-, blank, first⟩, short, rfl⟩
    exact ⟨head, rfl, rfl, short, blank, first⟩

/-- Some bytes have one head at most. -/
theorem IsHead.unique {head other bytes : Bytes} (isHead : IsHead head bytes)
    (isOther : IsHead other bytes) : head = other := by
  rcases Nat.le_total head.length other.length with shorter | shorter
  · exact isOther.first head
      (List.prefix_of_prefix_length_le isHead.begins isOther.begins shorter) isHead.blank
  · exact (isHead.first other
      (List.prefix_of_prefix_length_le isOther.begins isHead.begins shorter) isOther.blank).symm

/-! ## Lines of a head -/

/-- A line is cut at its first colon. -/
theorem splitOnce_eq_some_iff {separator : Char} {line name value : Text} :
    splitOnce separator line = some (name, value) ↔
      line = name ++ separator :: value ∧ separator ∉ name := by
  induction line generalizing name with
  | nil => simp [splitOnce]
  | cons character line ih =>
      unfold splitOnce
      by_cases here : character = separator
      · subst here
        rw [if_pos rfl]
        cases name with
        | nil => simp [eq_comm]
        | cons first name => simp; grind
      · rw [if_neg here, Option.map_eq_some_iff]
        cases name with
        | nil => simp; grind
        | cons first name =>
            simp only [Prod.exists, Prod.mk.injEq, List.cons.injEq, List.cons_append,
              List.mem_cons, not_or]
            constructor
            · rintro ⟨front, rest, cut, ⟨rfl, rfl⟩, rfl⟩
              obtain ⟨rfl, free⟩ := ih.mp cut
              exact ⟨⟨rfl, rfl⟩, fun same => here same.symm, free⟩
            · rintro ⟨⟨rfl, rfl⟩, -, free⟩
              exact ⟨name, value, ih.mpr ⟨rfl, free⟩, ⟨rfl, rfl⟩, rfl⟩

/-- What the loop over the fields knows after the values of the content lengths. -/
def Knows (known : Option Nat) : List Text → Option Nat → Prop
  | [], result => result = known
  | [value], result =>
      known = none ∧ ∃ length, parseUnsigned u64Max value = some length ∧ result = some length
  | _, _ => False

/-- A content length gives its value. -/
theorem lengthValues_cons_of_true {name : Text} (value : Text) (fields : List (Text × Text))
    (declares : eqIgnoreAsciiCase name contentLength = true) :
    lengthValues ((name, value) :: fields) = trim value :: lengthValues fields := by
  simp [lengthValues, declares]

/-- Another field gives no value. -/
theorem lengthValues_cons_of_not {name : Text} (value : Text) (fields : List (Text × Text))
    (declares : ¬ eqIgnoreAsciiCase name contentLength = true) :
    lengthValues ((name, value) :: fields) = lengthValues fields := by
  simp [lengthValues, declares]

/-- The loop over the fields accepts lines with a colon, no transfer encoding and no more than one
content length. -/
theorem readFields_eq_ok_iff {further : List Text} {known result : Option Nat} :
    readFields further known = .ok result ↔
      ∃ fields : List (Text × Text), further = fields.map fieldLine ∧
        (∀ field ∈ fields, ':' ∉ field.1) ∧
        (∀ field ∈ fields, eqIgnoreAsciiCase field.1 transferEncoding = false) ∧
        Knows known (lengthValues fields) result := by
  induction further generalizing known with
  | nil =>
      constructor
      · intro read
        obtain rfl : known = result := by simpa [readFields] using read
        exact ⟨[], rfl, by simp, by simp, rfl⟩
      · rintro ⟨fields, none, -, -, knows⟩
        obtain rfl : fields = [] := List.map_eq_nil_iff.mp none.symm
        have same : result = known := knows
        rw [readFields, same]
  | cons line further ih =>
      unfold readFields
      constructor
      · intro read
        rcases cut : splitOnce ':' line with _ | ⟨name, value⟩
        · simp [cut] at read
        · obtain ⟨whole, free⟩ := splitOnce_eq_some_iff.mp cut
          simp only [cut] at read
          split at read
          · cases read
          · rename_i plain
            split at read
            · rename_i declares
              split at read
              · cases read
              · rename_i unknown
                rcases parsed : parseUnsigned u64Max (trim value) with _ | length
                · simp [parsed] at read
                · simp only [parsed] at read
                  obtain ⟨fields, rfl, named, others, knows⟩ := ih.mp read
                  refine ⟨(name, value) :: fields, by simp [fieldLine, whole], ?_, ?_, ?_⟩
                  · simpa using ⟨free, by simpa using named⟩
                  · simpa using ⟨by simpa using plain, by simpa using others⟩
                  · have once : lengthValues fields = [] ∧ result = some length := by
                      rcases values : lengthValues fields with _ | ⟨_, _ | _⟩
                      · rw [values] at knows
                        exact ⟨rfl, knows⟩
                      · rw [values] at knows
                        cases knows.1
                      · rw [values] at knows
                        exact knows.elim
                    rw [lengthValues_cons_of_true value fields declares, once.1]
                    exact ⟨by simpa using unknown, length, parsed, once.2⟩
            · rename_i declares
              obtain ⟨fields, rfl, named, others, knows⟩ := ih.mp read
              refine ⟨(name, value) :: fields, by simp [fieldLine, whole], ?_, ?_, ?_⟩
              · simpa using ⟨free, by simpa using named⟩
              · simpa using ⟨by simpa using plain, by simpa using others⟩
              · rw [lengthValues_cons_of_not value fields declares]
                exact knows
      · rintro ⟨fields, whole, named, others, knows⟩
        rcases fields with _ | ⟨⟨name, value⟩, fields⟩
        · simp at whole
        · rw [List.map_cons, List.cons.injEq] at whole
          obtain ⟨rfl, rfl⟩ := whole
          have cut : splitOnce ':' (fieldLine (name, value)) = some (name, value) :=
            splitOnce_eq_some_iff.mpr ⟨rfl, named (name, value) (by simp)⟩
          have plain : eqIgnoreAsciiCase name transferEncoding = false :=
            others (name, value) (by simp)
          have later : ∀ field ∈ fields, ':' ∉ field.1 := fun field among =>
            named field (List.mem_cons_of_mem _ among)
          have rest : ∀ field ∈ fields, eqIgnoreAsciiCase field.1 transferEncoding = false :=
            fun field among => others field (List.mem_cons_of_mem _ among)
          simp only [cut, plain, Bool.false_eq_true, if_false]
          by_cases declares : eqIgnoreAsciiCase name contentLength = true
          · rw [lengthValues_cons_of_true value fields declares] at knows
            rw [if_pos declares]
            rcases values : lengthValues fields with _ | ⟨_, _⟩
            · rw [values] at knows
              obtain ⟨rfl, length, parsed, rfl⟩ := knows
              simp only [Option.isSome_none, Bool.false_eq_true, if_false, parsed]
              exact ih.mpr ⟨fields, rfl, later, rest, by rw [values]; rfl⟩
            · rw [values] at knows
              exact knows.elim
          · rw [if_neg declares]
            rw [lengthValues_cons_of_not value fields declares] at knows
            exact ih.mpr ⟨fields, rfl, later, rest, knows⟩

/-- A text that ends with a blank line: the lines before it have one each, and it has two. -/
theorem lines_blank (text : Text) :
    lines '\r' '\n' (text ++ crlf ++ crlf) = lines '\r' '\n' text ++ [[], []] := by
  rw [List.append_assoc]
  show lines '\r' '\n' (text ++ '\r' :: '\n' :: crlf) = _
  rw [lines_append (by decide)]
  rfl

/-- Lines with their ends end with the end of a line. -/
theorem flatMap_ends (line : Text) (further : List Text) :
    ∃ front, (line :: further).flatMap (· ++ crlf) = front ++ crlf := by
  induction further generalizing line with
  | nil => exact ⟨line, by simp⟩
  | cons next further ih =>
      obtain ⟨front, ends⟩ := ih next
      refine ⟨line ++ crlf ++ front, ?_⟩
      rw [List.flatMap_cons, ends]
      simp

/-- The bytes of a blank line. -/
theorem utf8_blank : utf8 (crlf ++ crlf) = blankLine := by
  decide

/-- A blank line is ASCII. -/
theorem ascii_blank : ∀ character ∈ crlf ++ crlf, Ascii character := by
  intro character among
  simp only [crlf, List.cons_append, List.nil_append, List.mem_cons, List.not_mem_nil,
    or_false] at among
  rcases among with rfl | rfl | rfl | rfl <;> decide

/-- No line before the first blank one is empty. -/
theorem IsHead.inhabited {text statusLine : Text} {further : List Text} {bytes : Bytes}
    (isHead : IsHead (utf8 (text ++ crlf ++ crlf)) bytes)
    (cut : lines '\r' '\n' text = statusLine :: further) : ∀ line ∈ further, line ≠ [] := by
  rintro line among rfl
  obtain ⟨before, after, rfl⟩ := List.append_of_mem among
  have whole : text ++ crlf = (lines '\r' '\n' text).flatMap (· ++ crlf) :=
    (flatMap_lines text).symm
  obtain ⟨front, ends⟩ := flatMap_ends statusLine before
  have parts : text ++ crlf ++ crlf =
      (front ++ crlf ++ crlf) ++ (after.flatMap (· ++ crlf) ++ crlf) := by
    rw [whole, cut, ← List.cons_append, List.flatMap_append, ends, List.flatMap_cons]
    simp
  have early := isHead.first (utf8 (front ++ crlf ++ crlf))
    (by
      rw [parts, utf8_append _ (after.flatMap (· ++ crlf) ++ crlf)]
      exact List.prefix_append _ _)
    (by
      rw [List.append_assoc, utf8_append, utf8_blank]
      exact List.suffix_append _ _)
  have same := utf8_injective early
  rw [parts] at same
  have longer := congrArg List.length same
  simp only [List.length_append, crlf, List.length_cons, List.length_nil] at longer
  omega

/-- A sequence of checks succeeds when both parts do. -/
theorem except_bind_eq_ok {α β : Type} {first : Except Error α} {next : α → Except Error β}
    {result : β} : (first >>= next) = .ok result ↔ ∃ value, first = .ok value ∧
      next value = .ok result := by
  cases first with
  | error error =>
      constructor
      · intro failed
        cases failed
      · rintro ⟨value, failed, -⟩
        cases failed
  | ok value =>
      constructor
      · intro returned
        exact ⟨value, rfl, returned⟩
      · rintro ⟨other, same, returned⟩
        cases same
        exact returned

/-- A value that must be there is there. -/
theorem orInvalid_eq_ok {α : Type} {value : Option α} {result : α} :
    orInvalid value = .ok result ↔ value = some result := by
  cases value <;> simp [orInvalid]

/-- The content length that the fields declare is within the bound. -/
theorem knows_none_iff {values : List Text} {length : Nat} :
    (∃ result, Knows none values result ∧ result.getD 0 ≤ maxJsonResponseBytes ∧
        length = result.getD 0) ↔
      Declares LengthParsed values length := by
  rcases values with _ | ⟨value, _ | ⟨other, values⟩⟩
  · simp [Knows, Declares]
  · constructor
    · rintro ⟨result, ⟨-, length', parsed, rfl⟩, bounded, rfl⟩
      exact ⟨parsed, bounded⟩
    · rintro ⟨parsed, bounded⟩
      exact ⟨some length, ⟨rfl, length, parsed, rfl⟩, bounded, rfl⟩
  · simp [Knows, Declares]

/-- The lines of a head that ends at its first blank line. -/
theorem parseHead_eq_ok_iff {header bytes : Bytes} {status length : Nat}
    (isHead : IsHead header bytes) :
    parseHead header = .ok (status, length) ↔
      ∃ head : ResponseHead, header = utf8 head.text ∧
        (∀ line ∈ head.allLines, Unbroken '\r' '\n' line) ∧
        (∀ field ∈ head.fields, ':' ∉ field.1) ∧
        (∃ second, (splitWhitespace head.statusLine)[1]? = some second ∧
          StatusParsed second status) ∧
        (∀ field ∈ head.fields, eqIgnoreAsciiCase field.1 transferEncoding = false) ∧
        Declares LengthParsed (lengthValues head.fields) length := by
  unfold parseHead
  simp only [except_bind_eq_ok, orInvalid_eq_ok, decodeUtf8_eq_some_iff, Option.bind_eq_some_iff]
  constructor
  · rintro ⟨text, rfl, status', ⟨second, ⟨statusLine, first, word⟩, parsed⟩, declared, read, kept⟩
    have ends : crlf ++ crlf <:+ text := by
      apply suffix_of_ascii ascii_blank
      rw [utf8_blank]
      exact isHead.blank
    obtain ⟨front, rfl⟩ := ends
    rw [← List.append_assoc] at *
    rcases cut : lines '\r' '\n' front with _ | ⟨line, further⟩
    · exact absurd cut (lines_ne_nil _)
    · rw [lines_blank, cut] at first read
      obtain rfl : line = statusLine := by simpa using first
      have inhabited := isHead.inhabited cut
      have kept' : (line :: further ++ [[], []]).tail.filter (· ≠ []) = further := by
        simpa using inhabited
      rw [kept'] at read
      obtain ⟨fields, rfl, named, plain, knows⟩ := readFields_eq_ok_iff.mp read
      split at kept
      · cases kept
      · rename_i bounded
        obtain ⟨rfl, rfl⟩ : status' = status ∧ declared.getD 0 = length := by
          simpa [pure, Except.pure] using kept
        refine ⟨⟨line, fields⟩, ?_, ?_, named, ⟨second, word, parsed⟩, plain, ?_⟩
        · have whole : (lines '\r' '\n' front).flatMap (· ++ crlf) = front ++ crlf :=
            flatMap_lines front
          rw [ResponseHead.text, ResponseHead.allLines, ← cut, whole]
        · intro other among
          have listed : other ∈ lines '\r' '\n' front := by
            rw [cut]
            exact among
          exact unbroken_of_mem_lines listed
        · exact knows_none_iff.mp ⟨declared, knows, Nat.not_lt.mp bounded, rfl⟩
  · rintro ⟨head, rfl, unbroken, named, ⟨second, word, parsed⟩, plain, declares⟩
    obtain ⟨declared, knows, bounded, rfl⟩ := knows_none_iff.mpr declares
    have cut : lines '\r' '\n' head.text = head.allLines ++ [[], []] :=
      lines_flatMap (by decide) unbroken crlf
    have kept : (head.allLines ++ [[], []]).tail.filter (· ≠ []) = head.fields.map fieldLine := by
      simp only [ResponseHead.allLines, List.cons_append, List.tail_cons, List.filter_append]
      rw [List.filter_eq_self.mpr]
      · simp
      · intro line among
        obtain ⟨field, -, rfl⟩ := List.mem_map.mp among
        simp [fieldLine]
    have read : readFields ((lines '\r' '\n' head.text).tail.filter (· ≠ [])) none =
        .ok declared := by
      rw [cut, kept]
      exact readFields_eq_ok_iff.mpr ⟨head.fields, rfl, named, plain, knows⟩
    refine ⟨head.text, rfl, status, ⟨second, ⟨head.statusLine, ?_, word⟩, parsed⟩,
      declared, read, ?_⟩
    · rw [cut]
      rfl
    · rw [if_neg (Nat.not_lt.mpr bounded)]
      rfl

/-! ## Responses read -/

/-- What is read from some bytes, however they arrive, is the response that they begin with where
numbers are written as the integer parser reads them. -/
theorem responseFrom_eq_ok_iff {broken : Bool} {bytes body rest : Bytes} {status : Nat} :
    responseFrom broken bytes = (.ok ⟨body, status⟩, rest) ↔
      ∃ head, WellFormed StatusParsed LengthParsed bytes head status body ∧
        bytes = utf8 head.text ++ body ++ rest := by
  constructor
  · intro read
    unfold responseFrom at read
    rcases headed : headFrom broken maxHeaderBytes [] bytes with ⟨error | header, left⟩
    · simp [headed] at read
    · simp only [headed] at read
      split at read
      · rename_i ends
        obtain ⟨isHead, bounded, whole⟩ := headFrom_isHead_iff.mp ⟨headed, ends⟩
        rcases parsed : parseHead header with error | ⟨status', length⟩
        · simp [parsed] at read
        · simp only [parsed] at read
          split at read
          · rename_i enough
            simp only [Prod.mk.injEq, Except.ok.injEq, HttpResponse.mk.injEq] at read
            obtain ⟨⟨rfl, rfl⟩, rfl⟩ := read
            obtain ⟨head, rfl, unbroken, named, word, plain, declares⟩ :=
              (parseHead_eq_ok_iff isHead).mp parsed
            have parts : bytes = utf8 head.text ++ left.take length ++ left.drop length := by
              rw [List.append_assoc, List.take_append_drop]
              exact whole
            refine ⟨head, ⟨isHead, bounded, unbroken, named, word, plain, ?_, ?_⟩, parts⟩
            · rwa [List.length_take_of_le enough]
            · exact ⟨_, parts.symm⟩
          · simp at read
      · simp at read
  · rintro ⟨head, well, whole⟩
    have ⟨headed, ends⟩ := (@headFrom_isHead_iff broken bytes _ _).mpr
      ⟨well.isHead, well.bounded, whole.trans (List.append_assoc _ _ _)⟩
    have parsed := (parseHead_eq_ok_iff well.isHead).mpr
      ⟨head, rfl, well.unbroken, well.named, well.status, well.plain, well.length⟩
    unfold responseFrom
    simp [headed, ends, parsed]

/-- Digits write a number below the power of ten that has one more digit. -/
theorem number_lt {text : Text} (digits : ∀ character ∈ text, character.isDigit = true) :
    number text < 10 ^ text.length := by
  induction text using List.reverseRecOn with
  | nil => decide
  | append_singleton text character ih =>
      have last : character.isDigit = true := digits character (by simp)
      have front := ih fun other among => digits other (by simp [among])
      have value : character.toNat - '0'.toNat < 10 := by
        simp only [Char.isDigit, Bool.and_eq_true, decide_eq_true_eq] at last
        have := last.2
        rw [UInt32.le_iff_toNat_le] at this
        have high : character.toNat ≤ 57 := this
        show character.toNat - 48 < 10
        omega
      rw [number, Nat.ofDigitChars_append, Nat.ofDigitChars_cons, Nat.ofDigitChars_nil]
      rw [number] at front
      rw [List.length_append, List.length_singleton, Nat.pow_succ]
      omega

/-- Plain digits are read as the number that they write. -/
theorem parseUnsigned_of_digits {largest : Nat} {text : Text} (digits : Digits text) :
    parseUnsigned largest text =
      if number text ≤ largest then some (number text) else none := by
  unfold parseUnsigned
  split
  · have sign := List.all_eq_true.mp digits.2 '+' (by simp)
    cases sign
  · simp [digits]

/-- A status of three digits is one that the integer parser reads. -/
theorem statusDigits_iff {text : Text} {status : Nat} :
    StatusDigits text status ↔ StatusParsed text status ∧ text.length = 3 ∧ Digits text := by
  unfold StatusDigits StatusParsed
  constructor
  · rintro ⟨three, digits, rfl⟩
    have small : number text ≤ u16Max := by
      have := number_lt (List.all_eq_true.mp digits.2)
      rw [three] at this
      unfold u16Max
      omega
    rw [parseUnsigned_of_digits digits, if_pos small]
    exact ⟨rfl, three, digits⟩
  · rintro ⟨parsed, three, digits⟩
    rw [parseUnsigned_of_digits digits] at parsed
    split at parsed
    · exact ⟨three, digits, (Option.some.inj parsed).symm⟩
    · cases parsed

/-- A length of plain digits is one that the integer parser reads. -/
theorem lengthDigits_iff {text : Text} {length : Nat} :
    LengthDigits text length ↔ LengthParsed text length ∧ Digits text := by
  unfold LengthDigits LengthParsed
  constructor
  · rintro ⟨digits, rfl, bounded⟩
    have small : number text ≤ u64Max := by
      unfold maxJsonResponseBytes at bounded
      unfold u64Max
      omega
    rw [parseUnsigned_of_digits digits, if_pos small]
    exact ⟨⟨rfl, bounded⟩, digits⟩
  · rintro ⟨⟨parsed, bounded⟩, digits⟩
    rw [parseUnsigned_of_digits digits] at parsed
    split at parsed
    · exact ⟨digits, (Option.some.inj parsed).symm, bounded⟩
    · cases parsed

/-- The status of a head has three digits, and its content lengths have digits only. -/
structure PlainNumbers (head : ResponseHead) : Prop where
  status : ∀ second, (splitWhitespace head.statusLine)[1]? = some second →
    second.length = 3 ∧ Digits second
  lengths : ∀ value ∈ lengthValues head.fields, Digits value

/-- Content lengths of plain digits are those that the integer parser reads. -/
theorem declares_digits_iff {values : List Text} {length : Nat} :
    Declares LengthDigits values length ↔
      Declares LengthParsed values length ∧ ∀ value ∈ values, Digits value := by
  rcases values with _ | ⟨value, _ | ⟨other, values⟩⟩
  · simp [Declares]
  · simp [Declares, lengthDigits_iff]
  · simp [Declares]

/-- A response of plain numbers is one that the integer parser reads, with plain numbers. -/
theorem wellFormed_digits_iff {bytes body : Bytes} {head : ResponseHead} {status : Nat} :
    WellFormed StatusDigits LengthDigits bytes head status body ↔
      WellFormed StatusParsed LengthParsed bytes head status body ∧ PlainNumbers head := by
  constructor
  · intro well
    obtain ⟨second, word, written⟩ := well.status
    have ⟨parsed, plain⟩ := statusDigits_iff.mp written
    have ⟨declares, digits⟩ := declares_digits_iff.mp well.length
    refine ⟨{ well with status := ⟨second, word, parsed⟩, length := declares }, ?_, digits⟩
    intro other named
    rw [word, Option.some.injEq] at named
    exact named ▸ plain
  · rintro ⟨well, plain⟩
    obtain ⟨second, word, parsed⟩ := well.status
    exact { well with
      status := ⟨second, word, statusDigits_iff.mpr ⟨parsed, plain.status second word⟩⟩
      length := declares_digits_iff.mpr ⟨well.length, plain.lengths⟩ }

/-- The lines of fields tell their names and values. -/
theorem map_fieldLine_inj {fields others : List (Text × Text)}
    (named : ∀ field ∈ fields, ':' ∉ field.1) (named' : ∀ field ∈ others, ':' ∉ field.1)
    (same : fields.map fieldLine = others.map fieldLine) : fields = others := by
  have known (fields : List (Text × Text)) (named : ∀ field ∈ fields, ':' ∉ field.1) :
      (fields.map fieldLine).map (splitOnce ':') = fields.map some := by
    rw [List.map_map]
    apply List.map_congr_left
    intro field among
    exact splitOnce_eq_some_iff.mpr ⟨rfl, named field among⟩
  have equal : fields.map some = others.map some := by
    rw [← known fields named, ← known others named', same]
  exact List.map_injective_iff.mpr (fun _ _ => Option.some.inj) equal

/-- A stream begins with one head at most. -/
theorem WellFormed.unique {Status Length Status' Length' : Text → Nat → Prop} {bytes : Bytes}
    {head other : ResponseHead} {status status' : Nat} {body body' : Bytes}
    (well : WellFormed Status Length bytes head status body)
    (well' : WellFormed Status' Length' bytes other status' body') : head = other := by
  have same : head.text = other.text := utf8_injective (well.isHead.unique well'.isHead)
  have listed : head.allLines = other.allLines := by
    have left := lines_flatMap (by decide) well.unbroken crlf
    have right := lines_flatMap (by decide) well'.unbroken crlf
    exact List.append_cancel_right
      (left.symm.trans ((congrArg (lines '\r' '\n') same).trans right))
  rw [ResponseHead.allLines, ResponseHead.allLines, List.cons.injEq] at listed
  have fields := map_fieldLine_inj well.named well'.named listed.2
  rcases head with ⟨statusLine, parts⟩
  rcases other with ⟨statusLine', parts'⟩
  simp_all

/-! ## Responses as promised -/

/-- What is promised of a stream: the sizes of the reads do not matter, nothing after the body is
read, and the responses that it gives are those of the grammar of plain numbers. -/
structure ReadsResponses (bytes : Bytes) (broken : Bool) : Prop where
  fragmented : ∀ plan, (readResponse ⟨bytes, plan, broken⟩).1 =
    (readResponse ⟨bytes, [], broken⟩).1
  unread : ∀ plan body status, (readResponse ⟨bytes, plan, broken⟩).1 = .ok ⟨body, status⟩ →
    ∃ head, IsHead head bytes ∧
      bytes = head ++ body ++ (readResponse ⟨bytes, plan, broken⟩).2.rest
  accepted : ∀ plan body status, (readResponse ⟨bytes, plan, broken⟩).1 = .ok ⟨body, status⟩ ↔
    ∃ head, WellFormed StatusDigits LengthDigits bytes head status body

/-- A stream begins with a response that only the integer parser reads: its status has a sign or
other than three digits, or its content length has a sign. -/
def LooseNumbers (bytes : Bytes) : Prop :=
  ∃ head status body, WellFormed StatusParsed LengthParsed bytes head status body ∧
    ¬ PlainNumbers head

/-- What a read returns, however it is planned. -/
theorem readResponse_fst (bytes : Bytes) (plan : List Nat) (broken : Bool) :
    (readResponse ⟨bytes, plan, broken⟩).1 = (responseFrom broken bytes).1 ∧
      (readResponse ⟨bytes, plan, broken⟩).2.rest = (responseFrom broken bytes).2 := by
  obtain ⟨plan', read⟩ := readResponse_eq bytes plan broken
  rw [read]
  exact ⟨rfl, rfl⟩

/-- What a read returns is the response that a stream begins with. -/
theorem readResponse_eq_ok_iff {bytes body : Bytes} {plan : List Nat} {broken : Bool}
    {status : Nat} :
    (readResponse ⟨bytes, plan, broken⟩).1 = .ok ⟨body, status⟩ ↔
      ∃ head, WellFormed StatusParsed LengthParsed bytes head status body := by
  rw [(readResponse_fst bytes plan broken).1]
  constructor
  · intro read
    have whole : responseFrom broken bytes =
        (.ok ⟨body, status⟩, (responseFrom broken bytes).2) := by
      rw [← read]
    obtain ⟨head, well, -⟩ := responseFrom_eq_ok_iff.mp whole
    exact ⟨head, well⟩
  · rintro ⟨head, well⟩
    obtain ⟨rest, whole⟩ := well.follows
    rw [responseFrom_eq_ok_iff.mpr ⟨head, well, whole.symm⟩]

/-- A response whose numbers only the integer parser reads is read, against the promise. -/
theorem not_readsResponses_of_loose {bytes : Bytes} {broken : Bool} (loose : LooseNumbers bytes) :
    ¬ ReadsResponses bytes broken := by
  intro promised
  obtain ⟨head, status, body, well, loose⟩ := loose
  obtain ⟨other, plain⟩ :=
    (promised.accepted [] body status).mp (readResponse_eq_ok_iff.mpr ⟨head, well⟩)
  have ⟨_, numbers⟩ := wellFormed_digits_iff.mp plain
  rw [← well.unique plain] at numbers
  exact loose numbers

/-- The responses of a stream are as promised exactly when it does not begin with one whose numbers
only the integer parser reads. -/
theorem readsResponses_iff (bytes : Bytes) (broken : Bool) :
    ReadsResponses bytes broken ↔ ¬ LooseNumbers bytes := by
  constructor
  · intro promised loose
    exact not_readsResponses_of_loose loose promised
  · intro plain
    refine ⟨?_, ?_, ?_⟩
    · intro plan
      rw [(readResponse_fst bytes plan broken).1, (readResponse_fst bytes [] broken).1]
    · intro plan body status read
      rw [(readResponse_fst bytes plan broken).1] at read
      have whole : responseFrom broken bytes =
          (.ok ⟨body, status⟩, (responseFrom broken bytes).2) := by
        rw [← read]
      obtain ⟨head, well, parts⟩ := responseFrom_eq_ok_iff.mp whole
      refine ⟨utf8 head.text, well.isHead, ?_⟩
      rw [(readResponse_fst bytes plan broken).2]
      exact parts
    · intro plan body status
      rw [readResponse_eq_ok_iff]
      constructor
      · rintro ⟨head, well⟩
        refine ⟨head, wellFormed_digits_iff.mpr ⟨well, ?_⟩⟩
        by_contra loose
        exact plain ⟨head, status, body, well, loose⟩
      · rintro ⟨head, well⟩
        exact ⟨head, (wellFormed_digits_iff.mp well).1⟩

/-- A response whose content length has a plus sign. -/
def signedLength : Bytes :=
  asciiBytes "HTTP/1.1 200 OK\r\nContent-Length: +2\r\n\r\n\x7b\x7d"

/-- The lines of its head. -/
def signedHead : ResponseHead where
  statusLine := "HTTP/1.1 200 OK".toList
  fields := [("Content-Length".toList, " +2".toList)]

/-- Its head is read by the integer parser. -/
theorem signed_wellFormed :
    WellFormed StatusParsed LengthParsed signedLength signedHead 200 (asciiBytes "\x7b\x7d") where
  isHead := by
    have read : headFrom false maxHeaderBytes [] signedLength =
        (.ok (utf8 signedHead.text), asciiBytes "\x7b\x7d") ∧
          blankLine <:+ utf8 signedHead.text := by
      decide +kernel
    exact (headFrom_isHead_iff.mp read).1
  bounded := by decide +kernel
  unbroken := by
    unfold Unbroken
    decide +kernel
  named := by decide +kernel
  status := ⟨['2', '0', '0'], by decide +kernel, by
    unfold StatusParsed
    decide +kernel⟩
  plain := by decide +kernel
  length := ⟨by decide +kernel, by decide⟩
  follows := by decide +kernel

/-- A response whose content length has a plus sign is read as one. -/
theorem signed_length_read : ¬ ReadsResponses signedLength false := by
  apply not_readsResponses_of_loose
  refine ⟨signedHead, 200, asciiBytes "\x7b\x7d", signed_wellFormed, ?_⟩
  intro plain
  have digits := plain.lengths ['+', '2'] (by decide +kernel)
  exact absurd digits (by decide)

end ManagedTransport
end ReproItSdk
