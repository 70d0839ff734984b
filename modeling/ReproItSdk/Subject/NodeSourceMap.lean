import ReproItSdk.Library.JsonStrings
import ReproItSdk.Library.Scanning
import ReproItSdk.Subject.NodeClosure

/-! # Source map of a Node module

A module names its source map in a comment.  The packager reads the module in chunks and searches
each of them, with the last 8192 characters before it, for such comments; the last one found counts.
The comments are those of one regular expression, whose parts leave it no choice: white space does
not begin the name of the marker, and a reference ends where its characters do.

Main definitions:

- Function {lit}`matchAt`: the match of the expression at the front of a text.
- Function {lit}`sourceMapReference`: the checked reference of a module.

Main results:

- Theorem {lit}`matchAt_eq_some_iff`: which comments the expression matches.
- Theorem {lit}`scanReads_last`: the chunks give the last reference of the module where they see it.
-/

namespace ReproItSdk
namespace NodeSubject

open Scanning Unicode Windows

/-! ## Constants and texts -/

/-- {lit}`SOURCE_MAP_REFERENCE_BYTES`. -/
def sourceMapReferenceBytes : Nat :=
  8 * 1024

/-- White space of a regular expression. -/
def isSpace (character : Char) : Bool :=
  let code := character.val.toNat
  decide (9 ≤ code ∧ code ≤ 13) || code == 0x20 || code == 0xa0 || code == 0x1680 ||
    decide (0x2000 ≤ code ∧ code ≤ 0x200a) || code == 0x2028 || code == 0x2029 ||
    code == 0x202f || code == 0x205f || code == 0x3000 || code == 0xfeff

/-- Text of some bytes in Latin-1. -/
def latin1 (bytes : Bytes) : Text :=
  bytes.map fun byte => Char.ofNat byte.toNat

/-- What names a source map: {lit}`sourceMappingURL=`. -/
def marker : Text :=
  ['s', 'o', 'u', 'r', 'c', 'e', 'M', 'a', 'p', 'p', 'i', 'n', 'g', 'U', 'R', 'L', '=']

/-- What follows a word at the front of a text. -/
def afterWord (word text : Text) : Option Text :=
  if word <+: text then some (text.drop word.length) else none

/-- What follows {lit}`[#@]\\s*sourceMappingURL=`. -/
def afterMarker : Text → Option Text
  | [] => none
  | sign :: text =>
      if sign = '#' ∨ sign = '@' then afterWord marker (text.dropWhile isSpace) else none

/-- A character of a reference in a line comment. -/
def inLine (character : Char) : Bool :=
  !isSpace character

/-- A character of a reference in a block comment. -/
def inBlock (character : Char) : Bool :=
  !isSpace character && character != '*'

/-- The match at the front of a text: its reference and its length. -/
def matchAt : Text → Option (Text × Nat)
  | '/' :: '/' :: text =>
      match afterMarker text with
      | none => none
      | some after =>
          if after.takeWhile inLine = [] then none
          else some (after.takeWhile inLine,
            text.length + 2 - (after.dropWhile inLine).length)
  | '/' :: '*' :: text =>
      match afterMarker text with
      | none => none
      | some after =>
          if after.takeWhile inBlock = [] then none
          else
            match afterWord ['*', '/'] ((after.dropWhile inBlock).dropWhile isSpace) with
            | none => none
            | some rest => some (after.takeWhile inBlock, text.length + 2 - rest.length)
  | _ => none

/-- {lit}`text.matchAll(expression)`. -/
def matchAll (text : Text) : List (Match Text) :=
  scan matchAt 0 0 text

/-! ## Reference of a module -/

/-- The loop over the reads of a module, with the kept text and the reference found so far.  A read
fails or gives a chunk; an empty one ends the loop. -/
def scanReads : List (Option Bytes) → Text → Option Text → Except Error (Option Text)
  | [], _, reference => .ok reference
  | none :: _, _, _ => .error subjectUnreadable
  | some [] :: _, _, reference => .ok reference
  | some (byte :: chunk) :: reads, carry, reference =>
      let text := carry ++ latin1 (byte :: chunk)
      scanReads reads (lastOf sourceMapReferenceBytes text)
        ((matchAll text).foldl (fun _ found => some found.value) reference)

/-- The bytes that a text of ASCII characters and escapes stands for. -/
def escapedBytes : Text → Option Bytes
  | [] => some []
  | '%' :: high :: low :: text => do
      let high ← Json.hexadecimalDigit? high
      let low ← Json.hexadecimalDigit? low
      let bytes ← escapedBytes text
      some (UInt8.ofNat (high * 16 + low) :: bytes)
  | '%' :: _ => none
  | character :: text => (escapedBytes text).map (UInt8.ofNat character.val.toNat :: ·)

/-- {lit}`decodeURIComponent` of a text of ASCII characters. -/
def decodeUriComponent (text : Text) : Option Text :=
  (escapedBytes text).bind decodeUtf8

/-- {lit}`sourceMapReference`, where {lit}`isAbsolute` is that of the path module. -/
def sourceMapReference (isAbsolute : Text → Bool) (opened : Bool) (reads : List (Option Bytes)) :
    Except Error (Option Text) :=
  if ¬ opened then .error subjectUnreadable
  else
    match scanReads reads [] none with
    | .error error => .error error
    | .ok none => .ok none
    | .ok (some reference) =>
        if "data:".toList <+: reference then .ok none
        else if 4096 < reference.length ∨
            ¬ reference.all (fun character => decide ('!' ≤ character ∧ character ≤ '~')) ∨
            reference.contains '?' ∨ reference.contains '#' ∨ reference.contains '\\' ∨
            isAbsolute reference then .error subjectUnsupported
        else
          match decodeUriComponent reference with
          | none => .error subjectUnsupported
          | some decoded =>
              if decoded = [] ∨ decoded.contains '\x00' ∨ decoded.contains '\\' ∨
                  isAbsolute decoded then .error subjectUnsupported
              else .ok (some decoded)

/-! ## Comments -/

/-- White space only. -/
def Blank (text : Text) : Prop :=
  ∀ character ∈ text, isSpace character = true

/-- A text that does not go on with a character of some kind. -/
def EndsAt (kind : Char → Bool) (rest : Text) : Prop :=
  ∀ character, rest.head? = some character → kind character = false

/-- A comment at the front of a text, with its reference and what follows it. -/
inductive Comment : Text → Text → Text → Prop where
  | line {sign : Char} {gap reference rest : Text} (signed : sign = '#' ∨ sign = '@')
      (blank : Blank gap) (named : reference ≠ []) (solid : ∀ c ∈ reference, inLine c = true)
      (ends : EndsAt inLine rest) :
      Comment ('/' :: '/' :: sign :: (gap ++ (marker ++ (reference ++ rest)))) reference rest
  | block {sign : Char} {gap reference gap' rest : Text} (signed : sign = '#' ∨ sign = '@')
      (blank : Blank gap) (named : reference ≠ []) (solid : ∀ c ∈ reference, inBlock c = true)
      (blank' : Blank gap') :
      Comment
        ('/' :: '*' :: sign :: (gap ++ (marker ++ (reference ++ (gap' ++ '*' :: '/' :: rest)))))
        reference rest

/-- A text is a run of some kind and what follows it in one way only. -/
theorem span_eq {kind : Char → Bool} {run rest : Text} (all : ∀ c ∈ run, kind c = true)
    (ends : EndsAt kind rest) :
    (run ++ rest).takeWhile kind = run ∧ (run ++ rest).dropWhile kind = rest := by
  induction run with
  | nil =>
      cases rest with
      | nil => simp
      | cons first rest => simp [ends first rfl]
  | cons character run ih =>
      have first : kind character = true := all character (by simp)
      have others := ih fun other among => all other (List.mem_cons_of_mem _ among)
      simpa [first] using others

/-- A text is a run of some kind, which ends where the kind does. -/
theorem exists_span (kind : Char → Bool) (text : Text) :
    text = text.takeWhile kind ++ text.dropWhile kind ∧
      (∀ c ∈ text.takeWhile kind, kind c = true) ∧ EndsAt kind (text.dropWhile kind) := by
  induction text with
  | nil => simp [EndsAt]
  | cons character text ih =>
      by_cases here : kind character = true
      · simp only [List.takeWhile_cons, List.dropWhile_cons, here, if_true]
        obtain ⟨whole, all, ends⟩ := ih
        refine ⟨by rw [List.cons_append, ← whole], ?_, ends⟩
        intro other among
        rcases List.mem_cons.mp among with rfl | among
        · exact here
        · exact all other among
      · simp only [List.takeWhile_cons, List.dropWhile_cons, here]
        refine ⟨by simp, by simp, ?_⟩
        intro other first
        have same : character = other := by simpa using first
        simpa [← same] using here

/-- What follows a word. -/
theorem afterWord_eq_some_iff {word text rest : Text} :
    afterWord word text = some rest ↔ text = word ++ rest := by
  unfold afterWord
  constructor
  · intro found
    split at found
    · rename_i begins
      obtain ⟨after, rfl⟩ := begins
      simpa using found
    · cases found
  · rintro rfl
    simp

/-- The marker does not begin with white space. -/
theorem marker_ends (rest : Text) : EndsAt isSpace (marker ++ rest) := by
  intro character first
  have same : character = 's' := by
    simpa [marker, eq_comm] using first
  rw [same]
  decide

/-- What follows the sign and the marker. -/
theorem afterMarker_eq_some_iff {text after : Text} :
    afterMarker text = some after ↔ ∃ sign gap, (sign = '#' ∨ sign = '@') ∧ Blank gap ∧
      text = sign :: (gap ++ (marker ++ after)) := by
  cases text with
  | nil => simp [afterMarker]
  | cons sign text =>
      simp only [afterMarker]
      constructor
      · intro found
        split at found
        · rename_i signed
          have whole := afterWord_eq_some_iff.mp found
          obtain ⟨parts, blank, -⟩ := exists_span isSpace text
          refine ⟨sign, text.takeWhile isSpace, signed, blank, ?_⟩
          rw [← whole, ← parts]
        · cases found
      · rintro ⟨sign', gap, signed, blank, whole⟩
        rw [List.cons.injEq] at whole
        obtain ⟨rfl, rfl⟩ := whole
        rw [if_pos signed, (span_eq blank (marker_ends after)).2]
        exact afterWord_eq_some_iff.mpr rfl

/-- The end of a block comment is no part of a reference or of white space. -/
theorem star_ends {gap : Text} (rest : Text) (blank : Blank gap) :
    EndsAt inBlock (gap ++ '*' :: '/' :: rest) ∧ EndsAt isSpace ('*' :: '/' :: rest) := by
  refine ⟨?_, ?_⟩
  · intro character first
    cases gap with
    | nil =>
        have same : character = '*' := by simpa [eq_comm] using first
        rw [same]
        decide
    | cons other gap =>
        have same : character = other := by simpa [eq_comm] using first
        rw [same]
        simp [inBlock, blank other (by simp)]
  · intro character first
    have same : character = '*' := by simpa [eq_comm] using first
    rw [same]
    decide

/-- The match at the front of a text is the comment there. -/
theorem matchAt_eq_some_iff {text reference : Text} {length : Nat} :
    matchAt text = some (reference, length) ↔
      ∃ rest, Comment text reference rest ∧ length + rest.length = text.length := by
  constructor
  · intro found
    unfold matchAt at found
    split at found
    · rename_i text
      split at found
      · cases found
      · rename_i after followed
        obtain ⟨sign, gap, signed, blank, rfl⟩ := afterMarker_eq_some_iff.mp followed
        split at found
        · cases found
        · rename_i named
          simp only [Option.some.injEq, Prod.mk.injEq] at found
          obtain ⟨rfl, rfl⟩ := found
          obtain ⟨parts, solid, ends⟩ := exists_span inLine after
          refine ⟨after.dropWhile inLine, ?_, ?_⟩
          · have comment := Comment.line signed blank named solid ends
            rwa [← parts] at comment
          · have shorter := (List.dropWhile_sublist inLine (l := after)).length_le
            simp only [List.length_cons, List.length_append]
            omega
    · rename_i text
      split at found
      · cases found
      · rename_i after followed
        obtain ⟨sign, gap, signed, blank, rfl⟩ := afterMarker_eq_some_iff.mp followed
        split at found
        · cases found
        · rename_i named
          split at found
          · cases found
          · rename_i rest closed
            simp only [Option.some.injEq, Prod.mk.injEq] at found
            obtain ⟨rfl, rfl⟩ := found
            have whole := afterWord_eq_some_iff.mp closed
            obtain ⟨parts, solid, -⟩ := exists_span inBlock after
            obtain ⟨parts', blank', -⟩ := exists_span isSpace (after.dropWhile inBlock)
            have text' : after = after.takeWhile inBlock ++
                ((after.dropWhile inBlock).takeWhile isSpace ++ '*' :: '/' :: rest) := by
              rw [show '*' :: '/' :: rest = ['*', '/'] ++ rest from rfl, ← whole, ← parts', ← parts]
            refine ⟨rest, ?_, ?_⟩
            · have comment := @Comment.block sign gap _ _ rest signed blank named solid blank'
              rwa [← text'] at comment
            · have longer := congrArg List.length text'
              simp only [List.length_cons, List.length_append] at longer ⊢
              omega
    · cases found
  · rintro ⟨rest, comment, counted⟩
    cases comment with
    | @line sign gap _ _ signed blank named solid ends =>
        have followed := afterMarker_eq_some_iff.mpr
          ⟨sign, gap, signed, blank, (rfl : _ = sign :: (gap ++ (marker ++ (reference ++ rest))))⟩
        have ⟨taken, dropped⟩ := span_eq solid ends
        simp only [List.length_cons] at counted
        simp only [matchAt, followed, taken, dropped, if_neg named, Option.some.injEq,
          Prod.mk.injEq, true_and, List.length_cons]
        omega
    | @block sign gap _ gap' _ signed blank named solid blank' =>
        have followed := afterMarker_eq_some_iff.mpr
          ⟨sign, gap, signed, blank,
            (rfl : _ = sign :: (gap ++ (marker ++ (reference ++ (gap' ++ '*' :: '/' :: rest)))))⟩
        have ⟨taken, dropped⟩ := span_eq solid (star_ends rest blank').1
        have spaced := (span_eq blank' (star_ends rest blank').2).2
        have closed : afterWord ['*', '/'] ('*' :: '/' :: rest) = some rest :=
          afterWord_eq_some_iff.mpr rfl
        simp only [List.length_cons] at counted
        simp only [matchAt, followed, taken, dropped, spaced, closed, if_neg named,
          Option.some.injEq, Prod.mk.injEq, true_and, List.length_cons]
        omega

/-- A comment is more than what follows it. -/
theorem Comment.shorter {text reference rest : Text} (comment : Comment text reference rest) :
    rest.length < text.length := by
  cases comment with
  | line signed blank named solid ends =>
      simp only [List.length_cons, List.length_append]
      omega
  | block signed blank named solid blank' =>
      simp only [List.length_cons, List.length_append]
      omega

/-- A comment stays one when the text goes on; only a reference at the end of the text grows. -/
theorem Comment.grows {text reference rest : Text} (comment : Comment text reference rest)
    (more : Text) : ∃ reference' rest', Comment (text ++ more) reference' rest' ∧
      rest'.length ≤ rest.length + more.length ∧
      (reference' = reference → rest' = rest ++ more) := by
  cases comment with
  | @line sign gap _ _ signed blank named solid ends =>
      obtain ⟨parts, run, ends'⟩ := exists_span inLine (rest ++ more)
      refine ⟨reference ++ (rest ++ more).takeWhile inLine, (rest ++ more).dropWhile inLine,
        ?_, ?_, ?_⟩
      · have all : ∀ c ∈ reference ++ (rest ++ more).takeWhile inLine, inLine c = true := by
          intro c among
          rcases List.mem_append.mp among with earlier | later
          · exact solid c earlier
          · exact run c later
        have longer := Comment.line signed blank (by simp [named]) all ends'
        have same : '/' :: '/' :: sign :: (gap ++ (marker ++ (reference ++ rest))) ++ more =
            '/' :: '/' :: sign :: (gap ++ (marker ++ ((reference ++
              (rest ++ more).takeWhile inLine) ++ (rest ++ more).dropWhile inLine))) := by
          rw [List.append_assoc reference, ← parts]
          simp
        rw [same]
        exact longer
      · have shorter := (List.dropWhile_sublist inLine (l := rest ++ more)).length_le
        simpa using shorter
      · intro same
        have none : (rest ++ more).takeWhile inLine = [] := by
          simpa using same
        rw [none] at parts
        exact parts.symm
  | @block sign gap _ gap' _ signed blank named solid blank' =>
      refine ⟨reference, rest ++ more, ?_, by simp, fun _ => rfl⟩
      have longer := @Comment.block sign gap _ _ (rest ++ more) signed blank named solid blank'
      simpa using longer

/-- Two ways to cut a text. -/
theorem cut_of_append_eq {text more front rest : Text} (whole : text ++ more = front ++ rest)
    (enough : more.length ≤ rest.length) : ∃ kept, rest = kept ++ more ∧ text = front ++ kept := by
  rcases List.append_eq_append_iff.mp whole with ⟨kept, rfl, rfl⟩ | ⟨kept, rfl, rfl⟩
  · have none : kept = [] := by
      apply List.eq_nil_of_length_eq_zero
      simp only [List.length_append] at enough
      omega
    subst none
    exact ⟨[], by simp, by simp⟩
  · exact ⟨kept, rfl, rfl⟩

/-- A comment is one in every beginning of the text that holds it. -/
theorem Comment.shrinks {text more reference rest : Text}
    (comment : Comment (text ++ more) reference rest) (enough : more.length ≤ rest.length) :
    ∃ kept, rest = kept ++ more ∧ Comment text reference kept := by
  generalize whole : text ++ more = all at comment
  cases comment with
  | @line sign gap _ _ signed blank named solid ends =>
      have parts : text ++ more =
          ('/' :: '/' :: sign :: (gap ++ (marker ++ reference))) ++ rest := by
        rw [whole]
        simp
      obtain ⟨kept, rfl, rfl⟩ := cut_of_append_eq parts enough
      refine ⟨kept, rfl, ?_⟩
      have ends' : EndsAt inLine kept := by
        intro character first
        apply ends
        rw [List.head?_append, first, Option.some_or]
      have shorter := Comment.line signed blank named solid ends'
      simpa using shorter
  | @block sign gap _ gap' _ signed blank named solid blank' =>
      have parts : text ++ more =
          ('/' :: '*' :: sign :: (gap ++ (marker ++ (reference ++ (gap' ++ ['*', '/']))))) ++
            rest := by
        rw [whole]
        simp
      obtain ⟨kept, rfl, rfl⟩ := cut_of_append_eq parts enough
      refine ⟨kept, rfl, ?_⟩
      have shorter := @Comment.block sign gap _ _ kept signed blank named solid blank'
      simpa using shorter

/-- A match depends on the text up to its end. -/
theorem matchAt_local : Local matchAt where
  positive := by
    intro text reference length found
    obtain ⟨rest, comment, counted⟩ := matchAt_eq_some_iff.mp found
    have := comment.shorter
    omega
  bounded := by
    intro text reference length found
    obtain ⟨rest, comment, counted⟩ := matchAt_eq_some_iff.mp found
    omega
  grows := by
    intro text reference length more found
    obtain ⟨rest, comment, counted⟩ := matchAt_eq_some_iff.mp found
    obtain ⟨reference', rest', longer, most, same⟩ := comment.grows more
    have shorter := longer.shorter
    rw [List.length_append] at shorter
    refine ⟨reference', text.length + more.length - rest'.length,
      matchAt_eq_some_iff.mpr ⟨rest', longer, ?_⟩, by omega, ?_⟩
    · rw [List.length_append]
      omega
    · intro equal
      rw [same equal, List.length_append]
      omega
  shrinks := by
    intro text more reference length found short
    obtain ⟨rest, comment, counted⟩ := matchAt_eq_some_iff.mp found
    rw [List.length_append] at counted
    obtain ⟨kept, rfl, shorter⟩ := comment.shrinks (by omega)
    rw [List.length_append] at counted
    exact matchAt_eq_some_iff.mpr ⟨kept, shorter, by omega⟩

/-! ## Chunks of a module -/

/-- The chunks that the loop reads, up to the first empty one. -/
def moduleTexts : List (Option Bytes) → List Text
  | [] => []
  | none :: _ => []
  | some [] :: _ => []
  | some (byte :: chunk) :: reads => latin1 (byte :: chunk) :: moduleTexts reads

/-- The text of a module. -/
def moduleText (reads : List (Option Bytes)) : Text :=
  (moduleTexts reads).flatten

/-- The last reference of a text. -/
def lastReference (text : Text) : Option Text :=
  (matchAll text).getLast?.map Match.value

/-- The matches of a text leave the last reference, or the one before them. -/
theorem foldl_references (matches_ : List (Match Text)) (reference : Option Text) :
    matches_.foldl (fun _ found => some found.value) reference =
      (matches_.getLast?.map Match.value).or reference := by
  induction matches_ using List.reverseRecOn with
  | nil => simp
  | append_singleton matches_ found ih => simp

/-- The reads of a module leave the last reference of their windows. -/
theorem scanReads_eq {reads : List (Option Bytes)} {carry : Text} {known : Option (Match Text)}
    {reference : Option Text} (start : Nat)
    (scanned : scanReads reads carry (known.map Match.value) = .ok reference) :
    reference = ((placed sourceMapReferenceBytes start carry (moduleTexts reads)).foldl
      (fun known window => (scan matchAt window.1 0 window.2).getLast?.or known) known).map
        Match.value := by
  induction reads generalizing carry known start with
  | nil =>
      cases scanned
      rfl
  | cons read reads ih =>
      rcases read with _ | _ | ⟨byte, chunk⟩
      · cases scanned
      · cases scanned
        rfl
      · rw [scanReads] at scanned
        rw [moduleTexts, placed, List.foldl_cons]
        apply ih
        rw [← scanned]
        congr 1
        rw [foldl_references, matchAll, ← List.getLast?_map, scan_values 0 start,
          List.getLast?_map, Option.map_or]

/-- The chunks of a module end with its last match, and at its place, exactly when they see it. -/
theorem moduleTexts_seen_iff (reads : List (Option Bytes)) :
    seen matchAt (placed sourceMapReferenceBytes 0 [] (moduleTexts reads)) =
        (matchAll (moduleText reads)).getLast? ↔
      SeesLast matchAt (moduleText reads)
        (placed sourceMapReferenceBytes 0 [] (moduleTexts reads)) :=
  seen_eq_iff matchAt_local sourceMapReferenceBytes (moduleTexts reads)

/-- The reference of a module is that of the last match that its chunks show.  It is the last match
of the whole text when the chunks see that match, and another match otherwise. -/
theorem scanReads_last {reads : List (Option Bytes)} {reference : Option Text}
    (scanned : scanReads reads [] none = .ok reference) :
    (SeesLast matchAt (moduleText reads)
        (placed sourceMapReferenceBytes 0 [] (moduleTexts reads)) →
      reference = lastReference (moduleText reads)) ∧
    reference = (seen matchAt (placed sourceMapReferenceBytes 0 [] (moduleTexts reads))).map
      Match.value ∧
    (seen matchAt (placed sourceMapReferenceBytes 0 [] (moduleTexts reads)) =
        (matchAll (moduleText reads)).getLast? ↔
      SeesLast matchAt (moduleText reads)
        (placed sourceMapReferenceBytes 0 [] (moduleTexts reads))) := by
  have shown := @scanReads_eq reads [] none reference 0 scanned
  refine ⟨?_, shown, moduleTexts_seen_iff reads⟩
  intro sees
  have last := (moduleTexts_seen_iff reads).mpr sees
  rw [lastReference, ← last]
  exact shown

/-- A module whose comment is cut by its reads. -/
def splitReads : List (Option Bytes) :=
  [some (asciiBytes "//# source"), some (asciiBytes "MappingURL=a.map\n")]

/-- A comment within the kept text is found whole. -/
theorem scanReads_last_split :
    scanReads splitReads [] none = .ok (some "a.map".toList) ∧
      some "a.map".toList = lastReference (moduleText splitReads) := by
  have scanned : scanReads splitReads [] none = .ok (some "a.map".toList) := by
    decide +kernel
  refine ⟨scanned, (scanReads_last scanned).1 ?_⟩
  intro last ends
  have known : (scan matchAt 0 0 (moduleText splitReads)).getLast? =
      some ⟨0, 26, "a.map".toList⟩ := by
    decide +kernel
  rw [known, Option.some.injEq] at ends
  subst ends
  refine ⟨[(0, latin1 (asciiBytes "//# source"))],
    (0, latin1 (asciiBytes "//# sourceMappingURL=a.map\n")), [], ?_, ?_, ?_, ?_, ?_⟩
  · decide +kernel
  · decide
  · decide +kernel
  · decide +kernel
  · simp

/-! ## A comment within a comment -/

/-- A reference that ends with a comment. -/
def nestedReference : Text :=
  'a' :: '/' :: '/' :: '#' :: (marker ++ ['b'])

/-- The reads of a module: a line comment with this reference and spaces, so that the kept text
begins with the comment in the reference, and then the end of the line. -/
def shiftedReads : List (Option Bytes) :=
  [some (asciiBytes "//#sourceMappingURL=a//#sourceMappingURL=b" ++ List.replicate 8171 32),
    some [10]]

/-- A read that gives a chunk. -/
theorem scanReads_some {chunk : Bytes} (inhabited : chunk ≠ []) (reads : List (Option Bytes))
    (carry : Text) (reference : Option Text) :
    scanReads (some chunk :: reads) carry reference =
      scanReads reads (lastOf sourceMapReferenceBytes (carry ++ latin1 chunk))
        ((matchAll (carry ++ latin1 chunk)).foldl (fun _ found => some found.value)
          reference) := by
  cases chunk with
  | nil => exact absurd rfl inhabited
  | cons byte chunk => rfl

/-- The text of a read that gives a chunk. -/
theorem moduleText_some {chunk : Bytes} (inhabited : chunk ≠ []) (reads : List (Option Bytes)) :
    moduleText (some chunk :: reads) = latin1 chunk ++ moduleText reads := by
  cases chunk with
  | nil => exact absurd rfl inhabited
  | cons byte chunk => rfl

/-- White space has no match. -/
theorem scan_blank (position : Nat) {text : Text} (blank : Blank text) :
    scan matchAt position 0 text = [] := by
  induction text generalizing position with
  | nil => rfl
  | cons character text ih =>
      have space : isSpace character = true := blank character (by simp)
      have none : matchAt (character :: text) = none := by
        unfold matchAt
        split
        · rename_i begins
          rw [(List.cons.inj begins).1] at space
          cases space
        · rename_i begins
          rw [(List.cons.inj begins).1] at space
          cases space
        · rfl
      rw [scan, none]
      exact ih (position + 1) fun other among => blank other (List.mem_cons_of_mem _ among)

/-- A line comment that white space follows. -/
theorem matchAt_line {reference rest : Text} (named : reference ≠ [])
    (solid : ∀ c ∈ reference, inLine c = true) (ends : EndsAt inLine rest) :
    matchAt ('/' :: '/' :: '#' :: (marker ++ (reference ++ rest))) =
      some (reference, 20 + reference.length) := by
  refine matchAt_eq_some_iff.mpr ⟨rest, ?_, ?_⟩
  · have nothing : Blank [] := by
      simp [Blank]
    exact Comment.line (.inl rfl) nothing named solid ends
  · simp only [List.length_cons, List.length_append, marker, List.length_nil]
    omega

/-- A line comment that white space follows is the only match. -/
theorem matchAll_line {reference rest : Text} (named : reference ≠ [])
    (solid : ∀ c ∈ reference, inLine c = true) (blank : Blank rest) :
    matchAll ('/' :: '/' :: '#' :: (marker ++ (reference ++ rest))) =
      [⟨0, 20 + reference.length, reference⟩] := by
  have ends : EndsAt inLine rest := by
    intro character first
    cases rest with
    | nil => simp at first
    | cons other rest =>
        obtain rfl : other = character := by simpa using first
        simp [inLine, blank other (by simp)]
  have first := matchAt_line named solid ends
  have behind : ('/' :: '/' :: '#' :: (marker ++ (reference ++ rest))).drop
      (20 + reference.length) = rest := by
    have parts : '/' :: '/' :: '#' :: (marker ++ (reference ++ rest)) =
        ('/' :: '/' :: '#' :: (marker ++ reference)) ++ rest := by
      simp
    have counted : ('/' :: '/' :: '#' :: (marker ++ reference)).length =
        20 + reference.length := by
      simp only [List.length_cons, List.length_append, marker, List.length_nil]
      omega
    rw [parts, ← counted, List.drop_left]
  rw [matchAll, scan_of_match matchAt_local first, behind, scan_blank _ blank, Nat.zero_add]

/-- Spaces are white space, also before the end of a line. -/
theorem blank_spaces (count : Nat) :
    Blank (List.replicate count ' ') ∧ Blank (List.replicate count ' ' ++ ['\n']) := by
  have space : isSpace ' ' = true := by
    decide
  have line : isSpace '\n' = true := by
    decide
  refine ⟨?_, ?_⟩
  · intro character among
    rw [List.eq_of_mem_replicate among]
    exact space
  · intro character among
    rcases List.mem_append.mp among with here | here
    · rw [List.eq_of_mem_replicate here]
      exact space
    · rw [List.mem_singleton.mp here]
      exact line

/-- The first read of the module as a text. -/
theorem latin1_shifted (count : Nat) :
    latin1 (asciiBytes "//#sourceMappingURL=a//#sourceMappingURL=b" ++ List.replicate count 32) =
      '/' :: '/' :: '#' :: (marker ++ (nestedReference ++ List.replicate count ' ')) := by
  have front : latin1 (asciiBytes "//#sourceMappingURL=a//#sourceMappingURL=b") =
      '/' :: '/' :: '#' :: (marker ++ nestedReference) := by
    decide +kernel
  have spaces : latin1 (List.replicate count 32) = List.replicate count ' ' := by
    rw [latin1, List.map_replicate]
    rfl
  rw [latin1, List.map_append, ← latin1, ← latin1, front, spaces]
  simp

/-- The kept text of the module begins with the comment in its reference. -/
theorem lastOf_shifted {count : Nat} (fills : 21 + count = sourceMapReferenceBytes) :
    lastOf sourceMapReferenceBytes
        ('/' :: '/' :: '#' :: (marker ++ (nestedReference ++ List.replicate count ' '))) =
      '/' :: '/' :: '#' :: (marker ++ (['b'] ++ List.replicate count ' ')) := by
  have parts : '/' :: '/' :: '#' :: (marker ++ (nestedReference ++ List.replicate count ' ')) =
      ('/' :: '/' :: '#' :: (marker ++ ['a'])) ++
        ('/' :: '/' :: '#' :: (marker ++ (['b'] ++ List.replicate count ' '))) := by
    simp [nestedReference]
  have counted : ('/' :: '/' :: '#' :: (marker ++ (['b'] ++ List.replicate count ' '))).length =
      sourceMapReferenceBytes := by
    simp only [List.length_cons, List.length_append, marker, List.length_nil,
      List.length_replicate]
    omega
  rw [parts, lastOf, List.length_append, counted, Nat.add_sub_cancel, List.drop_left]

/-- What the reads of the module give, and the last reference of its text. -/
theorem nested_comment {count : Nat} (fills : 21 + count = sourceMapReferenceBytes)
    {reads : List (Option Bytes)}
    (given : reads = [some (asciiBytes "//#sourceMappingURL=a//#sourceMappingURL=b" ++
      List.replicate count 32), some [10]]) :
    scanReads reads [] none = .ok (some ['b']) ∧
      lastReference (moduleText reads) = some nestedReference := by
  have solid : ∀ c ∈ nestedReference, inLine c = true := by
    rw [← List.all_eq_true]
    decide
  have inner : ∀ c ∈ ['b'], inLine c = true := by
    rw [← List.all_eq_true]
    decide
  have named : nestedReference ≠ [] := by
    simp [nestedReference]
  have inhabited : asciiBytes "//#sourceMappingURL=a//#sourceMappingURL=b" ++
      List.replicate count 32 ≠ [] :=
    List.append_ne_nil_of_left_ne_nil (by decide) _
  have ⟨spaces, line⟩ := blank_spaces count
  have newline : latin1 [10] = ['\n'] := by
    decide
  subst given
  constructor
  · rw [scanReads_some inhabited, scanReads_some (by simp), List.nil_append, latin1_shifted,
      lastOf_shifted fills, newline, matchAll_line named solid spaces]
    have whole : '/' :: '/' :: '#' :: (marker ++ (['b'] ++ List.replicate count ' ')) ++ ['\n'] =
        '/' :: '/' :: '#' :: (marker ++ (['b'] ++ (List.replicate count ' ' ++ ['\n']))) := by
      simp
    rw [whole, matchAll_line (by simp) inner line]
    rfl
  · have text : moduleText [some (asciiBytes "//#sourceMappingURL=a//#sourceMappingURL=b" ++
        List.replicate count 32), some [10]] =
          '/' :: '/' :: '#' :: (marker ++ (nestedReference ++
            (List.replicate count ' ' ++ ['\n']))) := by
      rw [moduleText_some inhabited, moduleText_some (by simp), latin1_shifted, newline]
      simp [moduleText, moduleTexts]
    rw [lastReference, text, matchAll_line named solid line]
    rfl

/-- Kept text that begins within a comment shows another reference than the module. -/
theorem nested_comment_shifted :
    scanReads shiftedReads [] none = .ok (some ['b']) ∧
      lastReference (moduleText shiftedReads) = some nestedReference :=
  nested_comment (by decide) rfl

end NodeSubject
end ReproItSdk
