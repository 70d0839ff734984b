import Mathlib.Data.List.Forall2
import ReproItSdk.Canonical.Encoders
import ReproItSdk.Http.GoRequest
import ReproItSdk.Wrappers.DotNetDependency

/-! # Captured requests while a fuzz campaign is current

The Go transport adds the headers of a campaign to a request before it translates it.  The observer
of .NET adds them to a message after it has translated it, and the message keeps them: a redirect or
another attempt starts with the same message.  Both translations refuse these headers.

Main definitions:

- Function {lit}`DotNet.tryRequest`: the translation of a message.
- Function {lit}`DotNet.observe`: what the observer does at an event of one message.

Main results:

- Theorem {lit}`DotNet.hops_agree_iff`: for which hops a campaign makes no difference.
- Theorem {lit}`campaign_support_iff`: for which requests and hops of both SDKs.
-/

namespace ReproItSdk
namespace Http
namespace DotNet

open Unicode Wrappers.Native

/-! ## Translation -/

/-- {lit}`Uri`, as far as the translation reads it. -/
structure RequestUri where
  isAbsolute : Bool
  scheme : Text
  hasUserInfo : Bool
  absoluteUri : Text
deriving DecidableEq, Repr

/-- The headers of a message, each with its values; a name is a token of ASCII characters. -/
abbrev Headers : Type :=
  List (Text × List Text)

/-- {lit}`HttpRequestMessage`. -/
structure HttpRequestMessage where
  requestUri : Option RequestUri
  method : Text
  hasContent : Bool
  version : Text
  versionPolicy : Text
  headers : Headers
deriving DecidableEq, Repr

/-- {lit}`MaxHeaderBytes`. -/
def maxHeaderBytes : Nat :=
  8192

/-- {lit}`MaxHeaderFields`. -/
def maxHeaderFields : Nat :=
  64

/-- {lit}`MaxPayloadBytes`. -/
def maxPayloadBytes : Nat :=
  16384

/-- {lit}`MaxTargetBytes`. -/
def maxTargetBytes : Nat :=
  16384

/-- {lit}`DistributedFuzz.ContextHttpHeader`. -/
def contextHttpHeader : Text :=
  "ReproIt-Fuzz-Context".toList

/-- {lit}`DistributedFuzz.ParentHttpHeader`. -/
def parentHttpHeader : Text :=
  "ReproIt-Parent-Operation".toList

/-- {lit}`SensitiveRequestHeaders`. -/
def sensitiveRequestHeaders : List Text :=
  ["Authorization".toList, "Cookie".toList, "Proxy-Authorization".toList, contextHttpHeader,
    parentHttpHeader]

/-- Names of ASCII characters that {lit}`OrdinalIgnoreCase` does not tell apart. -/
def sameName (left right : Text) : Bool :=
  left.map Char.toLower = right.map Char.toLower

/-- The inner loop of {lit}`TryMetadata`. -/
def tryValue (name : Text) (collected : List DependencyMetadata × Nat) (value : Text) :
    Option (List DependencyMetadata × Nat) :=
  let nextBytes := collected.2 + (utf8 name).length + (utf8 value).length
  if maxHeaderFields ≤ collected.1.length ∨ maxHeaderBytes < nextBytes then none
  else some (collected.1 ++ [⟨utf8 name, utf8 value⟩], nextBytes)

/-- The outer loop of {lit}`TryMetadata`. -/
def tryHeader (sensitive : List Text) (collected : List DependencyMetadata × Nat)
    (header : Text × List Text) : Option (List DependencyMetadata × Nat) :=
  if sensitive.any (sameName header.1) then none
  else header.2.foldlM (tryValue header.1) collected

/-- {lit}`TryMetadata`. -/
def tryMetadata (headers : Headers) (sensitive : List Text) :
    Option (List DependencyMetadata × Nat) :=
  headers.foldlM (tryHeader sensitive) ([], 0)

/-- The payload of a message. -/
def messagePayload (request : HttpRequestMessage) : Except String Bytes :=
  (Canonical.DotNet.write (.object [
    ("method".toList, .string request.method),
    ("version".toList, .string request.version),
    ("version_policy".toList, .string request.versionPolicy)])).map utf8

/-- A message that is not translated, whatever its headers. -/
def unsupportedMessage (request : HttpRequestMessage) (target : RequestUri) : Bool :=
  !target.isAbsolute || (target.scheme ≠ "http".toList && target.scheme ≠ "https".toList) ||
    target.hasUserInfo || request.method = [] || 32 < (utf16 request.method).length ||
    request.hasContent

/-- {lit}`TryRequest`. -/
def tryRequest (request : HttpRequestMessage) :
    Option (Wrappers.Native.DotNet.SemanticDependencyRequest Text) := do
  let target ← request.requestUri
  if unsupportedMessage request target then none
  else if maxTargetBytes < (utf8 target.absoluteUri).length then none
  else do
    let metadata ← tryMetadata request.headers sensitiveRequestHeaders
    let payload ← (messagePayload request).toOption
    if maxPayloadBytes < payload.length then none
    else
      some {
        encoding := "dotnet-http-client-v1".toList
        metadata := metadata.1
        method := some (utf8 request.method)
        observationClass := some (asciiBytes "outbound-http")
        operation := "outbound-http-request".toList
        payload := payload
        protocol := target.scheme
        target := target.absoluteUri }

/-! ## Hops of one message -/

/-- A campaign context that is current in an operation. -/
structure Campaign where
  encoded : Text
  operationId : Text
deriving DecidableEq, Repr

/-- The headers that {lit}`TryAddFuzzHeaders` adds. -/
def Campaign.headers (campaign : Campaign) : Headers :=
  [(contextHttpHeader, [campaign.encoded]), (parentHttpHeader, [campaign.operationId])]

/-- A message with headers that were added to it. -/
def HttpRequestMessage.withHeaders (request : HttpRequestMessage) (added : Headers) :
    HttpRequestMessage :=
  { request with headers := request.headers ++ added }

/-- A start of the message: what the application and the handlers have made of it, but for headers
that the observer added; whether these were cleared since; whether the engine opens a connection
that captures; and whether the observer has room for it. -/
structure Hop where
  message : HttpRequestMessage
  cleared : Bool
  opens : SdkEngineDependencyRequest → Bool
  room : Bool

/-- An event of the message. -/
inductive HopEvent where
  | start (hop : Hop)
  | stop

/-- What the observer left of the events before: the headers it added to the message, and whether it
holds a connection for it. -/
structure MessageState where
  added : Headers := []
  active : Bool := false
deriving DecidableEq, Repr

/-- The headers of the observer that are still there at a hop. -/
def MessageState.kept (state : MessageState) (hop : Hop) : Headers :=
  if hop.cleared then [] else state.added

/-- {lit}`ObserveStart` once the message is translated and has the headers of a campaign. -/
def openHop (state : MessageState) (hop : Hop)
    (semantic : Wrappers.Native.DotNet.SemanticDependencyRequest Text) : Bool :=
  match Wrappers.Native.DotNet.makeRequest (fun text => some (utf8 text))
      (fun bytes => utf8 (Base64.encode bytes)) semantic with
  | none => false
  | some requestInput => hop.opens requestInput && hop.room && !state.active

/-- {lit}`ObserveStart` of an active operation, and whether it accepted the hop. -/
def observeStart (campaign : Option Campaign) (state : MessageState) (hop : Hop) :
    MessageState × Bool :=
  let kept := state.kept hop
  match tryRequest (hop.message.withHeaders kept) with
  | none => ({ state with added := kept }, false)
  | some semantic =>
      let added := (campaign.map Campaign.headers).getD kept
      let accepted := openHop state hop semantic
      ({ added := added, active := state.active || accepted }, accepted)

/-- What the observer does at an event, and the hop that it accepted. -/
def observe (campaign : Option Campaign) (state : MessageState) : HopEvent → MessageState × Bool
  | .start hop => observeStart campaign state hop
  | .stop => ({ state with active := false }, false)

/-- Which events are accepted hops. -/
def accepted (campaign : Option Campaign) : MessageState → List HopEvent → List Bool
  | _, [] => []
  | state, event :: events =>
      (observe campaign state event).2 ::
        accepted campaign (observe campaign state event).1 events

/-- Every hop that is accepted without a campaign is accepted with one. -/
def HopsAgree (campaign : Campaign) (events : List HopEvent) : Prop :=
  List.Forall₂ (fun without with' => without = true → with' = true) (accepted none {} events)
    (accepted (some campaign) {} events)

/-- No hop is accepted without a campaign while the message still has the headers that an earlier
hop would be given. -/
def HopsApart : Bool → MessageState → List HopEvent → Prop
  | _, _, [] => True
  | carries, state, .stop :: events => HopsApart carries { state with active := false } events
  | carries, state, .start hop :: events =>
      let carries := carries && !hop.cleared
      (carries = true → (observeStart none state hop).2 = false) ∧
        HopsApart (carries || (tryRequest hop.message).isSome) (observeStart none state hop).1
          events

/-- Headers with the name of a sensitive one are not translated. -/
theorem tryMetadata_of_sensitive {headers : Headers} {sensitive : List Text}
    {header : Text × List Text} (among : header ∈ headers)
    (named : sensitive.any (sameName header.1) = true)
    (collected : List DependencyMetadata × Nat) :
    headers.foldlM (tryHeader sensitive) collected = none := by
  induction headers generalizing collected with
  | nil => cases among
  | cons first headers ih =>
      rw [List.foldlM_cons]
      rcases List.mem_cons.mp among with rfl | later
      · rw [tryHeader, if_pos named]
        rfl
      · cases tryHeader sensitive collected first with
        | none => rfl
        | some next => exact ih later next

/-- Nothing is added to a message. -/
@[simp] theorem withHeaders_nil (message : HttpRequestMessage) :
    message.withHeaders [] = message := by
  unfold HttpRequestMessage.withHeaders
  rw [List.append_nil]

/-- A message with the headers of a campaign is not translated. -/
theorem tryRequest_campaign (message : HttpRequestMessage) (campaign : Campaign) :
    tryRequest (message.withHeaders campaign.headers) = none := by
  have named : sensitiveRequestHeaders.any (sameName contextHttpHeader) = true := by
    decide
  have among : (contextHttpHeader, [campaign.encoded]) ∈
      (message.withHeaders campaign.headers).headers :=
    List.mem_append_right _ (List.mem_cons_self ..)
  have refused := tryMetadata_of_sensitive among named ([], 0)
  cases made : tryRequest (message.withHeaders campaign.headers) with
  | none => rfl
  | some semantic =>
      simp only [tryRequest, bind, Option.bind_eq_some_iff] at made
      rcases made with ⟨target, -, made⟩
      split at made
      · cases made
      · split at made
        · cases made
        · rw [tryMetadata, refused, Option.bind_none] at made
          cases made

/-- The observer of a campaign has come as far as the one without: it holds a connection when the
other does, and has added headers or not. -/
def Follows (campaign : Campaign) (carries : Bool) (without with' : MessageState) : Prop :=
  without.added = [] ∧ with'.active = without.active ∧
    with'.added = if carries then campaign.headers else []

/-- A connection is opened for a hop whatever was added to its message. -/
theorem openHop_congr {left right : MessageState} (same : left.active = right.active) (hop : Hop)
    (semantic : Wrappers.Native.DotNet.SemanticDependencyRequest Text) :
    openHop left hop semantic = openHop right hop semantic := by
  unfold openHop
  rw [same]

/-- Without a campaign nothing is added, and a message is translated as the application made it. -/
theorem observeStart_none {state : MessageState} (bare : state.added = []) (hop : Hop) :
    observeStart none state hop = match tryRequest hop.message with
      | none => (state, false)
      | some semantic =>
          ({ state with active := state.active || openHop state hop semantic },
            openHop state hop semantic) := by
  have kept : state.kept hop = [] := by
    unfold MessageState.kept
    rw [bare, ite_self]
  have same : { state with added := ([] : Headers) } = state := by
    rw [← bare]
  simp only [observeStart, kept, withHeaders_nil, same]
  cases tryRequest hop.message with
  | none => rfl
  | some semantic =>
      dsimp only [Option.map_none, Option.getD_none]
      rw [← bare]

/-- The headers that a message still has at a hop. -/
theorem kept_of_follows {campaign : Campaign} {carries : Bool} {without with' : MessageState}
    (follows : Follows campaign carries without with') (hop : Hop) :
    with'.kept hop = if carries && !hop.cleared then campaign.headers else [] := by
  unfold MessageState.kept
  rw [follows.2.2]
  cases hop.cleared <;> cases carries <;> rfl

/-- A hop whose message has the headers of the campaign is not accepted with it, and the observers
go on together when it is not accepted without it. -/
theorem start_carrying {campaign : Campaign} {carries : Bool} {without with' : MessageState}
    (follows : Follows campaign carries without with') {hop : Hop}
    (carried : (carries && !hop.cleared) = true) :
    (observeStart (some campaign) with' hop).2 = false ∧
      ((observeStart none without hop).2 = false →
        Follows campaign true (observeStart none without hop).1
          (observeStart (some campaign) with' hop).1) := by
  have kept := kept_of_follows follows hop
  rw [if_pos carried] at kept
  have observed : observeStart (some campaign) with' hop =
      ({ with' with added := campaign.headers }, false) := by
    simp only [observeStart, kept, tryRequest_campaign]
  rw [observed, observeStart_none follows.1]
  refine ⟨rfl, ?_⟩
  cases tryRequest hop.message with
  | none => exact fun _ => ⟨follows.1, follows.2.1, rfl⟩
  | some semantic =>
      intro refused
      dsimp only at refused ⊢
      rw [refused, Bool.or_false]
      exact ⟨follows.1, follows.2.1, rfl⟩

/-- A hop whose message has no headers of the campaign is accepted with it when it is accepted
without it, and the observers go on together. -/
theorem start_bare {campaign : Campaign} {carries : Bool} {without with' : MessageState}
    (follows : Follows campaign carries without with') {hop : Hop}
    (bare : (carries && !hop.cleared) = false) :
    (observeStart (some campaign) with' hop).2 = (observeStart none without hop).2 ∧
      Follows campaign (tryRequest hop.message).isSome (observeStart none without hop).1
        (observeStart (some campaign) with' hop).1 := by
  have kept := kept_of_follows follows hop
  rw [bare, if_neg Bool.false_ne_true] at kept
  have opens := openHop_congr follows.2.1 hop
  rw [observeStart_none follows.1]
  simp only [observeStart, kept, withHeaders_nil]
  cases tryRequest hop.message with
  | none => exact ⟨rfl, follows.1, follows.2.1, rfl⟩
  | some semantic =>
      dsimp only [Option.map_some, Option.getD_some, Option.isSome_some]
      rw [opens, follows.2.1]
      exact ⟨rfl, follows.1, rfl, rfl⟩

/-- Where two observers go on together, a campaign makes no difference exactly when no accepted hop
has headers of an earlier one. -/
theorem accepted_agree_iff {campaign : Campaign} {carries : Bool} {without with' : MessageState}
    (follows : Follows campaign carries without with') (events : List HopEvent) :
    List.Forall₂ (fun without with' => without = true → with' = true)
        (accepted none without events) (accepted (some campaign) with' events) ↔
      HopsApart carries without events := by
  induction events generalizing carries without with' with
  | nil => exact iff_of_true .nil trivial
  | cons event events ih =>
      rw [accepted, accepted, List.forall₂_cons]
      cases event with
      | stop =>
          have stopped : Follows campaign carries { without with active := false }
              { with' with active := false } := ⟨follows.1, rfl, follows.2.2⟩
          simp only [observe, HopsApart, Bool.false_eq_true, false_implies, true_and]
          exact ih stopped
      | start hop =>
          simp only [observe, HopsApart]
          cases carried : carries && !hop.cleared with
          | true =>
              rcases start_carrying follows carried with ⟨refused, goes⟩
              rw [refused, Bool.true_or]
              simp only [Bool.false_eq_true, imp_false, Bool.not_eq_true, true_implies]
              exact and_congr_right fun missed => ih (goes missed)
          | false =>
              rcases start_bare follows carried with ⟨same, goes⟩
              rw [same, Bool.false_or]
              simp only [Bool.false_eq_true, false_implies, true_and]
              exact (and_iff_right id).trans (ih goes)

/-- A campaign makes no difference to the hops of a message exactly when no hop is accepted without
one while the message would still have the headers of an earlier hop. -/
theorem hops_agree_iff (campaign : Campaign) (events : List HopEvent) :
    HopsAgree campaign events ↔ HopsApart false {} events :=
  accepted_agree_iff ⟨rfl, rfl, rfl⟩ events

end DotNet

/-! ## Both SDKs -/

/-- A request that is captured without a campaign is captured with one, for what the engine opens.
-/
def Go.CampaignSupported (opens : Wrappers.Native.SdkEngineDependencyRequest → Bool)
    (campaign : Go.Campaign) (request : Go.Request) : Prop :=
  (Go.captured none request).any opens = true →
    (Go.captured (some campaign) request).any opens = true

/-- A campaign takes the capture from every request of the Go transport that is captured without it,
and from every hop of a message of .NET that is accepted without it while the message still has the
headers of an earlier hop; and from no other. -/
theorem campaign_support_iff (opens : Wrappers.Native.SdkEngineDependencyRequest → Bool)
    (context : Go.Campaign) (request : Go.Request) (campaign : DotNet.Campaign)
    (events : List DotNet.HopEvent) :
    (Go.CampaignSupported opens context request ↔ (Go.captured none request).any opens = false) ∧
      (DotNet.HopsAgree campaign events ↔ DotNet.HopsApart false {} events) := by
  constructor
  · unfold Go.CampaignSupported
    rw [Go.captured_campaign, Option.any_none]
    simp only [Bool.false_eq_true, imp_false, Bool.not_eq_true]
  · exact DotNet.hops_agree_iff campaign events

/-- A request without headers and a message that is sent twice. -/
theorem campaign_takes_capture :
    (¬ ∀ opens campaign request, Go.CampaignSupported opens campaign request) ∧
      ¬ ∀ campaign events, DotNet.HopsAgree campaign events := by
  constructor
  · intro all
    let request : Go.Request :=
      { url := some ⟨asciiBytes "http", false, asciiBytes "http://a/"⟩, method := asciiBytes "GET"
        header := ⟨[], List.nodup_nil⟩, body := .absent, close := false, contentLength := 0
        host := asciiBytes "a", proto := asciiBytes "HTTP/1.1", protoMajor := 1, protoMinor := 1
        transferEncoding := [] }
    have captured : (Go.captured none request).any (fun _ => true) = true := by
      decide +kernel
    have taken := all (fun _ => true) ⟨[], []⟩ request captured
    rw [Go.captured_campaign] at taken
    cases taken
  · intro all
    let message : DotNet.HttpRequestMessage :=
      { requestUri := some ⟨true, "http".toList, false, "http://a/".toList⟩, method := "GET".toList
        hasContent := false, version := "1.1".toList
        versionPolicy := "RequestVersionOrLower".toList, headers := [] }
    let hop : DotNet.HopEvent := .start ⟨message, false, fun _ => true, true⟩
    let campaign : DotNet.Campaign := ⟨"e".toList, "op".toList⟩
    have without : DotNet.accepted none {} [hop, .stop, hop] = [true, false, true] := by
      decide +kernel
    have fuzzed : DotNet.accepted (some campaign) {} [hop, .stop, hop] = [true, false, false] := by
      decide +kernel
    have agree := all campaign [hop, .stop, hop]
    unfold DotNet.HopsAgree at agree
    rw [without, fuzzed] at agree
    simp at agree

end Http
end ReproItSdk
