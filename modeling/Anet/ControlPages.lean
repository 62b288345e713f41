import Anet.Base64
import Anet.Encoding

/-! Remote control pages: the signature of a page, the composition of a root page with the
pages it names, and the synchronisation that applies a composed document. -/
namespace Anet

/-- What the remote control takes from msgpack, hashlib, urllib and the cryptography package,
the numbers of a polling interval, and the check of the listener ports of a page. -/
structure PageLibrary where
  rt : Runtime
  verify : (publicKey signature message : Bytes) → Bool
  digest : Value → String
  resolve : (base reference : String) → String
  joinUrl : (base reference : String) → String
  bounded : Value → Result UInt64
  minSeconds : UInt64 → UInt64 → UInt64
  platform : String
  checkPorts : List (Value × Value) → Result Unit

abbrev TrustedKeys := List (String × String)

structure PageSignature where
  signed : Bool
  keyId : String
  issuedMs : ℤ
  expiresMs : ℤ

/-- The merged content of a page tree. -/
structure PolicyDocument where
  sequence : ℤ
  network : String
  repoUrl : String
  repoRef : String
  pollSeconds : UInt64
  config : List (Value × Value)
  software : List (Value × Value)
  nodes : List Value
  sources : List String
  sourcePublishers : List (String × Bool × String)
  sourcePins : List (String × String)
  controlPublishers : TrustedKeys
  crossPlatform : Bool
  signed : Bool
  keyId : String
  issuedMs : ℤ
  expiresMs : ℤ

/-- What the recursion over the pages carries along: the sources read so far, which are also the
visited ones, and beside each of them the sequence number of its own page. -/
structure PageWalk where
  sources : List String
  publishers : List (String × Bool × String)
  pins : List (String × String)
  requests : List String
  pages : List (String × ℤ)

/-- What the servers answer to a request that follows the given ones. -/
abbrev PageServer := List String → String → Result Value

namespace RemoteControl

abbrev Fields := List (Value × Value)

def controlSignatureVersion : ℤ := 1
def controlClockSkewMs : ℤ := 5 * 60 * 1000
def controlMaxTtlMs : ℤ := 30 * 24 * 60 * 60 * 1000
def maxControlTrustedKeys : ℕ := 16
def maxPageCount : ℕ := 64
def maxPageDepth : ℕ := 4
def controlSignatureField : String := "_anet_control"

/-- `bool(value)`. -/
def truthy : Value → Bool
  | .nil => false
  | .bool b => b
  | .int i => i ≠ 0
  | .float bits => bits &&& 0x7fffffffffffffff ≠ 0
  | .str s => s ≠ ""
  | .bin b => b ≠ []
  | .list items => !items.isEmpty
  | .map entries => !entries.isEmpty

/-- `value == 1`. -/
def isOne : Value → Bool
  | .bool b => b
  | .int i => i = 1
  | .float bits => bits = 0x3ff0000000000000
  | _ => false

/-- `_CONTROL_KEY_ID_PATTERN.fullmatch`. -/
def isControlKeyId (s : String) : Bool :=
  matchesWord (fun c => isAlpha c || isDigit c)
    (fun c => isAlpha c || isDigit c || c == '.' || c == '_' || c == '-') 63 s

/-- `entries[name] = value`. -/
def putField (name : String) (value : Value) : Fields → Fields
  | [] => [(.str name,value)]
  | e :: es => if e.1.isStr name then (e.1,value) :: es else e :: putField name value es

mutual

/-- The value of a key after a merge. -/
def mergeValue (old : Option Value) : Value → Value
  | .map patch =>
    match old with
    | some (.map base) => .map (deepMerge base patch)
    | _ => .map patch
  | v => v

/-- `_deep_merge`. -/
def deepMerge (base : Fields) : Fields → Fields
  | [] => base
  | (.str name,value) :: patch =>
    deepMerge (putField name (mergeValue (Value.field base name) value) base) patch
  | _ :: patch => deepMerge base patch

end

variable (lib : PageLibrary)

section Signature

/-- `_validate_control_window`. -/
def validateControlWindow (now : ℤ) : Option Value → Option Value → Result (ℤ × ℤ)
  | some (.int issuedMs),some (.int expiresMs) => do
    raiseIf (now + controlClockSkewMs < issuedMs)
      (.runtime "control signature is issued too far in the future")
    raiseIf (expiresMs ≤ issuedMs) (.runtime "control signature expiry must follow issuance")
    raiseIf (expiresMs ≤ now - controlClockSkewMs) (.runtime "control signature has expired")
    raiseIf (controlMaxTtlMs < expiresMs - issuedMs)
      (.runtime "control signature lifetime is too long")
    return (issuedMs,expiresMs)
  | _,_ => .error (.runtime "control signature timestamps must be integers")

/-- One key of `_normalise_trusted_keys`. -/
def trustedKey (rawKeyId rawPublicKey : Value) : Result (String × String) := do
  let keyId := strip (lib.rt.str rawKeyId)
  raiseIf (¬ isControlKeyId keyId) (.runtime "control trusted key id is invalid")
  let publicKey ← fetched (b64d (strip (lib.rt.str rawPublicKey)))
    (.runtime s!"control trusted key {keyId} is not valid base64")
  raiseIf (publicKey.length ≠ 32)
    (.runtime s!"control trusted key {keyId} must contain 32 public-key bytes")
  return (keyId,b64e publicKey)

/-- `result[key_id] = ...` on the trusted keys. -/
def putKey (key : String × String) : TrustedKeys → TrustedKeys
  | [] => [key]
  | k :: ks => if k.1 = key.1 then key :: ks else k :: putKey key ks

/-- `_normalise_trusted_keys`. -/
def normaliseTrustedKeys : Value → Result TrustedKeys
  | .nil => .ok []
  | .map entries => do
    raiseIf (maxControlTrustedKeys < entries.length)
      (.runtime "control trusted key set is too large")
    let keys ← entries.mapM fun e => trustedKey lib e.1 e.2
    return keys.foldl (fun ks k => putKey k ks) []
  | _ => .error (.runtime "control trusted_keys must be an object")

/-- `_normalise_delegated_publishers`. -/
def normaliseDelegatedPublishers (trusted : TrustedKeys) (value : Value) : Result TrustedKeys := do
  let delegated ← normaliseTrustedKeys lib value
  raiseIf (maxControlTrustedKeys < trusted.length + delegated.length)
    (.runtime "combined control publisher set is too large")
  raiseIf (∃ k ∈ delegated, k.1 ∈ trusted.map Prod.fst)
    (.runtime "delegated publisher conflicts with local key ID")
  raiseIf (∃ k ∈ delegated, k.2 ∈ trusted.map Prod.snd)
    (.runtime "a delegated publisher cannot reuse a local publisher public key")
  raiseIf (¬ (delegated.map Prod.snd).Nodup)
    (.runtime "one delegated public key cannot identify multiple publishers")
  return delegated

/-- The public key of an id. -/
def TrustedKeys.find (keys : TrustedKeys) (keyId : String) : Option String :=
  (keys.find? fun k => k.1 = keyId).map Prod.snd

/-- A page without a signature, where no key is trusted. -/
def unsignedPage (trusted : TrustedKeys) (value : Value) : Result (Value × PageSignature) :=
  if trusted ≠ [] then .error (.runtime "signed control page required for source")
  else .ok (value,⟨false,"",0,0⟩)

/-- The signature of a marked page. -/
def verifyMarkedPage (trusted : TrustedKeys) (now : ℤ) (value marker : Fields) :
    Result (Value × PageSignature) := do
  raiseIf (trusted = []) (.runtime "control page is signed but no local trusted key is configured")
  raiseIf (¬ isOne (Value.fieldOr marker "version" .nil))
    (.runtime "unsupported control signature version")
  raiseIf (lower (lib.rt.str (Value.fieldOr marker "algorithm" (.str ""))) ≠ "ed25519")
    (.runtime "unsupported control signature algorithm")
  let keyId := strip (lib.rt.str (Value.fieldOr marker "key_id" (.str "")))
  let encoded ← fetched (TrustedKeys.find trusted keyId)
    (.runtime s!"control signing key is not locally trusted: {keyId}")
  let window ← validateControlWindow now (Value.field marker "issued_ms")
    (Value.field marker "expires_ms")
  let publicKey ← fetched (b64d encoded) (.runtime "control page signature verification failed")
  let signature ← fetched (b64d (lib.rt.str (Value.fieldOr marker "signature" (.str ""))))
    (.runtime "control page signature verification failed")
  let payload := value.filter fun e => ¬ e.1.isStr controlSignatureField
  let message ← lib.rt.canonicalPack (.list [.int controlSignatureVersion,.str keyId,
    .int window.1,.int window.2,.map payload])
  raiseIf (¬ lib.verify publicKey signature message)
    (.runtime "control page signature verification failed")
  return (.map payload,⟨true,keyId,window.1,window.2⟩)

/-- `_verify_control_page`. -/
def verifyControlPage (trusted : TrustedKeys) (now : ℤ) : Value → Result (Value × PageSignature)
  | .map fields =>
    match Value.field fields controlSignatureField with
    | none => unsignedPage trusted (.map fields)
    | some .nil => unsignedPage trusted (.map fields)
    | some (.map marker) => verifyMarkedPage lib trusted now fields marker
    | some _ => .error (.runtime "control signature metadata must be an object")
  | value => unsignedPage trusted value

end Signature

section Reading

/-- `_read_json_url`. -/
def readJsonUrl (server : PageServer) (url : String) (walk : PageWalk) : Result (Value × PageWalk) := do
  let value ← server walk.requests url
  match value with
  | .map _ => return (value,{ walk with requests := walk.requests ++ [url] })
  | .list _ => return (value,{ walk with requests := walk.requests ++ [url] })
  | _ => .error (.runtime "control page must contain a JSON object or array")

/-- The value `_card_value` starts from. -/
def cardSource (server : PageServer) (baseUrl : String) (item : Value) (walk : PageWalk) :
    Result (Value × PageWalk) :=
  match item with
  | .str s => readJsonUrl server (lib.joinUrl baseUrl s) walk
  | .map fields =>
    match Value.field fields "card" with
    | some (.map card) => .ok (.map card,walk)
    | _ =>
      if truthy (Value.fieldOr fields "card_url" .nil) then
        readJsonUrl server (lib.joinUrl baseUrl (lib.rt.str (Value.fieldOr fields "card_url" .nil))) walk
      else .ok (item,walk)
  | _ => .ok (item,walk)

/-- `_card_value`. -/
def cardValue (server : PageServer) (baseUrl : String) (item : Value) (walk : PageWalk) :
    Result (Value × PageWalk) := do
  let (value,walk) ← cardSource lib server baseUrl item walk
  match value with
  | .map fields =>
    match Value.field fields "card" with
    | some (.map card) => return (.map card,walk)
    | _ => return (value,walk)
  | _ => .error (.runtime "remote node entry must contain a Peer Card object")

/-- The card behind a reference. -/
def referencedCard (server : PageServer) (target : String) (walk : PageWalk) :
    Result (Value × PageWalk) := do
  let (value,walk) ← readJsonUrl server target walk
  cardValue lib server target value walk

/-- `normalise_node`. -/
def normaliseNode (server : PageServer) (sourceUrl : String) (item : Value) (walk : PageWalk) :
    Result (Value × PageWalk) :=
  match item with
  | .str s => referencedCard lib server (lib.resolve sourceUrl s) walk
  | .map fields =>
    if truthy (Value.fieldOr fields "card_url" .nil) then do
      let target := lib.resolve sourceUrl (lib.rt.str (Value.fieldOr fields "card_url" .nil))
      let (card,walk) ← referencedCard lib server target walk
      return (.map (putField "card" card (putField "card_url" (.str target) fields)),walk)
    else
      match Value.field fields "card" with
      | some (.str s) => do
        let (card,walk) ← referencedCard lib server (lib.resolve sourceUrl s) walk
        return (.map (putField "card" card fields),walk)
      | _ => .ok (item,walk)
  | _ => .ok (item,walk)

end Reading

section Documents

def asMaps (values : List Value) : List Fields := values.filterMap Value.asMap

/-- A page and its overlay for this platform. -/
def expandDocument (document : Fields) : Result (List Fields) := do
  lib.checkPorts document
  match Value.fieldOr document "platforms" .nil with
  | .nil => return [document]
  | .map platforms =>
    match Value.fieldOr platforms lib.platform .nil with
    | .nil => return [document]
    | .map overlay => return [document,overlay]
    | _ => .error (.runtime s!"control page platforms.{lib.platform} must be an object")
  | _ => .error (.runtime "control page platforms must be an object")

/-- The documents of a page, each with its overlay behind it. -/
def expandPage (value : Value) : Result (List Fields) := do
  let documents := match value with
    | .list items => asMaps items
    | .map fields => [fields]
    | _ => []
  raiseIf (documents = []) (.runtime "control page contains no JSON objects")
  let expanded ← documents.mapM (expandDocument lib)
  return expanded.flatten

/-- `document.get("sequence")` as an integer; a Boolean is one. -/
def documentSequence (document : Fields) : Option ℤ :=
  match Value.field document "sequence" with
  | some (.int i) => some i
  | some (.bool b) => some (if b then 1 else 0)
  | _ => none

/-- The sequence number of a page by itself. -/
def pageSequence (documents : List Fields) : ℤ :=
  (documents.filterMap documentSequence).foldl max 0

/-- Both Windows and WSL have an overlay. -/
def crossPlatform (document : Fields) : Bool :=
  match Value.field document "platforms" with
  | some (.map platforms) =>
    ((Value.fieldOr platforms "windows" .nil).asMap).isSome &&
      ((Value.fieldOr platforms "wsl" .nil).asMap).isSome
  | _ => false

/-- `_empty_document`. -/
def emptyDocument (pollSeconds : UInt64) : PolicyDocument :=
  ⟨0,"","","",pollSeconds,[],[],[],[],[],[],[],false,false,"",0,0⟩

/-- A text field that replaces the merged one when it is there. -/
def textField (document : Fields) (name : String) (f : String → String) (old : String) : String :=
  if truthy (Value.fieldOr document name .nil) then f (lib.rt.str (Value.fieldOr document name .nil))
  else old

/-- The software of a document, with its references resolved. -/
def resolvedSoftware (sourceUrl : String) (software : Fields) : Fields :=
  ["wheel_url","repo_url"].foldl (fun fields key =>
    if truthy (Value.fieldOr fields key .nil) then
      putField key (.str (lib.resolve sourceUrl (lib.rt.str (Value.fieldOr fields key .nil)))) fields
    else fields) software

/-- A field that is set where the software has none. -/
def defaultSoftware (key value : String) (software : Fields) : Fields :=
  if value ≠ "" ∧ (Value.field software key).isNone then putField key (.str value) software
  else software

/-- The polling interval of a document. -/
def mergedSeconds (document : Fields) (old : UInt64) : Result UInt64 :=
  match Value.field document "poll_seconds" with
  | some v => lib.bounded v
  | none => .ok old

/-- The own fields of a document, without its nodes and pages. -/
def mergeFields (sourceUrl : String) (document : Fields) (result : PolicyDocument) :
    Result PolicyDocument := do
  let pollSeconds ← mergedSeconds lib document result.pollSeconds
  let repoUrl := textField lib document "anet_repo" (lib.resolve sourceUrl)
    (textField lib document "repo_url" (lib.resolve sourceUrl) result.repoUrl)
  let repoRef := textField lib document "anet_repo_ref" strip
    (textField lib document "repo_ref" strip result.repoRef)
  let config := match Value.fieldOr document "config"
      (Value.fieldOr document "default_config" (.map [])) with
    | .map config => deepMerge result.config config
    | _ => result.config
  let software := match Value.fieldOr document "software" (.map []) with
    | .map software => deepMerge result.software (resolvedSoftware lib sourceUrl software)
    | _ => result.software
  return { result with
    sequence := ((documentSequence document).map fun i => max result.sequence i).getD result.sequence
    network := textField lib document "network" id result.network
    repoUrl := repoUrl
    repoRef := repoRef
    pollSeconds := pollSeconds
    config := config
    software := defaultSoftware "repo_ref" repoRef (defaultSoftware "repo_url" repoUrl software) }

/-- What a child contributes. -/
def mergeChild (result child : PolicyDocument) : PolicyDocument :=
  { result with
    sequence := max result.sequence child.sequence
    config := deepMerge result.config child.config
    software := deepMerge result.software child.software
    nodes := result.nodes ++ child.nodes
    network := if child.network ≠ "" then child.network else result.network
    repoUrl := if child.repoUrl ≠ "" then child.repoUrl else result.repoUrl
    repoRef := if child.repoRef ≠ "" then child.repoRef else result.repoRef
    pollSeconds := lib.minSeconds result.pollSeconds child.pollSeconds
    crossPlatform := result.crossPlatform || child.crossPlatform }

end Documents

section Recursion

/-- The arguments of `_normalise_document` that change from page to page. -/
structure PageCall where
  sourceUrl : String
  expectedKeyId : String
  recordSourcePin : Bool
  trusted : TrustedKeys
  delegatedKeyIds : List String

/-- One recursive call. -/
abbrev ChildCall := Value → PageCall → PageWalk → Result (PolicyDocument × PageWalk)

/-- An entry of `pages` or `kv`: its URL and the publisher it is pinned to. -/
def pageEntry (sourceUrl : String) (trusted : TrustedKeys) : Value → Result (String × String)
  | .str s => .ok (lib.resolve sourceUrl s,"")
  | .map fields => do
    raiseIf (¬ truthy (Value.fieldOr fields "url" .nil))
      (.runtime "control page entries must be URLs")
    raiseIf (∃ e ∈ fields, ¬ (e.1.isStr "url" ∨ e.1.isStr "key_id"))
      (.runtime "nested control source contains unsupported fields")
    let pageUrl := lib.resolve sourceUrl (lib.rt.str (Value.fieldOr fields "url" .nil))
    match Value.field fields "key_id" with
    | none => return (pageUrl,"")
    | some v =>
      let keyId := strip (lib.rt.str v)
      raiseIf (¬ isControlKeyId keyId) (.runtime "nested control source key_id is invalid")
      raiseIf ((TrustedKeys.find trusted keyId).isNone)
        (.runtime "nested control source publisher is not approved by local policy or root delegation")
      return (pageUrl,keyId)
  | _ => .error (.runtime "control page entries must be URLs")

/-- One nested page: only a pinned one may be signed by a delegated publisher. -/
def mergePage (server : PageServer) (child : ChildCall) (sourceUrl : String) (trusted : TrustedKeys)
    (delegatedKeyIds : List String) (page : Value) (x : PolicyDocument × PageWalk) :
    Result (PolicyDocument × PageWalk) := do
  let (pageUrl,keyId) ← pageEntry lib sourceUrl trusted page
  let (value,walk) ← readJsonUrl server pageUrl x.2
  let childTrusted := if keyId = "" then trusted.filter fun k => k.1 ∉ delegatedKeyIds else trusted
  let (doc,walk) ← child value ⟨pageUrl,keyId,true,childTrusted,delegatedKeyIds⟩ walk
  return (mergeChild lib x.1 doc,walk)

/-- A list field of a document. -/
def listField (document : Fields) (name : String) : List Value :=
  match Value.fieldOr document name (.list []) with
  | .list items => items
  | _ => []

def mergeNode (server : PageServer) (sourceUrl : String) (item : Value)
    (x : PolicyDocument × PageWalk) : Result (PolicyDocument × PageWalk) := do
  let (node,walk) ← normaliseNode lib server sourceUrl item x.2
  return ({ x.1 with nodes := x.1.nodes ++ [node] },walk)

/-- `for a in l`, with what it has merged so far. -/
def mergeAll {α : Type} (f : α → PolicyDocument × PageWalk → Result (PolicyDocument × PageWalk)) :
    List α → PolicyDocument × PageWalk → Result (PolicyDocument × PageWalk)
  | [],x => .ok x
  | a :: l,x => do
    let x ← f a x
    mergeAll f l x

/-- The entries of `pages` or of `kv`. -/
def pageList (document : Fields) (name : String) : Result (List Value) :=
  match Value.fieldOr document name (.list []) with
  | .list items => .ok items
  | _ => .error (.runtime s!"control page {name} must be a list")

/-- The turn of one document. -/
def mergeDocument (server : PageServer) (child : ChildCall) (sourceUrl : String)
    (trusted : TrustedKeys) (delegatedKeyIds : List String) (document : Fields)
    (x : PolicyDocument × PageWalk) : Result (PolicyDocument × PageWalk) := do
  let own ← mergeFields lib sourceUrl document x.1
  let x ← mergeAll (mergeNode lib server sourceUrl)
    (listField document "nodes" ++ listField document "peers") (own,x.2)
  let pages ← pageList document "pages"
  let x ← mergeAll (mergePage lib server child sourceUrl trusted delegatedKeyIds) pages x
  let kv ← pageList document "kv"
  mergeAll (mergePage lib server child sourceUrl trusted delegatedKeyIds) kv x

/-- The publishers a page delegates: only a signed root page may. -/
def delegatedPublishers (root : Bool) (trusted : TrustedKeys) (signature : PageSignature) :
    Value → Result TrustedKeys
  | .map fields =>
    match Value.field fields "control_publishers" with
    | none => .ok []
    | some publishers => do
      raiseIf (¬ root) (.runtime "nested control sources cannot delegate publishers")
      raiseIf (¬ signature.signed)
        (.runtime "control publisher delegation requires a signed root page")
      normaliseDelegatedPublishers lib trusted publishers
  | _ => .ok []

/-- The publisher of a page is the expected one. -/
def checkPublisher (expectedKeyId : String) (signature : PageSignature) : Result Unit :=
  if expectedKeyId = "" then .ok ()
  else do
    raiseIf (¬ isControlKeyId expectedKeyId) (.runtime "control source key_id is invalid")
    raiseIf (signature.keyId ≠ expectedKeyId) (.runtime "control source publisher mismatch")

/-- `_normalise_document`, with the number of levels that may still be opened. -/
def normaliseDocument (server : PageServer) (now : ℤ) (pollSeconds : UInt64) : ℕ → ChildCall
  | 0,_,_,_ => .error (.runtime "control page nesting exceeds the prototype limit")
  | levels + 1,value,call,walk => do
    raiseIf (call.sourceUrl ∉ walk.sources ∧ maxPageCount ≤ walk.sources.length)
      (.runtime "control page fan-out exceeds the prototype limit")
    let (value,signature) ← verifyControlPage lib call.trusted now value
    let expected := strip call.expectedKeyId
    checkPublisher expected signature
    let delegated ← delegatedPublishers lib (levels = maxPageDepth) call.trusted signature value
    if call.sourceUrl ∈ walk.sources then return (emptyDocument pollSeconds,walk)
    let documents ← expandPage lib value
    let walk := { walk with
      sources := walk.sources ++ [call.sourceUrl]
      publishers := walk.publishers ++ [(call.sourceUrl,signature.signed,signature.keyId)]
      pins := if expected ≠ "" ∧ call.recordSourcePin then walk.pins ++ [(call.sourceUrl,expected)]
        else walk.pins
      pages := walk.pages ++ [(call.sourceUrl,pageSequence documents)] }
    let result := { emptyDocument pollSeconds with
      controlPublishers := delegated
      signed := signature.signed
      keyId := signature.keyId
      issuedMs := signature.issuedMs
      expiresMs := signature.expiresMs
      crossPlatform := documents.any crossPlatform }
    let (result,walk) ← mergeAll (mergeDocument lib server
      (normaliseDocument server now pollSeconds levels) call.sourceUrl (call.trusted ++ delegated)
        (call.delegatedKeyIds ++ delegated.map Prod.fst)) documents (result,walk)
    return ({ result with
      sources := walk.sources
      sourcePublishers := walk.publishers
      sourcePins := walk.pins },walk)

end Recursion

section Sync

/-- The document as its digest sees it. -/
def policyValue (doc : PolicyDocument) : Value :=
  .map (([(.str "sequence",.int doc.sequence),(.str "network",.str doc.network),
    (.str "repo_url",.str doc.repoUrl),(.str "repo_ref",.str doc.repoRef),
    (.str "poll_seconds",.float doc.pollSeconds),(.str "config",.map doc.config),
    (.str "software",.map doc.software),(.str "nodes",.list doc.nodes),
    (.str "sources",.list (doc.sources.map .str)),
    (.str "control_publishers",.map (doc.controlPublishers.map fun k => (.str k.1,.str k.2))),
    (.str "cross_platform_windows_wsl",.bool doc.crossPlatform),
    (.str "control_signed",.bool doc.signed),(.str "control_key_id",.str doc.keyId),
    (.str "control_issued_ms",.int doc.issuedMs),(.str "control_expires_ms",.int doc.expiresMs)] : List (Value × Value)) ++
  (if doc.sourcePins = [] then [] else [(.str "source_pins",.list (doc.sourcePins.map fun pin =>
    .map [(.str "url",.str pin.1),(.str "key_id",.str pin.2)]))] : List (Value × Value)))

structure ControlSettings where
  url : String
  trusted : TrustedKeys
  rootKeyId : String
  pollSeconds : UInt64

/-- What the state file keeps of the applied document. -/
structure ControlState where
  sequence : ℤ
  digest : String

def ControlState.empty : ControlState := ⟨-1,""⟩

/-- The document of a page tree, and the pages it comes from. -/
def compose (settings : ControlSettings) (server : PageServer) (now : ℤ) :
    Result (PolicyDocument × PageWalk) := do
  let (value,walk) ← readJsonUrl server settings.url ⟨[],[],[],[],[]⟩
  normaliseDocument lib server now settings.pollSeconds (maxPageDepth + 1) value
    ⟨settings.url,settings.rootKeyId,1 < settings.trusted.length,settings.trusted,[]⟩ walk

inductive SyncEnd
  | failed | stale | reused | unchanged
  | applied (document : PolicyDocument) (pages : List (String × ℤ))

/-- `_sync_remote_control_unlocked`; `applies` says whether the configuration, the peers and the
software could be put in place. -/
def syncRemoteControl (settings : ControlSettings) (server : PageServer) (now : ℤ)
    (applies : PolicyDocument → Bool) (state : ControlState) : SyncEnd × ControlState :=
  match compose lib settings server now with
  | .error _ => (.failed,state)
  | .ok (document,walk) =>
    let digest := lib.digest (policyValue document)
    if document.sequence < state.sequence then (.stale,state)
    else if document.signed ∧ document.sequence = state.sequence ∧ state.digest ≠ "" ∧
        digest ≠ state.digest then (.reused,state)
    else if digest = state.digest then (.unchanged,state)
    else if applies document then (.applied document walk.pages,⟨document.sequence,digest⟩)
    else (.failed,state)

end Sync

end RemoteControl
end Anet
