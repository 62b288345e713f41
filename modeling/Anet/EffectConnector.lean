import Anet.AgentGrants
import Anet.MsgPack
import Anet.Transition

/-! The connector over which agents ask an adapter for a reply. It authenticates a token, asks for a
grant, has the adapter reply, and records each request. An agent that is called operator passes
without a scope or a grant, a denial can be ranked below the grant that it takes back, and a request
whose body or whose adapter fails in a way that is not foreseen is neither answered nor recorded. -/
namespace Anet.Amesh

def maxBodyBytes : ℤ := 16 * 1024

/-- A text as JSON gives it; `lone` is one with half of a surrogate pair, which matches no pattern of
the connector and which no encoding takes. -/
inductive JsonText | text (s : String) | lone
  deriving DecidableEq

/-- The JSON of a body, with `str` of each entry. -/
inductive Body | object (entries : List (String × JsonText)) | other
  deriving DecidableEq

/-- What the connector takes from Python: `int` of a header, `json.loads` of the decoded bytes, and
`repr`. -/
structure ConnectorLibrary extends AgentLibrary where
  intOf : String → Result ℤ
  loads : Bytes → Result Body
  repr : String → String

/-- `str(body.get(name, ""))`. -/
def bodyText (entries : List (String × JsonText)) (name : String) : JsonText :=
  (entries.lookup name).getD (.text "")

namespace JsonText

/-- `.strip().lower()`. -/
def normal (lib : AgentLibrary) : JsonText → JsonText
  | .text s => .text (lib.normal s)
  | .lone => .lone

/-- The text as the audit stores it. -/
def stored : JsonText → Option String
  | .text s => some s
  | .lone => none

end JsonText

/-- `_ADAPTER_NAME_RE`. -/
def isAdapterName (s : String) : Bool :=
  matchesWord (fun c => 'a' ≤ c && c ≤ 'z')
    (fun c => ('a' ≤ c && c ≤ 'z') || isDigit c || c = '-') 31 s && 2 ≤ s.toList.length

def adapterActions : List String := ["surface","reply","amplify","connect_candidate"]

/-- A text that passes a check in its normal form. -/
def validated (lib : AgentLibrary) (valid : String → Bool) (message : String) :
    JsonText → Result String
  | .text s =>
    if valid (lib.normal s) then .ok (lib.normal s) else .error (.value message)
  | .lone => .error (.value message)

/-- `validate_adapter_name`. -/
def validateAdapterName (lib : AgentLibrary) : JsonText → Result String :=
  validated lib isAdapterName "invalid Amesh adapter name"

/-- `validate_action`. -/
def validateAction (lib : AgentLibrary) : JsonText → Result String :=
  validated lib (fun s => s ∈ adapterActions) "invalid Amesh adapter action"

/-- `validate_event_key`. -/
def validateEventKey (lib : AgentLibrary) : JsonText → Result String :=
  validated lib (isHex 32) "invalid Amesh event key"

inductive Outcome | authorized | denied | rejected
  deriving DecidableEq

/-- `amesh_audit`. -/
structure AuditRow where
  agentId : String
  adapter : String
  action : String
  eventKey : String
  outcome : Outcome
  code : ℕ
  error : String
  createdMs : ℤ

/-- The headers of a request, and what follows them. -/
structure Request where
  authorization : String
  contentLength : String
  payload : Bytes

inductive Response | error (code : ℕ) (message : String) | result (body : Bytes)

/-- What a reply returns, with the bytes of its JSON. -/
structure Payload where
  encoded : Result Bytes

/-- A reply of an adapter: whether the platform has it afterwards, and what the call came to. -/
structure ReplyRun where
  done : Bool
  result : Result Payload

/-- An adapter, as the connector uses it. -/
structure LoadedAdapter where
  name : String
  reply : String → JsonText → ReplyRun

/-- The adapters of a home, at the time of a request. -/
structure Platform where
  load : String → Result LoadedAdapter

/-- A reply that an adapter was asked for. -/
structure Replied where
  adapter : String
  eventKey : String
  done : Bool

/-- What a request leaves: the registry, the rows of the audit, the responses and the reply. -/
structure Handled where
  store : AgentStore
  audit : List AuditRow
  responses : List Response
  replied : Option Replied

/-- The clock, as the parts of a request read it. -/
structure Clock where
  authenticatedMs : ℤ
  requiredMs : ℤ
  recordedMs : ℤ

variable (lib : ConnectorLibrary)

/-- The scheme and the token of `auth.partition(" ")`, where they are as they have to be. -/
def bearer (authorization : String) : Option String :=
  let scheme := String.ofList (authorization.toList.takeWhile (· ≠ ' '))
  let token := String.ofList ((authorization.toList.dropWhile (· ≠ ' ')).drop 1)
  if lib.lower scheme ≠ "bearer" ∨ token = "" then none else some token

/-- The body of a request. -/
def readBody (req : Request) : Result Body := do
  let length ← lib.intOf req.contentLength
  raiseIf (¬ (0 < length ∧ length ≤ maxBodyBytes)) (.value "request body is too large")
  lib.loads (req.payload.take length.toNat)

/-- `agent_allows`. -/
def agentAllows (adapterName : String) (s : AgentStore) (agentId action : String) : Result Bool :=
  if lib.normal agentId = "operator" then .ok true
  else s.authorize lib.toAgentLibrary agentId adapterName action

/-- The last part of `require_agent`. -/
def requireAllowed (adapterName : String) (s : AgentStore) (normalized action : String) :
    Result Unit := do
  let allowed ← agentAllows lib adapterName s normalized action
  raiseIf (¬ allowed) (.permission
    s!"agent {lib.repr (cut 64 normalized)} has no {action} grant for {adapterName}")

/-- `require_agent`. -/
def requireAgent (adapterName : String) (s : AgentStore) (agentId action token : String) (now : ℤ) :
    Result Unit × AgentStore :=
  let normalized := lib.normal agentId
  if normalized = "operator" then (requireAllowed lib adapterName s normalized action,s)
  else
    match s.authenticate lib.toAgentLibrary token now with
    | .error e => (.error e,s)
    | .ok (record,s) =>
      if record.agentId ≠ normalized then
        (.error (.permission "Amesh agent token does not match the requested agent"),s)
      else (requireAllowed lib adapterName s normalized action,s)

/-- A request that ends in an exception: no row, no response. -/
def uncaught (s : AgentStore) : Handled := ⟨s,[],[],none⟩

/-- The `except` clauses around the effect. -/
def refused (s : AgentStore) (agentId name action key : String) (now : ℤ) : PyError → Handled
  | .permission m => ⟨s,[⟨agentId,name,action,key,.denied,403,cut 256 m,now⟩],[.error 403 m],none⟩
  | .value m => ⟨s,[⟨agentId,name,action,key,.rejected,400,cut 256 m,now⟩],[.error 400 m],none⟩
  | .key m =>
    ⟨s,[⟨agentId,name,action,key,.rejected,400,cut 256 (lib.repr m),now⟩],
      [.error 400 (lib.repr m)],none⟩
  | _ => uncaught s

/-- The adapter is asked to reply. -/
def performReply (adapter : LoadedAdapter) (s : AgentStore) (agentId name action key : String)
    (content : JsonText) (now : ℤ) : Handled :=
  let run := adapter.reply key content
  let replied := some ⟨adapter.name,key,run.done⟩
  match run.result with
  | .error e => { refused lib s agentId name action key now e with replied := replied }
  | .ok payload =>
    let row : AuditRow := ⟨agentId,name,action,key,.authorized,200,"",now⟩
    match payload.encoded with
    | .ok body => ⟨s,[row],[.result body],replied⟩
    | .error e =>
      let handled := refused lib s agentId name action key now e
      { handled with audit := row :: handled.audit, replied := replied }

/-- The part of `_handle_effect` under the `try`. -/
def performEffect (platform : Platform) (clock : Clock) (s : AgentStore)
    (token name action key : String) (content : JsonText) : Handled :=
  match s.authenticate lib.toAgentLibrary token clock.authenticatedMs with
  | .error (.permission m) =>
    ⟨s,[⟨"",name,action,key,.rejected,401,cut 256 m,clock.recordedMs⟩],
      [.error 401 "invalid or disabled agent token"],none⟩
  | .error e => refused lib s "" name action key clock.recordedMs e
  | .ok (record,s) =>
    match platform.load name with
    | .error e => refused lib s record.agentId name action key clock.recordedMs e
    | .ok adapter =>
      match requireAgent lib adapter.name s record.agentId action token clock.requiredMs with
      | (.error e,s) => refused lib s record.agentId name action key clock.recordedMs e
      | (.ok _,s) =>
        performReply lib adapter s record.agentId name action key content clock.recordedMs

/-- The checked fields of a body. -/
def checkFields (adapter action eventKey : JsonText) : Result (String × String × String) := do
  let name ← validateAdapterName lib.toAgentLibrary adapter
  let action ← validateAction lib.toAgentLibrary action
  let key ← validateEventKey lib.toAgentLibrary eventKey
  raiseIf (action ≠ "reply") (.value "unsupported effect action")
  return (name,action,key)

/-- `str(exc)` of what `checkFields` raises. -/
def errorText : PyError → String
  | .value m => m
  | _ => ""

/-- A request whose fields are refused; the audit raises on a text that it cannot store. -/
def rejectFields (s : AgentStore) (adapter action eventKey : JsonText) (message : String)
    (now : ℤ) : Handled :=
  match adapter.stored,action.stored,eventKey.stored with
  | some name,some action,some key =>
    ⟨s,[⟨"",name,action,key,.rejected,400,cut 256 message,now⟩],[.error 400 message],none⟩
  | _,_,_ => uncaught s

/-- `_handle_effect`. -/
def handleEffect (platform : Platform) (clock : Clock) (s : AgentStore) (req : Request) : Handled :=
  match bearer lib req.authorization with
  | none =>
    ⟨s,[⟨"","","","",.rejected,401,"bearer token required",clock.recordedMs⟩],
      [.error 401 "bearer token required"],none⟩
  | some token =>
    match readBody lib req with
    | .error (.value m) =>
      ⟨s,[⟨"","","","",.rejected,400,cut 256 s!"invalid request body: {m}",clock.recordedMs⟩],
        [.error 400 "invalid request body"],none⟩
    | .error _ => uncaught s
    | .ok .other => uncaught s
    | .ok (.object entries) =>
      let adapter := (bodyText entries "adapter").normal lib.toAgentLibrary
      let action := (bodyText entries "action").normal lib.toAgentLibrary
      let eventKey := (bodyText entries "event_key").normal lib.toAgentLibrary
      match checkFields lib adapter action eventKey with
      | .error e => rejectFields s adapter action eventKey (errorText e) clock.recordedMs
      | .ok (name,action,key) =>
        performEffect lib platform clock s token name action key (bodyText entries "content")

/-- A request that was handled, with the registry before it. -/
structure Exchange where
  store : AgentStore
  request : Request
  handled : Handled

structure World where
  store : AgentStore
  audit : List AuditRow
  log : List Exchange

inductive Call
  | register (agentId name : String) (scopes : List String) (token : String) (now : ℤ)
  | grant (agentId adapter action effect reason grantId : String) (now : ℤ)
  | revoke (agentId : String)
  | post (platform : Platform) (clock : Clock) (request : Request)

namespace World

def initial : World := ⟨.empty,[],[]⟩

/-- A call of the registry that raises leaves it as it was. -/
def withStore (w : World) (r : Result AgentStore) : World :=
  { w with store := r.toOption.getD w.store }

def exec (w : World) : Call → World
  | .register agentId name scopes token now =>
    w.withStore (w.store.register lib.toAgentLibrary agentId name scopes token now)
  | .grant agentId adapter action effect reason grantId now =>
    w.withStore (w.store.grant lib.toAgentLibrary agentId adapter action effect reason grantId now)
  | .revoke agentId => w.withStore (w.store.revoke lib.toAgentLibrary agentId)
  | .post platform clock request =>
    let handled := handleEffect lib platform clock w.store request
    ⟨handled.store,w.audit ++ handled.audit,w.log ++ [⟨w.store,request,handled⟩]⟩

end World

/-- One call of the registry or one request. -/
def ConnectorStep (w w' : World) : Prop := ∃ c, w' = w.exec lib c

namespace Exchange

variable {lib}

/-- The request has one response and one row, whose outcome says whether the reply is with the
platform. -/
def Answered (x : Exchange) : Prop :=
  (∃ r, x.handled.responses = [r]) ∧ ∃ row, x.handled.audit = [row] ∧
    (row.outcome = .authorized ↔ ∃ r, x.handled.replied = some r ∧ r.done)

variable (lib)

/-- An adapter was asked to reply only for the token of an agent that may. -/
def Entitled (x : Exchange) : Prop := ∀ r, x.handled.replied = some r →
  ∃ token agent, bearer lib x.request.authorization = some token ∧
    x.store.agents.get agent.agentId = some agent ∧ agent.tokenHash = lib.sha256 token ∧
    x.store.Permits lib.toAgentLibrary agent.agentId r.adapter "reply"

end Exchange

/-- The exceptions that the connector catches around the effect. -/
def Foreseen : PyError → Prop
  | .permission _ | .value _ | .key _ => True
  | _ => False

/-- The reply returns JSON and is with the platform, or raises what the connector catches and is not. -/
def ReplyRun.Regular (run : ReplyRun) : Prop :=
  match run.result with
  | .ok payload => run.done = true ∧ ∃ body, payload.encoded = .ok body
  | .error e => Foreseen e ∧ run.done = false

/-- A body that is read at all is an object whose fields can be stored. -/
def Request.Readable (req : Request) : Prop :=
  bearer lib req.authorization ≠ none → match readBody lib req with
    | .ok (.object entries) =>
      ∀ name ∈ ["adapter","action","event_key"], bodyText entries name ≠ .lone
    | .ok .other => False
    | .error e => ∃ m, e = .value m

/-- The adapter that an authenticated request names loads or fails as the connector foresees, and so
does its reply. -/
def Request.Served (req : Request) (platform : Platform) (s : AgentStore) : Prop :=
  ∀ token row entries name action key, bearer lib req.authorization = some token →
    s.holder lib.toAgentLibrary token = some row → readBody lib req = .ok (.object entries) →
    checkFields lib ((bodyText entries "adapter").normal lib.toAgentLibrary)
      ((bodyText entries "action").normal lib.toAgentLibrary)
      ((bodyText entries "event_key").normal lib.toAgentLibrary) = .ok (name,action,key) →
    match platform.load name with
    | .ok adapter => (adapter.reply key (bodyText entries "content")).Regular
    | .error e => Foreseen e

/-- No agent is called operator; a denial is appended above the grant that it takes back, by its time
and its id; and a request has a body and an adapter that the connector can deal with. -/
def Call.Sound (w : World) : Call → Prop
  | .register agentId _ _ _ _ => lib.normal agentId ≠ "operator"
  | .grant agentId adapter action effect _ grantId now => lib.normal effect = "deny" →
    ∀ top, topGrant (w.store.grantsFor (lib.normal agentId) (lib.normal adapter)
        (lib.normal action)) = some top → top.effect = .allow →
      top.createdMs < now ∨ (top.createdMs = now ∧ top.grantId < grantId)
  | .revoke _ => True
  | .post platform _ request => request.Readable lib ∧ request.Served lib platform w.store

/-- The steps of a run whose calls are sound. -/
def SoundStep (w w' : World) : Prop := ∃ c, Call.Sound lib w c ∧ w' = w.exec lib c

/-- The registry of a sound run. -/
structure Registry (s : AgentStore) : Prop where
  normal : s.Normal lib.toAgentLibrary
  order : s.InOrder
  named : ∀ r ∈ s.agents.rows, r.agentId ≠ "operator"

section Facts

variable {lib} {s : AgentStore} {w : World}

theorem agentIdOf_normal {value id : String} (h : agentIdOf lib.toAgentLibrary value = .ok id) :
    id = lib.normal value := by
  simp only [agentIdOf,bind_ok] at h
  obtain ⟨_,-,hid⟩ := h
  exact (Except.ok.inj hid).symm

theorem Registry.seen (h : Registry lib s) (agentId : String) (now : ℤ) :
    Registry lib (s.seen agentId now) := by
  refine ⟨AgentStore.Normal.update (f := fun r => { r with lastSeenMs := now }) h.normal _
    fun _ => rfl,h.order,fun r hr => ?_⟩
  obtain ⟨r',hr',rfl⟩ := List.mem_map.mp hr
  have hnamed := h.named r' hr'
  split <;> exact hnamed

/-- The time an agent was last seen has no part in what it may do. -/
theorem permits_seen {agentId adapter action id : String} {now : ℤ}
    (h : (s.seen id now).Permits lib.toAgentLibrary agentId adapter action) :
    s.Permits lib.toAgentLibrary agentId adapter action := by
  obtain ⟨⟨r,hget,henabled,hscope⟩,hgrant⟩ := h
  refine ⟨?_,hgrant⟩
  rw [AgentStore.seen,Table.get_update_key] at hget
  split at hget
  · rename_i hid
    obtain ⟨r',hget',rfl⟩ := Option.map_eq_some_iff.mp hget
    rw [← hid] at hget'
    exact ⟨r',hget',henabled,hscope⟩
  · exact ⟨r,hget,henabled,hscope⟩

/-- `authorize` raises nothing for an id in its normal form. -/
theorem authorize_total {agentId : String} (h : agentIdOf lib.toAgentLibrary agentId = .ok agentId)
    (adapter action : String) : ∃ b, s.authorize lib.toAgentLibrary agentId adapter action = .ok b := by
  simp only [AgentStore.authorize,h,AgentStore.get_ok h,bind,Except.bind]
  cases hget : s.agents.get agentId with
  | none => exact ⟨_,rfl⟩
  | some r =>
    simp only
    split <;> exact ⟨_,rfl⟩

theorem requireAllowed_cases (h : Registry lib s) {agentId : String}
    (hid : agentIdOf lib.toAgentLibrary agentId = .ok agentId) (hname : agentId ≠ "operator")
    (adapterName action : String) :
    (requireAllowed lib adapterName s agentId action = .ok () ∧
        s.Permits lib.toAgentLibrary agentId adapterName action) ∨
      ∃ m, requireAllowed lib adapterName s agentId action = .error (.permission m) := by
  have hnormal := agentIdOf_normal hid
  have hallows : agentAllows lib adapterName s agentId action =
      s.authorize lib.toAgentLibrary agentId adapterName action :=
    if_neg fun heq => hname (hnormal.trans heq)
  obtain ⟨b,hb⟩ := authorize_total (s := s) hid adapterName action
  rw [requireAllowed,hallows,hb]
  cases b with
  | true => exact Or.inl ⟨rfl,AgentStore.authorize_permits h.order hid hb⟩
  | false => exact Or.inr ⟨_,rfl⟩

/-- An agent of the registry is let through only where it may, and refused with a permission error
otherwise. -/
theorem requireAgent_cases (h : Registry lib s) {agentId : String}
    (hid : agentIdOf lib.toAgentLibrary agentId = .ok agentId) (hname : agentId ≠ "operator")
    (adapterName action token : String) (now : ℤ) :
    Registry lib (requireAgent lib adapterName s agentId action token now).2 ∧
      (((requireAgent lib adapterName s agentId action token now).1 = .ok () ∧
          s.Permits lib.toAgentLibrary agentId adapterName action) ∨
        ∃ m, (requireAgent lib adapterName s agentId action token now).1 = .error (.permission m)) := by
  have hnormal : lib.normal agentId = agentId := (agentIdOf_normal hid).symm
  unfold requireAgent
  rw [hnormal,if_neg hname]
  rcases AgentStore.authenticate_cases h.normal token now with ⟨-,hauth⟩ | ⟨row,-,hauth⟩
  · rw [hauth]
    exact ⟨h,Or.inr ⟨_,rfl⟩⟩
  · rw [hauth]
    have hseen := h.seen row.agentId now
    by_cases hsame : row.agentId ≠ agentId
    · simp only [if_pos hsame]
      exact ⟨hseen,Or.inr ⟨_,rfl⟩⟩
    · simp only [if_neg hsame]
      refine ⟨hseen,?_⟩
      rcases requireAllowed_cases hseen hid hname adapterName action with ⟨hok,hpermits⟩ | herror
      · exact Or.inl ⟨hok,permits_seen hpermits⟩
      · exact Or.inr herror

/-- What a request leaves that an exception of the connector ends: one row that is not of an effect,
one response. -/
def Handled.Closed (handled : Handled) : Prop :=
  (∃ r, handled.responses = [r]) ∧ ∃ row, handled.audit = [row] ∧ row.outcome ≠ .authorized

theorem refused_closed (lib : ConnectorLibrary) {e : PyError} (he : Foreseen e) (s : AgentStore)
    (agentId name action key : String) (now : ℤ) :
    (refused lib s agentId name action key now e).Closed := by
  cases e with
  | permission m => exact ⟨⟨_,rfl⟩,_,rfl,nofun⟩
  | value m => exact ⟨⟨_,rfl⟩,_,rfl,nofun⟩
  | key m => exact ⟨⟨_,rfl⟩,_,rfl,nofun⟩
  | _ => cases he

theorem refused_store (lib : ConnectorLibrary) (e : PyError) (s : AgentStore) (agentId name action key : String) (now : ℤ) :
    (refused lib s agentId name action key now e).store = s ∧
      (refused lib s agentId name action key now e).replied = none := by
  cases e <;> exact ⟨rfl,rfl⟩

/-- What is asked of a request that was handled: one response, one row, and a reply only where it is
permitted in the registry before. -/
structure Handled.Proper (lib : ConnectorLibrary) (s : AgentStore) (token : Option String)
    (handled : Handled) : Prop where
  store : Registry lib handled.store
  response : ∃ r, handled.responses = [r]
  row : ∃ row, handled.audit = [row] ∧
    (row.outcome = .authorized ↔ ∃ r, handled.replied = some r ∧ r.done)
  replied : ∀ r, handled.replied = some r → ∃ t agent, token = some t ∧
    s.agents.get agent.agentId = some agent ∧ agent.tokenHash = lib.sha256 t ∧
    s.Permits lib.toAgentLibrary agent.agentId r.adapter "reply"

/-- A request that is closed without a reply. -/
theorem Handled.Closed.proper {handled : Handled} {token : Option String} (h : handled.Closed)
    (hstore : Registry lib handled.store) (hreplied : handled.replied = none) :
    handled.Proper lib s token := by
  obtain ⟨hresponse,row,hrow,houtcome⟩ := h
  refine ⟨hstore,hresponse,⟨row,hrow,?_⟩,fun r hr => ?_⟩
  · rw [hreplied]
    exact ⟨fun hauth => absurd hauth houtcome,fun ⟨_,hnone,_⟩ => by cases hnone⟩
  · rw [hreplied] at hr
    cases hr

theorem refused_proper {e : PyError} (he : Foreseen e) {s s' : AgentStore} (h : Registry lib s')
    (token : Option String) (agentId name action key : String) (now : ℤ) :
    (refused lib s' agentId name action key now e).Proper lib s token := by
  obtain ⟨hstore,hreplied⟩ := refused_store lib e s' agentId name action key now
  exact (refused_closed lib he s' agentId name action key now).proper (by rw [hstore]; exact h) hreplied

/-- The reply of an adapter whose run is regular. -/
theorem performReply_proper {s s' : AgentStore} (h : Registry lib s') {adapter : LoadedAdapter}
    {token : String} {agent : AgentRow} {name action key : String} {content : JsonText} {now : ℤ}
    (hget : s.agents.get agent.agentId = some agent) (htoken : agent.tokenHash = lib.sha256 token)
    (hpermits : s.Permits lib.toAgentLibrary agent.agentId adapter.name "reply")
    (hregular : (adapter.reply key content).Regular) :
    (performReply lib adapter s' agent.agentId name action key content now).Proper lib s
      (some token) := by
  have hreplied : ∀ r, some (⟨adapter.name,key,(adapter.reply key content).done⟩ : Replied) =
      some r → ∃ t agent, some token = some t ∧ s.agents.get agent.agentId = some agent ∧
        agent.tokenHash = lib.sha256 t ∧
        s.Permits lib.toAgentLibrary agent.agentId r.adapter "reply" := by
    intro r hr
    obtain rfl := Option.some.inj hr
    exact ⟨token,agent,rfl,hget,htoken,hpermits⟩
  unfold ReplyRun.Regular at hregular
  unfold performReply
  cases hresult : (adapter.reply key content).result with
  | error e =>
    rw [hresult] at hregular
    obtain ⟨hresponse,row,hrow,houtcome⟩ := refused_closed lib hregular.1 s'
      agent.agentId name action key now
    have hstore := (refused_store lib e s' agent.agentId name action key now).1
    simp only [hresult]
    refine ⟨?_,hresponse,⟨row,hrow,?_⟩,hreplied⟩
    · rw [hstore]
      exact h
    constructor
    · exact fun hauth => absurd hauth houtcome
    · rintro ⟨r,hr,hdone⟩
      obtain rfl := Option.some.inj hr
      rw [hregular.2] at hdone
      cases hdone
  | ok payload =>
    rw [hresult] at hregular
    obtain ⟨hdone,body,hbody⟩ := hregular
    simp only [hresult,hbody]
    exact ⟨h,⟨_,rfl⟩,⟨_,rfl,fun _ => ⟨_,rfl,hdone⟩,fun _ => rfl⟩,hreplied⟩

theorem performEffect_proper (h : Registry lib s) {platform : Platform} {token name key : String}
    {content : JsonText} (clock : Clock)
    (hserved : ∀ row, s.holder lib.toAgentLibrary token = some row →
      match platform.load name with
      | .ok adapter => (adapter.reply key content).Regular
      | .error e => Foreseen e) :
    (performEffect lib platform clock s token name "reply" key content).Proper lib s
      (some token) := by
  unfold performEffect
  rcases AgentStore.authenticate_cases h.normal token clock.authenticatedMs with
    ⟨-,hauth⟩ | ⟨row,hrow,hauth⟩
  · rw [hauth]
    have hclosed : Handled.Closed ⟨s,[⟨"",name,"reply",key,.rejected,401,
        cut 256 "invalid or disabled Amesh agent token",clock.recordedMs⟩],
        [.error 401 "invalid or disabled agent token"],none⟩ := ⟨⟨_,rfl⟩,_,rfl,nofun⟩
    exact hclosed.proper h rfl
  · rw [hauth]
    have hserved := hserved row hrow
    obtain ⟨hget,htoken,-⟩ := Table.first_some hrow
    have hmem := (Table.get_eq_some.mp hget).1
    have hseen := h.seen row.agentId clock.authenticatedMs
    cases hload : platform.load name with
    | error e =>
      rw [hload] at hserved
      exact refused_proper hserved hseen _ _ _ _ _ _
    | ok adapter =>
      rw [hload] at hserved
      simp only
      obtain ⟨hstore,hcases⟩ := requireAgent_cases hseen (h.normal row hmem) (h.named row hmem)
        adapter.name "reply" token clock.requiredMs
      cases hrequire : requireAgent lib adapter.name (s.seen row.agentId clock.authenticatedMs)
          row.agentId "reply" token clock.requiredMs with
      | mk result s' =>
        rw [hrequire] at hstore hcases
        rcases hcases with ⟨hok,hpermits⟩ | ⟨m,herror⟩
        · obtain rfl : result = .ok () := hok
          exact performReply_proper hstore hget htoken (permits_seen hpermits) hserved
        · obtain rfl : result = .error (.permission m) := herror
          exact refused_proper (e := .permission m) trivial hstore _ _ _ _ _ _

theorem checkFields_reply {adapter action eventKey : JsonText} {name action' key : String}
    (h : checkFields lib adapter action eventKey = .ok (name,action',key)) : action' = "reply" := by
  simp only [checkFields,bind_ok,raiseIf_ok] at h
  obtain ⟨name',-,action'',-,key',-,_,hreply,hfields⟩ := h
  obtain ⟨-,hfields⟩ := Prod.mk.inj (Except.ok.inj hfields)
  rw [← (Prod.mk.inj hfields).1]
  exact not_not.mp hreply

theorem normal_stored (lib : ConnectorLibrary) {t : JsonText} (h : t ≠ .lone) :
    ∃ s, (t.normal lib.toAgentLibrary).stored = some s := by
  cases t with
  | text s => exact ⟨_,rfl⟩
  | lone => exact absurd rfl h

/-- A sound request is handled as it has to be. -/
theorem handleEffect_proper (h : Registry lib s) {platform : Platform} {req : Request}
    (clock : Clock) (hreadable : req.Readable lib) (hserved : req.Served lib platform s) :
    (handleEffect lib platform clock s req).Proper lib s (bearer lib req.authorization) := by
  unfold handleEffect
  cases hbearer : bearer lib req.authorization with
  | none =>
    have hclosed : Handled.Closed ⟨s,[⟨"","","","",.rejected,401,"bearer token required",
        clock.recordedMs⟩],[.error 401 "bearer token required"],none⟩ := ⟨⟨_,rfl⟩,_,rfl,nofun⟩
    exact hclosed.proper h rfl
  | some token =>
    have hread := hreadable (by simp [hbearer])
    cases hbody : readBody lib req with
    | error e =>
      rw [hbody] at hread
      obtain ⟨m,rfl⟩ := hread
      have hclosed : Handled.Closed ⟨s,[⟨"","","","",.rejected,400,
          cut 256 s!"invalid request body: {m}",clock.recordedMs⟩],
          [.error 400 "invalid request body"],none⟩ := ⟨⟨_,rfl⟩,_,rfl,nofun⟩
      exact hclosed.proper h rfl
    | ok body =>
      rw [hbody] at hread
      cases body with
      | other => cases hread
      | object entries =>
        simp only
        cases hfields : checkFields lib ((bodyText entries "adapter").normal lib.toAgentLibrary)
            ((bodyText entries "action").normal lib.toAgentLibrary)
            ((bodyText entries "event_key").normal lib.toAgentLibrary) with
        | error e =>
          obtain ⟨name,hname⟩ := normal_stored lib (hread "adapter" (by simp))
          obtain ⟨action,haction⟩ := normal_stored lib (hread "action" (by simp))
          obtain ⟨key,hkey⟩ := normal_stored lib (hread "event_key" (by simp))
          simp only [rejectFields,hname,haction,hkey]
          have hclosed : Handled.Closed ⟨s,[⟨"",name,action,key,.rejected,400,
              cut 256 (errorText e),clock.recordedMs⟩],[.error 400 (errorText e)],none⟩ :=
            ⟨⟨_,rfl⟩,_,rfl,nofun⟩
          exact hclosed.proper h rfl
        | ok fields =>
          obtain ⟨name,action,key⟩ := fields
          obtain rfl := checkFields_reply hfields
          exact performEffect_proper h clock fun row hrow =>
            hserved token row entries name "reply" key hbearer hrow hbody hfields

theorem Registry.withStore (h : Registry lib w.store) {r : Result AgentStore}
    (hr : ∀ s, r = .ok s → Registry lib s) : Registry lib (w.withStore r).store := by
  cases r with
  | error e => exact h
  | ok s => exact hr s rfl

theorem Registry.register (h : Registry lib s) {agentId name token : String} {scopes : List String}
    {now : ℤ} (hname : lib.normal agentId ≠ "operator") {s' : AgentStore}
    (hreg : s.register lib.toAgentLibrary agentId name scopes token now = .ok s') :
    Registry lib s' := by
  obtain ⟨hnormal,hgrants⟩ := AgentStore.register_normal h.normal hreg
  refine ⟨hnormal,?_,fun r hr => ?_⟩
  · unfold AgentStore.InOrder AgentStore.grantsFor
    rw [hgrants]
    exact h.order
  · simp only [AgentStore.register,bind_ok,fetched_ok] at hreg
    obtain ⟨id,hid,_,-,_,-,agents,hins,hs'⟩ := hreg
    obtain rfl := Except.ok.inj hs'
    rw [(Table.insert_eq_some hins).2.2] at hr
    rcases List.mem_append.mp hr with hr | hr
    · exact h.named r hr
    · obtain rfl := List.mem_singleton.mp hr
      rw [← agentIdOf_normal hid] at hname
      exact hname

theorem Registry.revoke (h : Registry lib s) {agentId : String} {s' : AgentStore}
    (hrev : s.revoke lib.toAgentLibrary agentId = .ok s') : Registry lib s' := by
  simp only [AgentStore.revoke,bind_ok] at hrev
  obtain ⟨id,-,hs'⟩ := hrev
  obtain rfl := Except.ok.inj hs'
  refine ⟨AgentStore.Normal.update (f := fun r => { r with enabled := false }) h.normal _
    fun _ => rfl,h.order,fun r hr => ?_⟩
  obtain ⟨r',hr',rfl⟩ := List.mem_map.mp hr
  have hnamed := h.named r' hr'
  split <;> exact hnamed

theorem grantEffect_deny {text : String} (h : grantEffect text = some .deny) : text = "deny" := by
  unfold grantEffect at h
  split at h <;> simp_all

theorem Registry.grant (h : Registry lib s) {agentId adapter action effect reason grantId : String}
    {now : ℤ} {log : List Exchange} {audit : List AuditRow}
    (hsound : Call.Sound lib ⟨s,audit,log⟩
      (.grant agentId adapter action effect reason grantId now)) {s' : AgentStore}
    (hgrant : s.grant lib.toAgentLibrary agentId adapter action effect reason grantId now = .ok s') :
    Registry lib s' := by
  simp only [AgentStore.grant,bind_ok,fetched_ok] at hgrant
  obtain ⟨id,hid,_,-,_,-,_,-,kind,hkind,grants,hins,hs'⟩ := hgrant
  obtain rfl := Except.ok.inj hs'
  refine ⟨h.normal,AgentStore.inOrder_append h.order hins fun hdeny top htop hallow => ?_,h.named⟩
  change kind = .deny at hdeny
  rw [agentIdOf_normal hid] at htop
  exact hsound (grantEffect_deny (hdeny ▸ hkind)) top htop hallow

end Facts

/-- What holds of every state of a sound run. -/
structure Kept (lib : ConnectorLibrary) (w : World) : Prop where
  registry : Registry lib w.store
  audited : w.audit = w.log.flatMap fun x => x.handled.audit
  answered : ∀ x ∈ w.log, x.Answered
  entitled : ∀ x ∈ w.log, x.Entitled lib

theorem kept_step (w w' : World) (h : Kept lib w) (hstep : SoundStep lib w w') : Kept lib w' := by
  obtain ⟨c,hsound,rfl⟩ := hstep
  cases c with
  | register agentId name scopes token now =>
    exact ⟨h.registry.withStore fun s hs => h.registry.register hsound hs,h.audited,h.answered,
      h.entitled⟩
  | grant agentId adapter action effect reason grantId now =>
    exact ⟨h.registry.withStore fun s hs => h.registry.grant hsound hs,h.audited,h.answered,
      h.entitled⟩
  | revoke agentId =>
    exact ⟨h.registry.withStore fun s hs => h.registry.revoke hs,h.audited,h.answered,h.entitled⟩
  | post platform clock req =>
    have hproper := handleEffect_proper h.registry clock hsound.1 hsound.2
    refine ⟨hproper.store,?_,fun x hx => ?_,fun x hx => ?_⟩
    · change w.audit ++ _ = (w.log ++ _).flatMap _
      rw [h.audited,List.flatMap_append]
      simp
    · rcases List.mem_append.mp hx with hx | hx
      · exact h.answered x hx
      · obtain rfl := List.mem_singleton.mp hx
        exact ⟨hproper.response,hproper.row⟩
    · rcases List.mem_append.mp hx with hx | hx
      · exact h.entitled x hx
      · obtain rfl := List.mem_singleton.mp hx
        exact hproper.replied

/-- In a run whose calls are sound, every request has one response and one row of the audit whose
outcome says whether its reply is with the platform, and a reply is only made for the token of an
enabled agent that has the scope and whose last grant for the adapter allows it. -/
theorem effects_authorized_and_audited (w : World) (h : Reaches (SoundStep lib) .initial w) :
    w.audit = (w.log.flatMap fun x => x.handled.audit) ∧
      ∀ x ∈ w.log, x.Answered ∧ x.Entitled lib := by
  have hstart : Kept lib .initial := ⟨⟨nofun,nofun,nofun⟩,rfl,nofun,nofun⟩
  have hkept := Reaches.invariant (kept_step lib) hstart h
  exact ⟨hkept.audited,fun x hx => ⟨hkept.answered x hx,hkept.entitled x hx⟩⟩

section Sample

def plainInt (s : String) : Result ℤ :=
  if s = "" ∨ ¬ s.toList.all isDigit then .error (.value "invalid literal for int()")
  else .ok (Int.ofNat (s.toList.foldl (fun n c => 10 * n + (c.toNat - 48)) 0))

def effectBody : Bytes := utf8
  "\x7b\"adapter\":\"loopback\",\"action\":\"reply\",\"event_key\":\"00000000000000000000000000000000\"\x7d"

/-- A reader of the two bodies of the sample, which it tells by their first bytes. -/
def plainLoads (raw : Bytes) : Result Body :=
  match raw.head? with
  | some 123 =>
    .ok (.object [("adapter",.text "loopback"),("action",.text "reply"),
      ("event_key",.text "00000000000000000000000000000000")])
  | some 91 => .ok .other
  | _ => .error (.value "Expecting value: line 1 column 1 (char 0)")

def plainConnector : ConnectorLibrary where
  lower := lower
  isAlnum c := isAlpha c || isDigit c
  sha256 token := checksum 32 (utf8 token)
  normal_again := lower_again
  intOf := plainInt
  loads := plainLoads
  repr s := "\x27" ++ s ++ "\x27"

/-- A home with the loopback adapter, whose replies succeed. -/
def samplePlatform : Platform where
  load name :=
    if name = "loopback" then .ok ⟨"loopback",fun _ _ => ⟨true,.ok ⟨.ok []⟩⟩⟩
    else .error (.key "unknown Amesh adapter")

def sampleRequest (payload : Bytes) (length : String) : Request := ⟨"Bearer secret",length,payload⟩

def effectRequest : Request := sampleRequest effectBody "86"

def runAll (calls : List Call) : World := calls.foldl (World.exec plainConnector) .initial

theorem runAll_runs (calls : List Call) :
    Reaches (ConnectorStep plainConnector) .initial (runAll calls) :=
  Reaches.of_steps (fun _ c => ⟨c,rfl⟩) calls _

/-- The request of the sample, made after some calls. -/
def sampleExchange (calls : List Call) (req : Request) : Exchange :=
  ⟨(runAll calls).store,req,
    handleEffect plainConnector samplePlatform ⟨3000,3000,3000⟩ (runAll calls).store req⟩

theorem sampleExchange_logged (calls : List Call) (req : Request) :
    sampleExchange calls req ∈
      (runAll (calls ++ [.post samplePlatform ⟨3000,3000,3000⟩ req])).log := by
  unfold runAll
  rw [List.foldl_append]
  exact List.mem_append_right _ (by simp [sampleExchange,runAll])

theorem sampleExchange_store (calls : List Call) (req : Request) :
    (runAll (calls ++ [.post samplePlatform ⟨3000,3000,3000⟩ req])).store =
      (sampleExchange calls req).handled.store := by
  simp only [runAll,List.foldl_append,List.foldl_cons,List.foldl_nil,World.exec,sampleExchange]

/-- An agent with the scope and the grant. -/
def grantedCalls : List Call :=
  [.register "researcher" "Research Agent" ["reply"] "secret" 1000,
    .grant "researcher" "loopback" "reply" "allow" "" "a1" 2000]

theorem samplePlatform_served (req : Request) (s : AgentStore) :
    req.Served plainConnector samplePlatform s := by
  intro token row entries name action key _ _ _ _
  unfold samplePlatform
  by_cases hname : name = "loopback"
  · simp only [if_pos hname]
    exact ⟨rfl,_,rfl⟩
  · simp only [if_neg hname]
    trivial

theorem effectRequest_readable : effectRequest.Readable plainConnector := by
  have hbody : (readBody plainConnector effectRequest).toOption = some (.object
      [("adapter",.text "loopback"),("action",.text "reply"),
        ("event_key",.text "00000000000000000000000000000000")]) := by decide +kernel
  intro _
  rw [toOption_eq_some.mp hbody]
  decide +kernel

theorem effects_authorized_and_audited_sample :
    ∃ x ∈ (runAll (grantedCalls ++ [.post samplePlatform ⟨3000,3000,3000⟩ effectRequest])).log,
      (∃ r, x.handled.replied = some r) ∧ x.Answered ∧ x.Entitled plainConnector := by
  have hrun : Reaches (SoundStep plainConnector) .initial
      (runAll (grantedCalls ++ [.post samplePlatform ⟨3000,3000,3000⟩ effectRequest])) := by
    have hstep : ∀ w c, Call.Sound plainConnector w c →
        SoundStep plainConnector w (w.exec plainConnector c) := fun w c hc => ⟨c,hc,rfl⟩
    refine Reaches.of_calls hstep _ _
      ⟨?_,?_,⟨effectRequest_readable,samplePlatform_served _ _⟩,trivial⟩
    · change plainConnector.normal "researcher" ≠ "operator"
      decide +kernel
    · intro hdeny
      have hallow : plainConnector.normal "allow" ≠ "deny" := by decide
      exact absurd hdeny hallow
  have hlogged := sampleExchange_logged grantedCalls effectRequest
  refine ⟨_,hlogged,?_,(effects_authorized_and_audited plainConnector _ hrun).2 _ hlogged⟩
  have hreplied : (sampleExchange grantedCalls effectRequest).handled.replied.isSome := by
    decide +kernel
  exact Option.isSome_iff_exists.mp hreplied

/-- An agent that is called operator, without a scope. -/
def operatorCalls : List Call := [.register "operator" "Someone" [] "secret" 1000]

/-- A denial in the same millisecond as the grant that it takes back. -/
def deniedCalls : List Call :=
  [.register "researcher" "Research Agent" ["reply"] "secret" 1000,
    .grant "researcher" "loopback" "reply" "allow" "" "b2" 2000,
    .grant "researcher" "loopback" "reply" "deny" "" "a1" 2000]

/-- The reply of the operator, whose registry has no scope and no grant. -/
theorem operator_replied :
    (sampleExchange operatorCalls effectRequest).handled.replied.isSome ∧
      (∀ row ∈ (sampleExchange operatorCalls effectRequest).store.agents.rows,
        "reply" ∉ row.scopes) ∧
      (sampleExchange operatorCalls effectRequest).handled.store.grants.rows = [] := by
  decide +kernel

theorem operator_not_entitled :
    ¬ (sampleExchange operatorCalls effectRequest).Entitled plainConnector := by
  intro h
  obtain ⟨hreplied,hnone,-⟩ := operator_replied
  obtain ⟨r,hr⟩ := Option.isSome_iff_exists.mp hreplied
  obtain ⟨token,agent,-,hget,-,⟨row,hrow,-,hscope⟩,-⟩ := h r hr
  exact hnone row (Table.get_eq_some.mp hrow).1 hscope

/-- The reply of the agent whose last grant is a denial. -/
theorem denied_replied :
    (sampleExchange deniedCalls effectRequest).handled.replied.map Replied.adapter =
        some "loopback" ∧
      (∀ row ∈ (sampleExchange deniedCalls effectRequest).store.agents.rows,
        row.agentId = "researcher") ∧
      ((sampleExchange deniedCalls effectRequest).store.grantsFor "researcher"
        (plainConnector.lower "loopback") (plainConnector.lower "reply")).getLast?.map
          GrantRow.effect = some .deny ∧
      ∀ row ∈ (sampleExchange deniedCalls effectRequest).handled.store.agents.rows,
        row.agentId ≠ "operator" := by
  decide +kernel

theorem denied_not_entitled :
    ¬ (sampleExchange deniedCalls effectRequest).Entitled plainConnector := by
  intro h
  obtain ⟨hreplied,hname,hlast,-⟩ := denied_replied
  obtain ⟨r,hr,hadapter⟩ := Option.map_eq_some_iff.mp hreplied
  obtain ⟨token,agent,-,hget,-,-,g,hg,hallow⟩ := h r hr
  rw [hname agent (Table.get_eq_some.mp hget).1,hadapter] at hg
  rw [hg] at hlast
  rw [Option.map_some,hallow] at hlast
  cases hlast

/-- A body that is JSON but no object is neither answered nor recorded. -/
theorem list_not_answered :
    ¬ (sampleExchange [] (sampleRequest (utf8 "[]") "2")).Answered := by
  rintro ⟨⟨r,hr⟩,-⟩
  have hnone : (sampleExchange [] (sampleRequest (utf8 "[]") "2")).handled.responses.length = 0 := by
    decide
  rw [hr] at hnone
  cases hnone

/-- Three runs that the claim rules out: a reply for an agent without the scope, a reply after the
grant was taken back, and a request that leaves nothing. -/
theorem effect_unauthorized :
    (∃ w x, Reaches (ConnectorStep plainConnector) .initial w ∧ x ∈ w.log ∧
      ¬ x.Entitled plainConnector ∧ w.store.grants.rows = []) ∧
    (∃ w x, Reaches (ConnectorStep plainConnector) .initial w ∧ x ∈ w.log ∧
      ¬ x.Entitled plainConnector ∧ ∀ r ∈ w.store.agents.rows, r.agentId ≠ "operator") ∧
    ∃ w x, Reaches (ConnectorStep plainConnector) .initial w ∧ x ∈ w.log ∧ ¬ x.Answered :=
  ⟨⟨_,_,runAll_runs _,sampleExchange_logged operatorCalls effectRequest,operator_not_entitled,
      (sampleExchange_store operatorCalls effectRequest).symm ▸ operator_replied.2.2⟩,
    ⟨_,_,runAll_runs _,sampleExchange_logged deniedCalls effectRequest,denied_not_entitled,
      (sampleExchange_store deniedCalls effectRequest).symm ▸ denied_replied.2.2.2⟩,
    ⟨_,_,runAll_runs _,sampleExchange_logged [] (sampleRequest (utf8 "[]") "2"),list_not_answered⟩⟩

end Sample

end Anet.Amesh
