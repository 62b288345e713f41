import Anet.Table
import Anet.Python

/-! The registry of agents: tokens, scopes, and the grants of an agent for an adapter and an action.
The grant that decides is the one ranked first by its time and its id. Where every denial is appended
above what it denies, a grant that allows is followed by no denial. -/
namespace Anet.Amesh

/-- What the registry and the connector take from Python: `str.lower`, `str.isalnum` of a character,
and the digest of a token. -/
structure AgentLibrary where
  lower : String → String
  isAlnum : Char → Bool
  sha256 : String → String
  normal_again : ∀ s, lower (strip (lower (strip s))) = lower (strip s)

namespace AgentLibrary

variable (lib : AgentLibrary)

/-- `str(value).strip().lower()`. -/
def normal (s : String) : String := lib.lower (strip s)

theorem normal_normal (s : String) : lib.normal (lib.normal s) = lib.normal s := lib.normal_again s

end AgentLibrary

def agentActions : List String := ["observe","surface","reply","amplify","admin"]

inductive GrantEffect | allow | deny
  deriving DecidableEq

def grantEffect : String → Option GrantEffect
  | "allow" => some .allow
  | "deny" => some .deny
  | _ => none

/-- `_agent_id`. -/
def agentIdOf (lib : AgentLibrary) (value : String) : Result String := do
  let text := lib.normal value
  let bare := text.toList.filter fun c => c ≠ '_' ∧ c ≠ '-'
  raiseIf (text = "" ∨ 64 < text.toList.length ∨ bare = [] ∨ ¬ bare.all lib.isAlnum)
    (.value "invalid Amesh agent ID")
  return text

/-- `amesh_agents`. -/
structure AgentRow where
  agentId : String
  name : String
  tokenHash : String
  scopes : List String
  enabled : Bool
  createdMs : ℤ
  lastSeenMs : ℤ
  deriving DecidableEq

/-- `amesh_agent_grants`. -/
structure GrantRow where
  grantId : String
  agentId : String
  adapter : String
  action : String
  effect : GrantEffect
  reason : String
  createdMs : ℤ
  deriving DecidableEq

/-- `ORDER BY created_ms DESC, grant_id DESC`. -/
def GrantRow.Above (g h : GrantRow) : Prop :=
  h.createdMs < g.createdMs ∨ (h.createdMs = g.createdMs ∧ h.grantId < g.grantId)

instance (g h : GrantRow) : Decidable (g.Above h) := inferInstanceAs (Decidable (_ ∨ _))

/-- `ORDER BY created_ms DESC, grant_id DESC LIMIT 1`. -/
def topGrant (rows : List GrantRow) : Option GrantRow :=
  rows.foldl (fun top g => some (top.elim g fun t => if g.Above t then g else t)) none

theorem topGrant_append (rows : List GrantRow) (g : GrantRow) :
    topGrant (rows ++ [g]) = some ((topGrant rows).elim g fun t => if g.Above t then g else t) := by
  rw [topGrant,List.foldl_append]
  rfl

structure AgentStore where
  agents : Table AgentRow.agentId noMarks
  grants : Table GrantRow.grantId noMarks

namespace AgentStore

variable (lib : AgentLibrary)

def empty : AgentStore := ⟨.empty,.empty⟩

/-- `register`, with the token it draws. -/
def register (s : AgentStore) (agentId name : String) (scopes : List String) (token : String)
    (now : ℤ) : Result AgentStore := do
  let agentId ← agentIdOf lib agentId
  let name := strip name
  raiseIf (name = "" ∨ 128 < name.toList.length) (.value "Amesh agent name is invalid")
  let normalized := sortedStrings (scopes.map lib.normal).dedup
  raiseIf (∃ scope ∈ normalized, scope ∉ agentActions) (.value "unknown Amesh agent scope")
  let agents ← fetched
    (s.agents.insert ⟨agentId,name,lib.sha256 token,normalized,true,now,now⟩) .integrity
  return { s with agents := agents }

/-- `get`. -/
def get (s : AgentStore) (agentId : String) : Result (Option AgentRow) := do
  let agentId ← agentIdOf lib agentId
  return s.agents.get agentId

/-- `revoke`. -/
def revoke (s : AgentStore) (agentId : String) : Result AgentStore := do
  let agentId ← agentIdOf lib agentId
  return { s with
    agents := s.agents.update (fun r => r.agentId = agentId) (fun r => { r with enabled := false })
      (fun _ => rfl) (noMarks_subset _) }

/-- `UPDATE amesh_agents SET last_seen_ms=?`. -/
def seen (s : AgentStore) (agentId : String) (now : ℤ) : AgentStore :=
  { s with
    agents := s.agents.update (fun r => r.agentId = agentId) (fun r => { r with lastSeenMs := now })
      (fun _ => rfl) (noMarks_subset _) }

/-- The agent of a token, as `authenticate` selects it. -/
def holder (s : AgentStore) (token : String) : Option AgentRow :=
  s.agents.first fun r => r.tokenHash = lib.sha256 token ∧ r.enabled

/-- `authenticate`. -/
def authenticate (s : AgentStore) (token : String) (now : ℤ) : Result (AgentRow × AgentStore) := do
  let row ← fetched (s.holder lib token) (.permission "invalid or disabled Amesh agent token")
  let s := s.seen row.agentId now
  let record ← s.get lib row.agentId
  let record ← fetched record (.permission "Amesh agent disappeared")
  return (record,s)

/-- `grant`, with the id it draws. -/
def grant (s : AgentStore) (agentId adapter action effect reason grantId : String) (now : ℤ) :
    Result AgentStore := do
  let agentId ← agentIdOf lib agentId
  let record ← s.get lib agentId
  raiseIf (record.isNone) (.value "unknown Amesh agent")
  let adapter := lib.normal adapter
  let action := lib.normal action
  raiseIf (adapter = "" ∨ action ∉ agentActions) (.value "invalid Amesh agent grant")
  let effect ← fetched (grantEffect (lib.normal effect)) (.value "invalid Amesh agent grant")
  let grants ← fetched
    (s.grants.insert ⟨grantId,agentId,adapter,action,effect,cut 256 reason,now⟩) .integrity
  return { s with grants := grants }

/-- The grants of an agent for an adapter and an action, as they were appended. -/
def grantsFor (s : AgentStore) (agentId adapter action : String) : List GrantRow :=
  s.grants.select fun g => g.agentId = agentId ∧ g.adapter = adapter ∧ g.action = action

/-- `authorize`. -/
def authorize (s : AgentStore) (agentId adapter action : String) : Result Bool := do
  let agentId ← agentIdOf lib agentId
  let record ← s.get lib agentId
  match record with
  | none => return false
  | some record =>
    if ¬ record.enabled ∨ action ∉ record.scopes then return false
    else return ((topGrant (s.grantsFor agentId (lib.lower adapter) (lib.lower action))).map
      GrantRow.effect) = some .allow

/-- The agent with this id is enabled, has the scope, and its most recently appended grant for the
adapter and the action allows. -/
def Permits (s : AgentStore) (agentId adapter action : String) : Prop :=
  (∃ r, s.agents.get agentId = some r ∧ r.enabled ∧ action ∈ r.scopes) ∧
    ∃ g, (s.grantsFor agentId (lib.lower adapter) (lib.lower action)).getLast? = some g ∧
      g.effect = .allow

/-- Where the grant ranked first allows, the grant appended last does. -/
def InOrder (s : AgentStore) : Prop := ∀ agentId adapter action g,
  topGrant (s.grantsFor agentId adapter action) = some g → g.effect = .allow →
    ∃ last, (s.grantsFor agentId adapter action).getLast? = some last ∧ last.effect = .allow

/-- The ids of the registry are in their normal form. -/
def Normal (s : AgentStore) : Prop := ∀ r ∈ s.agents.rows, agentIdOf lib r.agentId = .ok r.agentId

section Facts

variable {lib} {s s' : AgentStore}

theorem agentIdOf_again {value id : String} (h : agentIdOf lib value = .ok id) :
    agentIdOf lib id = .ok id := by
  simp only [agentIdOf,bind_ok] at h ⊢
  obtain ⟨u,hvalid,hid⟩ := h
  obtain rfl := Except.ok.inj hid
  rw [lib.normal_normal]
  exact ⟨u,hvalid,rfl⟩

theorem get_ok {agentId id : String} (hid : agentIdOf lib agentId = .ok id) :
    s.get lib agentId = .ok (s.agents.get id) := by
  rw [get,hid]
  rfl

/-- An update of an agent that keeps its id keeps the normal form. -/
theorem Normal.update (h : s.Normal lib) {f : AgentRow → AgentRow} (p : AgentRow → Prop)
    [DecidablePred p] (hf : ∀ r, (f r).agentId = r.agentId) :
    ({ s with agents := s.agents.update p f hf (noMarks_subset _) } : AgentStore).Normal lib := by
  intro r hr
  obtain ⟨r',hr',rfl⟩ := List.mem_map.mp hr
  have hid : (if p r' then f r' else r').agentId = r'.agentId := by split <;> simp [hf]
  rw [hid]
  exact h r' hr'

theorem register_normal (h : s.Normal lib) {agentId name token : String} {scopes : List String}
    {now : ℤ} (hreg : s.register lib agentId name scopes token now = .ok s') :
    s'.Normal lib ∧ s'.grants = s.grants := by
  simp only [register,bind_ok,fetched_ok] at hreg
  obtain ⟨id,hid,_,-,_,-,agents,hins,hs'⟩ := hreg
  obtain rfl := Except.ok.inj hs'
  refine ⟨fun r hr => ?_,rfl⟩
  rw [(Table.insert_eq_some hins).2.2] at hr
  rcases List.mem_append.mp hr with hr | hr
  · exact h r hr
  · obtain rfl := List.mem_singleton.mp hr
    exact agentIdOf_again hid

/-- In a registry in normal form, a token either authenticates its holder or is refused. -/
theorem authenticate_cases (h : s.Normal lib) (token : String) (now : ℤ) :
    (s.holder lib token = none ∧
        s.authenticate lib token now = .error (.permission "invalid or disabled Amesh agent token")) ∨
      ∃ row, s.holder lib token = some row ∧ s.authenticate lib token now =
        .ok ({ row with lastSeenMs := now },s.seen row.agentId now) := by
  cases hrow : s.holder lib token with
  | none =>
    left
    refine ⟨rfl,?_⟩
    rw [authenticate,hrow]
    rfl
  | some row =>
    right
    refine ⟨row,rfl,?_⟩
    have hget := (Table.first_some hrow).1
    have hid := h row (Table.get_eq_some.mp hget).1
    have hseen : (s.seen row.agentId now).agents.get row.agentId =
        some { row with lastSeenMs := now } := by
      rw [seen,Table.get_update_key,if_pos rfl,hget]
      rfl
    rw [authenticate,hrow]
    change ((s.seen row.agentId now).get lib row.agentId >>= _) = _
    rw [get_ok hid,hseen]
    rfl

/-- What `authorize` permits, with the grants in order. -/
theorem authorize_permits (horder : s.InOrder) {agentId adapter action id : String}
    (hid : agentIdOf lib agentId = .ok id)
    (h : s.authorize lib agentId adapter action = .ok true) : s.Permits lib id adapter action := by
  have hagain := agentIdOf_again hid
  simp only [authorize,hid,get_ok hagain,bind,Except.bind] at h
  cases hget : s.agents.get id with
  | none => simp [hget,pure,Except.pure] at h
  | some r =>
    simp only [hget] at h
    split at h
    · simp [pure,Except.pure] at h
    · rename_i hno
      rw [not_or,not_not,not_not] at hno
      have htop := of_decide_eq_true (Except.ok.inj h)
      obtain ⟨g,hg,heffect⟩ := Option.map_eq_some_iff.mp htop
      exact ⟨⟨r,hget,hno⟩,horder _ _ _ g hg heffect⟩

theorem grantsFor_append {grants : Table GrantRow.grantId noMarks} {g : GrantRow}
    (h : s.grants.insert g = some grants) (agentId adapter action : String) :
    ({ s with grants := grants } : AgentStore).grantsFor agentId adapter action =
      if g.agentId = agentId ∧ g.adapter = adapter ∧ g.action = action then
        s.grantsFor agentId adapter action ++ [g] else s.grantsFor agentId adapter action := by
  simp only [grantsFor,Table.select,(Table.insert_eq_some h).2.2,List.filter_append]
  split <;> simp_all

/-- A denial is appended above a grant that allows what it denies. -/
def Supersedes (s : AgentStore) (g : GrantRow) : Prop :=
  g.effect = .deny → ∀ top, topGrant (s.grantsFor g.agentId g.adapter g.action) = some top →
    top.effect = .allow → g.Above top

theorem inOrder_append (h : s.InOrder) {grants : Table GrantRow.grantId noMarks} {g : GrantRow}
    (hins : s.grants.insert g = some grants) (hnew : s.Supersedes g) :
    ({ s with grants := grants } : AgentStore).InOrder := by
  intro agentId adapter action top htop hallow
  rw [grantsFor_append hins] at htop ⊢
  split at htop
  · rename_i hkey
    rw [if_pos hkey]
    obtain ⟨rfl,rfl,rfl⟩ := hkey
    refine ⟨g,by simp,?_⟩
    by_contra hne
    have hdeny : g.effect = .deny := by cases hg : g.effect <;> simp_all
    rw [topGrant_append] at htop
    cases hold : topGrant (s.grantsFor g.agentId g.adapter g.action) with
    | none =>
      obtain rfl : g = top := by simpa [hold] using htop
      exact hne hallow
    | some t =>
      simp only [hold,Option.elim_some,Option.some.injEq] at htop
      split at htop
      · exact hne (htop ▸ hallow)
      · rename_i hbelow
        exact hbelow (hnew hdeny t hold (htop ▸ hallow))
  · rename_i hkey
    rw [if_neg hkey]
    exact h agentId adapter action top htop hallow

end Facts

end AgentStore

end Anet.Amesh
