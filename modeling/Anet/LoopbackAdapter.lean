import Anet.ReplyOutbox
import Anet.Transition
import Mathlib.Data.List.Infix

/-! The loopback adapter: its messages are files of a spool, and a poll takes the files in the order
of their names. -/
namespace Anet.Amesh

/-- A message of the spool, with the fields that `ingest` reads. -/
structure LoopbackMessage where
  author : String
  text : String
  channel : String
  bot : Bool
  deriving DecidableEq

structure LoopbackConfig where
  channels : List String
  destinationId : String
  signalTtlSeconds : ℤ
  policy : SocialPolicy
  enabled : Bool

namespace LoopbackMessage

variable (lib : SocialLibrary) (m : LoopbackMessage)

def authorName : String := strip m.author

def channelName : String := lower (strip m.channel)

def mentioned : Bool := "@amesh".toList <:+: m.text.toList

def replied : Bool := startsWith m.text "re:"

/-- `event_labels`, sorted. -/
def eventLabels : List String :=
  sortedStrings (["platform:loopback"] ++ (if m.mentioned then ["interaction:mention"] else []) ++
    (if m.replied then ["interaction:reply"] else []) ++ if m.bot then ["actor:bot"] else [])

def contentLevel : ContentLevel := if m.mentioned then .mention else .metadata

def actorKey : String := lib.pseudonym "actor" m.authorName

/-- An event is named by what its message says, and not by its file. -/
def eventKey : String :=
  cut 32 (lib.pseudonym "event" (m.channelName ++ "\x00" ++ m.authorName ++ "\x00" ++ m.text))

def bodyHash : String :=
  lib.bodyDigest ([m.channelName,m.authorName,m.text,m.actorKey lib] ++ m.eventLabels)

/-- The event that a message becomes. -/
def toEvent (evaluation : Evaluation) (now : ℤ) : EventRow :=
  ⟨m.eventKey lib,"","",m.channelName,m.authorName,m.actorKey lib,now,m.contentLevel,m.text,
    m.eventLabels,m.bodyHash lib,evaluation,"",""⟩

/-- The ledger in which the actor of a new message is counted. -/
def counted (s : Ledger) (now : ℤ) : Ledger :=
  s.countActor (m.actorKey lib) (if m.mentioned then 1 else 0) (if m.replied then 1 else 0) now

/-- The evaluation that a new message gets. -/
def evaluation (policy : SocialPolicy) (s : Ledger) (now : ℤ) : Option Evaluation :=
  ((m.counted lib s now).actorStats (m.actorKey lib)).map fun stats =>
    policy.evaluate stats ((m.counted lib s now).actorLabels (m.actorKey lib)) m.eventLabels

end LoopbackMessage

/-- `LoopbackLedger.ingest`: the event, whether it is new, and the ledger. -/
def loopbackIngest (lib : SocialLibrary) (policy : SocialPolicy) (s : Ledger) (m : LoopbackMessage)
    (now : ℤ) : Result ((EventRow × Bool) × Ledger) := do
  raiseIf (m.authorName = "" ∨ 128 < m.authorName.toList.length)
    (.value "loopback author is invalid")
  raiseIf (2000 < m.text.toList.length) (.value "loopback text is too long")
  match s.event (m.eventKey lib) with
  | some existing =>
    raiseIf (existing.bodyHash ≠ m.bodyHash lib) (.value "loopback event key conflicts")
    return ((existing,false),s)
  | none =>
    -- one transaction
    let evaluation ← fetched (m.evaluation lib policy s now)
      (.runtime "loopback actor insert failed")
    let inserted ← fetched ((m.counted lib s now).insertEvent (m.toEvent lib evaluation now))
      .integrity
    return ((m.toEvent lib evaluation now,true),inserted)

/-- What happens to a poll at a file: it ends before the transaction, after it, after the file was
taken away, or after the signal was queued; or reading or taking away the file raises, which the poll
survives. -/
inductive LoopbackFate
  | stops | readFails | stopsStored | unlinkFails | stopsTaken | stopsQueued | completes
  deriving DecidableEq

/-- The spool holds the files with their messages, where they are messages. -/
structure LoopbackWorld where
  permissions : PermissionStore
  ledger : Ledger
  spool : List (String × Option LoopbackMessage)
  routed : List Routed
  replies : List ReplyLog

namespace LoopbackWorld

variable (lib : SocialLibrary) (cfg : LoopbackConfig)

/-- The message of a file. -/
def message (w : LoopbackWorld) (name : String) : Option LoopbackMessage := (w.spool.lookup name).join

/-- `path.unlink()`. -/
def take (w : LoopbackWorld) (name : String) : LoopbackWorld :=
  { w with spool := w.spool.filter fun f => f.1 ≠ name }

/-- A decision of the operator's rules against an action. -/
def refuse (w : LoopbackWorld) (actorKey action eventKey : String) (now : ℤ) : LoopbackWorld :=
  { w with
    permissions := w.permissions.recordDecision "loopback" actorKey action .deny eventKey now }

/-- The signal of an event. -/
def signal (w : LoopbackWorld) (event : EventRow) : Result Signal :=
  buildSignal lib "loopback" "loopback-spool-v1" event.eventKey event.actorKey event.createdMs
    (event.createdMs + cfg.signalTtlSeconds * 1000) event.contentLevel
    (if event.contentLevel = .mention then event.text else "")
    (event.labels ++ w.ledger.actorLabels event.actorKey) event.evaluation
    [("channel",lib.pseudonym "channel" event.channel),("revision",cut 32 event.eventKey)]

/-- A new event is routed; the flag says whether the poll goes on. -/
def surface (w : LoopbackWorld) (event : EventRow) (now : ℤ) (fate : LoopbackFate) :
    LoopbackWorld × Bool :=
  if fate = .stopsTaken then (w,false)
  else if cfg.destinationId = "" ∨ "surface" ∉ event.evaluation.allowedActions then
    (w,fate ≠ .stopsQueued)
  else if w.permissions.denies "loopback" event.actorKey "surface" then
    (w.refuse event.actorKey "surface" event.eventKey now,fate ≠ .stopsQueued)
  else
    match w.signal lib cfg event with
    | .error _ => (w,false)
    | .ok signal =>
      ({ w with routed := w.routed ++ [⟨signal,w.permissions⟩] },fate ≠ .stopsQueued)

/-- A file whose event is stored. -/
def finish (w : LoopbackWorld) (name : String) (event : EventRow) (new : Bool) (now : ℤ)
    (fate : LoopbackFate) : LoopbackWorld × Bool :=
  if fate = .stopsStored then (w,false)
  else if fate = .unlinkFails then (w,true)
  else
    if new then (w.take name).surface lib cfg event now fate
    else (w.take name,fate ≠ .stopsTaken ∧ fate ≠ .stopsQueued)

/-- A file of `poll_once`. -/
def pollFile (w : LoopbackWorld) (name : String) (now : ℤ) (fate : LoopbackFate) :
    LoopbackWorld × Bool :=
  if fate = .stops then (w,false)
  else if fate = .readFails then (w,true)
  else
    match w.message name with
    | none => (w,true)
    | some m =>
      if m.channelName ∉ cfg.channels then (w,true)
      else
        match loopbackIngest lib cfg.policy w.ledger m now with
        | .error _ => (w,true)
        | .ok ((event,new),ledger) =>
          finish lib cfg { w with ledger := ledger } name event new now fate

/-- The files of a poll, until one of them ends it. -/
def pollFiles (now : ℤ) (fate : String → LoopbackFate) :
    LoopbackWorld → List String → LoopbackWorld × Bool
  | w,[] => (w,true)
  | w,name :: names =>
    let r := w.pollFile lib cfg name now (fate name)
    if r.2 then pollFiles now fate r.1 names else (r.1,false)

/-- `poll_once`. -/
def pollOnce (w : LoopbackWorld) (now : ℤ) (fate : String → LoopbackFate) : LoopbackWorld × Bool :=
  if cfg.enabled then w.pollFiles lib cfg now fate (sortedStrings (w.spool.map Prod.fst))
  else (w,true)

/-- `reply`, and how far it comes. -/
def reply (w : LoopbackWorld) (eventKey content : String) (now : ℤ) (fate : ReplyFate) :
    LoopbackWorld :=
  let key := lower (strip eventKey)
  if ¬ cfg.enabled ∨ ¬ isHex 32 key ∨ content = "" ∨ 2000 < content.toList.length then w
  else
    match w.ledger.event key with
    | none => w
    | some event =>
      if w.permissions.denies "loopback" event.actorKey "reply" then
        w.refuse event.actorKey "reply" key now
      else
        match w.ledger.evaluation cfg.policy event with
        | none => w
        | some evaluation =>
          if "reply" ∉ evaluation.allowedActions then w
          else
            -- the settlement is one transaction
            let fate := if fate = .marked then .sent else fate
            let r := w.ledger.sendReply lib w.permissions w.replies event content key now fate
            { w with ledger := r.1, replies := r.2 }

/-- What a file of a poll can do. -/
inductive FileStep (w : LoopbackWorld) (name : String) (now : ℤ) (fate : LoopbackFate) :
    LoopbackWorld × Bool → Prop
  | stopped (hfate : fate = .stops) : FileStep w name now fate (w,false)
  | passed (h : fate = .readFails ∨ ∀ m, w.message name = some m → m.channelName ∉ cfg.channels ∨
      ∃ e, loopbackIngest lib cfg.policy w.ledger m now = .error e) : FileStep w name now fate (w,true)
  | again (m existing go) (hm : w.message name = some m) (hchannel : m.channelName ∈ cfg.channels)
      (hexisting : w.ledger.event (m.eventKey lib) = some existing)
      (hgo : fate = .completes → go = true) : FileStep w name now fate (w.take name,go)
  | kept (m existing go) (hm : w.message name = some m)
      (hexisting : w.ledger.event (m.eventKey lib) = some existing)
      (hfate : fate = .stopsStored ∨ fate = .unlinkFails) : FileStep w name now fate (w,go)
  | stored (m event ledger go) (hm : w.message name = some m)
      (hchannel : m.channelName ∈ cfg.channels)
      (hnew : loopbackIngest lib cfg.policy w.ledger m now = .ok ((event,true),ledger))
      (hfate : fate = .stopsStored ∨ fate = .unlinkFails) :
      FileStep w name now fate ({ w with ledger := ledger },go)
  | quiet (m event ledger go) (hm : w.message name = some m)
      (hchannel : m.channelName ∈ cfg.channels)
      (hnew : loopbackIngest lib cfg.policy w.ledger m now = .ok ((event,true),ledger))
      (hquiet : cfg.destinationId = "" ∨ "surface" ∉ event.evaluation.allowedActions)
      (hgo : fate = .completes → go = true) :
      FileStep w name now fate (take { w with ledger := ledger } name,go)
  | taken (m event ledger) (hm : w.message name = some m)
      (hchannel : m.channelName ∈ cfg.channels)
      (hnew : loopbackIngest lib cfg.policy w.ledger m now = .ok ((event,true),ledger))
      (hfate : fate = .stopsTaken ∨ (cfg.destinationId ≠ "" ∧
        "surface" ∈ event.evaluation.allowedActions ∧
        w.permissions.denies "loopback" event.actorKey "surface" = false ∧
        ∃ e, signal lib cfg { w with ledger := ledger } event = .error e)) :
      FileStep w name now fate (take { w with ledger := ledger } name,false)
  | refused (m event ledger go) (hm : w.message name = some m)
      (hchannel : m.channelName ∈ cfg.channels)
      (hnew : loopbackIngest lib cfg.policy w.ledger m now = .ok ((event,true),ledger))
      (hdenied : w.permissions.denies "loopback" event.actorKey "surface" = true)
      (hgo : fate = .completes → go = true) :
      FileStep w name now fate
        ((take { w with ledger := ledger } name).refuse event.actorKey "surface" event.eventKey now,go)
  | routed (m event ledger signal' go) (hm : w.message name = some m)
      (hchannel : m.channelName ∈ cfg.channels)
      (hnew : loopbackIngest lib cfg.policy w.ledger m now = .ok ((event,true),ledger))
      (hsurface : "surface" ∈ event.evaluation.allowedActions)
      (hopen : w.permissions.denies "loopback" event.actorKey "surface" = false)
      (hsignal : signal lib cfg { w with ledger := ledger } event = .ok signal')
      (hgo : fate = .completes → go = true) :
      FileStep w name now fate
        ({ take { w with ledger := ledger } name with
          routed := w.routed ++ [⟨signal',w.permissions⟩] },go)

variable {lib cfg} {w : LoopbackWorld} {name : String} {now : ℤ} {fate : LoopbackFate}

theorem ingest_existing {s : Ledger} {m : LoopbackMessage} {policy : SocialPolicy} {event : EventRow}
    {new : Bool} {ledger : Ledger}
    (h : loopbackIngest lib policy s m now = .ok ((event,new),ledger)) (hnew : new = false) :
    s.event (m.eventKey lib) = some event ∧ ledger = s := by
  simp only [loopbackIngest,bind_ok] at h
  obtain ⟨_,-,_,-,h⟩ := h
  split at h
  · rename_i existing hexisting
    simp only [bind_ok] at h
    obtain ⟨_,-,h⟩ := h
    obtain ⟨hpair,rfl⟩ := Prod.mk.inj (Except.ok.inj h)
    obtain ⟨rfl,-⟩ := Prod.mk.inj hpair
    exact ⟨hexisting,rfl⟩
  · simp only [bind_ok] at h
    obtain ⟨_,-,_,-,h⟩ := h
    obtain ⟨hpair,-⟩ := Prod.mk.inj (Except.ok.inj h)
    rw [← (Prod.mk.inj hpair).2] at hnew
    cases hnew

theorem ingest_new {s : Ledger} {m : LoopbackMessage} {policy : SocialPolicy} {event : EventRow}
    {ledger : Ledger} (h : loopbackIngest lib policy s m now = .ok ((event,true),ledger)) :
    s.event (m.eventKey lib) = none ∧ ∃ evaluation, m.evaluation lib policy s now = some evaluation ∧
      event = m.toEvent lib evaluation now ∧ (m.counted lib s now).insertEvent event = some ledger := by
  simp only [loopbackIngest,bind_ok] at h
  obtain ⟨_,-,_,-,h⟩ := h
  split at h
  · simp only [bind_ok] at h
    obtain ⟨_,-,h⟩ := h
    cases (Prod.mk.inj (Prod.mk.inj (Except.ok.inj h)).1).2
  · rename_i hnone
    simp only [bind_ok,fetched_ok] at h
    obtain ⟨evaluation,heval,inserted,hins,h⟩ := h
    obtain ⟨hpair,rfl⟩ := Prod.mk.inj (Except.ok.inj h)
    obtain ⟨rfl,-⟩ := Prod.mk.inj hpair
    exact ⟨hnone,evaluation,heval,rfl,hins⟩

theorem surface_step {m : LoopbackMessage} {event : EventRow} {ledger : Ledger}
    (hm : w.message name = some m) (hchannel : m.channelName ∈ cfg.channels)
    (hnew : loopbackIngest lib cfg.policy w.ledger m now = .ok ((event,true),ledger)) :
    FileStep lib cfg w name now fate
      ((take { w with ledger := ledger } name).surface lib cfg event now fate) := by
  unfold surface
  by_cases hstops : fate = .stopsTaken
  · rw [if_pos hstops]
    exact .taken m event ledger hm hchannel hnew (Or.inl hstops)
  rw [if_neg hstops]
  have hgo : fate = .completes → decide (fate ≠ .stopsQueued) = true := by
    rintro rfl
    rfl
  by_cases hquiet : cfg.destinationId = "" ∨ "surface" ∉ event.evaluation.allowedActions
  · rw [if_pos hquiet]
    exact .quiet m event ledger _ hm hchannel hnew hquiet hgo
  rw [if_neg hquiet]
  rw [not_or,not_not] at hquiet
  by_cases hdenied : w.permissions.denies "loopback" event.actorKey "surface" = true
  · rw [if_pos (show (take { w with ledger := ledger } name).permissions.denies "loopback"
      event.actorKey "surface" = true from hdenied)]
    exact .refused m event ledger _ hm hchannel hnew hdenied hgo
  rw [if_neg (show ¬ (take { w with ledger := ledger } name).permissions.denies "loopback"
    event.actorKey "surface" = true from hdenied)]
  rw [Bool.not_eq_true] at hdenied
  have hsame : signal lib cfg (take { w with ledger := ledger } name) event =
      signal lib cfg { w with ledger := ledger } event := rfl
  rw [hsame]
  cases hsignal : signal lib cfg { w with ledger := ledger } event with
  | error e =>
    exact .taken m event ledger hm hchannel hnew
      (Or.inr ⟨hquiet.1,hquiet.2,hdenied,e,hsignal⟩)
  | ok signal' =>
    exact .routed m event ledger signal' _ hm hchannel hnew hquiet.2 hdenied hsignal hgo

theorem pollFile_step (w : LoopbackWorld) (name : String) (now : ℤ) (fate : LoopbackFate) :
    FileStep lib cfg w name now fate (w.pollFile lib cfg name now fate) := by
  unfold pollFile
  by_cases hstops : fate = .stops
  · rw [if_pos hstops]
    exact .stopped hstops
  rw [if_neg hstops]
  by_cases hfails : fate = .readFails
  · rw [if_pos hfails]
    exact .passed (Or.inl hfails)
  rw [if_neg hfails]
  cases hm : w.message name with
  | none => exact .passed (Or.inr fun m hsome => by rw [hm] at hsome; cases hsome)
  | some m =>
    simp only
    by_cases hchannel : m.channelName ∉ cfg.channels
    · rw [if_pos hchannel]
      refine .passed (Or.inr fun m' hm' => ?_)
      obtain rfl := Option.some.inj (hm.symm.trans hm')
      exact Or.inl hchannel
    rw [if_neg hchannel]
    cases hingest : loopbackIngest lib cfg.policy w.ledger m now with
    | error e =>
      refine .passed (Or.inr fun m' hm' => ?_)
      obtain rfl := Option.some.inj (hm.symm.trans hm')
      exact Or.inr ⟨e,hingest⟩
    | ok r =>
      obtain ⟨⟨event,new⟩,ledger⟩ := r
      simp only
      unfold finish
      cases new with
      | false =>
        obtain ⟨hexisting,rfl⟩ := ingest_existing hingest rfl
        by_cases hstored : fate = .stopsStored
        · rw [if_pos hstored]
          exact .kept m event false hm hexisting (Or.inl hstored)
        rw [if_neg hstored]
        by_cases hunlink : fate = .unlinkFails
        · rw [if_pos hunlink]
          exact .kept m event true hm hexisting (Or.inr hunlink)
        rw [if_neg hunlink]
        refine .again m event _ hm (not_not.mp hchannel) hexisting ?_
        rintro rfl
        rfl
      | true =>
        by_cases hstored : fate = .stopsStored
        · rw [if_pos hstored]
          exact .stored m event ledger false hm (not_not.mp hchannel) hingest (Or.inl hstored)
        rw [if_neg hstored]
        by_cases hunlink : fate = .unlinkFails
        · rw [if_pos hunlink]
          exact .stored m event ledger true hm (not_not.mp hchannel) hingest (Or.inr hunlink)
        rw [if_neg hunlink,if_pos rfl]
        exact surface_step hm (not_not.mp hchannel) hingest

section Runs

variable (lib : SocialLibrary) (cfg : LoopbackConfig)

def initial : LoopbackWorld := ⟨.empty,.empty,[],[],[]⟩

inductive Call
  | arrive (name : String) (message : Option LoopbackMessage)
  | file (name : String) (now : ℤ) (fate : LoopbackFate)
  | updateLabels (actorKey source : String) (add remove : List String) (now : ℤ)
  | addRule (rule : RuleRow)
  | removeRule (ruleId : String)
  | reply (eventKey content : String) (now : ℤ) (fate : ReplyFate)

/-- A call; one that raises leaves the world as it was. -/
def exec (w : LoopbackWorld) : Call → LoopbackWorld
  | .arrive name message => { w with spool := w.spool ++ [(name,message)] }
  | .file name now fate => if cfg.enabled then (w.pollFile lib cfg name now fate).1 else w
  | .updateLabels actorKey source add remove now =>
    { w with ledger := (w.ledger.updateLabels actorKey source add remove now).toOption.getD w.ledger }
  | .addRule rule => { w with permissions := w.permissions.addRule rule }
  | .removeRule ruleId => { w with permissions := w.permissions.removeRule ruleId }
  | .reply eventKey content now fate => w.reply lib cfg eventKey content now fate

def Step (w w' : LoopbackWorld) : Prop := ∃ c, w' = w.exec lib cfg c

/-- A poll is a run of its files. -/
theorem pollFiles_runs (hen : cfg.enabled) (now : ℤ) (fate : String → LoopbackFate)
    (names : List String) (w : LoopbackWorld) :
    Reaches (Step lib cfg) w (w.pollFiles lib cfg now fate names).1 := by
  induction names generalizing w with
  | nil => exact .refl
  | cons name names ih =>
    have hfile : Step lib cfg w (w.pollFile lib cfg name now (fate name)).1 :=
      ⟨.file name now (fate name),(if_pos hen).symm⟩
    unfold pollFiles
    by_cases hgo : (w.pollFile lib cfg name now (fate name)).2
    · simp only [if_pos hgo]
      exact .head hfile (ih _)
    · simp only [if_neg hgo]
      exact .single hfile

theorem pollOnce_runs (w : LoopbackWorld) (now : ℤ) (fate : String → LoopbackFate) :
    Reaches (Step lib cfg) w (w.pollOnce lib cfg now fate).1 := by
  unfold pollOnce
  by_cases hen : cfg.enabled
  · rw [if_pos hen]
    exact pollFiles_runs lib cfg hen now fate _ w
  · rw [if_neg hen]

end Runs

end LoopbackWorld

section Sample

def loopbackSample : LoopbackConfig := ⟨["lobby"],"person-1",3600,openPolicy,true⟩

def greeting : LoopbackMessage := ⟨"ada","@amesh hello","lobby",false⟩

def runLoopback (calls : List LoopbackWorld.Call) : LoopbackWorld :=
  calls.foldl (LoopbackWorld.exec plainSocial loopbackSample) .initial

end Sample

end Anet.Amesh
