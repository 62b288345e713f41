import Anet.DiscordAdapter
import Anet.LoopbackAdapter

/-! The gates of the outward effects, in every run of an adapter: no signal is routed against a rule,
replies are held to the reservation of their event, and those of the loopback adapter to its evidence.
A signal lists what the evidence allows although a rule takes it back, and the Discord adapter replies
whatever the evidence says. -/
namespace Anet.Amesh

/-- No rule denied the signal, or an action that its decision lists. -/
def Routed.Gated (adapter : String) (r : Routed) : Prop :=
  r.permissions.denies adapter r.signal.actorKey "surface" = false ∧
    ∀ action ∈ r.signal.allowedActions, action ≠ "observe" →
      r.permissions.denies adapter r.signal.actorKey action = false

instance (adapter : String) (r : Routed) : Decidable (r.Gated adapter) :=
  inferInstanceAs (Decidable (_ ∧ _))

/-- The adapter was enabled, the evidence allowed the reply, and no rule denied it. -/
def ReplyLog.Gated (adapter : String) (policy : SocialPolicy) (enabled : Bool) : ReplyLog → Prop
  | .sent key _ ledger permissions => enabled = true ∧ ∃ event evaluation,
      ledger.event key = some event ∧ ledger.evaluation policy event = some evaluation ∧
        "reply" ∈ evaluation.allowedActions ∧
        permissions.denies adapter event.actorKey "reply" = false
  | .settled _ => True

/-- What the gates of an adapter have to see to. -/
structure EffectsGated (adapter : String) (policy : SocialPolicy) (enabled : Bool)
    (routed : List Routed) (replies : List ReplyLog) : Prop where
  routed : ∀ r ∈ routed, r.Gated adapter
  sent : ∀ x ∈ replies, x.Gated adapter policy enabled
  consistent : replies.Pairwise ReplyLog.Consistent

section Shared

variable {lib : SocialLibrary} {s s' : Ledger} {log : List ReplyLog} {adapter : String}
  {policy : SocialPolicy} {enabled : Bool} {routed : List Routed}

theorem ReplyKept.nil (s : Ledger) : ReplyKept lib s [] := ⟨.nil,by simp,by simp⟩

theorem EffectsGated.nil : EffectsGated adapter policy enabled [] [] := ⟨by simp,by simp,.nil⟩

/-- An inserted event leaves the replies as they are. -/
theorem ReplyKept.insertEvent (h : ReplyKept lib s log) {actorKey : String} {mentions replies now : ℤ}
    {event : EventRow}
    (hins : (s.countActor actorKey mentions replies now).insertEvent event = some s') :
    ReplyKept lib s' log := by
  obtain ⟨-,-,-,-,hout⟩ := Ledger.insertEvent_some hins
  exact h.frame hout fun k e he => ⟨e,Ledger.event_stays hins he,rfl⟩

theorem ReplyKept.countActor (h : ReplyKept lib s log) (actorKey : String)
    (mentions replies now : ℤ) : ReplyKept lib (s.countActor actorKey mentions replies now) log :=
  h.frame rfl fun _ e he => ⟨e,he,rfl⟩

theorem ReplyKept.markRouted (h : ReplyKept lib s log) (key packetId : String) :
    ReplyKept lib (s.markRouted key packetId) log := by
  refine h.frame rfl fun k e he => ?_
  have hget : (s.markRouted key packetId).event k = if k = key then
      (s.event key).map fun e => { e with routedId := cut 128 packetId } else s.event k :=
    Table.get_update_key s.events key (fun e => { e with routedId := cut 128 packetId })
      (fun _ => rfl) (fun _ => List.Subset.refl _) k
  rw [hget]
  split
  · rename_i hk
    rw [hk] at he
    refine ⟨{ e with routedId := cut 128 packetId },?_,rfl⟩
    rw [he]
    rfl
  · exact ⟨e,he,rfl⟩

theorem ReplyKept.updateLabels (h : ReplyKept lib s log) {actorKey source : String}
    {add remove : List String} {now : ℤ}
    (hlabels : s.updateLabels actorKey source add remove now = .ok s') : ReplyKept lib s' log := by
  simp only [Ledger.updateLabels,bind_ok] at hlabels
  obtain ⟨_,-,_,-,_,-,_,-,hs'⟩ := hlabels
  obtain rfl := Except.ok.inj hs'
  exact h.frame rfl fun _ e he => ⟨e,he,rfl⟩

theorem EffectsGated.route (h : EffectsGated adapter policy enabled routed log) {r : Routed}
    (hr : r.Gated adapter) : EffectsGated adapter policy enabled (routed ++ [r]) log := by
  refine ⟨fun x hx => ?_,h.sent,h.consistent⟩
  rcases List.mem_append.mp hx with hx | hx
  · exact h.routed x hx
  · obtain rfl := List.mem_singleton.mp hx
    exact hr

/-- A signal of an event that no rule denies, of which no rule denies an action. -/
theorem routed_gated {permissions : PermissionStore} {signal : Signal} {actorKey : String}
    {allowed : List String} (hactor : signal.actorKey = actorKey)
    (hallowed : signal.allowedActions = allowed)
    (hopen : permissions.denies adapter actorKey "surface" = false)
    (hkept : permissions.applyAllowed adapter actorKey allowed = allowed) :
    Routed.Gated adapter ⟨signal,permissions⟩ := by
  unfold Routed.Gated
  rw [hactor,hallowed]
  exact ⟨hopen,PermissionStore.applyAllowed_eq.mp hkept⟩

/-- A reply that passed the gates. -/
theorem EffectsGated.reply (h : EffectsGated adapter policy enabled routed log) (hk : ReplyKept lib s log)
    (hinj : Function.Injective lib.contentDigest) {key : String} {event : EventRow}
    (hevent : s.event key = some event) {permissions : PermissionStore} (content : String)
    {replyId : String} (now : ℤ) {fate : ReplyFate} (hreply : fate = .completes → replyId ≠ "")
    (hgated : enabled = true ∧ ∃ evaluation, s.evaluation policy event = some evaluation ∧
      "reply" ∈ evaluation.allowedActions)
    (hopen : permissions.denies adapter event.actorKey "reply" = false) :
    ReplyKept lib (s.sendReply lib permissions log event content replyId now fate).1
        (s.sendReply lib permissions log event content replyId now fate).2 ∧
      EffectsGated adapter policy enabled routed
        (s.sendReply lib permissions log event content replyId now fate).2 := by
  obtain rfl := Table.get_key hevent
  obtain ⟨hkept,hnew⟩ := hk.sendReply hinj hevent permissions content now hreply
  refine ⟨hkept,h.routed,fun x hx => ?_,hkept.consistent⟩
  cases x with
  | settled k => trivial
  | sent k c l p =>
    rcases hnew k c l p hx with hold | ⟨rfl,rfl,rfl⟩
    · exact h.sent _ hold
    · obtain ⟨henabled,evaluation,heval,hallowed⟩ := hgated
      exact ⟨henabled,event,evaluation,hevent,heval,hallowed,hopen⟩

end Shared

theorem isHex_ne {n : ℕ} {s : String} (h : isHex (n + 1) s) : s ≠ "" := by
  rintro rfl
  simp [isHex] at h

namespace LoopbackWorld

variable (lib : SocialLibrary) (cfg : LoopbackConfig)

/-- The rules deny no action that a signal of the file would list. -/
def Call.Sound (w : LoopbackWorld) : Call → Prop
  | .file name now _ => ∀ m evaluation, w.message name = some m →
      m.evaluation lib cfg.policy w.ledger now = some evaluation →
      "surface" ∈ evaluation.allowedActions →
      w.permissions.denies "loopback" (m.actorKey lib) "surface" = false →
      w.permissions.applyAllowed "loopback" (m.actorKey lib) evaluation.allowedActions =
        evaluation.allowedActions
  | _ => True

def SoundStep (w w' : LoopbackWorld) : Prop := ∃ c, Call.Sound lib cfg w c ∧ w' = w.exec lib cfg c

/-- What holds of every state of a sound run. -/
structure Kept (w : LoopbackWorld) : Prop where
  replies : ReplyKept lib w.ledger w.replies
  gated : EffectsGated "loopback" cfg.policy cfg.enabled w.routed w.replies

variable {lib cfg}

theorem kept_file {w : LoopbackWorld} (h : Kept lib cfg w) (name : String) (now : ℤ)
    (fate : LoopbackFate) (hsound : Call.Sound lib cfg w (.file name now fate)) :
    Kept lib cfg (w.pollFile lib cfg name now fate).1 := by
  have hnew {m : LoopbackMessage} {event : EventRow} {ledger : Ledger}
      (hing : loopbackIngest lib cfg.policy w.ledger m now = .ok ((event,true),ledger)) :
      ReplyKept lib ledger w.replies := by
    obtain ⟨-,evaluation,-,-,hins⟩ := ingest_new hing
    exact h.replies.insertEvent hins
  have hstep := @pollFile_step lib cfg w name now fate
  generalize w.pollFile lib cfg name now fate = r at hstep
  cases hstep with
  | stopped => exact h
  | passed => exact h
  | again => exact ⟨h.replies,h.gated⟩
  | kept => exact h
  | stored m event ledger go hm hchannel hing => exact ⟨hnew hing,h.gated⟩
  | quiet m event ledger go hm hchannel hing => exact ⟨hnew hing,h.gated⟩
  | taken m event ledger hm hchannel hing => exact ⟨hnew hing,h.gated⟩
  | refused m event ledger go hm hchannel hing => exact ⟨hnew hing,h.gated⟩
  | routed m event ledger signal' go hm hchannel hing hsurface hopen hsignal =>
    refine ⟨hnew hing,h.gated.route ?_⟩
    obtain ⟨-,evaluation,heval,rfl,-⟩ := ingest_new hing
    obtain ⟨-,hactor,hallowed⟩ := buildSignal_ok hsignal
    exact routed_gated hactor hallowed hopen (hsound m evaluation hm heval hsurface hopen)

theorem kept_reply (hinj : Function.Injective lib.contentDigest) {w : LoopbackWorld}
    (h : Kept lib cfg w) (eventKey content : String) (now : ℤ) (fate : ReplyFate) :
    Kept lib cfg (w.reply lib cfg eventKey content now fate) := by
  unfold reply
  simp only
  by_cases hargs : ¬ cfg.enabled ∨ ¬ isHex 32 (lower (strip eventKey)) ∨ content = "" ∨
      2000 < content.toList.length
  · rw [if_pos hargs]
    exact h
  rw [if_neg hargs]
  simp only [not_or,not_not] at hargs
  cases hevent : w.ledger.event (lower (strip eventKey)) with
  | none => exact h
  | some event =>
    simp only
    by_cases hdenied : w.permissions.denies "loopback" event.actorKey "reply" = true
    · rw [if_pos hdenied]
      exact ⟨h.replies,h.gated⟩
    rw [if_neg hdenied]
    cases heval : w.ledger.evaluation cfg.policy event with
    | none => exact h
    | some evaluation =>
      simp only
      by_cases hallowed : "reply" ∉ evaluation.allowedActions
      · rw [if_pos hallowed]
        exact h
      rw [if_neg hallowed]
      have hid : (if fate = .marked then ReplyFate.sent else fate) = .completes →
          lower (strip eventKey) ≠ "" := fun _ => isHex_ne hargs.2.1
      obtain ⟨hreplies,hgated⟩ := h.gated.reply h.replies hinj hevent content now hid
        ⟨hargs.1,evaluation,heval,not_not.mp hallowed⟩ (by simpa using hdenied)
      exact ⟨hreplies,hgated⟩

theorem kept_step (hinj : Function.Injective lib.contentDigest) (w w' : LoopbackWorld)
    (h : Kept lib cfg w) (hstep : SoundStep lib cfg w w') : Kept lib cfg w' := by
  obtain ⟨c,hsound,rfl⟩ := hstep
  cases c with
  | arrive name message => exact ⟨h.replies,h.gated⟩
  | file name now fate =>
    change Kept lib cfg (if cfg.enabled then (w.pollFile lib cfg name now fate).1 else w)
    split
    · exact kept_file h name now fate hsound
    · exact h
  | updateLabels actorKey source add remove now =>
    have hledger : ReplyKept lib ((w.ledger.updateLabels actorKey source add remove now).toOption.getD
        w.ledger) w.replies := by
      cases hlabels : w.ledger.updateLabels actorKey source add remove now with
      | error e => exact h.replies
      | ok s => exact h.replies.updateLabels hlabels
    exact ⟨hledger,h.gated⟩
  | addRule rule => exact ⟨h.replies,h.gated⟩
  | removeRule ruleId => exact ⟨h.replies,h.gated⟩
  | reply eventKey content now fate => exact kept_reply hinj h eventKey content now fate

end LoopbackWorld

namespace DiscordWorld

variable (lib : SocialLibrary) (blockedId : String → String) (cfg : DiscordConfig)

/-- The rules deny no action that a signal of the message would list; and a reply that no rule denies
is one that the evidence allows, of an adapter that is enabled. -/
def Call.Sound (w : DiscordWorld) : Call → Prop
  | .message _ m now _ => ∀ evaluation, m.evaluation lib cfg.policy w.ledger now = some evaluation →
      "surface" ∈ evaluation.allowedActions →
      w.permissions.denies "discord" (m.actorKey lib) "surface" = false →
      w.permissions.applyAllowed "discord" (m.actorKey lib) evaluation.allowedActions =
        evaluation.allowedActions
  | .reply eventKey _ _ _ _ => ∀ event, w.ledger.event (lower (strip eventKey)) = some event →
      w.permissions.denies "discord" event.actorKey "reply" = false →
      cfg.enabled = true ∧ ∃ evaluation, w.ledger.evaluation cfg.policy event = some evaluation ∧
        "reply" ∈ evaluation.allowedActions
  | _ => True

def SoundStep (w w' : DiscordWorld) : Prop :=
  ∃ c, Call.Sound lib cfg w c ∧ w' = w.exec lib blockedId cfg c

/-- What holds of every state of a sound run. -/
structure Kept (w : DiscordWorld) : Prop where
  replies : ReplyKept lib w.ledger w.replies
  gated : EffectsGated "discord" cfg.policy cfg.enabled w.routed w.replies

variable {lib blockedId cfg}

theorem kept_marks {w : DiscordWorld} (h : Kept lib cfg w) {key : String}
    {marks : DiscordWorld → DiscordWorld}
    (hmarks : marks = id ∨ ∃ packetId, marks = fun w => w.markRouted key packetId) :
    Kept lib cfg (marks w) := by
  rcases hmarks with rfl | ⟨packetId,rfl⟩
  · exact h
  · exact ⟨h.replies.markRouted key packetId,h.gated⟩

theorem kept_message {w : DiscordWorld} (h : Kept lib cfg w) (channelId : String)
    (m : DiscordMessage) (now : ℤ) (fate : DiscordFate)
    (hsound : Call.Sound lib cfg w (.message channelId m now fate)) :
    Kept lib cfg (w.pollMessage lib blockedId cfg channelId m now fate).1 := by
  have hinserted {event : EventRow} {ledger : Ledger}
      (hnew : NewEvent lib cfg w channelId m now event ledger) : ReplyKept lib ledger w.replies :=
    h.replies.insertEvent hnew.inserted
  have hstep := @pollMessage_step lib blockedId cfg w channelId m now fate
  generalize w.pollMessage lib blockedId cfg channelId m now fate = r at hstep
  cases hstep with
  | stopped => exact h
  | again => exact ⟨h.replies,h.gated⟩
  | counted => exact ⟨h.replies.countActor _ _ _ _,h.gated⟩
  | stored event ledger hnew => exact ⟨hinserted hnew,h.gated⟩
  | quiet event ledger go hnew => exact ⟨hinserted hnew,h.gated⟩
  | moved event ledger hnew => exact ⟨hinserted hnew,h.gated⟩
  | refused event ledger marks go hnew hdenied hmarks =>
    have hkept : Kept lib cfg (((w.write ledger).moveCursor channelId m.id).refuse event.actorKey
        "surface" event.eventKey now) := ⟨hinserted hnew,h.gated⟩
    exact kept_marks hkept hmarks
  | routed event ledger signal' marks go hnew hsurface hopen hsignal hmarks =>
    have hrouted : Routed.Gated "discord" ⟨signal',w.permissions⟩ := by
      obtain ⟨evaluation,heval,rfl⟩ := hnew.built
      obtain ⟨-,hactor,hallowed⟩ := buildSignal_ok hsignal
      exact routed_gated hactor hallowed hopen (hsound evaluation heval hsurface hopen)
    have hkept : Kept lib cfg { (w.write ledger).moveCursor channelId m.id with
        routed := w.routed ++ [⟨signal',w.permissions⟩] } :=
      ⟨hinserted hnew,h.gated.route hrouted⟩
    exact kept_marks hkept hmarks

theorem kept_reply (hinj : Function.Injective lib.contentDigest) {w : DiscordWorld}
    (h : Kept lib cfg w) (eventKey content replyId : String) (now : ℤ) (fate : ReplyFate)
    (hsound : Call.Sound lib cfg w (.reply eventKey content replyId now fate)) :
    Kept lib cfg (w.reply lib eventKey content replyId now fate) := by
  unfold reply
  simp only
  by_cases hhex : ¬ isHex 32 (lower (strip eventKey))
  · rw [if_pos hhex]
    exact h
  rw [if_neg hhex]
  cases hevent : w.ledger.event (lower (strip eventKey)) with
  | none => exact h
  | some event =>
    simp only
    by_cases hdenied : w.permissions.denies "discord" event.actorKey "reply" = true
    · rw [if_pos hdenied]
      exact ⟨h.replies,h.gated⟩
    rw [if_neg hdenied]
    have hopen : w.permissions.denies "discord" event.actorKey "reply" = false := by
      simpa using hdenied
    by_cases hcontent : content = "" ∨ 2000 < content.toList.length
    · rw [if_pos hcontent]
      exact h
    rw [if_neg hcontent]
    have hid : (if isSnowflake (strip replyId) ∨ fate = .stops ∨ fate = .reserved then fate
        else .sent) = .completes → strip replyId ≠ "" := by
      intro hfate hempty
      rw [hempty] at hfate
      cases fate <;> simp [isSnowflake,matchesWord] at hfate
    generalize (if isSnowflake (strip replyId) ∨ fate = .stops ∨ fate = .reserved then fate
      else .sent) = comes at hid ⊢
    obtain ⟨hreplies,hgated⟩ := h.gated.reply h.replies hinj hevent content now hid
      (hsound event hevent hopen) hopen
    exact ⟨hreplies,hgated⟩

theorem kept_step (hinj : Function.Injective lib.contentDigest) (w w' : DiscordWorld)
    (h : Kept lib cfg w) (hstep : SoundStep lib blockedId cfg w w') : Kept lib cfg w' := by
  obtain ⟨c,hsound,rfl⟩ := hstep
  cases c with
  | message channelId m now fate =>
    change Kept lib cfg (if cfg.enabled then
      (w.pollMessage lib blockedId cfg channelId m now fate).1 else w)
    split
    · exact kept_message h channelId m now fate hsound
    · exact h
  | updateLabels actorKey source add remove now =>
    have hledger : ReplyKept lib ((w.ledger.updateLabels actorKey source add remove now).toOption.getD
        w.ledger) w.replies := by
      cases hlabels : w.ledger.updateLabels actorKey source add remove now with
      | error e => exact h.replies
      | ok s => exact h.replies.updateLabels hlabels
    exact ⟨hledger,h.gated⟩
  | addRule rule => exact ⟨h.replies,h.gated⟩
  | removeRule ruleId => exact ⟨h.replies,h.gated⟩
  | reply eventKey content replyId now fate =>
    exact kept_reply hinj h eventKey content replyId now fate hsound

end DiscordWorld

/-- In the runs of both adapters whose calls are sound, every routed signal and every reply passed its
gates, and the replies to an event are one reply that is not sent again once it is settled. -/
theorem outward_effects_gated (lib : SocialLibrary) (hinj : Function.Injective lib.contentDigest) :
    (∀ cfg w, Reaches (LoopbackWorld.SoundStep lib cfg) .initial w →
      EffectsGated "loopback" cfg.policy cfg.enabled w.routed w.replies) ∧
    ∀ blockedId cfg w, Reaches (DiscordWorld.SoundStep lib blockedId cfg) .initial w →
      EffectsGated "discord" cfg.policy cfg.enabled w.routed w.replies := by
  constructor
  · intro cfg w h
    have hstart : LoopbackWorld.Kept lib cfg .initial := ⟨.nil _,.nil⟩
    exact (Reaches.invariant (LoopbackWorld.kept_step hinj) hstart h).gated
  · intro blockedId cfg w h
    have hstart : DiscordWorld.Kept lib cfg .initial := ⟨.nil _,.nil⟩
    exact (Reaches.invariant (DiscordWorld.kept_step hinj) hstart h).gated

section Sample

/-- Without a rule nothing is denied. -/
theorem PermissionStore.denies_no_rules {s : PermissionStore} (h : s.rules.rows = [])
    (adapter actorKey action : String) : s.denies adapter actorKey action = false := by
  have hnone : s.rules.select (fun r => r.adapter = adapter ∧
      (r.actorKey = actorKey ∨ r.actorKey = "*") ∧ (r.action = action ∨ r.action = "*")) = [] := by
    unfold Table.select
    rw [h]
    rfl
  unfold denies effective
  rw [hnone]
  rfl

/-- A mention, and the reply to it. -/
def answeredCalls : List LoopbackWorld.Call :=
  [.arrive "m-1.json" greeting,.file "m-1.json" 1000 .completes,
    .reply (greeting.eventKey plainSocial) "welcome" 3000 .completes]

theorem outward_effects_gated_sample :
    EffectsGated "loopback" openPolicy true (runLoopback answeredCalls).routed
        (runLoopback answeredCalls).replies ∧
      ((runLoopback answeredCalls).routed.length,(runLoopback answeredCalls).replies.length) =
        (1,2) := by
  have hinj : Function.Injective plainSocial.contentDigest := fun _ _ h => h
  have hrun : Reaches (LoopbackWorld.SoundStep plainSocial loopbackSample) .initial
      (runLoopback answeredCalls) := by
    have hstep : ∀ w c, LoopbackWorld.Call.Sound plainSocial loopbackSample w c →
        LoopbackWorld.SoundStep plainSocial loopbackSample w
          (w.exec plainSocial loopbackSample c) := fun w c hc => ⟨c,hc,rfl⟩
    refine Reaches.of_calls hstep _ _ ⟨trivial,?_,trivial,trivial⟩
    intro m evaluation _ _ _ _
    exact PermissionStore.applyAllowed_eq.mpr fun action _ _ =>
      PermissionStore.denies_no_rules rfl _ _ _
  exact ⟨(outward_effects_gated plainSocial hinj).1 loopbackSample _ hrun,by decide +kernel⟩

/-- A rule against replies. -/
def noReplies (adapter : String) : RuleRow := ⟨"r1",adapter,"*","reply",.deny,"",1500⟩

/-- A mention, while a rule takes back the reply. -/
def listedCalls : List LoopbackWorld.Call :=
  [.addRule (noReplies "loopback"),.arrive "m-1.json" greeting,.file "m-1.json" 4000 .completes]

def discordListedCalls : List DiscordWorld.Call :=
  [.addRule (noReplies "discord"),.message "91" discordGreeting 4000 (.completes "p1")]

/-- A message that mentions nobody, and a reply to it. -/
def unaskedMessage : DiscordMessage := ⟨"101","7","ada",false,"hello",false,false⟩

def unaskedCalls : List DiscordWorld.Call :=
  [.message "91" unaskedMessage 1000 (.completes "p1"),
    .reply (unaskedMessage.eventKey plainSocial) "welcome" "103" 3000 .completes]

theorem loopback_lists_denied :
    ¬ ∀ r ∈ (runLoopback listedCalls).routed, r.Gated "loopback" := by decide +kernel

theorem discord_lists_denied :
    ¬ ∀ r ∈ (runDiscord discordListedCalls).routed, r.Gated "discord" := by decide +kernel

/-- The actions that the evidence allowed at a reply. -/
def ReplyLog.allowed (policy : SocialPolicy) : ReplyLog → Option (List String)
  | .sent key _ ledger _ =>
    ((ledger.event key).bind (ledger.evaluation policy)).map Evaluation.allowedActions
  | .settled _ => none

theorem discord_replies_unasked :
    ¬ ∀ x ∈ (runDiscord unaskedCalls).replies, x.Gated "discord" openPolicy true := by
  intro h
  have hlog : ∃ x ∈ (runDiscord unaskedCalls).replies,
      x.allowed openPolicy = some ["observe","surface"] := by decide +kernel
  obtain ⟨x,hx,hallowed⟩ := hlog
  cases x with
  | settled key => cases hallowed
  | sent key content ledger permissions =>
    obtain ⟨-,event,evaluation,hevent,heval,hreply,-⟩ := h _ hx
    have hsome : ReplyLog.allowed openPolicy (.sent key content ledger permissions) =
        some evaluation.allowedActions := by
      simp only [ReplyLog.allowed,hevent,Option.bind_some,heval,Option.map_some]
    rw [Option.some.inj (hsome.symm.trans hallowed)] at hreply
    revert hreply
    decide

/-- Three runs that the claim rules out: in each adapter a signal lists a reply that a rule denies, and
the Discord adapter replies where the evidence allows no reply. -/
theorem outward_effects_ungated :
    (∃ w, Reaches (LoopbackWorld.Step plainSocial loopbackSample) .initial w ∧
      ¬ ∀ r ∈ w.routed, r.Gated "loopback") ∧
    (∃ w, Reaches (DiscordWorld.Step plainSocial id discordSample) .initial w ∧
      ¬ ∀ r ∈ w.routed, r.Gated "discord") ∧
    ∃ w, Reaches (DiscordWorld.Step plainSocial id discordSample) .initial w ∧
      ¬ ∀ x ∈ w.replies, x.Gated "discord" openPolicy true :=
  ⟨⟨_,Reaches.of_steps (fun _ c => ⟨c,rfl⟩) listedCalls _,loopback_lists_denied⟩,
    ⟨_,Reaches.of_steps (fun _ c => ⟨c,rfl⟩) discordListedCalls _,discord_lists_denied⟩,
    ⟨_,Reaches.of_steps (fun _ c => ⟨c,rfl⟩) unaskedCalls _,discord_replies_unasked⟩⟩

end Sample

end Anet.Amesh
