import Anet.DiscordAdapter
import Anet.SpoolRecovery

/-! The channels of the Discord adapter over polls that end anywhere. An actor is counted before its
event is stored, and the cursor is moved before the signal of the event is queued: where no poll ends in
between, and no message answers another, counters and signals agree with the events. -/
namespace Anet.Amesh

/-- The messages behind a cursor. -/
def behind (messages : List DiscordMessage) : Option String → List DiscordMessage
  | none => messages
  | some id => (messages.dropWhile fun m => m.id ≠ id).drop 1

/-- The messages of the channels: valid, under different ids in a channel, and of one key only with one
body. -/
structure ChannelMessages (lib : SocialLibrary) (served : String → List DiscordMessage) : Prop where
  ids : ∀ c, ((served c).map DiscordMessage.id).Nodup
  valid : ∀ c, ∀ m ∈ served c, m.valid
  bodies : ∀ c c' m m', m ∈ served c → m' ∈ served c' → m.eventKey lib = m'.eventKey lib →
    m.bodyHash lib c = m'.bodyHash lib c'

/-- The keys and the bodies of the messages. -/
def messageBodies (lib : SocialLibrary) (served : String → List DiscordMessage) (k b : String) : Prop :=
  ∃ c, ∃ m ∈ served c, m.eventKey lib = k ∧ m.bodyHash lib c = b

theorem ChannelMessages.one_body {lib : SocialLibrary} {served : String → List DiscordMessage}
    (h : ChannelMessages lib served) (k b b' : String) (hb : messageBodies lib served k b)
    (hb' : messageBodies lib served k b') : b = b' := by
  obtain ⟨c,m,hm,rfl,rfl⟩ := hb
  obtain ⟨c',m',hm',hkey,rfl⟩ := hb'
  exact h.bodies c c' m m' hm hm' hkey.symm

/-- A cursor at the end of the messages that were passed. -/
theorem behind_append {done rest : List DiscordMessage}
    (hids : ((done ++ rest).map DiscordMessage.id).Nodup) :
    behind (done ++ rest) (done.getLast?.map DiscordMessage.id) = rest := by
  rcases List.eq_nil_or_concat done with rfl | ⟨front,m,rfl⟩
  · rfl
  · rw [List.concat_eq_append,List.getLast?_append_cons]
    have hother : ∀ x ∈ front, decide (x.id ≠ m.id) = true := by
      intro x hx
      rw [decide_eq_true_iff]
      rintro heq
      rw [List.concat_eq_append,List.append_assoc,List.map_append,List.nodup_append] at hids
      exact hids.2.2 x.id (List.mem_map_of_mem hx) m.id (by simp) heq
    change ((front ++ [m] ++ rest).dropWhile fun x => x.id ≠ m.id).drop 1 = rest
    rw [List.append_assoc,List.dropWhile_append_of_pos hother]
    simp

namespace DiscordWorld

variable (lib : SocialLibrary) (blockedId : String → String) (cfg : DiscordConfig)
  (served : String → List DiscordMessage)

/-- Nothing was polled. -/
def fresh (permissions : PermissionStore) : DiscordWorld := ⟨permissions,.empty,.empty,[],[]⟩

/-- The messages of a channel that are not passed. -/
def rest (w : DiscordWorld) (c : String) : List DiscordMessage := behind (served c) (w.cursors.get c)

/-- The message is the next one of its channel. A new one answers no other, a mention is not counted
without its event, and where a signal is due, the poll does not end between the event and the queue, and
the signal can be built. -/
def Call.Safe (w : DiscordWorld) : Call → Prop
  | .message c m now fate => (w.rest served c).head? = some m ∧
      (w.ledger.event (m.eventKey lib) = none → m.referenced = false ∧
        (fate = .counted → m.mentioned = false) ∧
        ∀ evaluation, m.evaluation lib cfg.policy w.ledger now = some evaluation →
          (m.toEvent lib cfg.guildId c evaluation now).Due "discord" cfg.destinationId w.permissions →
          fate ∉ [.stored,.moved] ∧
            ∃ signal', signal lib cfg (m.toEvent lib cfg.guildId c evaluation now) = .ok signal')
  | .updateLabels .. => True
  | .reply .. => True
  | _ => False

def SafeStep (w w' : DiscordWorld) : Prop :=
  ∃ c, Call.Safe lib cfg served w c ∧ w' = w.exec lib blockedId cfg c

/-- What holds of every state of a safe run. -/
structure FeedKept (w : DiscordWorld) : Prop where
  ingested : Ingested (messageBodies lib served) "discord" cfg.destinationId w.permissions w.ledger
    w.routed
  keyed : ∀ e ∈ w.ledger.events.rows,
    e.eventKey = cut 32 (lib.pseudonym "event" ("discord:" ++ e.messageId))
  passed : ∀ c, ∃ done rest, served c = done ++ rest ∧
    w.cursors.get c = done.getLast?.map DiscordMessage.id ∧
      ∀ m ∈ done, w.ledger.Holds (m.eventKey lib) (m.bodyHash lib c)

variable {lib blockedId cfg served} {w : DiscordWorld} {channelId : String} {m : DiscordMessage}
  {now : ℤ} {fate : DiscordFate}

theorem mentioned_label (m : DiscordMessage) :
    "interaction:mention" ∈ m.eventLabels ↔ m.mentioned = true := by
  simp [DiscordMessage.eventLabels,mem_sortedStrings]

theorem referenced_label (m : DiscordMessage) :
    "interaction:reply" ∈ m.eventLabels ↔ m.referenced = true := by
  simp [DiscordMessage.eventLabels,mem_sortedStrings]

theorem evaluation_total (policy : SocialPolicy) (s : Ledger) :
    ∃ evaluation, m.evaluation lib policy s now = some evaluation := by
  have hactor := Ledger.actor_countActor s (m.actorKey lib) (if m.mentioned then 1 else 0) 0 now
    (m.actorKey lib)
  rw [if_pos rfl] at hactor
  unfold DiscordMessage.evaluation Ledger.actorStats DiscordMessage.counted
  rw [hactor]
  exact ⟨_,rfl⟩

namespace FeedKept

theorem start (permissions : PermissionStore) :
    FeedKept lib cfg served (fresh permissions) :=
  ⟨.start,fun _ he => absurd he List.not_mem_nil,
    fun c => ⟨[],served c,rfl,rfl,fun _ hm => absurd hm List.not_mem_nil⟩⟩

/-- The messages that are left of a channel, behind those that were passed. -/
theorem split (hserved : ChannelMessages lib served) (h : FeedKept lib cfg served w) (c : String) :
    ∃ done, served c = done ++ w.rest served c ∧
      w.cursors.get c = done.getLast?.map DiscordMessage.id ∧
        ∀ m ∈ done, w.ledger.Holds (m.eventKey lib) (m.bodyHash lib c) := by
  obtain ⟨done,rest,hsplit,hcursor,hheld⟩ := h.passed c
  have hrest : w.rest served c = rest := by
    unfold DiscordWorld.rest
    rw [hcursor,hsplit]
    exact behind_append (hsplit ▸ hserved.ids c)
  exact ⟨done,by rw [hrest]; exact hsplit,hcursor,hheld⟩

/-- The next message of a channel. -/
theorem next (hserved : ChannelMessages lib served) (h : FeedKept lib cfg served w)
    (hnext : (w.rest served channelId).head? = some m) : m ∈ served channelId := by
  obtain ⟨done,hsplit,-⟩ := h.split hserved channelId
  obtain ⟨rest,hrest⟩ := List.head?_eq_some_iff.mp hnext
  rw [hsplit,hrest]
  simp

/-- The key of a new event is that of no stored message, and neither is its message. -/
theorem inserts (h : FeedKept lib cfg served w)
    (hfresh : w.ledger.event (m.eventKey lib) = none) (guildId : String) (evaluation : Evaluation) :
    ∃ ledger, (m.counted lib w.ledger now).insertEvent
      (m.toEvent lib guildId channelId evaluation now) = some ledger := by
  refine Ledger.insertEvent_free hfresh fun r hr x hx hx' => ?_
  have hrow : r ∈ w.ledger.events.rows := hr
  have hid : r.messageId = m.messageId := by
    unfold EventRow.marks at hx hx'
    split at hx
    · cases hx
    split at hx'
    · cases hx'
    rw [← List.mem_singleton.mp hx]
    exact List.mem_singleton.mp hx'
  have hkey : r.eventKey = m.eventKey lib := by
    rw [h.keyed r hrow,hid]
    rfl
  exact Table.get_eq_none.mp hfresh r hrow hkey

/-- The ledger of a new event. -/
theorem ingest (hserved : ChannelMessages lib served) (h : FeedKept lib cfg served w)
    (hnext : (w.rest served channelId).head? = some m) (hreferenced : m.referenced = false)
    {event : EventRow} {ledger : Ledger} (hnew : NewEvent lib cfg w channelId m now event ledger)
    {routed : List Routed} (hsub : w.routed ⊆ routed)
    (hqueued : event.Due "discord" cfg.destinationId w.permissions →
      ∃ r ∈ routed, r.signal.sourceEventId = event.eventKey) :
    FeedKept lib cfg served { w with ledger := ledger, routed := routed } ∧
      ledger.Holds (m.eventKey lib) (m.bodyHash lib channelId) := by
  obtain ⟨-,-,⟨evaluation,-,rfl⟩,hins⟩ := hnew
  have hmem := h.next hserved hnext
  have hstored : ledger.event (m.eventKey lib) =
      some (m.toEvent lib cfg.guildId channelId evaluation now) := by
    rw [Ledger.event_insertEvent hins]
    exact if_pos rfl
  have hrows : ledger.events.rows = w.ledger.events.rows ++
      [m.toEvent lib cfg.guildId channelId evaluation now] := (Ledger.insertEvent_some hins).2.1
  refine ⟨⟨h.ingested.insert ?_ ?_ hins ⟨channelId,m,hmem,rfl,rfl⟩ hsub hqueued,fun e he => ?_,
    fun c => ?_⟩,_,hstored,rfl⟩
  · exact if_congr (mentioned_label m).symm rfl rfl
  · have hlabel : "interaction:reply" ∉ m.eventLabels := by
      rw [referenced_label,hreferenced]
      simp
    exact (if_neg hlabel).symm
  · rw [hrows] at he
    rcases List.mem_append.mp he with he | he
    · exact h.keyed e he
    · obtain rfl := List.mem_singleton.mp he
      rfl
  · obtain ⟨done,rest,hsplit,hcursor,hheld⟩ := h.passed c
    refine ⟨done,rest,hsplit,hcursor,fun x hx => ?_⟩
    obtain ⟨e,he,hbody⟩ := hheld x hx
    exact ⟨e,Ledger.event_stays hins he,hbody⟩

/-- The cursor moves past a message whose event is stored. -/
theorem move (hserved : ChannelMessages lib served) (h : FeedKept lib cfg served w)
    (hnext : (w.rest served channelId).head? = some m)
    (hheld : w.ledger.Holds (m.eventKey lib) (m.bodyHash lib channelId)) :
    FeedKept lib cfg served (w.moveCursor channelId m.id) := by
  refine ⟨h.ingested,h.keyed,fun c => ?_⟩
  by_cases hc : c = channelId
  · subst hc
    obtain ⟨done,hsplit,-,hdone⟩ := h.split hserved c
    obtain ⟨rest,hrest⟩ := List.head?_eq_some_iff.mp hnext
    refine ⟨done ++ [m],rest,?_,?_,fun x hx => ?_⟩
    · rw [hsplit,hrest,List.append_assoc]
      rfl
    · unfold moveCursor
      rw [List.getLast?_append_cons,Keyed.get_put]
      simp
    · rcases List.mem_append.mp hx with hx | hx
      · exact hdone x hx
      · obtain rfl := List.mem_singleton.mp hx
        exact hheld
  · obtain ⟨done,rest,hsplit,hcursor,hdone⟩ := h.passed c
    refine ⟨done,rest,hsplit,?_,hdone⟩
    unfold moveCursor
    rw [Keyed.get_put,if_neg hc]
    exact hcursor

/-- Whatever leaves the actors and the events as they are. -/
theorem frame (h : FeedKept lib cfg served w) {ledger : Ledger} (hs : w.ledger.SameEvents ledger)
    (replies : List ReplyLog) : FeedKept lib cfg served { w with ledger := ledger, replies := replies } := by
  refine ⟨h.ingested.frame hs,fun e' he' => ?_,fun c => ?_⟩
  · obtain ⟨e,he,hcore⟩ := hs.mem he'
    obtain ⟨hkey,hid,-⟩ := EventRow.core_fields hcore
    rw [← hkey,← hid]
    exact h.keyed e he
  · obtain ⟨done,rest,hsplit,hcursor,hdone⟩ := h.passed c
    exact ⟨done,rest,hsplit,hcursor,fun x hx => hs.holds (hdone x hx)⟩

theorem mark (h : FeedKept lib cfg served w) {key : String} {marks : DiscordWorld → DiscordWorld}
    (hmarks : marks = id ∨ ∃ packetId, marks = fun w => w.markRouted key packetId) :
    FeedKept lib cfg served (marks w) := by
  rcases hmarks with rfl | ⟨packetId,rfl⟩
  · exact h
  · exact h.frame (Ledger.SameEvents.markRouted _ _ _) w.replies

theorem message (hserved : ChannelMessages lib served) (h : FeedKept lib cfg served w)
    (hsafe : Call.Safe lib cfg served w (.message channelId m now fate)) :
    FeedKept lib cfg served (w.pollMessage lib blockedId cfg channelId m now fate).1 := by
  obtain ⟨hnext,hsafe⟩ := hsafe
  have hstep := @pollMessage_step lib blockedId cfg w channelId m now fate
  generalize w.pollMessage lib blockedId cfg channelId m now fate = r at hstep
  -- a new event whose signal is not due
  have hingest {event : EventRow} {ledger : Ledger}
      (hnew : NewEvent lib cfg w channelId m now event ledger)
      (hundue : ¬ event.Due "discord" cfg.destinationId w.permissions) :
      FeedKept lib cfg served (w.write ledger) ∧
        FeedKept lib cfg served ((w.write ledger).moveCursor channelId m.id) := by
    obtain ⟨hkept,hheld⟩ := h.ingest hserved hnext (hsafe hnew.fresh).1 hnew (List.Subset.refl _)
      fun hevent => absurd hevent hundue
    exact ⟨hkept,hkept.move hserved hnext hheld⟩
  have hdue {event : EventRow} {ledger : Ledger}
      (hnew : NewEvent lib cfg w channelId m now event ledger)
      (hevent : event.Due "discord" cfg.destinationId w.permissions) :
      fate ∉ [.stored,.moved] ∧ ∃ signal', signal lib cfg event = .ok signal' := by
    obtain ⟨evaluation,heval,rfl⟩ := hnew.built
    exact (hsafe hnew.fresh).2.2 evaluation heval hevent
  cases hstep with
  | stopped => exact h
  | again existing go hexisting hhash => exact h.move hserved hnext ⟨existing,hexisting,hhash⟩
  | counted hvalid hfresh hfate =>
    rcases hfate with hfate | hnone | ⟨evaluation,-,hnone⟩
    · have hmentioned := (hsafe hfresh).2.1 hfate
      have hcounted : m.counted lib w.ledger now = w.ledger.countActor (m.actorKey lib) 0 0 now := by
        unfold DiscordMessage.counted
        rw [hmentioned]
        rfl
      rw [hcounted]
      exact ⟨h.ingested.countActor_zero _ _,h.keyed,h.passed⟩
    · obtain ⟨evaluation,heval⟩ := @evaluation_total lib m now cfg.policy w.ledger
      rw [hnone] at heval
      cases heval
    · obtain ⟨ledger,hins⟩ := h.inserts hfresh cfg.guildId evaluation
      rw [hnone] at hins
      cases hins
  | stored event ledger hnew hfate =>
    refine (hingest hnew fun hevent => ?_).1
    have hgone := (hdue hnew hevent).1
    rw [hfate] at hgone
    simp at hgone
  | quiet event ledger go hnew hquiet =>
    exact (hingest hnew fun hevent =>
      hquiet.elim hevent.1 fun hsurface => hsurface hevent.2.1).2
  | moved event ledger hnew hfate =>
    refine (hingest hnew fun hevent => ?_).2
    obtain ⟨hgone,signal',hsignal⟩ := hdue hnew hevent
    rcases hfate with hfate | ⟨-,-,e,herror⟩
    · rw [hfate] at hgone
      simp at hgone
    · rw [hsignal] at herror
      cases herror
  | refused event ledger marks go hnew hdenied hmarks =>
    have hundue : ¬ event.Due "discord" cfg.destinationId w.permissions := by
      intro hevent
      rw [hevent.2.2] at hdenied
      cases hdenied
    have hmoved := (hingest hnew hundue).2
    have hrefused : FeedKept lib cfg served (((w.write ledger).moveCursor channelId m.id).refuse
        event.actorKey "surface" event.eventKey now) :=
      ⟨hmoved.ingested.refuse _ _ _ _,hmoved.keyed,hmoved.passed⟩
    exact hrefused.mark hmarks
  | routed event ledger signal' marks go hnew hsurface hopen hsignal hmarks =>
    obtain ⟨hkept,hheld⟩ := h.ingest hserved hnext (hsafe hnew.fresh).1 hnew
      (List.subset_append_left _ [⟨signal',w.permissions⟩]) fun _ =>
        ⟨⟨signal',w.permissions⟩,List.mem_append_right _ (List.mem_singleton.mpr rfl),
          (buildSignal_ok hsignal).1⟩
    have hrouted : FeedKept lib cfg served { (w.write ledger).moveCursor channelId m.id with
        routed := w.routed ++ [⟨signal',w.permissions⟩] } := hkept.move hserved hnext hheld
    exact hrouted.mark hmarks

theorem reply (h : FeedKept lib cfg served w) (eventKey content replyId : String) (now : ℤ)
    (fate : ReplyFate) : FeedKept lib cfg served (w.reply lib eventKey content replyId now fate) := by
  unfold DiscordWorld.reply
  simp only
  split
  · exact h
  split
  · exact h
  split
  · exact ⟨h.ingested.refuse _ _ _ _,h.keyed,h.passed⟩
  split
  · exact h
  · exact h.frame (Ledger.SameEvents.sendReply lib _ _ _ _ _ _ _ _) _

theorem step (hserved : ChannelMessages lib served) (w w' : DiscordWorld)
    (h : FeedKept lib cfg served w) (hstep : SafeStep lib blockedId cfg served w w') :
    FeedKept lib cfg served w' := by
  obtain ⟨c,hsafe,rfl⟩ := hstep
  cases c with
  | message channelId m now fate =>
    change FeedKept lib cfg served (if cfg.enabled then
      (w.pollMessage lib blockedId cfg channelId m now fate).1 else w)
    split
    · exact message hserved h hsafe
    · exact h
  | updateLabels actorKey source add remove now =>
    have hsame : w.ledger.SameEvents ((w.ledger.updateLabels actorKey source add remove
        now).toOption.getD w.ledger) := by
      cases hlabels : w.ledger.updateLabels actorKey source add remove now with
      | error e => exact .refl _
      | ok s => exact .updateLabels hlabels
    exact h.frame hsame w.replies
  | addRule rule => exact hsafe.elim
  | removeRule ruleId => exact hsafe.elim
  | reply eventKey content replyId now fate => exact h.reply eventKey content replyId now fate

end FeedKept

section Polls

variable (lib : SocialLibrary) (blockedId : String → String) (cfg : DiscordConfig)
  (served : String → List DiscordMessage) (now : ℤ) (packet : String → String)

/-- The signal of a message can be built, also where a rule denies it: the bridge builds it before the
rules are asked. -/
def Builds (w : DiscordWorld) (channelId : String) (m : DiscordMessage) : Prop :=
  ∀ evaluation, m.evaluation lib cfg.policy w.ledger now = some evaluation →
    "surface" ∈ evaluation.allowedActions →
    ∃ signal', signal lib cfg (m.toEvent lib cfg.guildId channelId evaluation now) = .ok signal'

/-- The messages of a page that nothing ends, each of them safe in the state it is taken in. -/
def SafePage (channelId : String) (messages : List DiscordMessage) (w : DiscordWorld) : Prop :=
  Reaches.Good
    (fun w m => Call.Safe lib cfg served w (.message channelId m now (.completes (packet m.id))) ∧
      Builds lib cfg now w channelId m)
    (fun w m => (w.pollMessage lib blockedId cfg channelId m now (.completes (packet m.id))).1)
    messages w

/-- A page holds a hundred messages at most. -/
def servedPage (c : String) (cursor : Option String) : Option (List DiscordMessage) :=
  some ((behind (served c) cursor).take 100)

/-- The channels of a poll that nothing ends. -/
def SafeChannels (channels : List String) (w : DiscordWorld) : Prop :=
  Reaches.Good
    (fun w c => SafePage lib blockedId cfg served now packet c ((w.rest served c).take 100) w)
    (fun w c => (w.pollMessages lib blockedId cfg c now (fun id => .completes (packet id))
      ((w.rest served c).take 100)).1) channels w

variable {lib blockedId cfg served now packet}

namespace FeedKept

/-- A safe message that its poll gets through with is passed. -/
theorem gone (hserved : ChannelMessages lib served) (h : FeedKept lib cfg served w) {packetId : String}
    (hsafe : Call.Safe lib cfg served w (.message channelId m now (.completes packetId)))
    (hbuilds : Builds lib cfg now w channelId m) :
    (w.pollMessage lib blockedId cfg channelId m now (.completes packetId)).2 = true ∧
      (w.pollMessage lib blockedId cfg channelId m now (.completes packetId)).1.cursors =
        w.cursors.put channelId m.id := by
  obtain ⟨hnext,hsafe⟩ := hsafe
  have hmem := h.next hserved hnext
  have hstep := @pollMessage_step lib blockedId cfg w channelId m now (.completes packetId)
  generalize w.pollMessage lib blockedId cfg channelId m now (.completes packetId) = r at hstep
  have hmarked {w : DiscordWorld} {key : String} {marks : DiscordWorld → DiscordWorld}
      (hmarks : marks = id ∨ ∃ packetId, marks = fun w => w.markRouted key packetId) :
      (marks w).cursors = w.cursors := by
    rcases hmarks with rfl | ⟨_,rfl⟩ <;> rfl
  cases hstep with
  | stopped hstopped =>
    rcases hstopped with hfate | hinvalid | ⟨existing,hexisting,hbody | hfate | hfate⟩
    · cases hfate
    · exact absurd (hserved.valid _ m hmem) hinvalid
    · exact absurd (h.ingested.same_body hserved.one_body ⟨_,m,hmem,rfl,rfl⟩ hexisting) hbody
    · cases hfate
    · cases hfate
  | again existing go hexisting hhash hgo => exact ⟨hgo ⟨_,rfl⟩,rfl⟩
  | counted hvalid hfresh hfate =>
    rcases hfate with hfate | hnone | ⟨evaluation,-,hnone⟩
    · cases hfate
    · obtain ⟨evaluation,heval⟩ := @evaluation_total lib m now cfg.policy w.ledger
      rw [hnone] at heval
      cases heval
    · obtain ⟨ledger,hins⟩ := h.inserts hfresh cfg.guildId evaluation
      rw [hnone] at hins
      cases hins
  | stored event ledger hnew hfate => cases hfate
  | quiet event ledger go hnew hquiet hgo => exact ⟨hgo ⟨_,rfl⟩,rfl⟩
  | moved event ledger hnew hfate =>
    rcases hfate with hfate | ⟨hdestination,hsurface,e,herror⟩
    · cases hfate
    · obtain ⟨evaluation,heval,rfl⟩ := hnew.built
      obtain ⟨signal',hsignal⟩ := hbuilds evaluation heval hsurface
      rw [hsignal] at herror
      cases herror
  | refused event ledger marks go hnew hdenied hmarks hgo =>
    exact ⟨hgo ⟨_,rfl⟩,hmarked hmarks⟩
  | routed event ledger signal' marks go hnew hsurface hopen hsignal hmarks hgo =>
    exact ⟨hgo ⟨_,rfl⟩,hmarked hmarks⟩

/-- What is left of the other channels stays. -/
theorem rest_of_cursors {w' : DiscordWorld} (c : String)
    (hcursor : w'.cursors.get c = w.cursors.get c) : w'.rest served c = w.rest served c := by
  unfold DiscordWorld.rest
  rw [hcursor]

theorem page_gone (hserved : ChannelMessages lib served) (page : List DiscordMessage)
    {tail : List DiscordMessage} (w : DiscordWorld) (h : FeedKept lib cfg served w)
    (hpage : w.rest served channelId = page ++ tail)
    (hsafe : SafePage lib blockedId cfg served now packet channelId page w) :
    (w.pollMessages lib blockedId cfg channelId now (fun id => .completes (packet id)) page).2 = true ∧
      FeedKept lib cfg served
        (w.pollMessages lib blockedId cfg channelId now (fun id => .completes (packet id)) page).1 ∧
      ∀ c, (w.pollMessages lib blockedId cfg channelId now (fun id => .completes (packet id))
        page).1.rest served c = if c = channelId then tail else w.rest served c := by
  induction page generalizing w with
  | nil =>
    refine ⟨rfl,h,fun c => ?_⟩
    split
    · rename_i hc
      rw [hc]
      exact hpage
    · rfl
  | cons m page ih =>
    obtain ⟨⟨hmessage,hbuilds⟩,hrest⟩ := hsafe
    obtain ⟨hgo,hcursors⟩ := h.gone hserved hmessage hbuilds
    have hkept := @message lib blockedId cfg served w channelId m now _ hserved h hmessage
    obtain ⟨done,hsplit,-⟩ := h.split hserved channelId
    have hleft : (w.pollMessage lib blockedId cfg channelId m now
        (.completes (packet m.id))).1.rest served channelId = page ++ tail := by
      unfold DiscordWorld.rest
      rw [hcursors,Keyed.get_put,if_pos rfl]
      have hids := hserved.ids channelId
      rw [hpage] at hsplit
      have hfront : served channelId = (done ++ [m]) ++ (page ++ tail) := by
        rw [hsplit]
        simp
      rw [hfront] at hids ⊢
      have hbehind := behind_append hids
      rw [List.getLast?_append_cons] at hbehind
      exact hbehind
    obtain ⟨hdone,hall,hothers⟩ := ih _ hkept hleft hrest
    unfold pollMessages
    simp only [if_pos hgo]
    refine ⟨hdone,hall,fun c => ?_⟩
    rw [hothers]
    split
    · rfl
    · rename_i hc
      exact rest_of_cursors c (by rw [hcursors,Keyed.get_put,if_neg hc])

theorem channels_gone (hserved : ChannelMessages lib served) (channels : List String)
    (w : DiscordWorld) (h : FeedKept lib cfg served w)
    (hsafe : SafeChannels lib blockedId cfg served now packet channels w) :
    (w.pollChannels lib blockedId cfg (servedPage served) now (fun id => .completes (packet id))
        channels).2 = true ∧
      FeedKept lib cfg served (w.pollChannels lib blockedId cfg (servedPage served) now
        (fun id => .completes (packet id)) channels).1 ∧
      ∀ c, ∃ k, (c ∈ channels → 100 ≤ k) ∧
        (w.pollChannels lib blockedId cfg (servedPage served) now (fun id => .completes (packet id))
          channels).1.rest served c = (w.rest served c).drop k := by
  induction channels generalizing w with
  | nil => exact ⟨rfl,h,fun c => ⟨0,by simp,rfl⟩⟩
  | cons d channels ih =>
    obtain ⟨hpage,hrest⟩ := hsafe
    obtain ⟨hgo,hkept,hothers⟩ := page_gone hserved ((w.rest served d).take 100) w h
      (List.take_append_drop 100 _).symm hpage
    obtain ⟨hdone,hall,hleft⟩ := ih _ hkept hrest
    have hserve : servedPage served d (w.cursors.get d) = some ((w.rest served d).take 100) := rfl
    unfold pollChannels
    simp only [hserve,if_pos hgo]
    refine ⟨hdone,hall,fun c => ?_⟩
    obtain ⟨k,hk,hdrop⟩ := hleft c
    rw [hothers] at hdrop
    by_cases hc : c = d
    · subst hc
      rw [if_pos rfl,List.drop_drop] at hdrop
      exact ⟨100 + k,fun _ => by omega,hdrop⟩
    · rw [if_neg hc] at hdrop
      refine ⟨k,fun hin => ?_,hdrop⟩
      rcases List.mem_cons.mp hin with hsame | hin
      · exact absurd hsame hc
      · exact hk hin

/-- After a poll that nothing ends the messages of its pages are stored. -/
theorem drained (hserved : ChannelMessages lib served) (hen : cfg.enabled = true)
    (h : FeedKept lib cfg served w)
    (hsafe : SafeChannels lib blockedId cfg served now packet cfg.channelIds w) :
    (w.pollOnce lib blockedId cfg (servedPage served) now fun id => .completes (packet id)).2 = true ∧
      ∀ c ∈ cfg.channelIds, ∀ m ∈ served c, m ∈ (w.rest served c).drop 100 ∨
        (w.pollOnce lib blockedId cfg (servedPage served) now
          fun id => .completes (packet id)).1.ledger.Holds (m.eventKey lib) (m.bodyHash lib c) := by
  unfold pollOnce
  rw [if_pos hen]
  obtain ⟨hdone,hkept,hleft⟩ := channels_gone hserved cfg.channelIds w h hsafe
  refine ⟨hdone,fun c hc m hm => ?_⟩
  obtain ⟨k,hk,hdrop⟩ := hleft c
  obtain ⟨done,hsplit,-,hheld⟩ := hkept.split hserved c
  rw [hsplit,hdrop] at hm
  rcases List.mem_append.mp hm with hm | hm
  · exact Or.inr (hheld m hm)
  · have hmore : k = 100 + (k - 100) := by
      have := hk hc
      omega
    rw [hmore,← List.drop_drop] at hm
    exact Or.inl (List.mem_of_mem_drop hm)

end FeedKept

end Polls

end DiscordWorld

/-- In the runs of both adapters whose steps are safe, every message that is taken has its event, the
counters agree with the events, and every signal that is due was queued; and a poll that nothing ends
stores every message of the spool, and of the next hundred of each channel. -/
theorem ingestion_crash_safe (lib : SocialLibrary) :
    (∀ cfg files permissions, SpoolFiles lib cfg files → ∀ w,
      Reaches (LoopbackWorld.SafeStep lib cfg) (.spooled files permissions) w →
        w.SpoolKept lib cfg files ∧ ∀ now, cfg.enabled = true →
          LoopbackWorld.SafeFiles lib cfg now (sortedStrings (w.spool.map Prod.fst)) w →
            (w.pollOnce lib cfg now fun _ => .completes).2 = true ∧
              ∀ g ∈ files, (w.pollOnce lib cfg now fun _ => .completes).1.ledger.Holds
                (g.2.eventKey lib) (g.2.bodyHash lib)) ∧
    ∀ blockedId cfg served permissions, ChannelMessages lib served → ∀ w,
      Reaches (DiscordWorld.SafeStep lib blockedId cfg served) (.fresh permissions) w →
        w.FeedKept lib cfg served ∧ ∀ now packet, cfg.enabled = true →
          DiscordWorld.SafeChannels lib blockedId cfg served now packet cfg.channelIds w →
            (w.pollOnce lib blockedId cfg (DiscordWorld.servedPage served) now
              fun id => .completes (packet id)).2 = true ∧
              ∀ c ∈ cfg.channelIds, ∀ m ∈ served c, m ∈ (w.rest served c).drop 100 ∨
                (w.pollOnce lib blockedId cfg (DiscordWorld.servedPage served) now
                  fun id => .completes (packet id)).1.ledger.Holds (m.eventKey lib)
                    (m.bodyHash lib c) := by
  constructor
  · intro cfg files permissions hfiles w h
    have hkept := Reaches.invariant (LoopbackWorld.SpoolKept.step hfiles)
      (LoopbackWorld.SpoolKept.start permissions) h
    exact ⟨hkept,fun now hen hsafe => hkept.drained hfiles hen hsafe⟩
  · intro blockedId cfg served permissions hserved w h
    have hkept := Reaches.invariant (DiscordWorld.FeedKept.step hserved)
      (DiscordWorld.FeedKept.start permissions) h
    exact ⟨hkept,fun now packet hen hsafe => hkept.drained hserved hen hsafe⟩

section Sample

instance (adapter destination : String) (permissions : PermissionStore) (e : EventRow) :
    Decidable (e.Due adapter destination permissions) := inferInstanceAs (Decidable (_ ∧ _))

def sampleFiles : List (String × LoopbackMessage) := [("m-1.json",greeting)]

/-- One message in one channel. -/
def channelOf (m : DiscordMessage) (c : String) : List DiscordMessage := if c = "91" then [m] else []

def sampleChannels : String → List DiscordMessage := channelOf discordGreeting

theorem sampleFiles_spool : SpoolFiles plainSocial loopbackSample sampleFiles where
  names := by decide
  valid f hf := by
    obtain rfl := List.mem_singleton.mp hf
    exact ⟨by decide,by decide,by decide,by decide⟩
  bodies f hf g hg _ := by
    obtain rfl := List.mem_singleton.mp hf
    obtain rfl := List.mem_singleton.mp hg
    rfl

theorem sampleChannels_messages : ChannelMessages plainSocial sampleChannels := by
  have hone : ∀ c, ∀ m ∈ sampleChannels c, c = "91" ∧ m = discordGreeting := by
    intro c m hm
    unfold sampleChannels channelOf at hm
    split at hm
    · rename_i hc
      exact ⟨hc,List.mem_singleton.mp hm⟩
    · cases hm
  refine ⟨fun c => ?_,fun c m hm => ?_,fun c c' m m' hm hm' _ => ?_⟩
  · unfold sampleChannels channelOf
    split <;> simp
  · rw [(hone c m hm).2]
    decide +kernel
  · obtain ⟨rfl,rfl⟩ := hone c m hm
    obtain ⟨rfl,rfl⟩ := hone c' m' hm'
    rfl

def samplePacket (messageId : String) : String := messageId

def spooledSample : LoopbackWorld := .spooled sampleFiles .empty

/-- The signals of the two messages can be built. -/
theorem greetings_built :
    (greeting.evaluation plainSocial openPolicy .empty 1000).all (fun e =>
      (spooledSample.signal plainSocial loopbackSample
        (greeting.toEvent plainSocial e 1000)).toOption.isSome) = true ∧
    (discordGreeting.evaluation plainSocial openPolicy .empty 1000).all (fun e =>
      (DiscordWorld.signal plainSocial discordSample
        (discordGreeting.toEvent plainSocial "90" "91" e 1000)).toOption.isSome) = true := by
  decide +kernel

theorem greeting_safe {fate : LoopbackFate} (hfate : fate ∉ [.stopsStored,.unlinkFails,.stopsTaken]) :
    LoopbackWorld.Call.Safe plainSocial loopbackSample spooledSample (.file "m-1.json" 1000 fate) := by
  intro m evaluation hm _ heval _
  obtain rfl : greeting = m := Option.some.inj hm
  have hbuilt := greetings_built.1
  have hempty : greeting.evaluation plainSocial openPolicy .empty 1000 = some evaluation := heval
  rw [hempty,Option.all_some] at hbuilt
  obtain ⟨signal,hsignal⟩ := Option.isSome_iff_exists.mp hbuilt
  exact ⟨hfate,signal,toOption_eq_some.mp hsignal⟩

theorem discordGreeting_builds (evaluation : Evaluation)
    (heval : discordGreeting.evaluation plainSocial openPolicy .empty 1000 = some evaluation) :
    ∃ signal', DiscordWorld.signal plainSocial discordSample
      (discordGreeting.toEvent plainSocial "90" "91" evaluation 1000) = .ok signal' := by
  have hbuilt := greetings_built.2
  rw [heval,Option.all_some] at hbuilt
  obtain ⟨signal,hsignal⟩ := Option.isSome_iff_exists.mp hbuilt
  exact ⟨signal,toOption_eq_some.mp hsignal⟩

theorem discordGreeting_safe {fate : DiscordFate} (hfate : fate ∉ [.counted,.stored,.moved]) :
    DiscordWorld.Call.Safe plainSocial discordSample sampleChannels (.fresh .empty)
      (.message "91" discordGreeting 1000 fate) := by
  refine ⟨rfl,fun _ => ⟨rfl,fun hcounted => ?_,fun evaluation heval _ => ⟨?_,?_⟩⟩⟩
  · rw [hcounted] at hfate
    simp at hfate
  · exact fun hin => hfate (List.mem_cons_of_mem _ hin)
  · exact discordGreeting_builds evaluation heval

theorem sampleChannels_rest :
    (DiscordWorld.fresh .empty).rest sampleChannels "91" = [discordGreeting] := by
  have hserved : sampleChannels "91" = [discordGreeting] := by
    unfold sampleChannels channelOf
    exact if_pos rfl
  unfold DiscordWorld.rest
  rw [hserved]
  rfl

theorem sampleChannels_safe : DiscordWorld.SafeChannels plainSocial id discordSample sampleChannels
    1000 samplePacket discordSample.channelIds (.fresh .empty) := by
  have hbuilds : DiscordWorld.Builds plainSocial discordSample 1000 (.fresh .empty) "91"
      discordGreeting := fun evaluation heval _ => discordGreeting_builds evaluation heval
  refine ⟨?_,trivial⟩
  change DiscordWorld.SafePage plainSocial id discordSample sampleChannels 1000 samplePacket "91"
    (((DiscordWorld.fresh .empty).rest sampleChannels "91").take 100) _
  rw [sampleChannels_rest]
  exact ⟨⟨discordGreeting_safe (by decide),hbuilds⟩,trivial⟩

/-- A poll that ends at once, and one that nothing ends, of either adapter. -/
theorem ingestion_crash_safe_sample :
    (∀ g ∈ sampleFiles, (spooledSample.pollOnce plainSocial loopbackSample 1000
      fun _ => .completes).1.ledger.Holds (g.2.eventKey plainSocial) (g.2.bodyHash plainSocial)) ∧
    ∀ m ∈ sampleChannels "91", ((DiscordWorld.fresh .empty).pollOnce plainSocial id discordSample
      (DiscordWorld.servedPage sampleChannels) 1000 fun id => .completes (samplePacket id)).1.ledger.Holds
        (m.eventKey plainSocial) (m.bodyHash plainSocial "91") := by
  have hloopback : Reaches (LoopbackWorld.SafeStep plainSocial loopbackSample) spooledSample
      spooledSample :=
    .single ⟨.file "m-1.json" 1000 .stops,greeting_safe (by decide),rfl⟩
  have hdiscord : Reaches (DiscordWorld.SafeStep plainSocial id discordSample sampleChannels)
      (.fresh .empty) (.fresh .empty) :=
    .single ⟨.message "91" discordGreeting 1000 .stops,discordGreeting_safe (by decide),rfl⟩
  obtain ⟨hfirst,hsecond⟩ := ingestion_crash_safe plainSocial
  constructor
  · have hpolls := (hfirst loopbackSample sampleFiles .empty sampleFiles_spool _ hloopback).2
    exact (hpolls 1000 rfl ⟨greeting_safe (by decide),trivial⟩).2
  · have hpolls := (hsecond id discordSample sampleChannels .empty sampleChannels_messages _
      hdiscord).2
    intro m hm
    have hstored := (hpolls 1000 samplePacket rfl sampleChannels_safe).2 "91" (List.mem_singleton.mpr rfl) m hm
    rw [sampleChannels_rest] at hstored
    exact hstored.resolve_left (by simp)

/-- A poll ends after the file was taken away, and the next one finds nothing. -/
def lostLoopback : LoopbackWorld :=
  ((spooledSample.pollOnce plainSocial loopbackSample 1000 fun _ => .stopsTaken).1.pollOnce plainSocial
    loopbackSample 2000 fun _ => .completes).1

/-- A poll of a channel with one message that comes as far as `fate`, and one that nothing ends. -/
def twicePolled (m : DiscordMessage) (fate : DiscordFate) : DiscordWorld :=
  ((DiscordWorld.pollOnce plainSocial id discordSample (.fresh .empty)
    (DiscordWorld.servedPage (channelOf m)) 1000 fun _ => fate).1.pollOnce plainSocial id discordSample
      (DiscordWorld.servedPage (channelOf m)) 2000 fun id => .completes (samplePacket id)).1

theorem twicePolled_runs (m : DiscordMessage) (fate : DiscordFate) :
    Reaches (DiscordWorld.Step plainSocial id discordSample) (.fresh .empty) (twicePolled m fate) :=
  (DiscordWorld.pollOnce_runs _ _ _ _ _ _ _).trans (DiscordWorld.pollOnce_runs _ _ _ _ _ _ _)

/-- The mentions and the replies that an actor has by its counters, and by its events. -/
def counters (s : Ledger) (k : String) : (ℤ × ℤ) × ℕ × ℕ :=
  (((s.actors.get k).elim 0 ActorRow.mentionCount,(s.actors.get k).elim 0 ActorRow.replyCount),
    s.labelled k "interaction:mention",s.labelled k "interaction:reply")

/-- In each adapter a stored event is never queued; on Discord one mention is counted twice, and a
message that answers another is not counted. -/
theorem polls_lose :
    (¬ ∀ e ∈ lostLoopback.ledger.events.rows,
      e.Due "loopback" "person-1" lostLoopback.permissions →
        ∃ r ∈ lostLoopback.routed, r.signal.sourceEventId = e.eventKey) ∧
    (¬ ∀ e ∈ (twicePolled discordGreeting .moved).ledger.events.rows,
      e.Due "discord" "person-1" (twicePolled discordGreeting .moved).permissions →
        ∃ r ∈ (twicePolled discordGreeting .moved).routed,
          r.signal.sourceEventId = e.eventKey) ∧
    counters (twicePolled discordGreeting .counted).ledger (discordGreeting.actorKey plainSocial) =
      ((2,0),1,0) ∧
    counters (twicePolled { discordGreeting with referenced := true } .stops).ledger
      (discordGreeting.actorKey plainSocial) = ((1,0),1,1) := by
  decide +kernel

theorem counters_counted {s : Ledger} (h : s.Counted) {k : String} {mentions replies : ℤ} {n n' : ℕ}
    (hcounters : counters s k = ((mentions,replies),n,n')) :
    mentions = min 10000 (n : ℤ) ∧ replies = min 10000 (n' : ℤ) := by
  simp only [counters,Prod.mk.injEq] at hcounters
  obtain ⟨⟨hmentions,hreplies⟩,hn,hn'⟩ := hcounters
  exact ⟨hmentions ▸ hn ▸ h.mentions k,hreplies ▸ hn' ▸ h.replies k⟩

/-- Four runs that lose something: in each adapter a poll ends before the signal of a stored event
is queued, and no later poll queues it; a Discord poll ends after an actor was counted, and the next one
counts it again; and an answer on Discord is not counted, whatever happens. -/
theorem ingestion_crash_unsafe :
    (∃ w, Reaches (LoopbackWorld.Step plainSocial loopbackSample) spooledSample w ∧
      ¬ ∀ e ∈ w.ledger.events.rows, e.Due "loopback" "person-1" w.permissions →
        ∃ r ∈ w.routed, r.signal.sourceEventId = e.eventKey) ∧
    (∃ w, Reaches (DiscordWorld.Step plainSocial id discordSample) (.fresh .empty) w ∧
      ¬ ∀ e ∈ w.ledger.events.rows, e.Due "discord" "person-1" w.permissions →
        ∃ r ∈ w.routed, r.signal.sourceEventId = e.eventKey) ∧
    ¬ (twicePolled discordGreeting .counted).ledger.Counted ∧
    ¬ (twicePolled { discordGreeting with referenced := true } .stops).ledger.Counted := by
  have hlost : Reaches (LoopbackWorld.Step plainSocial loopbackSample) spooledSample lostLoopback :=
    (LoopbackWorld.pollOnce_runs _ _ _ _ _).trans (LoopbackWorld.pollOnce_runs _ _ _ _ _)
  obtain ⟨hloopback,hdiscord,htwice,hanswer⟩ := polls_lose
  refine ⟨⟨_,hlost,hloopback⟩,⟨_,twicePolled_runs _ _,hdiscord⟩,fun h => ?_,fun h => ?_⟩
  · have hcounted := (counters_counted h htwice).1
    omega
  · have hcounted := (counters_counted h hanswer).2
    omega

end Sample

end Anet.Amesh
