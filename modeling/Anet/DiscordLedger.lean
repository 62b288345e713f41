import Anet.DiscordSocial
import Anet.Transition

/-! The writes of the Discord bridge: each of them keeps the counters, the keys of the events and
what the queued signals say. -/
namespace Anet

namespace Social

/-- What a stored event has added to a counter. -/
def EventBody.amount (e : EventBody) : Counter → ℕ
  | .mention => if "interaction:mention" ∈ e.labels then 1 else 0
  | .reply => if "interaction:reply" ∈ e.labels then 1 else 0
  | .reaction => e.reactionCount
  | .pinned => if "event:pinned" ∈ e.labels then 1 else 0

theorem mem_eventLabels (m : DiscordMessage) (botUserId : ℕ) (l : String) :
    l ∈ m.eventLabels botUserId ↔ l = "platform:discord" ∨
      m.mentionsBot botUserId = true ∧ l = "interaction:mention" ∨
      m.repliesToBot botUserId = true ∧ l = "interaction:reply" ∨
      m.authorBot = true ∧ l = "actor:bot" ∨ m.webhook = true ∧ l = "actor:webhook" ∨
      m.mentionEveryone = true ∧ l = "event:mass-mention" ∨
      m.pinned = true ∧ l = "event:pinned" ∨ 0 < m.attachments ∧ l = "content:attachment" := by
  unfold DiscordMessage.eventLabels sortedStrings
  rw [List.mem_insertionSort]
  simp only [List.mem_append,List.mem_ite_nil_right,List.mem_singleton,or_assoc]

theorem amount_body (lib : SocialLibrary) (cfg : SocialConfig) (m : DiscordMessage) (channelId : ℕ)
    (c : Counter) : (m.body lib cfg channelId).amount c = m.amount cfg.botUserId c := by
  cases c <;> simp [EventBody.amount,DiscordMessage.body,DiscordMessage.amount,mem_eventLabels]

theorem amount_le (m : DiscordMessage) (botUserId : ℕ) (c : Counter) :
    m.amount botUserId c ≤ c.maximum := by
  cases c with
  | mention =>
    change (if m.mentionsBot botUserId then 1 else 0) ≤ 10000
    split <;> omega
  | reply =>
    change (if m.repliesToBot botUserId then 1 else 0) ≤ 10000
    split <;> omega
  | reaction => exact Nat.min_le_right _ _
  | pinned =>
    change (if m.pinned then 1 else 0) ≤ 10000
    split <;> omega

namespace Bridge

/-- A counter of an actor, zero when the actor is not known. -/
def count (b : Bridge) (actorKey : String) (c : Counter) : ℕ :=
  ((b.store.actors.get actorKey).map fun r => r.counts c).getD 0

/-- What the stored events of an actor have added to a counter. -/
def contributed (b : Bridge) (actorKey : String) (c : Counter) : ℕ :=
  b.store.events.total fun e => if e.body.actorKey = actorKey then e.body.amount c else 0

variable {lib : SocialLibrary} {cfg : SocialConfig} {b b' : Bridge}

/-- What holds of the store and the queued signals after each write. -/
structure Recorded (lib : SocialLibrary) (b : Bridge) : Prop where
  counted : ∀ a c, b.count a c = min c.maximum (b.contributed a c)
  keyed : ∀ k e, b.store.events.get k = some e →
    k = lib.eventKey e.body.channelId e.body.messageId e.body.revision
  routed : ∀ k e, b.store.events.get k = some e → e.routedPacketId ≠ "" →
    ∃ s ∈ b.queued, s.sourceEventId = k
  signals : ∀ s ∈ b.queued, ∃ e, b.store.events.get s.sourceEventId = some e ∧
    s.signalId = lib.signalId s.sourceEventId e.body.actorKey e.evaluation e.body.revision

/-- A write of the bridge for a message, the cursor apart. -/
inductive Write (lib : SocialLibrary) (cfg : SocialConfig) (channelId : ℕ) (m : DiscordMessage) :
    Bridge → Bridge → Prop
  | insert (b : Bridge) (now : ℤ)
      (hnew : b.store.events.get (lib.eventKey channelId m.id m.revision) = none) :
      Write lib cfg channelId m b { b with store := (b.store.insertEvent lib cfg m channelId now).2 }
  | queue (b : Bridge) (e : SocialEvent) (s : DiscordSignal)
      (he : b.store.events.get s.sourceEventId = some e)
      (hs : s.signalId = lib.signalId s.sourceEventId e.body.actorKey e.evaluation e.body.revision) :
      Write lib cfg channelId m b { b with queued := b.queued ++ [s] }
  | route (b : Bridge) (k packetId : String) (e : SocialEvent)
      (he : b.store.events.get k = some e) (hqueued : ∃ s ∈ b.queued, s.sourceEventId = k) :
      Write lib cfg channelId m b { b with store := { b.store with
        events := b.store.events.put k { e with routedPacketId := packetId } } }

/-- What later states keep. -/
structure Extends (b b' : Bridge) : Prop where
  events : ∀ k e, b.store.events.get k = some e → ∃ e', b'.store.events.get k = some e' ∧
    e'.body = e.body ∧ e'.evaluation = e.evaluation
  queued : b.queued <+: b'.queued
  cursors : ∀ c v, b.store.cursors.get c = some v → ∃ v', b'.store.cursors.get c = some v' ∧ v ≤ v'
  labels : b'.store.labels = b.store.labels

theorem Extends.refl (b : Bridge) : Extends b b :=
  ⟨fun _ e he => ⟨e,he,rfl,rfl⟩,List.prefix_rfl,fun _ v hv => ⟨v,hv,le_rfl⟩,rfl⟩

theorem Extends.trans {b'' : Bridge} (h : Extends b b') (h' : Extends b' b'') : Extends b b'' := by
  refine ⟨fun k e he => ?_,h.queued.trans h'.queued,fun c v hv => ?_,h'.labels.trans h.labels⟩
  · obtain ⟨x,hx,hbody,hevaluation⟩ := h.events k e he
    obtain ⟨y,hy,hbody',hevaluation'⟩ := h'.events k x hx
    exact ⟨y,hy,hbody'.trans hbody,hevaluation'.trans hevaluation⟩
  · obtain ⟨x,hx,hle⟩ := h.cursors c v hv
    obtain ⟨y,hy,hle'⟩ := h'.cursors c x hx
    exact ⟨y,hy,hle.trans hle'⟩

variable {channelId : ℕ} {m : DiscordMessage}

theorem Write.extends (h : Write lib cfg channelId m b b') : Extends b b' := by
  cases h with
  | insert now hnew =>
    refine ⟨fun k e he => ⟨e,?_,rfl,rfl⟩,List.prefix_rfl,fun _ v hv => ⟨v,hv,le_rfl⟩,rfl⟩
    have hne : k ≠ lib.eventKey channelId m.id m.revision := by
      rintro rfl
      rw [hnew] at he
      cases he
    exact (Keyed.get_put _ _ _ _).trans ((if_neg hne).trans he)
  | queue e s he hs =>
    exact ⟨fun _ e he => ⟨e,he,rfl,rfl⟩,List.prefix_append _ _,fun _ v hv => ⟨v,hv,le_rfl⟩,rfl⟩
  | route k packetId e he hqueued =>
    refine ⟨fun l x hx => ?_,List.prefix_rfl,fun _ v hv => ⟨v,hv,le_rfl⟩,rfl⟩
    by_cases hl : l = k
    · subst hl
      cases Option.mem_unique hx he
      exact ⟨_,(Keyed.get_put _ _ _ _).trans (if_pos rfl),rfl,rfl⟩
    · exact ⟨x,(Keyed.get_put _ _ _ _).trans ((if_neg hl).trans hx),rfl,rfl⟩

/-- The counters after a new event are those of the events with it. -/
theorem counted_insert (hb : Recorded lib b) {now : ℤ}
    (hnew : b.store.events.get (lib.eventKey channelId m.id m.revision) = none)
    (hb' : b' = { b with store := (b.store.insertEvent lib cfg m channelId now).2 }) (a : String)
    (c : Counter) : b'.count a c = min c.maximum (b'.contributed a c) := by
  subst hb'
  have hold := hb.counted a c
  have htotal := b.store.events.total_put (lib.eventKey channelId m.id m.revision)
    (b.store.insertEvent lib cfg m channelId now).1
    (fun e => if e.body.actorKey = a then e.body.amount c else 0)
  rw [hnew] at htotal
  have hbody : (b.store.insertEvent lib cfg m channelId now).1.body = m.body lib cfg channelId := rfl
  have hactor : (m.body lib cfg channelId).actorKey = lib.actorKey m.authorId := rfl
  have hamount := amount_body lib cfg m channelId c
  have hle := amount_le m cfg.botUserId c
  simp only [hbody,hactor,hamount,Option.map_none,Option.getD_none,Nat.add_zero] at htotal
  change ((((b.store.actors.put (lib.actorKey m.authorId)
    (b.store.countedRow m (lib.actorKey m.authorId) cfg.botUserId)).get a).map
      fun r => r.counts c).getD 0) = min c.maximum ((b.store.events.put _
        (b.store.insertEvent lib cfg m channelId now).1).total _)
  rw [htotal,Keyed.get_put]
  by_cases ha : a = lib.actorKey m.authorId
  · subst ha
    rw [if_pos rfl,if_pos rfl]
    change (b.store.countedRow m (lib.actorKey m.authorId) cfg.botUserId).counts c = _
    change (((b.store.actors.get (lib.actorKey m.authorId)).map fun r => r.counts c).getD 0) =
      min c.maximum (b.store.events.total _) at hold
    unfold SocialStore.countedRow
    cases hrow : b.store.actors.get (lib.actorKey m.authorId) with
    | none =>
      rw [hrow] at hold
      simp only [Option.map_none,Option.getD_none] at hold ⊢
      omega
    | some row =>
      rw [hrow] at hold
      simp only [Option.map_some,Option.getD_some] at hold ⊢
      omega
  · rw [if_neg ha,if_neg (Ne.symm ha),Nat.add_zero]
    exact hold

theorem Write.recorded (h : Write lib cfg channelId m b b') (hb : Recorded lib b) :
    Recorded lib b' := by
  have hextends := h.extends
  have hsignals : ∀ s ∈ b.queued, ∃ e, b'.store.events.get s.sourceEventId = some e ∧
      s.signalId = lib.signalId s.sourceEventId e.body.actorKey e.evaluation e.body.revision := by
    intro s hs
    obtain ⟨e,he,hid⟩ := hb.signals s hs
    obtain ⟨e',he',hbody,hevaluation⟩ := hextends.events _ e he
    exact ⟨e',he',by rw [hid,hbody,hevaluation]⟩
  cases h with
  | insert now hnew =>
    have hget : ∀ k e, (b.store.insertEvent lib cfg m channelId now).2.events.get k = some e →
        (k = lib.eventKey channelId m.id m.revision ∧
          e = (b.store.insertEvent lib cfg m channelId now).1) ∨ b.store.events.get k = some e := by
      intro k e he
      have hput := (Keyed.get_put _ _ _ k).symm.trans he
      split at hput
      · next heq =>
        cases hput
        exact .inl ⟨heq,rfl⟩
      · exact .inr hput
    refine ⟨fun a c => counted_insert hb hnew rfl a c,fun k e he => ?_,fun k e he hrouted => ?_,hsignals⟩
    · rcases hget k e he with ⟨rfl,rfl⟩ | hold
      · rfl
      · exact hb.keyed k e hold
    · rcases hget k e he with ⟨rfl,rfl⟩ | hold
      · exact absurd rfl hrouted
      · exact hb.routed k e hold hrouted
  | queue e s he hs =>
    refine ⟨hb.counted,hb.keyed,fun k e he hrouted => ?_,fun x hx => ?_⟩
    · obtain ⟨x,hx,hk⟩ := hb.routed k e he hrouted
      exact ⟨x,List.mem_append_left _ hx,hk⟩
    · rcases List.mem_append.mp hx with hx | hx
      · exact hsignals x hx
      · cases List.mem_singleton.mp hx
        exact ⟨e,he,hs⟩
  | route k packetId e he hqueued =>
    have hget : ∀ l x, (b.store.events.put k { e with routedPacketId := packetId }).get l = some x →
        (l = k ∧ x = { e with routedPacketId := packetId }) ∨ b.store.events.get l = some x := by
      intro l x hx
      rw [Keyed.get_put] at hx
      split at hx
      · next heq =>
        cases hx
        exact .inl ⟨heq,rfl⟩
      · exact .inr hx
    refine ⟨fun a c => ?_,fun l x hx => ?_,fun l x hx hrouted => ?_,hsignals⟩
    · have htotal := b.store.events.total_put k { e with routedPacketId := packetId }
        (fun e => if e.body.actorKey = a then e.body.amount c else 0)
      rw [he] at htotal
      simp only [Option.map_some,Option.getD_some,Nat.add_right_cancel_iff] at htotal
      have hold := hb.counted a c
      change b.count a c = min c.maximum ((b.store.events.put k _).total _)
      rw [htotal]
      exact hold
    · rcases hget l x hx with ⟨rfl,rfl⟩ | hold
      · exact hb.keyed l e he
      · exact hb.keyed l x hold
    · rcases hget l x hx with ⟨rfl,-⟩ | hold
      · exact hqueued
      · exact hb.routed l x hold hrouted

end Bridge
end Social
end Anet
