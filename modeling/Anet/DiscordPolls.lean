import Anet.DiscordLedger

/-! Polls of the Discord bridge over crashes and failures: the cursor of a channel passes a message
only when that is settled, and a poll that meets nothing bad reaches the newest messages. -/
namespace Anet.Social

/-- A fate without failure. -/
def Fate.Good (f : Fate) : Prop :=
  ∃ packetId, f = .completes packetId ∧ isHex 32 (lower (strip packetId)) = true

namespace Bridge

variable {lib : SocialLibrary} {cfg : SocialConfig} {b b' : Bridge} {channelId : ℕ}
  {m : DiscordMessage}

/-- A message that the cursor may pass: the bot's own, or one with a stored event, whose signal was
queued if it surfaces and there is a destination. -/
def Passed (cfg : SocialConfig) (b : Bridge) (channelId : ℕ) (messageId authorId : ℕ) : Prop :=
  authorId = cfg.botUserId ∨ ∃ k e, b.store.events.get k = some e ∧ e.body.channelId = channelId ∧
    e.body.messageId = messageId ∧ (cfg.destinationNodeId ≠ "" →
      "surface" ∈ e.evaluation.allowedActions → ∃ s ∈ b.queued, s.sourceEventId = k)

theorem Extends.passed (h : Extends b b') {messageId authorId : ℕ}
    (hp : Passed cfg b channelId messageId authorId) :
    Passed cfg b' channelId messageId authorId := by
  rcases hp with hown | ⟨k,e,he,hchannel,hmessage,hqueued⟩
  · exact .inl hown
  · obtain ⟨e',he',hbody,hevaluation⟩ := h.events k e he
    refine .inr ⟨k,e',he',by rw [hbody,hchannel],by rw [hbody,hmessage],fun hdest hsurface => ?_⟩
    rw [hevaluation] at hsurface
    obtain ⟨s,hs,hk⟩ := hqueued hdest hsurface
    exact ⟨s,h.queued.subset hs,hk⟩

/-- The events that the writes for a message leave: old ones, and the one of the message. -/
def OnlyEvent (lib : SocialLibrary) (cfg : SocialConfig) (channelId : ℕ) (m : DiscordMessage)
    (b b' : Bridge) : Prop :=
  ∀ k e, b'.store.events.get k = some e →
    (∃ e0, b.store.events.get k = some e0 ∧ e.body = e0.body) ∨
      (k = lib.eventKey channelId m.id m.revision ∧ e.body = m.body lib cfg channelId)

theorem Write.onlyEvent (h : Write lib cfg channelId m b b') : OnlyEvent lib cfg channelId m b b' := by
  intro k x hx
  cases h with
  | insert now hnew =>
    have hput := (Keyed.get_put _ _ _ k).symm.trans hx
    split at hput
    · next heq =>
      cases hput
      exact .inr ⟨heq,rfl⟩
    · exact .inl ⟨x,hput,rfl⟩
  | queue e s he hs => exact .inl ⟨x,hx,rfl⟩
  | route l packetId e he hqueued =>
    have hput := (Keyed.get_put _ _ _ k).symm.trans hx
    split at hput
    · next heq =>
      cases hput
      exact .inl ⟨e,heq ▸ he,rfl⟩
    · exact .inl ⟨x,hput,rfl⟩

/-- What the writes for a message do, in a row. -/
structure Worked (lib : SocialLibrary) (cfg : SocialConfig) (channelId : ℕ) (m : DiscordMessage)
    (b b' : Bridge) : Prop where
  recorded : Recorded lib b'
  grown : Extends b b'
  only : OnlyEvent lib cfg channelId m b b'
  cursors : b'.store.cursors = b.store.cursors

theorem Worked.refl (hb : Recorded lib b) : Worked lib cfg channelId m b b :=
  ⟨hb,.refl b,fun _ e he => .inl ⟨e,he,rfl⟩,rfl⟩

theorem Write.cursors (h : Write lib cfg channelId m b b') :
    b'.store.cursors = b.store.cursors := by
  cases h <;> rfl

theorem Worked.write {b'' : Bridge} (h : Worked lib cfg channelId m b b')
    (hw : Write lib cfg channelId m b' b'') : Worked lib cfg channelId m b b'' := by
  refine ⟨hw.recorded h.recorded,h.grown.trans hw.extends,fun k e he => ?_,
    hw.cursors.trans h.cursors⟩
  rcases hw.onlyEvent k e he with ⟨x,hx,hbody⟩ | hnew
  · rcases h.only k x hx with ⟨y,hy,hbody'⟩ | ⟨hk,hbody'⟩
    · exact .inl ⟨y,hy,hbody.trans hbody'⟩
    · exact .inr ⟨hk,hbody.trans hbody'⟩
  · exact .inr hnew

/-- The conditions under which a message goes through, unless it is the bot's own: it is in the form
that the bridge takes, its event, if it is stored, was made from the same digest, and its signal has
not too many labels. -/
structure Sound (lib : SocialLibrary) (cfg : SocialConfig) (b : Bridge) (channelId : ℕ)
    (m : DiscordMessage) : Prop where
  channel : m.channelId = channelId
  checked : m.authorId ≠ cfg.botUserId → m.check cfg = .ok ()
  unchanged : m.authorId ≠ cfg.botUserId → ∀ e,
    b.store.events.get (lib.eventKey channelId m.id m.revision) = some e →
      e.body = m.body lib cfg channelId
  labels : m.authorId ≠ cfg.botUserId → cfg.destinationNodeId ≠ "" →
    (m.eventLabels cfg.botUserId ++ b.store.labels (lib.actorKey m.authorId)).dedup.length ≤ 32

/-- The ways a message of a poll ends: it stops the poll, or it is settled and the cursor passes. -/
theorem ingest_worked {now : ℤ} {event : Option SocialEvent} {store : SocialStore}
    (hb : Recorded lib b) (h : b.store.ingestMessage lib cfg m channelId now = .ok (event,store)) :
    Worked lib cfg channelId m b { b with store := store } ∧
      (event = none → m.authorId = cfg.botUserId) ∧ ∀ e ∈ event, m.authorId ≠ cfg.botUserId ∧
        store.events.get (lib.eventKey channelId m.id m.revision) = some e ∧
          e.body = m.body lib cfg channelId := by
  simp only [SocialStore.ingestMessage,bind_ok,raiseIf_ok] at h
  obtain ⟨-,-,h⟩ := h
  split at h
  · next hown =>
    cases h
    exact ⟨.refl hb,fun _ => hown,by simp⟩
  · next hforeign =>
    simp only [bind_ok] at h
    obtain ⟨-,-,h⟩ := h
    split at h
    · next existing hget =>
      simp only [bind_ok,raiseIf_ok,not_not,ne_eq] at h
      obtain ⟨-,hbody,h⟩ := h
      cases h
      refine ⟨.refl hb,by simp,fun e he => ?_⟩
      cases he
      exact ⟨hforeign,hget,hbody⟩
    · next hnew =>
      cases h
      refine ⟨(Worked.refl hb).write (.insert b now hnew),by simp,fun e he => ?_⟩
      cases he
      exact ⟨hforeign,(Keyed.get_put _ _ _ _).trans (if_pos rfl),rfl⟩

theorem ingest_total (hsound : Sound lib cfg b channelId m) (now : ℤ) :
    ∃ r, b.store.ingestMessage lib cfg m channelId now = .ok r := by
  unfold SocialStore.ingestMessage
  rw [show raiseIf (m.channelId ≠ channelId)
    (.value "Discord message channel does not match poll scope") = .ok () from
      if_neg (by simp [hsound.channel])]
  by_cases hown : m.authorId = cfg.botUserId
  · exact ⟨_,if_pos hown⟩
  · refine Exists.imp (fun r hr => (if_neg hown).trans hr) ?_
    rw [hsound.checked hown]
    cases hget : b.store.events.get (lib.eventKey channelId m.id m.revision) with
    | none => exact ⟨_,rfl⟩
    | some existing =>
      have hbody := hsound.unchanged hown existing hget
      exact ⟨(some existing,b.store),by simp [bind,Except.bind,raiseIf,hbody,pure,Except.pure]⟩

theorem buildSignal_signal {k : String} {e : SocialEvent} {actorLabels : List String} {now : ℤ}
    {s : DiscordSignal} (h : buildSignal lib cfg k e actorLabels now = .ok s) :
    s.sourceEventId = k ∧
      s.signalId = lib.signalId k e.body.actorKey e.evaluation e.body.revision := by
  simp only [buildSignal,bind_ok] at h
  obtain ⟨-,-,h⟩ := h
  cases h
  exact ⟨rfl,rfl⟩

theorem buildSignal_total (lib : SocialLibrary) (cfg : SocialConfig) (k : String) {e : SocialEvent}
    (actorLabels : List String) (now : ℤ) (h : (e.body.labels ++ actorLabels).dedup.length ≤ 32) :
    ∃ s, buildSignal lib cfg k e actorLabels now = .ok s := by
  have hcheck : ¬ 32 < (sortedStrings (e.body.labels ++ actorLabels).dedup).length := by
    rw [sortedStrings,List.length_insertionSort]
    omega
  simp [buildSignal,raiseIf,hcheck,bind,Except.bind,pure,Except.pure]

theorem markRouted_worked {b0 : Bridge} {k packetId : String} {store : SocialStore} {e : SocialEvent}
    (hw : Worked lib cfg channelId m b b0) (he : b0.store.events.get k = some e)
    (hqueued : ∃ s ∈ b0.queued, s.sourceEventId = k) (h : b0.store.markRouted k packetId = .ok store) :
    Worked lib cfg channelId m b { b0 with store := store } := by
  simp only [SocialStore.markRouted,bind_ok] at h
  obtain ⟨-,-,h⟩ := h
  rw [he] at h
  simp only at h
  split at h
  · cases h
    exact hw.write (.route b0 k _ e he hqueued)
  · simp only [bind_ok] at h
    obtain ⟨-,-,h⟩ := h
    cases h
    exact hw

/-- The end of a message in a poll: it stops the poll, or it is settled and the cursor passes it. -/
def Ended (lib : SocialLibrary) (cfg : SocialConfig) (channelId : ℕ) (m : DiscordMessage) (b : Bridge)
    (r : Bridge × Bool) : Prop :=
  ∃ b0, Worked lib cfg channelId m b b0 ∧ (r = (b0,false) ∨
    r = (b0.advance channelId m.id,true) ∧ Passed cfg b0 channelId m.id m.authorId)

theorem route_ended {b0 : Bridge} {k packetId : String} {crashes : Bool} {e : SocialEvent}
    (hw : Worked lib cfg channelId m b b0) (he : b0.store.events.get k = some e)
    (hqueued : ∃ s ∈ b0.queued, s.sourceEventId = k) (hbody : e.body = m.body lib cfg channelId) :
    Ended lib cfg channelId m b (b0.route channelId m.id k packetId crashes) := by
  unfold route
  split
  · exact ⟨b0,hw,.inl rfl⟩
  · next store hstore =>
    have hrouted := markRouted_worked hw he hqueued hstore
    split
    · exact ⟨_,hrouted,.inl rfl⟩
    · refine ⟨_,hrouted,.inr ⟨rfl,.inr ?_⟩⟩
      obtain ⟨e',he',hbody',-⟩ := (markRouted_worked (.refl hw.recorded) he hqueued hstore :
        Worked lib cfg channelId m b0 _).grown.events k e he
      exact ⟨k,e',he',congrArg EventBody.channelId (hbody'.trans hbody),
        congrArg EventBody.messageId (hbody'.trans hbody),fun _ _ => hqueued⟩

theorem handle_ended {b0 : Bridge} {event : Option SocialEvent} {now : ℤ} {fate : Fate}
    (hw : Worked lib cfg channelId m b b0) (hown : event = none → m.authorId = cfg.botUserId)
    (hevent : ∀ e ∈ event, m.authorId ≠ cfg.botUserId ∧
      b0.store.events.get (lib.eventKey channelId m.id m.revision) = some e ∧
        e.body = m.body lib cfg channelId) :
    Ended lib cfg channelId m b (b0.handle lib cfg channelId m event now fate) := by
  unfold handle
  split
  · exact ⟨b0,hw,.inr ⟨rfl,.inl (hown rfl)⟩⟩
  · next e =>
    obtain ⟨hforeign,he,hbody⟩ := hevent e rfl
    split
    · next hsettled =>
      refine ⟨b0,hw,.inr ⟨rfl,.inr ⟨_,e,he,congrArg EventBody.channelId hbody,
        congrArg EventBody.messageId hbody,fun hdest hsurface => ?_⟩⟩⟩
      simp only [settled,Bool.or_eq_true,decide_eq_true_eq] at hsettled
      rcases hsettled with (hnone | hhidden) | hrouted
      · exact absurd hnone hdest
      · exact absurd hsurface hhidden
      · exact hw.recorded.routed _ e he hrouted
    · split
      · exact ⟨b0,hw,.inl rfl⟩
      · next signal hsignal =>
        obtain ⟨hsource,hid⟩ := buildSignal_signal hsignal
        have hqueue : Worked lib cfg channelId m b { b0 with queued := b0.queued ++ [signal] } :=
          hw.write (.queue b0 e signal (hsource ▸ he) (hsource.symm ▸ hid))
        have hqueued : ∃ s ∈ b0.queued ++ [signal],
            s.sourceEventId = lib.eventKey channelId m.id m.revision :=
          ⟨signal,by simp,hsource⟩
        cases fate with
        | crashBefore | crashIngested | queueFails => exact ⟨b0,hw,.inl rfl⟩
        | crashQueued => exact ⟨_,hqueue,.inl rfl⟩
        | crashRouted packetId | completes packetId =>
          simp only [deliver]
          exact route_ended hqueue he hqueued hbody

theorem pollMessage_ended (hb : Recorded lib b) (now : ℤ) (fate : Fate) :
    Ended lib cfg channelId m b (b.pollMessage lib cfg channelId m now fate) := by
  unfold pollMessage
  split
  · exact ⟨b,.refl hb,.inl rfl⟩
  · split
    · exact ⟨b,.refl hb,.inl rfl⟩
    · next event store hingest =>
      obtain ⟨hw,hown,hevent⟩ := ingest_worked hb hingest
      simp only
      split
      · exact ⟨_,hw,.inl rfl⟩
      · exact handle_ended hw hown hevent

theorem markRouted_total {s : SocialStore} {k packetId : String} {e : SocialEvent}
    (he : s.events.get k = some e) (hopen : e.routedPacketId = "")
    (hhex : isHex 32 (lower (strip packetId)) = true) : ∃ r, s.markRouted k packetId = .ok r := by
  have hcheck : raiseIf (¬ isHex 32 (lower (strip packetId)) = true)
      (.value "invalid routed packet ID") = .ok () := if_neg (not_not.mpr hhex)
  unfold SocialStore.markRouted
  rw [hcheck,he]
  simp only [bind,Except.bind,if_pos hopen]
  exact ⟨_,rfl⟩

theorem route_completes {k packetId : String} {e : SocialEvent} (he : b.store.events.get k = some e)
    (hopen : e.routedPacketId = "") (hhex : isHex 32 (lower (strip packetId)) = true) {messageId : ℕ} :
    (b.route channelId messageId k packetId false).2 = true := by
  have hmark := markRouted_total (s := b.store) he hopen hhex
  cases hmark with
  | intro store hmark =>
    unfold route
    rw [hmark]
    rfl

/-- A sound message goes through when nothing fails. -/
theorem pollMessage_completes (hb : Recorded lib b) (hsound : Sound lib cfg b channelId m) (now : ℤ)
    {fate : Fate} (hfate : fate.Good) :
    (b.pollMessage lib cfg channelId m now fate).2 = true := by
  obtain ⟨packetId,rfl,hhex⟩ := hfate
  obtain ⟨⟨event,store⟩,hingest⟩ := ingest_total hsound now
  obtain ⟨hw,-,hevent⟩ := ingest_worked hb hingest
  unfold pollMessage
  rw [if_neg (by simp),hingest]
  simp only
  rw [if_neg (by simp)]
  unfold handle
  split
  · rfl
  · next e =>
    obtain ⟨hforeign,he,hbody⟩ := hevent e rfl
    split
    · rfl
    · next hopen =>
      simp only [settled,Bool.or_eq_true,decide_eq_true_eq,not_or,not_not] at hopen
      obtain ⟨⟨hdest,hsurface⟩,hunrouted⟩ := hopen
      have hfew := hsound.labels hforeign hdest
      have hlabels : e.body.labels = m.eventLabels cfg.botUserId := congrArg EventBody.labels hbody
      have hactor : e.body.actorKey = lib.actorKey m.authorId := congrArg EventBody.actorKey hbody
      have hkept : store.labels = b.store.labels := hw.grown.labels
      have hbounded : (e.body.labels ++ store.labels e.body.actorKey).dedup.length ≤ 32 := by
        rw [hlabels,hactor,hkept]
        exact hfew
      obtain ⟨signal,hsignal⟩ := buildSignal_total lib cfg
        (lib.eventKey channelId m.id m.revision) (store.labels e.body.actorKey) now hbounded
      simp only [hsignal,deliver]
      exact route_completes he hunrouted hhex

end Bridge
end Anet.Social
