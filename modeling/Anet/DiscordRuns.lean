import Anet.DiscordChannels

/-! Runs of the Discord bridge: Discord adds messages and changes old ones, the operator labels
actors, and the bridge polls, with failures and crashes. -/
namespace Anet.Social

/-- The messages of the channels, the newest ids that these have had, and the bridge. -/
structure World where
  log : ℕ → List DiscordMessage
  newest : ℕ → ℕ
  bridge : Bridge

inductive Act
  | discord (log : ℕ → List DiscordMessage) (newest : ℕ → ℕ)
  | relabel (labels : String → List String)
  | poll (x : PollWeather)

/-- A bridge that has never polled. -/
def Bridge.empty : Bridge := ⟨⟨.empty,fun _ => [],.empty,.empty⟩,[]⟩

namespace World

variable {lib : SocialLibrary} {cfg : SocialConfig} {w w' : World}

def next (lib : SocialLibrary) (cfg : SocialConfig) (w : World) : Act → World
  | .discord log newest => { w with log := log, newest := newest }
  | .relabel labels => { w with bridge.store.labels := labels }
  | .poll x => { w with bridge := (w.bridge.pollOnce lib cfg x).1 }

/-- What the channels and the pages of Discord are like. -/
def Possible (cfg : SocialConfig) (w : World) : Act → Prop
  | .discord log newest => ∀ c, Follows (w.newest c) (w.log c) (log c) (newest c)
  | .relabel _ => True
  | .poll x => ∀ c ∈ cfg.channelIds, ∀ page, x.page c (w.bridge.store.cursor c) = some page →
      Serves (w.log c) (w.bridge.store.cursor c) page

/-- The condition on a poll: a channel without a cursor has a hundred messages at most. -/
def Meets (cfg : SocialConfig) (w : World) : Act → Prop
  | .poll _ => ∀ c ∈ cfg.channelIds, w.bridge.store.cursor c = none → (w.log c).length ≤ 100
  | _ => True

/-- Any step. -/
def Happens (lib : SocialLibrary) (cfg : SocialConfig) (w w' : World) : Prop :=
  ∃ act, w.Possible cfg act ∧ w' = w.next lib cfg act

/-- A step of a run in which every poll meets its condition. -/
def Step (lib : SocialLibrary) (cfg : SocialConfig) (w w' : World) : Prop :=
  ∃ act, w.Possible cfg act ∧ w.Meets cfg act ∧ w' = w.next lib cfg act

/-- The start: channels with any messages, and a bridge that has never polled. -/
structure Starts (w : World) : Prop where
  ordered : ∀ c, Ordered (w.log c)
  bounded : ∀ c, ∀ m ∈ w.log c, m.id ≤ w.newest c
  fresh : w.bridge = Bridge.empty

structure Consistent (lib : SocialLibrary) (cfg : SocialConfig) (w : World) : Prop where
  ordered : ∀ c, Ordered (w.log c)
  bounded : ∀ c, ∀ m ∈ w.log c, m.id ≤ w.newest c
  steady : Bridge.Steady lib cfg w.log w.newest w.bridge

theorem Starts.consistent (h : w.Starts) : Consistent lib cfg w := by
  refine ⟨h.ordered,h.bounded,?_⟩
  rw [h.fresh]
  refine ⟨⟨?_,?_,?_,?_⟩,?_,?_⟩
  · intro a c
    simp [Bridge.count,Bridge.contributed,Bridge.empty,Keyed.total,Keyed.empty,Keyed.get]
  · intro k e he
    cases (Keyed.get_empty k).symm.trans he
  · intro k e he
    cases (Keyed.get_empty k).symm.trans he
  · intro s hs
    cases hs
  · intro c v hv
    cases (Keyed.get_empty c).symm.trans hv
  · intro c v hv
    cases (Keyed.get_empty c).symm.trans hv

/-- A poll keeps the world consistent and what is stored. -/
theorem Consistent.poll (h : Consistent lib cfg w) {x : PollWeather}
    (hpossible : w.Possible cfg (.poll x)) (hmeets : w.Meets cfg (.poll x)) :
    Consistent lib cfg (w.next lib cfg (.poll x)) ∧
      Bridge.Extends w.bridge (w.bridge.pollOnce lib cfg x).1 := by
  have hfed : ∀ c ∈ cfg.channelIds, Bridge.Fed w.log x w.bridge c :=
    fun c hc => ⟨hpossible c hc,hmeets c hc⟩
  have hpoll : Bridge.Steady lib cfg w.log w.newest (w.bridge.pollOnce lib cfg x).1 ∧
      Bridge.Extends w.bridge (w.bridge.pollOnce lib cfg x).1 := by
    unfold Bridge.pollOnce
    split
    · obtain ⟨hsteady,hgrown,-⟩ :=
        Bridge.pollChannels_kept h.ordered h.bounded cfg.channelIds h.steady hfed cfg.distinct
      exact ⟨hsteady,hgrown⟩
    · exact ⟨h.steady,.refl _⟩
  exact ⟨⟨h.ordered,h.bounded,hpoll.1⟩,hpoll.2⟩

/-- Changes of Discord leave the messages behind the cursors settled. -/
theorem Consistent.discord (h : Consistent lib cfg w) {log : ℕ → List DiscordMessage}
    {newest : ℕ → ℕ} (hpossible : w.Possible cfg (.discord log newest)) :
    Consistent lib cfg (w.next lib cfg (.discord log newest)) := by
  refine ⟨fun c => (hpossible c).ordered,fun c => (hpossible c).bounded,h.steady.recorded,?_,?_⟩
  · intro c v hv m hm hle
    rcases (hpossible c).kept m hm with ⟨old,hold,hid,hauthor⟩ | hlater
    · rw [hid,hauthor]
      exact h.steady.behind c v hv old hold (hid ▸ hle)
    · have hv' := h.steady.bounded c v hv
      omega
  · exact fun c v hv => (h.steady.bounded c v hv).trans (hpossible c).later

theorem Consistent.relabel (h : Consistent lib cfg w) (labels : String → List String) :
    Consistent lib cfg (w.next lib cfg (.relabel labels)) :=
  ⟨h.ordered,h.bounded,⟨h.steady.recorded.counted,h.steady.recorded.keyed,h.steady.recorded.routed,
    h.steady.recorded.signals⟩,h.steady.behind,h.steady.bounded⟩

theorem Consistent.step (h : Consistent lib cfg w) (hstep : Step lib cfg w w') :
    Consistent lib cfg w' := by
  obtain ⟨act,hpossible,hmeets,rfl⟩ := hstep
  cases act with
  | discord log newest => exact h.discord hpossible
  | relabel labels => exact h.relabel labels
  | poll x => exact (h.poll hpossible hmeets).1

/-- No cursor goes back. -/
def Later (w w' : World) : Prop :=
  ∀ c v, w.bridge.store.cursor c = some v → ∃ v', w'.bridge.store.cursor c = some v' ∧ v ≤ v'

theorem Consistent.later (h : Consistent lib cfg w) (hstep : Step lib cfg w w') : Later w w' := by
  obtain ⟨act,hpossible,hmeets,rfl⟩ := hstep
  cases act with
  | discord log newest => exact fun _ v hv => ⟨v,hv,le_rfl⟩
  | relabel labels => exact fun _ v hv => ⟨v,hv,le_rfl⟩
  | poll x => exact (h.poll hpossible hmeets).2.cursors

theorem Later.trans {w'' : World} (h : Later w w') (h' : Later w' w'') : Later w w'' := by
  intro c v hv
  obtain ⟨v',hv',hle⟩ := h c v hv
  obtain ⟨v'',hv'',hle'⟩ := h' c v' hv'
  exact ⟨v'',hv'',hle.trans hle'⟩

/-- Over every run whose polls meet their condition: cursors never go back and pass settled messages
only, each stored event has counted once, signals of one event have one id, and a poll in which
nothing fails and every message is sound takes each channel to the newest message served. -/
theorem bridge_kept (lib : SocialLibrary) (cfg : SocialConfig) {start : World} (hstart : start.Starts)
    (hrun : Reaches (Step lib cfg) start w) (hlater : Reaches (Step lib cfg) w w') :
    Later w w' ∧ Bridge.Behind cfg w.log w.bridge ∧
      (∀ a c, w.bridge.count a c = min c.maximum (w.bridge.contributed a c)) ∧
      (∀ s ∈ w.bridge.queued, ∀ s' ∈ w.bridge.queued, s.sourceEventId = s'.sourceEventId →
        s.signalId = s'.signalId) ∧
      ∀ x, w.Possible cfg (.poll x) → w.Meets cfg (.poll x) →
        (∀ c ∈ cfg.channelIds, Bridge.Healthy lib cfg x w.bridge c) →
          (w.bridge.pollOnce lib cfg x).2 = true ∧ (cfg.enabled = true → ∀ c ∈ cfg.channelIds,
            ∀ page, x.page c (w.bridge.store.cursor c) = some page →
              Bridge.Caught (w.bridge.store.cursor c) page
                ((w.bridge.pollOnce lib cfg x).1.store.cursor c)) := by
  have hkept : Consistent lib cfg w :=
    Reaches.invariant (I := Consistent lib cfg) (fun _ _ hi hstep => hi.step hstep)
      hstart.consistent hrun
  have hforward : Later w w' :=
    Reaches.preorder (I := Consistent lib cfg) (R := Later) (fun _ _ v hv => ⟨v,hv,le_rfl⟩)
      (fun _ _ _ h h' => h.trans h') (fun _ _ hi hstep => hi.step hstep)
      (fun _ _ hi hstep => hi.later hstep) hkept hlater
  refine ⟨hforward,hkept.steady.behind,hkept.steady.recorded.counted,fun s hs s' hs' hsame => ?_,
    fun x hpossible hmeets hhealthy => ?_⟩
  · obtain ⟨e,he,hid⟩ := hkept.steady.recorded.signals s hs
    obtain ⟨e',he',hid'⟩ := hkept.steady.recorded.signals s' hs'
    rw [hsame] at he
    cases Option.mem_unique he he'
    rw [hid,hid',hsame]
  · unfold Bridge.pollOnce
    split
    · have hfed : ∀ c ∈ cfg.channelIds, Bridge.Fed w.log x w.bridge c :=
        fun c hc => ⟨hpossible c hc,hmeets c hc⟩
      have hdone := Bridge.pollChannels_completes hkept.ordered hkept.bounded cfg.channelIds
        hkept.steady hfed cfg.distinct hhealthy
      exact ⟨hdone.1,fun _ => hdone.2⟩
    · next hdisabled => exact ⟨rfl,fun henabled => absurd henabled hdisabled⟩

theorem marked_inj {n n' : ℕ} {l l' : List Char}
    (h : List.replicate n 'a' ++ 'b' :: l = List.replicate n' 'a' ++ 'b' :: l') : n = n' ∧ l = l' := by
  induction n generalizing n' with
  | zero =>
    cases n' with
    | zero => exact ⟨rfl,(List.cons.inj h).2⟩
    | succ n' => exact absurd (List.cons.inj h).1 (by decide)
  | succ n ih =>
    cases n' with
    | zero => exact absurd (List.cons.inj h).1 (by decide)
    | succ n' =>
      obtain ⟨hn,hl⟩ := ih (List.cons.inj h).2
      exact ⟨congrArg (· + 1) hn,hl⟩

/-- Keys in unary. -/
def sampleLibrary : SocialLibrary where
  actorKey n := String.ofList (List.replicate n 'a')
  eventKey c m r :=
    String.ofList (List.replicate c 'a' ++ 'b' :: (List.replicate m 'a' ++ 'b' :: r.toList))
  eventKey_inj c m r c' m' r' h := by
    obtain ⟨hc,hrest⟩ := marked_inj (String.ofList_injective h)
    obtain ⟨hm,hr⟩ := marked_inj hrest
    exact ⟨hc,hm,String.toList_injective hr⟩
  evaluate _ _ _ _ := ⟨"surface",["surface"],[],1,0,0,0⟩
  signalId k _ _ _ := k

def sampleConfig : SocialConfig := ⟨[1],by simp,"an1peer",false,600,true,9⟩

def sampleMessage : DiscordMessage := ⟨2,1,3,false,false,"",[],none,"",false,false,0,[]⟩

/-- The message when somebody has reacted to it. -/
def sampleReacted : DiscordMessage := { sampleMessage with reactions := [1] }

def samplePacket : String := "000000000000000000000000000000aa"

/-- A poll that serves a message in each channel without a cursor. -/
def samplePoll (m : DiscordMessage) (fate : Fate) : PollWeather :=
  ⟨fun _ cursor => if cursor = none then some [m] else some [],0,fun _ _ => fate⟩

/-- One channel with one message. -/
def sampleLog (m : DiscordMessage) (c : ℕ) : List DiscordMessage := if c = 1 then [m] else []

theorem sampleLog_ordered (m : DiscordMessage) (c : ℕ) : Ordered (sampleLog m c) := by
  unfold sampleLog Ordered
  split <;> simp

theorem mem_sampleLog {m x : DiscordMessage} {c : ℕ} (h : x ∈ sampleLog m c) : c = 1 ∧ x = m := by
  unfold sampleLog at h
  split at h
  · next hc => exact ⟨hc,List.mem_singleton.mp h⟩
  · cases h

def sampleStart : World := ⟨sampleLog sampleMessage,fun _ => 2,Bridge.empty⟩

/-- The signal of the message could not be queued. -/
def sampleFailed : World :=
  sampleStart.next sampleLibrary sampleConfig (.poll (samplePoll sampleMessage .queueFails))

/-- Somebody reacts to the message. -/
def sampleChanged : World :=
  sampleFailed.next sampleLibrary sampleConfig (.discord (sampleLog sampleReacted) fun _ => 2)

theorem sampleStart_starts : sampleStart.Starts := by
  refine ⟨sampleLog_ordered _,fun c m hm => ?_,rfl⟩
  rw [(mem_sampleLog hm).2]
  exact le_rfl

theorem sampleStart_possible (fate : Fate) :
    sampleStart.Possible sampleConfig (.poll (samplePoll sampleMessage fate)) := by
  intro c hc page hpage
  cases List.mem_singleton.mp hc
  cases hpage
  exact List.Perm.refl _

theorem sampleStart_meets (fate : Fate) :
    sampleStart.Meets sampleConfig (.poll (samplePoll sampleMessage fate)) := by
  intro c hc _
  cases List.mem_singleton.mp hc
  decide

/-- The event of a message is stored and its signal could not be queued; after a reaction no poll
completes, and the cursor stays where it is. -/
theorem reaction_wedges : sampleStart.Starts ∧
    Reaches (Happens sampleLibrary sampleConfig) sampleStart sampleChanged ∧
      sampleChanged.Possible sampleConfig (.poll (samplePoll sampleReacted (.completes samplePacket))) ∧
        (sampleChanged.bridge.pollOnce sampleLibrary sampleConfig
          (samplePoll sampleReacted (.completes samplePacket))).2 = false ∧
          (sampleChanged.bridge.pollOnce sampleLibrary sampleConfig
            (samplePoll sampleReacted (.completes samplePacket))).1.store.cursor 1 = none := by
  have hfailed : Happens sampleLibrary sampleConfig sampleStart sampleFailed :=
    ⟨_,sampleStart_possible .queueFails,rfl⟩
  have hchanged : Happens sampleLibrary sampleConfig sampleFailed sampleChanged := by
    refine ⟨.discord (sampleLog sampleReacted) fun _ => 2,fun c => ?_,rfl⟩
    refine ⟨sampleLog_ordered _ c,fun m hm => .inl ⟨sampleMessage,?_,?_⟩,fun m hm => ?_,le_rfl⟩
    · rw [(mem_sampleLog hm).1]
      exact List.mem_singleton.mpr rfl
    · rw [(mem_sampleLog hm).2]
      exact ⟨rfl,rfl⟩
    · rw [(mem_sampleLog hm).2]
      exact le_rfl
  refine ⟨sampleStart_starts,(Relation.ReflTransGen.single hfailed).tail hchanged,?_,by decide,by decide⟩
  intro c hc page hpage
  cases List.mem_singleton.mp hc
  cases hpage
  exact List.Perm.refl _

/-- The same message without the reaction goes through when the signal can be queued. -/
theorem bridge_kept_sample : (sampleFailed.bridge.pollOnce sampleLibrary sampleConfig
    (samplePoll sampleMessage (.completes samplePacket))).2 = true ∧
      Bridge.Behind sampleConfig sampleFailed.log sampleFailed.bridge := by
  have hfailed : Step sampleLibrary sampleConfig sampleStart sampleFailed :=
    ⟨_,sampleStart_possible .queueFails,sampleStart_meets .queueFails,rfl⟩
  have hkept := bridge_kept sampleLibrary sampleConfig sampleStart_starts (.single hfailed) .refl
  refine ⟨(hkept.2.2.2.2 (samplePoll sampleMessage (.completes samplePacket)) ?_ ?_ ?_).1,hkept.2.1⟩
  · intro c hc page hpage
    cases List.mem_singleton.mp hc
    cases hpage
    exact List.Perm.refl _
  · intro c hc _
    cases List.mem_singleton.mp hc
    decide
  · intro c hc
    cases List.mem_singleton.mp hc
    refine ⟨⟨[sampleMessage],rfl,fun m hm => ?_⟩,fun _ => ⟨samplePacket,rfl,by decide⟩⟩
    cases List.mem_singleton.mp hm
    refine ⟨rfl,fun _ => by decide,fun _ e he => ?_,fun _ _ => by decide⟩
    cases he
    rfl

end World
end Anet.Social
