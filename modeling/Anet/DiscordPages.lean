import Anet.DiscordPolls

/-! Pages of the Discord bridge: the messages of a page are worked through in the order of their ids,
so the cursor of a channel leaves no message behind that is not settled. -/
namespace Anet.Social

namespace Bridge

variable {lib : SocialLibrary} {cfg : SocialConfig} {b b' b'' : Bridge} {channelId : ℕ}
  {m : DiscordMessage} {log : ℕ → List DiscordMessage} {newest : ℕ → ℕ}

/-- No message that a cursor has passed is unsettled. -/
def Behind (cfg : SocialConfig) (log : ℕ → List DiscordMessage) (b : Bridge) : Prop :=
  ∀ c v, b.store.cursor c = some v → ∀ m ∈ log c, m.id ≤ v → Passed cfg b c m.id m.authorId

/-- What holds between two messages of a poll, over the messages of the channels and the newest ids
that these have had. -/
structure Steady (lib : SocialLibrary) (cfg : SocialConfig) (log : ℕ → List DiscordMessage)
    (newest : ℕ → ℕ) (b : Bridge) : Prop where
  recorded : Recorded lib b
  behind : Behind cfg log b
  bounded : ∀ c v, b.store.cursor c = some v → v ≤ newest c

/-- The event of a key is the same as before, if there is one. -/
def Untouched (b b' : Bridge) (k : String) : Prop :=
  ∀ e, b'.store.events.get k = some e → ∃ e0, b.store.events.get k = some e0 ∧ e.body = e0.body

/-- What the messages of a channel do to the rest. -/
structure Moved (lib : SocialLibrary) (cfg : SocialConfig) (log : ℕ → List DiscordMessage)
    (newest : ℕ → ℕ) (channelId : ℕ) (touched : ℕ → Prop) (b b' : Bridge) : Prop where
  steady : Steady lib cfg log newest b'
  grown : Extends b b'
  cursors : ∀ c, c ≠ channelId → b'.store.cursor c = b.store.cursor c
  untouched : ∀ c id revision, c ≠ channelId ∨ ¬ touched id →
    Untouched b b' (lib.eventKey c id revision)

theorem Moved.refl {touched : ℕ → Prop} (hb : Steady lib cfg log newest b) :
    Moved lib cfg log newest channelId touched b b :=
  ⟨hb,.refl b,fun _ _ => rfl,fun _ _ _ _ e he => ⟨e,he,rfl⟩⟩

theorem Moved.mono {touched touched' : ℕ → Prop} (h : Moved lib cfg log newest channelId touched b b')
    (hmono : ∀ id, touched id → touched' id) : Moved lib cfg log newest channelId touched' b b' :=
  ⟨h.steady,h.grown,h.cursors,fun c id revision hother =>
    h.untouched c id revision (hother.imp_right fun hnot htouched => hnot (hmono id htouched))⟩

theorem Moved.trans {touched : ℕ → Prop} (h : Moved lib cfg log newest channelId touched b b')
    (h' : Moved lib cfg log newest channelId touched b' b'') :
    Moved lib cfg log newest channelId touched b b'' := by
  refine ⟨h'.steady,h.grown.trans h'.grown,fun c hc => (h'.cursors c hc).trans (h.cursors c hc),
    fun c id revision hother e he => ?_⟩
  obtain ⟨x,hx,hbody⟩ := h'.untouched c id revision hother e he
  obtain ⟨y,hy,hbody'⟩ := h.untouched c id revision hother x hx
  exact ⟨y,hy,hbody.trans hbody'⟩

theorem Sound.kept {c : ℕ} (hs : Sound lib cfg b c m)
    (h : Untouched b b' (lib.eventKey c m.id m.revision)) (hlabels : b'.store.labels = b.store.labels) :
    Sound lib cfg b' c m := by
  refine ⟨hs.channel,hs.checked,fun hforeign e he => ?_,fun hforeign hdest => ?_⟩
  · obtain ⟨x,hx,hbody⟩ := h e he
    exact hbody.trans (hs.unchanged hforeign x hx)
  · rw [hlabels]
    exact hs.labels hforeign hdest

theorem cursor_advance (b : Bridge) (channelId messageId c : ℕ) :
    (b.advance channelId messageId).store.cursor c =
      if c = channelId then some (SocialStore.laterCursor (b.store.cursor channelId) messageId)
      else b.store.cursor c :=
  Keyed.get_put _ _ _ _

theorem laterCursor_cases (last : Option ℕ) (messageId : ℕ) :
    (SocialStore.laterCursor last messageId = messageId ∧ ∀ v ∈ last, v ≤ messageId) ∨
      last = some (SocialStore.laterCursor last messageId) := by
  cases last with
  | none => exact .inl ⟨rfl,by simp⟩
  | some v =>
    by_cases h : v < messageId
    · exact .inl ⟨if_pos h,fun x hx => by cases hx; exact h.le⟩
    · exact .inr (congrArg some (if_neg h).symm)

/-- The writes for a message keep the steady state. -/
theorem Worked.moved (hb : Steady lib cfg log newest b) (h : Worked lib cfg channelId m b b') :
    Moved lib cfg log newest channelId (· = m.id) b b' := by
  have hcursor : ∀ c, b'.store.cursor c = b.store.cursor c :=
    fun c => congrArg (fun d => d.get c) h.cursors
  refine ⟨⟨h.recorded,fun c v hv x hx hle => ?_,fun c v hv => ?_⟩,h.grown,fun c _ => hcursor c,
    fun c id revision hother e he => ?_⟩
  · exact h.grown.passed (hb.behind c v (hcursor c ▸ hv) x hx hle)
  · exact hb.bounded c v (hcursor c ▸ hv)
  · rcases h.only _ e he with hold | ⟨hkey,-⟩
    · exact hold
    · obtain ⟨hc,hid,-⟩ := lib.eventKey_inj _ _ _ _ _ _ hkey
      exact absurd hid (hother.resolve_left (not_not.mpr hc))

/-- The cursor moves to a message when no message up to it is unsettled. -/
theorem moved_advance {touched : ℕ → Prop} (hb : Steady lib cfg log newest b) {messageId : ℕ}
    (hnewest : messageId ≤ newest channelId)
    (hbelow : ∀ x ∈ log channelId, x.id ≤ messageId → Passed cfg b channelId x.id x.authorId) :
    Moved lib cfg log newest channelId touched b (b.advance channelId messageId) := by
  refine ⟨⟨⟨hb.recorded.counted,hb.recorded.keyed,hb.recorded.routed,hb.recorded.signals⟩,?_,?_⟩,
    ⟨fun _ e he => ⟨e,he,rfl,rfl⟩,List.prefix_rfl,fun c v hv => ?_,rfl⟩,fun c hc => ?_,
    fun _ _ _ _ e he => ⟨e,he,rfl⟩⟩
  · intro c v hv x hx hle
    rw [cursor_advance] at hv
    split at hv
    · next heq =>
      subst heq
      cases hv
      rcases laterCursor_cases (b.store.cursor c) messageId with ⟨hnew,-⟩ | hold
      · exact hbelow x hx (hnew ▸ hle)
      · exact hb.behind c _ hold x hx hle
    · exact hb.behind c v hv x hx hle
  · intro c v hv
    rw [cursor_advance] at hv
    split at hv
    · next heq =>
      subst heq
      cases hv
      rcases laterCursor_cases (b.store.cursor c) messageId with ⟨hnew,-⟩ | hold
      · rw [hnew]
        exact hnewest
      · exact hb.bounded c _ hold
    · exact hb.bounded c v hv
  · have hget := cursor_advance b channelId messageId c
    split at hget
    · next heq =>
      subst heq
      refine ⟨_,hget,?_⟩
      rcases laterCursor_cases (b.store.cursor c) messageId with ⟨hnew,hle⟩ | hold
      · rw [hnew]
        exact hle v hv
      · exact (Option.some.inj (hv.symm.trans hold)).le
    · exact ⟨v,hget.trans hv,le_rfl⟩
  · exact (cursor_advance b channelId messageId c).trans (if_neg hc)

/-- The messages up to those of a page are settled or on it. -/
def Gapless (cfg : SocialConfig) (b : Bridge) (channelId : ℕ) (messages page : List DiscordMessage) :
    Prop :=
  ∀ x ∈ messages, ∀ y ∈ page, x.id ≤ y.id → Passed cfg b channelId x.id x.authorId ∨ x ∈ page

/-- A message of a page keeps the steady state, and when it does not stop the poll the cursor passes
it and no gap opens. -/
theorem pollMessage_moved {ms : List DiscordMessage} (hb : Steady lib cfg log newest b)
    (hnewest : m.id ≤ newest channelId) (hsorted : ∀ x ∈ ms, m.id < x.id)
    (hgap : Gapless cfg b channelId (log channelId) (m :: ms)) (now : ℤ) (fate : Fate) :
    Moved lib cfg log newest channelId (· = m.id) b
        (b.pollMessage lib cfg channelId m now fate).1 ∧
      ((b.pollMessage lib cfg channelId m now fate).2 = true →
        Gapless cfg (b.pollMessage lib cfg channelId m now fate).1 channelId (log channelId) ms ∧
          (b.pollMessage lib cfg channelId m now fate).1.store.cursor channelId =
            some (SocialStore.laterCursor (b.store.cursor channelId) m.id)) := by
  have hended : Ended lib cfg channelId m b (b.pollMessage lib cfg channelId m now fate) :=
    pollMessage_ended hb.recorded now fate
  obtain ⟨b0,hw,hstop | ⟨hend,hpassed⟩⟩ := hended
  · rw [hstop]
    exact ⟨hw.moved hb,fun h => by cases h⟩
  · rw [hend]
    have hmoved := hw.moved hb
    have hbelow : ∀ x ∈ log channelId, x.id ≤ m.id → Passed cfg b0 channelId x.id x.authorId := by
      intro x hx hle
      rcases hgap x hx m (by simp) hle with hsettled | hmem
      · exact hw.grown.passed hsettled
      · rcases List.mem_cons.mp hmem with rfl | hlater
        · exact hpassed
        · exact absurd (hsorted x hlater) (not_lt.mpr hle)
    refine ⟨hmoved.trans (moved_advance hmoved.steady hnewest hbelow),fun _ => ⟨?_,?_⟩⟩
    · intro x hx y hy hle
      rcases hgap x hx y (List.mem_cons_of_mem _ hy) hle with hsettled | hmem
      · exact .inl (hw.grown.passed hsettled)
      · rcases List.mem_cons.mp hmem with rfl | hlater
        · exact .inl hpassed
        · exact .inr hlater
    · refine (cursor_advance b0 channelId m.id channelId).trans ((if_pos rfl).trans ?_)
      have hcursor : b0.store.cursor channelId = b.store.cursor channelId :=
        congrArg (fun d => d.get channelId) hw.cursors
      rw [hcursor]

/-- The messages of a page keep the steady state, wherever one of them stops the poll. -/
theorem pollMessages_moved (now : ℤ) (fate : ℕ → Fate) (ms : List DiscordMessage) :
    ∀ {b : Bridge}, Steady lib cfg log newest b → (∀ x ∈ ms, x.id ≤ newest channelId) →
      ms.Pairwise (fun x y => x.id < y.id) → Gapless cfg b channelId (log channelId) ms →
        Moved lib cfg log newest channelId (fun _ => True) b
          (b.pollMessages lib cfg channelId now fate ms).1 := by
  induction ms with
  | nil => exact fun hb _ _ _ => .refl hb
  | cons m ms ih =>
    intro b hb hnewest hsorted hgap
    rw [List.pairwise_cons] at hsorted
    obtain ⟨hmoved,hnext⟩ := pollMessage_moved hb (hnewest m (by simp)) hsorted.1 hgap now (fate m.id)
    have hfirst : Moved lib cfg log newest channelId (fun _ => True) b
        (b.pollMessage lib cfg channelId m now (fate m.id)).1 := hmoved.mono fun _ _ => trivial
    unfold pollMessages
    simp only
    split
    · next hgoes =>
      exact hfirst.trans (ih hmoved.steady (fun x hx => hnewest x (List.mem_cons_of_mem _ hx))
        hsorted.2 (hnext hgoes).1)
    · exact hfirst

/-- The cursor is at the newest message of a page, or where it was when the page is empty. -/
def Caught (before : Option ℕ) (page : List DiscordMessage) (after : Option ℕ) : Prop :=
  (page = [] ∧ after = before) ∨ ∃ m ∈ page, after = some m.id ∧ ∀ x ∈ page, x.id ≤ m.id

/-- A page of sound messages behind the cursor is worked through when nothing fails. -/
theorem pollMessages_completes (now : ℤ) {fate : ℕ → Fate} (hfate : ∀ id, (fate id).Good)
    (ms : List DiscordMessage) :
    ∀ {b : Bridge}, Steady lib cfg log newest b → (∀ x ∈ ms, x.id ≤ newest channelId) →
      ms.Pairwise (fun x y => x.id < y.id) → Gapless cfg b channelId (log channelId) ms →
      (∀ v ∈ b.store.cursor channelId, ∀ x ∈ ms, v < x.id) →
      (∀ x ∈ ms, Sound lib cfg b channelId x) →
        (b.pollMessages lib cfg channelId now fate ms).2 = true ∧
          Caught (b.store.cursor channelId) ms
            ((b.pollMessages lib cfg channelId now fate ms).1.store.cursor channelId) := by
  induction ms with
  | nil => exact fun _ _ _ _ _ _ => ⟨rfl,.inl ⟨rfl,rfl⟩⟩
  | cons m ms ih =>
    intro b hb hnewest hsorted hgap hbeyond hsound
    rw [List.pairwise_cons] at hsorted
    obtain ⟨hmoved,hnext⟩ := pollMessage_moved hb (hnewest m (by simp)) hsorted.1 hgap now (fate m.id)
    have hgoes := pollMessage_completes hb.recorded (hsound m (by simp)) now (hfate m.id)
    obtain ⟨hgap',hcursor⟩ := hnext hgoes
    have hat : (b.pollMessage lib cfg channelId m now (fate m.id)).1.store.cursor channelId =
        some m.id := by
      rw [hcursor]
      cases hlast : b.store.cursor channelId with
      | none => rfl
      | some v => exact congrArg some (if_pos (hbeyond v hlast m (by simp)))
    have hrest := ih hmoved.steady (fun x hx => hnewest x (List.mem_cons_of_mem _ hx)) hsorted.2 hgap'
      (by rw [hat]
          rintro v hv x hx
          cases hv
          exact hsorted.1 x hx)
      (fun x hx => (hsound x (List.mem_cons_of_mem _ hx)).kept
        (hmoved.untouched channelId x.id x.revision (.inr (hsorted.1 x hx).ne')) hmoved.grown.labels)
    have hunfold : b.pollMessages lib cfg channelId now fate (m :: ms) =
        (b.pollMessage lib cfg channelId m now (fate m.id)).1.pollMessages lib cfg channelId now fate ms :=
      if_pos hgoes
    rw [hunfold]
    refine ⟨hrest.1,.inr ?_⟩
    rcases hrest.2 with ⟨hempty,hsame⟩ | ⟨x,hx,hend,hmax⟩
    · subst hempty
      exact ⟨m,by simp,hsame.trans hat,by simp⟩
    · refine ⟨x,List.mem_cons_of_mem _ hx,hend,fun y hy => ?_⟩
      rcases List.mem_cons.mp hy with rfl | hlater
      · exact (hsorted.1 x hx).le
      · exact hmax y hlater

end Bridge
end Anet.Social
