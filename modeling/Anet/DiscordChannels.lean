import Anet.DiscordPages
import Mathlib.Data.List.Sort

/-! Polls of the Discord bridge over the pages of the channels: they keep what is stored consistent,
and one in which nothing fails takes each channel to the newest message served. -/
namespace Anet.Social

def Ordered (messages : List DiscordMessage) : Prop := messages.Pairwise fun m m' => m.id < m'.id

/-- The pages of Discord: the newest hundred messages of the channel when there is no cursor, and
else the first messages behind the cursor, a hundred at most; in any order. -/
def Serves (messages : List DiscordMessage) (cursor : Option ℕ) (page : List DiscordMessage) : Prop :=
  match cursor with
  | none => page.Perm (messages.drop (messages.length - 100))
  | some v => ∃ n ≤ 100, page.Perm ((messages.filter fun m => v < m.id).take n)

/-- What Discord does to a channel: messages are deleted or changed, and new ones come with ids
that are larger than all before. -/
structure Follows (newest : ℕ) (messages messages' : List DiscordMessage) (newest' : ℕ) : Prop where
  ordered : Ordered messages'
  kept : ∀ m' ∈ messages', (∃ m ∈ messages, m'.id = m.id ∧ m'.authorId = m.authorId) ∨ newest < m'.id
  bounded : ∀ m ∈ messages', m.id ≤ newest'
  later : newest ≤ newest'

namespace Bridge

variable {lib : SocialLibrary} {cfg : SocialConfig} {b b' : Bridge} {x : PollWeather}
  {log : ℕ → List DiscordMessage} {newest : ℕ → ℕ}

/-- What a poll meets in a channel: the pages are Discord's, and a channel without a cursor has a
hundred messages at most. -/
structure Fed (log : ℕ → List DiscordMessage) (x : PollWeather) (b : Bridge) (channelId : ℕ) :
    Prop where
  served : ∀ page, x.page channelId (b.store.cursor channelId) = some page →
    Serves (log channelId) (b.store.cursor channelId) page
  few : b.store.cursor channelId = none → (log channelId).length ≤ 100

/-- Nothing fails in a channel, and its messages are sound. -/
structure Healthy (lib : SocialLibrary) (cfg : SocialConfig) (x : PollWeather) (b : Bridge)
    (channelId : ℕ) : Prop where
  page : ∃ page, x.page channelId (b.store.cursor channelId) = some page ∧
    ∀ m ∈ page, Sound lib cfg b channelId m
  fates : ∀ id, (x.fate channelId id).Good

theorem Fed.same {channelId : ℕ} (h : Fed log x b channelId)
    (hcursor : b'.store.cursor channelId = b.store.cursor channelId) : Fed log x b' channelId :=
  ⟨hcursor ▸ h.served,hcursor ▸ h.few⟩

theorem Healthy.moved {c channelId : ℕ} {touched : ℕ → Prop} (h : Healthy lib cfg x b c)
    (hmoved : Moved lib cfg log newest channelId touched b b') (hc : c ≠ channelId) :
    Healthy lib cfg x b' c := by
  obtain ⟨page,hpage,hsound⟩ := h.page
  refine ⟨⟨page,?_,fun m hm => ?_⟩,h.fates⟩
  · rw [hmoved.cursors c hc]
    exact hpage
  · exact (hsound m hm).kept (hmoved.untouched c m.id m.revision (.inl hc)) hmoved.grown.labels

/-- A page of Discord lies in the channel, behind the cursor, and leaves no gap. -/
theorem serves_page {channelId : ℕ} {page : List DiscordMessage} (hb : Behind cfg log b)
    (hordered : Ordered (log channelId))
    (hfew : b.store.cursor channelId = none → (log channelId).length ≤ 100)
    (h : Serves (log channelId) (b.store.cursor channelId) page) :
    (∀ m ∈ page, m ∈ log channelId) ∧ (page.map DiscordMessage.id).Nodup ∧
      Gapless cfg b channelId (log channelId) page ∧
        ∀ v ∈ b.store.cursor channelId, ∀ m ∈ page, v < m.id := by
  have hnodup : ∀ {l : List DiscordMessage}, l.Sublist (log channelId) →
      (l.map DiscordMessage.id).Nodup := by
    intro l hl
    rw [List.nodup_iff_pairwise_ne,List.pairwise_map]
    exact (hordered.sublist hl).imp fun hlt => hlt.ne
  cases hcursor : b.store.cursor channelId with
  | none =>
    rw [hcursor] at h
    have hall : (log channelId).drop ((log channelId).length - 100) = log channelId := by
      rw [Nat.sub_eq_zero_of_le (hfew hcursor),List.drop_zero]
    have hperm : page.Perm (log channelId) := hall ▸ h
    refine ⟨fun m hm => hperm.subset hm,(hperm.map _).nodup_iff.mpr (hnodup (List.Sublist.refl _)),?_,
      by simp⟩
    exact fun m hm _ _ _ => .inr (hperm.symm.subset hm)
  | some v =>
    rw [hcursor] at h
    obtain ⟨n,-,hperm⟩ := h
    have hsub : (((log channelId).filter fun m => v < m.id).take n).Sublist (log channelId) :=
      (List.take_sublist _ _).trans List.filter_sublist
    refine ⟨fun m hm => hsub.subset (hperm.subset hm),(hperm.map _).nodup_iff.mpr (hnodup hsub),?_,?_⟩
    · intro m hm y hy hle
      by_cases hpassed : m.id ≤ v
      · exact .inl (hb channelId v hcursor m hm hpassed)
      · have hbeyond : m ∈ (log channelId).filter fun m => v < m.id := by
          simp only [List.mem_filter,decide_eq_true_eq]
          exact ⟨hm,by omega⟩
        have hpair : Ordered ((log channelId).filter fun m => v < m.id) :=
          hordered.sublist List.filter_sublist
        unfold Ordered at hpair
        rw [← List.take_append_drop n ((log channelId).filter fun m => v < m.id)] at hbeyond hpair
        rw [List.pairwise_append] at hpair
        rcases List.mem_append.mp hbeyond with htaken | hdropped
        · exact .inr (hperm.symm.subset htaken)
        · exact absurd (hpair.2.2 y (hperm.subset hy) m hdropped) (not_lt.mpr hle)
    · rintro w hw m hm
      cases hw
      have hfilter := List.take_subset _ _ (hperm.subset hm)
      simp only [List.mem_filter,decide_eq_true_eq] at hfilter
      exact hfilter.2

/-- The messages of a page in the order of their ids. -/
theorem sorted_page {page : List DiscordMessage} (h : (page.map DiscordMessage.id).Nodup) :
    (page.insertionSort fun m m' => m.id ≤ m'.id).Pairwise fun m m' => m.id < m'.id := by
  have hperm := List.perm_insertionSort (fun m m' : DiscordMessage => m.id ≤ m'.id) page
  have hle := List.pairwise_insertionSort (fun m m' : DiscordMessage => m.id ≤ m'.id) page
  have hne := (hperm.map DiscordMessage.id).nodup_iff.mpr h
  rw [List.nodup_iff_pairwise_ne,List.pairwise_map] at hne
  exact (hle.and hne).imp fun hboth => lt_of_le_of_ne hboth.1 hboth.2

theorem pollChannel_moved {channelId : ℕ} (hb : Steady lib cfg log newest b)
    (hordered : Ordered (log channelId)) (hbounded : ∀ m ∈ log channelId, m.id ≤ newest channelId)
    (hfed : Fed log x b channelId) :
    Moved lib cfg log newest channelId (fun _ => True) b (b.pollChannel lib cfg x channelId).1 := by
  unfold pollChannel
  split
  · exact .refl hb
  · next page hpage =>
    obtain ⟨hmem,hnodup,hgap,-⟩ := 
      serves_page hb.behind hordered hfed.few (hfed.served page hpage)
    have hperm := List.perm_insertionSort (fun m m' : DiscordMessage => m.id ≤ m'.id) page
    refine pollMessages_moved x.now _ _ hb (fun m hm => hbounded m (hmem m (hperm.subset hm)))
      (sorted_page hnodup) fun m hm y hy hle => ?_
    exact (hgap m hm y (hperm.subset hy) hle).imp_right fun hin => hperm.symm.subset hin

theorem pollChannel_completes {channelId : ℕ} (hb : Steady lib cfg log newest b)
    (hordered : Ordered (log channelId)) (hbounded : ∀ m ∈ log channelId, m.id ≤ newest channelId)
    (hfed : Fed log x b channelId) (hhealthy : Healthy lib cfg x b channelId) :
    (b.pollChannel lib cfg x channelId).2 = true ∧
      ∀ page, x.page channelId (b.store.cursor channelId) = some page →
        Caught (b.store.cursor channelId) page
          ((b.pollChannel lib cfg x channelId).1.store.cursor channelId) := by
  obtain ⟨page,hpage,hsound⟩ := hhealthy.page
  obtain ⟨hmem,hnodup,hgap,hbeyond⟩ := 
      serves_page hb.behind hordered hfed.few (hfed.served page hpage)
  have hperm := List.perm_insertionSort (fun m m' : DiscordMessage => m.id ≤ m'.id) page
  have hdone := pollMessages_completes x.now hhealthy.fates
    (page.insertionSort fun m m' => m.id ≤ m'.id) hb
    (fun m hm => hbounded m (hmem m (hperm.subset hm))) (sorted_page hnodup)
    (fun m hm y hy hle =>
      (hgap m hm y (hperm.subset hy) hle).imp_right fun hin => hperm.symm.subset hin)
    (fun v hv m hm => hbeyond v hv m (hperm.subset hm)) fun m hm => hsound m (hperm.subset hm)
  have hpoll : b.pollChannel lib cfg x channelId = b.pollMessages lib cfg channelId x.now
      (x.fate channelId) (page.insertionSort fun m m' => m.id ≤ m'.id) := by
    unfold pollChannel
    rw [hpage]
  rw [hpoll]
  refine ⟨hdone.1,fun page' hpage' => ?_⟩
  cases Option.some.inj (hpage.symm.trans hpage')
  rcases hdone.2 with ⟨hempty,hsame⟩ | ⟨m,hm,hend,hmax⟩
  · exact .inl ⟨List.perm_nil.mp (hempty ▸ hperm.symm),hsame⟩
  · exact .inr ⟨m,hperm.subset hm,hend,fun y hy => hmax y (hperm.symm.subset hy)⟩

/-- A poll keeps the steady state and everything that is stored, wherever it stops. -/
theorem pollChannels_kept (hordered : ∀ c, Ordered (log c)) (hbounded : ∀ c, ∀ m ∈ log c, m.id ≤ newest c)
    (cs : List ℕ) : ∀ {b : Bridge}, Steady lib cfg log newest b → (∀ c ∈ cs, Fed log x b c) → cs.Nodup →
      Steady lib cfg log newest (b.pollChannels lib cfg x cs).1 ∧
        Extends b (b.pollChannels lib cfg x cs).1 ∧
          ∀ c, c ∉ cs → (b.pollChannels lib cfg x cs).1.store.cursor c = b.store.cursor c := by
  induction cs with
  | nil => exact fun hb _ _ => ⟨hb,.refl _,fun _ _ => rfl⟩
  | cons c cs ih =>
    intro b hb hfed hnodup
    rw [List.nodup_cons] at hnodup
    have hmoved := pollChannel_moved hb (hordered c) (hbounded c) (hfed c (by simp))
    unfold pollChannels
    simp only
    split
    · have hfed' : ∀ d ∈ cs, Fed log x (b.pollChannel lib cfg x c).1 d := by
        intro d hd
        have hne : d ≠ c := fun heq => hnodup.1 (heq ▸ hd)
        exact (hfed d (List.mem_cons_of_mem _ hd)).same (hmoved.cursors d hne)
      obtain ⟨hsteady,hgrown,hcursors⟩ := ih hmoved.steady hfed' hnodup.2
      refine ⟨hsteady,hmoved.grown.trans hgrown,fun d hd => ?_⟩
      rw [List.mem_cons,not_or] at hd
      exact (hcursors d hd.2).trans (hmoved.cursors d hd.1)
    · refine ⟨hmoved.steady,hmoved.grown,fun d hd => ?_⟩
      rw [List.mem_cons,not_or] at hd
      exact hmoved.cursors d hd.1

/-- A poll in which nothing fails takes every channel to the newest message served. -/
theorem pollChannels_completes (hordered : ∀ c, Ordered (log c))
    (hbounded : ∀ c, ∀ m ∈ log c, m.id ≤ newest c) (cs : List ℕ) :
    ∀ {b : Bridge}, Steady lib cfg log newest b → (∀ c ∈ cs, Fed log x b c) → cs.Nodup →
      (∀ c ∈ cs, Healthy lib cfg x b c) → (b.pollChannels lib cfg x cs).2 = true ∧
        ∀ c ∈ cs, ∀ page, x.page c (b.store.cursor c) = some page →
          Caught (b.store.cursor c) page ((b.pollChannels lib cfg x cs).1.store.cursor c) := by
  induction cs with
  | nil => exact fun _ _ _ _ => ⟨rfl,by simp⟩
  | cons c cs ih =>
    intro b hb hfed hnodup hhealthy
    rw [List.nodup_cons] at hnodup
    have hmoved := pollChannel_moved hb (hordered c) (hbounded c) (hfed c (by simp))
    obtain ⟨hgoes,hcaught⟩ := pollChannel_completes hb (hordered c) (hbounded c) (hfed c (by simp))
      (hhealthy c (by simp))
    have hne : ∀ d ∈ cs, d ≠ c := fun d hd heq => hnodup.1 (heq ▸ hd)
    have hfed' : ∀ d ∈ cs, Fed log x (b.pollChannel lib cfg x c).1 d := fun d hd =>
      (hfed d (List.mem_cons_of_mem _ hd)).same (hmoved.cursors d (hne d hd))
    have hhealthy' : ∀ d ∈ cs, Healthy lib cfg x (b.pollChannel lib cfg x c).1 d := fun d hd =>
      (hhealthy d (List.mem_cons_of_mem _ hd)).moved hmoved (hne d hd)
    obtain ⟨hrest,hcaught'⟩ := ih hmoved.steady hfed' hnodup.2 hhealthy'
    have hunfold : b.pollChannels lib cfg x (c :: cs) =
        (b.pollChannel lib cfg x c).1.pollChannels lib cfg x cs := if_pos hgoes
    rw [hunfold]
    refine ⟨hrest,fun d hd page hpage => ?_⟩
    rcases List.mem_cons.mp hd with rfl | hd
    · rw [(pollChannels_kept hordered hbounded cs hmoved.steady hfed' hnodup.2).2.2 d hnodup.1]
      exact hcaught page hpage
    · have hsame := hmoved.cursors d (hne d hd)
      have hthere := hcaught' d hd page (hsame ▸ hpage)
      rw [hsame] at hthere
      exact hthere

end Bridge
end Anet.Social
