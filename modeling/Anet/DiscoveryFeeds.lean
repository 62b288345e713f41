import Anet.Discovery
import Anet.MsgPack

/-! What the runs of a discovery store keep: a signal is matched when it is stored, as far as the
call that stored it came, and the pages of a feed are those of a filtered log. -/
namespace Anet.Discovery

variable {lib : Library}

/-- What was known when a signal was first stored: the store before, the time, and how many writes
the call made. -/
structure FirstStored where
  before : DiscoveryStore
  receivedMs : ℤ
  writes : ℕ

structure World where
  store : DiscoveryStore
  first : String → Option FirstStored

def World.initial : World := ⟨.empty,fun _ => none⟩

/-- The signal that a call stores. -/
def stores (lib : Library) (s : DiscoveryStore) : DiscoveryOp → Option (String × FirstStored)
  | .ingest signal source receivedMs now writes =>
    match s.ingest lib signal source receivedMs now with
    | .ok (.stored signalId _,_) =>
      if writes = 0 then none else some (signalId,⟨s,orClock receivedMs now,writes⟩)
    | _ => none
  | _ => none

def World.next (lib : Library) (w : World) (op : DiscoveryOp) : World where
  store := op.exec lib w.store
  first := fun id => (stores lib w.store op).elim (w.first id) fun r =>
    if id = r.1 then some r.2 else w.first id

def DiscoveryStep (lib : Library) (w w' : World) : Prop := ∃ op, w' = w.next lib op

/-- The subscription is enabled with an enabled profile, and the signal reaches its score. -/
def DiscoveryStore.Due (s : DiscoveryStore) (signal : SignalBody) (receivedMs : ℤ)
    (subscriptionId : String) : Prop :=
  ∃ r profile, s.subscriptions.get subscriptionId = some r ∧ r.enabled ∧
    s.profiles.get r.profileId = some profile ∧ profile.enabled ∧
    r.minScore.val ≤ (matchSignal signal profile r receivedMs).1

/-- There is a match row of the subscription for the signal. -/
def DiscoveryStore.Matched (s : DiscoveryStore) (signalId subscriptionId : String) : Prop :=
  ∃ m ∈ s.matchRows.rows, m.subscriptionId = subscriptionId ∧ m.signalId = signalId

namespace DiscoveryStore

variable {s s' : DiscoveryStore} {signal : SignalBody} {receivedMs : ℤ} {signalId : String}

theorem dueFor_eq_some {r : SubscriptionRow} {d : DueMatch} :
    s.dueFor signal receivedMs r = some d ↔ ∃ profile, s.profiles.get r.profileId = some profile ∧
      profile.enabled ∧ r.enabled ∧ r.minScore.val ≤ (matchSignal signal profile r receivedMs).1 ∧
      d = ⟨r.subscriptionId,(matchSignal signal profile r receivedMs).1,
        (matchSignal signal profile r receivedMs).2⟩ := by
  unfold dueFor
  cases hprofile : s.profiles.get r.profileId with
  | none => simp
  | some profile =>
    have hmin := r.minScore.property.1
    simp only [Option.bind_eq_bind,Option.bind_some]
    split
    · rename_i hnot
      constructor
      · intro h
        cases h
      · rintro ⟨profile',hsame,hprofile,hrow,hscore,-⟩
        obtain rfl := Option.some.inj hsame
        rcases hnot with h | h | h | h
        · exact absurd hprofile h
        · exact absurd hrow h
        · omega
        · omega
    · rename_i hall
      push Not at hall
      obtain ⟨hprofile,hrow,-,hscore⟩ := hall
      constructor
      · intro h
        exact ⟨profile,rfl,hprofile,hrow,hscore,(Option.some.inj h).symm⟩
      · rintro ⟨profile',hsame,-,-,-,rfl⟩
        obtain rfl := Option.some.inj hsame
        rfl

/-- The subscriptions of the due matches. -/
def dueIds (s : DiscoveryStore) (signal : SignalBody) (receivedMs : ℤ) : List String :=
  (s.due signal receivedMs).map DueMatch.subscriptionId

theorem mem_dueIds {subscriptionId : String} :
    subscriptionId ∈ s.dueIds signal receivedMs ↔ s.Due signal receivedMs subscriptionId := by
  unfold dueIds due Due
  simp only [List.mem_map,List.mem_filterMap,List.mem_insertionSort,dueFor_eq_some]
  constructor
  · rintro ⟨d,⟨r,hr,profile,hprofile,henabled,hrow,hscore,rfl⟩,rfl⟩
    exact ⟨r,profile,Table.mem_rows.mp hr,hrow,hprofile,henabled,hscore⟩
  · rintro ⟨r,profile,hr,hrow,hprofile,henabled,hscore⟩
    obtain ⟨hmem,hid⟩ := Table.get_eq_some.mp hr
    exact ⟨_,⟨r,hmem,profile,hprofile,henabled,hrow,hscore,rfl⟩,hid⟩

theorem dueFor_sublist (rows : List SubscriptionRow) :
    ((rows.filterMap (s.dueFor signal receivedMs)).map DueMatch.subscriptionId).Sublist
      (rows.map SubscriptionRow.subscriptionId) := by
  induction rows with
  | nil => exact List.Sublist.refl _
  | cons r rows ih =>
    cases hdue : s.dueFor signal receivedMs r with
    | none =>
      rw [List.filterMap_cons_none hdue]
      exact ih.cons _
    | some d =>
      obtain ⟨_,-,-,-,-,rfl⟩ := dueFor_eq_some.mp hdue
      rw [List.filterMap_cons_some hdue]
      exact ih.cons_cons _

theorem nodup_dueIds : (s.dueIds signal receivedMs).Nodup :=
  List.Nodup.sublist (dueFor_sublist _)
    (((List.perm_insertionSort _ _).map _).nodup_iff.mpr s.subscriptions.keys)

/-- Match ids grow, and every match has its signal. -/
structure Numbered (s : DiscoveryStore) : Prop where
  ordered : s.matchRows.rows.Pairwise fun m m' => m.matchId < m'.matchId
  range : ∀ m ∈ s.matchRows.rows, 0 < m.matchId ∧ m.matchId ≤ s.matchSequence
  stored : ∀ m ∈ s.matchRows.rows, (s.signals.get m.signalId).isSome

/-- A match for a pair that has none is appended. -/
theorem insertMatch_appends (receivedMs : ℤ) (hs : s.Numbered) {d : DueMatch}
    (hnew : ¬ s.Matched signalId d.subscriptionId) :
    (insertMatch signalId receivedMs d s).matchRows.rows = s.matchRows.rows ++
        [⟨s.matchSequence + 1,d.subscriptionId,signalId,d.score,d.reasons,receivedMs⟩] ∧
      (insertMatch signalId receivedMs d s).matchSequence = s.matchSequence + 1 ∧
      (insertMatch signalId receivedMs d s).signals = s.signals := by
  unfold insertMatch
  cases hins : s.matchRows.insert
      ⟨s.matchSequence + 1,d.subscriptionId,signalId,d.score,d.reasons,receivedMs⟩ with
  | some rows => exact ⟨(Table.insert_eq_some hins).2.2,rfl,rfl⟩
  | none =>
    exfalso
    rw [Table.insert,dif_pos] at hins
    · cases hins
    · refine ⟨fun m hm heq => ?_,fun m hm p hp hp' => ?_⟩
      · have hle := (hs.range m hm).2
        change m.matchId = s.matchSequence + 1 at heq
        omega
      · obtain rfl := List.mem_singleton.mp hp
        obtain ⟨hsub,hsig⟩ := Prod.mk.inj (List.mem_singleton.mp hp')
        exact hnew ⟨m,hm,hsub,hsig⟩

theorem insertMatch_numbered (receivedMs : ℤ) (hs : s.Numbered) {d : DueMatch}
    (hnew : ¬ s.Matched signalId d.subscriptionId) (hsignal : (s.signals.get signalId).isSome) :
    (insertMatch signalId receivedMs d s).Numbered := by
  obtain ⟨hrows,hsequence,hsignals⟩ := insertMatch_appends receivedMs hs hnew
  refine ⟨?_,fun m hm => ?_,fun m hm => ?_⟩
  · rw [hrows,List.pairwise_append]
    refine ⟨hs.ordered,List.pairwise_singleton _ _,fun m hm m' hm' => ?_⟩
    obtain rfl := List.mem_singleton.mp hm'
    have hle := (hs.range m hm).2
    change m.matchId < s.matchSequence + 1
    omega
  · rw [hrows] at hm
    rw [hsequence]
    rcases List.mem_append.mp hm with hm | hm
    · have hrange := hs.range m hm
      omega
    · obtain rfl := List.mem_singleton.mp hm
      exact ⟨Nat.succ_pos _,le_rfl⟩
  · rw [hrows] at hm
    rw [hsignals]
    rcases List.mem_append.mp hm with hm | hm
    · exact hs.stored m hm
    · obtain rfl := List.mem_singleton.mp hm
      exact hsignal

/-- The matches of a signal are written for the due subscriptions, in their order. -/
theorem insertMatches_spec (receivedMs : ℤ) (hs : s.Numbered) (hsignal : (s.signals.get signalId).isSome)
    (l : List DueMatch) (hdistinct : (l.map DueMatch.subscriptionId).Nodup)
    (hnew : ∀ d ∈ l, ¬ s.Matched signalId d.subscriptionId) :
    ((l.map (insertMatch signalId receivedMs)).foldl (fun s write => write s) s).Numbered ∧
      ((l.map (insertMatch signalId receivedMs)).foldl (fun s write => write s) s).signals =
        s.signals ∧
      ∀ id sub, ((l.map (insertMatch signalId receivedMs)).foldl (fun s write => write s) s).Matched
          id sub ↔ s.Matched id sub ∨ (id = signalId ∧ sub ∈ l.map DueMatch.subscriptionId) := by
  induction l generalizing s with
  | nil => exact ⟨hs,rfl,fun id sub => by simp⟩
  | cons d l ih =>
    obtain ⟨hfirst,hdistinct⟩ := List.nodup_cons.mp hdistinct
    have hd := hnew d (by simp)
    obtain ⟨hrows,-,hsignals⟩ := insertMatch_appends receivedMs hs hd
    have hmatched (id sub : String) : (insertMatch signalId receivedMs d s).Matched id sub ↔
        s.Matched id sub ∨ (id = signalId ∧ sub = d.subscriptionId) := by
      unfold Matched
      rw [hrows]
      simp only [List.mem_append,List.mem_singleton]
      constructor
      · rintro ⟨m,hm | rfl,hsub,hid⟩
        · exact Or.inl ⟨m,hm,hsub,hid⟩
        · exact Or.inr ⟨hid.symm,hsub.symm⟩
      · rintro (⟨m,hm,hsub,hid⟩ | ⟨rfl,rfl⟩)
        · exact ⟨m,Or.inl hm,hsub,hid⟩
        · exact ⟨_,Or.inr rfl,rfl,rfl⟩
    have ih := ih (insertMatch_numbered receivedMs hs hd hsignal)
      (by rw [hsignals]; exact hsignal) hdistinct (by
        intro d' hd' hbefore
        rcases (hmatched _ _).mp hbefore with hbefore | ⟨-,hsame⟩
        · exact hnew d' (List.mem_cons_of_mem _ hd') hbefore
        · exact hfirst (hsame ▸ List.mem_map_of_mem hd'))
    refine ⟨ih.1,ih.2.1.trans hsignals,fun id sub => (ih.2.2 id sub).trans ?_⟩
    rw [hmatched,List.map_cons,List.mem_cons]
    tauto

theorem numbered_of_matches (hs : s.Numbered) (hrows : s'.matchRows = s.matchRows)
    (hsequence : s'.matchSequence = s.matchSequence) (hsignals : s'.signals = s.signals) :
    s'.Numbered := by
  obtain ⟨hordered,hrange,hstored⟩ := hs
  exact ⟨by rw [hrows]; exact hordered,by rw [hrows,hsequence]; exact hrange,
    by rw [hrows,hsignals]; exact hstored⟩

end DiscoveryStore

section Steps

variable {w w' : World}

/-- The matches of every stored signal are those for the first due subscriptions of the time it was
stored, as many as the call wrote. -/
structure Kept (w : World) : Prop where
  numbered : w.store.Numbered
  first : ∀ id r, w.store.signals.get id = some r → ∃ f, w.first id = some f ∧ 0 < f.writes ∧
    ∀ sub, w.store.Matched id sub ↔
      sub ∈ (f.before.dueIds r.signal.body f.receivedMs).take (f.writes - 1)

/-- A call that writes neither signals nor matches. -/
theorem kept_elsewhere (hw : Kept w) {op : DiscoveryOp} (hstores : stores lib w.store op = none)
    (hrows : (op.exec lib w.store).matchRows = w.store.matchRows)
    (hsequence : (op.exec lib w.store).matchSequence = w.store.matchSequence)
    (hsignals : (op.exec lib w.store).signals = w.store.signals) : Kept (w.next lib op) := by
  refine ⟨DiscoveryStore.numbered_of_matches hw.numbered hrows hsequence hsignals,fun id r hr => ?_⟩
  change (op.exec lib w.store).signals.get id = some r at hr
  rw [hsignals] at hr
  obtain ⟨f,hf,hpos,hmatched⟩ := hw.first id r hr
  refine ⟨f,?_,hpos,fun sub => ?_⟩
  · simpa [World.next,hstores] using hf
  · change (op.exec lib w.store).Matched id sub ↔ _
    unfold DiscoveryStore.Matched
    rw [hrows]
    exact hmatched sub

theorem setProfile_tables {profileId : String} {topics capabilities languages : List String}
    {tenant : String} {enabled : Bool} {now : ℤ} {s s' : DiscoveryStore}
    (h : s.setProfile lib profileId topics capabilities languages tenant enabled now = .ok s') :
    ∃ profiles, s' = { s with profiles := profiles } := by
  simp only [DiscoveryStore.setProfile,bind_ok] at h
  obtain ⟨_,-,_,-,_,-,_,-,_,-,h⟩ := h
  exact ⟨_,(Except.ok.inj h).symm⟩

theorem addSubscription_tables {subscriptionId profileId : String}
    {intents topics capabilities languages : List String} {minScore maxAgeSeconds : ℤ}
    {enabled : Bool} {now : ℤ} {s s' : DiscoveryStore}
    (h : s.addSubscription lib subscriptionId profileId intents topics capabilities languages minScore
      maxAgeSeconds enabled now = .ok s') :
    ∃ subscriptions, s' = { s with subscriptions := subscriptions } := by
  simp only [DiscoveryStore.addSubscription,bind_ok] at h
  obtain ⟨_,-,_,-,_,-,_,-,_,-,_,-,_,-,_,-,_,-,h⟩ := h
  exact ⟨_,(Except.ok.inj h).symm⟩

theorem addFeedback_tables {subscriptionId signalId verdict note : String} {now : ℤ}
    {s s' : DiscoveryStore}
    (h : s.addFeedback lib subscriptionId signalId verdict note now = .ok s') :
    ∃ feedback, s' = { s with feedback := feedback } := by
  simp only [DiscoveryStore.addFeedback,bind_ok] at h
  obtain ⟨_,-,_,-,_,-,_,-,_,-,verdict,-,_,-,h⟩ := h
  split at h
  · simp only [bind_ok] at h
    obtain ⟨_,-,h⟩ := h
    exact ⟨s.feedback,(Except.ok.inj h).symm⟩
  · exact ⟨_,(Except.ok.inj h).symm⟩

/-- A new signal and what its call writes. -/
theorem ingest_stored {signal : Value} {source : String} {receivedMs : Option ℤ} {now : ℤ}
    {s : DiscoveryStore} {signalId : String} {count : ℕ} {writes : List (DiscoveryStore → DiscoveryStore)}
    (h : s.ingest lib signal source receivedMs now = .ok (.stored signalId count,writes)) :
    ∃ r : SignalRow, r.signalId = signalId ∧ s.signals.get signalId = none ∧
      writes = DiscoveryStore.insertSignal r :: (s.due r.signal.body (orClock receivedMs now)).map
        (DiscoveryStore.insertMatch signalId (orClock receivedMs now)) := by
  simp only [DiscoveryStore.ingest,bind_ok] at h
  obtain ⟨valid,-,source',-,h⟩ := h
  split at h
  · simp only [bind_ok] at h
    obtain ⟨_,-,h⟩ := h
    cases h
  · rename_i hnone
    split at h
    · cases h
    · obtain ⟨hreport,hwrites⟩ := Prod.mk.inj (Except.ok.inj h)
      obtain ⟨rfl,-⟩ := IngestReport.stored.inj hreport
      exact ⟨⟨valid,source',orClock receivedMs now⟩,rfl,hnone,hwrites.symm⟩

/-- A call on a signal that is known or expired writes nothing. -/
theorem ingest_idle {signal : Value} {source : String} {receivedMs : Option ℤ} {now : ℤ}
    {s : DiscoveryStore} {report : IngestReport} {writes : List (DiscoveryStore → DiscoveryStore)}
    (h : s.ingest lib signal source receivedMs now = .ok (report,writes))
    (hreport : ∀ signalId count, report ≠ .stored signalId count) : writes = [] := by
  simp only [DiscoveryStore.ingest,bind_ok] at h
  obtain ⟨valid,-,source',-,h⟩ := h
  split at h
  · simp only [bind_ok] at h
    obtain ⟨_,-,h⟩ := h
    exact (Prod.mk.inj (Except.ok.inj h)).2.symm
  · split at h
    · exact (Prod.mk.inj (Except.ok.inj h)).2.symm
    · obtain ⟨rfl,-⟩ := Prod.mk.inj (Except.ok.inj h)
      exact absurd rfl (hreport _ _)

theorem kept_stored (hw : Kept w) {signal : Value} {source : String} {receivedMs : Option ℤ} {now : ℤ}
    {count n : ℕ} {signalId : String} {writes : List (DiscoveryStore → DiscoveryStore)}
    (h : w.store.ingest lib signal source receivedMs now = .ok (.stored signalId count,writes)) :
    Kept (w.next lib (.ingest signal source receivedMs now (n + 1))) := by
  obtain ⟨row,hid,hnone,rfl⟩ := ingest_stored h
  obtain ⟨signals,hins⟩ := Table.insert_noMarks w.store.signals (r := row) (by rw [← hnone,← hid])
  have hget := Table.get_insert hins
  have hfirst : DiscoveryStore.insertSignal row w.store = { w.store with signals := signals } := by
    rw [DiscoveryStore.insertSignal,Table.insertOrIgnore,hins]
    rfl
  have hold (id : String) (hsome : (w.store.signals.get id).isSome) : (signals.get id).isSome := by
    rw [hget]
    split
    · rfl
    · exact hsome
  have hnumbered : (DiscoveryStore.insertSignal row w.store).Numbered := by
    rw [hfirst]
    exact ⟨hw.numbered.ordered,hw.numbered.range,fun m hm => hold _ (hw.numbered.stored m hm)⟩
  have hunmatched (sub : String) : ¬ (DiscoveryStore.insertSignal row w.store).Matched signalId sub := by
    rw [hfirst]
    rintro ⟨m,hm,-,hsig⟩
    have hstored := hw.numbered.stored m hm
    rw [hsig,hnone] at hstored
    cases hstored
  have hsignal : ((DiscoveryStore.insertSignal row w.store).signals.get signalId).isSome := by
    rw [hfirst]
    change (signals.get signalId).isSome
    rw [hget,if_pos hid.symm]
    rfl
  obtain ⟨hnumbered',hsignals,hmatched⟩ := DiscoveryStore.insertMatches_spec
    (orClock receivedMs now) hnumbered hsignal
    ((w.store.due row.signal.body (orClock receivedMs now)).take n)
    (by
      rw [List.map_take]
      exact DiscoveryStore.nodup_dueIds.sublist (List.take_sublist _ _))
    fun d _ => hunmatched d.subscriptionId
  have hexec : (DiscoveryOp.ingest signal source receivedMs now (n + 1)).exec lib w.store =
      (((w.store.due row.signal.body (orClock receivedMs now)).take n).map
        (DiscoveryStore.insertMatch signalId (orClock receivedMs now))).foldl (fun s write => write s)
          (DiscoveryStore.insertSignal row w.store) := by
    simp only [DiscoveryOp.exec,h]
    rw [List.take_succ_cons,List.foldl_cons,List.map_take]
  have hstores : stores lib w.store (.ingest signal source receivedMs now (n + 1)) =
      some (signalId,⟨w.store,orClock receivedMs now,n + 1⟩) := by
    simp only [stores,h]
    exact if_neg (Nat.succ_ne_zero n)
  refine ⟨by rw [← hexec] at hnumbered'; exact hnumbered',fun id r hr => ?_⟩
  change (DiscoveryOp.exec lib _ w.store).signals.get id = some r at hr
  rw [hexec,hsignals,hfirst] at hr
  change signals.get id = some r at hr
  rw [hget] at hr
  have hmatch (sub : String) : (w.next lib (.ingest signal source receivedMs now (n + 1))).store.Matched
      id sub ↔ w.store.Matched id sub ∨ (id = signalId ∧ sub ∈
        ((w.store.due row.signal.body (orClock receivedMs now)).take n).map DueMatch.subscriptionId) := by
    change DiscoveryStore.Matched (DiscoveryOp.exec lib _ w.store) id sub ↔ _
    rw [hexec,hmatched,hfirst]
    rfl
  by_cases hnew : id = signalId
  · subst hnew
    rw [if_pos hid.symm] at hr
    obtain rfl := Option.some.inj hr
    refine ⟨⟨w.store,orClock receivedMs now,n + 1⟩,?_,Nat.succ_pos n,fun sub => ?_⟩
    · simp [World.next,hstores]
    · rw [hmatch]
      have hnot := hunmatched sub
      rw [hfirst] at hnot
      change ¬ w.store.Matched id sub at hnot
      simp [hnot,DiscoveryStore.dueIds,List.map_take]
  · have hne : ¬ id = row.signalId := fun heq => hnew (heq.trans hid)
    rw [if_neg hne] at hr
    obtain ⟨f,hf,hpos,hbefore⟩ := hw.first id r hr
    refine ⟨f,?_,hpos,fun sub => ?_⟩
    · simpa [World.next,hstores,hnew] using hf
    · rw [hmatch]
      simpa [hnew] using hbefore sub

/-- A call that changes one of the other tables, or raises. -/
theorem kept_call (hw : Kept w) {op : DiscoveryOp} {r : Result DiscoveryStore}
    (hexec : op.exec lib w.store = DiscoveryOp.kept w.store r) (hstores : stores lib w.store op = none)
    (h : ∀ s', r = .ok s' → s'.matchRows = w.store.matchRows ∧
      s'.matchSequence = w.store.matchSequence ∧ s'.signals = w.store.signals) :
    Kept (w.next lib op) := by
  cases r with
  | error e =>
    have hsame : op.exec lib w.store = w.store := hexec
    refine kept_elsewhere hw hstores ?_ ?_ ?_ <;> rw [hsame]
  | ok s' =>
    have hsame : op.exec lib w.store = s' := hexec
    obtain ⟨hrows,hsequence,hsignals⟩ := h s' rfl
    refine kept_elsewhere hw hstores ?_ ?_ ?_ <;> rw [hsame] <;> assumption

theorem kept_step (hw : Kept w) (h : DiscoveryStep lib w w') : Kept w' := by
  obtain ⟨op,rfl⟩ := h
  cases op with
  | setProfile profileId topics capabilities languages tenant enabled now =>
    refine kept_call hw rfl rfl fun s' hs => ?_
    obtain ⟨profiles,rfl⟩ := setProfile_tables hs
    exact ⟨rfl,rfl,rfl⟩
  | addSubscription subscriptionId profileId intents topics capabilities languages minScore
      maxAgeSeconds enabled now =>
    refine kept_call hw rfl rfl fun s' hs => ?_
    obtain ⟨subscriptions,rfl⟩ := addSubscription_tables hs
    exact ⟨rfl,rfl,rfl⟩
  | addFeedback subscriptionId signalId verdict note now =>
    refine kept_call hw rfl rfl fun s' hs => ?_
    obtain ⟨feedback,rfl⟩ := addFeedback_tables hs
    exact ⟨rfl,rfl,rfl⟩
  | ingest signal source receivedMs now n =>
    cases hingest : w.store.ingest lib signal source receivedMs now with
    | error e =>
      refine kept_elsewhere hw ?_ ?_ ?_ ?_ <;> simp [DiscoveryOp.exec,stores,hingest]
    | ok r =>
      obtain ⟨report,writes⟩ := r
      cases report with
      | stored signalId count =>
        cases n with
        | zero => refine kept_elsewhere hw ?_ ?_ ?_ ?_ <;> simp [DiscoveryOp.exec,stores,hingest]
        | succ n => exact kept_stored hw hingest
      | duplicate signalId =>
        obtain rfl := ingest_idle hingest nofun
        refine kept_elsewhere hw ?_ ?_ ?_ ?_ <;> simp [DiscoveryOp.exec,stores,hingest]
      | expired signalId =>
        obtain rfl := ingest_idle hingest nofun
        refine kept_elsewhere hw ?_ ?_ ?_ ?_ <;> simp [DiscoveryOp.exec,stores,hingest]

theorem kept_run (h : Reaches (DiscoveryStep lib) .initial w) : Kept w := by
  refine Reaches.invariant (I := Kept) (fun _ _ => kept_step) ⟨⟨?_,?_,?_⟩,?_⟩ h
  · exact List.Pairwise.nil
  · exact fun m hm => by cases hm
  · exact fun m hm => by cases hm
  · exact fun id r hr => by cases hr

end Steps

section Feeds

variable {s : DiscoveryStore} {subscriptionId : String} {limit : ℕ} {current : ℤ}

theorem feedItem_cursor {m : MatchRow} {item : FeedItem} (h : s.feedItem m = some item) :
    item.cursor = m.matchId := by
  obtain ⟨_,-,rfl⟩ := Option.map_eq_some_iff.mp h
  rfl

theorem select_ordered (hs : s.Numbered) (p : MatchRow → Prop) [DecidablePred p] :
    (s.matchRows.select p).insertionSort (fun a b => a.matchId ≤ b.matchId) =
      s.matchRows.rows.filter fun m => p m :=
  List.Pairwise.insertionSort_eq ((hs.ordered.filter _).imp fun hlt => hlt.le)

/-- The query of a page reads on in the rows of the feed. -/
theorem feedRows_after (hs : s.Numbered) (subscriptionId : String) (after : ℕ) :
    s.feedRows subscriptionId after = rowsAfter FeedItem.cursor after (s.feedRows subscriptionId 0) := by
  have hall : s.matchRows.rows.filter (fun m => m.subscriptionId = subscriptionId ∧ 0 < m.matchId) =
      s.matchRows.rows.filter fun m => m.subscriptionId = subscriptionId := by
    refine List.filter_congr fun m hm => ?_
    simp [(hs.range m hm).1]
  unfold DiscoveryStore.feedRows rowsAfter
  rw [select_ordered hs,select_ordered hs,hall]
  simp only [Bool.decide_and]
  induction s.matchRows.rows with
  | nil => rfl
  | cons m rows ih =>
    by_cases hsub : m.subscriptionId = subscriptionId
    · cases hitem : s.feedItem m with
      | none => by_cases hafter : after < m.matchId <;> simp [hsub,hafter,hitem,ih]
      | some item =>
        have hcursor := feedItem_cursor hitem
        by_cases hafter : after < m.matchId <;> simp [hsub,hafter,hitem,hcursor,ih]
    · simp [hsub,ih]

theorem feedRows_ordered (hs : s.Numbered) (subscriptionId : String) :
    (s.feedRows subscriptionId 0).Pairwise (fun a b => a.cursor < b.cursor) ∧
      ∀ item ∈ s.feedRows subscriptionId 0, 0 < item.cursor := by
  unfold DiscoveryStore.feedRows
  rw [select_ordered hs]
  constructor
  · rw [List.pairwise_filterMap]
    refine (hs.ordered.filter _).imp fun hlt item hitem item' hitem' => ?_
    rw [feedItem_cursor hitem,feedItem_cursor hitem']
    exact hlt
  · intro item hitem
    obtain ⟨m,hm,hsome⟩ := List.mem_filterMap.mp hitem
    rw [feedItem_cursor hsome]
    exact (hs.range m (List.mem_of_mem_filter hm)).1

/-- A page of the feed is a page of the filtered log. -/
theorem feedPage_items (hs : s.Numbered) (subscriptionId : String) (after limit : ℕ) (current : ℤ) :
    (s.feedPage subscriptionId after limit current).items =
        filteredPage (FeedItem.live current) limit (limit * 4)
          (rowsAfter FeedItem.cursor after (s.feedRows subscriptionId 0)) ∧
      (s.feedPage subscriptionId after limit current).nextCursor =
        nextCursor FeedItem.cursor after (s.feedPage subscriptionId after limit current).items := by
  refine ⟨?_,rfl⟩
  unfold DiscoveryStore.feedPage
  rw [feedRows_after hs]
  rfl

/-- The pages that follow `next_cursor` from cursor 0. -/
def pages (s : DiscoveryStore) (subscriptionId : String) (limit : ℕ) (current : ℤ) : ℕ → FeedPage
  | 0 => s.feedPage subscriptionId 0 limit current
  | n + 1 => s.feedPage subscriptionId (pages s subscriptionId limit current n).nextCursor limit current

theorem pages_eq (hs : s.Numbered) (n : ℕ) :
    (pages s subscriptionId limit current n).items = readPage FeedItem.cursor (FeedItem.live current)
        limit (limit * 4) (s.feedRows subscriptionId 0) n ∧
      (pages s subscriptionId limit current n).nextCursor = pageCursor FeedItem.cursor
        (FeedItem.live current) limit (limit * 4) (s.feedRows subscriptionId 0) (n + 1) := by
  induction n with
  | zero =>
    obtain ⟨hitems,hnext⟩ := feedPage_items hs subscriptionId 0 limit current
    exact ⟨hitems,hnext.trans (by rw [hitems]; rfl)⟩
  | succ n ih =>
    obtain ⟨hitems,hnext⟩ := feedPage_items hs subscriptionId
      (pages s subscriptionId limit current n).nextCursor limit current
    rw [ih.2] at hitems hnext
    unfold pages
    rw [ih.2]
    exact ⟨hitems,hnext.trans (by rw [hitems]; rfl)⟩

/-- Following `next_cursor` from cursor 0 returns the unexpired matches of the subscription, each once
and in their order, and a page that is not limited leaves none of them. -/
def Complete (s : DiscoveryStore) (subscriptionId : String) (limit : ℕ) (current : ℤ) : Prop :=
  (∃ N, ∀ n, N ≤ n → (List.range n).flatMap (fun i =>
      (pages s subscriptionId limit current i).items) =
        (s.feedRows subscriptionId 0).filter fun item => item.live current) ∧
    ∀ n, (pages s subscriptionId limit current n).limited = false →
      ∀ item ∈ s.feedRows subscriptionId 0, item.live current →
        item.cursor ≤ (pages s subscriptionId limit current n).nextCursor

theorem complete_iff (hs : s.Numbered) (hlimit : 0 < limit) :
    Complete s subscriptionId limit current ↔
      Dense (FeedItem.live current) limit (limit * 4) (s.feedRows subscriptionId 0) := by
  obtain ⟨hordered,hpos⟩ := feedRows_ordered hs subscriptionId
  rw [← readsAll_iff hordered hpos hlimit]
  have hitems : (fun i => (pages s subscriptionId limit current i).items) = readPage FeedItem.cursor
      (FeedItem.live current) limit (limit * 4) (s.feedRows subscriptionId 0) :=
    funext fun n => (pages_eq hs n).1
  have hlimited (n : ℕ) : (pages s subscriptionId limit current n).limited = false ↔
      (readPage FeedItem.cursor (FeedItem.live current) limit (limit * 4)
        (s.feedRows subscriptionId 0) n).length < limit := by
    have hle : (readPage FeedItem.cursor (FeedItem.live current) limit (limit * 4)
        (s.feedRows subscriptionId 0) n).length ≤ limit := List.length_take_le _ _
    have hflag : (pages s subscriptionId limit current n).limited =
        decide ((pages s subscriptionId limit current n).items.length = limit) := by
      cases n <;> rfl
    rw [hflag,(pages_eq hs n).1,decide_eq_false_iff_not]
    omega
  unfold Complete ReadsAll
  rw [hitems]
  refine and_congr_right fun _ => forall_congr' fun n => ?_
  rw [hlimited,(pages_eq hs n).2]

/-- The pages are what `feed` returns. -/
theorem feed_pages {value : String} {lower : ℤ} {nowValue : Option ℤ} {now : ℤ}
    (hid : localId lib "subscription ID" value = .ok subscriptionId)
    (hlimit : 1 ≤ lower ∧ lower ≤ 200) (hcurrent : orClock nowValue now = current) (n : ℕ) :
    s.feed lib value (if n = 0 then 0 else
        (pages s subscriptionId lower.toNat current (n - 1)).nextCursor) lower nowValue now =
      .ok (pages s subscriptionId lower.toNat current n) := by
  unfold DiscoveryStore.feed
  cases n with
  | zero =>
    refine bind_ok.mpr ⟨subscriptionId,hid,bind_ok.mpr ⟨(),raiseIf_ok.mpr ?_,?_⟩⟩
    · simp [hlimit]
    · rw [hcurrent]
      rfl
  | succ n =>
    refine bind_ok.mpr ⟨subscriptionId,hid,bind_ok.mpr ⟨(),raiseIf_ok.mpr ?_,?_⟩⟩
    · simp [hlimit]
    · rw [hcurrent]
      simp [pages]
      rfl

end Feeds

/-- In every run, a stored signal is matched to exactly the subscriptions that were due when it was
stored if and only if the call that stored it wrote all their matches; and the pages of a feed are
complete if and only if no page falls short with an unexpired match beyond its window. -/
theorem discovery_feeds_iff (lib : Library) {w : World}
    (h : Reaches (DiscoveryStep lib) .initial w) :
    (∀ id r, w.store.signals.get id = some r → ∃ f, w.first id = some f ∧
      ((∀ sub, w.store.Matched id sub ↔ f.before.Due r.signal.body f.receivedMs sub) ↔
        (f.before.due r.signal.body f.receivedMs).length < f.writes)) ∧
    ∀ value subscriptionId (limit : ℤ) nowValue now,
      localId lib "subscription ID" value = .ok subscriptionId → 1 ≤ limit ∧ limit ≤ 200 →
      (∀ n, w.store.feed lib value (if n = 0 then 0 else (pages w.store subscriptionId limit.toNat
          (orClock nowValue now) (n - 1)).nextCursor) limit nowValue now =
        .ok (pages w.store subscriptionId limit.toNat (orClock nowValue now) n)) ∧
      (Complete w.store subscriptionId limit.toNat (orClock nowValue now) ↔
        Dense (FeedItem.live (orClock nowValue now)) limit.toNat (limit.toNat * 4)
          (w.store.feedRows subscriptionId 0)) := by
  have hkept := kept_run h
  constructor
  · intro id r hr
    obtain ⟨f,hf,hpos,hmatched⟩ := hkept.first id r hr
    refine ⟨f,hf,?_⟩
    have hlength : (f.before.due r.signal.body f.receivedMs).length =
        (f.before.dueIds r.signal.body f.receivedMs).length := (List.length_map _).symm
    rw [hlength]
    constructor
    · intro hall
      by_contra hshort
      have hsplit := List.take_append_drop (f.writes - 1) (f.before.dueIds r.signal.body f.receivedMs)
      obtain ⟨sub,hsub⟩ : ∃ sub,
          sub ∈ (f.before.dueIds r.signal.body f.receivedMs).drop (f.writes - 1) :=
        List.exists_mem_of_length_pos (by rw [List.length_drop]; omega)
      have hdue := DiscoveryStore.mem_dueIds.mp (List.mem_of_mem_drop hsub)
      have htake := (hmatched sub).mp ((hall sub).mpr hdue)
      have hnodup : (f.before.dueIds r.signal.body f.receivedMs).Nodup := DiscoveryStore.nodup_dueIds
      rw [← hsplit] at hnodup
      exact List.disjoint_of_nodup_append hnodup htake hsub
    · intro hlong sub
      rw [hmatched,List.take_of_length_le (by omega)]
      exact DiscoveryStore.mem_dueIds
  · intro value subscriptionId limit nowValue now hid hlimit
    exact ⟨fun n => feed_pages hid hlimit rfl n,complete_iff hkept.numbered (by omega)⟩

section Sample

def sampleLibrary : Library where
  str v := match v with | .str s => s | _ => ""
  lower := Anet.lower
  digest body := checksum 16 (utf8 body.summary)

def sampleBody (summary : String) (expiresMs : ℤ) : SignalBody :=
  ⟨1000,expiresMs,.need,summary,[],[],[],.publicly,"",[("adapter","cli"),("source","operator")]⟩

/-- A signal that is told by its summary. -/
def sampleSignal (summary : String) (expiresMs : ℤ) : Value :=
  .map [(.str "protocol",.str discoveryProtocol),(.str "version",.int 1),
    (.str "signal_id",.str (sampleLibrary.digest (sampleBody summary expiresMs))),
    (.str "published_ms",.int 1000),(.str "expires_ms",.int expiresMs),(.str "intent",.str "need"),
    (.str "summary",.str summary),(.str "topics",.list []),(.str "capabilities",.list []),
    (.str "languages",.list []),(.str "visibility",.str "public"),(.str "tenant",.str ""),
    (.str "provenance",.map [(.str "source",.str "operator"),(.str "adapter",.str "cli")])]

def declare : List DiscoveryOp :=
  [.setProfile "default" [] [] [] "" true 1000,
    .addSubscription "needs" "default" [] [] [] [] 1 86400 true 1000]

def takeIn (summary : String) (expiresMs : ℤ) (writes : ℕ) : DiscoveryOp :=
  .ingest (sampleSignal summary expiresMs) "agent-main" (some 2000) 2000 writes

def ran (ops : List DiscoveryOp) : World := ops.foldl (World.next sampleLibrary) .initial

theorem ran_reachable (ops : List DiscoveryOp) :
    Reaches (DiscoveryStep sampleLibrary) .initial (ran ops) := by
  have hrun (w : World) :
      Reaches (DiscoveryStep sampleLibrary) w (ops.foldl (World.next sampleLibrary) w) := by
    induction ops generalizing w with
    | nil => exact .refl
    | cons op ops ih => exact .head ⟨op,rfl⟩ (ih (w.next sampleLibrary op))
  exact hrun .initial

/-- A signal that is taken in whole, and one that had expired before. -/
def wholeRun : World := ran (declare ++ [takeIn "first" 90000 2])

/-- A call that stopped after the row of the signal, and the same signal again. -/
def stoppedRun : World := ran (declare ++ [takeIn "first" 90000 1,takeIn "first" 90000 2])

/-- Four matches that expire before the fifth. -/
def agedRun : World := ran (declare ++ [takeIn "first" 5000 2,takeIn "second" 5000 2,
  takeIn "third" 5000 2,takeIn "fourth" 5000 2,takeIn "fifth" 90000 2])

def firstId : String := sampleLibrary.digest (sampleBody "first" 90000)

theorem wholeRun_stored : ((wholeRun.store.signals.get firstId).bind fun r =>
    (wholeRun.first firstId).map fun f => (decide ((f.before.due r.signal.body f.receivedMs).length <
      f.writes),wholeRun.store.matchRows.rows.map MatchRow.subscriptionId)) = some (true,["needs"]) := by
  decide +kernel

/-- A signal that is taken in whole is matched, and one page of one item shows it. -/
theorem discovery_feeds_iff_sample :
    (∃ r f, wholeRun.store.signals.get firstId = some r ∧ wholeRun.first firstId = some f ∧
      ∀ sub, wholeRun.store.Matched firstId sub ↔ f.before.Due r.signal.body f.receivedMs sub) ∧
    wholeRun.store.feed sampleLibrary "needs" 0 1 (some 6000) 6000 =
      .ok (pages wholeRun.store "needs" 1 6000 0) := by
  have hfeeds := discovery_feeds_iff sampleLibrary (ran_reachable
    (declare ++ [takeIn "first" 90000 2]))
  constructor
  · obtain ⟨r,hr,hstored⟩ := Option.bind_eq_some_iff.mp wholeRun_stored
    obtain ⟨f,hf,hvalues⟩ := Option.map_eq_some_iff.mp hstored
    obtain ⟨f',hf',hiff⟩ := hfeeds.1 firstId r hr
    obtain rfl := Option.some.inj (hf.symm.trans hf')
    exact ⟨r,f,hr,hf,hiff.mpr (of_decide_eq_true (Prod.mk.inj hvalues).1)⟩
  · exact (hfeeds.2 "needs" "needs" 1 (some 6000) 6000 (by decide) (by decide)).1 0

theorem stoppedRun_stored : ((stoppedRun.store.signals.get firstId).bind fun r =>
    (stoppedRun.first firstId).map fun f => (f.before.dueIds r.signal.body f.receivedMs,
      stoppedRun.store.matchRows.rows.map MatchRow.subscriptionId)) = some (["needs"],[]) := by
  decide +kernel

theorem agedRun_short : ((agedRun.store.feedRows "needs" 0).take 4).all
      (fun item => !decide (item.live 6000)) ∧
    ((agedRun.store.feedRows "needs" 0).drop 4).any fun item => decide (item.live 6000) := by
  decide +kernel

theorem not_dense {rows : List FeedItem} (hdead : (rows.take 4).all fun item =>
    !decide (item.live 6000)) (hlater : (rows.drop 4).any fun item => decide (item.live 6000)) :
    ¬ Dense (FeedItem.live 6000) 1 (1 * 4) rows := by
  intro hdense
  have hfirst := hdense 0
  rw [Nat.zero_mul,afterLive] at hfirst
  rcases hfirst with hfull | hnil
  · obtain ⟨item,hitem⟩ := List.exists_mem_of_length_pos (Nat.lt_of_lt_of_le Nat.zero_lt_one hfull)
    obtain ⟨hmem,hlive⟩ := List.mem_filter.mp hitem
    have hnone := List.all_eq_true.mp hdead item hmem
    rw [hlive] at hnone
    cases hnone
  · obtain ⟨item,hmem,hlive⟩ := List.any_eq_true.mp hlater
    exact List.filter_eq_nil_iff.mp hnil item hmem hlive

/-- A signal whose call stopped before its match is stored without the match, also after it was taken
in again; and behind four expired matches a page of one item shows nothing and is not limited. -/
theorem discovery_match_lost :
    (∃ w id r f sub, Reaches (DiscoveryStep sampleLibrary) .initial w ∧
      w.store.signals.get id = some r ∧ w.first id = some f ∧
      f.before.Due r.signal.body f.receivedMs sub ∧ ¬ w.store.Matched id sub) ∧
    ∃ w, Reaches (DiscoveryStep sampleLibrary) .initial w ∧ ¬ Complete w.store "needs" 1 6000 := by
  constructor
  · obtain ⟨r,hr,hstored⟩ := Option.bind_eq_some_iff.mp stoppedRun_stored
    obtain ⟨f,hf,hvalues⟩ := Option.map_eq_some_iff.mp hstored
    obtain ⟨hdue,hnone⟩ := Prod.mk.inj hvalues
    refine ⟨stoppedRun,firstId,r,f,"needs",ran_reachable _,hr,hf,?_,?_⟩
    · rw [← DiscoveryStore.mem_dueIds,hdue]
      exact List.mem_singleton_self _
    · rintro ⟨m,hm,-,-⟩
      rw [List.map_eq_nil_iff] at hnone
      rw [hnone] at hm
      cases hm
  · refine ⟨agedRun,ran_reachable _,fun hcomplete => ?_⟩
    exact not_dense agedRun_short.1 agedRun_short.2
      ((complete_iff (kept_run (ran_reachable _)).numbered (by decide)).mp hcomplete)

end Sample

end Anet.Discovery
