import Anet.Routing

/-! Runs of the router for one peer: what makes it leave a route, and whom it pushes to. The
results and the switches of a run are kept beside the store, the newest first. -/
namespace Anet

/-- Carriers under different names, as the configuration checks. -/
structure CarrierSet where
  carriers : List CarrierConfig
  names : (carriers.map CarrierConfig.name).Nodup

inductive RouteAction (lib : RouteNumbers)
  | record (pathId : String) (success : Bool) (latency : lib.Number) (error : String) (now : ℤ)
  | decide (hasDirect : Bool) (now later : ℤ)

structure RouteWorld (lib : RouteNumbers) where
  store : RouteStore lib
  clock : ℤ
  results : List (String × Bool)
  switches : List (String × ℤ)

variable {lib : RouteNumbers} (cfg : RoutingConfig) (set : CarrierSet) (peerId : String)

namespace RouteWorld

def initial (clock : ℤ) : RouteWorld lib := ⟨.empty,clock,[],[]⟩

/-- The number of results of this kind that a path has had since one of the other kind. -/
def trailing (w : RouteWorld lib) (success : Bool) (pathId : String) : ℕ :=
  ((w.results.filter fun r => r.1 = pathId).takeWhile fun r => r.2 = success).length

def exec (w : RouteWorld lib) : RouteAction lib → RouteWorld lib
  | .record pathId success latency error now =>
    match w.store.recordPathResult peerId pathId success latency error now with
    | .ok s => { w with store := s, clock := now, results := (pathId,success) :: w.results }
    | .error _ => { w with clock := now }
  | .decide hasDirect now later =>
    match w.store.decide cfg peerId hasDirect set.carriers now later with
    | .ok (d,s) => { w with
        store := s
        clock := later
        switches := if d.changed then (d.selectedPath,later) :: w.switches else w.switches }
    | .error _ => { w with clock := later }

/-- The clock does not go back. -/
def Timely (w : RouteWorld lib) : RouteAction lib → Prop
  | .record _ _ _ _ now => w.clock ≤ now
  | .decide _ now later => w.clock ≤ now ∧ now ≤ later

def RouteStep (w w' : RouteWorld lib) : Prop :=
  ∃ a, w.Timely a ∧ w' = w.exec cfg set peerId a

/-- What a decision may do: it leaves a working fallback only after the cooldown and for a path
that has recovered, and direct only when it has failed or is not there; it pushes to usable
carriers, everything to the selected one, and to no more than the replicas. -/
structure Hysteresis (w : RouteWorld lib) (hasDirect : Bool) (later : ℤ) (d : RouteDecision) :
    Prop where
  fallback : ∀ c ∈ set.carriers, c.Usable → ∀ switched,
    w.switches.head? = some (c.pathId,switched) →
    w.trailing false c.pathId < cfg.carrierFailureThreshold → d.selectedPath ≠ c.pathId →
    switched + cfg.switchCooldownMs ≤ later ∧
      ((d.selectedPath = "direct" ∧ cfg.directRecoveryThreshold ≤ w.trailing true "direct") ∨
        ∃ b ∈ set.carriers, d.selectedPath = b.pathId ∧
          cfg.carrierRecoveryThreshold ≤ w.trailing true b.pathId)
  direct : ∀ c ∈ set.carriers, d.selectedPath = c.pathId → ∀ switched,
    w.switches.head? = some ("direct",switched) → hasDirect = true →
    cfg.directFailureThreshold ≤ w.trailing false "direct"
  available : d.selectedPath = "direct" → hasDirect = true
  pushed : ∀ name, (d.pushQos name).Nonempty → ∃ c ∈ set.carriers, c.name = name
  silent : ∀ c ∈ set.carriers, c.enabled = false ∨ c.mode = .receiveOnly → d.pushQos c.name = ∅
  selected : ∀ c ∈ set.carriers, d.selectedPath = c.pathId → d.pushQos c.name = .univ
  replicas : (set.carriers.filter fun c =>
    (d.pushQos c.name).Nonempty ∧ c.mode ≠ .always).length ≤ cfg.carrierReplicaCount

end RouteWorld

section Names

theorem CarrierConfig.pathId_toList (c : CarrierConfig) :
    c.pathId.toList = (kindName c.kind).toList ++ ':' :: c.name.toList := by
  simp [pathId]

theorem CarrierConfig.kindName_colon (k : CarrierKind) : ':' ∉ (kindName k).toList := by
  cases k <;> decide

theorem CarrierConfig.pathId_colon (c : CarrierConfig) :
    c.pathId.toList.dropWhile (· ≠ ':') = ':' :: c.name.toList := by
  have hkind : ∀ x ∈ (kindName c.kind).toList, decide (x ≠ ':') = true := by
    intro x hx
    apply decide_eq_true
    rintro rfl
    exact kindName_colon c.kind hx
  rw [pathId_toList,List.dropWhile_append_of_pos hkind]
  simp

/-- A path names its carrier. -/
theorem CarrierConfig.pathId_name {a b : CarrierConfig} (h : a.pathId = b.pathId) :
    a.name = b.name := by
  have hnames : ':' :: a.name.toList = ':' :: b.name.toList := by
    rw [← pathId_colon,← pathId_colon,h]
  exact String.toList_inj.mp (List.cons.inj hnames).2

theorem CarrierConfig.pathId_reserved (c : CarrierConfig) : c.pathId ∉ ["","direct","none"] := by
  have hcolon : ':' ∈ c.pathId.toList := by
    rw [pathId_toList]
    simp
  intro h
  simp only [List.mem_cons,List.not_mem_nil,or_false] at h
  rcases h with h | h | h
  all_goals
    rw [h] at hcolon
    revert hcolon
    decide

/-- Carriers of one set that have the same name are the same. -/
theorem CarrierSet.eq_of_name {a b : CarrierConfig} (ha : a ∈ set.carriers) (hb : b ∈ set.carriers)
    (h : a.name = b.name) : a = b :=
  List.inj_on_of_nodup_map set.names ha hb h

end Names

namespace RouteStore

variable {s : RouteStore lib} {peerId} {carriers : List CarrierConfig} {c : CarrierConfig}

section Choice

theorem mem_usable : c ∈ s.usable peerId carriers ↔ c ∈ carriers ∧ c.Usable := by
  simp [usable,List.mem_insertionSort]

theorem mem_healthy (h : c ∈ s.healthy cfg peerId carriers) : c ∈ s.usable peerId carriers :=
  List.mem_of_mem_filter h

theorem mem_candidates (h : c ∈ s.candidates cfg peerId carriers) :
    c ∈ s.usable peerId carriers := by
  unfold candidates at h
  split_ifs at h
  · exact h
  · exact mem_healthy cfg h

theorem best_usable (h : s.best cfg peerId carriers = some c) : c ∈ s.usable peerId carriers :=
  mem_candidates cfg (List.mem_of_mem_head? (Option.mem_def.mpr h))

variable {hasDirect : Bool} {now : ℤ}

/-- A fallback that works is held, or left after the cooldown for a path that has recovered. -/
theorem leaveFallback_held (hworks : s.consecutiveFailures peerId (s.currentPath peerId) <
      cfg.carrierFailureThreshold) :
    (s.leaveFallback cfg peerId hasDirect carriers now).1 = s.currentPath peerId ∨
    (s.CooledDown cfg peerId now ∧
      (((s.leaveFallback cfg peerId hasDirect carriers now).1 = "direct" ∧
        cfg.directRecoveryThreshold ≤ s.consecutiveSuccesses peerId "direct") ∨
      ∃ b ∈ s.usable peerId carriers,
        (s.leaveFallback cfg peerId hasDirect carriers now).1 = b.pathId ∧
        cfg.carrierRecoveryThreshold ≤ s.consecutiveSuccesses peerId b.pathId)) := by
  simp only [leaveFallback,if_neg hworks.not_ge]
  split_ifs with hdirect
  · exact .inr ⟨hdirect.2.2,.inl ⟨rfl,hdirect.2.1⟩⟩
  · cases hpreferred : (s.best cfg peerId carriers).filter fun c =>
      c.pathId ≠ s.currentPath peerId ∧ s.CooledDown cfg peerId now ∧
        cfg.carrierRecoveryThreshold ≤ s.consecutiveSuccesses peerId c.pathId with
    | none => exact .inl rfl
    | some b =>
      obtain ⟨hbest,hrecovered⟩ := Option.filter_eq_some_iff.mp hpreferred
      obtain ⟨-,hcooled,hsuccesses⟩ := of_decide_eq_true hrecovered
      exact .inr ⟨hcooled,.inr ⟨b,best_usable cfg hbest,rfl,hsuccesses⟩⟩

theorem leaveFallback_choice :
    (s.leaveFallback cfg peerId hasDirect carriers now).1 = s.currentPath peerId ∨
    ((s.leaveFallback cfg peerId hasDirect carriers now).1 = "direct" ∧ hasDirect = true) ∨
    ∃ b ∈ s.usable peerId carriers,
      (s.leaveFallback cfg peerId hasDirect carriers now).1 = b.pathId := by
  unfold leaveFallback
  dsimp only
  split
  · rename_i b hfailed
    split_ifs at hfailed
    have hb := List.mem_of_mem_filter (List.mem_of_mem_head? (Option.mem_def.mpr hfailed))
    exact .inr (.inr ⟨b,mem_healthy cfg hb,rfl⟩)
  · split
    · rename_i hdirect
      exact .inr (.inl ⟨rfl,hdirect.1⟩)
    · split
      · rename_i b hpreferred
        exact .inr (.inr ⟨b,best_usable cfg (Option.filter_eq_some_iff.mp hpreferred).1,rfl⟩)
      · exact .inl rfl

/-- The choice is direct where it is there, a usable carrier, or nothing. -/
theorem choose_choice :
    ((s.choose cfg peerId hasDirect carriers now).1 = "direct" ∧ hasDirect = true) ∨
    (s.choose cfg peerId hasDirect carriers now).1 = "none" ∨
    ∃ b ∈ s.usable peerId carriers,
      (s.choose cfg peerId hasDirect carriers now).1 = b.pathId := by
  have hbest (other : String) : ((s.best cfg peerId carriers).map CarrierConfig.pathId).getD other =
      other ∨ ∃ b ∈ s.usable peerId carriers,
        ((s.best cfg peerId carriers).map CarrierConfig.pathId).getD other = b.pathId := by
    cases hfound : s.best cfg peerId carriers with
    | none => exact .inl rfl
    | some b => exact .inr ⟨b,best_usable cfg hfound,rfl⟩
  unfold choose
  dsimp only
  split
  · split
    · rename_i hcurrent
      obtain ⟨c,hc,hid⟩ := List.any_eq_true.mp hcurrent
      rcases leaveFallback_choice cfg with hheld | hleft | hleft
      · exact .inr (.inr ⟨c,hc,hheld.trans (of_decide_eq_true hid).symm⟩)
      · exact .inl hleft
      · exact .inr (.inr hleft)
    · cases hasDirect with
      | false => exact .inr (hbest "none")
      | true =>
        rcases hbest "direct" with hnone | hsome
        · exact .inl ⟨hnone,rfl⟩
        · exact .inr (.inr hsome)
  · split
    · exact .inr (hbest "none")
    · rename_i hdirect
      split
      · rename_i b hb
        split_ifs at hb
        exact .inr (.inr ⟨b,best_usable cfg hb,rfl⟩)
      · exact .inl ⟨rfl,not_not.mp hdirect⟩

/-- Direct is left for a carrier when it has failed, or is not there. -/
theorem choose_leaves_direct (hpath : s.currentPath peerId = "direct")
    (hselected : (s.choose cfg peerId hasDirect carriers now).1 = c.pathId)
    (hdirect : hasDirect = true) :
    cfg.directFailureThreshold ≤ s.consecutiveFailures peerId "direct" := by
  by_contra hworks
  have hkept : (s.choose cfg peerId hasDirect carriers now).1 = "direct" := by
    simp [choose,hpath,hdirect,hworks]
  rw [hkept] at hselected
  exact c.pathId_reserved (by simp [← hselected])

end Choice

section Push

variable {qos : Finset QosClass} {pushed : String → Finset QosClass}

/-- What a loop over carriers pushes to a name. -/
theorem foldl_push (l : List CarrierConfig) (name : String) : l.foldl (push qos) pushed name =
    pushed name ∪ if name ∈ l.map CarrierConfig.name then qos else ∅ := by
  induction l generalizing pushed with
  | nil => simp
  | cons c l ih =>
    rw [List.foldl_cons,ih]
    by_cases hname : name = c.name
    · subst hname
      simp only [push,Function.update_self,List.map_cons,List.mem_cons,true_or,if_true]
      split_ifs <;> simp
    · simp [push,hname]

variable (peerId carriers) in
/-- A decision pushes everything to the carriers in mode always, and one set of classes to at
most as many replicas as are configured; to the selected carrier among them everything. -/
theorem pushQos_shape (selected : String) : ∃ (replicas : List CarrierConfig) (qos : Finset QosClass),
    (∀ c ∈ replicas, c ∈ s.usable peerId carriers) ∧ replicas.length ≤ cfg.carrierReplicaCount ∧
    (∀ c ∈ s.usable peerId carriers, c.pathId = selected →
      c.name ∈ replicas.map CarrierConfig.name ∧ qos = .univ) ∧
    ∀ name, s.pushQos cfg peerId selected carriers name =
      (if name ∈ (carriers.filter fun c => c.Usable ∧ c.mode = .always).map CarrierConfig.name
        then .univ else ∅) ∪
      if name ∈ replicas.map CarrierConfig.name then qos else ∅ := by
  have halways (name : String) :
      (carriers.filter fun c => c.Usable ∧ c.mode = .always).foldl (push .univ) (fun _ => ∅) name =
        if name ∈ (carriers.filter fun c => c.Usable ∧ c.mode = .always).map CarrierConfig.name
          then .univ else ∅ := by
    rw [foldl_push,Finset.empty_union]
  cases hfound : (s.usable peerId carriers).find? fun c => c.pathId = selected with
  | some chosen =>
    have hid : chosen.pathId = selected := by simpa using List.find?_some hfound
    obtain ⟨n,hn⟩ := Nat.exists_eq_add_of_le' cfg.replicas
    refine ⟨(chosen :: (s.candidates cfg peerId carriers).filter fun c =>
      c.pathId ≠ chosen.pathId).take cfg.carrierReplicaCount,.univ,?_,List.length_take_le _ _,?_,
      fun name => ?_⟩
    · intro c hc
      rcases List.mem_cons.mp (List.mem_of_mem_take hc) with rfl | hc
      · exact List.mem_of_find?_eq_some hfound
      · exact mem_candidates cfg (List.mem_of_mem_filter hc)
    · intro c _ hselected
      refine ⟨?_,rfl⟩
      rw [CarrierConfig.pathId_name (hselected.trans hid.symm),hn,List.take_succ_cons,List.map_cons]
      exact List.mem_cons_self ..
    · simp only [pushQos,hfound]
      rw [foldl_push,halways]
  | none =>
    have hother : ∀ c ∈ s.usable peerId carriers, c.pathId ≠ selected := by
      simpa using hfound
    by_cases hracing : selected = "direct" ∧ 1 ≤ s.consecutiveFailures peerId "direct"
    · refine ⟨(s.candidates cfg peerId carriers).take cfg.carrierReplicaCount,fastFailoverQos,?_,
        List.length_take_le _ _,?_,fun name => ?_⟩
      · intro c hc
        exact mem_candidates cfg (List.mem_of_mem_take hc)
      · intro c hc hselected
        exact absurd hselected (hother c hc)
      · simp only [pushQos,hfound,if_pos hracing]
        rw [foldl_push,halways]
    · refine ⟨[],∅,by simp,by simp,?_,fun name => ?_⟩
      · intro c hc hselected
        exact absurd hselected (hother c hc)
      · simp only [pushQos,hfound,if_neg hracing]
        rw [halways]
        simp

end Push

section Effects

variable {pathId : String} {success : Bool}

/-- A result lengthens the run of its own kind on its path, and ends the other. -/
theorem recordPathResult_effect (peerId pathId : String) (success : Bool) (latency : lib.Number)
    (error : String) (now : ℤ) (s : RouteStore lib) : ∃ s',
    s.recordPathResult peerId pathId success latency error now = .ok s' ∧ s'.routes = s.routes ∧
    ∀ path, s'.consecutiveFailures peerId path =
        (if path = pathId then if success then 0 else s.consecutiveFailures peerId pathId + 1
          else s.consecutiveFailures peerId path) ∧
      s'.consecutiveSuccesses peerId path =
        (if path = pathId then if success then s.consecutiveSuccesses peerId pathId + 1 else 0
          else s.consecutiveSuccesses peerId path) := by
  unfold recordPathResult
  dsimp only
  generalize hrow : (⟨peerId,pathId,1,success.toNat,(!success).toNat,success.toNat,(!success).toNat,
    _,now,_,_,_⟩ : PathMetric lib) = row
  obtain ⟨metrics,hmetrics⟩ := Table.upsert_noMarks s.metrics row (fun r => { r with
      attempts := r.attempts + 1
      successes := r.successes + success.toNat
      failures := r.failures + (!success).toNat
      consecutiveSuccesses := if success then r.consecutiveSuccesses + 1 else 0
      consecutiveFailures := if success then 0 else r.consecutiveFailures + 1
      ewmaRttMs := row.ewmaRttMs
      lastAttemptMs := now
      lastOkMs := if success then now else r.lastOkMs
      lastFailureMs := if success then r.lastFailureMs else now
      lastError := row.lastError }) fun _ => rfl
  have hget := Table.get_upsert hmetrics
  subst hrow
  refine ⟨{ s with metrics := metrics },bind_ok.mpr ⟨metrics,fetched_ok.mpr hmetrics,rfl⟩,rfl,?_⟩
  intro path
  simp only [consecutiveFailures,consecutiveSuccesses,hget,PathMetric.key,Prod.mk.injEq,true_and]
  by_cases hpath : path = pathId
  · subst hpath
    cases s.metrics.get (peerId,path) <;> cases success <;> simp
  · simp [hpath]

/-- The path of a row with the time it was switched to. -/
def mark (peerId : String) (s : RouteStore lib) : Option (String × ℤ) :=
  (s.routes.get peerId).map fun r => (r.selectedPath,r.switchedMs)

/-- A route that stays keeps the time of its switch. -/
theorem setRoute_effect (peerId selected reason : String) (now : ℤ) (s : RouteStore lib) : ∃ s',
    s.setRoute peerId selected reason now = .ok s' ∧ s'.metrics = s.metrics ∧
    s'.mark peerId = if (s.mark peerId).any fun m => m.1 = selected then s.mark peerId
      else some (selected,now) := by
  unfold setRoute
  cases hrow : s.routes.get peerId with
  | none =>
    obtain ⟨routes,hroutes⟩ := Table.upsert_noMarks s.routes
      ⟨peerId,selected,now,cut 500 reason⟩ (fun r => { r with
        selectedPath := selected, switchedMs := now, reason := cut 500 reason }) fun _ => rfl
    refine ⟨{ s with routes := routes },?_,rfl,?_⟩
    · rw [if_neg (by simp)]
      exact bind_ok.mpr ⟨routes,fetched_ok.mpr hroutes,rfl⟩
    · simp [mark,Table.get_upsert hroutes,hrow]
  | some r =>
    by_cases hsame : r.selectedPath = selected
    · refine ⟨_,if_pos (by simpa using hsame),rfl,?_⟩
      have hget := Table.get_update_key s.routes peerId
        (fun r => { r with reason := cut 500 reason }) (fun _ => rfl) (noMarks_subset _) peerId
      simp only [mark,hrow,Option.map_some,Option.any_some,hsame,decide_true,if_true]
      rw [hget,if_pos rfl,hrow]
      simp [hsame]
    · obtain ⟨routes,hroutes⟩ := Table.upsert_noMarks s.routes
        ⟨peerId,selected,now,cut 500 reason⟩ (fun r => { r with
          selectedPath := selected, switchedMs := now, reason := cut 500 reason }) fun _ => rfl
      refine ⟨{ s with routes := routes },?_,rfl,?_⟩
      · rw [if_neg (by simpa using hsame)]
        exact bind_ok.mpr ⟨routes,fetched_ok.mpr hroutes,rfl⟩
      · simp [mark,Table.get_upsert hroutes,hrow,hsame]

theorem choose_ne_empty (peerId : String) (hasDirect : Bool) (carriers : List CarrierConfig) (now : ℤ)
    (s : RouteStore lib) : (s.choose cfg peerId hasDirect carriers now).1 ≠ "" := by
  intro h
  rcases choose_choice cfg with hdirect | hnone | ⟨b,-,hb⟩
  · exact absurd (h.symm.trans hdirect.1) (by decide)
  · exact absurd (h.symm.trans hnone) (by decide)
  · exact b.pathId_reserved (by simp [← hb,h])

/-- What `decide` returns and writes. -/
theorem decide_effect (peerId : String) (hasDirect : Bool) (carriers : List CarrierConfig)
    (now later : ℤ) (s : RouteStore lib) : ∃ d s',
    s.decide cfg peerId hasDirect carriers now later = .ok (d,s') ∧
    d.selectedPath = (s.choose cfg peerId hasDirect carriers now).1 ∧
    d.pushQos = s.pushQos cfg peerId d.selectedPath carriers ∧ s'.metrics = s.metrics ∧
    s'.mark peerId = if d.changed then some (d.selectedPath,later) else s.mark peerId := by
  have hne := choose_ne_empty cfg peerId hasDirect carriers now s
  unfold decide
  generalize s.choose cfg peerId hasDirect carriers now = chosen at hne ⊢
  obtain ⟨selected,reason⟩ := chosen
  obtain ⟨s',hroute,hmetrics,hmark⟩ := setRoute_effect peerId selected reason later s
  refine ⟨_,s',bind_ok.mpr ⟨s',hroute,rfl⟩,rfl,rfl,hmetrics,?_⟩
  rw [hmark]
  cases hrow : s.routes.get peerId with
  | none => simp [mark,currentPath,hrow,Ne.symm hne]
  | some r => by_cases hsame : r.selectedPath = selected <;> simp [mark,currentPath,hrow,hsame]

end Effects
end RouteStore

namespace RouteWorld

section Runs

variable {cfg} {set} {peerId} {w w' : RouteWorld lib}

/-- The counters of the store are those of the results, and its route is the last switch. -/
structure Kept (peerId : String) (w : RouteWorld lib) : Prop where
  failures : ∀ path, w.store.consecutiveFailures peerId path = w.trailing false path
  successes : ∀ path, w.store.consecutiveSuccesses peerId path = w.trailing true path
  route : w.store.mark peerId = w.switches.head?

/-- One more result in front. -/
theorem trailing_cons (w : RouteWorld lib) (pathId : String) (success kind : Bool) (path : String) :
    trailing { w with results := (pathId,success) :: w.results } kind path =
      if path = pathId then if success = kind then w.trailing kind path + 1 else 0
      else w.trailing kind path := by
  by_cases hpath : path = pathId
  · subst hpath
    by_cases hkind : success = kind <;> simp [trailing,hkind]
  · simp [trailing,hpath,Ne.symm hpath]

theorem kept_step (hw : w.Kept peerId) (h : RouteStep cfg set peerId w w') : w'.Kept peerId := by
  obtain ⟨a,-,rfl⟩ := h
  cases a with
  | record pathId success latency error now =>
    obtain ⟨s',hrecord,hroutes,hcounts⟩ := RouteStore.recordPathResult_effect peerId pathId success
      latency error now w.store
    simp only [exec,hrecord]
    refine ⟨?_,?_,?_⟩
    · intro path
      rw [(hcounts path).1,hw.failures,hw.failures]
      refine Eq.trans ?_ (trailing_cons w pathId success false path).symm
      by_cases hpath : path = pathId <;> cases success <;> simp [hpath]
    · intro path
      rw [(hcounts path).2,hw.successes,hw.successes]
      refine Eq.trans ?_ (trailing_cons w pathId success true path).symm
      by_cases hpath : path = pathId <;> cases success <;> simp [hpath]
    · rw [RouteStore.mark,hroutes]
      exact hw.route
  | decide hasDirect now later =>
    obtain ⟨d,s',hdecide,-,-,hmetrics,hmark⟩ := RouteStore.decide_effect cfg peerId hasDirect
      set.carriers now later w.store
    simp only [exec,hdecide]
    refine ⟨?_,?_,?_⟩
    · intro path
      rw [RouteStore.consecutiveFailures,hmetrics]
      exact hw.failures path
    · intro path
      rw [RouteStore.consecutiveSuccesses,hmetrics]
      exact hw.successes path
    · rw [hmark]
      split_ifs
      · rfl
      · exact hw.route

theorem kept_reaches {clock : ℤ} (h : Reaches (RouteStep cfg set peerId) (initial clock) w) :
    w.Kept peerId := by
  induction h with
  | refl => exact ⟨fun _ => rfl,fun _ => rfl,rfl⟩
  | tail _ hlast ih => exact kept_step ih hlast

theorem Kept.currentPath (hw : w.Kept peerId) {path : String} {switched : ℤ}
    (h : w.switches.head? = some (path,switched)) : w.store.currentPath peerId = path ∧
      ((w.store.routes.get peerId).map RouteRow.switchedMs).getD 0 = switched := by
  have hroute := hw.route.trans h
  unfold RouteStore.mark at hroute
  obtain ⟨r,hrow,hr⟩ := Option.map_eq_some_iff.mp hroute
  obtain ⟨rfl,rfl⟩ := Prod.mk.inj hr
  simp [RouteStore.currentPath,hrow]

/-- A decision in a kept world. -/
theorem Kept.hysteresis (hw : w.Kept peerId) {hasDirect : Bool} {now later : ℤ}
    (hlater : now ≤ later) {d : RouteDecision}
    (hselected : d.selectedPath =
      (w.store.choose cfg peerId hasDirect set.carriers now).1)
    (hpush : d.pushQos = w.store.pushQos cfg peerId d.selectedPath set.carriers) :
    w.Hysteresis cfg set hasDirect later d := by
  obtain ⟨replicas,qos,husable,hlength,hchosen,hname⟩ := RouteStore.pushQos_shape cfg peerId
    set.carriers (s := w.store) d.selectedPath
  simp only [← hpush] at hname
  refine ⟨?_,?_,?_,?_,?_,?_,?_⟩
  · intro c hc hcarrier switched hlast hworks hleft
    obtain ⟨hpath,hswitched⟩ := hw.currentPath hlast
    have hcurrent : (w.store.usable peerId set.carriers).any (fun c' => c'.pathId = c.pathId) := by
      rw [List.any_eq_true]
      exact ⟨c,RouteStore.mem_usable.mpr ⟨hc,hcarrier⟩,decide_eq_true rfl⟩
    have hchoice : w.store.choose cfg peerId hasDirect set.carriers now =
        w.store.leaveFallback cfg peerId hasDirect set.carriers now := by
      simp only [RouteStore.choose,hpath,if_pos c.pathId_reserved,if_pos hcurrent]
    rw [hchoice] at hselected
    rw [hselected] at hleft ⊢
    rw [← hw.failures,← hpath] at hworks
    rcases RouteStore.leaveFallback_held cfg hworks with hheld | ⟨hcooled,hrecovered⟩
    · exact absurd (hheld.trans hpath) hleft
    · simp only [RouteStore.CooledDown,hswitched] at hcooled
      refine ⟨by omega,?_⟩
      rcases hrecovered with ⟨hdirect,hsuccesses⟩ | ⟨b,hb,hpath',hsuccesses⟩
      · exact .inl ⟨hdirect,hw.successes "direct" ▸ hsuccesses⟩
      · exact .inr ⟨b,(RouteStore.mem_usable.mp hb).1,hpath',hw.successes b.pathId ▸ hsuccesses⟩
  · intro c _ hc switched hlast hdirect
    rw [← hw.failures]
    exact RouteStore.choose_leaves_direct cfg (hw.currentPath hlast).1 (hselected.symm.trans hc)
      hdirect
  · intro hdirect
    rw [hselected] at hdirect
    rcases RouteStore.choose_choice cfg with hthere | hnone | ⟨b,-,hb⟩
    · exact hthere.2
    · exact absurd (hdirect.symm.trans hnone) (by decide)
    · exact absurd (hb.symm.trans hdirect) fun h => b.pathId_reserved (by simp [h])
  · intro name hpushed
    rw [hname] at hpushed
    by_cases halways : name ∈
        (set.carriers.filter fun c => c.Usable ∧ c.mode = .always).map CarrierConfig.name
    · obtain ⟨c,hc,rfl⟩ := List.mem_map.mp halways
      exact ⟨c,List.mem_of_mem_filter hc,rfl⟩
    · by_cases hreplica : name ∈ replicas.map CarrierConfig.name
      · obtain ⟨c,hc,rfl⟩ := List.mem_map.mp hreplica
        exact ⟨c,(RouteStore.mem_usable.mp (husable c hc)).1,rfl⟩
      · rw [if_neg halways,if_neg hreplica] at hpushed
        simp at hpushed
  · intro c hc hsilent
    have hunusable : ¬ c.Usable := by
      rintro ⟨henabled,hmode⟩
      rcases hsilent with hdisabled | hreceive
      · rw [henabled] at hdisabled
        cases hdisabled
      · exact hmode hreceive
    rw [hname,if_neg,if_neg,Finset.union_empty]
    · intro hreplica
      obtain ⟨b,hb,hsame⟩ := List.mem_map.mp hreplica
      obtain ⟨hb,hbusable⟩ := RouteStore.mem_usable.mp (husable b hb)
      exact hunusable (set.eq_of_name hb hc hsame ▸ hbusable)
    · intro halways
      obtain ⟨b,hb,hsame⟩ := List.mem_map.mp halways
      obtain ⟨hb,hmode⟩ := List.mem_filter.mp hb
      exact hunusable (set.eq_of_name hb hc hsame ▸ (of_decide_eq_true hmode).1)
  · intro c hc hpath
    have hcarrier : c.Usable := by
      rcases RouteStore.choose_choice cfg with ⟨hdirect,-⟩ | hnone | ⟨b,hb,hb'⟩
      · exact absurd (hpath.symm.trans (hselected.trans hdirect))
          fun h => c.pathId_reserved (by simp [h])
      · exact absurd (hpath.symm.trans (hselected.trans hnone))
          fun h => c.pathId_reserved (by simp [h])
      · obtain ⟨hb,hbusable⟩ := RouteStore.mem_usable.mp hb
        have hsame := CarrierConfig.pathId_name (hb'.symm.trans (hselected.symm.trans hpath))
        exact set.eq_of_name hb hc hsame ▸ hbusable
    obtain ⟨hin,hall⟩ := hchosen c (RouteStore.mem_usable.mpr ⟨hc,hcarrier⟩) hpath.symm
    rw [hname,if_pos hin,hall]
    exact Finset.union_eq_right.mpr (Finset.subset_univ _)
  · have hsubset : (set.carriers.filter fun c =>
        (d.pushQos c.name).Nonempty ∧ c.mode ≠ .always) ⊆ replicas := by
      intro c hc
      obtain ⟨hc,hpushed⟩ := List.mem_filter.mp hc
      obtain ⟨hpushed,hmode⟩ := of_decide_eq_true hpushed
      rw [hname,if_neg,Finset.empty_union] at hpushed
      · by_cases hreplica : c.name ∈ replicas.map CarrierConfig.name
        · obtain ⟨b,hb,hsame⟩ := List.mem_map.mp hreplica
          have hb' := (RouteStore.mem_usable.mp (husable b hb)).1
          exact set.eq_of_name hb' hc hsame ▸ hb
        · simp [hreplica] at hpushed
      · intro halways
        obtain ⟨b,hb,hsame⟩ := List.mem_map.mp halways
        obtain ⟨hb,hb'⟩ := List.mem_filter.mp hb
        exact hmode (set.eq_of_name hb hc hsame ▸ (of_decide_eq_true hb').2)
    have hnodup : (set.carriers.filter fun c =>
        (d.pushQos c.name).Nonempty ∧ c.mode ≠ .always).Nodup :=
      (List.Nodup.of_map _ set.names).filter _
    exact (hnodup.subperm hsubset).length_le.trans hlength

end Runs
section Sample

/-- Whole numbers for the averages and the scores. -/
def wholeNumbers : RouteNumbers where
  Number := ℤ
  order := inferInstance
  zero := 0
  average latency previous := (latency + 3 * previous) / 4
  score priority failures ewma := 100 * priority + 10000 * failures + ewma

def routerConfig : RoutingConfig := ⟨2,3,2,3,1,30000,by decide,by decide⟩

def dropCarrier : CarrierConfig := ⟨.directory,"drop",.fallback,100,true⟩

def oneCarrier : CarrierSet := ⟨[dropCarrier],by decide⟩

def runAll (actions : List (RouteAction wholeNumbers)) : RouteWorld wholeNumbers :=
  actions.foldl (exec routerConfig oneCarrier "peer") (initial 0)

/-- Direct is there, and then it is not. -/
def withdrawal : List (RouteAction wholeNumbers) := [.decide true 10 10,.decide false 20 20]

/-- Direct fails twice and is left at 40; it works again at 50. -/
def failover : List (RouteAction wholeNumbers) :=
  [.decide true 10 10,.record "direct" false (10 : ℤ) "down" 20,
    .record "direct" false (10 : ℤ) "down" 30,.decide true 40 40,
    .record "direct" true (2 : ℤ) "" 50,.record "direct" true (2 : ℤ) "" 50,
    .record "direct" true (2 : ℤ) "" 50]

instance (w : RouteWorld lib) : DecidablePred w.Timely
  | .record _ _ _ _ _ => inferInstanceAs (Decidable (_ ≤ _))
  | .decide _ _ _ => inferInstanceAs (Decidable (_ ∧ _))

theorem runAll_runs (actions : List (RouteAction wholeNumbers))
    (hgood : Reaches.Good Timely (exec routerConfig oneCarrier "peer") actions (initial 0)) :
    Reaches (RouteStep routerConfig oneCarrier "peer") (initial 0) (runAll actions) :=
  Reaches.of_calls (fun _ a h => ⟨a,h,rfl⟩) actions _ hgood

theorem failover_runs :
    Reaches (RouteStep routerConfig oneCarrier "peer") (initial 0) (runAll failover) := by
  apply runAll_runs
  simp only [failover,Reaches.Good]
  decide

end Sample

/-- In every run under a clock that does not go back every decision is made, and keeps to the
thresholds, the cooldown and the modes of the carriers. -/
theorem routes_hold (cfg : RoutingConfig) (set : CarrierSet) (peerId : String) (clock : ℤ)
    (w : RouteWorld lib) (hrun : Reaches (RouteStep cfg set peerId) (initial clock) w)
    (hasDirect : Bool) (now later : ℤ) (hlater : now ≤ later) :
    ∃ d s, w.store.decide cfg peerId hasDirect set.carriers now later = .ok (d,s) ∧
      w.Hysteresis cfg set hasDirect later d := by
  obtain ⟨d,s,hdecide,hselected,hpush,-⟩ := RouteStore.decide_effect cfg peerId hasDirect
    set.carriers now later w.store
  exact ⟨d,s,hdecide,(kept_reaches hrun).hysteresis hlater hselected hpush⟩

theorem routes_hold_sample : (runAll failover).switches = [("directory:drop",40),("direct",10)] ∧
    ∃ d s, (runAll failover).store.decide routerConfig "peer" true oneCarrier.carriers 60 60 =
      .ok (d,s) ∧ (runAll failover).Hysteresis routerConfig oneCarrier true 60 d := by
  have hswitches : (runAll failover).switches = [("directory:drop",40),("direct",10)] := by
    decide
  exact ⟨hswitches,routes_hold routerConfig oneCarrier "peer" 0 _ failover_runs true 60 60 le_rfl⟩

/-- Direct is left without a failure when a decision does not find it. -/
theorem direct_left_unfailed : ∃ w : RouteWorld wholeNumbers,
    Reaches (RouteStep routerConfig oneCarrier "peer") (initial 0) w ∧
    w.switches.map Prod.fst = ["directory:drop","direct"] ∧ w.results = [] := by
  refine ⟨runAll withdrawal,runAll_runs _ ?_,by decide⟩
  simp only [withdrawal,Reaches.Good]
  decide

end RouteWorld
end Anet
