import Anet.AhubService

/-! Runs of an Ahub under a clock that does not go back: no request is accepted twice. -/
namespace Anet

open ControlPlane

/-- A signed request as it arrives, with the clocks that the control plane reads. -/
inductive SignedCall
  | serve (request : AhubRequest) (body : Bytes) (readAt : ℤ) (op : AhubOperation)
  | lookup (request : AhubRequest) (body : Bytes) (target : String) (readAt later : ℤ)

inductive AhubAction
  | publishDescriptor (readAt : ℤ) (d : NodeDescriptor)
  | publishReachability (readAt : ℤ) (r : ReachabilityRecord)
  | allow (nodeId : String)
  | disallow (nodeId : String)
  | purge
  | mailboxCount (nodeId : String)
  | signed (call : SignedCall)

structure ReplayWorld where
  service : AhubService
  clock : ℤ
  accepted : List AhubRequest

/-- What makes two envelopes the same for the Ahub. -/
def AhubRequest.mark (r : AhubRequest) : (String × String) × ℤ := ((r.nodeId,r.nonce),r.issuedMs)

def SignedCall.request : SignedCall → AhubRequest
  | .serve request _ _ _ => request
  | .lookup request _ _ _ _ => request

variable (lib : ControlLibrary) (limits : AhubLimits)

namespace AhubService

def empty : AhubService := ⟨.empty,.empty⟩

def onAhub {α : Type} (body : AhubStore → Result (α × AhubStore)) (svc : AhubService) :
    AhubService :=
  { svc with ahub := (atomic body svc.ahub).2 }

/-- Whether a signed call is accepted, and the Ahub behind it. -/
def answer (now : ℤ) (call : SignedCall) (svc : AhubService) : Result Unit × AhubService :=
  match call with
  | .serve request body readAt op =>
    let r := atomic (serve lib limits request body readAt now op) svc
    (r.1.map fun _ => (),r.2)
  | .lookup request body target readAt later =>
    let r := lookup lib limits request body target readAt now later svc
    (r.1.map fun _ => (),r.2)

/-- The caller has a current descriptor, its request verifies, it is allowed, and no nonce the
purge leaves is the same. -/
def Admits (request : AhubRequest) (body : Bytes) (readAt now : ℤ) (svc : AhubService) : Prop :=
  ∃ d, svc.control.currentDescriptor lib request.nodeId readAt = .ok (some d) ∧
    request.verify lib d body now = .ok () ∧ svc.ahub.requireAllowed request.nodeId = .ok () ∧
    ∀ row, svc.ahub.nonces.get (request.nodeId,request.nonce) = some row →
      row.issuedMs < now - ahubNonceRetentionMs

/-- The target is allowed, has a current descriptor, and its record can be read. -/
def Finds (target : String) (now : ℤ) (svc : AhubService) : Prop :=
  svc.ahub.requireAllowed target = .ok () ∧
    (∃ d, svc.control.currentDescriptor lib target now = .ok (some d)) ∧
    ∃ r, svc.control.currentReachability lib target now = .ok r

/-- A lookup whose caller passes and whose target is not found. -/
def Misses (now : ℤ) (svc : AhubService) : SignedCall → Prop
  | .serve _ _ _ _ => False
  | .lookup request body target readAt later =>
    svc.Admits lib request body readAt now ∧ ¬ svc.Finds lib target later

end AhubService

namespace ReplayWorld

def initial (clock : ℤ) : ReplayWorld := ⟨.empty,clock,[]⟩

def exec (w : ReplayWorld) (now : ℤ) (a : AhubAction) : ReplayWorld :=
  match a with
  | .publishDescriptor readAt d =>
    { w with clock := now, service := (atomic (AhubService.publishDescriptor lib readAt d) w.service).2 }
  | .publishReachability readAt r =>
    { w with clock := now, service := (atomic (AhubService.publishReachability lib readAt r) w.service).2 }
  | .allow nodeId =>
    { w with clock := now, service := w.service.onAhub (AhubStore.allowNode nodeId now) }
  | .disallow nodeId =>
    { w with clock := now, service := w.service.onAhub (AhubStore.disallowNode nodeId now) }
  | .purge =>
    { w with clock := now, service := { w.service with ahub := w.service.ahub.purge now } }
  | .mailboxCount nodeId =>
    { w with clock := now, service := w.service.onAhub (AhubStore.mailboxCount nodeId now) }
  | .signed call =>
    let r := w.service.answer lib limits now call
    ⟨r.2,now,if r.1.toBool then w.accepted ++ [call.request] else w.accepted⟩

def ReplayStep (w w' : ReplayWorld) : Prop :=
  ∃ now a, w.clock ≤ now ∧ w' = w.exec lib limits now a

/-- Every request that was accepted has its nonce kept, or is outside the clock window. -/
structure Kept (w : ReplayWorld) : Prop where
  distinct : (w.accepted.map AhubRequest.mark).Nodup
  retained : ∀ r ∈ w.accepted, w.service.ahub.nonces.get (r.nodeId,r.nonce) =
      some ⟨r.nodeId,r.nonce,r.issuedMs⟩ ∨ r.issuedMs + ahubRequestSkewMs < w.clock

end ReplayWorld

section Service

variable {lib} {limits} {svc svc' : AhubService} {request : AhubRequest} {body : Bytes}
  {readAt now : ℤ}

namespace AhubService

/-- A signed operation that is accepted leaves the nonces of the purge and its own. -/
theorem serve_nonces {op : AhubOperation} {reply : AhubReply}
    (h : svc.serve lib limits request body readAt now op = .ok (reply,svc')) :
    (now - request.issuedMs).natAbs ≤ ahubRequestSkewMs ∧
      (svc.ahub.purge now).nonces.insert ⟨request.nodeId,request.nonce,request.issuedMs⟩ =
        some svc'.ahub.nonces := by
  simp only [serve,bind_ok] at h
  obtain ⟨found,-,d,-,⟨reply',ahub⟩,hperform,hval⟩ := h
  cases hval
  obtain ⟨b,hbegun,heffect⟩ := AhubStore.perform_effect hperform
  obtain ⟨hverify,-,nonces,hinsert,rfl⟩ := AhubStore.beginSigned_ok.mp hbegun
  refine ⟨(AhubRequest.verify_parts hverify).2.1,?_⟩
  rw [heffect.frame.1]
  exact hinsert

theorem authenticate_ok (limits : AhubLimits) : (∃ reply svc', svc.serve lib limits request body readAt now
    .authenticate = .ok (reply,svc')) ↔ svc.Admits lib request body readAt now := by
  constructor
  · rintro ⟨reply,svc',h⟩
    simp only [serve,bind_ok,fetched_ok] at h
    obtain ⟨found,hcurrent,d,rfl,⟨reply',ahub⟩,hperform,-⟩ := h
    obtain ⟨b,hbegun,-⟩ := AhubStore.perform_effect hperform
    obtain ⟨hverify,hallowed,nonces,hinsert,-⟩ := AhubStore.beginSigned_ok.mp hbegun
    refine ⟨d,hcurrent,hverify,hallowed,?_⟩
    intro row hrow
    have hfree := (Table.insert_eq_some hinsert).1
    by_contra hkept
    have hget : (svc.ahub.purge now).nonces.get (request.nodeId,request.nonce) = some row :=
      (Table.get_delete svc.ahub.nonces _ _).trans (by simpa [hrow] using hkept)
    exact absurd (hget.symm.trans hfree) (Option.some_ne_none _)
  · rintro ⟨d,hcurrent,hverify,hallowed,hfree⟩
    have hget : (svc.ahub.purge now).nonces.get (request.nodeId,request.nonce) = none := by
      refine (Table.get_delete svc.ahub.nonces _ _).trans ?_
      cases hrow : svc.ahub.nonces.get (request.nodeId,request.nonce) with
      | none => rfl
      | some row =>
        refine if_neg ?_
        simpa only [decide_eq_true_eq,not_not] using hfree row hrow
    obtain ⟨nonces,hinsert⟩ := Table.insert_noMarks (svc.ahub.purge now).nonces
      (r := (⟨request.nodeId,request.nonce,request.issuedMs⟩ : NonceRow)) hget
    have hbegun := AhubStore.beginSigned_ok.mpr ⟨hverify,hallowed,nonces,hinsert,rfl⟩
    refine ⟨.authenticated,{ svc with ahub := { svc.ahub.purge now with nonces := nonces } },?_⟩
    simp only [serve,bind_ok,fetched_ok]
    refine ⟨some d,hcurrent,d,rfl,(.authenticated,{ svc.ahub.purge now with nonces := nonces }),?_,rfl⟩
    rw [AhubStore.perform,AhubStore.answered,map_ok]
    refine ⟨((),{ svc.ahub.purge now with nonces := nonces }),?_,rfl⟩
    rw [AhubStore.authenticate,bind_ok]
    exact ⟨_,hbegun,rfl⟩

theorem findTarget_ok {target : String} {later : ℤ} :
    (∃ found, svc.findTarget lib target later = .ok found) ↔ svc.Finds lib target later := by
  simp only [findTarget,bind_ok,fetched_ok,Finds]
  constructor
  · rintro ⟨found,_,hallowed,_,hcurrent,d,rfl,r,hrecord,-⟩
    exact ⟨hallowed,⟨d,hcurrent⟩,r,hrecord⟩
  · rintro ⟨hallowed,⟨d,hcurrent⟩,r,hrecord⟩
    exact ⟨(d,r),(),hallowed,some d,hcurrent,d,rfl,r,hrecord,rfl⟩

/-- A signed operation that is refused changes nothing. -/
theorem serve_refused {op : AhubOperation} {e : PyError}
    (h : (atomic (serve lib limits request body readAt now op) svc).1 = .error e) :
    (atomic (serve lib limits request body readAt now op) svc).2 = svc := by
  rcases atomic_cases (serve lib limits request body readAt now op) svc with
    ⟨reply,svc',-,hatomic⟩ | ⟨e',-,hatomic⟩
  · rw [hatomic] at h
    cases h
  · rw [hatomic]

/-- A call that has passed is told apart by its nonce from what was there before. -/
theorem serve_changed {op : AhubOperation} {reply : AhubReply}
    (h : svc.serve lib limits request body readAt now op = .ok (reply,svc')) : svc' ≠ svc := by
  rintro rfl
  obtain ⟨hwindow,hinsert⟩ := serve_nonces h
  obtain ⟨hfree,-⟩ := Table.insert_eq_some hinsert
  have hrow : svc'.ahub.nonces.get (request.nodeId,request.nonce) =
      some ⟨request.nodeId,request.nonce,request.issuedMs⟩ :=
    (Table.get_insert hinsert _).trans (if_pos rfl)
  have hkept : (svc'.ahub.purge now).nonces.get (request.nodeId,request.nonce) =
      some ⟨request.nodeId,request.nonce,request.issuedMs⟩ := by
    refine (Table.get_delete svc'.ahub.nonces _ _).trans ?_
    have hlate : ¬ request.issuedMs < now - ahubNonceRetentionMs := by
      simp only [ahubRequestSkewMs,ahubNonceRetentionMs] at hwindow ⊢
      omega
    simpa [hrow] using hlate
  exact absurd (hkept.symm.trans hfree) (Option.some_ne_none _)

theorem lookup_served {target : String} {later : ℤ} {reply : AhubReply}
    (h : atomic (serve lib limits request body readAt now .authenticate) svc = (.ok reply,svc')) :
    lookup lib limits request body target readAt now later svc =
      (svc'.findTarget lib target later,svc') := by
  unfold lookup
  rw [h]

theorem lookup_refused {target : String} {later : ℤ} {e : PyError}
    (h : atomic (serve lib limits request body readAt now .authenticate) svc = (.error e,svc')) :
    lookup lib limits request body target readAt now later svc = (.error e,svc') := by
  unfold lookup
  rw [h]

/-- A refused call changes nothing exactly if it is not a lookup that misses its target. -/
theorem refused_untouched (svc : AhubService) (now : ℤ) (call : SignedCall) :
    (∀ e, (svc.answer lib limits now call).1 = .error e →
      (svc.answer lib limits now call).2 = svc) ↔ ¬ svc.Misses lib now call := by
  cases call with
  | serve request body readAt op =>
    refine ⟨fun _ h => h,?_⟩
    intro _ e he
    cases hreply : (atomic (serve lib limits request body readAt now op) svc).1 with
    | ok reply => simp [answer,hreply,Except.map] at he
    | error e' => exact serve_refused hreply
  | lookup request body target readAt later =>
    rcases atomic_cases (serve lib limits request body readAt now .authenticate) svc with
      ⟨reply,svc',hserve,hatomic⟩ | ⟨e',herror,hatomic⟩
    · have hadmits := (authenticate_ok limits).mp ⟨reply,svc',hserve⟩
      simp only [answer,lookup_served hatomic,Misses,hadmits,true_and,not_not]
      have hsame : svc'.findTarget lib target later = svc.findTarget lib target later := by
        simp only [serve,bind_ok] at hserve
        obtain ⟨_,-,_,-,⟨_,ahub⟩,hperform,hval⟩ := hserve
        cases hval
        obtain ⟨b,hbegun,heffect⟩ := AhubStore.perform_effect hperform
        obtain ⟨-,-,nonces,-,rfl⟩ := AhubStore.beginSigned_ok.mp hbegun
        have hallow := heffect.frame.2
        simp only [findTarget,AhubStore.requireAllowed,AhubStore.isAllowed]
        rw [hallow]
        rfl
      rw [hsame,← findTarget_ok]
      constructor
      · intro h
        cases hfind : svc.findTarget lib target later with
        | ok found => exact ⟨found,rfl⟩
        | error e => exact absurd (h e (by rw [hfind]; rfl)) (serve_changed hserve)
      · rintro ⟨found,hfind⟩ e he
        rw [hfind] at he
        cases he
    · have hnot : ¬ svc.Admits lib request body readAt now := by
        intro hadmits
        obtain ⟨reply,svc',hok⟩ := (authenticate_ok limits).mpr hadmits
        rw [herror] at hok
        cases hok
      simp [answer,lookup_refused hatomic,Misses,hnot]

end AhubService
end Service

namespace ReplayWorld

section Runs

variable {lib} {limits} {w : ReplayWorld}

/-- A step that does not touch the nonces, or purges them first, keeps what is retained. -/
theorem kept_quiet (hw : w.Kept) {now : ℤ} (hnow : w.clock ≤ now) {svc : AhubService}
    (hnonces : svc.ahub.nonces = w.service.ahub.nonces ∨
      svc.ahub.nonces = (w.service.ahub.purge now).nonces) : Kept ⟨svc,now,w.accepted⟩ := by
  refine ⟨hw.distinct,?_⟩
  intro r hr
  by_cases hopen : r.issuedMs + ahubRequestSkewMs < now
  · exact .inr hopen
  have hrow : w.service.ahub.nonces.get (r.nodeId,r.nonce) =
      some ⟨r.nodeId,r.nonce,r.issuedMs⟩ := by
    rcases hw.retained r hr with hrow | hclosed
    · exact hrow
    · omega
  left
  rcases hnonces with hsame | hpurged
  · rw [hsame]
    exact hrow
  · rw [hpurged]
    refine (Table.get_delete w.service.ahub.nonces _ _).trans ?_
    have hlate : ¬ r.issuedMs < now - ahubNonceRetentionMs := by
      simp only [ahubRequestSkewMs,ahubNonceRetentionMs] at hopen ⊢
      omega
    simpa [hrow] using hlate

/-- A request whose nonce is inserted has not been accepted before. -/
theorem kept_inserted (hw : w.Kept) {now : ℤ} (hnow : w.clock ≤ now) {svc : AhubService}
    {request : AhubRequest} (hwindow : (now - request.issuedMs).natAbs ≤ ahubRequestSkewMs)
    (hinsert : (w.service.ahub.purge now).nonces.insert
      ⟨request.nodeId,request.nonce,request.issuedMs⟩ = some svc.ahub.nonces) :
    Kept ⟨svc,now,w.accepted⟩ ∧ Kept ⟨svc,now,w.accepted ++ [request]⟩ := by
  have hpurged : Kept ⟨{ w.service with ahub := w.service.ahub.purge now },now,w.accepted⟩ :=
    kept_quiet hw hnow (.inr rfl)
  have hget (k : String × String) : svc.ahub.nonces.get k =
      if k = (request.nodeId,request.nonce) then
        some ⟨request.nodeId,request.nonce,request.issuedMs⟩
      else (w.service.ahub.purge now).nonces.get k := Table.get_insert hinsert k
  have hfree : (w.service.ahub.purge now).nonces.get (request.nodeId,request.nonce) = none :=
    (Table.insert_eq_some hinsert).1
  have hretained : ∀ r ∈ w.accepted, svc.ahub.nonces.get (r.nodeId,r.nonce) =
      some ⟨r.nodeId,r.nonce,r.issuedMs⟩ ∨ r.issuedMs + ahubRequestSkewMs < now := by
    intro r hr
    rcases hpurged.retained r hr with hrow | hclosed
    · left
      rw [hget,if_neg]
      · exact hrow
      · intro hsame
        rw [hsame] at hrow
        exact absurd (hrow.symm.trans hfree) (Option.some_ne_none _)
    · exact .inr hclosed
  refine ⟨⟨hw.distinct,hretained⟩,?_,?_⟩
  · rw [List.map_append,List.nodup_append]
    refine ⟨hw.distinct,by simp,?_⟩
    rintro _ hold _ hnew rfl
    obtain ⟨r,hr,hmark⟩ := List.mem_map.mp hold
    rw [List.map_singleton,List.mem_singleton] at hnew
    obtain ⟨hkey,hissued⟩ := Prod.mk.inj (hmark.trans hnew)
    rcases hpurged.retained r hr with hrow | hclosed
    · dsimp only at hkey hrow
      rw [hkey] at hrow
      exact absurd (hrow.symm.trans hfree) (Option.some_ne_none _)
    · dsimp only at hclosed hissued
      simp only [ahubRequestSkewMs] at hwindow hclosed
      omega
  · intro r hr
    rcases List.mem_append.mp hr with hr | hnew
    · exact hretained r hr
    · rw [List.mem_singleton.mp hnew,hget,if_pos rfl]
      exact .inl rfl

theorem kept_signed (hw : w.Kept) {now : ℤ} (hnow : w.clock ≤ now) (call : SignedCall) :
    (w.exec lib limits now (.signed call)).Kept := by
  cases call with
  | serve request body readAt op =>
    rcases atomic_cases (AhubService.serve lib limits request body readAt now op) w.service with
      ⟨reply,svc',hserve,hatomic⟩ | ⟨e,-,hatomic⟩
    · obtain ⟨hwindow,hinsert⟩ := AhubService.serve_nonces hserve
      simp only [exec,AhubService.answer,hatomic]
      exact (kept_inserted hw hnow hwindow hinsert).2
    · simp only [exec,AhubService.answer,hatomic]
      exact kept_quiet hw hnow (.inl rfl)
  | lookup request body target readAt later =>
    rcases atomic_cases (AhubService.serve lib limits request body readAt now .authenticate)
      w.service with ⟨reply,svc',hserve,hatomic⟩ | ⟨e,-,hatomic⟩
    · obtain ⟨hwindow,hinsert⟩ := AhubService.serve_nonces hserve
      obtain ⟨hrefused,haccepted⟩ := kept_inserted hw hnow hwindow hinsert
      simp only [exec,AhubService.answer,AhubService.lookup_served hatomic]
      split_ifs
      · exact haccepted
      · exact hrefused
    · simp only [exec,AhubService.answer,AhubService.lookup_refused hatomic]
      exact kept_quiet hw hnow (.inl rfl)

theorem kept_step {w' : ReplayWorld} (hw : w.Kept) (h : ReplayStep lib limits w w') : w'.Kept := by
  obtain ⟨now,a,hnow,rfl⟩ := h
  cases a with
  | publishDescriptor readAt d =>
    refine kept_quiet hw hnow (.inl ?_)
    rcases atomic_cases (AhubService.publishDescriptor lib readAt d) w.service with
      ⟨changed,svc',hpublish,hatomic⟩ | ⟨e,-,hatomic⟩
    · simp only [AhubService.publishDescriptor,bind_ok] at hpublish
      obtain ⟨_,-,_,-,hval⟩ := hpublish
      cases hval
      rw [hatomic]
    · rw [hatomic]
  | publishReachability readAt r =>
    refine kept_quiet hw hnow (.inl ?_)
    rcases atomic_cases (AhubService.publishReachability lib readAt r) w.service with
      ⟨changed,svc',hpublish,hatomic⟩ | ⟨e,-,hatomic⟩
    · simp only [AhubService.publishReachability,bind_ok] at hpublish
      obtain ⟨_,-,_,-,_,-,_,-,hval⟩ := hpublish
      cases hval
      rw [hatomic]
    · rw [hatomic]
  | allow nodeId =>
    refine kept_quiet hw hnow (.inl ?_)
    rcases atomic_cases (AhubStore.allowNode nodeId now) w.service.ahub with
      ⟨changed,s',hallow,hatomic⟩ | ⟨e,-,hatomic⟩
    · simp only [AhubStore.allowNode,bind_ok] at hallow
      obtain ⟨_,-,hallow⟩ := hallow
      split_ifs at hallow
      · cases hallow
        simp only [AhubService.onAhub,hatomic]
      · obtain ⟨allowlist,-,hval⟩ := bind_ok.mp hallow
        cases hval
        simp only [AhubService.onAhub,hatomic]
    · simp only [AhubService.onAhub,hatomic]
  | disallow nodeId =>
    refine kept_quiet hw hnow (.inl ?_)
    rcases atomic_cases (AhubStore.disallowNode nodeId now) w.service.ahub with
      ⟨changed,s',hdisallow,hatomic⟩ | ⟨e,-,hatomic⟩
    · simp only [AhubStore.disallowNode,bind_ok] at hdisallow
      obtain ⟨_,-,hval⟩ := hdisallow
      cases hval
      simp only [AhubService.onAhub,hatomic]
    · simp only [AhubService.onAhub,hatomic]
  | purge => exact kept_quiet hw hnow (.inr rfl)
  | mailboxCount nodeId =>
    rcases atomic_cases (AhubStore.mailboxCount nodeId now) w.service.ahub with
      ⟨count,s',hcount,hatomic⟩ | ⟨e,-,hatomic⟩
    · simp only [AhubStore.mailboxCount,bind_ok] at hcount
      obtain ⟨_,-,hval⟩ := hcount
      cases hval
      refine kept_quiet hw hnow (.inr ?_)
      simp only [AhubService.onAhub,hatomic]
    · refine kept_quiet hw hnow (.inl ?_)
      simp only [AhubService.onAhub,hatomic]
  | signed call => exact kept_signed hw hnow call

theorem kept_reaches {clock : ℤ} (h : Reaches (ReplayStep lib limits) (initial clock) w) : w.Kept := by
  refine h.invariant (I := Kept) (fun _ _ hv hstep => kept_step hv hstep) ?_
  exact ⟨List.nodup_nil,nofun⟩

end Runs

section Sample

def replayNode : SigningIdentity := plainIdentity 1

def replayDescriptor : NodeDescriptor := plainDescriptor 1 1 genesisDigest 1000 600000

/-- A request of the node with an empty body. -/
def replayRequest : AhubRequest :=
  let unsigned : AhubRequest := ⟨replayNode.nodeId,"GET","/v1/nodes",1000,"nonce-of-sixteen",
    plainControl.sha256 [],[],1,"anet.ahub-request.v1"⟩
  { unsigned with signature := replayNode.sign (plainMessage unsigned.signingFields) }

def replayCall : SignedCall := .serve replayRequest [] 1000 .authenticate

/-- A lookup of a node that the Ahub does not know. -/
def missingCall : SignedCall := .lookup replayRequest [] (plainIdentity 2).nodeId 1000 1000

def runAll (actions : List AhubAction) : ReplayWorld :=
  actions.foldl (fun w a => w.exec plainControl .default 1000 a) (initial 1000)

theorem runAll_clock (actions : List AhubAction) : (runAll actions).clock = 1000 := by
  induction actions using List.reverseRecOn with
  | nil => rfl
  | append_singleton actions a ih =>
    rw [runAll,List.foldl_append]
    cases a <;> rfl

theorem runAll_runs (actions : List AhubAction) :
    Reaches (ReplayStep plainControl .default) (initial 1000) (runAll actions) := by
  induction actions using List.reverseRecOn with
  | nil => exact .refl
  | append_singleton actions a ih =>
    refine .tail ih ⟨1000,a,(runAll_clock actions).le,?_⟩
    rw [runAll,List.foldl_append]
    rfl

/-- A node that is allowed and has published. -/
def publishedActions : List AhubAction :=
  [.allow replayNode.nodeId,.publishDescriptor 1000 replayDescriptor]

/-- Its request is accepted, and its lookup of a node that is not allowed leaves a nonce. -/
theorem publishedActions_events :
    (runAll (publishedActions ++ [.signed replayCall])).accepted = [replayRequest] ∧
    ((runAll publishedActions).service.answer plainControl .default 1000 missingCall).1 =
      .error (.permission "node is not allowed by this Ahub") ∧
    (runAll publishedActions).service.ahub.nonces.get (replayRequest.nodeId,replayRequest.nonce) =
      none ∧
    ((runAll publishedActions).service.answer plainControl .default 1000 missingCall).2.ahub.nonces.get
      (replayRequest.nodeId,replayRequest.nonce) =
        some ⟨replayRequest.nodeId,replayRequest.nonce,1000⟩ := by
  decide +kernel

end Sample

/-- In every run under a clock that does not go back no request is accepted twice, and a call
that is refused changes nothing, exactly if it is not a lookup that misses its target. -/
theorem requests_not_replayed (lib : ControlLibrary) (limits : AhubLimits) (clock : ℤ)
    (w : ReplayWorld) (hrun : Reaches (ReplayStep lib limits) (initial clock) w) :
    (w.accepted.map AhubRequest.mark).Nodup ∧ ∀ now call,
      (∀ e, (w.service.answer lib limits now call).1 = .error e →
        (w.service.answer lib limits now call).2 = w.service) ↔ ¬ w.service.Misses lib now call :=
  ⟨(kept_reaches hrun).distinct,fun now call => AhubService.refused_untouched w.service now call⟩

theorem requests_not_replayed_sample :
    (runAll [.allow replayNode.nodeId,.publishDescriptor 1000 replayDescriptor,
      .signed replayCall]).accepted = [replayRequest] ∧
    ((runAll [.allow replayNode.nodeId,.publishDescriptor 1000 replayDescriptor,
      .signed replayCall]).accepted.map AhubRequest.mark).Nodup := by
  exact ⟨publishedActions_events.1,(requests_not_replayed plainControl .default 1000 _ (runAll_runs _)).1⟩

/-- A lookup of a node that is not allowed is refused, and its nonce is gone. -/
theorem missed_lookup_consumes : ∃ w,
    Reaches (ReplayStep plainControl .default) (initial 1000) w ∧
    (w.service.answer plainControl .default 1000 missingCall).1 =
      .error (.permission "node is not allowed by this Ahub") ∧
    w.service.ahub.nonces.get (replayRequest.nodeId,replayRequest.nonce) = none ∧
    (w.service.answer plainControl .default 1000 missingCall).2.ahub.nonces.get
      (replayRequest.nodeId,replayRequest.nonce) =
        some ⟨replayRequest.nodeId,replayRequest.nonce,1000⟩ := by
  obtain ⟨-,hrefused,hfree,hspent⟩ := publishedActions_events
  exact ⟨_,runAll_runs _,hrefused,hfree,hspent⟩

end ReplayWorld
end Anet
