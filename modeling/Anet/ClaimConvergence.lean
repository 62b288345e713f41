import Anet.ClaimBooks

/-! Books that receive the same claims and withdrawals, in any order and with repetitions, end with
the same content once the rejected withdrawals have been tried again. -/
namespace Anet.RelationshipClaims

open RelationshipClaimBook

inductive ClaimItem
  | claim (c : MutualRelationshipClaim) | withdrawal (w : RelationshipClaimWithdrawal)

/-- A book, and the withdrawals that it has rejected. -/
structure Inbox where
  book : RelationshipClaimBook
  rejected : List RelationshipClaimWithdrawal

namespace Inbox

/-- What a book does with an item that arrives at a time. -/
def receive (lib : ClaimLibrary) (s : Inbox) (delivery : ClaimItem × ℤ) : Inbox :=
  match delivery.1 with
  | .claim c =>
    match s.book.add lib c delivery.2 with
    | .ok (_,b) => { s with book := b }
    | .error _ => s
  | .withdrawal w =>
    match s.book.addWithdrawal lib w delivery.2 with
    | .ok (_,b) => { s with book := b }
    | .error _ => { s with rejected := s.rejected ++ [w] }

def retry (lib : ClaimLibrary) (now : ℤ) (b : RelationshipClaimBook)
    (w : RelationshipClaimWithdrawal) : RelationshipClaimBook :=
  match b.addWithdrawal lib w now with
  | .ok (_,b') => b'
  | .error _ => b

/-- The book after all deliveries, and after a try of each rejected withdrawal at the end. -/
def settled (lib : ClaimLibrary) (deliveries : List (ClaimItem × ℤ)) (last : ℤ) :
    RelationshipClaimBook :=
  let s := deliveries.foldl (receive lib) ⟨RelationshipClaimBook.empty,[]⟩
  s.rejected.foldl (retry lib last) s.book

end Inbox

/-- A finite set of valid objects: each claim verifies at the start, each withdrawal does against
its claim if that is in the set, and no two objects share an id. -/
structure ValidItems (lib : ClaimLibrary) (start : ℤ) (items : List ClaimItem) : Prop where
  claims : ∀ c, .claim c ∈ items → c.verify lib start = .ok ()
  withdrawals : ∀ w c, .withdrawal w ∈ items → .claim c ∈ items →
    c.claimId lib = .ok w.claimId → w.verify lib c start = .ok ()
  claimIds : ∀ c c' id, .claim c ∈ items → .claim c' ∈ items → c.claimId lib = .ok id →
    c'.claimId lib = .ok id → c = c'
  withdrawalIds : ∀ w w' id, .withdrawal w ∈ items → .withdrawal w' ∈ items →
    w.withdrawalId lib = .ok id → w'.withdrawalId lib = .ok id → w = w'

variable {lib : ClaimLibrary} {start now last : ℤ} {items : List ClaimItem} {b b' : RelationshipClaimBook}

/-- The claims of a book are those of a list, under their ids. -/
def HoldsClaims (lib : ClaimLibrary) (items : List ClaimItem) (b : RelationshipClaimBook) : Prop :=
  ∀ id c, b.claims.get id = some c ↔ .claim c ∈ items ∧ c.claimId lib = .ok id

/-- A withdrawal in the book is one of a list, and its claim is too. -/
def HoldsOnly (lib : ClaimLibrary) (items : List ClaimItem) (b : RelationshipClaimBook) : Prop :=
  ∀ id w, b.withdrawals.get id = some w → .withdrawal w ∈ items ∧ w.withdrawalId lib = .ok id ∧
    ∃ c, .claim c ∈ items ∧ c.claimId lib = .ok w.claimId

/-- What a book has received of the items so far. -/
structure Received (lib : ClaimLibrary) (seen : List ClaimItem) (s : Inbox) : Prop where
  claims : HoldsClaims lib seen s.book
  only : HoldsOnly lib seen s.book
  kept : ∀ w id, .withdrawal w ∈ seen → w.withdrawalId lib = .ok id →
    s.book.withdrawals.get id = some w ∨ w ∈ s.rejected
  rejected : ∀ w ∈ s.rejected, .withdrawal w ∈ seen

theorem get_new {α : Type} {d : Dict α} {id : String} {v : α} (hnone : d.get id = none)
    (k : String) (x : α) :
    (d ++ [(id,v)] : Dict α).get k = some x ↔ d.get k = some x ∨ (k = id ∧ x = v) := by
  rw [Dict.get_append]
  by_cases hk : id = k
  · subst hk
    simp [hnone,eq_comm]
  · have hk' : k ≠ id := fun h => hk h.symm
    cases d.get k <;> simp [hk,hk']

/-- A valid claim is stored, or is there already. -/
theorem add_valid (hvalid : ValidItems lib start items) (hle : start ≤ now)
    {c : MutualRelationshipClaim} (hc : .claim c ∈ items) {s : Inbox} {seen : List ClaimItem}
    (hseen : seen ⊆ items) (h : Received lib seen s) :
    Received lib (seen ++ [.claim c]) (s.receive lib (.claim c,now)) := by
  have hverify := claim_later (hvalid.claims c hc) hle
  have hmem : ∀ x : MutualRelationshipClaim, ClaimItem.claim x ∈ seen ++ [.claim c] ↔
      .claim x ∈ seen ∨ x = c := by
    intro x
    simp
  have hmemw : ∀ x : RelationshipClaimWithdrawal, ClaimItem.withdrawal x ∈ seen ++ [.claim c] ↔
      .withdrawal x ∈ seen := by
    intro x
    simp
  have hold : HoldsOnly lib (seen ++ [.claim c]) s.book := by
    intro id w hw
    obtain ⟨hwseen,hwid,c',hc',hid'⟩ := h.only id w hw
    exact ⟨(hmemw w).mpr hwseen,hwid,c',(hmem c').mpr (.inl hc'),hid'⟩
  unfold Inbox.receive
  simp only
  split
  · next fresh b hb =>
    obtain ⟨-,id,hid,⟨⟨c',hc'⟩,rfl⟩ | ⟨hnone,rfl⟩⟩ := add_cases hb
    · obtain ⟨hc'seen,hc'id⟩ := (h.claims id c').mp hc'
      have hsame := hvalid.claimIds c c' id hc (hseen hc'seen) hid hc'id
      refine ⟨fun k x => ?_,hold,fun w wid hw => h.kept w wid ((hmemw w).mp hw),
        fun w hw => (hmemw w).mpr (h.rejected w hw)⟩
      rw [h.claims k x,hmem]
      constructor
      · exact fun ⟨hx,hxid⟩ => ⟨.inl hx,hxid⟩
      · rintro ⟨hx | rfl,hxid⟩
        · exact ⟨hx,hxid⟩
        · rw [hsame] at hxid ⊢
          exact ⟨hc'seen,hxid⟩
    · refine ⟨fun k x => ?_,hold,fun w wid hw => h.kept w wid ((hmemw w).mp hw),
        fun w hw => (hmemw w).mpr (h.rejected w hw)⟩
      simp only
      rw [get_new hnone,h.claims k x,hmem]
      constructor
      · rintro (⟨hx,hxid⟩ | ⟨rfl,rfl⟩)
        · exact ⟨.inl hx,hxid⟩
        · exact ⟨.inr rfl,hid⟩
      · rintro ⟨hx | rfl,hxid⟩
        · exact .inl ⟨hx,hxid⟩
        · rw [hid] at hxid
          exact .inr ⟨(Except.ok.inj hxid).symm,rfl⟩
  · next e he =>
    refine ⟨fun k x => ?_,hold,fun w wid hw => h.kept w wid ((hmemw w).mp hw),
      fun w hw => (hmemw w).mpr (h.rejected w hw)⟩
    rw [h.claims k x,hmem]
    constructor
    · exact fun ⟨hx,hxid⟩ => ⟨.inl hx,hxid⟩
    · rintro ⟨hx | rfl,hxid⟩
      · exact ⟨hx,hxid⟩
      · -- only an id that cannot be computed makes `add` raise for a claim that verifies
        simp only [add,bind,Except.bind,hverify,hxid] at he
        split at he <;> cases he

/-- A withdrawal of a stored claim is stored, or is there already. -/
theorem addWithdrawal_ok (hvalid : ValidItems lib start items) (hle : start ≤ now)
    {w : RelationshipClaimWithdrawal} (hw : .withdrawal w ∈ items) {seen : List ClaimItem}
    (hseen : seen ⊆ items) (hclaims : HoldsClaims lib seen b) {c : MutualRelationshipClaim}
    (hc : .claim c ∈ seen) (hid : c.claimId lib = .ok w.claimId) {wid : String}
    (hwid : w.withdrawalId lib = .ok wid) : ∃ fresh b', b.addWithdrawal lib w now = .ok (fresh,b') := by
  have hverify := withdrawal_later (hvalid.withdrawals w c hw (hseen hc) hid) hle
  have hnormal : claimIdText w.claimId = .ok w.claimId := by
    have hv := hverify
    simp only [RelationshipClaimWithdrawal.verify,bind_ok,raiseIf_ok] at hv
    obtain ⟨_,_,normal,hnormal,_,heq,_⟩ := hv
    have hsame : w.claimId = normal := by simpa using heq
    rw [hnormal,← hsame]
  have hget := (hclaims w.claimId c).mpr ⟨hc,hid⟩
  unfold addWithdrawal claim
  simp only [hnormal,hget,hverify,hwid,fetched,bind,Except.bind,pure,Except.pure,Option.elim]
  split
  · exact ⟨_,_,rfl⟩
  · exact ⟨_,_,rfl⟩

theorem HoldsOnly.addWithdrawal (hclaims : HoldsClaims lib items b) (honly : HoldsOnly lib items b)
    {w : RelationshipClaimWithdrawal} (hw : .withdrawal w ∈ items) {fresh : Bool}
    (h : b.addWithdrawal lib w now = .ok (fresh,b')) :
    b'.claims = b.claims ∧ HoldsOnly lib items b' ∧ (∀ id x, b.withdrawals.get id = some x →
      b'.withdrawals.get id = some x) ∧ ∃ id x, w.withdrawalId lib = .ok id ∧
        b'.withdrawals.get id = some x := by
  obtain ⟨c,id,hc,-,hid,⟨⟨w',hw'⟩,rfl⟩ | ⟨hnone,rfl⟩⟩ := addWithdrawal_cases h
  · exact ⟨rfl,honly,fun _ _ hx => hx,id,w',hid,hw'⟩
  · refine ⟨rfl,fun k x hx => ?_,fun k x hx => get_append_old hx,id,w,hid,?_⟩
    · rcases (get_new hnone k x).mp hx with hx | ⟨rfl,rfl⟩
      · exact honly k x hx
      · obtain ⟨hcmem,hcid⟩ := (hclaims _ c).mp hc
        exact ⟨hw,hid,c,hcmem,hcid⟩
    · exact (get_new hnone id w).mpr (.inr ⟨rfl,rfl⟩)

/-- A withdrawal is stored, is there already, or waits among the rejected ones. -/
theorem addWithdrawal_valid (hvalid : ValidItems lib start items)
    {w : RelationshipClaimWithdrawal} (hw : .withdrawal w ∈ items) {s : Inbox}
    {seen : List ClaimItem} (hseen : seen ⊆ items) (h : Received lib seen s) :
    Received lib (seen ++ [.withdrawal w]) (s.receive lib (.withdrawal w,now)) := by
  have hmem : ∀ x : MutualRelationshipClaim, ClaimItem.claim x ∈ seen ++ [.withdrawal w] ↔
      .claim x ∈ seen := by
    intro x
    simp
  have hmemw : ∀ x : RelationshipClaimWithdrawal,
      ClaimItem.withdrawal x ∈ seen ++ [.withdrawal w] ↔ .withdrawal x ∈ seen ∨ x = w := by
    intro x
    simp
  have hclaims : HoldsClaims lib (seen ++ [.withdrawal w]) s.book := by
    intro id c
    rw [h.claims id c,hmem]
  have honly : HoldsOnly lib (seen ++ [.withdrawal w]) s.book := by
    intro id x hx
    obtain ⟨hxseen,hxid,c,hc,hid⟩ := h.only id x hx
    exact ⟨(hmemw x).mpr (.inl hxseen),hxid,c,(hmem c).mpr hc,hid⟩
  unfold Inbox.receive
  simp only
  split
  · next fresh b hb =>
    obtain ⟨hsame,honly',hgrows,id,x,hid,hx⟩ :=
      honly.addWithdrawal hclaims ((hmemw w).mpr (.inr rfl)) hb
    refine ⟨?_,honly',fun y yid hy hyid => ?_,fun y hy => (hmemw y).mpr (.inl (h.rejected y hy))⟩
    · intro k c
      simp only [hsame]
      exact hclaims k c
    · rcases (hmemw y).mp hy with hy | rfl
      · exact (h.kept y yid hy hyid).imp (hgrows yid y) fun hr => hr
      · rw [hid] at hyid
        cases hyid
        obtain ⟨hxmem,hxid,-⟩ := honly' id x hx
        have hxitems : .withdrawal x ∈ items := by
          rcases (hmemw x).mp hxmem with hxseen | rfl
          · exact hseen hxseen
          · exact hw
        rw [hvalid.withdrawalIds x y id hxitems hw hxid hid] at hx
        exact .inl hx
  · refine ⟨hclaims,honly,fun y yid hy hyid => ?_,fun y hy => ?_⟩
    · rcases (hmemw y).mp hy with hy | rfl
      · exact (h.kept y yid hy hyid).imp (fun hk => hk) fun hr => List.mem_append_left _ hr
      · exact .inr (by simp)
    · rcases List.mem_append.mp hy with hy | hy
      · exact (hmemw y).mpr (.inl (h.rejected y hy))
      · exact (hmemw y).mpr (.inr (List.mem_singleton.mp hy))

theorem Received.deliver (hvalid : ValidItems lib start items) (deliveries : List (ClaimItem × ℤ))
    (hitems : ∀ d ∈ deliveries, d.1 ∈ items) (hclock : ∀ d ∈ deliveries, start ≤ d.2) {s : Inbox}
    {seen : List ClaimItem} (hseen : seen ⊆ items) (h : Received lib seen s) :
    Received lib (seen ++ deliveries.map Prod.fst) (deliveries.foldl (Inbox.receive lib) s) := by
  induction deliveries generalizing s seen with
  | nil => simpa using h
  | cons d deliveries ih =>
    have hd := hitems d (List.mem_cons_self ..)
    have hle := hclock d (List.mem_cons_self ..)
    have hnext : Received lib (seen ++ [d.1]) (s.receive lib d) := by
      obtain ⟨item,now⟩ := d
      cases item with
      | claim c => exact add_valid hvalid hle hd hseen h
      | withdrawal w => exact addWithdrawal_valid hvalid hd hseen h
    have hseen' : seen ++ [d.1] ⊆ items := by
      intro x hx
      rcases List.mem_append.mp hx with hx | hx
      · exact hseen hx
      · rw [List.mem_singleton.mp hx]
        exact hd
    have hrest := ih (fun x hx => hitems x (List.mem_cons_of_mem _ hx))
      (fun x hx => hclock x (List.mem_cons_of_mem _ hx)) hseen' hnext
    simpa using hrest

/-- Trying the rejected withdrawals again stores those whose claim is there. -/
theorem retried (hvalid : ValidItems lib start items) (hle : start ≤ last)
    (ws : List RelationshipClaimWithdrawal) (hws : ∀ w ∈ ws, .withdrawal w ∈ items)
    (hclaims : HoldsClaims lib items b) (honly : HoldsOnly lib items b) :
    HoldsClaims lib items (ws.foldl (Inbox.retry lib last) b) ∧
      HoldsOnly lib items (ws.foldl (Inbox.retry lib last) b) ∧
      (∀ id w, b.withdrawals.get id = some w →
        (ws.foldl (Inbox.retry lib last) b).withdrawals.get id = some w) ∧
      ∀ w ∈ ws, ∀ c id, .claim c ∈ items → c.claimId lib = .ok w.claimId →
        w.withdrawalId lib = .ok id →
          (ws.foldl (Inbox.retry lib last) b).withdrawals.get id = some w := by
  induction ws generalizing b with
  | nil => exact ⟨hclaims,honly,fun _ _ h => h,by simp⟩
  | cons w ws ih =>
    have hw := hws w (List.mem_cons_self ..)
    have hnext : HoldsClaims lib items (Inbox.retry lib last b w) ∧
        HoldsOnly lib items (Inbox.retry lib last b w) ∧
        (∀ id x, b.withdrawals.get id = some x →
          (Inbox.retry lib last b w).withdrawals.get id = some x) ∧
        ∀ c id, .claim c ∈ items → c.claimId lib = .ok w.claimId → w.withdrawalId lib = .ok id →
          (Inbox.retry lib last b w).withdrawals.get id = some w := by
      unfold Inbox.retry
      split
      · next fresh b' hb' =>
        obtain ⟨hsame,honly',hgrows,id,x,hid,hx⟩ := honly.addWithdrawal hclaims hw hb'
        refine ⟨?_,honly',hgrows,fun c id' _ _ hid' => ?_⟩
        · intro k c
          rw [hsame]
          exact hclaims k c
        · rw [hid] at hid'
          cases hid'
          obtain ⟨hxmem,hxid,-⟩ := honly' id x hx
          rwa [hvalid.withdrawalIds x w id hxmem hw hxid hid] at hx
      · next e he =>
        refine ⟨hclaims,honly,fun _ _ h => h,fun c id hc hcid hid => ?_⟩
        obtain ⟨fresh,b',hok⟩ := addWithdrawal_ok hvalid hle hw (fun _ h => h) hclaims hc hcid hid
        rw [hok] at he
        cases he
    rw [List.foldl_cons]
    generalize Inbox.retry lib last b w = b₁ at hnext ⊢
    obtain ⟨hclaims',honly',hgrows,hstored⟩ := hnext
    have hws' : ∀ x ∈ ws, .withdrawal x ∈ items := fun x hx => hws x (List.mem_cons_of_mem _ hx)
    obtain ⟨hclaims'',honly'',hgrows',hstored'⟩ := ih hws' hclaims' honly'
    refine ⟨hclaims'',honly'',fun id x hx => hgrows' id x (hgrows id x hx),fun x hx c id hc hcid hid => ?_⟩
    rcases List.mem_cons.mp hx with rfl | hx
    · exact hgrows' id x (hstored c id hc hcid hid)
    · exact hstored' x hx c id hc hcid hid

/-- The content of a book in the end: the claims received, and the withdrawals of them. -/
theorem settled_content (hvalid : ValidItems lib start items) {deliveries : List (ClaimItem × ℤ)}
    (hitems : ∀ i, i ∈ deliveries.map Prod.fst ↔ i ∈ items)
    (hclock : ∀ d ∈ deliveries, start ≤ d.2) (hlast : start ≤ last) :
    HoldsClaims lib items (Inbox.settled lib deliveries last) ∧
      ∀ id w, (Inbox.settled lib deliveries last).withdrawals.get id = some w ↔
        .withdrawal w ∈ items ∧ w.withdrawalId lib = .ok id ∧
          ∃ c, .claim c ∈ items ∧ c.claimId lib = .ok w.claimId := by
  have hstart : Received lib [] ⟨RelationshipClaimBook.empty,[]⟩ := by
    refine ⟨fun id c => ?_,fun id w hw => ?_,by simp,by simp⟩
    · simp [RelationshipClaimBook.empty,Dict.get]
    · simp [RelationshipClaimBook.empty,Dict.get] at hw
  have h := hstart.deliver hvalid deliveries
    (fun d hd => (hitems d.1).mp (List.mem_map_of_mem hd)) hclock (List.nil_subset _)
  rw [List.nil_append] at h
  have hclaims : HoldsClaims lib items (deliveries.foldl (Inbox.receive lib)
      ⟨RelationshipClaimBook.empty,[]⟩).book := by
    intro id c
    rw [h.claims id c,hitems]
  have honly : HoldsOnly lib items (deliveries.foldl (Inbox.receive lib)
      ⟨RelationshipClaimBook.empty,[]⟩).book := by
    intro id w hw
    obtain ⟨hmem,hid,c,hc,hcid⟩ := h.only id w hw
    exact ⟨(hitems _).mp hmem,hid,c,(hitems _).mp hc,hcid⟩
  obtain ⟨hclaims',honly',hgrows,hstored⟩ := retried hvalid hlast
    (deliveries.foldl (Inbox.receive lib) ⟨RelationshipClaimBook.empty,[]⟩).rejected
    (fun w hw => (hitems _).mp (h.rejected w hw)) hclaims honly
  refine ⟨hclaims',fun id w => ⟨honly' id w,?_⟩⟩
  rintro ⟨hw,hid,c,hc,hcid⟩
  rcases h.kept w id ((hitems _).mpr hw) hid with hkept | hrejected
  · exact hgrows id w hkept
  · exact hstored w hrejected c id hc hcid hid

theorem settled_same (hvalid : ValidItems lib start items) {first second : List (ClaimItem × ℤ)}
    {last last' : ℤ} (hfirst : ∀ i, i ∈ first.map Prod.fst ↔ i ∈ items)
    (hsecond : ∀ i, i ∈ second.map Prod.fst ↔ i ∈ items) (hclock : ∀ d ∈ first, start ≤ d.2)
    (hclock' : ∀ d ∈ second, start ≤ d.2) (hlast : start ≤ last) (hlast' : start ≤ last') :
    Same (Inbox.settled lib first last) (Inbox.settled lib second last') := by
  obtain ⟨hclaims,hwithdrawals⟩ := settled_content hvalid hfirst hclock hlast
  obtain ⟨hclaims',hwithdrawals'⟩ := settled_content hvalid hsecond hclock' hlast'
  refine ⟨fun id => Option.ext fun c => ?_,fun id => Option.ext fun w => ?_⟩
  · rw [hclaims id c,hclaims' id c]
  · rw [hwithdrawals id w,hwithdrawals' id w]

/-- Books converge, a withdrawn claim stays withdrawn, and a saved book is read back. -/
theorem claims_converge (laws : ReadLaws lib.rt) :
    (∀ start items first second last last', ValidItems lib start items →
      (∀ i, i ∈ first.map Prod.fst ↔ i ∈ items) → (∀ i, i ∈ second.map Prod.fst ↔ i ∈ items) →
      (∀ d ∈ first, start ≤ d.2) → (∀ d ∈ second, start ≤ d.2) → start ≤ last → start ≤ last' →
        Same (Inbox.settled lib first last) (Inbox.settled lib second last') ∧
        ∀ claimId, (Inbox.settled lib second last').isActive claimId =
          (Inbox.settled lib first last).isActive claimId) ∧
    (∀ start s s' claimId, Reaches (Step lib) (start,RelationshipClaimBook.empty) s →
      Reaches (Step lib) s s' → s.2.isActive claimId = .ok false →
        s'.2.isActive claimId = .ok false) ∧
    ∀ start s now, Reaches (Step lib) (start,RelationshipClaimBook.empty) s → s.1 ≤ now →
      ∃ b, RelationshipClaimBook.reload lib s.2.save now = .ok b ∧ Same s.2 b := by
  refine ⟨?_,?_,?_⟩
  · intro start items first second last last' hvalid hfirst hsecond hclock hclock' hlast hlast'
    have hsame := settled_same hvalid hfirst hsecond hclock hclock' hlast hlast'
    exact ⟨hsame,isActive_same hsame⟩
  · intro start s s' claimId hreached hrun hfalse
    have hvalid := ((Valid.empty lib start).run (s := (start,_)) laws hreached).1
    exact isActive_grows (hvalid.run laws hrun).2 hfalse
  · intro start s now hreached hle
    have hvalid := ((Valid.empty lib start).run (s := (start,_)) laws hreached).1
    obtain ⟨b,hread,hsame,-⟩ := (hvalid.later hle).reload laws
    exact ⟨b,hread,hsame⟩

/-- Two actors whose signatures always verify. -/
def sampleClaims : ClaimLibrary where
  rt := .msgpack
  crypto := { plainCrypto with
    verify := fun _ _ _ => .ok ()
    deriveNodeId := fun signPublic _ =>
      if signPublic = [1] then "an1aaaaaaaaaaaaaaaaaaaaaaaaaaaaaaaa" else "an1bbbbbbbbbbbbbbbbbbbbbbbbbbbbbbbb" }
  urls := plainUrls
  sha256 := fun b => b

theorem sampleClaims_reads : ReadLaws sampleClaims.rt := ⟨fun _ => rfl,fun _ => rfl,fun _ => rfl,fun _ => rfl⟩

def sampleCard (key : UInt8) : PeerCard :=
  ⟨sampleClaims.crypto.deriveNodeId [key] [],[key],[],"",[],[],1,[1],cardVersion⟩

def sampleProposal : RelationshipProposal :=
  ⟨"0000000000000000000000000000000a",sampleCard 1,(sampleCard 2).nodeId,"friend",[],1000,90000,[1],
    claimVersion,proposalType⟩

def sampleClaim : MutualRelationshipClaim :=
  ⟨sampleProposal,((sampleProposal.digest sampleClaims).toOption).getD [],sampleCard 2,2000,[1],
    claimVersion,acceptanceType⟩

def sampleWithdrawal : RelationshipClaimWithdrawal :=
  ⟨((sampleClaim.claimId sampleClaims).toOption).getD "",sampleCard 2,3000,[1],claimVersion,withdrawalType⟩

/-- Both items verify, and the withdrawal names the claim. -/
theorem sampleItems_checked :
    (sampleClaim.verify sampleClaims 4000 = .ok () ∧
      sampleWithdrawal.verify sampleClaims sampleClaim 4000 = .ok ()) ∧
    (sampleClaim.claimId sampleClaims = .ok sampleWithdrawal.claimId ∧
      claimIdText sampleWithdrawal.claimId = .ok sampleWithdrawal.claimId) ∧
    (sampleWithdrawal.withdrawalId sampleClaims).isOk := by
  decide +kernel

theorem sampleItems_valid :
    ValidItems sampleClaims 4000 [.claim sampleClaim,.withdrawal sampleWithdrawal] := by
  have hclaim : ∀ c, ClaimItem.claim c ∈ [.claim sampleClaim,.withdrawal sampleWithdrawal] →
      c = sampleClaim := by
    intro c hc
    simpa using hc
  have hwithdrawal : ∀ w, ClaimItem.withdrawal w ∈ [.claim sampleClaim,.withdrawal sampleWithdrawal] →
      w = sampleWithdrawal := by
    intro w hw
    simpa using hw
  refine ⟨fun c hc => ?_,fun w c hw hc _ => ?_,fun c c' id hc hc' _ _ => ?_,fun w w' id hw hw' _ _ => ?_⟩
  · rw [hclaim c hc]
    exact sampleItems_checked.1.1
  · rw [hclaim c hc,hwithdrawal w hw]
    exact sampleItems_checked.1.2
  · rw [hclaim c hc,hclaim c' hc']
  · rw [hwithdrawal w hw,hwithdrawal w' hw']

/-- The withdrawal is stored in the end, though it arrives before its claim. -/
theorem sampleClaim_withdrawn :
    (Inbox.settled sampleClaims [(.withdrawal sampleWithdrawal,4000),(.claim sampleClaim,4001)]
        4002).isActive sampleWithdrawal.claimId = .ok false := by
  have hcontent := @settled_content sampleClaims 4000 4002 _ sampleItems_valid
    [(.withdrawal sampleWithdrawal,4000),(.claim sampleClaim,4001)] (by simp [or_comm]) (by simp)
    (by decide)
  obtain ⟨hclaims,hwithdrawals⟩ := hcontent
  obtain ⟨⟨hclaimId,hnormal⟩,hok⟩ := sampleItems_checked.2
  obtain ⟨id,hid⟩ : ∃ id, sampleWithdrawal.withdrawalId sampleClaims = .ok id := by
    cases hid : sampleWithdrawal.withdrawalId sampleClaims with
    | ok id => exact ⟨id,rfl⟩
    | error e =>
      rw [hid] at hok
      cases hok
  refine isActive_false.mpr ⟨_,sampleClaim,hnormal,?_,id,sampleWithdrawal,?_,rfl⟩
  · exact (hclaims _ _).mpr ⟨by simp,hclaimId⟩
  · exact (hwithdrawals _ _).mpr ⟨by simp,hid,sampleClaim,by simp,hclaimId⟩

/-- A withdrawal that arrives before its claim is kept in the end, and the claim is inactive. -/
theorem claims_converge_sample :
    Same (Inbox.settled sampleClaims [(.withdrawal sampleWithdrawal,4000),(.claim sampleClaim,4001)] 4002)
        (Inbox.settled sampleClaims [(.claim sampleClaim,4000),(.withdrawal sampleWithdrawal,4001)] 4002) ∧
      (Inbox.settled sampleClaims [(.withdrawal sampleWithdrawal,4000),(.claim sampleClaim,4001)]
        4002).isActive sampleWithdrawal.claimId = .ok false := by
  refine ⟨((claims_converge sampleClaims_reads).1 4000 _ _ _ 4002 4002 sampleItems_valid ?_ ?_ ?_ ?_
    (by decide) (by decide)).1,sampleClaim_withdrawn⟩
  · intro i
    simp [or_comm]
  · intro i
    simp
  · simp
  · simp

end Anet.RelationshipClaims
