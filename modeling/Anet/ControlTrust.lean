import Anet.ControlRollback

/-! Whose pages a composed document can come from: the root page is signed by a locally trusted
key, each nested page by such a key or, where its entry names it, by a key that the root page
delegates. What a page tree has merged is followed as a derivation. -/
namespace Anet
namespace RemoteControl

variable {lib : PageLibrary} {issued : Bytes → Bytes → Prop} {server : PageServer} {now : ℤ}
  {pollSeconds : UInt64} {own delegated : TrustedKeys}

/-- The page carries a signature, in its time, that the holder of one of the keys has issued. -/
structure SignedBy (lib : PageLibrary) (issued : Bytes → Bytes → Prop) (keys : TrustedKeys) (now : ℤ)
    (value payload : Value) (signature : PageSignature) : Prop where
  issued : ∃ fields encoded publicKey message, value = .map fields ∧
    payload = .map (fields.filter fun e => ¬ e.1.isStr controlSignatureField) ∧
    TrustedKeys.find keys signature.keyId = some encoded ∧ b64d encoded = some publicKey ∧
    lib.rt.canonicalPack (.list [.int controlSignatureVersion,.str signature.keyId,
      .int signature.issuedMs,.int signature.expiresMs,payload]) = .ok message ∧
    issued publicKey message
  begun : signature.issuedMs ≤ now + controlClockSkewMs
  unexpired : now - controlClockSkewMs < signature.expiresMs
  lifetime : signature.expiresMs - signature.issuedMs ≤ controlMaxTtlMs

/-- The walk after a page was opened. -/
def openWalk (call : PageCall) (signature : PageSignature) (documents : List Fields)
    (walk : PageWalk) : PageWalk :=
  { walk with
    sources := walk.sources ++ [call.sourceUrl]
    publishers := walk.publishers ++ [(call.sourceUrl,signature.signed,signature.keyId)]
    pins := if strip call.expectedKeyId ≠ "" ∧ call.recordSourcePin then
        walk.pins ++ [(call.sourceUrl,strip call.expectedKeyId)] else walk.pins
    pages := walk.pages ++ [(call.sourceUrl,pageSequence documents)] }

/-- The document before anything is merged into it. -/
def openDocument (pollSeconds : UInt64) (keys : TrustedKeys) (signature : PageSignature)
    (documents : List Fields) : PolicyDocument :=
  { emptyDocument pollSeconds with
    controlPublishers := keys
    signed := signature.signed
    keyId := signature.keyId
    issuedMs := signature.issuedMs
    expiresMs := signature.expiresMs
    crossPlatform := documents.any crossPlatform }

def closeDocument (x : PolicyDocument × PageWalk) : PolicyDocument × PageWalk :=
  ({ x.1 with
    sources := x.2.sources
    sourcePublishers := x.2.publishers
    sourcePins := x.2.pins },x.2)

/-- The merge of the documents of a page with what its nested pages return. -/
def mergedPage (lib : PageLibrary) (server : PageServer) (child : ChildCall) (pollSeconds : UInt64)
    (call : PageCall) (keys : TrustedKeys) (signature : PageSignature) (documents : List Fields)
    (walk : PageWalk) : Result (PolicyDocument × PageWalk) :=
  mergeAll (mergeDocument lib server child call.sourceUrl (call.trusted ++ keys)
    (call.delegatedKeyIds ++ keys.map Prod.fst)) documents
    (openDocument pollSeconds keys signature documents,openWalk call signature documents walk)

/-- What a nested page contributes: nothing when it was read before, else the merge of its signed
content with nested pages of the same kind. A pinned page is signed by the key of its pin. -/
inductive Grounded (lib : PageLibrary) (issued : Bytes → Bytes → Prop) (server : PageServer) (now : ℤ)
    (pollSeconds : UInt64) (own delegated : TrustedKeys) :
    Value → PageCall → PageWalk → PolicyDocument × PageWalk → Prop
  | again (value : Value) (call : PageCall) (walk : PageWalk) (h : call.sourceUrl ∈ walk.sources) :
      Grounded lib issued server now pollSeconds own delegated value call walk
        (emptyDocument pollSeconds,walk)
  | page (value payload : Value) (call : PageCall) (walk : PageWalk) (signature : PageSignature)
      (documents : List Fields) (child : ChildCall) (x : PolicyDocument × PageWalk)
      (hsigned : SignedBy lib issued
        (if strip call.expectedKeyId = "" then own else own ++ delegated) now value payload
          signature)
      (hpinned : strip call.expectedKeyId ≠ "" → signature.keyId = strip call.expectedKeyId)
      (hleaf : ∀ fields, payload = .map fields → Value.field fields "control_publishers" = none)
      (hdocuments : expandPage lib payload = .ok documents)
      (hchild : ∀ value call walk r, child value call walk = .ok r →
        Grounded lib issued server now pollSeconds own delegated value call walk r)
      (hmerged : mergedPage lib server child pollSeconds call [] signature documents walk = .ok x) :
      Grounded lib issued server now pollSeconds own delegated value call walk (closeDocument x)

/-- A composed document: the merge of a root page signed by a trusted key, the expected one where
one is configured, with grounded nested pages under the keys that it delegates. -/
def GroundedRoot (lib : PageLibrary) (issued : Bytes → Bytes → Prop) (server : PageServer) (now : ℤ)
    (settings : ControlSettings) (document : PolicyDocument) : Prop :=
  ∃ value walk payload signature delegated documents child x,
    readJsonUrl server settings.url ⟨[],[],[],[],[]⟩ = .ok (value,walk) ∧
    SignedBy lib issued settings.trusted now value payload signature ∧
    (strip settings.rootKeyId ≠ "" → signature.keyId = strip settings.rootKeyId) ∧
    delegatedPublishers lib true settings.trusted signature payload = .ok delegated ∧
    expandPage lib payload = .ok documents ∧
    (∀ value call walk r, child value call walk = .ok r →
      Grounded lib issued server now settings.pollSeconds settings.trusted delegated value call walk
        r) ∧
    mergedPage lib server child settings.pollSeconds
      ⟨settings.url,settings.rootKeyId,1 < settings.trusted.length,settings.trusted,[]⟩ delegated
      signature documents walk = .ok x ∧
    document = (closeDocument x).1

section Pages

theorem verifyControlPage_spec {keys : TrustedKeys} {value payload : Value}
    {signature : PageSignature} (hissued : ∀ k s m, lib.verify k s m → issued k m)
    (hkeys : keys ≠ []) (h : verifyControlPage lib keys now value = .ok (payload,signature)) :
    SignedBy lib issued keys now value payload signature := by
  have hunsigned : ∀ v, unsignedPage keys v ≠ .ok (payload,signature) := by
    intro v hv
    rw [unsignedPage,if_pos hkeys] at hv
    cases hv
  unfold verifyControlPage at h
  split at h
  · split at h
    · exact absurd h (hunsigned _)
    · exact absurd h (hunsigned _)
    · simp only [verifyMarkedPage,bind_ok,raiseIf_ok,fetched_ok,not_not] at h
      obtain ⟨_,-,_,-,_,-,encoded,hencoded,⟨issuedMs,expiresMs⟩,hwindow,publicKey,hpublic,sent,-,
        message,hmessage,_,hverify,h⟩ := h
      obtain ⟨rfl,rfl⟩ := Prod.mk.inj (Except.ok.inj h)
      unfold validateControlWindow at hwindow
      split at hwindow
      · simp only [bind_ok,raiseIf_ok,not_lt,not_le] at hwindow
        obtain ⟨_,hbegun,_,-,_,hexpiry,_,hlifetime,hwindow⟩ := hwindow
        obtain ⟨rfl,rfl⟩ := Prod.mk.inj (Except.ok.inj hwindow)
        exact ⟨⟨_,encoded,publicKey,message,rfl,rfl,hencoded,hpublic,hmessage,
          hissued publicKey sent message hverify⟩,hbegun,hexpiry,hlifetime⟩
      · cases hwindow
    · cases h
  · exact absurd h (hunsigned _)

/-- More keys behind the ones there are. -/
theorem SignedBy.append {keys : TrustedKeys} (more : TrustedKeys) {value payload : Value}
    {signature : PageSignature} (h : SignedBy lib issued keys now value payload signature) :
    SignedBy lib issued (keys ++ more) now value payload signature := by
  obtain ⟨⟨fields,encoded,publicKey,message,hvalue,hpayload,hfind,hrest⟩,hbegun,hexpiry,hlife⟩ := h
  refine ⟨⟨fields,encoded,publicKey,message,hvalue,hpayload,?_,hrest⟩,hbegun,hexpiry,hlife⟩
  unfold TrustedKeys.find at hfind ⊢
  rw [Option.map_eq_some_iff] at hfind ⊢
  obtain ⟨k,hk,hsecond⟩ := hfind
  exact ⟨k,by rw [List.find?_append,hk]; rfl,hsecond⟩

theorem checkPublisher_spec {expected : String} {signature : PageSignature} {u : Unit}
    (h : checkPublisher expected signature = .ok u) (hexpected : expected ≠ "") :
    signature.keyId = expected := by
  rw [checkPublisher,if_neg hexpected] at h
  simp only [bind_ok,raiseIf_ok,not_not] at h
  obtain ⟨_,-,hkey⟩ := h
  exact hkey

/-- A nested page delegates nothing. -/
theorem delegatedPublishers_nested {keys delegated : TrustedKeys} {signature : PageSignature}
    {payload : Value} (h : delegatedPublishers lib false keys signature payload = .ok delegated) :
    delegated = [] ∧
      ∀ fields, payload = .map fields → Value.field fields "control_publishers" = none := by
  unfold delegatedPublishers at h
  split at h
  · split at h
    · rename_i fields hfield
      refine ⟨(Except.ok.inj h).symm,?_⟩
      rintro fields' hfields
      obtain rfl := Value.map.inj hfields
      exact hfield
    · simp only [bind_ok,raiseIf_ok] at h
      obtain ⟨_,hroot,-⟩ := h
      exact absurd (by decide) hroot
  · rename_i hnot
    exact ⟨(Except.ok.inj h).symm,fun fields hfields => absurd hfields (hnot fields)⟩

/-- The keys that a root page delegates have other ids than the trusted ones. -/
theorem delegatedPublishers_disjoint {keys delegated : TrustedKeys} {signature : PageSignature}
    {payload : Value} (h : delegatedPublishers lib true keys signature payload = .ok delegated) :
    ∀ k ∈ delegated, k.1 ∉ keys.map Prod.fst := by
  have hnil : (Except.ok [] : Result TrustedKeys) = .ok delegated →
      ∀ k ∈ delegated, k.1 ∉ keys.map Prod.fst := by
    intro hempty k hk
    obtain rfl := Except.ok.inj hempty
    cases hk
  unfold delegatedPublishers at h
  split at h
  · split at h
    · exact hnil h
    · simp only [bind_ok,raiseIf_ok,normaliseDelegatedPublishers] at h
      obtain ⟨_,-,_,-,keys',-,_,-,_,hdisjoint,_,-,_,-,h⟩ := h
      obtain rfl := Except.ok.inj h
      intro k hk hmem
      exact hdisjoint ⟨k,hk,hmem⟩
  · exact hnil h

end Pages

section Calls

/-- A call for a nested page: the trusted keys, and the delegated ones where the page is pinned. -/
def PageCall.Nested (own delegated : TrustedKeys) (call : PageCall) : Prop :=
  (call.trusted = own ∨ (call.trusted = own ++ delegated ∧ strip call.expectedKeyId ≠ "")) ∧
    call.delegatedKeyIds = delegated.map Prod.fst

variable {child child' : ChildCall} {sourceUrl : String} {trusted : TrustedKeys}
  {delegatedKeyIds : List String}

theorem mergeAll_mono {α : Type} {f g : α → PolicyDocument × PageWalk →
      Result (PolicyDocument × PageWalk)} {l : List α}
    (hfg : ∀ a x y, f a x = .ok y → g a x = .ok y) {x y : PolicyDocument × PageWalk}
    (h : mergeAll f l x = .ok y) : mergeAll g l x = .ok y := by
  induction l generalizing x with
  | nil => exact h
  | cons a l ih =>
    simp only [mergeAll,bind_ok] at h ⊢
    obtain ⟨z,hz,h⟩ := h
    exact ⟨z,hfg a x z hz,ih h⟩

/-- A pin is a key id without blanks around it. -/
theorem pageEntry_pin {page : Value} {url keyId : String}
    (h : pageEntry lib sourceUrl trusted page = .ok (url,keyId)) (hpin : keyId ≠ "") :
    strip keyId ≠ "" := by
  unfold pageEntry at h
  split at h
  · obtain ⟨-,rfl⟩ := Prod.mk.inj (Except.ok.inj h)
    exact absurd rfl hpin
  · simp only [bind_ok] at h
    obtain ⟨_,-,_,-,h⟩ := h
    split at h
    · obtain ⟨-,rfl⟩ := Prod.mk.inj (Except.ok.inj h)
      exact absurd rfl hpin
    · simp only [bind_ok] at h
      obtain ⟨_,-,_,-,h⟩ := h
      obtain ⟨-,rfl⟩ := Prod.mk.inj (Except.ok.inj h)
      rw [strip_strip]
      exact hpin
  · cases h

/-- A merge only depends on its nested calls, which are all for nested pages. -/
theorem mergePage_mono
    (htrusted : trusted = own ∨ trusted = own ++ delegated)
    (hids : delegatedKeyIds = delegated.map Prod.fst)
    (hdisjoint : ∀ k ∈ delegated, k.1 ∉ own.map Prod.fst)
    (hchild : ∀ value call walk r, PageCall.Nested own delegated call →
      child value call walk = .ok r → child' value call walk = .ok r)
    {page : Value} {x y : PolicyDocument × PageWalk}
    (h : mergePage lib server child sourceUrl trusted delegatedKeyIds page x = .ok y) :
    mergePage lib server child' sourceUrl trusted delegatedKeyIds page x = .ok y := by
  simp only [mergePage,bind_ok] at h ⊢
  obtain ⟨⟨url,keyId⟩,hentry,⟨value,walk⟩,hread,r,hcall,h⟩ := h
  refine ⟨(url,keyId),hentry,(value,walk),hread,r,hchild _ _ _ _ ?_ hcall,h⟩
  refine ⟨?_,hids⟩
  have hlocal : own.filter (fun k => k.1 ∉ delegatedKeyIds) = own := by
    rw [List.filter_eq_self]
    intro k hk
    rw [hids,decide_eq_true_eq]
    intro hmem
    obtain ⟨d,hd,hsame⟩ := List.mem_map.mp hmem
    exact hdisjoint d hd (hsame ▸ List.mem_map_of_mem hk)
  have hnone : delegated.filter (fun k => k.1 ∉ delegatedKeyIds) = [] := by
    rw [List.filter_eq_nil_iff]
    intro k hk
    rw [hids,decide_eq_true_eq,not_not]
    exact List.mem_map_of_mem hk
  by_cases hpin : keyId = ""
  · refine Or.inl ?_
    show (if keyId = "" then trusted.filter fun k => k.1 ∉ delegatedKeyIds else trusted) = own
    rw [if_pos hpin]
    rcases htrusted with rfl | rfl
    · exact hlocal
    · rw [List.filter_append,hlocal,hnone,List.append_nil]
  · show (if keyId = "" then trusted.filter fun k => k.1 ∉ delegatedKeyIds else trusted) = own ∨
      ((if keyId = "" then trusted.filter fun k => k.1 ∉ delegatedKeyIds else trusted) =
        own ++ delegated ∧ strip keyId ≠ "")
    rw [if_neg hpin]
    rcases htrusted with rfl | rfl
    · exact Or.inl rfl
    · exact Or.inr ⟨rfl,pageEntry_pin hentry hpin⟩

theorem mergeDocument_mono
    (htrusted : trusted = own ∨ trusted = own ++ delegated)
    (hids : delegatedKeyIds = delegated.map Prod.fst)
    (hdisjoint : ∀ k ∈ delegated, k.1 ∉ own.map Prod.fst)
    (hchild : ∀ value call walk r, PageCall.Nested own delegated call →
      child value call walk = .ok r → child' value call walk = .ok r)
    {document : Fields} {x y : PolicyDocument × PageWalk}
    (h : mergeDocument lib server child sourceUrl trusted delegatedKeyIds document x = .ok y) :
    mergeDocument lib server child' sourceUrl trusted delegatedKeyIds document x = .ok y := by
  simp only [mergeDocument,bind_ok] at h ⊢
  obtain ⟨fields,hfields,x₁,hnodes,pages,hpages,x₂,hfirst,kv,hkv,hsecond⟩ := h
  have hpage : ∀ page x y, mergePage lib server child sourceUrl trusted delegatedKeyIds page x =
      .ok y → mergePage lib server child' sourceUrl trusted delegatedKeyIds page x = .ok y :=
    fun _ _ _ hstep => mergePage_mono htrusted hids hdisjoint hchild hstep
  exact ⟨fields,hfields,x₁,hnodes,pages,hpages,x₂,mergeAll_mono hpage hfirst,kv,hkv,
    mergeAll_mono hpage hsecond⟩

end Calls

section Trees

instance (call : PageCall) : Decidable (call.Nested own delegated) := by
  unfold PageCall.Nested
  infer_instance

/-- The calls for nested pages of a recursion. -/
def nestedCalls (own delegated : TrustedKeys) (child : ChildCall) : ChildCall :=
  fun value call walk =>
    if call.Nested own delegated then child value call walk
    else .error (.runtime "not a call for a nested page")

theorem nestedCalls_ok {child : ChildCall} {value : Value} {call : PageCall} {walk : PageWalk}
    {r : PolicyDocument × PageWalk} : nestedCalls own delegated child value call walk = .ok r ↔
      call.Nested own delegated ∧ child value call walk = .ok r := by
  unfold nestedCalls
  split <;> simp_all

/-- A nested page is grounded, by induction on the levels that may be opened below it. -/
theorem normaliseDocument_grounded (hissued : ∀ k s m, lib.verify k s m → issued k m)
    (hown : own ≠ []) (hdisjoint : ∀ k ∈ delegated, k.1 ∉ own.map Prod.fst) {levels : ℕ}
    (hlevels : levels ≤ maxPageDepth) {value : Value} {call : PageCall} {walk : PageWalk}
    {r : PolicyDocument × PageWalk} (hcall : call.Nested own delegated)
    (h : normaliseDocument lib server now pollSeconds levels value call walk = .ok r) :
    Grounded lib issued server now pollSeconds own delegated value call walk r := by
  induction levels generalizing value call walk r with
  | zero => cases h
  | succ levels ih =>
    have hnested : decide (levels = maxPageDepth) = false := by
      rw [decide_eq_false_iff_not]
      omega
    have hkeys : call.trusted ≠ [] := by
      rcases hcall.1 with hsame | ⟨hsame,-⟩ <;> rw [hsame] <;> simp [hown]
    simp only [normaliseDocument,bind_ok,hnested] at h
    obtain ⟨_,-,⟨payload,signature⟩,hverify,_,hpublisher,keys,hdelegated,h⟩ := h
    split at h
    · rename_i hvisited
      obtain rfl := Except.ok.inj h
      exact .again value call walk hvisited
    · simp only [bind_ok] at h
      obtain ⟨documents,hdocuments,x,hmerge,h⟩ := h
      obtain rfl := Except.ok.inj h
      obtain ⟨rfl,hleaf⟩ := delegatedPublishers_nested hdelegated
      have hsigned := verifyControlPage_spec hissued hkeys hverify
      refine .page value payload call walk signature documents
        (nestedCalls own delegated (normaliseDocument lib server now pollSeconds levels)) x ?_
          (checkPublisher_spec hpublisher) hleaf hdocuments ?_ ?_
      · rcases hcall.1 with hsame | ⟨hsame,hpin⟩
        · rw [hsame] at hsigned
          split
          · exact hsigned
          · exact hsigned.append delegated
        · rw [hsame] at hsigned
          rw [if_neg hpin]
          exact hsigned
      · intro value call walk r hr
        obtain ⟨hcall',hr⟩ := nestedCalls_ok.mp hr
        exact ih (by omega) hcall' hr
      · refine mergeAll_mono (fun _ _ _ hstep => ?_) hmerge
        refine mergeDocument_mono ?_ ?_ hdisjoint ?_ hstep
        · rw [List.append_nil]
          exact hcall.1.imp_right And.left
        · rw [List.map_nil,List.append_nil]
          exact hcall.2
        · intro value call walk r hcall' hr
          exact nestedCalls_ok.mpr ⟨hcall',hr⟩

/-- A composed document is grounded in its root page. -/
theorem compose_grounded (hissued : ∀ k s m, lib.verify k s m → issued k m)
    {settings : ControlSettings} (htrusted : settings.trusted ≠ []) {document : PolicyDocument}
    {walk : PageWalk} (h : compose lib settings server now = .ok (document,walk)) :
    GroundedRoot lib issued server now settings document := by
  simp only [compose,bind_ok] at h
  obtain ⟨⟨value,walk₀⟩,hread,h⟩ := h
  have hsources : walk₀.sources = [] := by rw [readJsonUrl_walk hread]
  simp only [normaliseDocument,bind_ok,decide_true] at h
  obtain ⟨_,-,⟨payload,signature⟩,hverify,_,hpublisher,keys,hdelegated,h⟩ := h
  rw [if_neg (by simp [hsources])] at h
  simp only [bind_ok] at h
  obtain ⟨documents,hdocuments,x,hmerge,h⟩ := h
  obtain ⟨rfl,rfl⟩ := Prod.mk.inj (Except.ok.inj h)
  have hdisjoint := delegatedPublishers_disjoint hdelegated
  refine ⟨value,walk₀,payload,signature,keys,documents,nestedCalls settings.trusted keys
    (normaliseDocument lib server now settings.pollSeconds maxPageDepth),x,hread,
      verifyControlPage_spec hissued htrusted hverify,checkPublisher_spec hpublisher,hdelegated,
      hdocuments,?_,?_,rfl⟩
  · intro value call walk r hr
    obtain ⟨hcall,hr⟩ := nestedCalls_ok.mp hr
    exact normaliseDocument_grounded hissued htrusted hdisjoint le_rfl hcall hr
  · refine mergeAll_mono (fun _ _ _ hstep => ?_) hmerge
    refine mergeDocument_mono (Or.inr rfl) rfl hdisjoint ?_ hstep
    intro value call walk r hcall hr
    exact nestedCalls_ok.mpr ⟨hcall,hr⟩

end Trees

/-- The state file, the node's configuration, peers and software, and the applied documents. -/
structure TrustWorld (σ : Type) where
  state : ControlState
  files : σ
  applied : List PolicyDocument

namespace TrustWorld

variable {σ : Type} {put : PolicyDocument → σ → σ}

def initial (files : σ) : TrustWorld σ := ⟨.empty,files,[]⟩

/-- One synchronisation; what could not be put in place has been restored. -/
def exec (lib : PageLibrary) (put : PolicyDocument → σ → σ) (settings : ControlSettings)
    (server : PageServer) (now : ℤ) (applies : PolicyDocument → Bool) (w : TrustWorld σ) :
    TrustWorld σ :=
  match syncRemoteControl lib settings server now applies w.state with
  | (.applied document _,state) => ⟨state,put document w.files,document :: w.applied⟩
  | (_,state) => { w with state := state }

/-- A synchronisation under these keys, with whatever the servers answer. -/
def Step (lib : PageLibrary) (put : PolicyDocument → σ → σ) (trusted : TrustedKeys)
    (rootKeyId : String) (w w' : TrustWorld σ) : Prop :=
  ∃ settings server now applies, settings.trusted = trusted ∧ settings.rootKeyId = rootKeyId ∧
    w' = w.exec lib put settings server now applies

/-- What a synchronisation applies is a composed document. -/
theorem exec_cases (settings : ControlSettings) (server : PageServer) (now : ℤ)
    (applies : PolicyDocument → Bool) (w : TrustWorld σ) :
    ((w.exec lib put settings server now applies).files = w.files ∧
      (w.exec lib put settings server now applies).applied = w.applied) ∨
    ∃ document walk, compose lib settings server now = .ok (document,walk) ∧
      (w.exec lib put settings server now applies).files = put document w.files ∧
      (w.exec lib put settings server now applies).applied = document :: w.applied := by
  unfold exec syncRemoteControl
  cases compose lib settings server now with
  | error e => exact Or.inl ⟨rfl,rfl⟩
  | ok r =>
    obtain ⟨document,walk⟩ := r
    dsimp only
    split_ifs
    · exact Or.inl ⟨rfl,rfl⟩
    · exact Or.inl ⟨rfl,rfl⟩
    · exact Or.inl ⟨rfl,rfl⟩
    · exact Or.inr ⟨document,walk,rfl,rfl,rfl⟩
    · exact Or.inl ⟨rfl,rfl⟩

end TrustWorld

/-- In every run under a set of trusted keys, the configuration, the peers and the software are the
first ones with the applied documents put over them, and each of these is grounded: the root page
is signed by a trusted key, the expected one where one is configured, every nested page by a
trusted key or, where its entry pins it, by a key the root page delegates, and no nested page
delegates. -/
theorem applied_documents_grounded {σ : Type} {put : PolicyDocument → σ → σ} {trusted : TrustedKeys}
    {rootKeyId : String} {files : σ} {w : TrustWorld σ}
    (hissued : ∀ k s m, lib.verify k s m → issued k m) (htrusted : trusted ≠ [])
    (h : Reaches (TrustWorld.Step lib put trusted rootKeyId) (.initial files) w) :
    w.files = w.applied.foldr put files ∧
    ∀ document ∈ w.applied, ∃ settings server now, settings.trusted = trusted ∧
      settings.rootKeyId = rootKeyId ∧ GroundedRoot lib issued server now settings document := by
  induction h with
  | refl => exact ⟨rfl,fun _ hd => absurd hd List.not_mem_nil⟩
  | tail _ hlast ih =>
    obtain ⟨settings,server,now,applies,hkeys,hroot,rfl⟩ := hlast
    obtain ⟨hfiles,hgrounded⟩ := ih
    rcases TrustWorld.exec_cases settings server now applies _ with
      ⟨hsame,happlied⟩ | ⟨document,walk,hcompose,hput,happlied⟩
    · rw [hsame,happlied]
      exact ⟨hfiles,hgrounded⟩
    · rw [hput,happlied,hfiles]
      refine ⟨rfl,?_⟩
      intro d hd
      rcases List.mem_cons.mp hd with rfl | hd
      · exact ⟨settings,server,now,hkeys,hroot,
          compose_grounded hissued (hkeys ▸ htrusted) hcompose⟩
      · exact hgrounded d hd

section Sample

/-- A root page with a nested page of the actor and a node whose card is elsewhere. -/
def cardPage : Value :=
  signedPage "root" rootKey [(.str "sequence",.int 5),
    (.str "nodes",.list [.map [(.str "card_url",.str "file:card")]])]

/-- The servers answer the request for the card with a card of this id. -/
def cardServer (nodeId : String) : PageServer :=
  fun _ url => .ok (if url = "file:card" then .map [(.str "node_id",.str nodeId)] else cardPage)

/-- The ids of the cards in the composed document. -/
def composedCards (server : PageServer) : List String :=
  match compose plainPages twoPublishers server 2000 with
  | .ok (document,_) => document.nodes.filterMap fun node =>
    match node with
    | .map fields =>
      match Value.field fields "card" with
      | some (.map card) =>
        match Value.field card "node_id" with
        | some (.str nodeId) => some nodeId
        | _ => none
      | _ => none
    | _ => none
  | .error _ => []

/-- Two synchronisations with the pages of both publishers. -/
def trustSample : TrustWorld ℤ :=
  ((TrustWorld.initial 0).exec plainPages (fun d _ => d.sequence) twoPublishers
    (served (rootPage 5) (actorPage 3 64)) 2000 fun _ => true).exec plainPages
      (fun d _ => d.sequence) twoPublishers (served (rootPage 6) (actorPage 4 128)) 2000 fun _ => true

theorem applied_documents_grounded_sample :
    trustSample.files = trustSample.applied.foldr (fun d _ => d.sequence) 0 ∧
      trustSample.files = 6 := by
  have hfirst : Reaches (TrustWorld.Step plainPages (fun d _ => d.sequence) twoPublishers.trusted
      "root") (.initial 0) ((TrustWorld.initial 0).exec plainPages (fun d _ => d.sequence)
        twoPublishers (served (rootPage 5) (actorPage 3 64)) 2000 fun _ => true) :=
    .single ⟨twoPublishers,_,2000,_,rfl,rfl,rfl⟩
  have hboth := hfirst.tail ⟨twoPublishers,served (rootPage 6) (actorPage 4 128),2000,
    fun _ => true,rfl,rfl,rfl⟩
  have hissued : ∀ k s m, plainPages.verify k s m → ∃ s, plainPages.verify k s m :=
    fun k s m hverify => ⟨s,hverify⟩
  exact ⟨(applied_documents_grounded hissued (by decide) hboth).1,by decide +kernel⟩

/-- Under one signed root page the servers choose which card comes in: the card behind a reference
carries no signature of a trusted key. -/
theorem stranger_card_composed :
    composedCards (cardServer "an1-friend") = ["an1-friend"] ∧
      composedCards (cardServer "an1-stranger") = ["an1-stranger"] := by
  decide +kernel

end Sample

end RemoteControl
end Anet
