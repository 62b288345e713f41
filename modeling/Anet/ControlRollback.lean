import Anet.ControlPages
import Anet.MsgPack
import Anet.Transition
import Mathlib.Tactic.Common

/-! What the one sequence number of the remote control protects: the composed document of a page
tree carries the greatest number of its pages, and applied documents have ever greater ones. -/
namespace Anet
namespace RemoteControl

variable {lib : PageLibrary}

section Numbers

/-- The greatest of a number and those of the pages. -/
def top (a : ℤ) (pages : List (String × ℤ)) : ℤ := pages.foldl (fun m p => max m p.2) a

theorem foldl_max (a b : ℤ) (l : List ℤ) : l.foldl max (max a b) = max b (l.foldl max a) := by
  induction l generalizing a with
  | nil => exact max_comm a b
  | cons x l ih =>
    have hswap : max (max a b) x = max (max a x) b := by omega
    rw [List.foldl_cons,hswap]
    exact ih (max a x)

theorem top_append (a : ℤ) (l l' : List (String × ℤ)) : top a (l ++ l') = top (top a l) l' :=
  List.foldl_append

theorem top_max (a b : ℤ) (l : List (String × ℤ)) : top (max a b) l = max b (top a l) := by
  induction l generalizing a with
  | nil => exact max_comm a b
  | cons p l ih =>
    have hswap : max (max a b) p.2 = max (max a p.2) b := by omega
    rw [top,List.foldl_cons,hswap]
    exact ih (max a p.2)

theorem le_top (a : ℤ) (l : List (String × ℤ)) : a ≤ top a l ∧ ∀ p ∈ l, p.2 ≤ top a l := by
  induction l generalizing a with
  | nil => exact ⟨le_rfl,fun p hp => absurd hp List.not_mem_nil⟩
  | cons p l ih =>
    obtain ⟨hfirst,hrest⟩ := ih (max a p.2)
    refine ⟨(le_max_left a p.2).trans hfirst,?_⟩
    intro q hq
    rcases List.mem_cons.mp hq with rfl | hq
    · exact (le_max_right a q.2).trans hfirst
    · exact hrest q hq

theorem top_attained (a : ℤ) (l : List (String × ℤ)) : top a l = a ∨ ∃ p ∈ l, p.2 = top a l := by
  induction l generalizing a with
  | nil => exact Or.inl rfl
  | cons p l ih =>
    rcases ih (max a p.2) with htop | ⟨q,hq,hmax⟩
    · by_cases hle : p.2 ≤ a
      · exact Or.inl (htop.trans (max_eq_left hle))
      · exact Or.inr ⟨p,List.mem_cons_self,(htop.trans (max_eq_right (by omega))).symm⟩
    · exact Or.inr ⟨q,List.mem_cons_of_mem _ hq,hmax⟩

end Numbers

section Composition

variable {server : PageServer} {child : ChildCall} {sourceUrl : String} {trusted : TrustedKeys}
  {delegatedKeyIds : List String} {x y : PolicyDocument × PageWalk} {now : ℤ} {pollSeconds : UInt64}

/-- A turn of a merge: some pages more, the number raised to theirs and to another, and the
signature as it was. -/
structure Adds (s : ℤ) (x y : PolicyDocument × PageWalk) (new : List (String × ℤ)) : Prop where
  pages : y.2.pages = x.2.pages ++ new
  sequence : y.1.sequence = top (max x.1.sequence s) new
  signed : y.1.signed = x.1.signed

/-- A call returns the greatest number of the pages it has added. -/
def Counts (child : ChildCall) : Prop :=
  ∀ value call walk doc walk', child value call walk = .ok (doc,walk') →
    ∃ new, walk'.pages = walk.pages ++ new ∧ doc.sequence = top 0 new

theorem Adds.pos {s : ℤ} {new : List (String × ℤ)} (h : Adds s x y new) (hx : 0 ≤ x.1.sequence) :
    0 ≤ y.1.sequence := by
  rw [h.sequence]
  exact (hx.trans (le_max_left _ s)).trans (le_top _ new).1

theorem Adds.trans {z : PolicyDocument × PageWalk} {s t : ℤ} {new new' : List (String × ℤ)}
    (h : Adds s x y new) (h' : Adds t y z new') : Adds (max s t) x z (new ++ new') where
  pages := by rw [h'.pages,h.pages,List.append_assoc]
  sequence := by
    rw [h'.sequence,h.sequence,top_max,← top_append,← top_max,max_assoc]
  signed := h'.signed.trans h.signed

/-- A loop whose turns add pages adds pages. -/
theorem mergeAll_adds {α : Type} {f : α → PolicyDocument × PageWalk →
      Result (PolicyDocument × PageWalk)} {s : α → ℤ} {l : List α}
    (hf : ∀ a ∈ l, ∀ x y, 0 ≤ x.1.sequence → f a x = .ok y → ∃ new, Adds (s a) x y new)
    (hx : 0 ≤ x.1.sequence) (h : mergeAll f l x = .ok y) :
    ∃ new, Adds ((l.map s).foldl max 0) x y new := by
  induction l generalizing x with
  | nil =>
    obtain rfl := Except.ok.inj h
    exact ⟨[],by simp,(max_eq_left hx).symm,rfl⟩
  | cons a l ih =>
    simp only [mergeAll,bind_ok] at h
    obtain ⟨z,hz,h⟩ := h
    obtain ⟨new,hnew⟩ := hf a List.mem_cons_self x z hx hz
    obtain ⟨new',hnew'⟩ := ih (fun b hb => hf b (List.mem_cons_of_mem _ hb)) (hnew.pos hx) h
    refine ⟨new ++ new',?_⟩
    have hsum : max (s a) ((l.map s).foldl max 0) = ((a :: l).map s).foldl max 0 := by
      rw [List.map_cons,List.foldl_cons,foldl_max]
    rw [← hsum]
    exact hnew.trans hnew'

/-- Reading a page only records the request. -/
theorem readJsonUrl_walk {url : String} {walk walk' : PageWalk} {value : Value}
    (h : readJsonUrl server url walk = .ok (value,walk')) :
    walk' = { walk with requests := walk.requests ++ [url] } := by
  simp only [readJsonUrl,bind_ok] at h
  obtain ⟨v,-,h⟩ := h
  split at h
  · exact (Prod.mk.inj (Except.ok.inj h)).2.symm
  · exact (Prod.mk.inj (Except.ok.inj h)).2.symm
  · cases h

theorem readJsonUrl_pages {url : String} {walk walk' : PageWalk} {value : Value}
    (h : readJsonUrl server url walk = .ok (value,walk')) : walk'.pages = walk.pages := by
  rw [readJsonUrl_walk h]

theorem cardValue_pages {baseUrl : String} {item value : Value} {walk walk' : PageWalk}
    (h : cardValue lib server baseUrl item walk = .ok (value,walk')) : walk'.pages = walk.pages := by
  simp only [cardValue,bind_ok] at h
  obtain ⟨⟨v,walk₁⟩,hsource,h⟩ := h
  have hfirst : walk₁.pages = walk.pages := by
    unfold cardSource at hsource
    split at hsource
    · exact readJsonUrl_pages hsource
    · split at hsource
      · obtain ⟨-,rfl⟩ := Prod.mk.inj (Except.ok.inj hsource)
        rfl
      · split at hsource
        · exact readJsonUrl_pages hsource
        · obtain ⟨-,rfl⟩ := Prod.mk.inj (Except.ok.inj hsource)
          rfl
    · obtain ⟨-,rfl⟩ := Prod.mk.inj (Except.ok.inj hsource)
      rfl
  split at h
  · split at h
    · obtain ⟨-,rfl⟩ := Prod.mk.inj (Except.ok.inj h)
      exact hfirst
    · obtain ⟨-,rfl⟩ := Prod.mk.inj (Except.ok.inj h)
      exact hfirst
  · cases h

theorem referencedCard_pages {target : String} {value : Value} {walk walk' : PageWalk}
    (h : referencedCard lib server target walk = .ok (value,walk')) :
    walk'.pages = walk.pages := by
  simp only [referencedCard,bind_ok] at h
  obtain ⟨⟨v,walk₁⟩,hread,h⟩ := h
  exact (cardValue_pages h).trans (readJsonUrl_pages hread)

theorem normaliseNode_pages {item value : Value} {walk walk' : PageWalk}
    (h : normaliseNode lib server sourceUrl item walk = .ok (value,walk')) :
    walk'.pages = walk.pages := by
  unfold normaliseNode at h
  split at h
  · exact referencedCard_pages h
  · split at h
    · simp only [bind_ok] at h
      obtain ⟨⟨card,walk₁⟩,hcard,h⟩ := h
      obtain ⟨-,rfl⟩ := Prod.mk.inj (Except.ok.inj h)
      exact referencedCard_pages hcard
    · split at h
      · simp only [bind_ok] at h
        obtain ⟨⟨card,walk₁⟩,hcard,h⟩ := h
        obtain ⟨-,rfl⟩ := Prod.mk.inj (Except.ok.inj h)
        exact referencedCard_pages hcard
      · obtain ⟨-,rfl⟩ := Prod.mk.inj (Except.ok.inj h)
        rfl
  · obtain ⟨-,rfl⟩ := Prod.mk.inj (Except.ok.inj h)
    rfl

theorem mergeNode_adds {item : Value} (hx : 0 ≤ x.1.sequence)
    (h : mergeNode lib server sourceUrl item x = .ok y) : ∃ new, Adds 0 x y new := by
  simp only [mergeNode,bind_ok] at h
  obtain ⟨⟨node,walk⟩,hnode,h⟩ := h
  obtain rfl := Except.ok.inj h
  exact ⟨[],by rw [List.append_nil]; exact normaliseNode_pages hnode,(max_eq_left hx).symm,rfl⟩

theorem mergePage_adds (hchild : Counts child) {page : Value}
    (h : mergePage lib server child sourceUrl trusted delegatedKeyIds page x = .ok y) :
    ∃ new, Adds 0 x y new := by
  simp only [mergePage,bind_ok] at h
  obtain ⟨⟨url,keyId⟩,-,⟨value,walk⟩,hread,⟨doc,walk'⟩,hdoc,h⟩ := h
  obtain rfl := Except.ok.inj h
  obtain ⟨new,hpages,hsequence⟩ := hchild _ _ _ _ _ hdoc
  refine ⟨new,?_,?_,rfl⟩
  · rw [hpages,readJsonUrl_pages hread]
  · show max x.1.sequence doc.sequence = _
    rw [hsequence,max_comm x.1.sequence 0,top_max]

theorem mergeFields_spec {document : Fields} {result own : PolicyDocument}
    (hresult : 0 ≤ result.sequence)
    (h : mergeFields lib sourceUrl document result = .ok own) :
    own.sequence = max result.sequence ((documentSequence document).getD 0) ∧
      own.signed = result.signed := by
  simp only [mergeFields,bind_ok] at h
  obtain ⟨_,-,h⟩ := h
  obtain rfl := Except.ok.inj h
  refine ⟨?_,rfl⟩
  cases documentSequence document with
  | none => exact (max_eq_left hresult).symm
  | some i => rfl

/-- The turn of one document adds its own number and the pages below it. -/
theorem mergeDocument_adds (hchild : Counts child) {document : Fields} (hx : 0 ≤ x.1.sequence)
    (h : mergeDocument lib server child sourceUrl trusted delegatedKeyIds document x = .ok y) :
    ∃ new, Adds ((documentSequence document).getD 0) x y new := by
  simp only [mergeDocument,bind_ok] at h
  obtain ⟨own,hown,x₁,hnodes,pages,-,x₂,hpages,kv,-,hkv⟩ := h
  obtain ⟨hsequence,hsigned⟩ := mergeFields_spec hx hown
  have hzero : ∀ {α : Type} (l : List α), (l.map fun _ => (0 : ℤ)).foldl max 0 = 0 := by
    intro α l
    induction l with
    | nil => rfl
    | cons a l ih => exact ih
  have hstart : Adds ((documentSequence document).getD 0) x (own,x.2) [] :=
    ⟨(List.append_nil _).symm,hsequence,hsigned⟩
  have hown' := hstart.pos hx
  obtain ⟨new₁,h₁⟩ := mergeAll_adds (s := fun _ => 0)
    (fun _ _ _ _ hx' hstep => mergeNode_adds hx' hstep) hown' hnodes
  have hpos₁ := h₁.pos hown'
  obtain ⟨new₂,h₂⟩ := mergeAll_adds (s := fun _ => 0)
    (fun _ _ _ _ _ hstep => mergePage_adds hchild hstep) hpos₁ hpages
  obtain ⟨new₃,h₃⟩ := mergeAll_adds (s := fun _ => 0)
    (fun _ _ _ _ _ hstep => mergePage_adds hchild hstep) (h₂.pos hpos₁) hkv
  rw [hzero] at h₁ h₂ h₃
  have hall := ((hstart.trans h₁).trans h₂).trans h₃
  refine ⟨_,hall.pages,?_,hall.signed⟩
  rw [hall.sequence]
  congr 1
  omega

theorem verifyControlPage_signed {value payload : Value} {signature : PageSignature}
    (htrusted : trusted ≠ [])
    (h : verifyControlPage lib trusted now value = .ok (payload,signature)) : signature.signed := by
  have hunsigned : ∀ v, unsignedPage trusted v ≠ .ok (payload,signature) := by
    intro v hv
    rw [unsignedPage,if_pos htrusted] at hv
    cases hv
  unfold verifyControlPage at h
  split at h
  · split at h
    · exact absurd h (hunsigned _)
    · exact absurd h (hunsigned _)
    · simp only [verifyMarkedPage,bind_ok] at h
      iterate 9 (obtain ⟨_,-,h⟩ := h)
      obtain ⟨-,rfl⟩ := Prod.mk.inj (Except.ok.inj h)
      rfl
    · cases h
  · exact absurd h (hunsigned _)

theorem pageSequence_eq (documents : List Fields) :
    (documents.map fun d => (documentSequence d).getD 0).foldl max 0 = pageSequence documents := by
  have hall : ∀ a : ℤ, 0 ≤ a → (documents.map fun d => (documentSequence d).getD 0).foldl max a =
      (documents.filterMap documentSequence).foldl max a := by
    induction documents with
    | nil => exact fun _ _ => rfl
    | cons d ds ih =>
      intro a ha
      rw [List.map_cons,List.foldl_cons,List.filterMap_cons]
      cases documentSequence d with
      | none =>
        rw [Option.getD_none,max_eq_left ha]
        exact ih a ha
      | some i => exact ih (max a i) (ha.trans (le_max_left a i))
  exact hall 0 le_rfl

/-- What a page adds: itself and the pages below it. -/
theorem normaliseDocument_counts (levels : ℕ) :
    Counts (normaliseDocument lib server now pollSeconds levels) := by
  induction levels with
  | zero =>
    intro value call walk doc walk' h
    cases h
  | succ levels ih =>
    intro value call walk doc walk' h
    simp only [normaliseDocument,bind_ok] at h
    obtain ⟨_,-,⟨payload,signature⟩,-,_,-,delegated,-,h⟩ := h
    split at h
    · obtain ⟨rfl,rfl⟩ := Prod.mk.inj (Except.ok.inj h)
      exact ⟨[],(List.append_nil _).symm,rfl⟩
    · simp only [bind_ok] at h
      obtain ⟨documents,-,⟨result,walk₁⟩,hmerge,h⟩ := h
      obtain ⟨rfl,rfl⟩ := Prod.mk.inj (Except.ok.inj h)
      obtain ⟨new,hnew⟩ := mergeAll_adds (s := fun d => (documentSequence d).getD 0)
        (fun _ _ _ _ hx' hstep => mergeDocument_adds ih hx' hstep) le_rfl hmerge
      refine ⟨(call.sourceUrl,pageSequence documents) :: new,?_,?_⟩
      · rw [hnew.pages,List.append_assoc]
        rfl
      · rw [pageSequence_eq] at hnew
        exact hnew.sequence

theorem normaliseDocument_signed {levels : ℕ} {value : Value} {call : PageCall}
    {walk walk' : PageWalk} {doc : PolicyDocument} (htrusted : call.trusted ≠ [])
    (hnew : call.sourceUrl ∉ walk.sources)
    (h : normaliseDocument lib server now pollSeconds (levels + 1) value call walk =
      .ok (doc,walk')) : doc.signed := by
  simp only [normaliseDocument,bind_ok] at h
  obtain ⟨_,-,⟨payload,signature⟩,hverify,_,-,delegated,-,h⟩ := h
  rw [if_neg hnew] at h
  simp only [bind_ok] at h
  obtain ⟨documents,-,⟨result,walk₁⟩,hmerge,h⟩ := h
  obtain ⟨rfl,rfl⟩ := Prod.mk.inj (Except.ok.inj h)
  obtain ⟨new,hadds⟩ := mergeAll_adds (s := fun d => (documentSequence d).getD 0)
    (fun _ _ _ _ hx' hstep => mergeDocument_adds (normaliseDocument_counts levels) hx' hstep)
      le_rfl hmerge
  show result.signed = true
  rw [hadds.signed]
  exact verifyControlPage_signed htrusted hverify

/-- A composed document is signed where keys are trusted, and has the greatest number of its
pages. -/
theorem compose_spec {settings : ControlSettings} {document : PolicyDocument} {walk : PageWalk}
    (htrusted : settings.trusted ≠ [])
    (h : compose lib settings server now = .ok (document,walk)) :
    document.signed ∧ document.sequence = top 0 walk.pages := by
  simp only [compose,bind_ok] at h
  obtain ⟨⟨value,walk₀⟩,hread,h⟩ := h
  have hpages : walk₀.pages = [] := readJsonUrl_pages hread
  have hsources : walk₀.sources = [] := by rw [readJsonUrl_walk hread]
  refine ⟨normaliseDocument_signed htrusted (by simp [hsources]) h,?_⟩
  obtain ⟨new,hnew,hsequence⟩ := normaliseDocument_counts _ _ _ _ _ _ h
  rw [hpages,List.nil_append] at hnew
  rw [hnew,hsequence]

end Composition

/-- The state file, and the applied documents with their pages, the newest first. -/
structure PolicyWorld where
  state : ControlState
  applied : List (PolicyDocument × List (String × ℤ))

namespace PolicyWorld

def initial : PolicyWorld := ⟨.empty,[]⟩

/-- One synchronisation. -/
def exec (lib : PageLibrary) (settings : ControlSettings) (server : PageServer) (now : ℤ)
    (applies : PolicyDocument → Bool) (w : PolicyWorld) : PolicyWorld :=
  match syncRemoteControl lib settings server now applies w.state with
  | (.applied document pages,state) => ⟨state,(document,pages) :: w.applied⟩
  | (_,state) => { w with state := state }

/-- A synchronisation under trusted keys, with whatever the servers answer. -/
def SyncStep (lib : PageLibrary) (w w' : PolicyWorld) : Prop :=
  ∃ settings server now applies, settings.trusted ≠ [] ∧
    w' = w.exec lib settings server now applies

/-- The state is that of the last applied document, the numbers grow, and each is the greatest
of its pages. -/
structure Kept (lib : PageLibrary) (w : PolicyWorld) : Prop where
  state : w.state = match w.applied with
    | [] => .empty
    | (document,_) :: _ => ⟨document.sequence,lib.digest (policyValue document)⟩
  grows : w.applied.Pairwise fun a b => b.1.sequence < a.1.sequence
  greatest : ∀ a ∈ w.applied, a.1.sequence = top 0 a.2

variable {settings : ControlSettings} {w w' : PolicyWorld}

/-- What a synchronisation can do: nothing, or apply a document with a greater number. -/
theorem exec_cases (hdigest : ∀ v, lib.digest v ≠ "") (hw : w.Kept lib)
    (htrusted : settings.trusted ≠ []) (server : PageServer) (now : ℤ)
    (applies : PolicyDocument → Bool) :
    w.exec lib settings server now applies = w ∨
    ∃ document walk, compose lib settings server now = .ok (document,walk) ∧
      (∀ a ∈ w.applied, a.1.sequence < document.sequence) ∧
      w.exec lib settings server now applies =
        ⟨⟨document.sequence,lib.digest (policyValue document)⟩,
          (document,walk.pages) :: w.applied⟩ := by
  unfold exec syncRemoteControl
  cases hcompose : compose lib settings server now with
  | error e => exact Or.inl rfl
  | ok r =>
    obtain ⟨document,walk⟩ := r
    have hsigned := (compose_spec htrusted hcompose).1
    dsimp only
    split_ifs with hstale hreused hsame happlies
    · exact Or.inl rfl
    · exact Or.inl rfl
    · exact Or.inl rfl
    · refine Or.inr ⟨document,walk,rfl,?_,rfl⟩
      intro a ha
      have hstate := hw.state
      have hgrows := hw.grows
      cases happlied : w.applied with
      | nil => rw [happlied] at ha; cases ha
      | cons first rest =>
        rw [happlied] at hstate ha hgrows
        have hnext : w.state.sequence < document.sequence := by
          have hdiffers : document.sequence ≠ w.state.sequence := by
            intro heq
            refine hreused ⟨hsigned,heq,?_,hsame⟩
            rw [hstate]
            exact hdigest _
          omega
        rw [hstate] at hnext
        rcases List.mem_cons.mp ha with rfl | ha
        · exact hnext
        · exact (List.rel_of_pairwise_cons hgrows ha).trans hnext
    · exact Or.inl rfl

theorem kept_step (hdigest : ∀ v, lib.digest v ≠ "") (hw : w.Kept lib) (h : SyncStep lib w w') :
    w'.Kept lib := by
  obtain ⟨settings,server,now,applies,htrusted,rfl⟩ := h
  rcases exec_cases hdigest hw htrusted server now applies with
    hsame | ⟨document,walk,hcompose,hgreater,hexec⟩
  · rw [hsame]
    exact hw
  · rw [hexec]
    refine ⟨rfl,List.pairwise_cons.mpr ⟨hgreater,hw.grows⟩,?_⟩
    intro a ha
    rcases List.mem_cons.mp ha with rfl | ha
    · exact (compose_spec htrusted hcompose).2
    · exact hw.greatest a ha

theorem kept_reaches (hdigest : ∀ v, lib.digest v ≠ "") (h : Reaches (SyncStep lib) initial w) :
    w.Kept lib := by
  refine Reaches.invariant (I := fun w => w.Kept lib) (fun _ _ hw hstep => ?_) ?_ h
  · exact kept_step hdigest hw hstep
  · exact ⟨rfl,.nil,fun _ ha => absurd ha List.not_mem_nil⟩

/-- A document with a greater number than every applied one is applied, where it can be. -/
theorem exec_raised (hw : w.Kept lib) {server : PageServer} {now : ℤ}
    {applies : PolicyDocument → Bool} {document : PolicyDocument} {walk : PageWalk}
    (hcompose : compose lib settings server now = .ok (document,walk)) (hpos : 0 ≤ document.sequence)
    (hraised : ∀ a ∈ w.applied, a.1.sequence < document.sequence)
    (hdiffers : lib.digest (policyValue document) ≠ w.state.digest)
    (happlies : applies document) :
    (w.exec lib settings server now applies).applied = (document,walk.pages) :: w.applied := by
  have hnext : w.state.sequence < document.sequence := by
    have hstate := hw.state
    cases happlied : w.applied with
    | nil =>
      rw [happlied] at hstate
      rw [hstate]
      show (-1 : ℤ) < document.sequence
      omega
    | cons first rest =>
      rw [happlied] at hstate
      rw [hstate]
      exact hraised first (happlied ▸ List.mem_cons_self)
  have hstale : ¬ document.sequence < w.state.sequence := by omega
  have hreused : ¬ (document.signed ∧ document.sequence = w.state.sequence ∧ w.state.digest ≠ "" ∧
      lib.digest (policyValue document) ≠ w.state.digest) := by
    intro h
    omega
  simp only [exec,syncRemoteControl,hcompose,if_neg hstale,if_neg hreused,if_neg hdiffers,happlies,
    if_true]

end PolicyWorld

section Sample

/-- A digest of the given bytes that depends on every byte. -/
def pageDigest (bytes : Bytes) : Bytes :=
  wordBytes 12 (bytes.foldl (fun h b => (257 * h + b.toNat + 1) % 256 ^ 12) 0)

/-- Signatures are digests of the key and the message, and references are whole URLs. -/
def plainPages : PageLibrary where
  rt := .msgpack
  verify publicKey signature message := signature = pageDigest (publicKey ++ message)
  digest v := "sha256:" ++ checksum 8 ((Runtime.msgpack.packb v).toOption.getD [])
  resolve _ reference := reference
  joinUrl _ reference := reference
  bounded _ := .ok 0
  minSeconds a b := min a b
  platform := "linux"
  checkPorts _ := .ok ()

def rootKey : Bytes := List.replicate 32 1

def actorKey : Bytes := List.replicate 32 2

/-- `sign_control_page` at 1000, with a lifetime of a day. -/
def signedPage (keyId : String) (key : Bytes) (payload : Fields) : Value :=
  let message := (Runtime.msgpack.canonicalPack (.list [.int controlSignatureVersion,.str keyId,
    .int 1000,.int 86401000,.map payload])).toOption.getD []
  .map (payload ++ [(.str controlSignatureField,.map [(.str "version",.int 1),
    (.str "algorithm",.str "ed25519"),(.str "key_id",.str keyId),(.str "issued_ms",.int 1000),
    (.str "expires_ms",.int 86401000),
    (.str "signature",.str (b64e (pageDigest (key ++ message))))])])

/-- The root page, which names the page of the actor. -/
def rootPage (sequence : ℤ) : Value :=
  signedPage "root" rootKey [(.str "sequence",.int sequence),
    (.str "pages",.list [.map [(.str "url",.str "file:actor"),(.str "key_id",.str "actor")]])]

def actorPage (sequence batch : ℤ) : Value :=
  signedPage "actor" actorKey [(.str "sequence",.int sequence),
    (.str "config",.map [(.str "max_batch",.int batch)])]

/-- The adversary's choice of the two pages. -/
def served (root actor : Value) : PageServer :=
  fun _ url => .ok (if url = "file:actor" then actor else root)

def twoPublishers : ControlSettings :=
  ⟨"file:root",[("root",b64e rootKey),("actor",b64e actorKey)],"root",0⟩

/-- Each pair of pages is served once. -/
def syncAll (pages : List (Value × Value)) : PolicyWorld :=
  pages.foldl (fun w p => w.exec plainPages twoPublishers (served p.1 p.2) 2000 fun _ => true) .initial

theorem syncAll_runs (pages : List (Value × Value)) :
    Reaches (PolicyWorld.SyncStep plainPages) .initial (syncAll pages) := by
  apply Reaches.of_steps
  intro w p
  exact ⟨twoPublishers,served p.1 p.2,2000,fun _ => true,by decide,rfl⟩

/-- What is applied of two pairs of pages: newer ones, an older page of the actor under a newer root
page, and a newer page of the actor alone. -/
theorem syncAll_applies :
    (syncAll [(rootPage 5,actorPage 3 64),(rootPage 6,actorPage 4 128)]).applied.length = 2 ∧
    (syncAll [(rootPage 5,actorPage 3 64),(rootPage 6,actorPage 2 32)]).applied.map Prod.snd =
      [[("file:root",6),("file:actor",2)],[("file:root",5),("file:actor",3)]] ∧
    (syncAll [(rootPage 5,actorPage 3 64),(rootPage 5,actorPage 4 128)]).applied.map Prod.snd =
      [[("file:root",5),("file:actor",3)]] := by
  decide +kernel

end Sample

variable {w : PolicyWorld}

/-- In every run under trusted keys the numbers of the applied documents grow, and the number of a
document is the greatest of its pages: whatever is applied later has a page with a greater number
than any page applied before. A document that reaches above them is applied. -/
theorem policy_never_rolls_back (hdigest : ∀ v, lib.digest v ≠ "")
    (h : Reaches (PolicyWorld.SyncStep lib) .initial w) :
    w.applied.Pairwise (fun a b => b.1.sequence < a.1.sequence ∧
      ∃ p ∈ a.2, ∀ q ∈ b.2, q.2 < p.2) ∧
    (∀ a ∈ w.applied, (∀ p ∈ a.2, p.2 ≤ a.1.sequence) ∧
      (a.1.sequence = 0 ∨ ∃ p ∈ a.2, p.2 = a.1.sequence)) ∧
    ∀ (settings : ControlSettings) (server : PageServer) (now : ℤ)
      (applies : PolicyDocument → Bool) (document : PolicyDocument) (walk : PageWalk),
      settings.trusted ≠ [] → compose lib settings server now = .ok (document,walk) →
      (w.applied = [] ∨ ∃ p ∈ walk.pages, ∀ a ∈ w.applied, a.1.sequence < p.2) →
      lib.digest (policyValue document) ≠ w.state.digest → applies document →
      (w.exec lib settings server now applies).applied = (document,walk.pages) :: w.applied := by
  have hw := PolicyWorld.kept_reaches hdigest h
  have hpos : ∀ a ∈ w.applied, 0 ≤ a.1.sequence := by
    intro a ha
    rw [hw.greatest a ha]
    exact (le_top 0 a.2).1
  refine ⟨?_,?_,?_⟩
  · refine hw.grows.imp_of_mem ?_
    intro a b ha hb hlt
    refine ⟨hlt,?_⟩
    have htop := hw.greatest a ha
    rcases top_attained 0 a.2 with hzero | ⟨p,hp,hmax⟩
    · have hbpos := hpos b hb
      omega
    · refine ⟨p,hp,?_⟩
      intro q hq
      have hle := (le_top 0 b.2).2 q hq
      rw [← hw.greatest b hb] at hle
      omega
  · intro a ha
    rw [hw.greatest a ha]
    exact ⟨(le_top 0 a.2).2,top_attained 0 a.2⟩
  · intro settings server now applies document walk htrusted hcompose hraised hdiffers happlies
    obtain ⟨-,hsequence⟩ := compose_spec htrusted hcompose
    have hdocument : 0 ≤ document.sequence := hsequence ▸ (le_top 0 walk.pages).1
    refine PolicyWorld.exec_raised hw hcompose hdocument ?_ hdiffers happlies
    intro a ha
    rcases hraised with hempty | ⟨p,hp,hgreater⟩
    · rw [hempty] at ha
      cases ha
    · have hle := (le_top 0 walk.pages).2 p hp
      have hlt := hgreater a ha
      omega

theorem policy_never_rolls_back_sample :
    (syncAll [(rootPage 5,actorPage 3 64),(rootPage 6,actorPage 4 128)]).applied.Pairwise
      (fun a b => b.1.sequence < a.1.sequence ∧ ∃ p ∈ a.2, ∀ q ∈ b.2, q.2 < p.2) ∧
    (syncAll [(rootPage 5,actorPage 3 64),(rootPage 6,actorPage 4 128)]).applied.length = 2 := by
  refine ⟨(policy_never_rolls_back ?_ (syncAll_runs _)).1,syncAll_applies.1⟩
  intro v hv
  have hlength := congrArg String.length hv
  simp [plainPages] at hlength

/-- An older page of the actor is applied again under a root page with a greater number, and a
newer page of the actor alone is refused. -/
theorem older_page_applied :
    (syncAll [(rootPage 5,actorPage 3 64),(rootPage 6,actorPage 2 32)]).applied.map Prod.snd =
      [[("file:root",6),("file:actor",2)],[("file:root",5),("file:actor",3)]] ∧
    (syncAll [(rootPage 5,actorPage 3 64),(rootPage 5,actorPage 4 128)]).applied.map Prod.snd =
      [[("file:root",5),("file:actor",3)]] :=
  syncAll_applies.2

end RemoteControl
end Anet
