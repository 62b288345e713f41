import Anet.InboxStore

/-! One-time prekeys: the local batches handed to peers, the bundles imported
from them, and the reservation, binding and burning of a peer's keys by the two
send paths. -/
namespace Anet

/-- `_prekey_peer_id`. -/
def prekeyPeerId (value : String) : Result String :=
  let value := strip value
  if ¬ startsWith value "an1" ∨ value.toList.length < 20 ∨ 128 < value.toList.length then
    .error (.value "invalid prekey peer ID")
  else .ok value

/-- `_prekey_bytes`. -/
def prekeyBytes (label : String) (value : Bytes) : Result Bytes :=
  if value.length = 32 then .ok value else .error (.value s!"{label} must be 32 bytes")

structure LocalKey where
  prekeyId : String
  publicKey : Bytes
  privateKey : Bytes

structure PeerKey where
  prekeyId : String
  publicKey : Bytes

/-- The keys of a local batch in order, each id once. -/
def normalizeLocalKeys : List String → List LocalKey → Result (List LocalKey)
  | _,[] => .ok []
  | seen,item :: items => do
    let id ← prekeyId item.prekeyId
    raiseIf (id ∈ seen) (.value "duplicate prekey ID in local batch")
    let publicKey ← prekeyBytes "prekey public key" item.publicKey
    let privateKey ← prekeyBytes "prekey private key" item.privateKey
    let rest ← normalizeLocalKeys (id :: seen) items
    return ⟨id,publicKey,privateKey⟩ :: rest

def normalizePeerKeys : List String → List PeerKey → Result (List PeerKey)
  | _,[] => .ok []
  | seen,item :: items => do
    let id ← prekeyId item.prekeyId
    raiseIf (id ∈ seen) (.value "duplicate prekey ID in peer bundle")
    let publicKey ← prekeyBytes "prekey public key" item.publicKey
    let rest ← normalizePeerKeys (id :: seen) items
    return ⟨id,publicKey⟩ :: rest

/-- The arguments of `add_local_prekey_batch` beside the keys. -/
structure LocalBatch where
  peerId : String
  bundleVersion : ℤ
  generation : ℤ
  createdMs : ℤ
  expiresMs : ℤ

structure BatchResult where
  peerId : String
  generation : ℤ
  inserted : ℕ
  total : ℕ

/-- The arguments of `import_peer_prekey_bundle` beside the keys. -/
structure PeerBundle where
  peerId : String
  bundleVersion : ℤ
  intendedPeerId : String
  generation : ℤ
  bundleHash : String
  createdMs : ℤ
  expiresMs : ℤ

structure ImportResult where
  peerId : String
  generation : ℤ
  inserted : ℕ
  total : ℕ
  duplicate : Bool

structure ReservedPrekey where
  peerId : String
  prekeyId : String
  bundleVersion : ℤ
  publicKey : Bytes
  generation : ℤ
  expiresMs : ℤ
  reservationId : String

namespace PeerPrekey

/-- `state = 'reserved' AND reservation_id = ?` for one key of a peer. -/
def reservedAs (peerId prekeyId reservationId : String) (r : PeerPrekey) : Prop :=
  r.peerId = peerId ∧ r.prekeyId = prekeyId ∧ r.state = .reserved ∧
    r.reservationId = reservationId

instance (peerId prekeyId reservationId : String) :
    DecidablePred (reservedAs peerId prekeyId reservationId) :=
  fun _ => inferInstanceAs (Decidable (_ ∧ _))

def reserve (reservationId : String) (now : ℤ) (r : PeerPrekey) : PeerPrekey :=
  { r with state := .reserved, reservationId := reservationId, usedMs := now }

def bind (packetId : String) (now : ℤ) (r : PeerPrekey) : PeerPrekey :=
  { r with state := .used, packetId := packetId, usedMs := now }

def burn (now : ℤ) (r : PeerPrekey) : PeerPrekey := { r with state := .burned, usedMs := now }

def handedOut (reservationId : String) (r : PeerPrekey) : ReservedPrekey :=
  ⟨r.peerId,r.prekeyId,r.bundleVersion,r.publicKey,r.generation,r.expiresMs,reservationId⟩

/-- The order in which available keys are reserved. -/
def preferred (a b : PeerPrekey) : Prop :=
  b.bundleVersion < a.bundleVersion ∨
    (a.bundleVersion = b.bundleVersion ∧ a.generation ≤ b.generation)

instance : DecidableRel preferred := fun _ _ => inferInstanceAs (Decidable (_ ∨ _))

end PeerPrekey

namespace A2ADispatch

/-- `WHERE owner = ? AND claim_token = ? AND state = 'leased'`. -/
def claimedBy (owner claimToken : String) (r : A2ADispatch) : Prop :=
  r.owner = owner ∧ r.claimToken = claimToken ∧ r.state = .leased

instance (owner claimToken : String) : DecidablePred (claimedBy owner claimToken) :=
  fun _ => inferInstanceAs (Decidable (_ ∧ _))

def ready (now : ℤ) (r : A2ADispatch) : Prop :=
  ((r.state = .pending ∨ r.state = .retry) ∧ r.retryAfterMs ≤ now) ∨
    (r.state = .leased ∧ r.leaseUntilMs ≤ now)

instance (now : ℤ) : DecidablePred (ready now) := fun _ => inferInstanceAs (Decidable (_ ∨ _))

def claim (owner claimToken : String) (leaseUntilMs now : ℤ) (r : A2ADispatch) : A2ADispatch :=
  { r with
    state := .leased, owner := owner, claimToken := claimToken, leaseUntilMs := leaseUntilMs,
    retryAfterMs := 0, attempts := r.attempts + 1, updatedMs := now, lastError := "" }

def release (reservationId : String) (retryAfterMs now : ℤ) (error : String) (r : A2ADispatch) :
    A2ADispatch :=
  { r with
    state := .retry, owner := "", claimToken := "", encryptionReservationId := reservationId,
    leaseUntilMs := 0, retryAfterMs := retryAfterMs, updatedMs := now, lastError := error }

def dispatch (packetId : String) (now : ℤ) (r : A2ADispatch) : A2ADispatch :=
  { r with
    state := .dispatched, owner := "", claimToken := "", leaseUntilMs := 0, retryAfterMs := 0,
    packetId := packetId, lastError := "", updatedMs := now, dispatchedMs := now }

end A2ADispatch

/-- `_a2a_dispatch_item`; a claimed row also carries its decoded body. -/
structure DispatchItem where
  row : A2ADispatch
  body : Option Value

namespace PacketStore

open Packet PeerPrekey A2ADispatch

def generationKey (peerId : String) : String := s!"local_prekey_generation:{peerId}"

def localGeneration (s : PacketStore) (peerId : String) : ℤ :=
  ((s.storeMetadata.get (generationKey peerId)).map StoreMetadata.integerValue).getD 0

def raiseGeneration (m : Metadata) (peerId : String) (generation : ℤ) : Result Metadata :=
  integrity (m.upsert ⟨generationKey peerId,generation⟩
    (fun r => { r with integerValue := max r.integerValue generation }) (fun _ => rfl))

/-- What one key of a generation has to agree on when the generation is sent again. -/
def batchEntry (batch : LocalBatch) (key : LocalKey) : String × Bytes × ℤ × ℤ × ℤ :=
  (key.prekeyId,key.publicKey,batch.bundleVersion,batch.createdMs,batch.expiresMs)

def storedEntry (r : LocalPrekey) : String × Bytes × ℤ × ℤ × ℤ :=
  (r.prekeyId,r.publicKey,r.bundleVersion,r.createdMs,r.expiresMs)

/-- The rows of a repeated generation are the keys of the batch. -/
def sameGeneration (s : PacketStore) (batch : LocalBatch) (keys : List LocalKey) : Prop :=
  let existing := (s.localPrekeys.select fun r =>
    r.peerId = batch.peerId ∧ r.generation = batch.generation).map storedEntry
  let incoming := keys.map (batchEntry batch)
  existing ⊆ incoming ∧ incoming ⊆ existing

instance (s : PacketStore) (batch : LocalBatch) (keys : List LocalKey) :
    Decidable (s.sameGeneration batch keys) := inferInstanceAs (Decidable (_ ∧ _))

def localPrekeyRow (batch : LocalBatch) (key : LocalKey) : LocalPrekey :=
  ⟨key.prekeyId,batch.peerId,batch.bundleVersion,key.publicKey,some key.privateKey,
    batch.generation,batch.createdMs,batch.expiresMs,.available,0,""⟩

/-- The insertion loop of `add_local_prekey_batch` with its count. -/
def insertLocalKeys (batch : LocalBatch) : List LocalKey → LocalPrekeys →
    Result (ℕ × LocalPrekeys)
  | [],t => .ok (0,t)
  | item :: items,t =>
    match t.get item.prekeyId with
    | some e =>
      if e.publicKey ≠ item.publicKey ∨ e.peerId ≠ batch.peerId ∨
          e.bundleVersion ≠ batch.bundleVersion ∨ e.generation ≠ batch.generation ∨
          e.createdMs ≠ batch.createdMs ∨ e.expiresMs ≠ batch.expiresMs then
        .error (.value "local prekey ID collision")
      else insertLocalKeys batch items t
    | none => do
      let t ← integrity (t.insert (localPrekeyRow batch item))
      let rest ← insertLocalKeys batch items t
      return (rest.1 + 1,rest.2)

/-- The checks `add_local_prekey_batch` makes on its arguments. -/
def localBatchArguments (batch : LocalBatch) (keys : List LocalKey) :
    Result (LocalBatch × List LocalKey) := do
  let peerId ← prekeyPeerId batch.peerId
  raiseIf (batch.bundleVersion ∉ [(1 : ℤ),2]) (.value "unsupported local prekey bundle version")
  raiseIf (batch.generation < 1) (.value "prekey generation must be positive")
  raiseIf (batch.expiresMs ≤ batch.createdMs) (.value "prekey expiry must be after creation")
  raiseIf (keys = [] ∨ 1000 < keys.length) (.value "prekey batch must contain 1 to 1000 keys")
  let normalized ← normalizeLocalKeys [] keys
  return ({ batch with peerId := peerId },normalized)

/-- `add_local_prekey_batch`. -/
def addLocalPrekeyBatch (keys : List LocalKey) (batch : LocalBatch) :
    PacketStore → Result BatchResult × PacketStore :=
  transaction fun s => do
    let arguments ← localBatchArguments batch keys
    let batch := arguments.1
    let keys := arguments.2
    let latest := s.localGeneration batch.peerId
    raiseIf (batch.generation < latest) (.value "local prekey generation rollback")
    raiseIf (latest + 1 < batch.generation) (.value "local prekey generation gap")
    raiseIf (batch.generation = latest ∧ 0 < latest ∧ ¬ s.sameGeneration batch keys)
      (.value "local prekey generation equivocation")
    let inserted ← insertLocalKeys batch keys s.localPrekeys
    let metadata ← raiseGeneration s.storeMetadata batch.peerId batch.generation
    return (⟨batch.peerId,batch.generation,inserted.1,keys.length⟩,
      { s with localPrekeys := inserted.2, storeMetadata := metadata })

/-- The available keys that no peer was named for. -/
def unscopedCount (s : PacketStore) : ℕ :=
  s.localPrekeys.count fun r => r.peerId = "" ∧ r.usable

/-- `SELECT COALESCE(MAX(generation), 0) FROM local_prekeys WHERE peer_id = ?`. -/
def maxGeneration (t : LocalPrekeys) (peerId : String) : ℤ :=
  ((t.select fun r => r.peerId = peerId).map LocalPrekey.generation).max?.getD 0

structure ScopeResult where
  peerId : String
  scopedKeys : ℕ
  generation : ℤ

/-- `scope_legacy_local_prekeys`. -/
def scopeLegacyLocalPrekeys (peerId : String) : PacketStore → Result ScopeResult × PacketStore :=
  transaction fun s => do
    let peerId ← prekeyPeerId peerId
    if s.unscopedCount = 0 then return (⟨peerId,0,maxGeneration s.localPrekeys ""⟩,s)
    else
      let localPrekeys := s.localPrekeys.update (fun r => r.peerId = "")
        (fun r => { r with peerId := peerId }) (fun _ => rfl) (noMarks_subset _)
      let generation := maxGeneration localPrekeys peerId
      let metadata ← raiseGeneration s.storeMetadata peerId generation
      return (⟨peerId,s.unscopedCount,generation⟩,
        { s with localPrekeys := localPrekeys, storeMetadata := metadata })

structure RetireResult where
  retired : ℕ
  legacyGeneration : ℤ
  peerIds : List String

/-- The update of `retire_unscoped_local_prekeys`, made when a usable key is left. -/
def retireUnscoped (s : PacketStore) (now : ℤ) : LocalPrekeys :=
  if s.unscopedCount = 0 then s.localPrekeys
  else s.localPrekeys.update (fun r => r.peerId = "" ∧ r.privateKey.isSome) (LocalPrekey.retire now)
    (fun _ => rfl) (noMarks_subset _)

/-- `retire_unscoped_local_prekeys`. -/
def retireUnscopedLocalPrekeys (peerIds : List String) (now : ℤ) :
    PacketStore → Result RetireResult × PacketStore :=
  transaction fun s => do
    let peers ← peerIds.mapM prekeyPeerId
    let peers := peers.dedup.insertionSort fun a b => a ≤ b
    raiseIf (peers = []) (.value "at least one peer is required for legacy retirement")
    let generation := maxGeneration s.localPrekeys ""
    let metadata ← peers.foldlM (fun m peerId => raiseGeneration m peerId generation)
      s.storeMetadata
    return (⟨s.unscopedCount,generation,peers⟩,
      { s with localPrekeys := s.retireUnscoped now, storeMetadata := metadata })

/-- The newest generation of a peer's bundles. -/
def latestBundle (s : PacketStore) (peerId : String) : Option PeerPrekeyBundle :=
  ((s.peerPrekeyBundles.select fun b => b.peerId = peerId).insertionSort
    fun a b => b.generation ≤ a.generation).head?

/-- The insertion loop of `import_peer_prekey_bundle`: an id seen before is refused. -/
def insertPeerKeys (bundle : PeerBundle) : List PeerKey → PeerPrekeys → Result PeerPrekeys
  | [],t => .ok t
  | item :: items,t => do
    raiseIf ((t.get (bundle.peerId,item.prekeyId)).isSome) (.value "peer prekey ID reuse")
    let t ← integrity (t.insert ⟨bundle.peerId,item.prekeyId,bundle.bundleVersion,item.publicKey,
      bundle.generation,bundle.expiresMs,.available,"","",0⟩)
    insertPeerKeys bundle items t

/-- The checks `import_peer_prekey_bundle` makes on its arguments. -/
def bundleArguments (bundle : PeerBundle) (keys : List PeerKey) (now : ℤ) :
    Result (PeerBundle × List PeerKey) := do
  let peerId := strip bundle.peerId
  let intended := strip bundle.intendedPeerId
  let hash := lower (strip bundle.bundleHash)
  raiseIf (peerId = "") (.value "peer ID is required")
  raiseIf (bundle.bundleVersion ∉ [(1 : ℤ),2]) (.value "unsupported prekey bundle version")
  let _ ← if 2 ≤ bundle.bundleVersion then prekeyPeerId intended else pure intended
  raiseIf (bundle.generation < 1) (.value "prekey generation must be positive")
  raiseIf (¬ isHex 64 hash) (.value "invalid prekey bundle hash")
  raiseIf (bundle.expiresMs ≤ bundle.createdMs ∨ bundle.expiresMs ≤ now)
    (.value "prekey bundle is expired")
  raiseIf (keys.isEmpty ∨ 1000 < keys.length) (.value "prekey bundle must contain 1 to 1000 keys")
  let normalized ← normalizePeerKeys [] keys
  return ({ bundle with peerId := peerId, intendedPeerId := intended, bundleHash := hash },
    normalized)

/-- The transaction of `import_peer_prekey_bundle`. -/
def importBundle (bundle : PeerBundle) (keys : List PeerKey) (now : ℤ) (s : PacketStore) :
    Result (ImportResult × PacketStore) := do
  let fresh : Result (ImportResult × PacketStore) := do
    let peerPrekeys ← insertPeerKeys bundle keys s.peerPrekeys
    let bundles ← integrity (s.peerPrekeyBundles.insert ⟨bundle.peerId,bundle.generation,
      bundle.bundleVersion,bundle.intendedPeerId,bundle.bundleHash,bundle.createdMs,
      bundle.expiresMs,now⟩)
    return (⟨bundle.peerId,bundle.generation,keys.length,keys.length,false⟩,
      { s with peerPrekeys := peerPrekeys, peerPrekeyBundles := bundles })
  match s.latestBundle bundle.peerId with
  | none => fresh
  | some latest =>
    if bundle.generation < latest.generation then
      throw (.value "peer prekey bundle generation rollback")
    else if bundle.generation = latest.generation then
      if latest.bundleHash ≠ bundle.bundleHash ∨ latest.bundleVersion ≠ bundle.bundleVersion ∨
          latest.intendedPeerId ≠ bundle.intendedPeerId then
        throw (.value "peer prekey bundle equivocation")
      else return (⟨bundle.peerId,bundle.generation,0,keys.length,true⟩,s)
    else fresh

/-- `import_peer_prekey_bundle`. -/
def importPeerPrekeyBundle (bundle : PeerBundle) (keys : List PeerKey) (now : ℤ) :
    PacketStore → Result ImportResult × PacketStore :=
  transaction fun s => do
    let arguments ← bundleArguments bundle keys now
    s.importBundle arguments.1 arguments.2 now

/-- The key `reserve_peer_prekey` takes when the reservation holds none. -/
def nextPeerPrekey (s : PacketStore) (peerId : String) (minBundleVersion now : ℤ) :
    Option PeerPrekey :=
  ((s.peerPrekeys.select fun r => r.peerId = peerId ∧ r.state = .available ∧
    now < r.expiresMs ∧ minBundleVersion ≤ r.bundleVersion).insertionSort preferred).head?

/-- The key a reservation already holds. -/
def heldPeerPrekey (s : PacketStore) (peerId reservationId : String) (minBundleVersion now : ℤ) :
    Option PeerPrekey :=
  s.peerPrekeys.first fun r => r.peerId = peerId ∧ r.state = .reserved ∧
    r.reservationId = reservationId ∧ now < r.expiresMs ∧ minBundleVersion ≤ r.bundleVersion

/-- The transaction of `reserve_peer_prekey`. -/
def reserveNext (peerId reservationId : String) (reuse : Bool) (minBundleVersion now : ℤ)
    (s : PacketStore) : Result (Option ReservedPrekey × PacketStore) :=
  match if reuse then s.heldPeerPrekey peerId reservationId minBundleVersion now else none with
  | some r => .ok (some (r.handedOut reservationId),s)
  | none =>
    match s.nextPeerPrekey peerId minBundleVersion now with
    | none => .ok (none,s)
    | some r =>
      let p (x : PeerPrekey) := x.peerId = peerId ∧ x.prekeyId = r.prekeyId ∧ x.state = .available
      if s.peerPrekeys.count p ≠ 1 then .error (.runtime "prekey reservation race")
      else .ok (some (r.handedOut reservationId),{ s with
        peerPrekeys := s.peerPrekeys.update p (reserve reservationId now) (fun _ => rfl)
          (noMarks_subset _) })

/-- The reservation id of a call, and whether it may already hold a key: without one
of the caller the drawn id is used. -/
def reservationArgument (reservationId : String) (drawn : Token) : Result (Bool × String) :=
  if strip reservationId ≠ "" then (prekeyId reservationId).map fun id => (true,id)
  else .ok (false,drawn.val)

/-- `reserve_peer_prekey`. -/
def reservePeerPrekey (peerId reservationId : String) (minBundleVersion : ℤ) (drawn : Token)
    (now : ℤ) : PacketStore → Result (Option ReservedPrekey) × PacketStore :=
  transaction fun s => do
    let peerId := strip peerId
    raiseIf (peerId = "") (.value "peer ID is required")
    raiseIf (minBundleVersion ∉ [(1 : ℤ),2]) (.value "invalid minimum prekey bundle version")
    let reservation ← reservationArgument reservationId drawn
    s.reserveNext peerId reservation.2 reservation.1 minBundleVersion now

/-- `bind_peer_prekey`. -/
def bindPeerPrekey (peerId keyId reservationId packetId : String) (now : ℤ) (s : PacketStore) :
    Result Unit × PacketStore :=
  match prekeyId keyId,prekeyId reservationId with
  | .error e,_ => (.error e,s)
  | _,.error e => (.error e,s)
  | .ok keyId,.ok reservationId =>
    let packetId := strip packetId
    if packetId = "" then (.error (.value "packet ID is required"),s)
    else
      let p := reservedAs (strip peerId) keyId reservationId
      let s' := { s with
        peerPrekeys := s.peerPrekeys.update p (bind packetId now) (fun _ => rfl)
          (noMarks_subset _) }
      if s.peerPrekeys.count p = 1 then (.ok (),s')
      else (.error (.value "prekey reservation is unavailable"),s')

/-- `burn_peer_prekey`. -/
def burnPeerPrekey (peerId keyId reservationId : String) (now : ℤ) (s : PacketStore) :
    Result Unit × PacketStore :=
  match prekeyId keyId,prekeyId reservationId with
  | .error e,_ => (.error e,s)
  | _,.error e => (.error e,s)
  | .ok keyId,.ok reservationId =>
    (.ok (),{ s with
      peerPrekeys := s.peerPrekeys.update (reservedAs (strip peerId) keyId reservationId) (burn now)
        (fun _ => rfl) (noMarks_subset _) })

/-- The dispatches one claim leases, oldest first. -/
def readyDispatches (s : PacketStore) (now limit : ℤ) : List A2ADispatch :=
  ((s.a2aDispatches.select (ready now)).insertionSort fun a b => a.createdMs ≤ b.createdMs).take
    (max 1 (min limit 128)).toNat

/-- The loop of `claim_a2a_dispatches`. -/
def claimDispatches (rt : Runtime) (owner : String) (leaseUntilMs now : ℤ) :
    List A2ADispatch → (ℕ → Token) → Dispatches → Result (List DispatchItem × Dispatches)
  | [],_,t => .ok ([],t)
  | row :: rows,draws,t => do
    let p (r : A2ADispatch) := r.key = row.key ∧ (r.state = .pending ∨ r.state = .retry ∨
      (r.state = .leased ∧ r.leaseUntilMs ≤ now))
    raiseIf (t.count p ≠ 1) (.runtime "A2A dispatch claim race")
    let t ← integrity (t.assign row.key (claim owner (draws 0).val leaseUntilMs now)
      (fun _ => rfl))
    let claimed ← fetched (t.get row.key) (.type "'NoneType' object is not subscriptable")
    let body ← rt.unpack claimed.body
    let rest ← claimDispatches rt owner leaseUntilMs now rows (fun i => draws (i + 1)) t
    return (⟨claimed,some body⟩ :: rest.1,rest.2)

/-- `claim_a2a_dispatches`. -/
def claimA2ADispatches (rt : Runtime) (owner : ConsumerId) (limit : ℤ) (lease : LeaseMs)
    (now : ℤ) (draws : ℕ → Token) : PacketStore → Result (List DispatchItem) × PacketStore :=
  transaction fun s => do
    let claimed ← claimDispatches rt owner.val (now + lease.val) now (s.readyDispatches now limit)
      draws s.a2aDispatches
    return (claimed.1,{ s with a2aDispatches := claimed.2 })

/-- `retry_a2a_dispatch`: the reserved key is burned and the reservation renamed
to the drawn id. -/
def retryA2ADispatch (owner : ConsumerId) (claimToken : Token) (error : String) (retry : RetryMs)
    (drawn : Token) (now : ℤ) : PacketStore → Result (Option A2ADispatch) × PacketStore :=
  transaction fun s => do
    let error := strip error
    raiseIf (error = "") (.value "A2A dispatch retry requires an error")
    let claimed ← fetched (s.a2aDispatches.first (claimedBy owner.val claimToken.val))
      (.value "A2A dispatch claim is stale, unknown, or owned by another worker")
    let peerPrekeys := s.peerPrekeys.update (fun r => r.peerId = claimed.destinationPeerId ∧
        r.state = .reserved ∧ r.reservationId = claimed.encryptionReservationId) (burn now)
      (fun _ => rfl) (noMarks_subset _)
    raiseIf (s.a2aDispatches.count (claimedBy owner.val claimToken.val) ≠ 1)
      (.runtime "failed to release A2A dispatch claim")
    let dispatches := s.a2aDispatches.update (claimedBy owner.val claimToken.val)
      (release drawn.val (now + retry.val) now (cut 1000 error)) (fun _ => rfl)
      (fun _ => by simp [marks,release])
    return (dispatches.get claimed.key,
      { s with peerPrekeys := peerPrekeys, a2aDispatches := dispatches })

/-- The prekey binding of `commit_a2a_dispatch_packet`. -/
def bindDispatchPrekey (dispatch : A2ADispatch) (info : PacketInfo)
    (keyId reservationId : String) (now : ℤ) (s : PacketStore) : Result PeerPrekeys :=
  match info.keyMode with
  | .static => .ok s.peerPrekeys
  | .opk =>
    let p := reservedAs info.destinationId keyId reservationId
    if dispatch.encryptionReservationId ≠ reservationId then
      .error (.value "A2A dispatch prekey reservation does not match intent")
    else if s.peerPrekeys.count p ≠ 1 then .error (.value "prekey reservation is unavailable")
    else .ok (s.peerPrekeys.update p (bind info.packetId now) (fun _ => rfl)
      (noMarks_subset _))

/-- The prekey arguments of `commit_a2a_dispatch_packet`. -/
def dispatchPrekeyArguments (info : PacketInfo) (keyId reservationId : String) :
    Result (String × String) :=
  let keyId := strip keyId
  let reservationId := strip reservationId
  match info.keyMode with
  | .opk => do
    let keyId ← prekeyId keyId
    let reservationId ← prekeyId reservationId
    raiseIf (info.prekeyId ≠ keyId) (.value "A2A dispatch Packet prekey does not match claim")
    return (keyId,reservationId)
  | .static =>
    if keyId ≠ "" ∨ reservationId ≠ "" then
      .error (.value "static A2A dispatch Packet cannot bind a prekey")
    else .ok (keyId,reservationId)

/-- The cancellation of a gateway task is dispatched with its last cancel message. -/
def dispatchCancellation (dispatch : A2ADispatch) (dispatches : Dispatches) (now : ℤ)
    (tasks : A2ATasks) : A2ATasks :=
  if dispatch.kind = .cancel ∧ dispatches.count (fun r =>
      r.principalId = dispatch.principalId ∧ r.a2aTaskId = dispatch.a2aTaskId ∧
        r.kind = .cancel ∧ r.state ≠ .dispatched) = 0 then
    tasks.update (fun r => r.principalId = dispatch.principalId ∧
        r.a2aTaskId = dispatch.a2aTaskId ∧ r.cancelState = .requested)
      (fun r => { r with cancelState := .dispatched, updatedMs := now }) (fun _ => rfl)
      (noMarks_subset _)
  else tasks

/-- `commit_a2a_dispatch_packet`. -/
def commitA2ADispatchPacket (rt : Runtime) (owner : ConsumerId) (claimToken : Token) (raw : Bytes)
    (keyId reservationId : String) (now : ℤ) :
    PacketStore → Result (Option A2ADispatch) × PacketStore :=
  transaction fun s => do
    let info ← inspectPacket rt now raw false
    let key ← dispatchPrekeyArguments info keyId reservationId
    let dispatch ← fetched (s.a2aDispatches.first fun r =>
        r.claimedBy owner.val claimToken.val ∧ now < r.leaseUntilMs)
      (.value "A2A dispatch claim is stale, expired, or owned by another worker")
    raiseIf (dispatch.destinationPeerId ≠ info.destinationId)
      (.value "A2A dispatch Packet destination does not match intent")
    let peerPrekeys ← s.bindDispatchPrekey dispatch info key.1 key.2 now
    let packets ← integrity (s.packets.insert ⟨info.packetId,info.destinationId,info.createdMs,
      info.expiresMs,info.maxHops,0,raw,"a2a-gateway","",now,false,info.qos⟩)
    let p (r : A2ADispatch) := r.key = dispatch.key ∧ r.claimedBy owner.val claimToken.val
    raiseIf (s.a2aDispatches.count p ≠ 1) (.runtime "failed to settle A2A dispatch claim")
    let dispatches := s.a2aDispatches.update p (A2ADispatch.dispatch info.packetId now)
      (fun _ => rfl) (fun _ => by simp [marks,A2ADispatch.dispatch])
    return (dispatches.get dispatch.key,
      { s with
        peerPrekeys := peerPrekeys, packets := packets, a2aDispatches := dispatches
        a2aTasks := dispatchCancellation dispatch dispatches now s.a2aTasks })

end PacketStore
end Anet
