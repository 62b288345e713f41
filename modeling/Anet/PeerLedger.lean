import Anet.PeerBook
import Anet.Sessions
import Anet.Transition

/-! Peer books that are open over the same two files. Each keeps the cards and the deny
records in memory and writes a whole file from its memory, so what a write drops is what
its book never read. -/
namespace Anet

structure RevocationRecord where
  nodeId : String
  revokedMs : ℤ
  reason : String
  keyFingerprint : String
  deriving DecidableEq

/-- `peers.json` and `revocations.json`. -/
structure BookFiles where
  peers : Option (List PeerCard)
  ledger : Option (List RevocationRecord)

namespace BookFiles

def records (files : BookFiles) : List RevocationRecord := files.ledger.getD []

/-- The ids the ledger file denies. -/
def denied (files : BookFiles) : List String := files.records.map RevocationRecord.nodeId

/-- The files as a book of the given node reads them. -/
def book (files : BookFiles) (ownNodeId : String) : PeerBook :=
  ⟨ownNodeId,files.ledger.map fun records => .ok ⟨1,records.map RevocationRecord.nodeId⟩,
    files.peers.map .ok⟩

end BookFiles

/-- An open `PeerBook`: its two dictionaries, in insertion order. -/
structure OpenBook where
  ownNodeId : String
  peers : List PeerCard
  revocations : List RevocationRecord

/-- `d[card.node_id] = card`. -/
def setCard (cards : List PeerCard) (card : PeerCard) : List PeerCard :=
  if ∃ c ∈ cards, c.nodeId = card.nodeId then
    cards.map fun c => if c.nodeId = card.nodeId then card else c
  else cards ++ [card]

/-- `d[node_id] = record`. -/
def setRecord (records : List RevocationRecord) (r : RevocationRecord) : List RevocationRecord :=
  if ∃ x ∈ records, x.nodeId = r.nodeId then
    records.map fun x => if x.nodeId = r.nodeId then r else x
  else records ++ [r]

structure Staged where
  cards : List PeerCard
  added : ℕ
  updated : ℕ

namespace OpenBook

def denied (b : OpenBook) : List String := b.revocations.map RevocationRecord.nodeId

def card (b : OpenBook) (nodeId : String) : Option PeerCard :=
  b.peers.find? fun c => c.nodeId = nodeId

/-- `__init__` and `reload`. -/
def load (ownNodeId : String) (files : BookFiles) : Result OpenBook := do
  let cards ← (files.book ownNodeId).reload
  return ⟨ownNodeId,cards.foldl setCard [],files.records.foldl setRecord []⟩

/-- `save`: the peer file is replaced, or the write fails and the file stands. -/
def save (b : OpenBook) (written : Bool) (files : BookFiles) : Result BookFiles :=
  if written then
    .ok { files with peers := some (b.peers.insertionSort fun c c' => c.nodeId ≤ c'.nodeId) }
  else .error (.os "peers.json was not written")

/-- `_save_revocations`. -/
def saveRevocations (b : OpenBook) (written : Bool) (files : BookFiles) : Result BookFiles :=
  if written then
    .ok { files with
      ledger := some (b.revocations.insertionSort fun r r' => r.nodeId ≤ r'.nodeId) }
  else .error (.os "revocations.json was not written")

variable (lib : Runtime × Crypto × UrlLibrary)

/-- The loop of `add_many` over its staged view. -/
def stageCards (b : OpenBook) : List PeerCard → Staged → Result Staged
  | [],staged => .ok staged
  | card :: cards,staged => do
    card.verify lib.1 lib.2.1 lib.2.2
    raiseIf (card.nodeId = b.ownNodeId) (.value "cannot add the local node as a peer")
    raiseIf (card.nodeId ∈ b.denied) (.value "peer identity is locally revoked")
    let existing := staged.cards.find? fun c => c.nodeId = card.nodeId
    raiseIf (∃ e ∈ existing, ¬ e.SameKeys card) (.value "peer identity key mismatch")
    stageCards b cards ⟨setCard staged.cards card,
      staged.added + (if existing.isNone then 1 else 0),
      staged.updated + (if ∃ e ∈ existing, e ≠ card then 1 else 0)⟩

/-- `add_many`; a failed write puts the cards in memory back. -/
def addMany (cards : List PeerCard) (written : Bool) (b : OpenBook) (files : BookFiles) :
    Result (ℕ × ℕ) × OpenBook × BookFiles :=
  match b.stageCards lib cards ⟨b.peers,0,0⟩ with
  | .error e => (.error e,b,files)
  | .ok staged =>
    if staged.cards = b.peers then (.ok (staged.added,staged.updated),b,files)
    else
      match ({ b with peers := staged.cards } : OpenBook).save written files with
      | .error e => (.error e,b,files)
      | .ok files => (.ok (staged.added,staged.updated),{ b with peers := staged.cards },files)

/-- The record `revoke` makes for a card. -/
def record (card : PeerCard) (nodeId reason : String) (now : ℤ) : RevocationRecord :=
  ⟨nodeId,now,cut 500 (strip reason),lib.1.sha256 (card.signPublic ++ card.boxPublic)⟩

/-- `revoke`: a record in memory is returned as it is; otherwise the record is set in
memory, the ledger written, the card dropped and the peer file written. -/
def revoke (nodeId reason : String) (now : ℤ) (ledgerWritten peersWritten : Bool) (b : OpenBook)
    (files : BookFiles) : Result RevocationRecord × OpenBook × BookFiles :=
  let nodeId := strip nodeId
  match b.revocations.find? fun r => r.nodeId = nodeId with
  | some existing => (.ok existing,b,files)
  | none =>
    match b.card nodeId with
    | none => (.error (.key s!"unknown peer: {nodeId}"),b,files)
    | some card =>
      let r := record lib card nodeId reason now
      let denying := { b with revocations := setRecord b.revocations r }
      match denying.saveRevocations ledgerWritten files with
      | .error e => (.error e,denying,files)
      | .ok files =>
        let dropped := { denying with peers := denying.peers.filter fun c => c.nodeId ≠ nodeId }
        match dropped.save peersWritten files with
        | .error e => (.error e,dropped,files)
        | .ok files => (.ok r,dropped,files)

end OpenBook

/-- An open book with the ids whose revocation had returned when it was opened. -/
structure Reader where
  book : OpenBook
  since : List String

/-- The files, the books open over them, the ids whose revocation returned normally and
every record the ledger file has held. -/
structure BookWorld where
  files : BookFiles
  readers : List Reader
  revoked : List String
  held : List RevocationRecord

inductive BookOp
  | openBook (ownNodeId : String)
  | reload (book : ℕ)
  | addMany (book : ℕ) (cards : List PeerCard) (written : Bool)
  | revoke (book : ℕ) (nodeId reason : String) (now : ℤ) (ledgerWritten peersWritten : Bool)

namespace BookWorld

variable (lib : Runtime × Crypto × UrlLibrary)

/-- A fresh directory. -/
def initial : BookWorld := ⟨⟨none,none⟩,[],[],[]⟩

def setBook (w : BookWorld) (i : ℕ) (b : OpenBook) : List Reader :=
  w.readers.modify i fun r => { r with book := b }

def exec (w : BookWorld) : BookOp → BookWorld
  | .openBook ownNodeId =>
    match OpenBook.load ownNodeId w.files with
    | .error _ => w
    | .ok b => { w with readers := w.readers ++ [⟨b,w.revoked⟩] }
  | .reload i =>
    match w.readers[i]? with
    | none => w
    | some r =>
      match OpenBook.load r.book.ownNodeId w.files with
      | .error _ => w
      | .ok b => { w with readers := w.setBook i b }
  | .addMany i cards written =>
    match w.readers[i]? with
    | none => w
    | some r =>
      let out := r.book.addMany lib cards written w.files
      { w with readers := w.setBook i out.2.1, files := out.2.2 }
  | .revoke i nodeId reason now ledgerWritten peersWritten =>
    match w.readers[i]? with
    | none => w
    | some r =>
      let out := r.book.revoke lib nodeId reason now ledgerWritten peersWritten w.files
      { files := out.2.2
        readers := w.setBook i out.2.1
        revoked := if out.1.toOption.isSome then strip nodeId :: w.revoked else w.revoked
        held := w.held ++ out.2.2.records }

def BookStep (w w' : BookWorld) : Prop := ∃ op, w' = w.exec lib op

/-- What a revocation promises: it is in the ledger file once it has returned, the file
keeps its records, and a book opened later has the peer denied and not listed. -/
structure Durable (w : BookWorld) : Prop where
  recorded : ∀ nodeId ∈ w.revoked, nodeId ∈ w.files.denied
  kept : ∀ x ∈ w.held, x ∈ w.files.records
  refused : ∀ r ∈ w.readers, ∀ nodeId ∈ r.since, nodeId ∈ r.book.denied ∧
    ∀ c ∈ r.book.peers, c.nodeId ≠ nodeId

/-- A record in memory stands in the ledger file, and a ledger file that is about to be
replaced has no record beyond those that are written. -/
def Meets (w : BookWorld) : BookOp → Prop
  | .revoke i nodeId reason now ledgerWritten _ => ∀ r, w.readers[i]? = some r →
      (strip nodeId ∈ r.book.denied → strip nodeId ∈ w.files.denied) ∧
      (strip nodeId ∉ r.book.denied → ∀ card, r.book.card (strip nodeId) = some card →
        ledgerWritten → ∀ x ∈ w.files.records, x ∈ r.book.revocations ∨
          x = OpenBook.record lib card (strip nodeId) reason now)
  | _ => True

def MeetingStep (w w' : BookWorld) : Prop := ∃ op, w.Meets lib op ∧ w' = w.exec lib op

end BookWorld

section Dictionaries

theorem mem_setCard {cards : List PeerCard} {card c : PeerCard} (h : c ∈ setCard cards card) :
    c ∈ cards ∨ c = card := by
  unfold setCard at h
  split at h
  · obtain ⟨x,hx,rfl⟩ := List.mem_map.mp h
    by_cases hid : x.nodeId = card.nodeId
    · exact Or.inr (if_pos hid)
    · rw [if_neg hid]
      exact Or.inl hx
  · exact (List.mem_append.mp h).imp_right List.mem_singleton.mp

theorem mem_foldl_setCard {cards start : List PeerCard} {c : PeerCard}
    (h : c ∈ cards.foldl setCard start) : c ∈ cards ∨ c ∈ start := by
  induction cards generalizing start with
  | nil => exact Or.inr h
  | cons card cards ih =>
    rcases ih h with hin | hin
    · exact Or.inl (List.mem_cons_of_mem _ hin)
    · rcases mem_setCard hin with hstart | rfl
      · exact Or.inr hstart
      · exact Or.inl List.mem_cons_self

theorem setRecord_fresh {records : List RevocationRecord} {r : RevocationRecord}
    (h : r.nodeId ∉ records.map RevocationRecord.nodeId) : setRecord records r = records ++ [r] := by
  refine if_neg ?_
  rintro ⟨x,hx,hid⟩
  exact h (List.mem_map.mpr ⟨x,hx,hid⟩)

/-- Setting a record denies its id and keeps the others denied. -/
theorem denied_setRecord {records : List RevocationRecord} {r : RevocationRecord} {nodeId : String}
    (h : nodeId ∈ records.map RevocationRecord.nodeId ∨ nodeId = r.nodeId) :
    nodeId ∈ (setRecord records r).map RevocationRecord.nodeId := by
  by_cases hold : ∃ x ∈ records, x.nodeId = r.nodeId
  · have hset : (setRecord records r).map RevocationRecord.nodeId =
        records.map RevocationRecord.nodeId := by
      rw [setRecord,if_pos hold,List.map_map]
      apply List.map_congr_left
      intro x hx
      by_cases hid : x.nodeId = r.nodeId
      · simp [hid]
      · simp [hid]
    rw [hset]
    rcases h with h | rfl
    · exact h
    · obtain ⟨x,hx,hid⟩ := hold
      exact List.mem_map.mpr ⟨x,hx,hid⟩
  · rw [setRecord,if_neg hold,List.map_append,List.mem_append]
    exact h.imp_right fun heq => by simp [heq]

theorem denied_foldl {records start : List RevocationRecord} {nodeId : String}
    (h : nodeId ∈ records.map RevocationRecord.nodeId ∨
      nodeId ∈ start.map RevocationRecord.nodeId) :
    nodeId ∈ (records.foldl setRecord start).map RevocationRecord.nodeId := by
  induction records generalizing start with
  | nil => exact h.resolve_left (by simp)
  | cons r records ih =>
    apply ih
    rcases h with h | h
    · rcases List.mem_cons.mp h with hr | hrest
      · exact Or.inr (denied_setRecord (Or.inr hr))
      · exact Or.inl hrest
    · exact Or.inr (denied_setRecord (Or.inl h))

end Dictionaries

namespace OpenBook

section Specs

variable {lib : Runtime × Crypto × UrlLibrary} {b b' : OpenBook} {files files' : BookFiles}

/-- A book that was just read denies what the ledger file denies and lists none of it. -/
theorem load_spec {ownNodeId nodeId : String} (h : load ownNodeId files = .ok b)
    (hdenied : nodeId ∈ files.denied) :
    nodeId ∈ b.denied ∧ ∀ c ∈ b.peers, c.nodeId ≠ nodeId := by
  simp only [load,bind_ok] at h
  obtain ⟨cards,hcards,hval⟩ := h
  cases hval
  refine ⟨denied_foldl (Or.inl hdenied),?_⟩
  intro c hc hid
  have hmem := (mem_foldl_setCard hc).resolve_right List.not_mem_nil
  simp only [PeerBook.reload,bind_ok] at hcards
  obtain ⟨revoked,hrevoked,read,-,hval⟩ := hcards
  cases hval
  have hfree := (of_decide_eq_true (List.mem_filter.mp hmem).2).2
  have hlist : revoked = files.denied := by
    unfold PeerBook.revocationList BookFiles.book at hrevoked
    unfold BookFiles.denied BookFiles.records
    cases hledger : files.ledger with
    | none => rw [hledger] at hrevoked; cases hrevoked; rfl
    | some records =>
      rw [hledger] at hrevoked
      obtain ⟨file,hfile,hrest⟩ := bind_ok.mp hrevoked
      cases hfile
      simp only [bind_ok] at hrest
      obtain ⟨_,-,_,-,hval⟩ := hrest
      cases hval
      rfl
  rw [hlist,hid] at hfree
  exact hfree hdenied

theorem stageCards_spec {cards : List PeerCard} {staged out : Staged}
    (h : b.stageCards lib cards staged = .ok out) {c : PeerCard} (hc : c ∈ out.cards) :
    c ∈ staged.cards ∨ c.nodeId ∉ b.denied := by
  induction cards generalizing staged with
  | nil => cases h; exact Or.inl hc
  | cons card cards ih =>
    simp only [stageCards,bind_ok,raiseIf_ok] at h
    obtain ⟨_,-,_,-,_,hfree,_,-,hrest⟩ := h
    rcases ih hrest with hin | hin
    · rcases mem_setCard hin with hold | rfl
      · exact Or.inl hold
      · exact Or.inr hfree
    · exact Or.inr hin

/-- Adding cards leaves the deny records alone and lists nobody who is denied. -/
theorem addMany_spec (lib : Runtime × Crypto × UrlLibrary) (cards : List PeerCard) (written : Bool)
    (b : OpenBook) (files : BookFiles) :
    (b.addMany lib cards written files).2.1.revocations = b.revocations ∧
      (b.addMany lib cards written files).2.2.ledger = files.ledger ∧
      ∀ c ∈ (b.addMany lib cards written files).2.1.peers, c ∈ b.peers ∨ c.nodeId ∉ b.denied := by
  unfold addMany
  split
  · exact ⟨rfl,rfl,fun c hc => Or.inl hc⟩
  · rename_i staged hstaged
    split_ifs
    · exact ⟨rfl,rfl,fun c hc => Or.inl hc⟩
    · cases written with
      | false => exact ⟨rfl,rfl,fun c hc => Or.inl hc⟩
      | true => exact ⟨rfl,rfl,fun c hc => stageCards_spec hstaged hc⟩

/-- What `revoke` can do: return the record it has, find no card, fail to write the
ledger, or write it. -/
inductive RevokeEffect (lib : Runtime × Crypto × UrlLibrary) (nodeId reason : String) (now : ℤ)
    (ledgerWritten : Bool) (b : OpenBook) (files : BookFiles) :
    Result RevocationRecord × OpenBook × BookFiles → Prop
  | known (existing : RevocationRecord) (hdenied : nodeId ∈ b.denied) :
      RevokeEffect lib nodeId reason now ledgerWritten b files (.ok existing,b,files)
  | unknown (e : PyError) (hfree : nodeId ∉ b.denied) (hcard : b.card nodeId = none) :
      RevokeEffect lib nodeId reason now ledgerWritten b files (.error e,b,files)
  | unwritten (e : PyError) (card : PeerCard) (hfree : nodeId ∉ b.denied)
      (hcard : b.card nodeId = some card) (hw : ledgerWritten = false) :
      RevokeEffect lib nodeId reason now ledgerWritten b files (.error e,
        { b with revocations := b.revocations ++ [record lib card nodeId reason now] },files)
  | written (out : Result RevocationRecord) (card : PeerCard) (files' : BookFiles)
      (hfree : nodeId ∉ b.denied) (hcard : b.card nodeId = some card) (hw : ledgerWritten = true)
      (hrecords : ∀ x, x ∈ files'.records ↔ x ∈ b.revocations ∨
        x = record lib card nodeId reason now) :
      RevokeEffect lib nodeId reason now ledgerWritten b files (out,
        { b with
          revocations := b.revocations ++ [record lib card nodeId reason now]
          peers := b.peers.filter fun c => c.nodeId ≠ nodeId },files')

theorem revoke_effect (lib : Runtime × Crypto × UrlLibrary) (nodeId reason : String) (now : ℤ)
    (ledgerWritten peersWritten : Bool) (b : OpenBook) (files : BookFiles) :
    RevokeEffect lib (strip nodeId) reason now ledgerWritten b files
      (b.revoke lib nodeId reason now ledgerWritten peersWritten files) := by
  unfold revoke
  generalize strip nodeId = id
  dsimp only
  split
  · rename_i existing hfound
    refine .known existing (List.mem_map.mpr ⟨existing,List.mem_of_find?_eq_some hfound,?_⟩)
    simpa using List.find?_some hfound
  · rename_i hnone
    have hfree : id ∉ b.denied := by
      intro hmem
      obtain ⟨x,hx,hid⟩ := List.mem_map.mp hmem
      have hno := List.find?_eq_none.mp hnone x hx
      simp [hid] at hno
    have hset (card : PeerCard) : setRecord b.revocations (record lib card id reason now) =
        b.revocations ++ [record lib card id reason now] := setRecord_fresh hfree
    split
    · rename_i hcard
      exact .unknown _ hfree hcard
    · rename_i card hcard
      rw [hset]
      cases ledgerWritten with
      | false => exact .unwritten _ card hfree hcard rfl
      | true =>
        have hsorted (x : RevocationRecord) :
            x ∈ (b.revocations ++ [record lib card id reason now]).insertionSort
              (fun r r' => r.nodeId ≤ r'.nodeId) ↔
              x ∈ b.revocations ∨ x = record lib card id reason now := by
          rw [List.mem_insertionSort,List.mem_append,List.mem_singleton]
        cases peersWritten with
        | false => exact .written _ card _ hfree hcard rfl hsorted
        | true => exact .written _ card _ hfree hcard rfl hsorted

end Specs

end OpenBook

namespace BookWorld

section Runs

variable {lib : Runtime × Crypto × UrlLibrary} {w : BookWorld}

/-- What a step keeps: the promises, and that every record in the file has been held. -/
structure Kept (w : BookWorld) : Prop extends w.Durable where
  current : ∀ x ∈ w.files.records, x ∈ w.held
  past : ∀ r ∈ w.readers, ∀ nodeId ∈ r.since, nodeId ∈ w.revoked

theorem Kept.initial : BookWorld.initial.Kept := by
  refine ⟨⟨?_,?_,?_⟩,?_,?_⟩ <;> simp [BookWorld.initial,BookFiles.records]

/-- A book that changes and keeps its deny records and lists nobody new who is denied. -/
theorem refused_set (hw : w.Durable) {i : ℕ} {r : Reader} {b : OpenBook}
    (hr : w.readers[i]? = some r) (hdenied : ∀ nodeId ∈ r.book.denied, nodeId ∈ b.denied)
    (hpeers : ∀ c ∈ b.peers, c ∈ r.book.peers ∨ c.nodeId ∉ r.book.denied) :
    ∀ r' ∈ w.setBook i b, ∀ nodeId ∈ r'.since, nodeId ∈ r'.book.denied ∧
      ∀ c ∈ r'.book.peers, c.nodeId ≠ nodeId := by
  intro r' hr' nodeId hsince
  rcases mem_modified hr' with hold | ⟨r'',hr'',rfl⟩
  · exact hw.refused r' hold nodeId hsince
  · have hsame : r'' = r := Option.some.inj (hr''.symm.trans hr)
    subst hsame
    obtain ⟨hden,hlist⟩ := hw.refused r'' (List.mem_of_getElem? hr) nodeId hsince
    refine ⟨hdenied nodeId hden,?_⟩
    intro c hc hid
    rcases hpeers c hc with hold | hfree
    · exact hlist c hold hid
    · rw [hid] at hfree
      exact hfree hden

theorem past_set (hw : w.Kept) {i : ℕ} {b : OpenBook} :
    ∀ r' ∈ w.setBook i b, ∀ nodeId ∈ r'.since, nodeId ∈ w.revoked := by
  intro r' hr' nodeId hsince
  rcases mem_modified hr' with hold | ⟨r,hr,rfl⟩
  · exact hw.past r' hold nodeId hsince
  · exact hw.past r (List.mem_of_getElem? hr) nodeId hsince

theorem openBook_kept (hw : w.Kept) (ownNodeId : String) :
    (w.exec lib (.openBook ownNodeId)).Kept := by
  simp only [exec]
  split
  · exact hw
  · rename_i b hload
    refine ⟨⟨hw.recorded,hw.kept,?_⟩,hw.current,?_⟩
    · intro r hr nodeId hsince
      rcases List.mem_append.mp hr with hold | hnew
      · exact hw.refused r hold nodeId hsince
      · rw [List.mem_singleton] at hnew
        subst hnew
        exact OpenBook.load_spec hload (hw.recorded nodeId hsince)
    · intro r hr nodeId hsince
      rcases List.mem_append.mp hr with hold | hnew
      · exact hw.past r hold nodeId hsince
      · rw [List.mem_singleton] at hnew
        subst hnew
        exact hsince

theorem reload_kept (hw : w.Kept) (i : ℕ) : (w.exec lib (.reload i)).Kept := by
  simp only [exec]
  split
  · exact hw
  · rename_i r hr
    split
    · exact hw
    · rename_i b hload
      refine ⟨⟨hw.recorded,hw.kept,?_⟩,hw.current,past_set hw⟩
      intro r' hr' nodeId hsince
      rcases mem_modified hr' with hold | ⟨r'',hr'',rfl⟩
      · exact hw.refused r' hold nodeId hsince
      · have hrevoked := hw.past r'' (List.mem_of_getElem? hr'') nodeId hsince
        exact OpenBook.load_spec hload (hw.recorded nodeId hrevoked)

theorem addMany_kept (hw : w.Kept) (i : ℕ) (cards : List PeerCard) (written : Bool) :
    (w.exec lib (.addMany i cards written)).Kept := by
  simp only [exec]
  split
  · exact hw
  · rename_i r hr
    obtain ⟨hrecords,hledger,hpeers⟩ := OpenBook.addMany_spec lib cards written r.book w.files
    generalize r.book.addMany lib cards written w.files = out at hrecords hledger hpeers ⊢
    have hfile : out.2.2.records = w.files.records := by
      unfold BookFiles.records
      rw [hledger]
    have hdenied : out.2.2.denied = w.files.denied := by
      unfold BookFiles.denied
      rw [hfile]
    refine ⟨⟨?_,?_,?_⟩,?_,past_set hw⟩
    · rw [hdenied]
      exact hw.recorded
    · rw [hfile]
      exact hw.kept
    · refine refused_set hw.toDurable hr ?_ hpeers
      intro nodeId hmem
      unfold OpenBook.denied
      rw [hrecords]
      exact hmem
    · rw [hfile]
      exact hw.current

/-- A revocation keeps the promises when it meets the condition. -/
theorem revoke_kept (hw : w.Kept) {i : ℕ} {nodeId reason : String} {now : ℤ}
    {ledgerWritten peersWritten : Bool}
    (hmeets : w.Meets lib (.revoke i nodeId reason now ledgerWritten peersWritten)) :
    (w.exec lib (.revoke i nodeId reason now ledgerWritten peersWritten)).Kept := by
  simp only [exec]
  split
  · exact hw
  · rename_i r hr
    obtain ⟨hknown,hwrites⟩ := hmeets r hr
    have heffect := OpenBook.revoke_effect lib nodeId reason now ledgerWritten peersWritten
      r.book w.files
    generalize r.book.revoke lib nodeId reason now ledgerWritten peersWritten w.files = out
      at heffect ⊢
    have hpast {b : OpenBook} {revoked : List String} (hsub : ∀ x ∈ w.revoked, x ∈ revoked) :
        ∀ r' ∈ w.setBook i b, ∀ x ∈ r'.since, x ∈ revoked :=
      fun r' hr' x hx => hsub x (past_set hw r' hr' x hx)
    have hheld : ∀ x ∈ w.held ++ w.files.records, x ∈ w.files.records := by
      intro x hx
      exact (List.mem_append.mp hx).elim (hw.kept x) id
    cases heffect with
    | known existing hdenied =>
      refine ⟨⟨?_,hheld,?_⟩,?_,hpast fun x => List.mem_cons_of_mem _⟩
      · intro x hx
        rcases List.mem_cons.mp hx with rfl | hold
        · exact hknown hdenied
        · exact hw.recorded x hold
      · exact refused_set hw.toDurable hr (fun _ h => h) fun c hc => Or.inl hc
      · exact fun x hx => List.mem_append_right _ hx
    | unknown e hfree hcard =>
      refine ⟨⟨hw.recorded,hheld,?_⟩,?_,hpast fun x hx => hx⟩
      · exact refused_set hw.toDurable hr (fun _ h => h) fun c hc => Or.inl hc
      · exact fun x hx => List.mem_append_right _ hx
    | unwritten e card hfree hcard hfailed =>
      refine ⟨⟨hw.recorded,hheld,?_⟩,?_,hpast fun x hx => hx⟩
      · refine refused_set hw.toDurable hr ?_ fun c hc => Or.inl hc
        intro x hx
        simp only [OpenBook.denied,List.map_append,List.mem_append]
        exact Or.inl hx
      · exact fun x hx => List.mem_append_right _ hx
    | written result card files hfree hcard hwritten hrecords =>
      have hsub : ∀ x ∈ w.files.records, x ∈ files.records := by
        intro x hx
        exact (hrecords x).mpr (hwrites hfree card hcard hwritten x hx)
      have hdenied : ∀ x ∈ w.files.denied, x ∈ files.denied := by
        intro x hx
        obtain ⟨y,hy,hid⟩ := List.mem_map.mp hx
        exact List.mem_map.mpr ⟨y,hsub y hy,hid⟩
      have hnew : strip nodeId ∈ files.denied :=
        List.mem_map.mpr ⟨_,(hrecords _).mpr (Or.inr rfl),rfl⟩
      refine ⟨⟨?_,?_,?_⟩,?_,hpast ?_⟩
      · intro x hx
        split_ifs at hx
        · rcases List.mem_cons.mp hx with rfl | hold
          · exact hnew
          · exact hdenied x (hw.recorded x hold)
        · exact hdenied x (hw.recorded x hx)
      · intro x hx
        exact (List.mem_append.mp hx).elim (fun h => hsub x (hw.kept x h)) id
      · refine refused_set hw.toDurable hr ?_ fun c hc => Or.inl (List.mem_filter.mp hc).1
        intro x hx
        simp only [OpenBook.denied,List.map_append,List.mem_append]
        exact Or.inl hx
      · exact fun x hx => List.mem_append_right _ hx
      · intro x hx
        split_ifs
        · exact List.mem_cons_of_mem _ hx
        · exact hx

/-- A revocation that does not meet the condition breaks a promise at once. -/
theorem revoke_breaks (hw : w.Kept) {i : ℕ} {nodeId reason : String} {now : ℤ}
    {ledgerWritten peersWritten : Bool}
    (hdurable : (w.exec lib (.revoke i nodeId reason now ledgerWritten peersWritten)).Durable) :
    w.Meets lib (.revoke i nodeId reason now ledgerWritten peersWritten) := by
  intro r hr
  simp only [exec,hr] at hdurable
  have heffect := OpenBook.revoke_effect lib nodeId reason now ledgerWritten peersWritten
    r.book w.files
  generalize r.book.revoke lib nodeId reason now ledgerWritten peersWritten w.files = out
    at heffect hdurable
  cases heffect with
  | known existing hdenied =>
    exact ⟨fun _ => hdurable.recorded _ List.mem_cons_self,fun hfree => absurd hdenied hfree⟩
  | unknown e hfree hcard =>
    refine ⟨fun hdenied => absurd hdenied hfree,?_⟩
    intro _ card hsome
    rw [hcard] at hsome
    cases hsome
  | unwritten e card hfree hcard hfailed =>
    refine ⟨fun hdenied => absurd hdenied hfree,?_⟩
    intro _ _ _ hwritten
    rw [hfailed] at hwritten
    cases hwritten
  | written result card files hfree hcard hwritten hrecords =>
    refine ⟨fun hdenied => absurd hdenied hfree,?_⟩
    intro _ card' hcard' _ x hx
    have hsame : card' = card := Option.some.inj (hcard'.symm.trans hcard)
    rw [hsame]
    exact (hrecords x).mp (hdurable.kept x (List.mem_append_left _ (hw.current x hx)))

theorem kept_step (hw : w.Kept) {op : BookOp} (hmeets : w.Meets lib op) :
    (w.exec lib op).Kept := by
  cases op with
  | openBook ownNodeId => exact openBook_kept hw ownNodeId
  | reload i => exact reload_kept hw i
  | addMany i cards written => exact addMany_kept hw i cards written
  | revoke => exact revoke_kept hw hmeets

theorem kept_reaches (h : Reaches (MeetingStep lib) .initial w) : w.Kept := by
  refine h.invariant ?_ Kept.initial
  rintro v v' hv ⟨op,hmeets,rfl⟩
  exact kept_step hv hmeets

end Runs

section Sample

def plainLibrary : Runtime × Crypto × UrlLibrary := (.msgpack,plainCrypto,plainUrls)

def firstPeer : PeerCard := plainCard [1] [2]
def secondPeer : PeerCard := plainCard [3] [4]

/-- One book adds a card and revokes its node. -/
def revokingCalls : List BookOp :=
  [.openBook "",.addMany 0 [firstPeer] true,.revoke 0 firstPeer.nodeId "" 5 true true]

/-- The ledger is not written; the revocation is tried again. -/
def retryingCalls : List BookOp :=
  [.openBook "",.addMany 0 [firstPeer] true,.revoke 0 firstPeer.nodeId "" 5 false true,
    .revoke 0 firstPeer.nodeId "" 6 true true]

/-- Two books are open; each revokes another peer, and a third is opened. -/
def staleCalls : List BookOp :=
  [.openBook "",.addMany 0 [firstPeer,secondPeer] true,.openBook "",
    .revoke 0 firstPeer.nodeId "" 5 true true,.revoke 1 secondPeer.nodeId "" 6 true true,
    .openBook ""]

def execAll (calls : List BookOp) : BookWorld := calls.foldl (exec plainLibrary) .initial

theorem execAll_runs (calls : List BookOp) :
    Reaches (BookStep plainLibrary) .initial (execAll calls) :=
  Reaches.of_steps (fun _ op => ⟨op,rfl⟩) calls _

end Sample

/-- In a run whose revocations meet the condition the promises hold in every state, and the
next call keeps them exactly if it meets the condition too. -/
theorem revocations_durable (lib : Runtime × Crypto × UrlLibrary) (w : BookWorld)
    (h : Reaches (MeetingStep lib) .initial w) :
    w.Durable ∧ ∀ op, (w.exec lib op).Durable ↔ w.Meets lib op := by
  have hkept := kept_reaches h
  refine ⟨hkept.toDurable,fun op => ⟨?_,fun hmeets => (kept_step hkept hmeets).toDurable⟩⟩
  intro hdurable
  cases op with
  | openBook => trivial
  | reload => trivial
  | addMany => trivial
  | revoke => exact revoke_breaks hkept hdurable

theorem revocations_durable_sample :
    (execAll revokingCalls).Durable ∧ (execAll revokingCalls).revoked = [firstPeer.nodeId] := by
  have hreach : Reaches (MeetingStep plainLibrary) .initial (execAll revokingCalls) := by
    refine Reaches.of_calls (fun w op hop => ⟨op,hop,rfl⟩) revokingCalls _ ?_
    refine ⟨trivial,trivial,?_,trivial⟩
    intro r hr
    have hempty : (execAll (revokingCalls.take 2)).files.records = [] := by decide
    have hdenied : ∀ r ∈ (execAll (revokingCalls.take 2)).readers, r.book.denied = [] := by
      decide
    have hmem := hdenied r (List.mem_of_getElem? hr)
    change (_ ∈ r.book.denied → _) ∧ (_ ∉ r.book.denied → ∀ card, _ → _ →
      ∀ x ∈ (execAll (revokingCalls.take 2)).files.records, _)
    rw [hmem,hempty]
    exact ⟨fun h => absurd h List.not_mem_nil,fun _ _ _ _ x hx => absurd hx List.not_mem_nil⟩
  exact ⟨(revocations_durable plainLibrary _ hreach).1,by decide⟩

/-- A revocation that returns on the retry is in no file, and a book that never read a
record writes the ledger without it and lets the peer back in. -/
theorem revocation_lost :
    (∃ w, Reaches (BookStep plainLibrary) .initial w ∧ w.revoked = [firstPeer.nodeId] ∧
      w.files.denied = []) ∧
    ∃ w, Reaches (BookStep plainLibrary) .initial w ∧ firstPeer.nodeId ∈ w.revoked ∧
      w.files.denied = [secondPeer.nodeId] ∧
      w.readers.getLast?.map (fun r => r.book.peers) = some [firstPeer] :=
  ⟨⟨_,execAll_runs retryingCalls,by decide,by decide⟩,
    _,execAll_runs staleCalls,by decide,by decide,by decide⟩

end BookWorld
end Anet
