import Anet.IngestedEvents
import Anet.LoopbackAdapter

/-! The spool of the loopback adapter over polls that end anywhere. A file is taken away before the
signal of its event is queued, and a stored event is never looked at again: where no poll ends in
between, no signal of a stored event is missing, and a poll that completes stores all that is left. -/
namespace Anet.Amesh

/-- A message that `ingest` accepts. -/
structure LoopbackMessage.Valid (cfg : LoopbackConfig) (m : LoopbackMessage) : Prop where
  channel : m.channelName ∈ cfg.channels
  author : m.authorName ≠ ""
  author_length : m.authorName.toList.length ≤ 128
  text_length : m.text.toList.length ≤ 2000

/-- The files of a spool: messages under different names, where those of one key have one body. -/
structure SpoolFiles (lib : SocialLibrary) (cfg : LoopbackConfig)
    (files : List (String × LoopbackMessage)) : Prop where
  names : (files.map Prod.fst).Nodup
  valid : ∀ f ∈ files, f.2.Valid cfg
  bodies : ∀ f ∈ files, ∀ g ∈ files, f.2.eventKey lib = g.2.eventKey lib →
    f.2.bodyHash lib = g.2.bodyHash lib

/-- The keys and the bodies of the files. -/
def fileBodies (lib : SocialLibrary) (files : List (String × LoopbackMessage)) (k b : String) : Prop :=
  ∃ f ∈ files, f.2.eventKey lib = k ∧ f.2.bodyHash lib = b

theorem SpoolFiles.one_body {lib : SocialLibrary} {cfg : LoopbackConfig}
    {files : List (String × LoopbackMessage)} (h : SpoolFiles lib cfg files) (k b b' : String)
    (hb : fileBodies lib files k b) (hb' : fileBodies lib files k b') : b = b' := by
  obtain ⟨f,hf,rfl,rfl⟩ := hb
  obtain ⟨g,hg,hkey,rfl⟩ := hb'
  exact h.bodies f hf g hg hkey.symm

namespace LoopbackWorld

variable (lib : SocialLibrary) (cfg : LoopbackConfig) (files : List (String × LoopbackMessage))

/-- The files lie in the spool, and nothing was polled. -/
def spooled (permissions : PermissionStore) : LoopbackWorld :=
  ⟨permissions,.empty,files.map fun f => (f.1,some f.2),[],[]⟩

/-- Where the signal of a new event is due, the poll does not end between the transaction of the event
and the queue, and the signal can be built. -/
def Call.Safe (w : LoopbackWorld) : Call → Prop
  | .file name now fate => ∀ m evaluation, w.message name = some m →
      w.ledger.event (m.eventKey lib) = none →
      m.evaluation lib cfg.policy w.ledger now = some evaluation →
      (m.toEvent lib evaluation now).Due "loopback" cfg.destinationId w.permissions →
      fate ∉ [.stopsStored,.unlinkFails,.stopsTaken] ∧
        ∃ signal, w.signal lib cfg (m.toEvent lib evaluation now) = .ok signal
  | .updateLabels .. => True
  | .reply .. => True
  | _ => False

def SafeStep (w w' : LoopbackWorld) : Prop := ∃ c, Call.Safe lib cfg w c ∧ w' = w.exec lib cfg c

/-- What holds of every state of a safe run. -/
structure SpoolKept (w : LoopbackWorld) : Prop where
  ingested : Ingested (fileBodies lib files) "loopback" cfg.destinationId w.permissions w.ledger
    w.routed
  held : ∀ f ∈ w.spool, ∃ g ∈ files, f = (g.1,some g.2)
  accounted : ∀ g ∈ files, (g.1,some g.2) ∈ w.spool ∨
    w.ledger.Holds (g.2.eventKey lib) (g.2.bodyHash lib)

variable {lib cfg files} {w : LoopbackWorld} {name : String} {now : ℤ} {fate : LoopbackFate}

theorem signal_ledger (w : LoopbackWorld) {ledger : Ledger} (h : ledger.labels = w.ledger.labels)
    (event : EventRow) : signal lib cfg { w with ledger := ledger } event = w.signal lib cfg event := by
  have hlabels : ledger.actorLabels event.actorKey = w.ledger.actorLabels event.actorKey := by
    unfold Ledger.actorLabels
    rw [h]
  unfold signal
  rw [hlabels]

/-- Where the signal of a new event is due, its file does not stop short of the queue. -/
theorem safe_due (hsafe : Call.Safe lib cfg w (.file name now fate)) {m : LoopbackMessage}
    {event : EventRow} {ledger : Ledger} (hm : w.message name = some m)
    (hnew : loopbackIngest lib cfg.policy w.ledger m now = .ok ((event,true),ledger))
    (hevent : event.Due "loopback" cfg.destinationId w.permissions) :
    fate ∉ [.stopsStored,.unlinkFails,.stopsTaken] ∧
      ∃ signal', signal lib cfg { w with ledger := ledger } event = .ok signal' := by
  obtain ⟨hfresh,evaluation,heval,rfl,hins⟩ := ingest_new hnew
  rw [signal_ledger w (Ledger.insertEvent_some hins).2.2.2.1]
  exact hsafe m evaluation hm hfresh heval hevent

theorem mentioned_label (m : LoopbackMessage) :
    "interaction:mention" ∈ m.eventLabels ↔ m.mentioned = true := by
  simp [LoopbackMessage.eventLabels,mem_sortedStrings]

theorem replied_label (m : LoopbackMessage) :
    "interaction:reply" ∈ m.eventLabels ↔ m.replied = true := by
  simp [LoopbackMessage.eventLabels,mem_sortedStrings]

namespace SpoolKept

theorem start (permissions : PermissionStore) :
    SpoolKept lib cfg files (spooled files permissions) := by
  refine ⟨.start,fun f hf => ?_,fun g hg => Or.inl (List.mem_map_of_mem hg)⟩
  obtain ⟨g,hg,rfl⟩ := List.mem_map.mp hf
  exact ⟨g,hg,rfl⟩

/-- The message of a file that lies in the spool. -/
theorem message (h : SpoolKept lib cfg files w) {m : LoopbackMessage}
    (hm : w.message name = some m) : (name,m) ∈ files := by
  unfold LoopbackWorld.message at hm
  cases hlook : w.spool.lookup name with
  | none =>
    rw [hlook] at hm
    cases hm
  | some x =>
    rw [hlook] at hm
    obtain rfl : x = some m := hm
    obtain ⟨l,l',hsplit,-⟩ := List.lookup_eq_some_iff.mp hlook
    obtain ⟨g,hg,heq⟩ := h.held (name,some m) (by rw [hsplit]; simp)
    obtain ⟨rfl,hsome⟩ := Prod.mk.inj heq
    obtain rfl := Option.some.inj hsome
    exact hg

/-- A file that is taken away once its event is stored. -/
theorem take (hfiles : SpoolFiles lib cfg files) (h : SpoolKept lib cfg files w) {m : LoopbackMessage} (hm : w.message name = some m)
    (hheld : w.ledger.Holds (m.eventKey lib) (m.bodyHash lib)) :
    SpoolKept lib cfg files (w.take name) := by
  have hfile := h.message hm
  refine ⟨h.ingested,fun f hf => h.held f (List.mem_filter.mp hf).1,fun g hg => ?_⟩
  rcases h.accounted g hg with hin | hstored
  · by_cases hname : g.1 = name
    · have hsame : g = (name,m) :=
        List.inj_on_of_nodup_map hfiles.names hg hfile hname
      rw [hsame]
      exact Or.inr hheld
    · exact Or.inl (List.mem_filter.mpr ⟨hin,by simpa using hname⟩)
  · exact Or.inr hstored

/-- The ledger of a new event. -/
theorem ingest (h : SpoolKept lib cfg files w) {m : LoopbackMessage} (hm : w.message name = some m)
    {event : EventRow} {ledger : Ledger}
    (hnew : loopbackIngest lib cfg.policy w.ledger m now = .ok ((event,true),ledger))
    {routed : List Routed} (hsub : w.routed ⊆ routed)
    (hqueued : event.Due "loopback" cfg.destinationId w.permissions →
      ∃ r ∈ routed, r.signal.sourceEventId = event.eventKey) :
    SpoolKept lib cfg files { w with ledger := ledger, routed := routed } ∧
      ledger.Holds (m.eventKey lib) (m.bodyHash lib) := by
  obtain ⟨-,evaluation,-,rfl,hins⟩ := ingest_new hnew
  have hfile := h.message hm
  have hget := Ledger.event_insertEvent hins (m.eventKey lib)
  have hstored : ledger.event (m.eventKey lib) = some (m.toEvent lib evaluation now) := by
    rw [hget]
    exact if_pos rfl
  refine ⟨⟨h.ingested.insert ?_ ?_ hins ⟨_,hfile,rfl,rfl⟩ hsub hqueued,h.held,fun g hg => ?_⟩,
    _,hstored,rfl⟩
  · exact if_congr (mentioned_label m).symm rfl rfl
  · exact if_congr (replied_label m).symm rfl rfl
  · rcases h.accounted g hg with hin | ⟨e,he,hbody⟩
    · exact Or.inl hin
    · exact Or.inr ⟨e,Ledger.event_stays hins he,hbody⟩

theorem file (hfiles : SpoolFiles lib cfg files) (h : SpoolKept lib cfg files w) (hsafe : Call.Safe lib cfg w (.file name now fate)) :
    SpoolKept lib cfg files (w.pollFile lib cfg name now fate).1 := by
  have hstep := @pollFile_step lib cfg w name now fate
  generalize w.pollFile lib cfg name now fate = r at hstep
  cases hstep with
  | stopped => exact h
  | passed => exact h
  | again m existing go hm hchannel hexisting =>
    refine take hfiles h hm ⟨existing,hexisting,?_⟩
    exact h.ingested.same_body hfiles.one_body ⟨_,h.message hm,rfl,rfl⟩ hexisting
  | kept => exact h
  | stored m event ledger go hm hchannel hnew hfate =>
    refine (h.ingest hm hnew (List.Subset.refl _) fun hevent => ?_).1
    have hgone := (safe_due hsafe hm hnew hevent).1
    rcases hfate with rfl | rfl <;> simp at hgone
  | quiet m event ledger go hm hchannel hnew hquiet =>
    have hundue : ¬ event.Due "loopback" cfg.destinationId w.permissions := fun hevent =>
      hquiet.elim hevent.1 fun hsurface => hsurface hevent.2.1
    obtain ⟨hkept,hheld⟩ := h.ingest hm hnew (List.Subset.refl _) fun hevent => absurd hevent hundue
    exact take hfiles hkept hm hheld
  | taken m event ledger hm hchannel hnew hfate =>
    have hundue : ¬ event.Due "loopback" cfg.destinationId w.permissions := by
      intro hevent
      obtain ⟨hgone,signal',hsignal⟩ := safe_due hsafe hm hnew hevent
      rcases hfate with rfl | ⟨-,-,-,e,herror⟩
      · simp at hgone
      · rw [hsignal] at herror
        cases herror
    obtain ⟨hkept,hheld⟩ := h.ingest hm hnew (List.Subset.refl _) fun hevent => absurd hevent hundue
    exact take hfiles hkept hm hheld
  | refused m event ledger go hm hchannel hnew hdenied =>
    have hundue : ¬ event.Due "loopback" cfg.destinationId w.permissions := by
      intro hevent
      rw [hevent.2.2] at hdenied
      cases hdenied
    obtain ⟨hkept,hheld⟩ := h.ingest hm hnew (List.Subset.refl _) fun hevent => absurd hevent hundue
    have htaken := take hfiles hkept hm hheld
    exact ⟨htaken.ingested.refuse event.actorKey "surface" event.eventKey now,htaken.held,
      htaken.accounted⟩
  | routed m event ledger signal' go hm hchannel hnew hsurface hopen hsignal =>
    obtain ⟨hkept,hheld⟩ := h.ingest hm hnew (List.subset_append_left _ _) fun _ =>
      ⟨⟨signal',w.permissions⟩,List.mem_append_right _ (List.mem_singleton.mpr rfl),
        (buildSignal_ok hsignal).1⟩
    have htaken := take hfiles hkept hm hheld
    exact ⟨htaken.ingested,htaken.held,htaken.accounted⟩

/-- Whatever leaves the actors and the events as they are. -/
theorem frame (h : SpoolKept lib cfg files w) {ledger : Ledger} (hs : w.ledger.SameEvents ledger)
    (replies : List ReplyLog) :
    SpoolKept lib cfg files { w with ledger := ledger, replies := replies } :=
  ⟨h.ingested.frame hs,h.held,fun g hg => (h.accounted g hg).imp_right hs.holds⟩

theorem reply (h : SpoolKept lib cfg files w) (eventKey content : String) (now : ℤ)
    (fate : ReplyFate) : SpoolKept lib cfg files (w.reply lib cfg eventKey content now fate) := by
  unfold LoopbackWorld.reply
  simp only
  split
  · exact h
  split
  · exact h
  split
  · exact ⟨h.ingested.refuse _ _ _ _,h.held,h.accounted⟩
  split
  · exact h
  split
  · exact h
  · exact h.frame (Ledger.SameEvents.sendReply lib _ _ _ _ _ _ _ _) _

theorem step (hfiles : SpoolFiles lib cfg files) (w w' : LoopbackWorld)
    (h : SpoolKept lib cfg files w) (hstep : SafeStep lib cfg w w') : SpoolKept lib cfg files w' := by
  obtain ⟨c,hsafe,rfl⟩ := hstep
  cases c with
  | arrive name message => exact hsafe.elim
  | file name now fate =>
    change SpoolKept lib cfg files (if cfg.enabled then (w.pollFile lib cfg name now fate).1 else w)
    split
    · exact file hfiles h hsafe
    · exact h
  | updateLabels actorKey source add remove now =>
    have hsame : w.ledger.SameEvents ((w.ledger.updateLabels actorKey source add remove
        now).toOption.getD w.ledger) := by
      cases hlabels : w.ledger.updateLabels actorKey source add remove now with
      | error e => exact .refl _
      | ok s => exact .updateLabels hlabels
    exact h.frame hsame w.replies
  | addRule rule => exact hsafe.elim
  | removeRule ruleId => exact hsafe.elim
  | reply eventKey content now fate => exact h.reply eventKey content now fate

end SpoolKept

/-- A valid message whose key is stored for no other body is taken. -/
theorem ingest_total {s : Ledger} {m : LoopbackMessage} (now : ℤ) (hvalid : m.Valid cfg)
    (hbody : ∀ e, s.event (m.eventKey lib) = some e → e.bodyHash = m.bodyHash lib) :
    ∃ r, loopbackIngest lib cfg.policy s m now = .ok r := by
  have hauthor : ¬ (m.authorName = "" ∨ 128 < m.authorName.toList.length) := by
    rintro (hempty | hlong)
    · exact hvalid.author hempty
    · exact absurd hvalid.author_length (by omega)
  have htext : ¬ 2000 < m.text.toList.length := by
    have := hvalid.text_length
    omega
  unfold loopbackIngest
  cases hevent : s.event (m.eventKey lib) with
  | some existing =>
    have hsame : ¬ existing.bodyHash ≠ m.bodyHash lib := fun hne => hne (hbody existing hevent)
    exact ⟨((existing,false),s),bind_ok.mpr ⟨(),raiseIf_ok.mpr hauthor,
      bind_ok.mpr ⟨(),raiseIf_ok.mpr htext,bind_ok.mpr ⟨(),raiseIf_ok.mpr hsame,rfl⟩⟩⟩⟩
  | none =>
    have hactor := Ledger.actor_countActor s (m.actorKey lib) (if m.mentioned then 1 else 0)
      (if m.replied then 1 else 0) now (m.actorKey lib)
    rw [if_pos rfl] at hactor
    obtain ⟨evaluation,heval⟩ : ∃ evaluation, m.evaluation lib cfg.policy s now = some evaluation := by
      unfold LoopbackMessage.evaluation Ledger.actorStats LoopbackMessage.counted
      rw [hactor]
      exact ⟨_,rfl⟩
    obtain ⟨inserted,hins⟩ : ∃ inserted, (m.counted lib s now).insertEvent
        (m.toEvent lib evaluation now) = some inserted :=
      Ledger.insertEvent_free hevent (by simp [EventRow.marks,LoopbackMessage.toEvent])
    exact ⟨((m.toEvent lib evaluation now,true),inserted),
      bind_ok.mpr ⟨(),raiseIf_ok.mpr hauthor,bind_ok.mpr ⟨(),raiseIf_ok.mpr htext,
        bind_ok.mpr ⟨evaluation,fetched_ok.mpr heval,
          bind_ok.mpr ⟨inserted,fetched_ok.mpr hins,rfl⟩⟩⟩⟩⟩

/-- The files of a poll that nothing ends, each of them safe in the state it is taken in. -/
def SafeFiles (lib : SocialLibrary) (cfg : LoopbackConfig) (now : ℤ) (names : List String)
    (w : LoopbackWorld) : Prop :=
  Reaches.Good (fun w name => Call.Safe lib cfg w (.file name now .completes))
    (fun w name => (w.pollFile lib cfg name now .completes).1) names w

namespace SpoolKept

/-- A name that lies in the spool has its message. -/
theorem named (h : SpoolKept lib cfg files w) {f : String × Option LoopbackMessage}
    (hf : f ∈ w.spool) : ∃ m, w.message f.1 = some m := by
  unfold LoopbackWorld.message
  cases hlook : w.spool.lookup f.1 with
  | none => exact absurd rfl (bne_iff_ne.mp (List.lookup_eq_none_iff.mp hlook f hf))
  | some x =>
    obtain ⟨l,l',hsplit,-⟩ := List.lookup_eq_some_iff.mp hlook
    obtain ⟨g,-,heq⟩ := h.held (f.1,x) (by rw [hsplit]; simp)
    exact ⟨g.2,(Prod.mk.inj heq).2⟩

/-- A safe file that its poll gets through with is gone. -/
theorem gone (hfiles : SpoolFiles lib cfg files) (h : SpoolKept lib cfg files w)
    (hsafe : Call.Safe lib cfg w (.file name now .completes)) :
    (w.pollFile lib cfg name now .completes).2 = true ∧
      (w.pollFile lib cfg name now .completes).1.spool = w.spool.filter fun f => f.1 ≠ name := by
  have hstep := @pollFile_step lib cfg w name now .completes
  generalize w.pollFile lib cfg name now .completes = r at hstep
  cases hstep with
  | stopped hfate => cases hfate
  | passed hpassed =>
    refine ⟨rfl,(List.filter_eq_self.mpr fun f hf => ?_).symm⟩
    by_contra hname
    obtain rfl : f.1 = name := by simpa using hname
    obtain ⟨m,hm⟩ := h.named hf
    have hfile := h.message hm
    have hvalid := hfiles.valid _ hfile
    rcases hpassed with hfate | hpassed
    · cases hfate
    rcases hpassed m hm with hchannel | ⟨e,herror⟩
    · exact hchannel hvalid.channel
    · have hbody : ∀ e, w.ledger.event (m.eventKey lib) = some e → e.bodyHash = m.bodyHash lib :=
        fun e he => h.ingested.same_body hfiles.one_body ⟨_,hfile,rfl,rfl⟩ he
      obtain ⟨r,hr⟩ := ingest_total now hvalid hbody
      rw [hr] at herror
      cases herror
  | again m existing go hm hchannel hexisting hgo => exact ⟨hgo rfl,rfl⟩
  | kept m existing go hm hexisting hfate => rcases hfate with hfate | hfate <;> cases hfate
  | stored m event ledger go hm hchannel hnew hfate =>
    rcases hfate with hfate | hfate <;> cases hfate
  | quiet m event ledger go hm hchannel hnew hquiet hgo => exact ⟨hgo rfl,rfl⟩
  | taken m event ledger hm hchannel hnew hfate =>
    rcases hfate with hfate | ⟨hdestination,hsurface,hopen,e,herror⟩
    · cases hfate
    · obtain ⟨-,signal',hsignal⟩ := safe_due hsafe hm hnew ⟨hdestination,hsurface,hopen⟩
      rw [hsignal] at herror
      cases herror
  | refused m event ledger go hm hchannel hnew hdenied hgo => exact ⟨hgo rfl,rfl⟩
  | routed m event ledger signal' go hm hchannel hnew hsurface hopen hsignal hgo =>
    exact ⟨hgo rfl,rfl⟩

theorem files_gone (hfiles : SpoolFiles lib cfg files) (names : List String) (w : LoopbackWorld)
    (h : SpoolKept lib cfg files w) (hsafe : SafeFiles lib cfg now names w) :
    (w.pollFiles lib cfg now (fun _ => .completes) names).2 = true ∧
      SpoolKept lib cfg files (w.pollFiles lib cfg now (fun _ => .completes) names).1 ∧
      ∀ f ∈ (w.pollFiles lib cfg now (fun _ => .completes) names).1.spool,
        f ∈ w.spool ∧ f.1 ∉ names := by
  induction names generalizing w with
  | nil => exact ⟨rfl,h,fun f hf => ⟨hf,by simp⟩⟩
  | cons name names ih =>
    obtain ⟨hfile,hrest⟩ := hsafe
    obtain ⟨hgo,hspool⟩ := h.gone hfiles hfile
    obtain ⟨hdone,hkept,hleft⟩ := ih _ (h.file hfiles hfile) hrest
    unfold pollFiles
    simp only [if_pos hgo]
    refine ⟨hdone,hkept,fun f hf => ?_⟩
    obtain ⟨hin,hnames⟩ := hleft f hf
    rw [hspool] at hin
    obtain ⟨hold,hname⟩ := List.mem_filter.mp hin
    refine ⟨hold,?_⟩
    rw [List.mem_cons,not_or]
    exact ⟨by simpa using hname,hnames⟩

/-- After a poll that nothing ends every message is stored. -/
theorem drained (hfiles : SpoolFiles lib cfg files) (hen : cfg.enabled = true)
    (h : SpoolKept lib cfg files w)
    (hsafe : SafeFiles lib cfg now (sortedStrings (w.spool.map Prod.fst)) w) :
    (w.pollOnce lib cfg now fun _ => .completes).2 = true ∧
      ∀ g ∈ files, (w.pollOnce lib cfg now fun _ => .completes).1.ledger.Holds (g.2.eventKey lib)
        (g.2.bodyHash lib) := by
  unfold pollOnce
  rw [if_pos hen]
  obtain ⟨hdone,hkept,hleft⟩ := files_gone hfiles _ w h hsafe
  refine ⟨hdone,fun g hg => ?_⟩
  rcases hkept.accounted g hg with hin | hstored
  · obtain ⟨hold,hnames⟩ := hleft _ hin
    exact absurd (mem_sortedStrings.mpr (List.mem_map_of_mem hold)) hnames
  · exact hstored

end SpoolKept

end LoopbackWorld

end Anet.Amesh
