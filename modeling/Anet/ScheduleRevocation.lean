import Anet.DisclosureRecovery
import Anet.Transition
import Mathlib.Data.Fintype.Basic
import Mathlib.Logic.Function.Basic

/-! Processes that each hold their own copy of the schedule book over one file: passes of the
schedule loop, operators that create and revoke, and retransmissions. -/
namespace Anet

open ActivityFeed

/-- A pass over the schedules, with those it has yet to visit. -/
structure SchedulePass (α : Type) where
  model : BookModel α
  force : Bool
  now : ℤ
  rest : List String

/-- What an iteration does next. -/
inductive SchedulePhase (α : Type)
  | idle | discard | prepare (d : Disclosure α) | queue (d : Disclosure α) | archive | succeed | fail

/-- The phases that save the book. -/
def SchedulePhase.Saves {α : Type} : SchedulePhase α → Prop
  | queue _ | archive => False
  | _ => True

instance {α : Type} (phase : SchedulePhase α) : Decidable phase.Saves := by
  cases phase <;> unfold SchedulePhase.Saves <;> infer_instance

/-- Where a process is; an iteration knows how long the history was when it began. -/
inductive SchedulePlace (α : Type)
  | free
  | between (pass : SchedulePass α)
  | iterating (pass : SchedulePass α) (scheduleId : String) (began : ℕ) (phase : SchedulePhase α)
  | retransmitting (scheduleId : String) (pages : List (Disclosure α))

inductive ScheduleEvent
  | revoked (scheduleId : String)
  | prepared (scheduleId : String) (began : ℕ)
  | queued (scheduleId : String) (began : ℕ)
  | retransmitted (scheduleId : String)
  deriving DecidableEq

/-- The file, and the copy and the place of each process; the history starts with its oldest
event. -/
structure ScheduleWorld (P α : Type) where
  file : ScheduleBook α
  memory : P → ScheduleBook α
  place : P → SchedulePlace α
  history : List ScheduleEvent

inductive ScheduleAct (P α : Type)
  | startPass (p : P) (only : Option String) (force : Bool) (now : ℤ) (model : BookModel α)
  | reload (p : P)
  | advance (p : P) (succeeds : Bool)
  | crash (p : P)
  | openBook (p : P)
  | create (p : P) (scheduleId : String) (s : DisclosureSchedule α)
  | revoke (p : P) (scheduleId : String) (now : ℤ)
  | startRetransmission (p : P) (archive : DisclosureArchive α) (n : GapNotice) (now : ℤ)
  | retransmit (p : P) (succeeds : Bool)

namespace ScheduleBook

variable {α : Type}

def Revoked (b : ScheduleBook α) (scheduleId : String) : Prop :=
  ∃ s ∈ b.get scheduleId, s.revokedMs ≠ 0

instance (b : ScheduleBook α) (scheduleId : String) : Decidable (b.Revoked scheduleId) := by
  unfold Revoked
  infer_instance

/-- The schedules that an iteration of a pass may visit. -/
def selected (b : ScheduleBook α) : Option String → Option (List String)
  | none => some b.all
  | some scheduleId => if (b.get scheduleId).isSome then some [scheduleId] else none

/-- The next page of an active schedule, or what comes instead of it. -/
def nextPhase (lib : DisclosureLibrary α) (pass : SchedulePass α) (s : DisclosureSchedule α) :
    SchedulePhase α :=
  match s.pending with
  | some d => .queue d
  | none =>
    match ActivityFeed.read pass.model s.cursor s.batchLimit s.subjectRef with
    | .error _ => .fail
    | .ok page =>
      if page.activities.isEmpty ∧ page.nextCursor = s.cursor then .idle
      else
        match s.createSeries lib page pass.now with
        | .error _ => .fail
        | .ok d => .prepare d

/-- What an iteration finds in the reloaded book: nothing to do, or its first phase. -/
def visit (lib : DisclosureLibrary α) (pass : SchedulePass α) (s : DisclosureSchedule α) :
    Option (SchedulePhase α) :=
  match s.state pass.now with
  | .revoked => none
  | .expired => if s.pending.isSome then some .discard else none
  | .active => if pass.force ∨ s.due pass.now then some (nextPhase lib pass s) else none

end ScheduleBook

namespace ScheduleWorld

variable {P α : Type} [DecidableEq P]

def go (w : ScheduleWorld P α) (p : P) (place : SchedulePlace α) : ScheduleWorld P α :=
  { w with place := Function.update w.place p place }

/-- `reload`. -/
def load (w : ScheduleWorld P α) (p : P) (place : SchedulePlace α) : ScheduleWorld P α :=
  { w with memory := Function.update w.memory p w.file, place := Function.update w.place p place }

/-- `replace` and `save`: the whole copy becomes the file. -/
def save (w : ScheduleWorld P α) (p : P) (scheduleId : String) (s : DisclosureSchedule α)
    (place : SchedulePlace α) : ScheduleWorld P α :=
  { w with
    file := (w.memory p).put scheduleId s
    memory := Function.update w.memory p ((w.memory p).put scheduleId s)
    place := Function.update w.place p place }

def log (w : ScheduleWorld P α) (e : ScheduleEvent) : ScheduleWorld P α :=
  { w with history := w.history ++ [e] }

/-- One write of an iteration of `run_relationship_disclosure_schedules_once`, or the queueing or
archiving between them. -/
def advance (w : ScheduleWorld P α) (p : P) (pass : SchedulePass α) (k : String) (n : ℕ)
    (phase : SchedulePhase α) (succeeds : Bool) : ScheduleWorld P α :=
  let saved := fun (update : Result (DisclosureSchedule α)) (failed : SchedulePlace α) =>
    match update with
    | .ok s => w.save p k s (.between pass)
    | .error _ => w.go p failed
  match (w.memory p).get k with
  | none => w.go p .free
  | some s =>
    match phase with
    | .idle => saved (s.recordIdle pass.now) (.iterating pass k n .fail)
    | .discard => w.save p k { s with pending := none } (.between pass)
    | .prepare d =>
      (w.save p k { s with pending := some d } (.iterating pass k n (.queue d))).log (.prepared k n)
    | .queue _ =>
      if succeeds then (w.go p (.iterating pass k n .archive)).log (.queued k n)
      else w.go p (.iterating pass k n .fail)
    | .archive => w.go p (.iterating pass k n (if succeeds then .succeed else .fail))
    | .succeed =>
      match s.pending with
      | none => w.go p (.iterating pass k n .fail)
      | some d => saved (s.recordSuccess d pass.now) (.iterating pass k n .fail)
    | .fail => saved (s.recordFailure pass.now) .free

/-- An action of a process; one that its place does not allow changes nothing. -/
def act (lib : DisclosureLibrary α) (w : ScheduleWorld P α) : ScheduleAct P α → ScheduleWorld P α
  | .startPass p only force now model =>
    match w.place p,w.file.selected only with
    | .free,some ids => w.load p (.between ⟨model,force,now,ids⟩)
    | _,_ => w
  | .reload p =>
    match w.place p with
    | .between pass =>
      match pass.rest with
      | [] => w.go p .free
      | k :: rest =>
        let pass := { pass with rest := rest }
        match w.file.get k with
        | none => w.load p .free
        | some s =>
          match ScheduleBook.visit lib pass s with
          | none => w.load p (.between pass)
          | some phase => w.load p (.iterating pass k w.history.length phase)
    | _ => w
  | .advance p succeeds =>
    match w.place p with
    | .iterating pass k n phase => w.advance p pass k n phase succeeds
    | _ => w
  | .crash p => { w.go p .free with memory := Function.update w.memory p .empty }
  | .openBook p =>
    match w.place p with
    | .free => w.load p .free
    | _ => w
  | .create p k s =>
    match w.place p with
    | .free =>
      -- the id is drawn at random
      if w.file.get k = none ∧ (w.memory p).get k = none ∧ s.revokedMs = 0 then w.save p k s .free
      else w
    | _ => w
  | .revoke p k now =>
    match w.place p,(w.memory p).get k with
    | .free,some s =>
      if s.revokedMs ≠ 0 then w.log (.revoked k)
      else
        match s.revoke now with
        | .ok s' => if now ≠ 0 then (w.save p k s' .free).log (.revoked k) else w
        | .error _ => w
    | _,_ => w
  | .startRetransmission p archive n now =>
    match w.place p with
    | .free =>
      match scheduleFor w.file n now with
      | .ok e => w.load p (.retransmitting e.1 (archivedPages archive n e.1))
      | .error _ => w.load p .free
    | _ => w
  | .retransmit p succeeds =>
    match w.place p with
    | .retransmitting k [] => (w.go p .free).log (.retransmitted k)
    | .retransmitting k (_ :: pages) =>
      if succeeds then (w.go p (.retransmitting k pages)).log (.retransmitted k)
      else w.go p .free
    | _ => w

/-- The copy of a process has every revocation of the file. -/
def Holds (w : ScheduleWorld P α) (p : P) : Prop :=
  ∀ e ∈ w.file.entries, w.file.Revoked e.1 → (w.memory p).Revoked e.1

omit [DecidableEq P] in
instance (w : ScheduleWorld P α) (p : P) : Decidable (w.Holds p) := by
  unfold Holds
  infer_instance

/-- No retransmission of the schedule is under way. -/
def Quiet (w : ScheduleWorld P α) (scheduleId : String) : Prop :=
  ∀ p k pages, w.place p = .retransmitting k pages → k ≠ scheduleId

/-- Nothing is saved from a copy without the revocations of the file, and no schedule is revoked
during a retransmission of it. -/
def Timely (w : ScheduleWorld P α) : ScheduleAct P α → Prop
  | .advance p _ =>
    ∀ pass k n phase, w.place p = .iterating pass k n phase → phase.Saves → w.Holds p
  | .create p _ _ => w.Holds p
  | .revoke p k _ => w.Holds p ∧ w.Quiet k
  | _ => True

inductive Step (lib : DisclosureLibrary α) (good : ScheduleWorld P α → ScheduleAct P α → Prop) :
    ScheduleWorld P α → ScheduleWorld P α → Prop
  | act (w : ScheduleWorld P α) (a : ScheduleAct P α) (hgood : good w a) :
    Step lib good w (w.act lib a)

/-- No process has opened the book yet. -/
structure IsStart (w : ScheduleWorld P α) : Prop where
  memory : ∀ p, w.memory p = .empty
  place : ∀ p, w.place p = .free
  history : w.history = []

/-- Revocation is final: the file keeps it, no iteration that began after it prepares or queues a
page, and no retransmission succeeds. -/
structure Final (w : ScheduleWorld P α) : Prop where
  file : ∀ k, .revoked k ∈ w.history → w.file.Revoked k
  iterations : ∀ k n, .prepared k n ∈ w.history ∨ .queued k n ∈ w.history →
    .revoked k ∉ w.history.take n
  retransmissions : ∀ past k, past ++ [.retransmitted k] <+: w.history → .revoked k ∉ past

/-- What a process stands for in the file and the history. -/
def Placed (file : ScheduleBook α) (history : List ScheduleEvent) : SchedulePlace α → Prop
  | .iterating _ k n _ => n ≤ history.length ∧ .revoked k ∉ history.take n
  | .retransmitting k _ => ¬ file.Revoked k
  | _ => True

structure Kept (w : ScheduleWorld P α) : Prop where
  final : Final w
  began : ∀ k n, .prepared k n ∈ w.history ∨ .queued k n ∈ w.history → n ≤ w.history.length
  copies : ∀ p k, (w.memory p).Revoked k → w.file.Revoked k
  places : ∀ p, Placed w.file w.history (w.place p)

variable {lib : DisclosureLibrary α} {w : ScheduleWorld P α}

omit [DecidableEq P] in
theorem Kept.start (h : IsStart w) : Kept w := by
  have hnone : ∀ k, ¬ ScheduleBook.Revoked (Keyed.empty : ScheduleBook α) k := by
    rintro k ⟨s,hs,-⟩
    cases hs
  refine ⟨⟨by simp [h.history],by simp [h.history],?_⟩,by simp [h.history],fun p k hk => ?_,
    fun p => ?_⟩
  · intro past k hprefix
    rw [h.history,List.prefix_nil] at hprefix
    simp at hprefix
  · rw [h.memory] at hk
    exact absurd hk (hnone k)
  · rw [h.place]
    trivial

theorem revoked_put (b : ScheduleBook α) (k : String) (s : DisclosureSchedule α) (k' : String) :
    ScheduleBook.Revoked (b.put k s) k' ↔ if k' = k then s.revokedMs ≠ 0 else b.Revoked k' := by
  unfold ScheduleBook.Revoked
  rw [Keyed.get_put]
  split <;> simp

omit [DecidableEq P] in
theorem Holds.revoked (h : w.Holds p) {k : String} (hk : w.file.Revoked k) :
    (w.memory p).Revoked k := by
  obtain ⟨s,hs,hr⟩ := hk
  exact h (k,s) (Keyed.get_eq_some.mp hs) ⟨s,hs,hr⟩

/-- A process that moves, reloads or saves keeps what holds, if the file keeps its revocations and
gets no new one of a schedule that is being retransmitted. -/
theorem Kept.move (h : Kept w) {p : P} {file book : ScheduleBook α} {place : SchedulePlace α}
    (hgrow : ∀ k, w.file.Revoked k → file.Revoked k)
    (hquiet : ∀ k, file.Revoked k → w.file.Revoked k ∨ w.Quiet k)
    (hcopy : ∀ k, book.Revoked k → file.Revoked k) (hplace : Placed file w.history place) :
    Kept { w with
      file := file
      memory := Function.update w.memory p book
      place := Function.update w.place p place } := by
  refine ⟨⟨fun k hk => hgrow k (h.final.file k hk),h.final.iterations,h.final.retransmissions⟩,
    h.began,fun q k hk => ?_,fun q => ?_⟩
  · change (Function.update w.memory p book q).Revoked k at hk
    by_cases hq : q = p
    · subst hq
      rw [Function.update_self] at hk
      exact hcopy k hk
    · rw [Function.update_of_ne hq] at hk
      exact hgrow k (h.copies q k hk)
  · change Placed file w.history (Function.update w.place p place q)
    by_cases hq : q = p
    · subst hq
      rw [Function.update_self]
      exact hplace
    · rw [Function.update_of_ne hq]
      have hold := h.places q
      cases hat : w.place q with
      | retransmitting k pages =>
        rw [hat] at hold
        intro hk
        rcases hquiet k hk with hk' | hk'
        · exact hold hk'
        · exact hk' q k pages hat rfl
      | iterating pass k n phase =>
        rw [hat] at hold
        exact hold
      | free => trivial
      | between pass => trivial

theorem Kept.go (h : Kept w) (p : P) {place : SchedulePlace α}
    (hplace : Placed w.file w.history place) : Kept (w.go p place) := by
  have hmove := h.move (p := p) (fun _ hk => hk) (fun _ hk => .inl hk) (h.copies p) hplace
  rwa [Function.update_eq_self] at hmove

theorem Kept.load (h : Kept w) (p : P) {place : SchedulePlace α}
    (hplace : Placed w.file w.history place) : Kept (w.load p place) :=
  h.move (fun _ hk => hk) (fun _ hk => .inl hk) (fun _ hk => hk) hplace

/-- A save from a copy that has the revocations of the file; it may add one. -/
theorem Kept.save (h : Kept w) {p : P} (hholds : w.Holds p) {k : String}
    {s : DisclosureSchedule α} {place : SchedulePlace α}
    (hkeeps : (w.memory p).Revoked k → s.revokedMs ≠ 0)
    (hnew : s.revokedMs ≠ 0 → (w.memory p).Revoked k ∨ w.Quiet k)
    (hplace : Placed ((w.memory p).put k s) w.history place) : Kept (w.save p k s place) := by
  refine h.move (fun k' hk' => ?_) (fun k' hk' => ?_) (fun _ hk' => hk') hplace
  · have hmemory := hholds.revoked hk'
    rw [revoked_put]
    split
    · next heq => exact hkeeps (heq ▸ hmemory)
    · exact hmemory
  · rw [revoked_put] at hk'
    split at hk'
    · next heq =>
      subst heq
      exact (hnew hk').imp (h.copies p k') fun hq => hq
    · exact .inl (h.copies p k' hk')

omit [DecidableEq P] in
/-- An event that is in order may be added to the history. -/
theorem Kept.log (h : Kept w) {e : ScheduleEvent}
    (he : match e with
      | .revoked k => w.file.Revoked k
      | .prepared k n | .queued k n => n ≤ w.history.length ∧ .revoked k ∉ w.history.take n
      | .retransmitted k => ¬ w.file.Revoked k) : Kept (w.log e) := by
  have htake : ∀ n, n ≤ w.history.length → (w.history ++ [e]).take n = w.history.take n :=
    fun n hn => List.take_append_of_le_length hn
  have hpages : ∀ k n, .prepared k n ∈ w.history ++ [e] ∨ .queued k n ∈ w.history ++ [e] →
      n ≤ w.history.length ∧ .revoked k ∉ w.history.take n := by
    intro k n hmem
    rw [List.mem_append,List.mem_append,List.mem_singleton,List.mem_singleton] at hmem
    rcases hmem with (hmem | rfl) | (hmem | rfl)
    · exact ⟨h.began k n (.inl hmem),h.final.iterations k n (.inl hmem)⟩
    · exact he
    · exact ⟨h.began k n (.inr hmem),h.final.iterations k n (.inr hmem)⟩
    · exact he
  refine ⟨⟨fun k hk => ?_,fun k n hmem => ?_,fun past k hprefix => ?_⟩,fun k n hmem => ?_,h.copies,
    fun q => ?_⟩
  · rw [ScheduleWorld.log,List.mem_append,List.mem_singleton] at hk
    rcases hk with hk | rfl
    · exact h.final.file k hk
    · exact he
  · obtain ⟨hle,hnot⟩ := hpages k n hmem
    rw [ScheduleWorld.log,htake n hle]
    exact hnot
  · rw [ScheduleWorld.log,List.prefix_concat_iff] at hprefix
    rcases hprefix with heq | hprefix
    · obtain ⟨rfl,hlast⟩ := List.append_inj' heq rfl
      cases hlast
      exact fun hk => he (h.final.file k hk)
    · exact h.final.retransmissions past k hprefix
  · obtain ⟨hle,-⟩ := hpages k n hmem
    simp only [ScheduleWorld.log,List.length_append]
    omega
  · have hold := h.places q
    change Placed w.file (w.history ++ [e]) (w.place q)
    cases hat : w.place q with
    | iterating pass k n phase =>
      rw [hat] at hold
      refine ⟨?_,?_⟩
      · rw [List.length_append]
        exact hold.1.trans (Nat.le_add_right ..)
      · rw [htake n hold.1]
        exact hold.2
    | retransmitting k pages =>
      rw [hat] at hold
      exact hold
    | free => trivial
    | between pass => trivial

/-- The saves of an iteration change no revocation. -/
theorem Kept.resave (h : Kept w) {p : P} (hholds : w.Holds p) {k : String}
    {s s' : DisclosureSchedule α} (hs : (w.memory p).get k = some s)
    (hsame : s'.revokedMs = s.revokedMs) {place : SchedulePlace α}
    (hplace : Placed ((w.memory p).put k s') w.history place) : Kept (w.save p k s' place) := by
  refine h.save hholds (fun hk => ?_) (fun hne => .inl ⟨s,hs,?_⟩) hplace
  · obtain ⟨t,ht,hrevoked⟩ := hk
    rw [hs] at ht
    cases ht
    rwa [hsame]
  · rwa [← hsame]

theorem Kept.advance (h : Kept w) {p : P} {pass : SchedulePass α} {k : String} {n : ℕ}
    {phase : SchedulePhase α} (hat : w.place p = .iterating pass k n phase)
    (hholds : phase.Saves → w.Holds p) (succeeds : Bool) :
    Kept (w.advance p pass k n phase succeeds) := by
  have hbegan : n ≤ w.history.length ∧ .revoked k ∉ w.history.take n := by
    have hplace := h.places p
    rwa [hat] at hplace
  unfold ScheduleWorld.advance
  cases hs : (w.memory p).get k with
  | none => exact h.go p trivial
  | some s =>
    cases phase with
    | idle =>
      simp only
      cases hu : s.recordIdle pass.now with
      | error e => exact h.go p hbegan
      | ok s' =>
        have hsame := congrArg DisclosureSchedule.revokedMs (DisclosureSchedule.replaced_ok hu)
        exact h.resave (hholds trivial) hs hsame trivial
    | discard =>
      have hsame : ({ s with pending := none } : DisclosureSchedule α).revokedMs = s.revokedMs := rfl
      exact h.resave (hholds trivial) hs hsame trivial
    | prepare d =>
      have hsame : ({ s with pending := some d } : DisclosureSchedule α).revokedMs = s.revokedMs :=
        rfl
      have hsaved : Kept (w.save p k { s with pending := some d }
          (.iterating pass k n (.queue d))) := h.resave (hholds trivial) hs hsame hbegan
      exact hsaved.log hbegan
    | queue d =>
      cases succeeds with
      | true =>
        have hgone : Kept (w.go p (.iterating pass k n .archive)) := h.go p hbegan
        exact hgone.log hbegan
      | false => exact h.go p hbegan
    | archive => exact h.go p hbegan
    | succeed =>
      simp only
      cases hd : s.pending with
      | none => exact h.go p hbegan
      | some d =>
        simp only
        cases hu : s.recordSuccess d pass.now with
        | error e => exact h.go p hbegan
        | ok s' =>
          have hsame := congrArg DisclosureSchedule.revokedMs (DisclosureSchedule.replaced_ok hu)
          exact h.resave (hholds trivial) hs hsame trivial
    | fail =>
      simp only
      cases hu : s.recordFailure pass.now with
      | error e => exact h.go p trivial
      | ok s' =>
        have hsame := congrArg DisclosureSchedule.revokedMs (DisclosureSchedule.replaced_ok hu)
        exact h.resave (hholds trivial) hs hsame trivial

/-- An iteration that finds something to do has not found its schedule revoked. -/
theorem visit_active {pass : SchedulePass α} {s : DisclosureSchedule α} {phase : SchedulePhase α}
    (h : ScheduleBook.visit lib pass s = some phase) : s.revokedMs = 0 := by
  by_contra hne
  have hstate : s.state pass.now = .revoked := if_pos hne
  simp [ScheduleBook.visit,hstate] at h

theorem Kept.reload (h : Kept w) (p : P) : Kept (w.act lib (.reload p)) := by
  simp only [act]
  cases hat : w.place p with
  | between pass =>
    simp only
    split
    · exact h.go p trivial
    · next k rest _ =>
      cases hs : w.file.get k with
      | none => exact h.load p trivial
      | some s =>
        simp only
        split
        · exact h.load p trivial
        · next phase hphase =>
          have hnot : ¬ w.file.Revoked k := by
            rintro ⟨t,ht,hne⟩
            rw [hs] at ht
            cases ht
            exact hne (visit_active hphase)
          refine h.load p ⟨le_rfl,?_⟩
          rw [List.take_length]
          exact fun hmem => hnot (h.final.file k hmem)
  | _ => exact h

theorem Kept.revoke (h : Kept w) {p : P} {k : String} {now : ℤ} (hholds : w.Holds p)
    (hquiet : w.Quiet k) : Kept (w.act lib (.revoke p k now)) := by
  simp only [act]
  split
  · next s _ hs =>
    split
    · next hrevoked => exact h.log (h.copies p k ⟨s,hs,hrevoked⟩)
    · next hactive =>
      split
      · next s' hs' =>
        split
        · next hnow =>
          have hnew : s'.revokedMs ≠ 0 := by
            simp only [DisclosureSchedule.revoke,if_neg hactive] at hs'
            rw [DisclosureSchedule.replaced_ok hs']
            exact hnow
          have hsaved : Kept (w.save p k s' .free) :=
            h.save hholds (fun _ => hnew) (fun _ => .inr hquiet) trivial
          refine hsaved.log ?_
          change ScheduleBook.Revoked ((w.memory p).put k s') k
          rw [revoked_put,if_pos rfl]
          exact hnew
        · exact h
      · exact h
  · exact h

theorem Kept.create (h : Kept w) {p : P} (hholds : w.Holds p) (k : String)
    (s : DisclosureSchedule α) : Kept (w.act lib (.create p k s)) := by
  simp only [act]
  split
  · split
    · next hnew =>
      refine h.save hholds (fun hk => ?_) (fun hne => absurd hnew.2.2 hne) trivial
      obtain ⟨t,ht,-⟩ := hk
      rw [hnew.2.1] at ht
      cases ht
    · exact h
  · exact h

theorem Kept.startRetransmission (h : Kept w) (p : P) (archive : DisclosureArchive α)
    (n : GapNotice) (now : ℤ) : Kept (w.act lib (.startRetransmission p archive n now)) := by
  simp only [act]
  split
  · split
    · next e he =>
      obtain ⟨hmem,hactive,-⟩ := scheduleFor_cases he
      refine h.load p ?_
      rintro ⟨s,hs,hrevoked⟩
      rw [Keyed.get_eq_some.mpr hmem] at hs
      cases hs
      simp [DisclosureSchedule.state,hrevoked] at hactive
    · exact h.load p trivial
  · exact h

theorem Kept.retransmit (h : Kept w) (p : P) (succeeds : Bool) :
    Kept (w.act lib (.retransmit p succeeds)) := by
  have hplace := h.places p
  simp only [act]
  split
  · next k hat =>
    rw [hat] at hplace
    have hgone : Kept (w.go p .free) := h.go p trivial
    exact hgone.log hplace
  · next k d pages hat =>
    rw [hat] at hplace
    split
    · have hgone : Kept (w.go p (.retransmitting k pages)) := h.go p hplace
      exact hgone.log hplace
    · exact h.go p trivial
  · exact h

theorem Kept.act (h : Kept w) {a : ScheduleAct P α} (hgood : w.Timely a) : Kept (w.act lib a) := by
  cases a with
  | startPass p only force now model =>
    simp only [ScheduleWorld.act]
    split
    · exact h.load p trivial
    · exact h
  | reload p => exact h.reload p
  | advance p succeeds =>
    simp only [ScheduleWorld.act]
    split
    · next pass k n phase hat => exact h.advance hat (hgood pass k n phase hat) succeeds
    · exact h
  | crash p =>
    refine h.move (fun _ hk => hk) (fun _ hk => .inl hk) (fun k hk => ?_) trivial
    obtain ⟨s,hs,-⟩ := hk
    cases hs
  | openBook p =>
    simp only [ScheduleWorld.act]
    split
    · exact h.load p trivial
    · exact h
  | create p k s => exact h.create hgood k s
  | revoke p k now => exact h.revoke hgood.1 hgood.2
  | startRetransmission p archive n now => exact h.startRetransmission p archive n now
  | retransmit p succeeds => exact h.retransmit p succeeds

/-- In every run whose steps are timely, revocation is final. -/
theorem revocation_final {w0 : ScheduleWorld P α} (hstart : IsStart w0)
    (hrun : Reaches (Step lib Timely) w0 w) : Final w := by
  have hstep : ∀ s t : ScheduleWorld P α, Kept s → Step lib Timely s t → Kept t := by
    intro s t hs hstep
    cases hstep with
    | act a hgood => exact hs.act hgood
  exact (Reaches.invariant hstep (.start hstart) hrun).final

/-- One schedule, for a loop (`false`) and an operator (`true`). -/
def sampleLibrary : DisclosureLibrary Unit := ⟨fun d => s!"rdis_{d.sequence}",fun _ => .ok ()⟩

def sampleBook : ScheduleBook Unit where
  entries := [("rdsc_1",⟨"observer","audience","",30,10,1,100,none,1,"rdsr_1",0,"history-start",0,0,none⟩)]
  nodup := by decide

def sampleWorld : ScheduleWorld Bool Unit :=
  ⟨sampleBook,fun _ => .empty,fun _ => .free,[]⟩

def sampleModel : BookModel Unit := ⟨[⟨"revt_1",""⟩],[],fun _ => .ok ()⟩

theorem sampleWorld_start : IsStart sampleWorld := ⟨fun _ => rfl,fun _ => rfl,rfl⟩

/-- A schedule revoked between two passes stays revoked, and the second pass leaves it alone. -/
def timelyActs : List (ScheduleAct Bool Unit) :=
  [.startPass false none false 10 sampleModel,.reload false,.advance false true,.advance false true,
    .advance false true,.advance false true,.openBook true,.revoke true "rdsc_1" 20,
    .startPass false none true 50 sampleModel,.reload false,.reload false]

theorem revocation_final_sample :
    (timelyActs.foldl (act sampleLibrary) sampleWorld).history =
      [.prepared "rdsc_1" 0,.queued "rdsc_1" 0,.revoked "rdsc_1"] ∧
    Final (timelyActs.foldl (act sampleLibrary) sampleWorld) := by
  have hgood : Reaches.Good Timely (act sampleLibrary) timelyActs sampleWorld := by
    refine ⟨trivial,trivial,?_,?_,?_,?_,trivial,⟨by decide,?_⟩,trivial,trivial,trivial,trivial⟩
    · intro pass k n phase _ _
      decide
    · intro pass k n phase _ _
      decide
    · intro pass k n phase _ _
      decide
    · intro pass k n phase _ _
      decide
    · rintro (_ | _) k pages hat <;> cases hat
  exact ⟨by decide,revocation_final sampleWorld_start
    (Reaches.of_calls (fun w a hgood => .act w a hgood) timelyActs sampleWorld hgood)⟩

/-- A revocation saved between the reload of an iteration and its next save. -/
def undoneActs : List (ScheduleAct Bool Unit) :=
  [.startPass false none false 10 sampleModel,.reload false,.openBook true,
    .revoke true "rdsc_1" 20,.advance false true,.crash false,
    .startPass false none true 30 sampleModel,.reload false,.advance false true]

theorem revocation_undone :
    IsStart sampleWorld ∧
    Reaches (Step sampleLibrary fun _ _ => True) sampleWorld
      (undoneActs.foldl (act sampleLibrary) sampleWorld) ∧
    (undoneActs.foldl (act sampleLibrary) sampleWorld).history =
      [.revoked "rdsc_1",.prepared "rdsc_1" 0,.queued "rdsc_1" 2] ∧
    ¬ (undoneActs.foldl (act sampleLibrary) sampleWorld).file.Revoked "rdsc_1" ∧
    ¬ Final (undoneActs.foldl (act sampleLibrary) sampleWorld) := by
  have hrun : Reaches (Step sampleLibrary fun _ _ => True) sampleWorld
      (undoneActs.foldl (act sampleLibrary) sampleWorld) :=
    Reaches.of_steps (fun w a => .act w a trivial) undoneActs sampleWorld
  have hfile : ¬ (undoneActs.foldl (act sampleLibrary) sampleWorld).file.Revoked "rdsc_1" := by
    decide
  exact ⟨sampleWorld_start,hrun,by decide,hfile,fun h => hfile (h.file "rdsc_1" (by decide))⟩

end ScheduleWorld
end Anet
