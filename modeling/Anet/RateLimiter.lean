import Anet.Keyed
import Anet.TokenBucket
import Mathlib.Algebra.Order.Floor.Ring
import Mathlib.Data.List.DropRight
import Mathlib.Data.Rat.Floor

/-! The hub's rate limiter: buckets held by peer key, the one used last first, with idle
buckets dropped from the other end. -/
namespace Anet.Hub

structure AhubRateLimit where
  requestsPerMinute : ℕ
  burst : ℕ
  maxBuckets : ℕ
  requestsPerMinute_pos : 0 < requestsPerMinute
  burst_pos : 0 < burst
  maxBuckets_pos : 0 < maxBuckets
  maxBuckets_le : maxBuckets ≤ 10000

namespace AhubRateLimit

def ratePerSecond (config : AhubRateLimit) : ℚ := config.requestsPerMinute / 60

def staleAfter (config : AhubRateLimit) : ℚ := max 60 (config.burst / config.ratePerSecond * 2)

theorem ratePerSecond_pos (config : AhubRateLimit) : 0 < config.ratePerSecond := by
  have hpos : (0 : ℚ) < config.requestsPerMinute := by exact_mod_cast config.requestsPerMinute_pos
  unfold ratePerSecond
  positivity

theorem staleAfter_pos (config : AhubRateLimit) : 0 < config.staleAfter :=
  lt_of_lt_of_le (by norm_num) (le_max_left _ _)

/-- A stale bucket has had time to fill. -/
theorem fill_le_staleAfter (config : AhubRateLimit) :
    config.burst / config.ratePerSecond ≤ config.staleAfter := by
  have hfill : (0 : ℚ) ≤ config.burst / config.ratePerSecond :=
    div_nonneg (Nat.cast_nonneg _) config.ratePerSecond_pos.le
  exact le_trans (by linarith) (le_max_right _ _)

end AhubRateLimit

structure RateRequest where
  key : String
  now : ℚ
  deriving DecidableEq, Repr

/-- `str(key)[:512] or "unknown"` -/
def normalizedKey (key : String) : String :=
  let cut := String.ofList (key.toList.take 512)
  if cut = "" then "unknown" else cut

abbrev RateBuckets := Keyed String (TokenBucket ℚ)

/-- The bucket used least recently goes while it is stale. -/
def prune (config : AhubRateLimit) (buckets : RateBuckets) (now : ℚ) : RateBuckets where
  entries := buckets.entries.rdropWhile fun e => config.staleAfter < now - e.2.updated
  nodup := buckets.nodup.sublist ((List.rdropWhile_prefix _ _).sublist.map _)

/-- The bucket used least recently goes while there are as many as may be held. -/
def makeRoom (config : AhubRateLimit) (buckets : RateBuckets) : RateBuckets where
  entries := buckets.entries.take (config.maxBuckets - 1)
  nodup := buckets.nodup.sublist ((List.take_sublist _ _).map _)

structure AhubRateLimiter where
  buckets : RateBuckets
  limitedRequests : ℕ

def AhubRateLimiter.new : AhubRateLimiter := ⟨Keyed.empty,0⟩

/-- Whether the request is allowed, and the seconds to wait if it is not. -/
abbrev RateReply := Bool × ℤ

def allow (config : AhubRateLimit) (limiter : AhubRateLimiter) (request : RateRequest) :
    RateReply × AhubRateLimiter :=
  let key := normalizedKey request.key
  let held := prune config limiter.buckets request.now
  let tokens := TokenBucket.found (config.burst : ℚ) config.ratePerSecond request.now (held.get key)
  let kept := match held.get key with
    | none => makeRoom config held
    | some _ => held
  if tokens < 1 then
    ((false,max 1 ⌈(1 - tokens) / config.ratePerSecond⌉),
      { buckets := kept.put key ⟨tokens,request.now⟩, limitedRequests := limiter.limitedRequests + 1 })
  else
    ((true,0),{ limiter with buckets := kept.put key ⟨tokens - 1,request.now⟩ })

/-- The replies to requests made one after the other. -/
def decisions {σ : Type*} (allow : σ → RateRequest → RateReply × σ) : σ → List RateRequest →
    List RateReply
  | _,[] => []
  | s,r :: rest => (allow s r).1 :: decisions allow (allow s r).2 rest

/-- The reply of a bucket that holds `tokens`. -/
def reply (config : AhubRateLimit) (tokens : ℚ) : RateReply :=
  if tokens < 1 then (false,max 1 ⌈(1 - tokens) / config.ratePerSecond⌉) else (true,0)

/-- A limiter that has one bucket for every key and never discards one. -/
def allowKeeping (config : AhubRateLimit) (buckets : String → Option (TokenBucket ℚ))
    (request : RateRequest) : RateReply × (String → Option (TokenBucket ℚ)) :=
  let key := normalizedKey request.key
  let tokens := TokenBucket.found (config.burst : ℚ) config.ratePerSecond request.now (buckets key)
  (reply config tokens,Function.update buckets key (some (TokenBucket.spend tokens request.now)))

/-- The keys that had a request within the time after which a bucket is stale. -/
def liveKeys (config : AhubRateLimit) (requests : List RateRequest) (now : ℚ) : Finset String :=
  ((requests.filter fun r => now - r.now ≤ config.staleAfter).map
    fun r => normalizedKey r.key).toFinset

/-- At no request are more buckets live than may be held. -/
def LiveWithin (config : AhubRateLimit) (requests : List RateRequest) : Prop :=
  ∀ before r later, requests = before ++ r :: later →
    (liveKeys config (before ++ [r]) r.now).card ≤ config.maxBuckets

/-- The bucket, unless it is stale. -/
def fresh (config : AhubRateLimit) (now : ℚ) (o : Option (TokenBucket ℚ)) :
    Option (TokenBucket ℚ) := o.filter fun b => now - b.updated ≤ config.staleAfter

variable {config : AhubRateLimit} {limiter : AhubRateLimiter} {requests history : List RateRequest}
variable {buckets : String → Option (TokenBucket ℚ)}

theorem fresh_eq_some {now : ℚ} {o : Option (TokenBucket ℚ)} {b : TokenBucket ℚ} :
    fresh config now o = some b ↔ o = some b ∧ now - b.updated ≤ config.staleAfter := by
  simp [fresh,Option.filter_eq_some_iff]

/-- What is fresh later was fresh before. -/
theorem fresh_fresh {now later : ℚ} (h : now ≤ later) (o : Option (TokenBucket ℚ)) :
    fresh config later (fresh config now o) = fresh config later o := by
  ext b
  simp only [fresh_eq_some]
  constructor
  · rintro ⟨⟨ho,-⟩,hlater⟩
    exact ⟨ho,hlater⟩
  · rintro ⟨ho,hlater⟩
    exact ⟨⟨ho,by linarith⟩,hlater⟩

/-- A bucket that went stale is as good as a new one. -/
theorem found_fresh {now : ℚ} {o : Option (TokenBucket ℚ)}
    (h : ∀ b, o = some b → b.Sound (config.burst : ℚ)) :
    TokenBucket.found (config.burst : ℚ) config.ratePerSecond now (fresh config now o) =
      TokenBucket.found (config.burst : ℚ) config.ratePerSecond now o := by
  cases o with
  | none => rfl
  | some b =>
    by_cases hb : now - b.updated ≤ config.staleAfter
    · simp [fresh,Option.filter,hb]
    · have hidle : config.burst / config.ratePerSecond ≤ now - b.updated :=
        config.fill_le_staleAfter.trans (not_le.mp hb).le
      have hfull := TokenBucket.level_idle config.ratePerSecond_pos (h b rfl) hidle
      simp [fresh,Option.filter,hb,TokenBucket.found,hfull]

theorem rdropWhile_eq_filter {α : Type*} {p : α → Bool} {l : List α}
    (h : l.Pairwise fun a b => p a → p b) : l.rdropWhile p = l.filter fun a => !p a := by
  induction l using List.reverseRecOn with
  | nil => simp
  | append_singleton l a ih =>
    obtain ⟨hl,-,hla⟩ := List.pairwise_append.mp h
    by_cases ha : p a
    · rw [List.rdropWhile_concat_pos _ _ _ ha,ih hl]
      simp [ha]
    · rw [List.rdropWhile_concat_neg _ _ _ ha,eq_comm,List.filter_eq_self]
      intro b hb
      rcases List.mem_append.mp hb with hb | hb
      · have hpb : p b ≠ true := fun hpb => ha (hla b hb a (by simp) hpb)
        simpa using hpb
      · rw [List.mem_singleton.mp hb]
        simpa using ha

/-- Buckets in the order they were used in, the last first. -/
def UsedInOrder (buckets : RateBuckets) : Prop :=
  buckets.entries.Pairwise fun e f => f.2.updated ≤ e.2.updated

theorem prune_entries {buckets : RateBuckets} (h : UsedInOrder buckets) (now : ℚ) :
    (prune config buckets now).entries =
      buckets.entries.filter fun e => now - e.2.updated ≤ config.staleAfter := by
  have horder : buckets.entries.Pairwise fun e f =>
      decide (config.staleAfter < now - e.2.updated) →
        decide (config.staleAfter < now - f.2.updated) := by
    apply h.imp
    intro e f hef he
    have hstale := of_decide_eq_true he
    exact decide_eq_true (by linarith)
  apply (rdropWhile_eq_filter horder).trans
  apply List.filter_congr
  intro e _
  rw [← decide_not]
  exact decide_eq_decide.mpr not_lt

theorem get_prune {buckets : RateBuckets} (h : UsedInOrder buckets) (now : ℚ) (key : String) :
    (prune config buckets now).get key = fresh config now (buckets.get key) := by
  ext b
  rw [fresh_eq_some,Keyed.get_eq_some,Keyed.get_eq_some,
    prune_entries h]
  simp

theorem usedInOrder_sublist {buckets kept : RateBuckets} (h : UsedInOrder buckets)
    (hsub : kept.entries.Sublist buckets.entries) : UsedInOrder kept :=
  List.Pairwise.sublist hsub h

theorem usedInOrder_put {buckets : RateBuckets} (h : UsedInOrder buckets) {b : TokenBucket ℚ}
    (hlast : ∀ e ∈ buckets.entries, e.2.updated ≤ b.updated) (key : String) :
    UsedInOrder (buckets.put key b) := by
  refine List.pairwise_cons.mpr ⟨?_,List.Pairwise.sublist List.filter_sublist h⟩
  intro e he
  exact hlast e (List.mem_filter.mp he).1

/-- The limiter and one that never discards, after the same requests: every bucket that
is or will be fresh is the same. -/
structure Follows (config : AhubRateLimit) (history : List RateRequest) (limiter : AhubRateLimiter)
    (buckets : String → Option (TokenBucket ℚ)) : Prop where
  inOrder : UsedInOrder limiter.buckets
  sound : ∀ key b, buckets key = some b → b.Sound (config.burst : ℚ)
  used : ∀ key b, buckets key = some b →
    ∃ r ∈ history, normalizedKey r.key = key ∧ r.now = b.updated
  agree : ∀ now, (∀ r ∈ history, r.now ≤ now) → ∀ key,
    fresh config now (limiter.buckets.get key) = fresh config now (buckets key)

theorem follows_new : Follows config [] .new fun _ => none where
  inOrder := List.Pairwise.nil
  sound := by simp
  used := by simp
  agree := by
    intro now _ key
    rfl

/-- The keys held once the stale ones are gone are live, and the request's own with them. -/
theorem length_held (h : Follows config history limiter buckets) {request : RateRequest}
    (hnow : ∀ r ∈ history, r.now ≤ request.now)
    (hlive : (liveKeys config (history ++ [request]) request.now).card ≤ config.maxBuckets)
    (hnew : (prune config limiter.buckets request.now).get (normalizedKey request.key) = none) :
    (prune config limiter.buckets request.now).entries.length ≤ config.maxBuckets - 1 := by
  set held := prune config limiter.buckets request.now with hheld
  have hkeys : insert (normalizedKey request.key) (held.entries.map Prod.fst).toFinset ⊆
      liveKeys config (history ++ [request]) request.now := by
    intro key hkey
    simp only [liveKeys,List.mem_toFinset,List.mem_map,List.mem_filter,decide_eq_true_eq]
    rcases Finset.mem_insert.mp hkey with rfl | hkey
    · exact ⟨request,⟨by simp,by simpa using config.staleAfter_pos.le⟩,rfl⟩
    · obtain ⟨⟨k,b⟩,he,rfl⟩ := List.mem_map.mp (List.mem_toFinset.mp hkey)
      have hget := Keyed.get_eq_some.mpr he
      rw [hheld,get_prune h.inOrder,h.agree _ hnow,fresh_eq_some] at hget
      obtain ⟨r,hr,hk,hupdated⟩ := h.used k b hget.1
      exact ⟨r,⟨by simp [hr],by rw [hupdated]; exact hget.2⟩,hk⟩
  have hnotin : normalizedKey request.key ∉ (held.entries.map Prod.fst).toFinset := by
    intro hin
    obtain ⟨⟨k,b⟩,he,rfl⟩ := List.mem_map.mp (List.mem_toFinset.mp hin)
    rw [Keyed.get_eq_some.mpr he] at hnew
    cases hnew
  have hcard := (Finset.card_le_card hkeys).trans hlive
  rw [Finset.card_insert_of_notMem hnotin,List.toFinset_card_of_nodup held.nodup,
    List.length_map] at hcard
  omega

/-- A request is answered out of the fresh bucket of its key, or a full one. -/
theorem allow_eq (config : AhubRateLimit) (limiter : AhubRateLimiter) (request : RateRequest)
    (hroom : (prune config limiter.buckets request.now).get (normalizedKey request.key) = none →
      (prune config limiter.buckets request.now).entries.length ≤ config.maxBuckets - 1) :
    let held := prune config limiter.buckets request.now
    let tokens := TokenBucket.found (config.burst : ℚ) config.ratePerSecond request.now
      (held.get (normalizedKey request.key))
    (allow config limiter request).1 = reply config tokens ∧
      (allow config limiter request).2.buckets =
        held.put (normalizedKey request.key) (TokenBucket.spend tokens request.now) := by
  intro held tokens
  have hkept : (match held.get (normalizedKey request.key) with
      | none => makeRoom config held
      | some _ => held) = held := by
    cases hget : held.get (normalizedKey request.key) with
    | none =>
      have htake : held.entries.take (config.maxBuckets - 1) = held.entries :=
        List.take_of_length_le (hroom hget)
      simp only [makeRoom,htake]
    | some b => rfl
  simp only [allow]
  rw [show prune config limiter.buckets request.now = held from rfl,hkept]
  by_cases htokens : tokens < 1
  · have hserves : ¬ TokenBucket.Serves tokens := fun hserves => hserves htokens
    simp [tokens,reply,TokenBucket.spend,htokens,hserves]
  · have hserves : TokenBucket.Serves tokens := htokens
    simp [tokens,reply,TokenBucket.spend,htokens,hserves]

/-- A request gets the same reply from both limiters, and leaves them following each other. -/
theorem follows_allow (h : Follows config history limiter buckets) {request : RateRequest}
    (hnow : ∀ r ∈ history, r.now ≤ request.now)
    (hlive : (liveKeys config (history ++ [request]) request.now).card ≤ config.maxBuckets) :
    (allow config limiter request).1 = (allowKeeping config buckets request).1 ∧
      Follows config (history ++ [request]) (allow config limiter request).2
        (allowKeeping config buckets request).2 := by
  obtain ⟨hreply,hbuckets⟩ := allow_eq config limiter request (length_held h hnow hlive)
  have hheld : ∀ key, (prune config limiter.buckets request.now).get key =
      fresh config request.now (buckets key) := by
    intro key
    rw [get_prune h.inOrder,h.agree _ hnow]
  have htokens := @found_fresh config request.now _ (h.sound (normalizedKey request.key))
  rw [hheld,htokens] at hreply hbuckets
  have hsound := TokenBucket.found_sound (Nat.cast_nonneg (α := ℚ) config.burst)
    config.ratePerSecond_pos.le (h.sound (normalizedKey request.key)) request.now
  refine ⟨hreply,?_,?_,?_,?_⟩
  · rw [hbuckets]
    apply usedInOrder_put
    · exact usedInOrder_sublist h.inOrder (List.rdropWhile_prefix _ _).sublist
    · rintro ⟨key,b⟩ he
      have hget := Keyed.get_eq_some.mpr he
      rw [hheld,fresh_eq_some] at hget
      obtain ⟨r,hr,-,hupdated⟩ := h.used key b hget.1
      simpa [← hupdated] using hnow r hr
  · intro key b hb
    by_cases hkey : key = normalizedKey request.key
    · subst hkey
      simp only [allowKeeping,Function.update_self,Option.some.injEq] at hb
      exact hb ▸ TokenBucket.spend_sound hsound.1 hsound.2 _
    · simp only [allowKeeping,Function.update_of_ne hkey] at hb
      exact h.sound key b hb
  · intro key b hb
    by_cases hkey : key = normalizedKey request.key
    · subst hkey
      simp only [allowKeeping,Function.update_self,Option.some.injEq] at hb
      exact ⟨request,by simp,rfl,by simp [← hb]⟩
    · simp only [allowKeeping,Function.update_of_ne hkey] at hb
      obtain ⟨r,hr,hrest⟩ := h.used key b hb
      exact ⟨r,by simp [hr],hrest⟩
  · intro later hlater key
    have hle : request.now ≤ later := hlater request (by simp)
    rw [hbuckets,Keyed.get_put]
    by_cases hkey : key = normalizedKey request.key
    · simp [allowKeeping,hkey]
    · rw [if_neg hkey,hheld,fresh_fresh hle]
      simp [allowKeeping,hkey]

theorem decisions_follow (h : Follows config history limiter buckets)
    (hbefore : ∀ r ∈ history, ∀ q ∈ requests, r.now ≤ q.now)
    (hordered : requests.Pairwise fun r q => r.now ≤ q.now)
    (hlive : ∀ before r later, requests = before ++ r :: later →
      (liveKeys config (history ++ before ++ [r]) r.now).card ≤ config.maxBuckets) :
    decisions (allow config) limiter requests = decisions (allowKeeping config) buckets requests := by
  induction requests generalizing history limiter buckets with
  | nil => rfl
  | cons r rest ih =>
    obtain ⟨hfirst,hrest⟩ := List.pairwise_cons.mp hordered
    obtain ⟨hreply,hnext⟩ := follows_allow h (fun q hq => hbefore q hq r (by simp))
      (by simpa using hlive [] r rest rfl)
    have htail := ih hnext (by
      intro q hq p hp
      rcases List.mem_append.mp hq with hq | hq
      · exact hbefore q hq p (by simp [hp])
      · rw [List.mem_singleton.mp hq]
        exact hfirst p hp) hrest (by
      intro before q later hsplit
      have hcard := hlive (r :: before) q later (by rw [hsplit]; rfl)
      simpa using hcard)
    simp only [decisions,hreply,htail]

/-- Discarding buckets is not seen. -/
theorem decisions_eq_keeping (hordered : requests.Pairwise fun r q => r.now ≤ q.now)
    (hlive : LiveWithin config requests) :
    decisions (allow config) .new requests =
      decisions (allowKeeping config) (fun _ => none) requests :=
  decisions_follow follows_new (by simp) hordered hlive

/-- Fewer requests than buckets may be held keep within them. -/
theorem liveWithin_of_length (h : requests.length ≤ config.maxBuckets) :
    LiveWithin config requests := by
  intro before r later hsplit
  have hlength : (before ++ [r]).length ≤ requests.length := by
    rw [hsplit]
    simp
  have hcard : (liveKeys config (before ++ [r]) r.now).card ≤ (before ++ [r]).length :=
    (List.toFinset_card_le _).trans (by
      rw [List.length_map]
      exact List.length_filter_le _ _)
  exact hcard.trans (hlength.trans h)

/-- The requests of one key are never more live buckets than one. -/
theorem liveWithin_key (config : AhubRateLimit) (requests : List RateRequest) (key : String) :
    LiveWithin config (requests.filter fun r => normalizedKey r.key = key) := by
  intro before r later hsplit
  have hkeys : liveKeys config (before ++ [r]) r.now ⊆ {key} := by
    intro k hk
    obtain ⟨q,hq,rfl⟩ := List.mem_map.mp (List.mem_toFinset.mp hk)
    have hmem : q ∈ requests.filter fun r => normalizedKey r.key = key := by
      have hin := (List.mem_filter.mp hq).1
      rw [hsplit]
      simp only [List.mem_append,List.mem_cons] at hin ⊢
      tauto
    simpa using (List.mem_filter.mp hmem).2
  exact (Finset.card_le_card hkeys).trans (by
    rw [Finset.card_singleton]
    exact config.maxBuckets_pos)

/-- A key's replies come from its own bucket. -/
theorem keeping_isolated (config : AhubRateLimit) (key : String) (requests : List RateRequest)
    {buckets alone : String → Option (TokenBucket ℚ)} (h : buckets key = alone key) :
    ((requests.zip (decisions (allowKeeping config) buckets requests)).filter fun e =>
        normalizedKey e.1.key = key).map Prod.snd =
      decisions (allowKeeping config) alone (requests.filter fun r => normalizedKey r.key = key) := by
  induction requests generalizing buckets alone with
  | nil => rfl
  | cons r rest ih =>
    by_cases hkey : normalizedKey r.key = key
    · subst hkey
      have hnext := @ih (allowKeeping config buckets r).2 (allowKeeping config alone r).2
        (by simp [allowKeeping,h])
      have hreply : (allowKeeping config buckets r).1 = (allowKeeping config alone r).1 := by
        simp only [allowKeeping,h]
      simp [decisions,hnext,hreply]
    · have hnext := @ih (allowKeeping config buckets r).2 alone (by
        simpa [allowKeeping,Function.update_of_ne (Ne.symm hkey)] using h)
      simp [decisions,hkey,hnext]

/-- What a window serves a key is what its bucket serves at the times of its requests. -/
theorem keeping_window (config : AhubRateLimit) (key : String) (start stop : ℚ)
    (requests : List RateRequest) (buckets : String → Option (TokenBucket ℚ)) :
    ((requests.zip (decisions (allowKeeping config) buckets requests)).filter fun e =>
        normalizedKey e.1.key = key ∧ start ≤ e.1.now ∧ e.1.now ≤ stop ∧ e.2.1).length =
      TokenBucket.servedIn (config.burst : ℚ) config.ratePerSecond start stop (buckets key)
        ((requests.filter fun r => normalizedKey r.key = key).map RateRequest.now) := by
  induction requests generalizing buckets with
  | nil => rfl
  | cons r rest ih =>
    have hnext := ih (allowKeeping config buckets r).2
    by_cases hkey : normalizedKey r.key = key
    · subst hkey
      have hreply : (allowKeeping config buckets r).1.1 = true ↔ TokenBucket.Serves
          (TokenBucket.found (config.burst : ℚ) config.ratePerSecond r.now
            (buckets (normalizedKey r.key))) := by
        simp only [allowKeeping,reply,TokenBucket.Serves]
        split_ifs with htokens <;> simp [htokens]
      have hbucket : (allowKeeping config buckets r).2 (normalizedKey r.key) =
          some (TokenBucket.spend (TokenBucket.found (config.burst : ℚ) config.ratePerSecond r.now
            (buckets (normalizedKey r.key))) r.now) := by
        simp [allowKeeping]
      rw [hbucket] at hnext
      simp only [decisions,List.zip_cons_cons,List.filter_cons,hreply,decide_true,if_true,
        List.map_cons,TokenBucket.servedIn,true_and]
      rw [← hnext]
      split_ifs with hin hin' hin'
      · simp [Nat.add_comm]
      · exact absurd (of_decide_eq_true hin) hin'
      · exact absurd (decide_eq_true hin') hin
      · simp
    · have hbucket : (allowKeeping config buckets r).2 key = buckets key := by
        simp [allowKeeping,Function.update_of_ne (Ne.symm hkey)]
      rw [hbucket] at hnext
      rw [List.filter_cons_of_neg (by simpa using hkey),← hnext]
      simp [decisions,hkey]

/-- In requests at times that never go back, with no more live buckets than may be held, a
key is allowed at most the burst and what the rate gives in any window; its replies are
those it would get alone; and no reply shows that idle buckets are discarded. Keys are
the same once they are cut to 512 characters and an empty one is named. -/
theorem rate_limit_decisions (config : AhubRateLimit) (requests : List RateRequest)
    (hordered : requests.Pairwise fun r q => r.now ≤ q.now) (hlive : LiveWithin config requests) :
    (∀ key start stop, start ≤ stop →
      (((requests.zip (decisions (allow config) .new requests)).filter fun e =>
        normalizedKey e.1.key = key ∧ start ≤ e.1.now ∧ e.1.now ≤ stop ∧ e.2.1).length : ℚ) ≤
        config.burst + config.ratePerSecond * (stop - start)) ∧
    (∀ key, ((requests.zip (decisions (allow config) .new requests)).filter fun e =>
        normalizedKey e.1.key = key).map Prod.snd =
      decisions (allow config) .new (requests.filter fun r => normalizedKey r.key = key)) ∧
    decisions (allow config) .new requests =
      decisions (allowKeeping config) (fun _ => none) requests := by
  have hkeeping := decisions_eq_keeping hordered hlive
  refine ⟨?_,?_,hkeeping⟩
  · intro key start stop hwindow
    rw [hkeeping,keeping_window]
    apply TokenBucket.servedIn_le (Nat.cast_nonneg _) config.ratePerSecond_pos.le hwindow
      (by simp)
    exact List.pairwise_map.mpr (hordered.sublist List.filter_sublist)
  · intro key
    rw [hkeeping,decisions_eq_keeping (hordered.sublist List.filter_sublist)
      (liveWithin_key config requests key)]
    exact keeping_isolated config key requests rfl

def sampleLimit : AhubRateLimit := ⟨60,1,10,by decide,by decide,by decide,by decide⟩

def sampleRequests : List RateRequest := [⟨"a",0⟩,⟨"b",0⟩,⟨"a",1/2⟩,⟨"a",1⟩]

theorem rate_limit_decisions_sample :
    (decisions (allow sampleLimit) .new sampleRequests).map Prod.fst = [true,true,false,true] ∧
      decisions (allow sampleLimit) .new sampleRequests =
        decisions (allowKeeping sampleLimit) (fun _ => none) sampleRequests := by
  have hordered : sampleRequests.Pairwise fun r q => r.now ≤ q.now := by decide +kernel
  have hlive : LiveWithin sampleLimit sampleRequests := liveWithin_of_length (by decide)
  exact ⟨by decide +kernel,(rate_limit_decisions sampleLimit sampleRequests hordered hlive).2.2⟩

/-- Keys that are not the same text can have one bucket: the empty key is the one that is
named. -/
theorem rate_limit_shared_key :
    ¬ ∀ (config : AhubRateLimit) (requests : List RateRequest),
      (requests.Pairwise fun r q => r.now ≤ q.now) → LiveWithin config requests →
      ∀ key, ((requests.zip (decisions (allow config) .new requests)).filter fun e =>
          e.1.key = key).map Prod.snd =
        decisions (allow config) .new (requests.filter fun r => r.key = key) := by
  intro hall
  have hlive : LiveWithin sampleLimit [⟨"",0⟩,⟨"unknown",0⟩] := liveWithin_of_length (by decide)
  have hshared := hall sampleLimit [⟨"",0⟩,⟨"unknown",0⟩] (by decide +kernel) hlive "unknown"
  revert hshared
  decide +kernel

end Anet.Hub
