import Anet.Friendship

/-! Friend codes: the compressed JSON text of an invite or an acceptance in a URL short enough for a
QR code, and the decoder that verifies what it reads. -/
namespace Anet.Friendship

open RelationshipClaims (ClaimLibrary ReadLaws cardDict cardFromDict bytesField expectFields
  expectFields_of_keys)

/-- What the codes use of `zlib`, `json` and `urllib` besides: the output of a decompressor with a
limit, whether the stream ended in it and what is left, and the JSON text that is read. -/
structure FriendLibrary extends ClaimLibrary where
  compress : Bytes → Bytes
  decompress : Bytes → ℕ → Result (Bytes × Bool × Bytes)
  loads : Bytes → Result Value
  checkNetloc : List Char → Result Unit

def friendQrScheme : String := "anet"
def friendQrHost : String := "friend"
def maxQrTextBytes : ℕ := 4096
def maxQrObjectBytes : ℕ := 32 * 1024

def keyText : Value → String
  | .str s => s
  | _ => ""

mutual

/-- The value with the entries of every dictionary in the order of their keys. -/
def sortedKeys : Value → Value
  | .map entries =>
    .map ((sortedEntries entries).insertionSort fun a b => keyText a.1 ≤ keyText b.1)
  | .list items => .list (sortedItems items)
  | .nil => .nil
  | .bool b => .bool b
  | .int i => .int i
  | .float bits => .float bits
  | .str s => .str s
  | .bin b => .bin b

def sortedItems : List Value → List Value
  | [] => []
  | v :: vs => sortedKeys v :: sortedItems vs

def sortedEntries : List (Value × Value) → List (Value × Value)
  | [] => []
  | (k,v) :: es => (k,sortedKeys v) :: sortedEntries es

end

/-- A character in a JSON text that keeps what is not ASCII. -/
def jsonChar (c : Char) : List Char :=
  if c = '"' then ['\\','"']
  else if c = '\\' then ['\\','\\']
  else if c = '\n' then ['\\','n']
  else if c = '\r' then ['\\','r']
  else if c = '\t' then ['\\','t']
  else if c.toNat = 12 then ['\\','f']
  else if c.toNat = 8 then ['\\','b']
  else if c.toNat < 32 then
    ['\\','u','0','0',Nat.digitChar (c.toNat / 16),Nat.digitChar (c.toNat % 16)]
  else [c]

def jsonString (s : String) : List Char := '"' :: s.toList.flatMap jsonChar ++ ['"']

/-- Members with a comma between them. -/
def joined : List (List Char) → List Char
  | [] => []
  | [x] => x
  | x :: xs => x ++ ',' :: joined xs

mutual

/-- The compact JSON text of a value in its order; no object here holds bytes or floats. -/
def jsonChars : Value → List Char
  | .nil => ['n','u','l','l']
  | .bool b => if b then ['t','r','u','e'] else ['f','a','l','s','e']
  | .int i => (toString i).toList
  | .str s => jsonString s
  | .list items => '[' :: joined (jsonItemTexts items) ++ [']']
  | .map entries => '\x7b' :: joined (jsonEntryTexts entries) ++ ['\x7d']
  | .float _ => []
  | .bin _ => []

def jsonItemTexts : List Value → List (List Char)
  | [] => []
  | v :: vs => jsonChars v :: jsonItemTexts vs

def jsonEntryTexts : List (Value × Value) → List (List Char)
  | [] => []
  | (k,v) :: es => (jsonString (keyText k) ++ ':' :: jsonChars v) :: jsonEntryTexts es

end

/-- `json.dumps` with sorted keys, as UTF-8. -/
def dumps (v : Value) : Bytes := (jsonChars (sortedKeys v)).flatMap String.utf8EncodeChar

structure SplitResult where
  scheme : List Char
  netloc : List Char
  path : List Char
  query : List Char
  fragment : List Char

def isSchemeChar (c : Char) : Bool := isAlpha c || isDigit c || c = '+' || c = '-' || c = '.'

/-- The scheme of a URL, in lower case, and what follows it. -/
def splitScheme (url : List Char) : List Char × List Char :=
  let scheme := url.takeWhile (· ≠ ':')
  if ':' ∈ url ∧ (scheme.head?.any isAlpha) ∧ scheme.all isSchemeChar then
    (scheme.map Char.toLower,url.drop (scheme.length + 1))
  else ([],url)

/-- The part before a character, and the part after it where it occurs. -/
def cutAt (c : Char) (cs : List Char) : List Char × List Char :=
  (cs.takeWhile (· ≠ c),cs.drop ((cs.takeWhile (· ≠ c)).length + 1))

/-- `urlsplit`: control characters and spaces in front and line breaks anywhere are dropped, and the
network location is checked where it has brackets or is not ASCII. -/
def urlsplit (lib : FriendLibrary) (url : List Char) : Result SplitResult := do
  let clean := (url.dropWhile fun c => c.toNat ≤ 32).filter
    fun c => c ≠ '\t' ∧ c ≠ '\r' ∧ c ≠ '\n'
  let (scheme,rest) := splitScheme clean
  let (netloc,rest) := if ['/','/'].isPrefixOf rest then
      ((rest.drop 2).takeWhile fun c => c ≠ '/' ∧ c ≠ '?' ∧ c ≠ '#',
        (rest.drop 2).dropWhile fun c => c ≠ '/' ∧ c ≠ '?' ∧ c ≠ '#')
    else ([],rest)
  let (rest,fragment) := cutAt '#' rest
  let (path,query) := cutAt '?' rest
  if netloc.all fun c => c.toNat < 128 ∧ c ≠ '[' ∧ c ≠ ']' then .ok () else lib.checkNetloc netloc
  return ⟨scheme,netloc,path,query,fragment⟩

/-- `strip("/")`. -/
def stripSlashes (cs : List Char) : List Char :=
  ((cs.dropWhile (· = '/')).reverse.dropWhile (· = '/')).reverse

inductive FriendCode
  | invite (i : FriendInvite) | acceptance (a : FriendAcceptance)
  deriving DecidableEq

namespace FriendCode

def toDict : FriendCode → Value
  | .invite i => i.toDict
  | .acceptance a => a.toDict

def verify (lib : ClaimLibrary) (x : FriendCode) (now : ℤ) : Result Unit :=
  match x with
  | .invite i => i.verify lib now
  | .acceptance a => a.verify lib now

def kind : FriendCode → String
  | .invite _ => "invite"
  | .acceptance _ => "acceptance"

/-- What the signatures of the parts cover, and how the parts are bound. -/
def Signed (lib : ClaimLibrary) : FriendCode → Prop
  | .invite i => InviteSigned lib i
  | .acceptance a => AcceptanceSigned lib a

end FriendCode

def codeText (kind payload : String) : String :=
  friendQrScheme ++ "://" ++ friendQrHost ++ "/v1/" ++ kind ++ "/" ++ payload

def encodeFriendCode (lib : FriendLibrary) (x : FriendCode) : Result String := do
  let text := codeText x.kind (b64e (lib.compress (dumps x.toDict)))
  raiseIf (maxQrTextBytes < (utf8 text).length) (.value "friend code exceeds the QR payload limit")
  return text

/-- The object in the payload of a code. -/
def unpackPayload (lib : FriendLibrary) (payload : String) : Result Bytes := do
  let compressed ← fetched (b64d payload) (.value "invalid compressed friend code")
  let (unpacked,ended,unused) ← fetched
    (lib.decompress compressed (maxQrObjectBytes + 1)).toOption
    (.value "invalid compressed friend code")
  raiseIf (ended = false ∨ unused ≠ []) (.value "invalid compressed friend code")
  return unpacked

def readObject (lib : ClaimLibrary) (kind : String) (fields : List (Value × Value)) :
    Result FriendCode :=
  if kind = "invite" then (FriendInvite.fromDict lib fields).map .invite
  else (FriendAcceptance.fromDict lib fields).map .acceptance

/-- The object of a kind in the payload of a code, verified. -/
def readPayload (lib : FriendLibrary) (kind payload : String) (now : ℤ) : Result FriendCode := do
  let unpacked ← unpackPayload lib payload
  raiseIf (maxQrObjectBytes < unpacked.length)
    (.value "friend code object exceeds the decoded limit")
  let value ← lib.loads unpacked
  let fields ← fetched value.asMap (.value "friend code object must be a JSON object")
  let result ← readObject lib.toClaimLibrary kind fields
  result.verify lib.toClaimLibrary now
  return result

def decodeFriendCode (lib : FriendLibrary) (text : String) (now : ℤ) : Result FriendCode := do
  let rawText := strip text
  raiseIf (maxQrTextBytes < (utf8 rawText).length)
    (.value "friend code exceeds the QR payload limit")
  let parsed ← urlsplit lib rawText.toList
  let parts := ((stripSlashes parsed.path).splitOn '/').map String.ofList
  raiseIf (parsed.scheme ≠ friendQrScheme.toList ∨ parsed.netloc ≠ friendQrHost.toList ∨
      parts.length ≠ 3 ∨ parts.getD 0 "" ≠ "v1" ∨
      parts.getD 1 "" ∉ ["invite","acceptance"] ∨ parsed.query ≠ [] ∨ parsed.fragment ≠ [])
    (.value "invalid Anet friend code")
  readPayload lib (parts.getD 1 "") (parts.getD 2 "") now

/-- How the decompressor and the JSON reader answer on the output of the encoder: a stream whose
text fits under the limit is read to its end, and one that does not gives the limit at most. -/
structure CodecLaws (lib : FriendLibrary) (x : FriendCode) : Prop where
  reads : ReadLaws lib.rt
  compress_ne : ∀ raw, lib.compress raw ≠ []
  inverts : ∀ raw limit, raw.length < limit →
    lib.decompress (lib.compress raw) limit = .ok (raw,true,[])
  limits : ∀ raw limit out ended unused, limit ≤ raw.length →
    lib.decompress (lib.compress raw) limit = .ok (out,ended,unused) → out = raw.take limit
  loads_dumps : lib.loads (dumps x.toDict) = .ok (sortedKeys x.toDict)

section Texts

variable {lib : FriendLibrary} {cs payload : List Char}

/-- A character that a URL keeps and that separates nothing. -/
def isPlain (c : Char) : Bool :=
  32 < c.toNat && c ≠ '#' && c ≠ '?' && c ≠ '/' && isPySpace c = false

theorem sextetChar_plain {n : ℕ} (h : n < 64) : isPlain (sextetChar n) := by
  have hall : ∀ m : Fin 64, isPlain (sextetChar m) := by decide +kernel
  exact hall ⟨n,h⟩

theorem b64e_plain (raw : Bytes) : ∀ c ∈ (b64e raw).toList, isPlain c := by
  intro c hc
  rw [b64e,String.toList_ofList] at hc
  obtain ⟨n,hn,rfl⟩ := b64Chars_mem raw c hc
  exact sextetChar_plain hn

theorem b64e_ne {raw : Bytes} (h : raw ≠ []) : (b64e raw).toList ≠ [] := by
  rw [b64e,String.toList_ofList]
  rcases raw with _ | ⟨a,_ | ⟨b,_ | ⟨c,rest⟩⟩⟩
  · exact absurd rfl h
  · simp [b64Chars]
  · simp [b64Chars]
  · simp [b64Chars]

theorem kind_plain (x : FriendCode) : ∀ c ∈ x.kind.toList, isPlain c := by
  have hall : ∀ kind ∈ ["invite","acceptance"], ∀ c ∈ kind.toList, isPlain c := by
    simp [isPlain,isPySpace]
  cases x with
  | invite i => exact hall "invite" (by simp)
  | acceptance a => exact hall "acceptance" (by simp)

def codePrefix : List Char := "anet://friend".toList

theorem codePrefix_eq : codePrefix =
    ['a','n','e','t',':','/','/','f','r','i','e','n','d'] := by
  decide

theorem codeText_toList (kind payload : String) : (codeText kind payload).toList =
    codePrefix ++ '/' :: ('v' :: '1' :: '/' :: (kind.toList ++ '/' :: payload.toList)) := by
  have hstart : (friendQrScheme ++ "://" ++ friendQrHost ++ "/v1/").toList =
      codePrefix ++ ['/','v','1','/'] := by decide
  unfold codeText
  rw [String.toList_append,String.toList_append,String.toList_append,hstart]
  simp

theorem cutAt_none {c : Char} (h : c ∉ cs) : cutAt c cs = (cs,[]) := by
  have hall : cs.takeWhile (· ≠ c) = cs := by
    apply List.takeWhile_eq_self_iff.mpr
    intro d hd
    have hne : d ≠ c := fun heq => h (heq ▸ hd)
    simpa using hne
  unfold cutAt
  rw [hall]
  simp

/-- A code splits into its scheme, its host and its path. -/
theorem urlsplit_code (h : ∀ c ∈ cs, 32 < c.toNat ∧ c ≠ '#' ∧ c ≠ '?') :
    urlsplit lib (codePrefix ++ '/' :: cs) =
      .ok ⟨friendQrScheme.toList,friendQrHost.toList,'/' :: cs,[],[]⟩ := by
  have hscheme : friendQrScheme.toList = ['a','n','e','t'] := by decide
  have hhost : friendQrHost.toList = ['f','r','i','e','n','d'] := by decide
  have hkept : ∀ c ∈ cs, ¬ c = '\t' ∧ ¬ c = '\r' ∧ ¬ c = '\n' := by
    intro c hc
    have hlow := (h c hc).1
    have hne : ∀ d : Char, d.toNat ≤ 32 → c ≠ d := by
      rintro d hd rfl
      omega
    exact ⟨hne '\t' (by decide),hne '\r' (by decide),hne '\n' (by decide)⟩
  have hclean : ((codePrefix ++ '/' :: cs).dropWhile fun c => c.toNat ≤ 32).filter
      (fun c => c ≠ '\t' ∧ c ≠ '\r' ∧ c ≠ '\n') = codePrefix ++ '/' :: cs := by
    rw [codePrefix_eq,List.cons_append,List.dropWhile_cons_of_neg (by decide)]
    simp only [List.cons_append,List.nil_append]
    simpa using hkept
  have hsplit : splitScheme (codePrefix ++ '/' :: cs) =
      (['a','n','e','t'],'/' :: '/' :: 'f' :: 'r' :: 'i' :: 'e' :: 'n' :: 'd' :: '/' :: cs) := by
    rw [codePrefix_eq]
    simp [splitScheme,isSchemeChar,isAlpha]
  have hhash : '#' ∉ '/' :: cs := by
    simp only [List.mem_cons,not_or]
    exact ⟨by decide,fun hmem => (h _ hmem).2.1 rfl⟩
  have hquery : '?' ∉ '/' :: cs := by
    simp only [List.mem_cons,not_or]
    exact ⟨by decide,fun hmem => (h _ hmem).2.2 rfl⟩
  unfold urlsplit
  rw [hclean]
  dsimp only
  rw [hsplit,hscheme,hhost]
  simp [cutAt_none hhash,cutAt_none hquery,bind,Except.bind,pure,Except.pure]

theorem stripSlashes_path {front : List Char} (hne : payload ≠ [])
    (hplain : ∀ c ∈ payload, isPlain c) :
    stripSlashes ('/' :: 'v' :: (front ++ payload)) = 'v' :: (front ++ payload) := by
  obtain ⟨init,c,rfl⟩ := (List.eq_nil_or_concat' payload).resolve_left hne
  have hc : c ≠ '/' := by
    rintro rfl
    exact absurd (hplain '/' (by simp)) (by decide)
  have hfirst : ('/' :: 'v' :: (front ++ (init ++ [c]))).dropWhile (· = '/') =
      'v' :: (front ++ (init ++ [c])) := by
    simp
  have hlast : ('v' :: (front ++ (init ++ [c]))).reverse.dropWhile (· = '/') =
      ('v' :: (front ++ (init ++ [c]))).reverse := by
    have hreverse : ('v' :: (front ++ (init ++ [c]))).reverse =
        c :: ('v' :: (front ++ init)).reverse := by simp
    rw [hreverse,List.dropWhile_cons_of_neg (by simpa using hc)]
  unfold stripSlashes
  rw [hfirst,hlast,List.reverse_reverse]

/-- The parts of the path of a code. -/
theorem code_parts {kind payload : String} (hkind : ∀ c ∈ kind.toList, isPlain c)
    (hne : payload.toList ≠ []) (hplain : ∀ c ∈ payload.toList, isPlain c) :
    ((stripSlashes ('/' :: 'v' :: '1' :: '/' :: (kind.toList ++ '/' :: payload.toList))).splitOn
      '/').map String.ofList = ["v1",kind,payload] := by
  have hnone : ∀ l : List Char, (∀ c ∈ l, isPlain c) → '/' ∉ l := by
    intro l hl hmem
    exact absurd (hl '/' hmem) (by decide)
  have hpath : '/' :: 'v' :: '1' :: '/' :: (kind.toList ++ '/' :: payload.toList) =
      '/' :: 'v' :: (('1' :: '/' :: (kind.toList ++ ['/'])) ++ payload.toList) := by simp
  have hstart : (['v','1'] ++ '/' :: (kind.toList ++ '/' :: payload.toList)).splitOn '/' =
      ['v','1'] :: (kind.toList ++ '/' :: payload.toList).splitOn '/' :=
    List.splitOn_append_cons_self_of_not_mem (by decide) _
  have hstripped : 'v' :: (('1' :: '/' :: (kind.toList ++ ['/'])) ++ payload.toList) =
      ['v','1'] ++ '/' :: (kind.toList ++ '/' :: payload.toList) := by simp
  rw [hpath,stripSlashes_path hne hplain,hstripped,hstart,
    List.splitOn_append_cons_self_of_not_mem (hnone _ hkind),
    List.splitOn_eq_singleton (hnone _ hplain)]
  have hversion : String.ofList ['v','1'] = "v1" := by decide
  simp [hversion]

end Texts

section Objects

variable {lib : ClaimLibrary}

theorem sortedItems_str (l : List String) : sortedItems (l.map .str) = l.map .str := by
  induction l with
  | nil => rfl
  | cons s l ih =>
    rw [List.map_cons,sortedItems,sortedKeys,ih]

theorem cardFromDict_sorted (laws : ReadLaws lib.rt) {card : PeerCard}
    (hverify : card.verify lib.rt lib.crypto lib.urls = .ok ()) :
    cardFromDict lib (sortedKeys (cardDict card)) = .ok card := by
  simp [cardFromDict,cardDict,sortedKeys,sortedEntries,sortedItems_str,List.insertionSort,
    List.orderedInsert,keyText,laws.dict_map,laws.int_int,laws.list_list,laws.str_text,
    Packet.need,Value.fieldOr,RelationshipClaims.bytesField_b64e laws,
    RelationshipClaims.map_str laws,hverify,bind,Except.bind,pure,Except.pure]

/-- Reading an offer in its sorted dictionary. -/
theorem offer_roundTrip (laws : ReadLaws lib.rt) {o : PairOffer} (h : OfferSigned lib o) :
    ∃ fields, sortedKeys o.toDict = .map fields ∧ PairOffer.fromDict lib fields = .ok o := by
  simp [PairOffer.fromDict,PairOffer.toDict,sortedKeys,sortedEntries,List.insertionSort,
    List.orderedInsert,keyText,laws.int_int,laws.str_text,Packet.need,Value.fieldOr,
    RelationshipClaims.bytesField_b64e laws,cardFromDict_sorted laws h.card,bind,Except.bind,pure,
    Except.pure]

theorem response_roundTrip (laws : ReadLaws lib.rt) {r : PairResponse} {o : PairOffer}
    (h : ResponseSigned lib r o) :
    ∃ fields, sortedKeys r.toDict = .map fields ∧ PairResponse.fromDict lib fields = .ok r := by
  simp [PairResponse.fromDict,PairResponse.toDict,sortedKeys,sortedEntries,List.insertionSort,
    List.orderedInsert,keyText,laws.int_int,laws.str_text,Packet.need,Value.fieldOr,
    RelationshipClaims.bytesField_b64e laws,cardFromDict_sorted laws h.card,bind,Except.bind,pure,
    Except.pure]

theorem invite_roundTrip (laws : ReadLaws lib.rt) {i : FriendInvite} (h : InviteSigned lib i) :
    ∃ fields, sortedKeys i.toDict = .map fields ∧ FriendInvite.fromDict lib fields = .ok i := by
  obtain ⟨offerFields,hoffer,hread⟩ := offer_roundTrip laws h.offer
  refine ⟨[(.str "offer",.map offerFields),(.str "relationship",.str i.relationship),
    (.str "signature",.str (b64e i.signature)),(.str "type",.str i.objectType),
    (.str "version",.int i.version)],?_,?_⟩
  · simp [FriendInvite.toDict,sortedKeys,sortedEntries,hoffer,List.insertionSort,List.orderedInsert,
      keyText]
  · unfold FriendInvite.fromDict
    rw [expectFields_of_keys ["offer","relationship","signature","type","version"] rfl (by decide)]
    simp [hread,laws.int_int,laws.str_text,laws.dict_map,Packet.need,Value.fieldOr,
      RelationshipClaims.bytesField_b64e laws,bind,Except.bind,pure,Except.pure]

theorem acceptance_roundTrip (laws : ReadLaws lib.rt) {a : FriendAcceptance}
    (h : AcceptanceSigned lib a) :
    ∃ fields, sortedKeys a.toDict = .map fields ∧
      FriendAcceptance.fromDict lib fields = .ok a := by
  obtain ⟨inviteFields,hinvite,hreadInvite⟩ := invite_roundTrip laws h.invite
  obtain ⟨responseFields,hresponse,hreadResponse⟩ := response_roundTrip laws h.response
  refine ⟨[(.str "invite",.map inviteFields),(.str "invite_digest",.str (b64e a.inviteDigest)),
    (.str "relationship",.str a.relationship),(.str "response",.map responseFields),
    (.str "signature",.str (b64e a.signature)),(.str "type",.str a.objectType),
    (.str "version",.int a.version)],?_,?_⟩
  · simp [FriendAcceptance.toDict,sortedKeys,sortedEntries,hinvite,hresponse,List.insertionSort,
      List.orderedInsert,keyText]
  · unfold FriendAcceptance.fromDict
    rw [expectFields_of_keys ["invite","invite_digest","relationship","response","signature","type",
      "version"] rfl (by decide)]
    simp [hreadInvite,hreadResponse,laws.int_int,laws.str_text,laws.dict_map,Packet.need,
      Value.fieldOr,RelationshipClaims.bytesField_b64e laws,bind,Except.bind,pure,
      Except.pure]

end Objects

variable {lib : FriendLibrary} {x : FriendCode} {text : String} {now : ℤ}

/-- A code with a payload is read as that payload. -/
theorem decode_code {raw : Bytes} (hne : raw ≠ [])
    (hsize : (utf8 (codeText x.kind (b64e raw))).length ≤ maxQrTextBytes) :
    decodeFriendCode lib (codeText x.kind (b64e raw)) now =
      readPayload lib x.kind (b64e raw) now := by
  have hplain := b64e_plain raw
  have hkind := kind_plain x
  have htail : ∀ c ∈ 'v' :: '1' :: '/' :: (x.kind.toList ++ '/' :: (b64e raw).toList),
      (32 < c.toNat ∧ c ≠ '#' ∧ c ≠ '?') ∧ isPySpace c = false := by
    have hall : ∀ c, isPlain c ∨ c = '/' →
        (32 < c.toNat ∧ c ≠ '#' ∧ c ≠ '?') ∧ isPySpace c = false := by
      rintro c (h | rfl)
      · simp only [isPlain,Bool.and_eq_true,decide_eq_true_eq] at h
        exact ⟨⟨h.1.1.1.1,h.1.1.1.2,h.1.1.2⟩,h.2⟩
      · decide
    intro c hc
    apply hall
    simp only [List.mem_cons,List.mem_append] at hc
    rcases hc with rfl | rfl | rfl | hc | rfl | hc
    · exact .inl (by decide)
    · exact .inl (by decide)
    · exact .inr rfl
    · exact .inl (hkind c hc)
    · exact .inr rfl
    · exact .inl (hplain c hc)
  have hstrip : strip (codeText x.kind (b64e raw)) = codeText x.kind (b64e raw) := by
    apply strip_none
    intro c hc
    rw [codeText_toList] at hc
    rcases List.mem_append.mp hc with hc | hc
    · have hprefix : ∀ d ∈ codePrefix, isPySpace d = false := by
        rw [codePrefix_eq]
        simp [isPySpace]
      exact hprefix c hc
    · rcases List.mem_cons.mp hc with rfl | hc
      · decide
      · exact (htail c hc).2
  unfold decodeFriendCode
  rw [hstrip]
  dsimp only
  rw [codeText_toList,urlsplit_code fun c hc => (htail c hc).1]
  simp only [bind,Except.bind]
  rw [code_parts hkind (b64e_ne hne) hplain]
  have hmember : x.kind = "invite" ∨ x.kind = "acceptance" := by
    cases x
    · exact .inl rfl
    · exact .inr rfl
  simp [raiseIf,Nat.not_lt.mpr hsize,hmember]

theorem verify_signed (h : x.verify lib.toClaimLibrary now = .ok ()) :
    x.Signed lib.toClaimLibrary := by
  cases x with
  | invite i => exact invite_signed h
  | acceptance a => exact acceptance_signed h

/-- A payload whose text fits under the limit is read as the object it was written for. -/
theorem readPayload_small (laws : CodecLaws lib x) (hverify : x.verify lib.toClaimLibrary now = .ok ())
    (hsmall : (dumps x.toDict).length ≤ maxQrObjectBytes) :
    readPayload lib x.kind (b64e (lib.compress (dumps x.toDict))) now = .ok x := by
  have hunpack : unpackPayload lib (b64e (lib.compress (dumps x.toDict))) = .ok (dumps x.toDict) := by
    simp [unpackPayload,b64d_b64e,laws.inverts _ _ (Nat.lt_succ_of_le hsmall),fetched,raiseIf,
      Except.toOption,bind,Except.bind,pure,Except.pure]
  have hsigned := verify_signed hverify
  cases x with
  | invite i =>
    obtain ⟨fields,hdict,hread⟩ := invite_roundTrip laws.reads hsigned
    have hloads : lib.loads (dumps (FriendCode.invite i).toDict) = .ok (.map fields) :=
      laws.loads_dumps.trans (congrArg Except.ok hdict)
    unfold readPayload
    refine bind_ok.mpr ⟨_,hunpack,bind_ok.mpr ⟨(),?_,bind_ok.mpr ⟨_,hloads,bind_ok.mpr ⟨fields,rfl,
      bind_ok.mpr ⟨.invite i,?_,bind_ok.mpr ⟨(),hverify,rfl⟩⟩⟩⟩⟩⟩
    · exact raiseIf_ok.mpr (Nat.not_lt.mpr hsmall)
    · have hkind : (FriendCode.invite i).kind = "invite" := rfl
      unfold readObject
      rw [if_pos hkind,hread]
      rfl
  | acceptance a =>
    obtain ⟨fields,hdict,hread⟩ := acceptance_roundTrip laws.reads hsigned
    have hloads : lib.loads (dumps (FriendCode.acceptance a).toDict) = .ok (.map fields) :=
      laws.loads_dumps.trans (congrArg Except.ok hdict)
    unfold readPayload
    refine bind_ok.mpr ⟨_,hunpack,bind_ok.mpr ⟨(),?_,bind_ok.mpr ⟨_,hloads,bind_ok.mpr ⟨fields,rfl,
      bind_ok.mpr ⟨.acceptance a,?_,bind_ok.mpr ⟨(),hverify,rfl⟩⟩⟩⟩⟩⟩
    · exact raiseIf_ok.mpr (Nat.not_lt.mpr hsmall)
    · have hkind : ¬ (FriendCode.acceptance a).kind = "invite" := by
        show ¬ "acceptance" = "invite"
        decide
      unfold readObject
      rw [if_neg hkind,hread]
      rfl

/-- A payload whose text does not fit under the limit is refused. -/
theorem readPayload_large (laws : CodecLaws lib x) {y : FriendCode}
    (h : readPayload lib x.kind (b64e (lib.compress (dumps x.toDict))) now = .ok y) :
    (dumps x.toDict).length ≤ maxQrObjectBytes := by
  by_contra hlarge
  simp only [readPayload,unpackPayload,bind_ok,fetched_ok,raiseIf_ok,b64d_b64e] at h
  obtain ⟨unpacked,⟨compressed,hcompressed,⟨out,ended,unused⟩,hout,_,-,hunpacked⟩,_,hfits,-⟩ := h
  cases hcompressed
  cases hunpacked
  have htake := laws.limits _ _ _ _ _ (Nat.lt_of_not_le hlarge) (toOption_eq_some.mp hout)
  rw [htake,List.length_take] at hfits
  omega

/-- What the decoder accepts verifies. -/
theorem decode_verifies (h : decodeFriendCode lib text now = .ok x) :
    x.verify lib.toClaimLibrary now = .ok () := by
  simp only [decodeFriendCode,readPayload,bind_ok] at h
  obtain ⟨_,_,_,_,_,_,_,_,_,_,_,_,_,_,result,_,_,hverify,hresult⟩ := h
  cases hresult
  exact hverify

/-- A code of an object that verifies is read back if and only if the JSON text of the object fits in
the limit of the decoder; what the decoder accepts is signed, in all its parts and as a whole; and
one response is accepted only with invites whose offers have one digest. -/
theorem friend_code_roundTrip (lib : FriendLibrary) :
    (∀ (x : FriendCode) (now : ℤ) (text : String), CodecLaws lib x →
      x.verify lib.toClaimLibrary now = .ok () → encodeFriendCode lib x = .ok text →
        (decodeFriendCode lib text now = .ok x ↔ (dumps x.toDict).length ≤ maxQrObjectBytes)) ∧
      (∀ (code : String) (now : ℤ) (y : FriendCode), decodeFriendCode lib code now = .ok y →
        y.Signed lib.toClaimLibrary) ∧
      ∀ (code code' : String) (now now' : ℤ) (a a' : FriendAcceptance),
        decodeFriendCode lib code now = .ok (.acceptance a) →
        decodeFriendCode lib code' now' = .ok (.acceptance a') → a.response = a'.response →
        a.invite.offer.digest lib.toClaimLibrary = a'.invite.offer.digest lib.toClaimLibrary := by
  have hsigned : ∀ (code : String) (now : ℤ) (y : FriendCode),
      decodeFriendCode lib code now = .ok y → y.Signed lib.toClaimLibrary :=
    fun code now y hcode => verify_signed (decode_verifies hcode)
  refine ⟨fun x now text laws hverify hencode => ?_,hsigned,
    fun code code' now now' a a' hcode hcode' hresponse => ?_⟩
  · simp only [encodeFriendCode,bind_ok,raiseIf_ok] at hencode
    obtain ⟨_,hsize,htext⟩ := hencode
    cases htext
    rw [decode_code (laws.compress_ne _) (Nat.not_lt.mp hsize)]
    exact ⟨readPayload_large laws,readPayload_small laws hverify⟩
  · have ha : AcceptanceSigned lib.toClaimLibrary a := hsigned _ _ _ hcode
    have ha' : AcceptanceSigned lib.toClaimLibrary a' := hsigned _ _ _ hcode'
    exact ha.same_offer ha' hresponse

section Sizes

theorem joined_le {x : List Char} {xs : List (List Char)} (h : x ∈ xs) :
    x.length ≤ (joined xs).length := by
  induction xs with
  | nil => cases h
  | cons y ys ih =>
    cases ys with
    | nil =>
      obtain rfl := List.mem_singleton.mp h
      exact le_rfl
    | cons z zs =>
      rw [joined,List.length_append,List.length_cons]
      rcases List.mem_cons.mp h with rfl | h
      · omega
      · have := ih h
        omega
      · simp

theorem jsonEntryTexts_le {k v : Value} {entries : List (Value × Value)} (h : (k,v) ∈ entries) :
    ∃ text ∈ jsonEntryTexts entries, (jsonChars v).length ≤ text.length := by
  induction entries with
  | nil => cases h
  | cons e es ih =>
    obtain ⟨k',v'⟩ := e
    rcases List.mem_cons.mp h with heq | h
    · cases heq
      refine ⟨_,List.mem_cons_self ..,?_⟩
      rw [List.length_append,List.length_cons]
      omega
    · obtain ⟨text,hmem,hle⟩ := ih h
      exact ⟨text,List.mem_cons_of_mem _ hmem,hle⟩

theorem mem_sortedEntries {k v : Value} {entries : List (Value × Value)} (h : (k,v) ∈ entries) :
    (k,sortedKeys v) ∈ sortedEntries entries := by
  induction entries with
  | nil => cases h
  | cons e es ih =>
    obtain ⟨k',v'⟩ := e
    rw [sortedEntries]
    rcases List.mem_cons.mp h with heq | h
    · cases heq
      exact List.mem_cons_self ..
    · exact List.mem_cons_of_mem _ (ih h)

/-- The text of a dictionary is at least as long as that of each of its values. -/
theorem json_member_le {k v : Value} {entries : List (Value × Value)} (h : (k,v) ∈ entries) :
    (jsonChars (sortedKeys v)).length ≤ (jsonChars (sortedKeys (.map entries))).length := by
  have hmem : (k,sortedKeys v) ∈ (sortedEntries entries).insertionSort
      fun a b => keyText a.1 ≤ keyText b.1 :=
    (List.mem_insertionSort _).mpr (mem_sortedEntries h)
  obtain ⟨text,htext,hle⟩ := jsonEntryTexts_le hmem
  have hjoined := joined_le htext
  rw [sortedKeys,jsonChars,List.length_append,List.length_cons]
  omega

theorem le_length_flatMap {α β : Type} {f : α → List β} (hf : ∀ a, f a ≠ []) (l : List α) :
    l.length ≤ (l.flatMap f).length := by
  induction l with
  | nil => simp
  | cons a l ih =>
    have hpos := List.length_pos_iff.mpr (hf a)
    rw [List.flatMap_cons,List.length_append,List.length_cons]
    omega

theorem jsonChar_ne (c : Char) : jsonChar c ≠ [] := by
  unfold jsonChar
  repeat' split
  all_goals exact List.cons_ne_nil _ _

theorem jsonString_le (s : String) : s.toList.length ≤ (jsonString s).length := by
  have hle := le_length_flatMap jsonChar_ne s.toList
  rw [jsonString,List.length_append,List.length_cons]
  omega

theorem utf8EncodeChar_ne (c : Char) : String.utf8EncodeChar c ≠ [] := by
  unfold String.utf8EncodeChar
  dsimp only
  split_ifs <;> simp

/-- The text of an invite is at least as long as the label on its card. -/
theorem label_le_dumps (i : FriendInvite) :
    i.offer.card.label.toList.length ≤ (dumps i.toDict).length := by
  have hcard : (jsonChars (sortedKeys (.str i.offer.card.label))).length ≤
      (jsonChars (sortedKeys (cardDict i.offer.card))).length :=
    json_member_le (k := .str "label") (by simp)
  have hoffer : (jsonChars (sortedKeys (cardDict i.offer.card))).length ≤
      (jsonChars (sortedKeys i.offer.toDict)).length :=
    json_member_le (k := .str "card") (by simp)
  have hinvite : (jsonChars (sortedKeys i.offer.toDict)).length ≤
      (jsonChars (sortedKeys i.toDict)).length :=
    json_member_le (k := .str "offer") (by simp)
  have hlabel := jsonString_le i.offer.card.label
  have hbytes : (jsonChars (sortedKeys i.toDict)).length ≤ (dumps i.toDict).length :=
    le_length_flatMap utf8EncodeChar_ne _
  rw [sortedKeys,jsonChars] at hcard
  omega

end Sizes

section Sample

/-- The card of a node with a label, under keys that always verify. -/
def friendCard (label : String) : PeerCard := ⟨"an1",[1],[2],label,[],[],1,[1],cardVersion⟩

def friendOffer (label : String) : PairOffer :=
  ⟨"00000000000000000000000000000000",friendCard label,1000,601000,[1],pairingVersion,offerType⟩

/-- An invite at 1000 whose card has a label. -/
def labelledInvite (label : String) : FriendCode :=
  .invite ⟨friendOffer label,[1],friendRelationship,friendshipVersion,friendInviteType⟩

/-- A library that compresses one text to a byte, and sets a byte before any other. -/
def friendLibrary (label : String) : FriendLibrary where
  rt := .plain fun _ => .error (.value "no reader")
  crypto := { plainCrypto with
    verify := fun _ _ _ => .ok ()
    deriveNodeId := fun _ _ => "an1" }
  urls := plainUrls
  sha256 := fun b => b
  compress raw := if raw = dumps (labelledInvite label).toDict then [1] else 0 :: raw
  decompress packed limit :=
    match packed with
    | 0 :: raw => .ok (raw.take limit,true,[])
    | _ => .ok ((dumps (labelledInvite label).toDict).take limit,true,[])
  loads _ := .ok (sortedKeys (labelledInvite label).toDict)
  checkNetloc _ := .error (.value "invalid netloc")

theorem friendLibrary_laws (label : String) :
    CodecLaws (friendLibrary label) (labelledInvite label) where
  reads := ⟨fun _ => rfl,fun _ => rfl,fun _ => rfl,fun _ => rfl⟩
  compress_ne raw := by
    unfold friendLibrary
    dsimp only
    split_ifs <;> simp
  inverts raw limit hlt := by
    unfold friendLibrary
    dsimp only
    split_ifs with heq
    · rw [List.take_of_length_le (heq ▸ hlt.le),heq]
      rfl
    · show Except.ok (raw.take limit,true,[]) = _
      rw [List.take_of_length_le hlt.le]
  limits raw limit out ended unused _ hout := by
    unfold friendLibrary at hout
    dsimp only at hout
    split_ifs at hout with heq
    · cases hout
      rw [heq]
    · cases hout
      rfl
  loads_dumps := rfl

theorem friendOffer_verifies (label : String) :
    (friendOffer label).verify (friendLibrary label).toClaimLibrary 1000 = .ok () := by
  have hid : (friendOffer label).offerId.length = 32 := by
    show String.length "00000000000000000000000000000000" = 32
    decide
  have hhex : (fromHex (friendOffer label).offerId).isSome := by
    show (fromHex "00000000000000000000000000000000").isSome
    decide
  obtain ⟨raw,hraw⟩ := Option.isSome_iff_exists.mp hhex
  have hcard : (friendOffer label).card.verify (friendLibrary label).rt (friendLibrary label).crypto
      (friendLibrary label).urls = .ok () := rfl
  unfold PairOffer.verify
  refine bind_ok.mpr ⟨(),rfl,bind_ok.mpr ⟨(),?_,bind_ok.mpr ⟨raw,?_,bind_ok.mpr ⟨(),hcard,
    bind_ok.mpr ⟨(),?_,bind_ok.mpr ⟨_,rfl,rfl⟩⟩⟩⟩⟩⟩
  · exact raiseIf_ok.mpr (not_not.mpr hid)
  · rw [hraw]
    rfl
  · show validateWindow 1000 601000 1000 = .ok ()
    decide

theorem labelledInvite_verifies (label : String) :
    (labelledInvite label).verify (friendLibrary label).toClaimLibrary 1000 = .ok () := by
  show FriendInvite.verify (friendLibrary label).toClaimLibrary _ 1000 = .ok ()
  unfold FriendInvite.verify
  exact bind_ok.mpr ⟨(),rfl,bind_ok.mpr ⟨(),friendOffer_verifies label,bind_ok.mpr ⟨_,rfl,rfl⟩⟩⟩

/-- The code of a byte. -/
def shortCode : String := codeText "invite" (b64e [1])

theorem compress_labelled (label : String) :
    (friendLibrary label).compress (dumps (labelledInvite label).toDict) = [1] := by
  simp only [friendLibrary,if_true]

theorem labelledInvite_encodes (label : String) :
    encodeFriendCode (friendLibrary label) (labelledInvite label) = .ok shortCode := by
  have hsize : (utf8 shortCode).length ≤ maxQrTextBytes := by decide
  have htext : codeText (labelledInvite label).kind (b64e ((friendLibrary label).compress
      (dumps (labelledInvite label).toDict))) = shortCode := by
    rw [compress_labelled]
    rfl
  unfold encodeFriendCode
  rw [htext]
  exact bind_ok.mpr ⟨(),raiseIf_ok.mpr (Nat.not_lt.mpr hsize),rfl⟩

/-- A label that compresses well. -/
def longLabel : String := String.ofList (List.replicate 40000 'a')

/-- An invite whose card has a long label is written, and the code is not read. -/
theorem long_label_unread :
    CodecLaws (friendLibrary longLabel) (labelledInvite longLabel) ∧
      (labelledInvite longLabel).verify (friendLibrary longLabel).toClaimLibrary 1000 = .ok () ∧
      encodeFriendCode (friendLibrary longLabel) (labelledInvite longLabel) = .ok shortCode ∧
      decodeFriendCode (friendLibrary longLabel) shortCode 1000 ≠
        .ok (labelledInvite longLabel) := by
  have hlaws := friendLibrary_laws longLabel
  refine ⟨hlaws,labelledInvite_verifies _,labelledInvite_encodes _,fun hdecode => ?_⟩
  have hcompress := compress_labelled longLabel
  have hsize : (utf8 shortCode).length ≤ maxQrTextBytes := by decide
  have hcode : decodeFriendCode (friendLibrary longLabel) shortCode 1000 =
      readPayload (friendLibrary longLabel) (labelledInvite longLabel).kind (b64e [1]) 1000 :=
    decode_code (x := labelledInvite longLabel) (by decide) hsize
  rw [hcode,← hcompress] at hdecode
  have hsmall := readPayload_large hlaws hdecode
  have hlong : longLabel.toList.length ≤ (dumps (labelledInvite longLabel).toDict).length :=
    label_le_dumps ⟨friendOffer longLabel,[1],friendRelationship,friendshipVersion,friendInviteType⟩
  have hlength : longLabel.toList.length = 40000 := by
    unfold longLabel
    rw [String.toList_ofList]
    exact List.length_replicate
  have hmax : maxQrObjectBytes = 32768 := rfl
  omega

theorem friend_code_roundTrip_sample :
    decodeFriendCode (friendLibrary "node") shortCode 1000 = .ok (labelledInvite "node") ∧
      (labelledInvite "node").Signed (friendLibrary "node").toClaimLibrary := by
  have hsmall : (dumps (labelledInvite "node").toDict).length ≤ maxQrObjectBytes := by
    decide +kernel
  obtain ⟨htrip,hsigned,-⟩ := friend_code_roundTrip (friendLibrary "node")
  have hread := (htrip _ 1000 _ (friendLibrary_laws "node") (labelledInvite_verifies "node")
    (labelledInvite_encodes "node")).mpr hsmall
  exact ⟨hread,hsigned _ _ _ hread⟩

end Sample

end Anet.Friendship
