/-
# Storage keys: the latest-nonce counter and the NFT token key

`dcdtNFTCreate.go` keeps two kinds of per-token data in an account's trie:

* the LATEST NONCE of a token, under `getNonceKey tokenID = noncePrefix ‖ tokenID`, written by
  `saveLatestNonce` as `big.Int.Bytes` of the nonce and read back by `getLatestNonce`, which
  maps an unset (empty) value to 0 and otherwise keeps the low 64 bits (`latestNonce` is that
  read as a function of the account);
* each NFT INSTANCE, under `computeDCDTNFTTokenKey (keyPrefix ‖ tokenID) nonce`, the token key
  followed by the big-endian nonce.

For the counter this module proves the round trip (`latestNonce_saveLatestNonce`: a saved nonce
is read back, the zero nonce included) and the frame (`latestNonce_saveKeyValue_of_ne`: a write
under another key leaves the counter alone), with the key facts it rests on: distinct tokens
have distinct nonce keys, and no nonce key is a role key.

For the instance key it proves injectivity over identifiers in the form they are issued in
(`computeDCDTNFTTokenKey_injective`).  Without that form the key is NOT injective: `A\x01`
with nonce 2 and `A` with nonce 258 give the same bytes.  What saves it is the format: the
dash ends the ticker, and the hex part after it has a fixed length, so no identifier is a
proper prefix of another.
-/
import VmCommon.Accounts

namespace VmCommon

/-! ## 1. Prefix-disjoint keys -/

/-- Keys under two prefixes that do not extend each other never meet. -/
theorem append_ne_append_of_not_prefix {p q x y : Bytes} (hpq : ¬ p <+: q) (hqp : ¬ q <+: p) :
    p ++ x ≠ q ++ y := by
  intro h
  have hp : p <+: q ++ y := h ▸ List.prefix_append p x
  have hq : q <+: q ++ y := List.prefix_append q y
  rcases Nat.le_total p.length q.length with hl | hl
  · exact hpq (List.prefix_of_prefix_length_le hp hq hl)
  · exact hqp (List.prefix_of_prefix_length_le hq hp hl)

variable (env : Env)

/-! ## 2. The latest-nonce counter -/

/-- `getNonceKey`. -/
def getNonceKey (tokenID : Bytes) : Bytes := env.noncePrefix ++ tokenID

/-- The nonce `getLatestNonce` reads from an account: 0 when unset, else `SetBytes(..).Uint64()`
of the stored value. -/
def latestNonce (a : UserAccount) (tokenID : Bytes) : UInt64 :=
  let nonceData := a.trie.values (getNonceKey env tokenID)
  if nonceData.length = 0 then 0 else UInt64.ofNat (setBytes nonceData)

/-- `getLatestNonce`: a read of the account. -/
def getLatestNonce (acnt : UserAccount) (tokenID : Bytes) : Except Error UInt64 := do
  let nonceData ← retrieveValue env acnt (getNonceKey env tokenID)
  if nonceData.length = 0 then
    return 0
  return UInt64.ofNat (setBytes nonceData)

/-- `saveLatestNonce`. -/
def saveLatestNonce (r : Acnt) (tokenID : Bytes) (nonce : UInt64) : Exec Unit :=
  saveKeyValue env r (getNonceKey env tokenID) (bigBytes nonce.toNat)

theorem getNonceKey_inj {t t' : Bytes} : getNonceKey env t = getNonceKey env t' ↔ t = t' :=
  ⟨List.append_cancel_left, congrArg _⟩

/-- **No nonce key is a role key**: the two prefixes part before the token identifier. -/
theorem getNonceKey_ne_roleKey (t t' : Bytes) : getNonceKey env t ≠ env.roleKeyPrefix ++ t' :=
  append_ne_append_of_not_prefix env.noncePrefix_roleKeyPrefix.1 env.noncePrefix_roleKeyPrefix.2

/-- **The counter round trip.**  What `saveLatestNonce` writes, `getLatestNonce` reads back. -/
theorem latestNonce_saveLatestNonce (a : UserAccount) (tokenID : Bytes) (n : UInt64) :
    latestNonce env (a.saveKeyValue (getNonceKey env tokenID) (bigBytes n.toNat)) tokenID = n := by
  rw [latestNonce, UserAccount.saveKeyValue_values_self, u64_eq_iff]
  by_cases h0 : n.toNat = 0
  · simp [h0]
  · rw [if_neg (by simpa [bigBytes_eq_nil_iff] using h0), u64_toNat_ofNat, setBytes_bigBytes,
      Nat.mod_eq_of_lt (u64_toNat_lt n)]

/-- A write under any other key leaves the counter as it was. -/
theorem latestNonce_saveKeyValue_of_ne (a : UserAccount) {tokenID key : Bytes} (value : Bytes)
    (hne : getNonceKey env tokenID ≠ key) :
    latestNonce env (a.saveKeyValue key value) tokenID = latestNonce env a tokenID := by
  simp only [latestNonce, UserAccount.saveKeyValue_values_of_ne _ _ hne]

/-- The counter depends only on the value under the nonce key. -/
theorem latestNonce_of_values_eq {a a' : UserAccount} {tokenID : Bytes}
    (h : a'.trie.values (getNonceKey env tokenID) = a.trie.values (getNonceKey env tokenID)) :
    latestNonce env a' tokenID = latestNonce env a tokenID := by
  simp only [latestNonce, h]

/-- `getLatestNonce` returns `latestNonce` of the object, unless the data trie fails. -/
theorem getLatestNonce_eq (acnt : UserAccount) (tokenID : Bytes) :
    getLatestNonce env acnt tokenID =
      query env (.retrieveValue acnt.address (getNonceKey env tokenID))
        (latestNonce env acnt tokenID) := by
  unfold getLatestNonce retrieveValue query latestNonce
  cases env.fault _ with
  | some code => rfl
  | none =>
    by_cases h0 : (acnt.trie.values (getNonceKey env tokenID)).length = 0 <;>
      simp only [except_ok_bind, h0, ↓reduceIte] <;> rfl

/-! ## 3. The NFT instance key -/

/-- `computeDCDTNFTTokenKey`. -/
def computeDCDTNFTTokenKey (dcdtTokenKey : Bytes) (nonce : UInt64) : Bytes :=
  dcdtTokenKey ++ bigBytes nonce.toNat

/-- An upper-case ASCII letter or a digit. -/
def isTickerChar (c : UInt8) : Bool :=
  (65 ≤ c.toNat && c.toNat ≤ 90) || (48 ≤ c.toNat && c.toNat ≤ 57)

/-- A lower-case hex digit. -/
def isLowerHexChar (c : UInt8) : Bool :=
  (48 ≤ c.toNat && c.toNat ≤ 57) || (97 ≤ c.toNat && c.toNat ≤ 102)

/-- A token identifier in the form it is issued in: a ticker of 3 to 10 upper-case letters or
digits, a dash, and six lower-case hex digits. -/
structure TokenIdentifier where
  ticker : Bytes
  random : Bytes
  ticker_length : 3 ≤ ticker.length ∧ ticker.length ≤ 10
  ticker_chars : ∀ c ∈ ticker, isTickerChar c
  random_length : random.length = 6
  random_chars : ∀ c ∈ random, isLowerHexChar c

/-- The identifier's bytes, `ticker-random`. -/
def TokenIdentifier.toBytes (t : TokenIdentifier) : Bytes := t.ticker ++ 45 :: t.random

/-- The dash is no ticker character, so it ends the ticker. -/
theorem TokenIdentifier.dash_not_mem_ticker (t : TokenIdentifier) : (45 : UInt8) ∉ t.ticker :=
  fun h => absurd (t.ticker_chars 45 h) (by decide)

/-- Two lists that agree up to the first occurrence of `x` agree before it and after it. -/
theorem append_cons_inj_of_not_mem {x : UInt8} :
    ∀ {a b r r' : Bytes}, x ∉ a → x ∉ b → a ++ x :: r = b ++ x :: r' → a = b ∧ r = r'
  | [], [], _, _, _, _, h => ⟨rfl, List.cons.inj h |>.2⟩
  | [], c :: _, _, _, _, hb, h => absurd (List.cons.inj h).1 (fun e => hb (e ▸ List.mem_cons_self _ _))
  | c :: _, [], _, _, ha, _, h => absurd (List.cons.inj h).1.symm
      (fun e => ha (e ▸ List.mem_cons_self _ _))
  | c :: a, d :: b, _, _, ha, hb, h => by
    obtain ⟨hcd, h⟩ := List.cons.inj h
    obtain ⟨hab, hr⟩ := append_cons_inj_of_not_mem (List.not_mem_of_not_mem_cons ha)
      (List.not_mem_of_not_mem_cons hb) h
    exact ⟨hcd ▸ hab ▸ rfl, hr⟩

theorem TokenIdentifier.ext' {t t' : TokenIdentifier} (h1 : t.ticker = t'.ticker)
    (h2 : t.random = t'.random) : t = t' := by
  cases t; cases t'; cases h1; cases h2; rfl

/-- **The NFT key is injective on issued identifiers.**  Under any prefix, the key of one
instance determines its token identifier and its nonce. -/
theorem computeDCDTNFTTokenKey_injective (keyPrefix : Bytes) (t1 t2 : TokenIdentifier)
    (n1 n2 : UInt64)
    (h : computeDCDTNFTTokenKey (keyPrefix ++ t1.toBytes) n1 =
      computeDCDTNFTTokenKey (keyPrefix ++ t2.toBytes) n2) :
    t1 = t2 ∧ n1 = n2 := by
  simp only [computeDCDTNFTTokenKey, TokenIdentifier.toBytes, List.append_assoc,
    List.append_cancel_left_eq, List.cons_append] at h
  obtain ⟨hticker, hrest⟩ :=
    append_cons_inj_of_not_mem t1.dash_not_mem_ticker t2.dash_not_mem_ticker h
  obtain ⟨hrandom, hnonce⟩ :=
    List.append_inj hrest (by rw [t1.random_length, t2.random_length])
  exact ⟨TokenIdentifier.ext' hticker hrandom,
    (u64_eq_iff _ _).mpr (bigBytes_injective hnonce)⟩

/-- The identifier `ABC-abcdef`. -/
def sampleIdentifier : TokenIdentifier where
  ticker := ascii "ABC"
  random := ascii "abcdef"
  ticker_length := by decide
  ticker_chars := by decide
  random_length := by decide
  random_chars := by decide

/-- The key of `ABC-abcdef` with nonce 258 determines both. -/
theorem computeDCDTNFTTokenKey_injective_sample :
    computeDCDTNFTTokenKey (ascii "PROTECTEDdcdt" ++ sampleIdentifier.toBytes) 258 =
        computeDCDTNFTTokenKey (ascii "PROTECTEDdcdt" ++ sampleIdentifier.toBytes) 258 ∧
      sampleIdentifier = sampleIdentifier ∧ (258 : UInt64) = 258 :=
  ⟨rfl, computeDCDTNFTTokenKey_injective (ascii "PROTECTEDdcdt") _ _ _ _ rfl⟩

end VmCommon
