import Gatehouse.Proofs.Gateway.FailsClosed

/-!
# Tokens say what they were minted for

A token has three parts. The second is read back as the payload it was minted for, whatever texts
are in it, and the third is the hash of the other two under the key. Since a token is always fit for
a header, no user is turned away for want of one.
-/

namespace Gatehouse

namespace Token

/-- Parts of a token that say a payload, signed with a key. -/
structure Says (secret : String) (p : TokenPayload) (header payload signature : List Char) :
    Prop where
  digits : ∀ c ∈ header ++ payload ++ signature, Base64Url.isDigit c = true
  readable : ∃ text, Base64Url.decode? payload = some (Utf8.encode text) ∧ Wire.ofText text = .ok p
  signed : signature =
    Base64Url.encode (Hmac.sha256 (Utf8.encode secret) (Utf8.encodeChars (header ++ '.' :: payload)))

theorem says_sign (secret : String) (p : TokenPayload) :
    ∃ header payload signature, split? (sign secret p) = some (header, payload, signature) ∧
      Says secret p header payload signature := by
  refine ⟨_, _, _, split?_sign secret p, ⟨?_, ?_, ?_⟩⟩
  · simp only [List.forall_mem_append]
    exact ⟨⟨Base64Url.isDigit_of_mem_encode _, Base64Url.isDigit_of_mem_encode _⟩,
      Base64Url.isDigit_of_mem_encode _⟩
  · exact ⟨Wire.toText p, Base64Url.decode?_encode _, LawfulWire.read_written (by decide) p⟩
  · rw [signedPart]

end Token

namespace Resolver

variable {σ : Type} (dir : Directory σ)

theorem ifEnabled_ne_mintFailed (a : Account) (reason : String) :
    ifEnabled a ≠ .error (.mintFailed reason) := by
  unfold ifEnabled
  split_ifs
  · exact nofun
  · exact nofun

theorem judge_bind_ne_mintFailed (email : String) (reply : Reply (List Account))
    (reason : String) : (judge email reply).bind ifEnabled ≠ .error (.mintFailed reason) := by
  rcases reply with e | _ | ⟨a, _ | ⟨b, rest⟩⟩
  · exact nofun
  · exact nofun
  · exact ifEnabled_ne_mintFailed a reason
  · exact nofun

theorem resolve_ne_mintFailed (c : Claims) (s : RunState σ) (reason : String) :
    (resolve dir c s).1 ≠ .error (.mintFailed reason) := by
  cases hblank : isBlank c.email with
  | true =>
    rw [resolve_eq, hblank]
    exact nofun
  | false =>
    rcases hknown : s.remembered c.email with ⟨_ | a, t⟩
    · have hsearch := search_resolve dir hblank (congrArg Prod.fst hknown)
      generalize resolve dir c s = run at hsearch ⊢
      cases hsearch with
      | one => exact judge_bind_ne_mintFailed _ _ reason
      | two => exact judge_bind_ne_mintFailed _ _ reason
      | @created reply =>
        cases reply with
        | error e => exact nofun
        | ok a => exact ifEnabled_ne_mintFailed a reason
    · rw [resolve_of_remembered dir hblank hknown]
      exact ifEnabled_ne_mintFailed a reason

end Resolver

namespace Assertion

variable {σ : Type} (dir : Directory σ) (m : TokenMinter)

theorem tokenFor_ne_mintFailed (c : Claims) (s : RunState σ) (reason : String) :
    (tokenFor dir m c s).1 ≠ .error (.mintFailed reason) := by
  rw [tokenFor_eq]
  have hresolve := Resolver.resolve_ne_mintFailed dir c s reason
  rcases hfound : Resolver.resolve dir c s with ⟨e | a, t⟩
  · rw [hfound] at hresolve
    exact fun h => hresolve (congrArg Except.error (Except.error.inj h))
  · simp only [token_eq]
    rcases Run.call dir (.roles a.id) (dir.roles a.id) t with ⟨e | granted, u⟩
    · exact nofun
    · exact nofun

/-- Nobody is turned away for want of a token. -/
theorem apply_ne_mintFailed (claims : Option Claims) (headers : Headers) (s : RunState σ)
    (reason : String) : (apply dir m claims headers s).1.1 ≠ .error (.mintFailed reason) := by
  cases claims with
  | none => exact nofun
  | some c =>
    have htoken := tokenFor_ne_mintFailed dir m c s reason
    rw [apply_some]
    rcases hfound : tokenFor dir m c s with ⟨e | t, u⟩
    · rw [hfound] at htoken
      exact fun h => htoken (congrArg Except.error (Except.error.inj h))
    · exact nofun

end Assertion

theorem TokenPayload.toInt_expires (a : Account) (groups roles : List String) {now : Int64}
    (h : now.toInt + lifetime ≤ Int64.maxValue.toInt) :
    (forAccount a groups roles now).expires.toInt = now.toInt + lifetime := by
  have hlow := now.le_toInt
  have hlife : (Int64.ofNat lifetime).toInt = 60 := by decide
  rw [Int64.toInt_maxValue, lifetime] at h
  rw [forAccount, Int64.toInt_add, hlife, lifetime]
  exact Int.bmod_eq_of_le (by omega) (by omega)

/-- A token can be minted under any key that is not empty. It says what it was minted for, signed
with the key, it may stand in a header, and nobody is turned away for want of it. -/
theorem TokenMinter.mint_says {secret : String} (hsecret : secret ≠ "") (a : Account)
    (groups roles : List String) {now : Int64}
    (hnow : now.toInt + TokenPayload.lifetime ≤ Int64.maxValue.toInt) :
    ∃ m header payload signature, new? secret = some m ∧
      Token.split? (m.mint a groups roles now) = some (header, payload, signature) ∧
      Token.Says secret (.forAccount a groups roles now) header payload signature ∧
      (TokenPayload.forAccount a groups roles now).expires.toInt =
        now.toInt + TokenPayload.lifetime ∧
      Assertion.headerValue (m.mint a groups roles now) =
        .ok (Utf8.encode (m.mint a groups roles now)) ∧
      ∀ {σ : Type} (dir : Directory σ) (claims : Option Claims) (headers : Headers)
        (s : RunState σ) (reason : String),
        (Assertion.apply dir m claims headers s).1.1 ≠ .error (.mintFailed reason) := by
  obtain ⟨header, payload, signature, hsplit, hsays⟩ :=
    Token.says_sign secret (.forAccount a groups roles now)
  exact ⟨⟨secret, hsecret⟩, header, payload, signature, dif_neg hsecret, hsplit, hsays,
    TokenPayload.toInt_expires a groups roles hnow, Assertion.headerValue_mint _ a groups roles now,
    fun dir claims headers s reason => Assertion.apply_ne_mintFailed dir _ claims headers s reason⟩

/-- An account with names that have to be escaped. -/
def awkwardAccount : Account :=
  { id := "1", displayName := "O\"Neill\t\\", unixName := "Zoë\x00", mail := "zoe@x.com" }

theorem TokenMinter.mint_says_of_awkward :
    ∃ m header payload signature, new? "s3cr3t" = some m ∧
      Token.split? (m.mint awkwardAccount ["\n"] [] 1700000000) =
        some (header, payload, signature) ∧
      Token.Says "s3cr3t" (.forAccount awkwardAccount ["\n"] [] 1700000000) header payload
        signature := by
  have hsecret : "s3cr3t" ≠ "" := by decide
  have hnow : (1700000000 : Int64).toInt + TokenPayload.lifetime ≤ Int64.maxValue.toInt := by decide
  obtain ⟨m, header, payload, signature, hnew, hsplit, hsays, -⟩ :=
    mint_says hsecret awkwardAccount ["\n"] [] hnow
  exact ⟨m, header, payload, signature, hnew, hsplit, hsays⟩

end Gatehouse
