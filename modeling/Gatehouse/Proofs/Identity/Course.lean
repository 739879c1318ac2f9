import Gatehouse.Identity.Assertion
import Gatehouse.Proofs.Identity.Cache
import Gatehouse.Proofs.Identity.Resolver
import Gatehouse.Proofs.Journal

/-!
# The course of signing in

What is said to the directory and to the role service while a user is signed in, for every way in
which that can end. The first failure ends it: what failed is the last thing that was asked for.
-/

namespace Gatehouse

variable {σ : Type}

def asked (c : Claims) (reply : Reply (List Account)) : Event :=
  .listed (MailFilter.filter c.email) Resolver.pageSize reply

/-- So many times in a row the directory has no account with the address. -/
def unknown (c : Claims) (times : Nat) : List Event := List.replicate times (asked c (.ok []))

/-- How an account is come by, with what is remembered to begin with. One is created only when the
directory has had none twice. -/
inductive Obtained (c : Claims) : Option Account → List Event → Account → Prop
  | remembered (a : Account) : Obtained c (some a) [] a
  | listed {n : Nat} (hn : n ≤ 1) (a : Account) :
      Obtained c none (unknown c n ++ [asked c (.ok [a])]) a
  | created (a : Account) :
      Obtained c none (unknown c 2 ++ [.created (Resolver.newAccount c) (.ok a)]) a

/-- How a user with an address is turned away, and with which status. -/
inductive Refused (c : Claims) : Option Account → List Event → Nat → Prop
  | unavailable {n : Nat} (hn : n ≤ 1) (e : DirectoryError) :
      Refused c none (unknown c n ++ [asked c (.error e)]) 500
  | ambiguous {n : Nat} (hn : n ≤ 1) (a b : Account) (rest : List Account) :
      Refused c none (unknown c n ++ [asked c (.ok (a :: b :: rest))]) 403
  | uncreated (e : DirectoryError) :
      Refused c none (unknown c 2 ++ [.created (Resolver.newAccount c) (.error e)]) 500
  | disabled {known : Option Account} {log : List Event} {a : Account} (h : Obtained c known log a)
      (ha : a.enabled = false) : Refused c known log 401
  | withoutRoles {known : Option Account} {log : List Event} {a : Account}
      (h : Obtained c known log a) (ha : a.enabled = true) (e : DirectoryError) :
      Refused c known (log ++ [.granted a.id (.error e)]) 401

/-- How a user is turned away: nothing is asked about one without an address. -/
def Denied (c : Claims) (known : Option Account) (log : List Event) (status : Nat) : Prop :=
  if Resolver.isBlank c.email then log = [] ∧ status = 401 else Refused c known log status

/-- How a user gets a token: for an enabled account, with the roles that were granted last. -/
inductive Minted (m : TokenMinter) (c : Claims) (known : Option Account) :
    List Event → String → Prop
  | token {log : List Event} {a : Account} (hblank : Resolver.isBlank c.email = false)
      (h : Obtained c known log a) (ha : a.enabled = true) (granted : List RoleAssignment)
      (now : Int64) : Minted m c known (log ++ [.granted a.id (.ok granted)])
        (m.mint a a.unixGroups (granted.map RoleAssignment.role) now)

variable {c : Claims} {known : Option Account} {log : List Event}

/-- Nobody is turned away as not found. -/
theorem Refused.status {status : Nat} (h : Refused c known log status) :
    status = 401 ∨ status = 403 ∨ status = 500 := by
  cases h with
  | unavailable => exact Or.inr (Or.inr rfl)
  | ambiguous => exact Or.inr (Or.inl rfl)
  | uncreated => exact Or.inr (Or.inr rfl)
  | disabled => exact Or.inl rfl
  | withoutRoles => exact Or.inl rfl

theorem Refused.denied {status : Nat} (hblank : Resolver.isBlank c.email = false)
    (h : Refused c known log status) : Denied c known log status := by
  rw [Denied, hblank]
  exact h

theorem Denied.status {status : Nat} (h : Denied c known log status) :
    status = 401 ∨ status = 403 ∨ status = 500 := by
  unfold Denied at h
  split_ifs at h
  · exact Or.inl h.2
  · exact h.status

/-! ## Nothing is sent on meanwhile -/

def Silent (log : List Event) : Prop := ∀ ev ∈ log, ev.forwarded? = none

theorem silent_nil : Silent [] := List.forall_mem_nil _

theorem silent_append {more : List Event} : Silent (log ++ more) ↔ Silent log ∧ Silent more :=
  List.forall_mem_append

theorem silent_unknown_append (n : Nat) {ev : Event} (h : ev.forwarded? = none) :
    Silent (unknown c n ++ [ev]) := by
  refine silent_append.mpr ⟨fun ev hev => ?_, List.forall_mem_singleton.mpr h⟩
  rw [List.eq_of_mem_replicate hev]
  rfl

theorem Obtained.silent {a : Account} (h : Obtained c known log a) : Silent log := by
  cases h with
  | remembered => exact silent_nil
  | listed => exact silent_unknown_append _ rfl
  | created => exact silent_unknown_append _ rfl

theorem Denied.silent {status : Nat} (h : Denied c known log status) : Silent log := by
  unfold Denied at h
  split_ifs at h
  · rw [h.1]
    exact silent_nil
  · cases h with
    | unavailable => exact silent_unknown_append _ rfl
    | ambiguous => exact silent_unknown_append _ rfl
    | uncreated => exact silent_unknown_append _ rfl
    | disabled h => exact h.silent
    | withoutRoles h => exact silent_append.mpr ⟨h.silent, List.forall_mem_singleton.mpr rfl⟩

theorem Minted.silent {m : TokenMinter} {token : String} (h : Minted m c known log token) :
    Silent log := by
  cases h with
  | token _ h => exact silent_append.mpr ⟨h.silent, List.forall_mem_singleton.mpr rfl⟩

/-! ## The actions -/

namespace Resolver

variable (dir : Directory σ) {s t : RunState (Journal σ)}

end Resolver

namespace Assertion

variable (dir : Directory σ) (minter : TokenMinter) {s : RunState (Journal σ)}

end Assertion

end Gatehouse
