import Gatehouse.Directory.Memory
import Gatehouse.Proofs.Directory.MailFilter
import Gatehouse.Proofs.Identity.Resolver

/-!
# Filters let one address through

An address can hold anything, even a filter of its own. Still the directory is asked for this address
and for no other: if it compares the filters of its accounts with the one it is given, it never lists
the account of somebody else, and none is looked up there.
-/

namespace Gatehouse

variable {σ : Type}

/-- Whether each account that a directory lists has the filter that was asked for. -/
def Directory.Compares (dir : Directory σ) (s : σ) : Prop :=
  ∀ query pageSize accounts, (dir.list query pageSize s).1 = .ok accounts →
    ∀ a ∈ accounts, MailFilter.filter a.mail = query

namespace MemoryDirectory

variable {d : MemoryDirectory}

theorem list_service (query : String) (pageSize : Nat) :
    service.list query pageSize d =
      (answer d.faults.list (d.fixedListing.getD ((d.matching query).take pageSize)), d) := rfl

theorem answer_eq_ok {α : Type} {fault : Option DirectoryError} {a b : α}
    (h : answer fault a = .ok b) : a = b := by
  unfold answer at h
  cases fault with
  | some e => cases h
  | none => exact Except.ok.inj h

/-- A directory in memory compares filters, unless its answer is fixed. -/
theorem compares_service (h : d.fixedListing = none) : service.Compares d := by
  intro query pageSize accounts hlist a ha
  rw [list_service, h] at hlist
  obtain rfl := answer_eq_ok hlist
  have hmatch : a ∈ d.matching query := List.mem_of_mem_take ha
  simpa [matching] using (List.mem_filter.mp hmatch).2

end MemoryDirectory

namespace Directory.Compares

variable {dir : Directory σ} {email : String}

theorem mail_eq {s : σ} (h : dir.Compares s) {pageSize : Nat} {accounts : List Account}
    (hlist : (dir.list (MailFilter.filter email) pageSize s).1 = .ok accounts) {a : Account}
    (ha : a ∈ accounts) : a.mail = email :=
  MailFilter.filter_injective (h _ _ _ hlist a ha)

theorem mail_lookup {s : RunState σ} (h : dir.Compares s.outside) {a : Account}
    (hnone : (s.remembered email).1 = none) (ha : (Resolver.lookup dir email s).1 = .ok a) :
    a.mail = email := by
  rcases hlisted : Resolver.listed dir { email } (s.remembered email).2 with ⟨reply, t⟩
  rw [Resolver.lookup_of_missing dir (c := { email }) hnone hlisted] at ha
  obtain rfl := Resolver.judge_eq_ok.mp ha
  have hreply := congrArg Prod.fst (Run.call_eq_mk hlisted).1
  apply h.mail_eq hreply
  exact List.mem_singleton_self a

end Directory.Compares

/-- A filter is read as the address that it was made for and as no other, up to its end; it is the only
text that is read so. Therefore a directory that compares filters lists accounts with this
address only, and only such an account is looked up there. -/
theorem MailFilter.filter_lets_one_through (email : String) :
    address? (filter email) = some (email, []) ∧
      (∀ address rest, Reads (filter email) address rest ↔ address = email ∧ rest = []) ∧
      (∀ query, Reads query email [] ↔ query = filter email) ∧
      (∀ other, filter other = filter email ↔ other = email) ∧
      ∀ (dir : Directory σ) (s : RunState σ), dir.Compares s.outside →
        (∀ pageSize accounts, (dir.list (filter email) pageSize s.outside).1 = .ok accounts →
          ∀ a ∈ accounts, a.mail = email) ∧
        ∀ a, (s.remembered email).1 = none → (Resolver.lookup dir email s).1 = .ok a →
          a.mail = email := by
  refine ⟨address?_eq_some_iff.mpr (reads_filter_iff.mpr ⟨rfl, rfl⟩), ?_, ?_, ?_, ?_⟩
  · intro address rest
    exact reads_filter_iff
  · intro query
    exact reads_nil_iff
  · intro other
    exact filter_injective.eq_iff
  · intro dir s hcompares
    constructor
    · intro pageSize accounts hlist a ha
      exact hcompares.mail_eq hlist ha
    · intro a hnone ha
      exact hcompares.mail_lookup hnone ha

namespace MailFilter

/-- An address that holds the rest of a filter for another one. -/
def forged : String := "'' or mail eq 'b@x.com"

/-- The user with that address and the one that it names. -/
def forgers : MemoryDirectory where
  accounts := [{ id := "1", mail := "b@x.com" }, { id := "2", mail := forged }]

def beforeForgery : RunState MemoryDirectory := { cache := .empty 16 60000, outside := forgers }

/-- The user with the forged address is looked up, and not the one that it names. -/
theorem forged_filter_lets_one_through :
    MemoryDirectory.service.Compares beforeForgery.outside ∧
      (beforeForgery.remembered forged).1 = none ∧
      ∃ a, (Resolver.lookup MemoryDirectory.service forged beforeForgery).1 = .ok a ∧
        a.id = "2" ∧ a.mail = forged := by
  have hcompares : MemoryDirectory.service.Compares beforeForgery.outside :=
    MemoryDirectory.compares_service rfl
  have hnone : (beforeForgery.remembered forged).1 = none := rfl
  obtain ⟨a, ha, hid⟩ : ∃ a, (Resolver.lookup MemoryDirectory.service forged beforeForgery).1 =
      .ok a ∧ a.id = "2" := ⟨{ id := "2", mail := forged }, by decide +kernel, rfl⟩
  obtain ⟨-, -, -, -, hdirectory⟩ := filter_lets_one_through (σ := MemoryDirectory) forged
  obtain ⟨-, hlookup⟩ := hdirectory MemoryDirectory.service beforeForgery hcompares
  exact ⟨hcompares, hnone, a, ha, hid, hlookup a hnone ha⟩

end MailFilter

end Gatehouse
