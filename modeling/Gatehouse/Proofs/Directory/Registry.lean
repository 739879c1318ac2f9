import Gatehouse.Directory.Account
import Gatehouse.Proofs.Directory.MailFilter

/-!
# A registry of accounts

A directory that nobody but the gateway changes: the accounts it had at the start, and those that
were created since. Nothing is said about the order in which it lists them.
-/

namespace Gatehouse

def withMail (accounts : List Account) (email : String) : List Account :=
  accounts.filter fun a => a.mail == email

/-- The accounts at the start, and those created since. -/
structure Registry where
  initial : List Account
  created : List Account := []

namespace Registry

variable {r : Registry} {email query : String} {a : Account}

def accounts (r : Registry) : List Account := r.initial ++ r.created

def under (r : Registry) (email : String) : List Account := withMail r.accounts email

def store (r : Registry) (a : Account) : Registry := { r with created := r.created ++ [a] }

/-- A page of the stored accounts that a filter lets through, in some order. -/
def Lists (r : Registry) (query : String) (pageSize : Nat) (page : List Account) : Prop :=
  ∃ order : List Account, order.Perm r.accounts ∧
    page = (order.filter fun a => MailFilter.filter a.mail == query).take pageSize

theorem under_eq (r : Registry) (email : String) :
    r.under email = withMail r.initial email ++ withMail r.created email :=
  List.filter_append ..

theorem under_store_of_ne (h : a.mail ≠ email) : (r.store a).under email = r.under email := by
  simp [under_eq, store, withMail, h]

theorem under_store_self (r : Registry) (a : Account) :
    (r.store a).under a.mail = r.under a.mail ++ [a] := by
  simp [under_eq, store, withMail]

theorem under_store_eq_singleton {b : Account} (hnone : r.under a.mail = [])
    (h : r.under email = [b]) : (r.store a).under email = [b] := by
  rw [under_store_of_ne, h]
  rintro rfl
  rw [hnone] at h
  cases h

theorem Lists.exists_perm {pageSize : Nat} {page : List Account}
    (h : r.Lists (MailFilter.filter email) pageSize page) :
    ∃ found : List Account, found.Perm (r.under email) ∧ page = found.take pageSize := by
  obtain ⟨order, hperm, rfl⟩ := h
  have hfilter : (fun a : Account => MailFilter.filter a.mail == MailFilter.filter email) =
      fun a => a.mail == email := by
    funext a
    simp [MailFilter.filter_injective.eq_iff]
  exact ⟨_, hperm.filter _, by rw [hfilter]⟩

theorem Lists.under_eq_nil {pageSize : Nat}
    (h : r.Lists (MailFilter.filter email) (pageSize + 1) []) : r.under email = [] := by
  obtain ⟨found, hperm, hpage⟩ := h.exists_perm
  cases found with
  | nil => exact hperm.nil_eq.symm
  | cons b rest => cases hpage

/-- Where there is room for more, a single account is the only one. -/
theorem Lists.under_eq_singleton {pageSize : Nat}
    (h : r.Lists (MailFilter.filter email) (pageSize + 2) [a]) : r.under email = [a] := by
  obtain ⟨found, hperm, hpage⟩ := h.exists_perm
  rcases found with _ | ⟨b, _ | ⟨c, rest⟩⟩
  · cases hpage
  · cases hpage
    exact (List.singleton_perm.mp hperm).symm
  · cases hpage

end Registry

end Gatehouse
