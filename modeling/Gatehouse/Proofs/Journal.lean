import Gatehouse.Gateway.Engine
import Mathlib.Tactic

/-!
# Journals

A journal stands between the gateway and what is outside. It lets every call and every request
through as it is, and writes down what was said, what came back and when. So statements about a run
can speak of all that happened in it.
-/

namespace Gatehouse

/-- What the gateway said to the outside, with what came back. -/
inductive Event
  | listed (query : String) (pageSize : Nat) (reply : Reply (List Account))
  | created (request : Account) (reply : Reply Account)
  | found (id : String) (reply : Reply (Option Account))
  | granted (account : String) (reply : Reply (List RoleAssignment))
  | forwarded (request : Request)

def Event.forwarded? : Event → Option Request
  | forwarded r => some r
  | _ => none

/-- An event with the time at which it was over. -/
structure Entry where
  event : Event
  clock : Nat
  seconds : Int64

def sentOn (log : List Entry) : List Request := log.filterMap fun e => e.event.forwarded?

/-- The services, the clocks, and all that has happened. -/
structure Journal (σ : Type) where
  services : σ
  clock : Nat := 0
  seconds : Int64 := 0
  entries : List Entry := []

namespace Journal

variable {σ α : Type}

def write (j : Journal σ) (event : Event) : Journal σ :=
  { j with entries := j.entries ++ [⟨event, j.clock, j.seconds⟩] }

def await (j : Journal σ) (dir : Directory σ) : Journal σ :=
  { j with
    clock := j.clock + dir.elapsed j.services
    seconds := dir.timeOfDay j.services j.seconds }

def call (dir : Directory σ) (act : StateM σ α) (event : α → Event) : StateM (Journal σ) α :=
  fun j =>
    let (reply, services) := act j.services
    (reply, (({ j with services } : Journal σ).await dir).write (event reply))

def directory (dir : Directory σ) : Directory (Journal σ) where
  list query pageSize := call dir (dir.list query pageSize) (.listed query pageSize)
  create account := call dir (dir.create account) (.created account)
  get id := call dir (dir.get id) (.found id)
  roles account := call dir (dir.roles account) (.granted account)
  elapsed j := dir.elapsed j.services
  timeOfDay j := dir.timeOfDay j.services

def backends (b : Backends σ) : Backends (Journal σ) := fun r j =>
  let (response, services) := b r j.services
  (response, ({ j with services } : Journal σ).write (.forwarded r))

end Journal

/-! ## From one state to a later one -/

variable {σ α : Type}

/-- From a state to a later one, with what was written down on the way. -/
structure Leads (s t : RunState (Journal σ)) (log : List Entry) : Prop where
  entries : t.outside.entries = s.outside.entries ++ log
  clock : s.clock ≤ t.clock
  ttl : t.cache.ttl = s.cache.ttl

/-- The clocks of a run are those of its journal, and no event is later than now. -/
structure InStep (s : RunState (Journal σ)) : Prop where
  clock : s.outside.clock = s.clock
  seconds : s.outside.seconds = s.seconds
  past : ∀ e ∈ s.outside.entries, e.clock ≤ s.clock

namespace Leads

variable {s t u : RunState (Journal σ)} {log more : List Entry}

theorem refl (s : RunState (Journal σ)) : Leads s s [] := ⟨by simp, le_rfl, rfl⟩

theorem trans (h : Leads s t log) (k : Leads t u more) : Leads s u (log ++ more) where
  entries := by rw [k.entries, h.entries, List.append_assoc]
  clock := h.clock.trans k.clock
  ttl := k.ttl.trans h.ttl

end Leads

/-! ## What actions write down -/

/-- These events were written down from one state to a later one. -/
def Says (s t : RunState (Journal σ)) (events : List Event) : Prop :=
  ∃ log, t.outside.entries = s.outside.entries ++ log ∧ log.map Entry.event = events

namespace Says

variable {s t u : RunState (Journal σ)} {events more : List Event}

theorem refl (s : RunState (Journal σ)) : Says s s [] := ⟨[], (List.append_nil _).symm, rfl⟩

theorem trans (h : Says s t events) (k : Says t u more) : Says s u (events ++ more) := by
  obtain ⟨log, hlog, rfl⟩ := h
  obtain ⟨later, hlater, rfl⟩ := k
  exact ⟨log ++ later, by rw [hlater, hlog, List.append_assoc], List.map_append⟩

theorem keep {ε : Type} (h : Says s t events) (email : String) (found : Except ε Account) :
    Says s (t.keep email found) events := by
  cases found with
  | error e => exact h
  | ok account => exact h

theorem call {dir : Directory σ} {c : DirectoryCall} {act : StateM σ α} {event : α → Event}
    {reply : α}
    (h : Run.call (Journal.directory dir) c (Journal.call dir act event) s = (reply, t)) :
    Says s t [event reply] := by
  obtain ⟨rfl, rfl⟩ := Prod.mk.inj h
  exact ⟨[_], rfl, rfl⟩

end Says

/-- From a state on, an action writes down events that belong to its result. -/
def Tells (s : RunState (Journal σ)) (act : Run (Journal σ) α) (spec : List Event → α → Prop) :
    Prop :=
  ∃ events, Says s (act s).2 events ∧ spec events (act s).1

namespace Tells

variable {β : Type} {s : RunState (Journal σ)} {spec : List Event → α → Prop}

theorem pure {a : α} (h : spec [] a) : Tells s (Pure.pure a) spec := ⟨[], .refl s, h⟩

theorem mono {act : Run (Journal σ) α} {first : List Event → α → Prop} (h : Tells s act first)
    (k : ∀ events a, first events a → spec events a) : Tells s act spec :=
  let ⟨events, hsays, hfirst⟩ := h
  ⟨events, hsays, k _ _ hfirst⟩

theorem bind {act : Run (Journal σ) β} {next : β → Run (Journal σ) α}
    {first : List Event → β → Prop} (h : Tells s act first)
    (k : ∀ events b t, first events b → Tells t (next b) fun more a => spec (events ++ more) a) :
    Tells s (act >>= next) spec := by
  obtain ⟨events, hsays, hfirst⟩ := h
  obtain ⟨more, hmore, hspec⟩ := k _ _ (act s).2 hfirst
  exact ⟨events ++ more, hsays.trans hmore, hspec⟩

theorem call (dir : Directory σ) (c : DirectoryCall) (act : StateM σ α) (event : α → Event) :
    Tells s (Run.call (Journal.directory dir) c (Journal.call dir act event))
      fun events reply => events = [event reply] :=
  ⟨_, .call rfl, rfl⟩

theorem forward (backends : Backends σ) (q : Request) :
    Tells s (Run.exchange (Journal.backends backends q)) fun events answer =>
      events = [.forwarded q] ∧ answer = (backends q s.outside.services).1 :=
  ⟨_, ⟨[_], rfl, rfl⟩, rfl, rfl⟩

end Tells

end Gatehouse
