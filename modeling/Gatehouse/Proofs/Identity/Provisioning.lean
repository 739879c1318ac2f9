import Gatehouse.Proofs.Directory.Transcript
import Gatehouse.Proofs.Identity.Cache
import Gatehouse.Proofs.Identity.Resolver

/-!
# When an account is created

Over the network, an account is created for a user only if the directory has listed no account for
the address twice. A listing that fails in any way is not an empty one: it ends the search, and what
is remembered stays as it is.
-/

namespace Gatehouse

variable {σ : Type}

def AccountCache.fresh (cache : AccountCache) (now : Nat) : List CacheEntry :=
  cache.entries.filter (cache.isFresh now)

/-- A search that finds nothing fresh drops nothing fresh. -/
theorem AccountCache.fresh_get {cache : AccountCache} {clock now : Nat} {email : String}
    (h : ∀ e ∈ cache.fresh clock, e.email ≠ email) (hnow : clock ≤ now) :
    (cache.get clock email).2.fresh now = cache.fresh now := by
  rcases cache.get_snd clock email with heq | ⟨-, -, -, -, heq⟩ <;> rw [heq]
  have hsame : (cache.invalidate email).isFresh now = cache.isFresh now := rfl
  simp only [fresh, hsame]
  simp only [invalidate, List.filter_filter]
  refine List.filter_congr fun e he => ?_
  by_cases hemail : e.email = email
  · have hstale : cache.isFresh now e = false := by
      have hclock : ¬ cache.isFresh clock e = true := fun hfresh =>
        h e (List.mem_filter.mpr ⟨he, hfresh⟩) hemail
      simp only [isFresh, decide_eq_true_eq, decide_eq_false_iff_not] at hclock ⊢
      omega
    simp [hstale]
  · simp [hemail]

theorem AccountCache.get_of_not_fresh {cache : AccountCache} {clock : Nat} {email : String}
    (h : ∀ e ∈ cache.fresh clock, e.email ≠ email) : (cache.get clock email).1 = none := by
  cases hget : (cache.get clock email).1 with
  | none => rfl
  | some a =>
    obtain ⟨e, he, hemail, -, hfresh⟩ := exists_of_get_eq_some hget
    exact absurd hemail (h e (List.mem_filter.mpr ⟨he, decide_eq_true hfresh⟩))

namespace Remote

/-- The directory over the network, with the time that its calls take. -/
def timed (net : Network σ) (url rolesUrl : String) (elapsed : Transcript σ → Nat)
    (timeOfDay : Transcript σ → Int64 → Int64) : Directory (Transcript σ) :=
  { directory (Transcript.network net) url rolesUrl with elapsed, timeOfDay }

/-- The calls of a part of a run, with the responses to them. -/
structure Traced (url : String) (s t : RunState (Transcript σ))
    (steps : List (DirectoryCall × Option Response)) : Prop where
  calls : t.calls = s.calls ++ steps.map Prod.fst
  exchanged : ∃ log, t.outside.exchanges = s.outside.exchanges ++ log ∧ AllExchanged url steps log

namespace Traced

variable {url : String} {s t u : RunState (Transcript σ)}
  {steps more : List (DirectoryCall × Option Response)}

theorem trans (h : Traced url s t steps) (k : Traced url t u more) :
    Traced url s u (steps ++ more) where
  calls := by rw [k.calls, h.calls, List.map_append, List.append_assoc]
  exchanged := by
    obtain ⟨log, hlog, hall⟩ := h.exchanged
    obtain ⟨later, hlater, hmore⟩ := k.exchanged
    exact ⟨log ++ later, by rw [hlater, hlog, List.append_assoc], hall.append hmore⟩

theorem keep {ε : Type} (h : Traced url s t steps) (email : String) (found : Except ε Account) :
    Traced url s (t.keep email found) steps := by
  cases found with
  | error e => exact h
  | ok account => exact ⟨h.calls, h.exchanged⟩

end Traced

variable (net : Network σ) (url rolesUrl : String) (elapsed : Transcript σ → Nat)
  (timeOfDay : Transcript σ → Int64 → Int64) {c : Claims} {s t : RunState (Transcript σ)}

theorem traced_listed {reply : Reply (List Account)}
    (h : Resolver.listed (timed net url rolesUrl elapsed timeOfDay) c s = (reply, t)) :
    ∃ response, Traced url s t [(Resolver.askFor c, response)] ∧
      (∀ accounts, reply = .ok accounts ↔ Lists response accounts) ∧ t.cache = s.cache := by
  obtain ⟨hact, hcache, hcalls⟩ := Run.call_eq_mk h
  obtain ⟨now, response, hexchanged, hexchanges, hreply⟩ :=
    exchanged_list net url rolesUrl (MailFilter.filter c.email) Resolver.pageSize s.outside
  simp only [timed] at hact
  rw [hact] at hexchanges hreply
  refine ⟨response, ⟨hcalls, now, hexchanges, ?_⟩, hreply, hcache⟩
  rw [← List.append_nil now]
  exact .cons hexchanged .nil

theorem traced_created {reply : Reply Account}
    (h : Resolver.created (timed net url rolesUrl elapsed timeOfDay) c s = (reply, t)) :
    ∃ response, Traced url s t [(.create (Resolver.newAccount c), response)] := by
  obtain ⟨hact, -, hcalls⟩ := Run.call_eq_mk h
  obtain ⟨now, response, hexchanged, hexchanges⟩ :=
    exchanged_create net url rolesUrl (Resolver.newAccount c) s.outside
  simp only [timed] at hact
  rw [hact] at hexchanges
  refine ⟨response, ⟨hcalls, now, hexchanges, ?_⟩⟩
  rw [← List.append_nil now]
  exact .cons hexchanged .nil

/-- What a search asks for, with the responses: it is over with the first listing that has an account
or fails. -/
inductive Searched (c : Claims) : List (DirectoryCall × Option Response) → Prop
  | one {first : Option Response} (h : ¬ Lists first []) : Searched c [(Resolver.askFor c, first)]
  | two {first second : Option Response} (h : Lists first []) (h' : ¬ Lists second []) :
      Searched c [(Resolver.askFor c, first), (Resolver.askFor c, second)]
  | created {first second : Option Response} (h : Lists first []) (h' : Lists second [])
      (third : Option Response) :
      Searched c [(Resolver.askFor c, first), (Resolver.askFor c, second),
        (.create (Resolver.newAccount c), third)]

namespace Searched

variable {steps : List (DirectoryCall × Option Response)} {response : Option Response}

theorem creates_iff (h : Searched c steps) :
    (∃ a, .create a ∈ steps.map Prod.fst) ↔ ∃ first second rest,
      steps = (Resolver.askFor c, first) :: (Resolver.askFor c, second) :: rest ∧
        Lists first [] ∧ Lists second [] := by
  cases h with
  | one h => simp [Resolver.askFor]
  | two h h' => simp [Resolver.askFor, h']
  | created h h' third => simp [h, h']

theorem mem_calls {call : DirectoryCall} (h : Searched c steps) (hmem : call ∈ steps.map Prod.fst) :
    call = Resolver.askFor c ∨ call = .create (Resolver.newAccount c) := by
  cases h with
  | one => exact Or.inl (by simpa using hmem)
  | two => exact Or.inl (by simpa using hmem)
  | created => simpa using hmem

/-- The account is asked for by a request exactly if it is to be created at all, provided that there
is an address for the request. -/
theorem sent_create_iff {url : String} {log : List (Outgoing × Delivery)} {o : Outgoing}
    (h : Searched c steps) (hlog : AllExchanged url steps log)
    (ho : request url (.create (Resolver.newAccount c)) = .ok o) :
    (∃ d, (o, d) ∈ log) ↔ ∃ a, .create a ∈ steps.map Prod.fst := by
  constructor
  · rintro ⟨d, hd⟩
    obtain ⟨call, hcall, hrequest⟩ := hlog.exists_call hd
    rcases h.mem_calls hcall with rfl | rfl
    · exact absurd ho (request_list_ne_create hrequest)
    · exact ⟨_, hcall⟩
  · rintro ⟨a, ha⟩
    obtain hask | hcreate := h.mem_calls ha
    · cases hask
    · exact hlog.sent (hcreate ▸ ha) ho

theorem eq_append_of_failed (h : Searched c steps) (hmem : (Resolver.askFor c, response) ∈ steps)
    (hfails : ∀ accounts, ¬ Lists response accounts) :
    (∃ init, steps = init ++ [(Resolver.askFor c, response)]) ∧
      ∀ a, .create a ∉ steps.map Prod.fst := by
  cases h with
  | one h =>
    obtain rfl : response = _ := by simpa using hmem
    exact ⟨⟨[], rfl⟩, by simp [Resolver.askFor]⟩
  | two h h' =>
    obtain rfl | rfl : response = _ ∨ response = _ := by simpa using hmem
    · exact absurd h (hfails [])
    · exact ⟨⟨[_], rfl⟩, by simp [Resolver.askFor]⟩
  | created h h' third =>
    obtain rfl | rfl : response = _ ∨ response = _ := by simpa [Resolver.askFor] using hmem
    · exact absurd h (hfails [])
    · exact absurd h' (hfails [])

end Searched

theorem unavailable_of_unlisted {reply : Reply (List Account)} {response : Option Response}
    (hlists : ∀ accounts, reply = .ok accounts ↔ Lists response accounts)
    (hcache : t.cache = s.cache) (hfails : ∀ accounts, ¬ Lists response accounts) :
    (∃ reason, (Resolver.judge c.email reply).bind Resolver.ifEnabled =
      .error (.directoryUnavailable c.email reason)) ∧
      (t.keep c.email (Resolver.judge c.email reply)).cache = s.cache := by
  obtain ⟨hreason, hkeep⟩ := Resolver.judge_of_failed c.email
    (fun accounts hreply => hfails accounts ((hlists accounts).mp hreply)) t
  rw [hkeep]
  exact ⟨hreason, hcache⟩

theorem traced_search {run : Except IdentityError Account × RunState (Transcript σ)}
    (h : Resolver.Search (timed net url rolesUrl elapsed timeOfDay) c s run) :
    ∃ steps, Traced url s run.2 steps ∧ Searched c steps ∧
      ∀ init response, steps = init ++ [(Resolver.askFor c, response)] →
        (∀ accounts, ¬ Lists response accounts) →
        (∃ reason, run.1 = .error (.directoryUnavailable c.email reason)) ∧
          run.2.cache = s.cache := by
  cases h with
  | one h hreply =>
    obtain ⟨first, htraced, hlists, hcache⟩ := traced_listed net url rolesUrl elapsed timeOfDay h
    refine ⟨_, htraced.keep c.email _, .one (mt (hlists []).mpr hreply), ?_⟩
    intro init response heq
    obtain rfl : first = response := by simpa using congrArg List.getLast? heq
    exact unavailable_of_unlisted hlists hcache
  | two hempty h hreply =>
    obtain ⟨first, htraced, hlists, hcache⟩ :=
      traced_listed net url rolesUrl elapsed timeOfDay hempty
    obtain ⟨second, htraced', hlists', hcache'⟩ :=
      traced_listed net url rolesUrl elapsed timeOfDay h
    refine ⟨_, (htraced.trans htraced').keep c.email _,
      .two ((hlists []).mp rfl) (mt (hlists' []).mpr hreply), ?_⟩
    intro init response heq
    obtain rfl : second = response := by simpa using congrArg List.getLast? heq
    exact unavailable_of_unlisted hlists' (hcache'.trans hcache)
  | created hempty hagain h =>
    obtain ⟨first, htraced, hlists, -⟩ := traced_listed net url rolesUrl elapsed timeOfDay hempty
    obtain ⟨second, htraced', hlists', -⟩ := traced_listed net url rolesUrl elapsed timeOfDay hagain
    obtain ⟨third, htraced''⟩ := traced_created net url rolesUrl elapsed timeOfDay h
    refine ⟨_, ((htraced.trans htraced').trans htraced'').keep c.email _,
      .created ((hlists []).mp rfl) ((hlists' []).mp rfl) third, ?_⟩
    intro init response heq
    simpa [Resolver.askFor] using congrArg List.getLast? heq

/-- An account is created exactly if both listings before were answered, with success, by a body
that lists no account; and that is when the request for it is sent, if there is an address for it.
Whatever else comes of a listing, that the path is not known included, the directory counts as
unavailable, and what is remembered and fresh stays. Where a record is asked for by its id, the same
answer means that there is none. -/
theorem created_iff (hblank : Resolver.isBlank c.email = false)
    (hmissing : ∀ e ∈ s.cache.fresh s.clock, e.email ≠ c.email) :
    let dir := timed net url rolesUrl elapsed timeOfDay
    let run := Resolver.resolve dir c s
    (∃ steps, Traced url s run.2 steps ∧
      ((∃ a, .create a ∈ steps.map Prod.fst) ↔ ∃ first second rest,
        steps = (Resolver.askFor c, first) :: (Resolver.askFor c, second) :: rest ∧
          Lists first [] ∧ Lists second []) ∧
      (∀ log o, run.2.outside.exchanges = s.outside.exchanges ++ log →
        request url (.create (Resolver.newAccount c)) = .ok o →
        ((∃ d, (o, d) ∈ log) ↔ ∃ first second rest,
          steps = (Resolver.askFor c, first) :: (Resolver.askFor c, second) :: rest ∧
            Lists first [] ∧ Lists second [])) ∧
      ∀ response, (Resolver.askFor c, response) ∈ steps →
        (∀ accounts, ¬ Lists response accounts) →
        (∃ reason, run.1 = .error (.directoryUnavailable c.email reason)) ∧
          (∀ a, .create a ∉ steps.map Prod.fst) ∧
          ∀ now, s.clock ≤ now → run.2.cache.fresh now = s.cache.fresh now) ∧
    ∀ id w o r, (dir.get id w).2.exchanges = w.exchanges ++ [(o, .answer r)] → r.status = 404 →
      (dir.get id w).1 = .ok none := by
  intro dir run
  refine ⟨?_, fun id w o r h hr => ?_⟩
  · have hnone : (s.remembered c.email).1 = none := AccountCache.get_of_not_fresh hmissing
    have hstart : Traced url s (s.remembered c.email).2 [] :=
      ⟨(List.append_nil _).symm, [], (List.append_nil _).symm, .nil⟩
    obtain ⟨steps, htraced, hsearched, hlast⟩ := traced_search net url rolesUrl elapsed timeOfDay
      (Resolver.search_resolve dir hblank hnone)
    have htraced := hstart.trans htraced
    refine ⟨steps, htraced, hsearched.creates_iff, fun log o hexchanges ho => ?_,
      fun response hmem hfails => ?_⟩
    · obtain ⟨log', hlog', hall⟩ := htraced.exchanged
      obtain rfl := List.append_cancel_left (hexchanges.symm.trans hlog')
      exact (hsearched.sent_create_iff hall ho).trans hsearched.creates_iff
    obtain ⟨⟨init, hinit⟩, hcreates⟩ := hsearched.eq_append_of_failed hmem hfails
    obtain ⟨hreason, hcache⟩ := hlast init response hinit hfails
    refine ⟨hreason, hcreates, fun now hnow => ?_⟩
    rw [hcache]
    exact AccountCache.fresh_get hmissing hnow
  · simp only [dir, timed] at h ⊢
    exact get_of_not_found net url rolesUrl id h hr

/-- A service that answers everything with an empty object, in which there are no accounts. -/
def vacant : Network Unit :=
  fun _ => pure (.answer { status := 200, body := Utf8.encode "\x7b\x7d" })

def vacantDirectory : Directory (Transcript Unit) :=
  timed vacant "http://[::1]" "http://[::1]" (fun _ => 5) fun _ seconds => seconds

def newcomer : Claims := { email := "a@x.com" }

def untouched : RunState (Transcript Unit) :=
  { cache := .empty 16 60000, outside := { services := () } }

/-- For the newcomer an account is created and the request for it is sent, and both listings before had
none. -/
theorem created_iff_of_newcomer :
    (Resolver.resolve vacantDirectory newcomer untouched).2.calls =
        [Resolver.askFor newcomer, Resolver.askFor newcomer,
          .create (Resolver.newAccount newcomer)] ∧
      ∃ steps first second rest,
        Traced "http://[::1]" untouched (Resolver.resolve vacantDirectory newcomer untouched).2
          steps ∧
        (steps = (Resolver.askFor newcomer, first) :: (Resolver.askFor newcomer, second) :: rest ∧
          Lists first [] ∧ Lists second []) ∧
        ∃ o d, request "http://[::1]" (.create (Resolver.newAccount newcomer)) = .ok o ∧
          (o, d) ∈ (Resolver.resolve vacantDirectory newcomer untouched).2.outside.exchanges := by
  have hcalls : (Resolver.resolve vacantDirectory newcomer untouched).2.calls =
      [Resolver.askFor newcomer, Resolver.askFor newcomer,
        .create (Resolver.newAccount newcomer)] := by decide +kernel
  have hblank : Resolver.isBlank newcomer.email = false := by decide +kernel
  obtain ⟨⟨steps, htraced, hiff, hsent, -⟩, -⟩ :=
    created_iff vacant "http://[::1]" "http://[::1]" (fun _ => 5) (fun _ seconds => seconds)
      hblank (s := untouched) nofun
  have hsteps : steps.map Prod.fst = [Resolver.askFor newcomer, Resolver.askFor newcomer,
      .create (Resolver.newAccount newcomer)] := htraced.calls.symm.trans hcalls
  obtain ⟨first, second, rest, hlisted⟩ := hiff.mp ⟨Resolver.newAccount newcomer, by simp [hsteps]⟩
  obtain ⟨o, ho⟩ : ∃ o, request "http://[::1]" (.create (Resolver.newAccount newcomer)) = .ok o := by
    have hok : (request "http://[::1]" (.create (Resolver.newAccount newcomer))).isOk = true := by
      decide +kernel
    cases hrequest : request "http://[::1]" (.create (Resolver.newAccount newcomer)) with
    | error fault =>
      rw [hrequest] at hok
      cases hok
    | ok o => exact ⟨o, rfl⟩
  obtain ⟨d, hd⟩ := (hsent _ o (List.nil_append _).symm ho).mpr ⟨first, second, rest, hlisted⟩
  exact ⟨hcalls, steps, first, second, rest, htraced, hlisted, o, d, ho, hd⟩

end Remote

end Gatehouse
