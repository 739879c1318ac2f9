import Gatehouse.Directory.Remote
import Gatehouse.Proofs.Text.Utf8
import Mathlib.Tactic

/-!
# What is exchanged with the directory

A transcript holds every request that left for the network and what was delivered for it. Each call
to the directory leads to one exchange at most, and the reply to the call is what was delivered. Only
an answer of success with a listing in it is a listing; that the service does not know the path is
none.
-/

namespace Gatehouse

variable {σ : Type}

/-- The network, and all that was exchanged over it. -/
structure Transcript (σ : Type) where
  services : σ
  exchanges : List (Outgoing × Delivery) := []

def Transcript.network (net : Network σ) : Network (Transcript σ) := fun o w =>
  let (d, services) := net o w.services
  (d, { services, exchanges := w.exchanges ++ [(o, d)] })

def Delivery.response? : Delivery → Option Response
  | .nothing => none
  | .answer r => some r

namespace Remote

def pathOf : DirectoryCall → String
  | .list .. => listPath
  | .create _ => createPath
  | .get _ => getPath
  | .roles _ => rolesPath

def bodyOf : DirectoryCall → Json
  | .list query pageSize => .object [("query", .text query), ("page_size", .nat pageSize)]
  | .create account => .object [("account", Wire.encode account)]
  | .get id => .object [("id", .text id)]
  | .roles account => .object [("account_uuid", .text account)]

/-- The request for a call, if there is an address for it. -/
def request (url : String) (call : DirectoryCall) : Except Client.Fault Outgoing :=
  (Client.address (base url ++ pathOf call)).map fun (url, credentials) =>
    { method := .post, url, credentials, headers, body := Utf8.encode (bodyOf call).print
      followsRedirections := true }

/-- What is exchanged for one call, and the response to it. Without an address there is none. -/
inductive Exchanged (url : String) (call : DirectoryCall) :
    List (Outgoing × Delivery) → Option Response → Prop
  | unaddressed {fault : Client.Fault} (h : request url call = .error fault) :
      Exchanged url call [] none
  | sent {o : Outgoing} (h : request url call = .ok o) (d : Delivery) :
      Exchanged url call [(o, d)] d.response?

/-- What is exchanged for several calls, one after the other. -/
inductive AllExchanged (url : String) :
    List (DirectoryCall × Option Response) → List (Outgoing × Delivery) → Prop
  | nil : AllExchanged url [] []
  | cons {call : DirectoryCall} {response : Option Response}
      {now later : List (Outgoing × Delivery)}
      {rest : List (DirectoryCall × Option Response)} (h : Exchanged url call now response)
      (hrest : AllExchanged url rest later) :
      AllExchanged url ((call, response) :: rest) (now ++ later)

/-! ### Requests -/

theorem body_of_request {url : String} {call : DirectoryCall} {o : Outgoing}
    (h : request url call = .ok o) : o.body = Utf8.encode (bodyOf call).print := by
  unfold request at h
  cases haddress : Client.address (base url ++ pathOf call) with
  | error fault =>
    rw [haddress] at h
    cases h
  | ok found =>
    rw [haddress] at h
    obtain rfl := Except.ok.inj h
    rfl

/-- The names of what they hold tell the bodies of listings and creations apart. -/
theorem request_list_ne_create {url query : String} {pageSize : Nat} {account : Account}
    {o : Outgoing} (h : request url (.list query pageSize) = .ok o) :
    request url (.create account) ≠ .ok o := by
  intro h'
  have hprint : (bodyOf (.list query pageSize)).print = (bodyOf (.create account)).print :=
    Utf8.encode_injective ((body_of_request h).symm.trans (body_of_request h'))
  have hthird := congrArg (fun s : String => s.toList[2]?) hprint
  simp only [Json.print, String.toList_ofList] at hthird
  have hlist : (bodyOf (.list query pageSize)).printChars[2]? = some 'q' := rfl
  have hcreate : (bodyOf (.create account)).printChars[2]? = some 'a' := rfl
  rw [hlist, hcreate] at hthird
  cases hthird

section

variable {url : String} {steps : List (DirectoryCall × Option Response)}
  {log : List (Outgoing × Delivery)} {call : DirectoryCall} {o : Outgoing}

theorem AllExchanged.sent (h : AllExchanged url steps log) (hcall : call ∈ steps.map Prod.fst)
    (ho : request url call = .ok o) : ∃ d, (o, d) ∈ log := by
  induction h with
  | nil => cases hcall
  | cons h _ ih =>
    rcases List.mem_cons.mp hcall with rfl | hcall
    · cases h with
      | unaddressed hnone =>
        rw [ho] at hnone
        cases hnone
      | sent hsent d =>
        obtain rfl := Except.ok.inj (ho.symm.trans hsent)
        exact ⟨d, List.mem_append_left _ (List.mem_singleton_self _)⟩
    · obtain ⟨d, hd⟩ := ih hcall
      exact ⟨d, List.mem_append_right _ hd⟩

theorem AllExchanged.exists_call {d : Delivery} (h : AllExchanged url steps log)
    (hsent : (o, d) ∈ log) : ∃ call ∈ steps.map Prod.fst, request url call = .ok o := by
  induction h with
  | nil => cases hsent
  | @cons call response now later rest h _ ih =>
    rcases List.mem_append.mp hsent with hsent | hsent
    · cases h with
      | unaddressed => cases hsent
      | sent ho d' =>
        obtain ⟨rfl, -⟩ := Prod.ext_iff.mp (List.mem_singleton.mp hsent)
        exact ⟨call, List.mem_cons_self, ho⟩
    · obtain ⟨call', hmem, ho⟩ := ih hsent
      exact ⟨call', List.mem_cons_of_mem _ hmem, ho⟩

end

theorem AllExchanged.append {url : String} {steps more : List (DirectoryCall × Option Response)}
    {log later : List (Outgoing × Delivery)} (h : AllExchanged url steps log)
    (k : AllExchanged url more later) : AllExchanged url (steps ++ more) (log ++ later) := by
  induction h with
  | nil => exact k
  | cons h hrest ih =>
    rw [List.append_assoc]
    exact .cons h ih

/-- A response of success whose body is read as a value. -/
def Holds {α : Type} [Wire α] (r : Response) (a : α) : Prop :=
  Status.isSuccess r.status = true ∧ r.complete = true ∧ Wire.ofBytes r.body = .ok a

/-- A response that lists these accounts. -/
def Lists (response : Option Response) (accounts : List Account) : Prop :=
  ∃ r, response = some r ∧ ∃ l : Listing, Holds r l ∧ l.accounts = accounts

section Replies

variable {α : Type} [Wire α] {r : Response} {a : α}

theorem result_eq_ok : result α r = .ok a ↔ r.complete = true ∧ Wire.ofBytes r.body = .ok a := by
  unfold result
  cases hcomplete : r.complete with
  | false => simp
  | true =>
    cases hread : (Wire.ofBytes r.body : Except DecodeError α) with
    | error e => simp [Except.toOption]
    | ok b => simp [Except.toOption]

theorem judge_eq_some : judge α r = .ok (some a) ↔ Holds r a := by
  unfold judge Holds
  split_ifs with hnone hsuccess
  · rw [hnone]
    simp [Status.isSuccess]
  · rw [← result_eq_ok]
    cases result α r <;> simp [hsuccess, Except.map]
  · simp [hsuccess]

theorem judge_of_not_found (h : r.status = 404) : judge α r = .ok none := by
  rw [judge, if_pos h]

end Replies

variable (net : Network σ) (url rolesUrl : String)

def reply (α : Type) [Wire α] (o : Outgoing) : Delivery → Reply (Option α)
  | .nothing => .error (.transport (Client.Fault.noAnswer o.url.print).message)
  | .answer r => judge α r

theorem post_eq (α : Type) [Wire α] (call : DirectoryCall) (w : Transcript σ) :
    post (Transcript.network net) α url (pathOf call) (bodyOf call) w =
      match request url call with
      | .error fault => (.error (.transport fault.message), w)
      | .ok o =>
        let (d, services) := net o w.services
        (reply α o d, { services, exchanges := w.exchanges ++ [(o, d)] }) := by
  unfold post Client.send request
  cases Client.address (base url ++ pathOf call) with
  | error fault => rfl
  | ok found =>
    simp only [bind, StateT.bind, Except.map, Transcript.network]
    rcases net _ w.services with ⟨_ | r, services⟩
    · rfl
    · rfl

theorem exchanged_post (α : Type) [Wire α] (call : DirectoryCall) (w : Transcript σ) :
    ∃ now response, Exchanged url call now response ∧
      (post (Transcript.network net) α url (pathOf call) (bodyOf call) w).2.exchanges =
        w.exchanges ++ now ∧
      ((∃ e, response = none ∧
          (post (Transcript.network net) α url (pathOf call) (bodyOf call) w).1 = .error e) ∨
        ∃ r, response = some r ∧
          (post (Transcript.network net) α url (pathOf call) (bodyOf call) w).1 = judge α r) := by
  rw [post_eq]
  cases hrequest : request url call with
  | error fault =>
    exact ⟨[], none, .unaddressed hrequest, (List.append_nil _).symm, Or.inl ⟨_, rfl, rfl⟩⟩
  | ok o =>
    simp only
    rcases net o w.services with ⟨_ | r, services⟩
    · exact ⟨_, _, .sent hrequest .nothing, rfl, Or.inl ⟨_, rfl, rfl⟩⟩
    · exact ⟨_, _, .sent hrequest (.answer r), rfl, Or.inr ⟨r, rfl, rfl⟩⟩

theorem required_eq_ok {α : Type} {path : String} {posted : Reply (Option α)} {a : α} :
    required path posted = .ok a ↔ posted = .ok (some a) := by
  rcases posted with e | _ | b <;> simp [required]

theorem required_iff (α : Type) [Wire α] (path : String) {posted : Reply (Option α)}
    {response : Option Response} (h : (∃ e, response = none ∧ posted = .error e) ∨
      ∃ r, response = some r ∧ posted = judge α r) (a : α) :
    required path posted = .ok a ↔ ∃ r, response = some r ∧ Holds r a := by
  rw [required_eq_ok]
  rcases h with ⟨e, rfl, rfl⟩ | ⟨r, rfl, rfl⟩
  · simp
  · simp [judge_eq_some]

theorem list_eq (query : String) (pageSize : Nat) (w : Transcript σ) :
    (directory (Transcript.network net) url rolesUrl).list query pageSize w =
      ((required listPath (post (Transcript.network net) Listing url
          (pathOf (.list query pageSize)) (bodyOf (.list query pageSize)) w).1).map Listing.accounts,
        (post (Transcript.network net) Listing url
          (pathOf (.list query pageSize)) (bodyOf (.list query pageSize)) w).2) := by
  simp only [directory, pathOf, bodyOf, bind, StateT.bind]
  rcases post (Transcript.network net) Listing url listPath _ w with ⟨posted, w'⟩
  rfl

theorem create_eq (account : Account) (w : Transcript σ) :
    (directory (Transcript.network net) url rolesUrl).create account w =
      (required createPath (post (Transcript.network net) Account url
          (pathOf (.create account)) (bodyOf (.create account)) w).1,
        (post (Transcript.network net) Account url
          (pathOf (.create account)) (bodyOf (.create account)) w).2) := by
  simp only [directory, pathOf, bodyOf, bind, StateT.bind]
  rcases post (Transcript.network net) Account url createPath _ w with ⟨posted, w'⟩
  rfl

theorem get_eq (id : String) (w : Transcript σ) :
    (directory (Transcript.network net) url rolesUrl).get id w =
      post (Transcript.network net) Account url (pathOf (.get id)) (bodyOf (.get id)) w := by
  simp only [directory, pathOf, bodyOf]

theorem exchanged_list (query : String) (pageSize : Nat) (w : Transcript σ) :
    ∃ now response, Exchanged url (.list query pageSize) now response ∧
      ((directory (Transcript.network net) url rolesUrl).list query pageSize w).2.exchanges =
        w.exchanges ++ now ∧
      ∀ accounts, ((directory (Transcript.network net) url rolesUrl).list query pageSize w).1 =
        .ok accounts ↔ Lists response accounts := by
  obtain ⟨now, response, hexchanged, hexchanges, hposted⟩ :=
    exchanged_post net url Listing (.list query pageSize) w
  have hiff := required_iff Listing listPath hposted
  rw [list_eq]
  dsimp only
  refine ⟨now, response, hexchanged, hexchanges, fun accounts => ?_⟩
  generalize required listPath _ = found at hiff ⊢
  constructor
  · intro h
    cases found with
    | error e => cases h
    | ok l =>
      obtain ⟨r, hr, hholds⟩ := (hiff l).mp rfl
      exact ⟨r, hr, l, hholds, Except.ok.inj h⟩
  · rintro ⟨r, hr, l, hholds, rfl⟩
    rw [(hiff l).mpr ⟨r, hr, hholds⟩]
    rfl

theorem exchanged_create (account : Account) (w : Transcript σ) :
    ∃ now response, Exchanged url (.create account) now response ∧
      ((directory (Transcript.network net) url rolesUrl).create account w).2.exchanges =
        w.exchanges ++ now := by
  obtain ⟨now, response, hexchanged, hexchanges, -⟩ :=
    exchanged_post net url Account (.create account) w
  rw [create_eq]
  dsimp only
  exact ⟨now, response, hexchanged, hexchanges⟩

/-- Where a record is asked for by its id, "not found" means that there is none. -/
theorem get_of_not_found (id : String) {w : Transcript σ} {o : Outgoing} {r : Response}
    (h : ((directory (Transcript.network net) url rolesUrl).get id w).2.exchanges =
      w.exchanges ++ [(o, .answer r)]) (hr : r.status = 404) :
    ((directory (Transcript.network net) url rolesUrl).get id w).1 = .ok none := by
  obtain ⟨now, response, hexchanged, hnow, hposted⟩ :=
    exchanged_post net url Account (.get id) w
  rw [get_eq] at h ⊢
  have hsame : now = [(o, Delivery.answer r)] := List.append_cancel_left (hnow.symm.trans h)
  subst hsame
  cases hexchanged with
  | sent hrequest d =>
    rcases hposted with ⟨e, hnone, -⟩ | ⟨r', hsome, hjudge⟩
    · cases hnone
    · obtain rfl := Option.some.inj hsome
      exact hjudge.trans (judge_of_not_found hr)

end Remote

end Gatehouse
