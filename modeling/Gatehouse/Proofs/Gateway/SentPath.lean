import Gatehouse.Gateway.Server
import Gatehouse.Proofs.Gateway.Destination
import Gatehouse.Proofs.Url.Composed

/-!
# The path that a backend sees

A request that is prepared has the path of its backend with the path of the request behind it. But
the client reads the target of the request once more, as an address of the web, and sends what it
has read. The path stays what it is exactly if the path of the request is in normal form; else dots
in it are followed, up to the root of the backend.
-/

namespace Gatehouse

/-! ## A target that is read once more -/

namespace Uri

def queryText (u : Uri) : List Char :=
  match u.query with
  | some q => '?' :: q.toList
  | none => []

theorem toList_print {u : Uri} {scheme authority : String} (hscheme : u.scheme = some scheme)
    (hauthority : u.authority = some authority) :
    u.print.toList = absolute scheme.toList authority.toList (u.path.toList ++ u.queryText) := by
  unfold print queryText absolute
  rw [hscheme, hauthority]
  cases u.query with
  | none => simp
  | some q => simp

theorem ends_queryText (u : Uri) : Url.Path.Ends u.queryText := by
  unfold queryText
  split
  · exact fun c hc => Or.inl (Option.some.inj hc).symm
  · exact nofun

theorem visible_queryText {u : Uri}
    (h : ∀ q, u.query = some q → ∀ c ∈ q.toList, isQueryChar c = true) :
    ∀ c ∈ u.queryText, 0x20 < c.toNat := by
  unfold queryText
  split
  · rename_i q hq
    intro c hc
    rcases List.mem_cons.mp hc with rfl | hc
    · decide
    · exact (visible_of_isQueryChar (h q hq c hc)).1
  · exact List.forall_mem_nil _

end Uri

/-- What is read behind a slash is the same text if it is normal, and normal in any case. -/
theorem Url.Path.read_eq_iff {p rest : List Char} (hrest : Ends rest) :
    IsNormal ((read .web true ⟨['/'], false⟩ [] (p ++ rest)).1.finish .web) ∧
      ((read .web true ⟨['/'], false⟩ [] (p ++ rest)).1.finish .web = '/' :: p ↔ IsNormal p) := by
  have hnormal : IsNormal ((read .web true ⟨['/'], false⟩ [] (p ++ rest)).1.finish .web) :=
    isNormal_read true ⟨[], rfl, isNormal_nil⟩ (List.forall_mem_nil _) _
  refine ⟨hnormal, fun h => ?_, fun h => ?_⟩
  · rw [h] at hnormal
    exact isNormal_cons.mp hnormal
  · have hp : IsNormal ([].reverse ++ p) := h
    rw [read_of_isNormal true _ hp List.not_mem_nil hrest]
    simp [Draft.finish]

namespace Director

variable {d : Director} {path query : String} {u : Uri}

/-- A target is read as an address whose path is in normal form, and which has the path of the
target exactly if the path of the request was normal. -/
theorem path_of_parse_target (hd : d.WellFormed) (hweb : d.scheme = "http" ∨ d.scheme = "https")
    (hpath : ∀ c ∈ path.toList, Uri.isPathChar c = true) (h : d.target path query = .ok u)
    {url : Url} (hurl : Url.parse u.print = .ok url) :
    Url.Path.IsNormal url.path.toList ∧
      (url.path = joinPaths d.basePath path ↔ Url.Path.IsNormal path.toList) := by
  have hkind := Url.kind_web hweb
  obtain ⟨hscheme, hauthority, hne, hread⟩ := target_eq_ok hd h
  have hjoin := path_target hd hkind hpath h
  obtain ⟨-, hchars, hquery⟩ := Uri.readPath_eq_ok hread
  simp only at hchars hquery
  obtain ⟨tail, htail⟩ := Uri.exists_tail (head?_joinPaths hd.basePath path)
  have hvisible : ∀ c ∈ tail ++ u.queryText, 0x20 < c.toNat := by
    intro c hc
    rcases List.mem_append.mp hc with hc | hc
    · refine (Uri.visible_of_isPathChar (hchars c ?_)).1
      rw [hjoin, htail]
      exact List.mem_cons_of_mem _ hc
    · exact Uri.visible_queryText hquery c hc
  rw [← String.ofList_toList (s := u.print), Uri.toList_print hscheme hauthority, hjoin, htail,
    List.cons_append] at hurl
  have hsent := Url.path_of_parse_absolute hweb hne hd.authority.isHostChar hvisible hurl
  obtain ⟨hnormal, hiff⟩ := Url.Path.read_eq_iff (p := tail) u.ends_queryText
  rw [← hsent] at hnormal hiff
  refine ⟨hnormal, ?_⟩
  rw [← String.toList_inj, htail, hiff, ← isNormal_joinPaths (hd.web hkind), htail,
    Url.Path.isNormal_cons]

end Director

/-! ## What the client sends -/

theorem Client.address_eq_ok {text : String} {sent : Url × Option Credentials}
    (h : address text = .ok sent) :
    ∃ url, Url.parse text = .ok url ∧ sent.1.path = url.path := by
  unfold address at h
  split at h
  · cases h
  · rename_i url hurl
    dsimp only at h
    split_ifs at h
    obtain rfl := Except.ok.inj h
    refine ⟨url, hurl, ?_⟩
    simp only [withoutCredentials]
    split_ifs
    · rfl
    · rfl

namespace Server

/-- What is answered when a request to an address has been delivered or not. -/
def answered (url : Url) : Delivery → Except GatewayError Response
  | .nothing => .error ⟨.backend, (Client.Fault.noAnswer url.print).message⟩
  | .answer r => .ok { r with headers := HopByHop.strip r.headers }

/-- For a request the network is asked for one thing and no other, and what it delivers is
answered. -/
def Sends (q : Request) (o : Outgoing) : Prop :=
  ∀ {σ : Type} (net : Network σ) (u : σ),
    forward net q u = (answered o.url (net o u).1, (net o u).2)

def SendsNothing (q : Request) : Prop :=
  ∃ fault, ∀ {σ : Type} (net : Network σ) (u : σ), forward net q u = (.error fault, u)

theorem forward_cases (q : Request) :
    SendsNothing q ∨
      ∃ o, Sends q o ∧ ∃ url, Url.parse q.uri.print = .ok url ∧ o.url.path = url.path := by
  cases haddress : Client.address q.uri.print with
  | error e =>
    refine Or.inl ⟨⟨.backend, e.message⟩, fun net u => ?_⟩
    simp only [forward, relay, Client.send, haddress]
    rfl
  | ok sent =>
    obtain ⟨url, hurl, hpath⟩ := Client.address_eq_ok haddress
    let o : Outgoing := ⟨q.method, sent.1, sent.2, outgoing q.headers, q.body, false⟩
    refine Or.inr ⟨o, fun net u => ?_, url, hurl, hpath⟩
    simp only [forward, relay, Client.send, haddress, bind, StateT.bind]
    rcases net _ u with ⟨_ | r, v⟩
    · rfl
    · rfl

variable {σ : Type}

/-- What is sent to a backend of the web always has a path in normal form, and it has the path that
the request was prepared with, that of the backend with that of the request behind it, exactly if
the path of the request was normal. -/
theorem sent_path_iff (net : Network σ) (dir : Directory σ) {policies : List Policy} {e : Engine}
    (hbuild : RouteTable.build policies = .ok e.router.table) (claims : Option Claims)
    {r q : Request} {s : RunState σ} {target : String} (htarget : Uri.parse target = .ok r.uri)
    (h : (e.prepare dir claims r s).1 = .ok q)
    (hweb : q.uri.scheme = some "http" ∨ q.uri.scheme = some "https") :
    e.handle dir (forward net) claims r s =
        (e.prepare dir claims r s).2.exchange (forward net q) ∧
      ∃ policy d, (e.router.select dir claims r.uri
          (e.assertIdentity dir claims r.headers s).2).1 = (policy, some d) ∧
        q.uri.path = joinPaths d.basePath r.uri.path ∧
        (SendsNothing q ∨ ∃ o, Sends q o ∧ Url.Path.IsNormal o.url.path.toList ∧
          (o.url.path = joinPaths d.basePath r.uri.path ↔
            Url.Path.IsNormal r.uri.path.toList)) := by
  refine ⟨Engine.handle_of_prepare dir e claims (forward net) h, ?_⟩
  obtain ⟨headers, policy, d, -, hselect, happly⟩ := Engine.prepare_eq_ok dir e claims h
  refine ⟨policy, d, hselect, ?_⟩
  have hwell : d.WellFormed := by
    rw [Router.select_eq] at hselect
    obtain ⟨p, -, -, route, -, hnew⟩ := RouteTable.exists_route hbuild (Prod.mk.inj hselect).2
    exact Director.wellFormed_new hnew
  obtain ⟨uri, ks, hd, -, rfl⟩ := Director.apply_eq happly
  have hpath := (Uri.chars_parse htarget).1
  obtain ⟨hscheme, -, -, -⟩ := Director.target_eq_ok hwell hd
  have hweb : d.scheme = "http" ∨ d.scheme = "https" := by
    simpa [hscheme] using hweb
  refine ⟨Director.path_target hwell (Url.kind_web hweb) hpath hd, ?_⟩
  rcases forward_cases _ with hnothing | ⟨o, hsends, url, hurl, hsame⟩
  · exact Or.inl hnothing
  · refine Or.inr ⟨o, hsends, ?_⟩
    rw [hsame]
    exact Director.path_of_parse_target hwell hweb hpath hd hurl

def serviceRoute : Route := { endpoint := "/service1/", backend := "http://[::1]" }

def serviceDirector : Director where
  backend := "http://[::1]"
  scheme := "http"
  authority := "[::1]"
  basePath := "/"
  baseQuery := ""
  virtualHost := false

def serviceEngine : Engine where
  router := ⟨⟨[("default", { byPath := [("/service1/", serviceDirector)] })]⟩, .fixed "default"⟩

def silentDirectory : Directory (Option Outgoing) where
  list _ _ := pure (.ok [])
  create _ := pure (.error (.undecodable ""))
  get _ := pure (.ok none)
  roles _ := pure (.ok [])

/-- A network that only remembers what it was asked for last. -/
def recorder : Network (Option Outgoing) := fun o _ => (.nothing, some o)

/-- A request that is chosen a route for by the prefix it then leaves. -/
def leavingRequest : Request where
  method := .get
  uri := { path := "/service1/../admin" }

/-- The request that is prepared for it: its path still begins with the prefix. -/
def leavingTarget : Request where
  method := .get
  uri := { scheme := some "http", authority := some "[::1]", path := "/service1/../admin" }
  headers := [(.userAgent, [])]

/-- The address that the client reads in its target. -/
def adminUrl : Url where
  scheme := "http"
  slashes := true
  host := some (.ipv6 [0, 0, 0, 0, 0, 0, 0, 1])
  path := "/admin"

/-- A request for a path with two dots is sent to what is outside of the prefix that its route was
chosen for. -/
theorem sent_path_leaves_prefix :
    ∃ o, (serviceEngine.prepare silentDirectory none leavingRequest
        { cache := .empty 1 1, outside := none }).1 = .ok leavingTarget ∧
      Sends leavingTarget o ∧ o.url.path ≠ "/service1/../admin" ∧ o.url.path = "/admin" := by
  have hnew : Director.new "http://[::1]" false = .ok serviceDirector := rfl
  have hroutes : PolicyRoutes.ofPolicy { name := "default", routes := [serviceRoute] } =
      .ok { byPath := [("/service1/", serviceDirector)] } := by
    simp [PolicyRoutes.ofPolicy, PolicyRoutes.addAll, PolicyRoutes.add, PolicyRoutes.sort, hnew,
      serviceRoute, Route.rootEndpoint, Except.map, bind, Except.bind, pure, Except.pure]
  have hbuild : RouteTable.build [{ name := "default", routes := [serviceRoute] }] =
      .ok serviceEngine.router.table := by
    simp only [RouteTable.build, List.foldlM_cons, List.foldlM_nil, hroutes]
    rfl
  have hprepare : (serviceEngine.prepare silentDirectory none leavingRequest
      { cache := .empty 1 1, outside := none }).1 = .ok leavingTarget := rfl
  have haddress : Client.address leavingTarget.uri.print = .ok (adminUrl, none) := by decide +kernel
  have hrecorded : (forward recorder leavingTarget none).2.map (·.url.path) = some "/admin" := by
    simp only [forward, relay, Client.send, haddress]
    rfl
  have htarget : Uri.parse "/service1/../admin" = .ok leavingRequest.uri := rfl
  have hdots : ¬ Url.Path.IsNormal leavingRequest.uri.path.toList := by decide
  obtain ⟨-, policy, d, -, hpath, ⟨fault, hnothing⟩ | ⟨o, hsends, -, hiff⟩⟩ :=
    sent_path_iff recorder silentDirectory hbuild none htarget hprepare (Or.inl rfl)
  · rw [hnothing recorder none] at hrecorded
    cases hrecorded
  · rw [← hpath] at hiff
    rw [hsends recorder none] at hrecorded
    exact ⟨o, hprepare, hsends, fun heq => hdots (hiff.mp heq), Option.some.inj hrecorded⟩

end Server

end Gatehouse
