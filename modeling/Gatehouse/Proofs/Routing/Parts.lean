import Gatehouse.Proofs.Routing.Addressable
import Gatehouse.Text.Form

/-!
# The parts of a target

Path and query of a request are printed behind those of a backend, into one text with its scheme and
authority, and the text is read again as a target. Nothing is lost or mixed up on the way: the path
is the one path behind the other with one slash between them, and the query holds the fields
of the backend and then those of the request.
-/

namespace Gatehouse

/-! ## Joined paths and queries -/

def withoutLastSlash (path : String) : String :=
  if path.toList.getLast? = some '/' then String.ofList path.toList.dropLast else path

def withoutFirstSlash (path : String) : String :=
  if path.toList.head? = some '/' then String.ofList path.toList.tail else path

/-- Two queries with `&` between them if both hold something, else the one that does, if any. -/
def wholeQuery (fixed own : String) : Option String :=
  if fixed = "" then if own = "" then none else some own
  else if own = "" then some fixed else some (fixed ++ "&" ++ own)

theorem withoutLastSlash_append {a : String} (h : a.toList.getLast? = some '/') :
    withoutLastSlash a ++ "/" = a := by
  obtain ⟨front, hfront⟩ := List.getLast?_eq_some_iff.mp h
  apply String.toList_inj.mp
  simp [withoutLastSlash, hfront]

theorem slash_append_withoutFirstSlash {b : String} (h : b.toList.head? = some '/') :
    "/" ++ withoutFirstSlash b = b := by
  obtain ⟨back, hback⟩ := List.head?_eq_some_iff.mp h
  apply String.toList_inj.mp
  simp [withoutFirstSlash, hback]

/-- However many slashes the two paths bring along, there is one where they meet. -/
theorem joinPaths_eq_without (a b : String) :
    joinPaths a b = withoutLastSlash a ++ "/" ++ withoutFirstSlash b := by
  unfold joinPaths
  by_cases ha : a.toList.getLast? = some '/'
  · rw [beq_iff_eq.mpr ha, withoutLastSlash_append ha]
    by_cases hb : b.toList.head? = some '/'
    · rw [beq_iff_eq.mpr hb]
      simp only [withoutFirstSlash, if_pos hb, List.drop_one]
    · rw [beq_eq_false_iff_ne.mpr hb]
      simp only [withoutFirstSlash, if_neg hb]
  · rw [beq_eq_false_iff_ne.mpr ha, withoutLastSlash, if_neg ha]
    by_cases hb : b.toList.head? = some '/'
    · rw [beq_iff_eq.mpr hb]
      change a ++ b = a ++ "/" ++ withoutFirstSlash b
      rw [String.append_assoc, slash_append_withoutFirstSlash hb]
    · rw [beq_eq_false_iff_ne.mpr hb, withoutFirstSlash, if_neg hb]

theorem withoutLastSlash_root : withoutLastSlash "/" = "" := rfl

theorem wholeQuery_eq (a b : String) :
    wholeQuery a b = if joinQueries a b = "" then none else some (joinQueries a b) := by
  by_cases ha : a = "" <;> by_cases hb : b = "" <;> simp [wholeQuery, joinQueries, ha, hb]

theorem getD_wholeQuery (a b : String) : (wholeQuery a b).getD "" = joinQueries a b := by
  by_cases ha : a = "" <;> by_cases hb : b = "" <;> simp [wholeQuery, joinQueries, ha, hb]

theorem wholeQuery_empty (own : Option String) :
    wholeQuery "" (own.getD "") = own.filter (· ≠ "") := by
  cases own with
  | none => rfl
  | some q => by_cases hq : q = "" <;> simp [wholeQuery, Option.filter_some, hq]

/-! ## Fields of joined queries -/

namespace Form

theorem fields_append_cons (a b : List Char) :
    fields (a ++ '&' :: b) = fields a ++ fields b := by
  rw [fields, List.splitOn_append_cons_self, List.filter_append, ← fields, ← fields]

theorem parameters_empty : parameters "" = [] := rfl

theorem parameters_field {field : List Char} (hne : field ≠ []) (h : '&' ∉ field) :
    parameters (String.ofList field) =
      [(decodePart (splitField field).1, decodePart (splitField field).2)] := by
  simp [parameters, fields, List.splitOn_eq_singleton h, hne]

/-- An ampersand ends a field whatever is on either side of it. -/
theorem parameters_append (a b : String) :
    parameters (a ++ "&" ++ b) = parameters a ++ parameters b := by
  have hlist : (a ++ "&" ++ b).toList = a.toList ++ '&' :: b.toList := by simp
  simp only [parameters, hlist, fields_append_cons, List.map_append]

theorem parameters_joinQueries (a b : String) :
    parameters (joinQueries a b) = parameters a ++ parameters b := by
  unfold joinQueries
  split_ifs with h
  · rcases h with rfl | rfl
    · rw [String.empty_append, parameters_empty, List.nil_append]
    · rw [String.append_empty, parameters_empty, List.append_nil]
  · exact parameters_append a b

end Form

/-! ## Targets -/

namespace Director

variable {d : Director} {backend : String} {virtualHost : Bool} {text : String} {u t : Uri}

theorem parts_target (hnew : new backend virtualHost = .ok d) (hparse : Uri.parse text = .ok u)
    (h : d.target u.path (u.query.getD "") = .ok t) :
    t.path = joinPaths d.basePath u.path ∧
      t.query = wholeQuery d.baseQuery (u.query.getD "") := by
  have hd := wellFormed_new hnew
  obtain ⟨-, -, -, hread⟩ := target_eq_ok hd h
  rw [readPath_pathText hd (Uri.chars_parse hparse).1 (Uri.queryChars_parse hparse),
    ← wholeQuery_eq] at hread
  obtain ⟨hpath, hquery⟩ := Prod.mk.inj (Except.ok.inj hread)
  exact ⟨hpath.symm, hquery.symm⟩

/-- The path of a target is that of the backend and that of the request with one slash between them,
and its query is what the two have of one. If the backend has the root as its path and no query, both
are those of the request. -/
theorem target_joins (hnew : new backend virtualHost = .ok d) (hparse : Uri.parse text = .ok u)
    (h : d.target u.path (u.query.getD "") = .ok t) :
    ∃ url, Url.parse backend = .ok url ∧
      t.path = withoutLastSlash url.path ++ "/" ++ withoutFirstSlash u.path ∧
      t.query = wholeQuery (url.query.getD "") (u.query.getD "") ∧
      (url.path = "/" → url.query.getD "" = "" → text.toList.head? = some '/' →
        t.path = u.path ∧ t.query = u.query.filter (· ≠ "")) := by
  obtain ⟨url, hurl, -, -, hbase, hfixed⟩ := new_eq_ok hnew
  obtain ⟨hpath, hquery⟩ := parts_target hnew hparse h
  rw [joinPaths_eq_without, ← hbase] at hpath
  rw [← hfixed] at hquery
  refine ⟨url, hurl, hpath, hquery, fun hroot hnone hslash => ?_⟩
  constructor
  · have hslash := Uri.head?_path_parse hparse hslash
    rw [hpath, hroot, withoutLastSlash_root, String.empty_append,
      slash_append_withoutFirstSlash hslash]
  · rw [hquery, hnone, wholeQuery_empty]

def tenant : Director where
  backend := "http://[::1]/api/?tenant=a"
  scheme := "http"
  authority := "[::1]"
  basePath := "/api/"
  baseQuery := "tenant=a"
  virtualHost := false

def tenantUrl : Url where
  scheme := "http"
  slashes := true
  host := some (.ipv6 [0, 0, 0, 0, 0, 0, 0, 1])
  path := "/api/"
  query := some "tenant=a"

def itemsUri : Uri := { path := "/v1/items", query := some "page=2" }

/-- A backend with neither a path nor a query of its own. -/
def bare : Director where
  backend := "http://[::1]"
  scheme := "http"
  authority := "[::1]"
  basePath := "/"
  baseQuery := ""
  virtualHost := false

def bareUrl : Url where
  scheme := "http"
  slashes := true
  host := some (.ipv6 [0, 0, 0, 0, 0, 0, 0, 1])
  path := "/"

def emptyUri : Uri := { path := "//v1/items", query := some "" }

theorem target_joins_of_tenant :
    (new "http://[::1]/api/?tenant=a" false = .ok tenant ∧
      Uri.parse "/v1/items?page=2" = .ok itemsUri ∧
      ∃ t, tenant.target itemsUri.path (itemsUri.query.getD "") = .ok t ∧
        t.path = "/api/v1/items" ∧ t.query = some "tenant=a&page=2") ∧
    new "http://[::1]" false = .ok bare ∧ Uri.parse "//v1/items?" = .ok emptyUri ∧
      ∃ t, bare.target emptyUri.path (emptyUri.query.getD "") = .ok t ∧
        t.path = "//v1/items" ∧ t.query = none := by
  constructor
  · have hnew : new "http://[::1]/api/?tenant=a" false = .ok tenant := rfl
    have hparse : Uri.parse "/v1/items?page=2" = .ok itemsUri := rfl
    have hurl : Url.parse "http://[::1]/api/?tenant=a" = .ok tenantUrl := rfl
    obtain ⟨t, ht⟩ : ∃ t, tenant.target itemsUri.path (itemsUri.query.getD "") = .ok t := ⟨_, rfl⟩
    obtain ⟨url, hurl', hpath, hquery, -⟩ := target_joins hnew hparse ht
    obtain rfl := Except.ok.inj (hurl.symm.trans hurl')
    exact ⟨hnew, hparse, t, ht, hpath, hquery⟩
  · have hnew : new "http://[::1]" false = .ok bare := rfl
    have hparse : Uri.parse "//v1/items?" = .ok emptyUri := rfl
    have hurl : Url.parse "http://[::1]" = .ok bareUrl := rfl
    obtain ⟨t, ht⟩ : ∃ t, bare.target emptyUri.path (emptyUri.query.getD "") = .ok t := ⟨_, rfl⟩
    obtain ⟨url, hurl', -, -, hsame⟩ := target_joins hnew hparse ht
    obtain rfl := Except.ok.inj (hurl.symm.trans hurl')
    obtain ⟨hpath, hquery⟩ := hsame rfl rfl rfl
    exact ⟨hnew, hparse, t, ht, hpath, hquery⟩

/-- Every field is one parameter, and the parameters of two queries that are joined are those of the
one and then those of the other. So a target has the parameters of the backend, and behind them
those of the request. -/
theorem parameters_kept :
    (∀ field, field ≠ [] → '&' ∉ field → Form.parameters (String.ofList field) =
      [(Form.decodePart (Form.splitField field).1, Form.decodePart (Form.splitField field).2)]) ∧
    (∀ fixed own, Form.parameters (joinQueries fixed own) =
      Form.parameters fixed ++ Form.parameters own) ∧
    ∀ {backend virtualHost d}, new backend virtualHost = .ok d →
      ∀ {text u}, Uri.parse text = .ok u → ∀ {t}, d.target u.path (u.query.getD "") = .ok t →
        ∃ url, Url.parse backend = .ok url ∧
          Form.parameters (t.query.getD "") =
            Form.parameters (url.query.getD "") ++ Form.parameters (u.query.getD "") := by
  refine ⟨fun field hne h => Form.parameters_field hne h, Form.parameters_joinQueries, ?_⟩
  intro backend virtualHost d hnew text u hparse t h
  obtain ⟨url, hurl, -, -, -, hfixed⟩ := new_eq_ok hnew
  obtain ⟨-, hquery⟩ := parts_target hnew hparse h
  exact ⟨url, hurl, by rw [hquery, getD_wholeQuery, Form.parameters_joinQueries, hfixed]⟩

/-- A request with an empty field, a byte that is no text, and a field without a name. -/
def awkwardUri : Uri := { path := "/", query := some "&a=%ff+b&&=c&" }

theorem parameters_kept_of_awkward :
    new "http://[::1]/api/?tenant=a" false = .ok tenant ∧
      Uri.parse "/?&a=%ff+b&&=c&" = .ok awkwardUri ∧
      ∃ t, tenant.target awkwardUri.path (awkwardUri.query.getD "") = .ok t ∧
        Form.parameters (t.query.getD "") = [("tenant", "a"), ("a", "\ufffd b"), ("", "c")] := by
  have hnew : new "http://[::1]/api/?tenant=a" false = .ok tenant := rfl
  have hparse : Uri.parse "/?&a=%ff+b&&=c&" = .ok awkwardUri := rfl
  have hurl : Url.parse "http://[::1]/api/?tenant=a" = .ok tenantUrl := rfl
  obtain ⟨t, ht⟩ : ∃ t, tenant.target awkwardUri.path (awkwardUri.query.getD "") = .ok t := ⟨_, rfl⟩
  obtain ⟨-, -, htarget⟩ := parameters_kept
  obtain ⟨url, hurl', hparameters⟩ := htarget hnew hparse ht
  obtain rfl := Except.ok.inj (hurl.symm.trans hurl')
  refine ⟨hnew, hparse, t, ht, hparameters.trans ?_⟩
  decide +kernel

end Director

end Gatehouse
