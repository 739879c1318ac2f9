import Gatehouse.Proofs.Gateway.SentPath
import Gatehouse.Proofs.Http.HopByHop

/-!
# What goes no further than one connection

Nine headers concern only the connection on which a message came, and so does any other that one of
its `Connection` headers lists. Neither the request that is sent to a backend nor the answer that
comes back takes them along, with one exception: a `Connection` header that holds a byte beyond ASCII is
overlooked as a whole. What only such headers list goes on to the next connection.
-/

namespace Gatehouse

namespace HopByHop

/-- Whether a name concerns only the connection on which some headers came: as one of the nine, or
as an element of a `Connection` header, whatever else is in that header. -/
def Concerns (hs : Headers) (name : HeaderName) : Prop :=
  name ∈ fixedNames ∨ ∃ value ∈ hs.values .connection, Lists value name

/-- A name is overlooked if it is not one of the nine and every `Connection` header that lists it is
no plain text. -/
structure Overlooked (hs : Headers) (name : HeaderName) : Prop where
  unfixed : name ∉ fixedNames
  unread : ∀ value ∈ hs.values .connection, Lists value name → HeaderValue.isPlain value = false

/-- Of the names that concern only the connection of some headers, others have just those that were
there and are overlooked. -/
def Strips (hs ks : Headers) : Prop :=
  ∀ name, Concerns hs name → (ks.has name = true ↔ hs.has name = true ∧ Overlooked hs name)

variable {hs : Headers} {name : HeaderName}

theorem overlooked_iff : Overlooked hs name ↔ ¬ (name ∈ listed hs ∨ name ∈ fixedNames) := by
  rw [mem_listed_iff, not_or]
  constructor
  · rintro ⟨hunfixed, hunread⟩
    refine ⟨?_, hunfixed⟩
    rintro ⟨value, hvalue, hplain, hlists⟩
    rw [hunread value hvalue hlists] at hplain
    cases hplain
  · rintro ⟨hunread, hunfixed⟩
    refine ⟨hunfixed, fun value hvalue hlists => ?_⟩
    by_contra hplain
    exact hunread ⟨value, hvalue, Bool.eq_true_of_not_eq_false hplain, hlists⟩

theorem has_strip_iff :
    (strip hs).has name = true ↔ hs.has name = true ∧ Overlooked hs name := by
  rw [Headers.has_eq_true, values_strip, overlooked_iff, Headers.has_eq_true]
  by_cases h : name ∈ listed hs ∨ name ∈ fixedNames
  · simp [h]
  · simp [h]

theorem strips_strip (hs : Headers) : Strips hs (strip hs) := fun _ _ => has_strip_iff

end HopByHop

namespace Server

open HopByHop (Strips)

variable {σ : Type} {q : Request} {o : Outgoing}

/-- The client adds only what it accepts itself, if nothing is said about that. -/
theorem outgoing_cases (hs : Headers) :
    outgoing hs = HopByHop.strip hs ∨
      (HopByHop.strip hs).has ⟨"accept"⟩ = false ∧
        outgoing hs = (HopByHop.strip hs).set ⟨"accept"⟩ (Utf8.encode "*/*") := by
  unfold outgoing
  cases haccept : (HopByHop.strip hs).has ⟨"accept"⟩ with
  | true => exact Or.inl (if_pos haccept)
  | false => exact Or.inr ⟨rfl, if_neg (by simp [haccept])⟩

theorem Sends.headers_eq (h : Sends q o) : o.headers = outgoing q.headers := by
  have hrecorded : (forward recorder q none).2 = some o := by
    rw [h recorder none]
    rfl
  cases haddress : Client.address q.uri.print with
  | error e =>
    simp only [forward, relay, Client.send, haddress] at hrecorded
    cases hrecorded
  | ok sent =>
    simp only [forward, relay, Client.send, haddress] at hrecorded
    obtain rfl := Option.some.inj hrecorded
    rfl

theorem forward_eq_ok {net : Network σ} {u : σ} {r : Response}
    (h : (forward net q u).1 = .ok r) :
    ∃ o answer, Sends q o ∧ (net o u).1 = .answer answer ∧
      r = { answer with headers := HopByHop.strip answer.headers } := by
  rcases forward_cases q with ⟨fault, hnothing⟩ | ⟨o, hsends, -⟩
  · rw [hnothing net u] at h
    cases h
  · rw [hsends net u] at h
    cases hdelivery : (net o u).1 with
    | nothing =>
      simp only [hdelivery, answered] at h
      cases h
    | answer answer =>
      simp only [hdelivery, answered] at h
      exact ⟨o, answer, hsends, hdelivery, (Except.ok.inj h).symm⟩

/-- Stripping leaves no header that concerns only one connection, unless it is overlooked. The client is
given the stripped headers of a request, to which it adds none but its own `Accept`, and
the answer to the request has the stripped headers of what was delivered. -/
theorem hop_headers_stripped :
    (∀ hs, Strips hs (HopByHop.strip hs)) ∧
      (∀ {q o}, Sends q o → ∃ given, Strips q.headers given ∧
        (o.headers = given ∨
          given.has ⟨"accept"⟩ = false ∧
            o.headers = given.set ⟨"accept"⟩ (Utf8.encode "*/*"))) ∧
      ∀ {q} (net : Network σ) (u : σ) {r}, (forward net q u).1 = .ok r →
        ∃ o answer, Sends q o ∧ (net o u).1 = .answer answer ∧ Strips answer.headers r.headers := by
  refine ⟨HopByHop.strips_strip, ?_, ?_⟩
  · intro q o hsends
    refine ⟨HopByHop.strip q.headers, HopByHop.strips_strip _, ?_⟩
    rw [hsends.headers_eq]
    exact outgoing_cases q.headers
  · intro q net u r h
    obtain ⟨o, answer, hsends, hanswer, rfl⟩ := forward_eq_ok h
    exact ⟨o, answer, hsends, hanswer, HopByHop.strips_strip _⟩

def traceName : HeaderName := ⟨"x-trace"⟩

/-- A list of that name and of a word with accents. -/
def tracedConnection : Bytes := Utf8.encode "close, X-Trace , d\u00e9j\u00e0"

def tracedHeaders : Headers :=
  [(.connection, tracedConnection), (traceName, Utf8.encode "1"),
   (⟨"accept"⟩, Utf8.encode "text/plain")]

def tracedRequest : Request where
  method := .get
  uri := { scheme := some "http", authority := some "[::1]", path := "/" }
  headers := tracedHeaders

def tracedUrl : Url where
  scheme := "http"
  slashes := true
  host := some (.ipv6 [0, 0, 0, 0, 0, 0, 0, 1])
  path := "/"

def tracedNetwork : Network Unit := fun _ => pure (.answer { status := 200, headers := tracedHeaders })

theorem lists_traceName : HopByHop.Lists tracedConnection traceName := by
  refine ⟨"X-Trace".toList, by decide +kernel, ?_⟩
  constructor
  case nonempty => decide +kernel
  case fits => decide +kernel
  case token => exact List.all_eq_true.mp (by decide +kernel)
  case lower => decide +kernel

/-- A header that is listed goes on, with the request as with its answer, only because of the word
beside it. -/
theorem hop_headers_not_stripped :
    HopByHop.Concerns tracedHeaders traceName ∧
      (HopByHop.strip tracedHeaders).has traceName = true ∧
      ∃ o r, Sends tracedRequest o ∧ o.headers.has traceName = true ∧
        (forward tracedNetwork tracedRequest ()).1 = .ok r ∧ r.headers.has traceName = true := by
  have hconcerns : HopByHop.Concerns tracedHeaders traceName :=
    Or.inr ⟨tracedConnection, by decide +kernel, lists_traceName⟩
  have hthere : tracedHeaders.has traceName = true := rfl
  have hoverlooked : HopByHop.Overlooked tracedHeaders traceName := by
    refine ⟨by decide +kernel, fun value hvalue _ => ?_⟩
    obtain rfl : value = tracedConnection := List.mem_singleton.mp hvalue
    decide +kernel
  obtain ⟨hstrips, hrequest, hanswer⟩ := hop_headers_stripped (σ := Unit)
  have haddress : ∃ sent, Client.address tracedRequest.uri.print = .ok sent :=
    ⟨(tracedUrl, none), by decide +kernel⟩
  obtain ⟨sent, haddress⟩ := haddress
  obtain ⟨r, hr⟩ : ∃ r, (forward tracedNetwork tracedRequest ()).1 = .ok r := by
    simp only [forward, relay, Client.send, haddress]
    exact ⟨_, rfl⟩
  obtain ⟨o, answer, hsends, hdelivered, hleft⟩ := hanswer tracedNetwork () hr
  obtain rfl : { status := 200, headers := tracedHeaders } = answer := Delivery.answer.inj hdelivered
  refine ⟨hconcerns, (hstrips _ _ hconcerns).mpr ⟨hthere, hoverlooked⟩, o, r, hsends, ?_, hr,
    (hleft _ hconcerns).mpr ⟨hthere, hoverlooked⟩⟩
  obtain ⟨given, hgiven, hsame | ⟨-, hadded⟩⟩ := hrequest hsends
  · rw [hsame]
    exact (hgiven _ hconcerns).mpr ⟨hthere, hoverlooked⟩
  · have hkept := (hgiven _ hconcerns).mpr ⟨hthere, hoverlooked⟩
    rw [Headers.has_eq_true] at hkept ⊢
    rwa [hadded, Headers.values_set, if_neg (by decide)]

end Server

end Gatehouse
