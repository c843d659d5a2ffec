import Courier.Proofs.Start
import Courier.Proofs.Run
import Courier.Proofs.Targets

/-!
# Whether redirects keep the host

The first request of a call has the host of the caller's, and a request that is sent again keeps its
own. A redirect leads to a URL without a host exactly if its location loses it, as `http:/b` does at
an `https` URL (`Redirect.target_host`). So every request of a call has a host exactly if no
redirect that another send follows has such a location (`Client.keepsHost_iff`).
-/

namespace Courier

section

variable [Codecs]

namespace Redirect

variable {origin : Url} {headers : Http.Headers}

/-- Whether header fields have a location that loses the host of a URL. -/
def LosesHost (origin : Url) (headers : Http.Headers) : Prop :=
  ∃ location, Names headers location ∧ Url.LosesHost origin location

omit [Codecs] in
theorem inheritFragment_host {joined url : Url} (normal : joined.Normal)
    (genuine : Url.Host.IsGenuine joined.host) (ok : inheritFragment origin joined = .ok url) :
    url.host = [] ↔ joined.host = [] := by
  rcases inheritFragment_cases ok with rfl | ok
  · exact Iff.rfl
  · obtain ⟨-, rfl⟩ := (Url.withFragment_eq_ok_iff normal genuine).mp ok
    unfold Url.refragmented Url.Host.lowered
    split <;> simp

/-- A redirect from a URL with a host leads to one without exactly if its location loses the
    host. -/
theorem target_host {url : Url} (normal : origin.Normal) (named : origin.host ≠ [])
    (ok : target origin headers = .ok url) : url.host = [] ↔ LosesHost origin headers := by
  obtain ⟨location, names⟩ := names_of_target ok
  obtain ⟨joined, join, inherited⟩ := (target_eq_ok_iff names).mp ok
  rw [inheritFragment_host (Url.join_normal join) (Url.join_genuine join) inherited,
    Url.join_host normal names.normal named join]
  exact ⟨fun loses => ⟨location, names, loses⟩,
    fun ⟨location', names', loses⟩ => names.unique names' ▸ loses⟩

end Redirect

namespace Call

variable {script : Exchange.Script}

/-- Whether a send gives a redirect that is followed and loses the host. -/
def Sending.LosesHost (script : Exchange.Script) (s : Sending) : Prop :=
  ∃ response url, (s.sent script).given = .ok response ∧ s.verdict script = .follow url ∧
    Redirect.LosesHost s.call.current.url response.headers

theorem Sending.target_of_follow {s : Sending} {url : Url}
    (follows : s.verdict script = .follow url) :
    ∃ response, (s.sent script).given = .ok response ∧
      Redirect.target s.call.current.url response.headers = .ok url := by
  have decides := (s.after script).decides_verdict (s.sent script).given
  change (s.after script).Decides _ (s.verdict script) at decides
  rw [follows] at decides
  generalize given : (s.sent script).given = outcome at decides
  cases decides with
  | followed _ _ _ reached => exact ⟨_, rfl, (Redirect.reached_eq_ok.mp reached).1⟩

/-- A redirect that is followed from a URL with a host leads to one without exactly if it loses the
    host. -/
theorem Sending.losesHost_iff {s : Sending} {url : Url} (follows : s.verdict script = .follow url)
    (normal : s.call.current.url.Normal) (named : s.call.current.url.host ≠ []) :
    s.LosesHost script ↔ url.host = [] := by
  obtain ⟨response, given, target⟩ := target_of_follow follows
  rw [Redirect.target_host normal named target]
  constructor
  · rintro ⟨response', _, given', -, loses⟩
    rw [given, Except.ok.injEq] at given'
    exact given' ▸ loses
  · exact fun loses => ⟨response, url, given, follows, loses⟩

variable (script) in
theorem advance_normal (call : Call) (normal : call.current.url.Normal) :
    (call.advance script).call.current.url.Normal := by
  cases prepared : (call.client.prepare call.current).value.2 with
  | error failure => rwa [(advance_of_refused prepared).2]
  | ok outgoing =>
    rw [(advance_of_sent script prepared).2]
    cases verdict : Sending.verdict script ⟨call, outgoing⟩ with
    | again => exact normal
    | answer _ => exact normal
    | fail _ => exact normal
    | follow url =>
      obtain ⟨response, -, target⟩ := Sending.target_of_follow verdict
      exact Redirect.target_normal target

end Call

namespace Client

variable {c : Client} {request : Http.Request} {script : Exchange.Script}

theorem start_of_sending {s : Call.Sending} (here : (c.sendings request script)[0]? = some s) :
    s.call = Call.start c request := by
  rw [sendings_of_open (isOpen_of_sending here)] at here
  cases fuel : c.maxSends with
  | zero => simp [fuel, Call.sendings] at here
  | succ fuel =>
    rw [fuel] at here
    unfold Call.sendings at here
    split at here
    · cases here
    · rw [List.getElem?_cons_zero, Option.some.injEq] at here
      rw [← here]

theorem sending_normal (normal : request.url.Normal) {s : Call.Sending}
    (member : s ∈ c.sendings request script) :
    s.call.current.url.Normal :=
  sendings_forall (P := fun call => call.current.url.Normal) normal
    (fun call normal => call.advance_normal script normal) s member

/-- What a send leads to has a host if the send does not lose it. -/
theorem host_of_next (normal : request.url.Normal) {n : Nat} {s next : Call.Sending}
    (here : (c.sendings request script)[n]? = some s)
    (there : (c.sendings request script)[n + 1]? = some next)
    (named : s.call.current.url.host ≠ []) :
    next.call.current.url.host ≠ [] ↔ ¬ s.LosesHost script := by
  obtain ⟨going, following⟩ := sendings_next here there
  have stays : s.verdict script = .again → next.call.current.url.host ≠ [] ∧
    ¬ s.LosesHost script := by
    intro again
    rw [following, again]
    refine ⟨named, ?_⟩
    rintro ⟨_, url, -, follows, -⟩
    rw [again] at follows
    cases follows
  cases verdict : s.verdict script with
  | again => exact iff_of_true (stays verdict).1 (stays verdict).2
  | answer _ => simp [verdict, Verdict.result] at going
  | fail _ => simp [verdict, Verdict.result] at going
  | follow url =>
    rw [Call.Sending.losesHost_iff verdict (sending_normal normal (List.mem_of_getElem? here))
      named, following, verdict]
    exact Iff.rfl

theorem requests_host :
    (∀ sent ∈ Event.requests (c.execute request script).events, sent.url.host ≠ []) ↔
      ∀ (n : Nat) (s : Call.Sending), (c.sendings request script)[n]? = some s →
        s.call.current.url.host ≠ [] := by
  have url : ∀ s ∈ c.sendings request script, s.outgoing.url = s.call.current.url := by
    intro s member
    unfold sendings at member
    split at member
    · cases member
    · exact s.call.client.prepare_url _ (Call.sendings_prepared _ _ s member)
  rw [requests_execute, List.forall_mem_map]
  constructor
  · intro all n s here
    have member := List.mem_of_getElem? here
    rw [← url s member]
    exact all s member
  · intro all s member
    obtain ⟨n, here⟩ := List.getElem?_of_mem member
    rw [url s member]
    exact all n s here

/-- Every request of a call for a URL with a host has one exactly if no redirect that another send
    comes after loses the host. -/
theorem keepsHost_iff (normal : request.url.Normal) (named : request.url.host ≠ []) :
    (∀ sent ∈ Event.requests (c.execute request script).events, sent.url.host ≠ []) ↔
      ∀ (n : Nat) (s : Call.Sending), (c.sendings request script)[n]? = some s →
        n + 1 < (c.sendings request script).length → ¬ s.LosesHost script := by
  rw [requests_host]
  constructor
  · intro all n s here more
    have there := List.getElem?_eq_getElem more
    exact (host_of_next normal here there (all n s here)).mp (all (n + 1) _ there)
  · intro keeps n
    induction n with
    | zero =>
      intro s here
      rw [start_of_sending here]
      exact named
    | succ n ih =>
      intro next there
      have more := (List.getElem?_eq_some_iff.mp there).1
      have here := List.getElem?_eq_getElem (Nat.lt_of_succ_lt more)
      exact (host_of_next normal here there (ih _ here)).mpr (keeps n _ here more)

end Client

end

namespace Client

attribute [local instance] Codecs.plain

/-- A redirect to a location with a scheme and no host, and then an answer. -/
def hostlessRedirect : Nat → Outcome
  | 0 => .redirect "http:/b"
  | _ => .status 200

theorem keepsHost_hostlessRedirect :
    ∃ created, create .default none = .ok created ∧ (Http.Request.toHost "GET" .none).url.Normal ∧
      (Http.Request.toHost "GET" .none).url.host ≠ [] ∧
        ((∀ sent ∈ Event.requests (created.value.execute (.toHost "GET" .none)
              (.ofOutcomes 0 hostlessRedirect)).events, sent.url.host ≠ []) ↔
          ∀ (n : Nat) (s : Call.Sending),
            (created.value.sendings (.toHost "GET" .none) (.ofOutcomes 0 hostlessRedirect))[n]? =
            some s →
              n + 1 < (created.value.sendings (.toHost "GET" .none)
                (.ofOutcomes 0 hostlessRedirect)).length →
              ¬ s.LosesHost (.ofOutcomes 0 hostlessRedirect)) := by
  have read : Url.parse "https://h/a".toList = .ok (Http.Request.toHost "GET" .none).url := by
    decide
  have normal := Url.parse_normal read
  exact ⟨_, rfl, normal, by decide, keepsHost_iff normal (by decide)⟩

/-- A new client sends a request without a host after a redirect from a URL with one. -/
theorem hostlessRedirect_followed :
    ∃ created, create .default none = .ok created ∧
      (Http.Request.toHost "GET" .none).url.host = ['h'] ∧
        (Event.requests (created.value.execute (.toHost "GET" .none)
          (.ofOutcomes 0 hostlessRedirect)).events).map
          (·.url) = [(Http.Request.toHost "GET" .none).url,
            ⟨"http".toList, [], [], none, "/b".toList, none, none⟩] :=
  ⟨_, rfl, rfl, by decide +kernel⟩

end Client

end Courier
