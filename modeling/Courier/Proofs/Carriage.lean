import Courier.Proofs.Case
import Courier.Proofs.Start
import Courier.Proofs.Turns

/-!
# What every send carries

However often a request is built again, for another attempt or for the target of a redirect, it
carries the fields of the caller's one. What is added stands before and after these: one field at
most of each name that the client adds, and none of a name that is there. A redirect takes the
fields of the host away and the next request is given that of its URL, so of these only the caller's
own are not carried any further (`Client.sendings_carry`).
-/

namespace Courier

namespace Http

/-- The names of the fields that are added to a request. -/
def FieldName.added : List Octets := [host, userAgent, authorization, contentLength]

/-- Fields that are added to others: each has a name for it, which none of the others has and no
    other added one either. -/
structure Additions (kept added : List Field) : Prop where
  names : ∀ f ∈ added, f.name ∈ FieldName.added
  fresh : ∀ f ∈ added, kept.any (sameName ·.name f.name) = false
  distinct : added.Pairwise fun f g => sameName f.name g.name = false

namespace Headers

/-- Header fields that are these ones, with added ones before and after them. -/
def Extends (h : Headers) (kept : List Field) : Prop :=
  ∃ before after, h.fields = before ++ kept ++ after ∧ Additions kept (before ++ after)

theorem extends_self (h : Headers) : h.Extends h.fields :=
  ⟨[], [], by simp, by simp, by simp, .nil⟩

namespace Extends

variable {h : Headers} {kept : List Field} {field : Field}

theorem absent_parts {before after : List Field} {name : Octets}
    (fields : h.fields = before ++ kept ++ after) (absent : h.contains name = false) :
    kept.any (sameName ·.name name) = false ∧
      ∀ other ∈ before ++ after, sameName other.name name = false := by
  simp only [contains, fields, List.any_append, Bool.or_eq_false_iff, List.any_eq_false,
    Bool.not_eq_true] at absent ⊢
  exact ⟨absent.1.2, List.forall_mem_append.mpr ⟨absent.1.1, absent.2⟩⟩

theorem cons (carried : h.Extends kept) (name : field.name ∈ FieldName.added)
    (absent : h.contains field.name = false) : (Headers.mk (field :: h.fields)).Extends kept := by
  obtain ⟨before, after, fields, added⟩ := carried
  obtain ⟨among, apart⟩ := absent_parts fields absent
  refine ⟨field :: before, after, by simp [fields], ?_, ?_, ?_⟩
  · exact List.forall_mem_cons.mpr ⟨name, added.names⟩
  · exact List.forall_mem_cons.mpr ⟨among, added.fresh⟩
  · refine List.pairwise_cons.mpr ⟨fun other member => ?_, added.distinct⟩
    rw [sameName_comm, apart other member]

theorem concat (carried : h.Extends kept) (name : field.name ∈ FieldName.added)
    (absent : h.contains field.name = false) : (Headers.mk (h.fields ++ [field])).Extends kept := by
  obtain ⟨before, after, fields, added⟩ := carried
  obtain ⟨among, apart⟩ := absent_parts fields absent
  refine ⟨before, after ++ [field], by simp [fields], ?_⟩
  rw [← List.append_assoc]
  refine ⟨?_, ?_, ?_⟩
  · exact List.forall_mem_append.mpr ⟨added.names, List.forall_mem_singleton.mpr name⟩
  · exact List.forall_mem_append.mpr ⟨added.fresh, List.forall_mem_singleton.mpr among⟩
  · refine List.pairwise_append.mpr ⟨added.distinct, List.pairwise_singleton _ _, ?_⟩
    intro other member last single
    rw [List.mem_singleton.mp single, apart other member]

theorem setDefault (carried : h.Extends kept) (name : field.name ∈ FieldName.added) :
    (h.setDefault field).Extends kept := by
  unfold Headers.setDefault
  split
  · exact carried
  · rename_i absent
    exact carried.concat name (Bool.eq_false_iff.mpr absent)

theorem set (carried : h.Extends kept) (name : field.name ∈ FieldName.added)
    (absent : h.contains field.name = false) : (h.set field).Extends kept := by
  rw [set_of_absent absent]
  exact carried.concat name absent

theorem erase (carried : h.Extends kept) (name : Octets) :
    (h.erase name).Extends (kept.filter (!sameName ·.name name)) := by
  obtain ⟨before, after, fields, added⟩ := carried
  refine ⟨before.filter (!sameName ·.name name), after.filter (!sameName ·.name name), ?_, ?_⟩
  · simp [Headers.erase, fields]
  · rw [← List.filter_append]
    refine ⟨?_, ?_, added.distinct.filter _⟩
    · intro f member
      exact added.names f (List.mem_filter.mp member).1
    · intro f member
      have absent := added.fresh f (List.mem_filter.mp member).1
      rw [List.any_eq_false] at absent ⊢
      intro other remaining
      exact absent other (List.mem_filter.mp remaining).1

theorem framed (carried : h.Extends kept) (content : Octets) : (h.framed content).Extends kept := by
  have name : (lengthField content).name ∈ FieldName.added := by simp [lengthField, FieldName.added]
  unfold Headers.framed
  split
  · exact carried
  · exact carried.setDefault name

theorem consUnless (carried : h.Extends kept) {present : Bool} (name : field.name ∈ FieldName.added)
    (absent : present = false → h.contains field.name = false) :
    (Headers.mk ((if present then [] else [field]) ++ h.fields)).Extends kept := by
  cases present with
  | true => simpa using carried
  | false => exact carried.cons name (absent rfl)

/-- The fields that come in front of those of a request are added ones. -/
theorem leading (carried : h.Extends kept) (method : String) (url : Url) :
    (Headers.mk (leadingFields method url h ++ h.fields)).Extends kept := by
  have length : ∀ present : Bool, (if present then [] else [Field.mk FieldName.contentLength
      (decimalOctets 0)]).any (sameName ·.name FieldName.host) = false := by decide +kernel
  unfold leadingFields
  rw [List.append_assoc]
  refine (carried.consUnless ?_ ?_).consUnless ?_ ?_
  · simp [FieldName.added]
  · intro unframed
    exact (Bool.or_eq_false_iff.mp (Bool.or_eq_false_iff.mp unframed).1).1
  · simp [FieldName.added]
  · intro unnamed
    rw [contains_append, length, (Bool.or_eq_false_iff.mp unnamed).1]
    rfl

/-- Building a request again adds fields to those that it is given. -/
theorem rebuild (carried : h.Extends kept) (r : Request) (url : Url) :
    (r.rebuild url h).headers.Extends kept := by
  rw [Request.rebuild_headers]
  exact (carried.framed r.content).leading _ url

end Extends

end Headers

namespace Request

/-- The caller's fields that a request carries after a number of redirects. -/
def carried (request : Request) (redirects : Int) : List Field :=
  if redirects = 0 then request.headers.fields else request.headers.others FieldName.host

/-- Whether a request carries the caller's one after a number of redirects: its method, its octets
    and its fields. After a redirect the host is that of the URL. -/
structure Carries (request : Request) (redirects : Int) (sent : Request) : Prop where
  method : sent.method = request.method
  content : sent.content = request.content
  fields : sent.headers.Extends (request.carried redirects)
  host : 0 < redirects → sent.url.host ≠ [] →
    sent.headers.named FieldName.host = [⟨FieldName.host, Utf8.encode sent.url.hostPort⟩]

/-- A request that is built has its method in upper case. -/
theorem create_method (method : String) (url : Url) (headers : Headers) (body : Body) :
    Text.upper (create method url headers body).method = (create method url headers body).method :=
  Text.upper_upper method

variable {request current : Request} {redirects : Int}

theorem carries_read (request : Request) : request.Carries 0 request.read where
  method := rfl
  content := rfl
  fields := request.headers.extends_self
  host followed := absurd followed (by decide)

theorem carried_erase_host (counted : 0 ≤ redirects) :
    (request.carried redirects).filter (!sameName ·.name FieldName.host) =
      request.carried (redirects + 1) := by
  have followed : redirects + 1 ≠ 0 := by omega
  unfold carried
  rw [if_neg followed]
  split
  · rfl
  · simp [Headers.others]

end Request

end Http

/-- The request that follows a redirect carries what the redirected one carries. -/
theorem Redirect.followUp_carries {request current : Http.Request} {redirects : Int}
    (upper : Text.upper request.method = request.method) (counted : 0 ≤ redirects)
    (carries : request.Carries redirects current) (url : Url) :
    request.Carries (redirects + 1) (followUp current url) where
  method := by
    rw [← upper, ← carries.method]
    rfl
  content := carries.content
  fields := by
    rw [← Http.Request.carried_erase_host counted]
    exact (carries.fields.erase _).rebuild current url
  host _ named := by
    have nonempty : url.host.isEmpty = false := by simpa [followUp] using named
    rw [followUp, Http.Request.rebuild_named_host, Http.Headers.contains_erase, nonempty]
    simp

namespace Client

section

variable [Codecs] (c : Client) (request : Http.Request)

theorem outgoingFields_extends {kept : List Http.Field} (carried : request.headers.Extends kept)
    (state : AuthState) : (c.outgoingFields request state).Extends kept := by
  have agent : (request.headers.setDefault agentField).Extends kept :=
    carried.setDefault (by decide)
  unfold outgoingFields presenting
  simp only
  split
  · rename_i credentials presented
    -- credentials are presented only by a request without a field for them
    have absent : request.headers.contains Http.FieldName.authorization = false := by
      by_contra own
      simp [presented?, own] at presented
    refine agent.set ?_ ?_
    · simp [Exchange.authorizationField, Http.FieldName.added]
    · rw [Http.Headers.contains_setDefault]
      simp [Exchange.authorizationField, absent, agentField]
      decide
  · exact agent

variable {c request}

/-- Preparing a request keeps what it carries. -/
theorem prepare_carries {current outgoing : Http.Request} {redirects : Int}
    (upper : Text.upper request.method = request.method)
    (carries : request.Carries redirects current)
    (prepared : (c.prepare current).value.2 = .ok outgoing) :
    request.Carries redirects outgoing := by
  obtain ⟨state, rfl⟩ := c.prepare_eq_ok current prepared
  refine ⟨?_, carries.content, ?_, ?_⟩
  · rw [← upper, ← carries.method]
    rfl
  · exact (c.outgoingFields_extends current carries.fields state).rebuild current current.url
  · intro followed named
    have there := carries.host followed named
    have hosts : (c.outgoingFields current state).named Http.FieldName.host =
        current.headers.named Http.FieldName.host :=
      c.outgoingFields_named current state (by decide) (by decide)
    have present : (c.outgoingFields current state).contains Http.FieldName.host = true := by
      rw [Http.Headers.contains_eq_named, hosts, there]
      rfl
    rw [Http.Request.rebuild_named_host, present, Bool.true_or, if_pos rfl, hosts, there]
    rfl

/-- Over any retries and redirects, every request that a call sends carries the caller's one. -/
theorem sendings_carry (c : Client) (request : Http.Request) (script : Exchange.Script)
    (upper : Text.upper request.method = request.method) :
    ∀ s ∈ c.sendings request script, request.Carries s.call.context.redirects s.outgoing := by
  intro s member
  -- redirects are counted from zero, and each of them takes the fields of the host away once more
  have current : 0 ≤ s.call.context.redirects ∧
      request.Carries s.call.context.redirects s.call.current := by
    refine sendings_forall (P := fun call => 0 ≤ call.context.redirects ∧
      request.Carries call.context.redirects call.current) ?_ ?_ s member
    · exact ⟨Int.le_refl 0, request.carries_read⟩
    · rintro call ⟨counted, carries⟩
      rcases call.advance_moves script with ⟨same, redirects⟩ | ⟨url, followed, redirects⟩
      · rw [same, redirects]
        exact ⟨counted, carries⟩
      · rw [followed, redirects]
        exact ⟨by omega, Redirect.followUp_carries upper counted carries url⟩
  exact prepare_carries upper current.2 (turn_of_sending member).2

end

attribute [local instance] Codecs.plain

/-- A request that names another host than its URL, with a field that stands twice. -/
def hostedRequest : Http.Request :=
  .create "PUT" ⟨"https".toList, [], ['h'], none, ['/', 'a'], none, none⟩
    ⟨[⟨Http.FieldName.host, Utf8.ofString "other"⟩, ⟨Utf8.ofString "X-A", Utf8.ofString "1"⟩,
      ⟨Utf8.ofString "x-a", Utf8.ofString "2"⟩]⟩ (.octets (Utf8.ofString "ab"))

theorem sendings_carry_redirected :
    ∃ created, create .default none = .ok created ∧
      Text.upper hostedRequest.method = hostedRequest.method ∧
        ∃ s ∈ created.value.sendings hostedRequest
            (.ofOutcomes 0 fun n => if n = 0 then .redirect "http://g/b" else .status 200),
          s.call.context.redirects = 1 ∧ s.outgoing.url.host = ['g'] ∧
            hostedRequest.Carries s.call.context.redirects s.outgoing := by
  let script : Exchange.Script :=
    .ofOutcomes 0 fun n => if n = 0 then .redirect "http://g/b" else .status 200
  have upper : Text.upper hostedRequest.method = hostedRequest.method :=
    Http.Request.create_method _ _ _ _
  obtain ⟨created, built, s, member, redirected, host⟩ : ∃ created,
    create .default none = .ok created ∧
      ∃ s ∈ created.value.sendings hostedRequest script,
        s.call.context.redirects = 1 ∧ s.outgoing.url.host = ['g'] := ⟨_, rfl, by decide +kernel⟩
  exact ⟨created, built, upper, s, member, redirected, host,
    sendings_carry created.value hostedRequest script upper s member⟩

end Client

end Courier
