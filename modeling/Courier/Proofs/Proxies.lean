import Courier.Proofs.Contacts
import Courier.Proofs.Servers

/-!
# The URLs of proxies

A proxy is given by a host as URLs report it: a name, an IPv4 address or an IPv6 address. A name
outside ASCII is reported for a host in its ASCII form. The text of the URL of a proxy has such a
host in it as it is. A name is read from it in lower case, or by the ASCII form of its lower case,
and then the URL names the very place that the credentials of the proxy are registered for. An IPv6
address stands in the text without brackets, so that the host ends at its first colon and the rest
of it is no port (`namesItself_iff`).
-/

namespace Courier

namespace Url

/-! ## Hosts that URLs report -/

namespace Host

/-- Whether a character may stand in a name as a URL reports it. -/
def IsNameChar (c : Char) : Prop := 128 ≤ c.toNat ∨ keepsInName c = true

/-- A name or an IPv6 address, as a URL reports it. -/
def IsReported (host : List Char) : Prop := (∀ c ∈ host, IsNameChar c) ∨ isIpv6 host = true

/-- Whether a name is read as a host again: one in ASCII if it does not only look like an IPv4
    address, and any other if its lower case has an ASCII form. -/
def IsReadable [Codecs] (name : List Char) : Prop :=
  if name.all (·.toNat < 128) then IsGenuine name
  else ∃ form, Codecs.asciiForm? (Text.lower (String.ofList name)).toList = some form

theorem not_isNameChar {c : Char} (low : c.toNat < 128) (outside : keepsInName c = false) :
    ¬ IsNameChar c := by
  rintro (wide | kept)
  · omega
  · rw [outside] at kept
    cases kept

theorem not_isBracketed_of_nameChars {name : List Char} (chars : ∀ c ∈ name, IsNameChar c) :
    isBracketed name = false := by
  cases name with
  | nil => rfl
  | cons c rest =>
    have other : c ≠ '[' := by
      rintro rfl
      exact not_isNameChar (by decide) rfl (chars '[' List.mem_cons_self)
    simp [isBracketed, other]

/-- What ends a host stands in none that is reported. -/
theorem IsReported.not_mem {host : List Char} (reported : IsReported host) {c : Char}
    (mark : EndsHost c) :
    c ∉ host := by
  rcases reported with name | address
  · intro member
    have outside : c.toNat < 128 ∧ keepsInName c = false := by
      rcases mark with rfl | rfl | rfl | rfl <;> exact ⟨by decide, rfl⟩
    exact not_isNameChar outside.1 outside.2 (name c member)
  · exact IsNormal.not_mem (.inr address) mark

/-- No host that is reported starts with a bracket. -/
theorem IsReported.head?_ne {host : List Char} (reported : IsReported host) :
    host.head? ≠ some '[' := by
  intro first
  rcases reported with name | address
  · exact not_isNameChar (by decide) rfl (name '[' (List.mem_of_mem_head? first))
  · have inAddress : ∀ {cs : List Char}, isUnzonedIpv6 cs = true → cs.head? ≠ some '[' := by
      intro cs unzoned first
      rcases isAddressChar_of_isUnzonedIpv6 unzoned '['
        (List.mem_of_mem_head? first) with hex | colon | point
      · exact absurd hex (by decide)
      · cases colon
      · cases point
    rcases isIpv6_cases address with unzoned | ⟨before, zone, rfl, unzoned, -⟩
    · exact inAddress unzoned first
    · have some : before ≠ [] := List.ne_nil_of_mem (colon_mem_of_isUnzonedIpv6 unzoned)
      rw [List.head?_append_of_ne_nil _ some] at first
      exact inAddress unzoned first

/-- A host that is reported without a colon is a name. -/
theorem IsReported.nameChars {host : List Char} (reported : IsReported host) (bare : ':' ∉ host) :
    ∀ c ∈ host, IsNameChar c := by
  rcases reported with name | address
  · exact name
  · exact absurd (colon_mem_of_isIpv6 address) bare

/-- A name in ASCII is read in lower case, if it does not only look like an IPv4 address. -/
theorem normalize_ascii [Codecs] {name form : List Char} (chars : ∀ c ∈ name, IsNameChar c)
    (ascii : name.all (·.toNat < 128) = true) :
    normalize Codecs.asciiForm? name = .ok form ↔
      IsGenuine name ∧ form = name.map Char.toLower := by
  have kept : ∀ c ∈ name, keepsInName c = true := by
    intro c member
    have low := of_decide_eq_true (List.all_eq_true.mp ascii c member)
    rcases chars c member with wide | kept
    · omega
    · exact kept
  constructor
  · intro normalized
    have genuine : IsGenuine name := by
      intro looks
      rcases normalize_cases normalized with
        ⟨rfl, -⟩ | ⟨-, address, -⟩ | ⟨bracketed, -, -⟩ | ⟨other, -, -, -⟩ | ⟨-, wide, -⟩
      · simp [looksLikeIpv4, splitOn] at looks
      · exact address
      · rw [not_isBracketed_of_name kept] at bracketed
        cases bracketed
      · rw [other] at looks
        cases looks
      · rw [ascii] at wide
        cases wide
    rw [normalize_name kept genuine] at normalized
    exact ⟨genuine, (Except.ok.inj normalized).symm⟩
  · rintro ⟨genuine, rfl⟩
    exact normalize_name kept genuine

/-- A name outside ASCII is read as the ASCII form of its lower case. -/
theorem normalize_wide [Codecs] {name form : List Char} (chars : ∀ c ∈ name, IsNameChar c)
    (wide : ¬ name.all (·.toNat < 128) = true) :
    normalize Codecs.asciiForm? name = .ok form ↔
      Codecs.asciiForm? (Text.lower (String.ofList name)).toList = some form := by
  have other : looksLikeIpv4 name = false := by
    rw [← Bool.not_eq_true]
    intro looks
    exact wide (List.all_eq_true.mpr fun c member =>
      decide_eq_true (lt_of_keepsInName (keepsInName_of_looksLikeIpv4 looks c member)))
  have some : name.isEmpty = false := by
    rw [← Bool.not_eq_true, List.isEmpty_iff]
    rintro rfl
    exact wide rfl
  unfold normalize
  rw [some, other, not_isBracketed_of_nameChars chars, if_neg Bool.false_ne_true,
    if_neg Bool.false_ne_true, if_neg Bool.false_ne_true, if_neg wide]
  cases Codecs.asciiForm? (Text.lower (String.ofList name)).toList <;> simp

/-- A name is read as a host exactly if it is readable. -/
theorem exists_normalize_iff [Codecs] {name : List Char} (chars : ∀ c ∈ name, IsNameChar c) :
    (∃ form, normalize Codecs.asciiForm? name = .ok form) ↔ IsReadable name := by
  unfold IsReadable
  split
  · rename_i ascii
    simp [normalize_ascii chars ascii]
  · rename_i wide
    simp only [normalize_wide chars wide]

/-- What an encoded text starts with in lower case, it starts with if only escapes of it are not in
    lower case. -/
theorem isPrefix_of_toLower_encode {start cs : List Char} (unmarked : '%' ∉ start)
    (own : ∀ c ∈ cs, c.toLower = c)
    (first : start <+: (Percent.encode keepsInName cs).map Char.toLower) :
    start <+: Percent.encode keepsInName cs := by
  obtain ⟨rest, encoded, mark⟩ := Percent.encode_eq_append keepsInName cs
  have kept : (cs.takeWhile keepsInName).map Char.toLower = cs.takeWhile keepsInName :=
    map_toLower_of_own fun c member => own c (List.takeWhile_subset keepsInName member)
  rw [encoded, List.map_append, kept] at first
  have lower : ∀ c ∈ (rest.map Char.toLower).head?, c = '%' := by
    intro c head
    rw [List.head?_map, Option.mem_map] at head
    obtain ⟨d, head, rfl⟩ := head
    rw [mark d head]
    rfl
  rw [encoded]
  exact (isPrefix_of_stops unmarked lower first).trans (List.prefix_append _ _)

/-- A host that is read stands for another name if its lower case does. -/
theorem marked_of_toLower [Codecs] {cs host : List Char}
    (normalized : normalize Codecs.asciiForm? cs = .ok host)
    (bare : ':' ∉ host) (marked : formPrefix <+: host.map Char.toLower) : formPrefix <+: host := by
  rcases normalize_cases normalized with
    ⟨-, rfl⟩ | ⟨looks, -, rfl⟩ | ⟨-, address, -⟩ | ⟨-, -, -, rfl⟩ | ⟨-, -, coded⟩
  · exact marked
  · rwa [toLower_of_looksLikeIpv4 looks] at marked
  · exact absurd (colon_mem_of_isIpv6 address) bare
  · exact isPrefix_of_toLower_encode (by decide)
      (List.forall_mem_map.mpr fun c _ => Char.toLower_toLower_eq_toLower c) marked
  · have own : host.map Char.toLower = host := map_toLower_of_own fun c member =>
      toLower_of_isFormChar ((Codecs.asciiForm_form coded).2 c member)
    rwa [own] at marked

end Host

section

variable [Codecs] {u : Url} {name : List Char}

/-- The name of a host is the host itself, or what it stands for. -/
theorem name_cases (reported : u.name = .ok name) :
    (formPrefix <+: u.host ∧ Codecs.nameOf u.host = .ok name) ∨
    (¬ formPrefix <+: u.host ∧ u.host = name) := by
  unfold Url.name at reported
  split at reported
  · rename_i marked
    exact .inl ⟨List.isPrefixOf_iff_prefix.mp marked, reported⟩
  · rename_i unmarked
    exact .inr ⟨fun marked => unmarked (List.isPrefixOf_iff_prefix.mpr marked),
      Except.ok.inj reported⟩

theorem Normal.isReported (normal : u.Normal) (reported : u.name = .ok name) :
    Host.IsReported name := by
  rcases name_cases reported with ⟨marked, decoded⟩ | ⟨-, rfl⟩
  · refine .inl fun c member => ?_
    rcases (Codecs.nameOf_wide marked decoded).2 c member with wide | inForm
    · exact .inl wide
    · exact .inr (Host.keepsInName_of_isFormChar inForm)
  · rcases normal.host with kept | address
    · exact .inl fun c member => .inr (kept c member)
    · exact .inr address

/-- A name in ASCII is reported for the host that it is. -/
theorem host_of_ascii (reported : u.name = .ok name) (ascii : ∀ c ∈ name, c.toNat < 128) :
    ¬ formPrefix <+: u.host ∧ u.host = name := by
  rcases name_cases reported with ⟨marked, decoded⟩ | own
  · obtain ⟨c, member, wide⟩ := (Codecs.nameOf_wide marked decoded).1
    have low := ascii c member
    omega
  · exact own

/-- A name outside ASCII is reported for a host that stands for it. -/
theorem host_of_wide (normal : u.Normal) (reported : u.name = .ok name)
    (wide : ¬ ∀ c ∈ name, c.toNat < 128)
    (bare : ':' ∉ name) : formPrefix <+: u.host ∧ Codecs.nameOf u.host = .ok name := by
  rcases name_cases reported with decoded | ⟨-, rfl⟩
  · exact decoded
  · rcases normal.host with kept | address
    · exact absurd (fun c member => Host.lt_of_keepsInName (kept c member)) wide
    · exact absurd (Host.colon_mem_of_isIpv6 address) bare

end

/-! ## Control characters -/

/-- What is not a control character among ASCII characters is none among all of them. -/
theorem not_isControl {P : Char → Bool}
    (ascii : ∀ n < 128, P (Char.ofNat n) = true → isControl (Char.ofNat n) = false)
    (c : Char) (kept : P c = true) : isControl c = false := by
  rcases Nat.lt_or_ge c.toNat 128 with low | high
  · exact of_ascii (P := fun c => P c = true → isControl c = false) ascii low kept
  · simp only [isControl, Bool.or_eq_false_iff, decide_eq_false_iff_not, beq_eq_false_iff_ne]
    omega

theorem not_isControl_of_mem_portText {port : Int} : ∀ c ∈ portText port, isControl c = false := by
  intro c member
  rcases mem_portText c member with digit | rfl
  · exact not_isControl (P := Char.isDigit) (by decide) c digit
  · decide

theorem length_le_of_read [Codecs] {cs : List Char} {u : Url} (read : Url.read cs = .ok u) :
    cs.length ≤ maxLength := by
  unfold Url.read readWith at read
  split at read
  · cases read
  · rename_i short
    exact Nat.not_lt.mp short

end Url

/-! ## The URL of a proxy -/

namespace ProxyConfig

open Url

variable {p : ProxyConfig}

/-- What accepting the settings of a proxy comes to. -/
theorem create_eq_ok {host : String} {port : Int} {username password : Option RawText}
    (accepted : create host port username password = .ok p) :
    p = ⟨host, port, username, password⟩ ∧ 0 < port ∧ port ≤ 65535 := by
  unfold create Config.checkPort at accepted
  have low : Number.less 0 (.integer port) = decide (0 < port) := Number.less_integer 0 port
  have high : (Number.integer port).atMost 65535 = decide (port ≤ 65535) :=
    Number.atMost_integer port 65535
  rw [low, high] at accepted
  by_cases empty : host.isEmpty = true
  · rw [if_pos empty] at accepted
    cases accepted
  · rw [if_neg empty] at accepted
    by_cases within : 0 < port ∧ port ≤ 65535
    · rw [if_pos (by simpa using within)] at accepted
      exact ⟨(Except.ok.inj accepted).symm, within⟩
    · rw [if_neg (by simpa using within)] at accepted
      cases accepted

/-- The place that the credentials of a proxy are registered for. -/
def place (p : ProxyConfig) : Scope := .of (some p.host) (some p.port)

/-- The URL that is read from the text of the URL of a proxy, for the form that its host has
    then. -/
def server (p : ProxyConfig) (form : List Char) : Url :=
  ⟨"http".toList, [], form, Port.beside "http".toList (some p.port), [], none, none⟩

/-- The parts of the text of the URL of a proxy. -/
def parts (p : ProxyConfig) : Parts :=
  ⟨"http".toList, p.host.toList ++ ':' :: portText p.port, [], none, none⟩

theorem toList_url (p : ProxyConfig) : p.url.toList = p.parts.text := by
  have text : p.url = "http://" ++ p.host ++ ":" ++ toString p.port := rfl
  rw [text]
  simp [Parts.text, parts, portText]

section

variable (reported : Host.IsReported p.host.toList)

include reported

theorem not_mem_authority {c : Char} (mark : Host.EndsHost c) : c ∉ p.parts.authority := by
  have other : c.isDigit = false ∧ c ≠ ':' ∧ c ≠ '-' := by
    rcases mark with rfl | rfl | rfl | rfl <;> decide
  simp [parts, reported.not_mem mark, other.2.1, not_mem_portText other.1 other.2.2]

theorem authority_head : p.parts.authority.head? ≠ some '[' := by
  have host := reported.head?_ne
  unfold parts
  cases text : p.host.toList with
  | nil => simp
  | cons c rest =>
    rw [text] at host
    simpa using host

/-- The parts of the URL of a proxy are read from its text, with colons in the host or not. -/
theorem parts_readable : p.parts.Readable where
  scheme := rfl
  located := by simp [parts]
  authority := not_endsAuthority_of_not_mem (not_mem_authority reported (.inl rfl))
    (not_mem_authority reported (.inr (.inl rfl)))
      (not_mem_authority reported (.inr (.inr (.inl rfl))))
  rooted := by simp [parts]
  path := by simp [parts]
  query := by simp [parts]

/-- The host of the URL of a proxy ends at the first colon, and the rest is the port. -/
theorem ofText_authority {front behind : List Char}
    (authority : p.parts.authority = front ++ ':' :: behind)
    (clear : ':' ∉ front) : Authority.ofText p.parts.authority = ⟨[], front, behind⟩ := by
  have sign : '@' ∉ p.parts.authority := not_mem_authority reported (.inr (.inr (.inr rfl)))
  have stops : ∀ c ∈ (':' :: behind).head?, decide (c ≠ ':') = false := by simp
  obtain ⟨before, after⟩ := span_append_of_stops stops (passes_of_not_mem clear)
  unfold Authority.ofText
  simp only [splitAtLast_of_not_mem sign, splitHost_of_head (authority_head reported)]
  rw [authority, before, after]
  rfl

end

theorem normalize_port (low : 0 < p.port) (high : p.port ≤ 65535) :
    Port.normalize "http".toList (portText p.port) =
    .ok (Port.beside "http".toList (some p.port)) := by
  have few : p.port.natAbs < 10 ^ 5 := by omega
  have short : (Nat.toDigits 10 p.port.natAbs).length ≤ 5 :=
    (Nat.length_toDigits_le_iff (by decide) (by decide)).mpr few
  refine Port.normalize_text "http".toList (some p.port) fun n same => ?_
  cases same
  exact integer?_portText_of_short (short.trans (by decide))

theorem not_isControl_url (chars : ∀ c ∈ p.host.toList, Host.IsNameChar c) :
    ∀ c ∈ p.url.toList, isControl c = false := by
  have host : ∀ c ∈ p.host.toList, isControl c = false := by
    intro c member
    rcases chars c member with wide | kept
    · simp only [isControl, Bool.or_eq_false_iff, decide_eq_false_iff_not, beq_eq_false_iff_ne]
      omega
    · exact not_isControl (P := Host.keepsInName) (by decide +kernel) c kept
  have text : p.url = "http://" ++ p.host ++ ":" ++ toString p.port := rfl
  have port : ∀ c ∈ (toString p.port).toList, isControl c = false := not_isControl_of_mem_portText
  rw [text]
  simp only [String.toList_append, List.forall_mem_append]
  exact ⟨⟨⟨by simp [isControl], host⟩, by simp [isControl]⟩, port⟩

section

variable [Codecs]

/-- The URL of a proxy with a colon in its host is not read: behind the first colon there is no
    port. -/
theorem read_url_of_colon (reported : Host.IsReported p.host.toList) (colon : ':' ∈ p.host.toList)
    (u : Url) :
    Url.read p.url.toList ≠ .ok u := by
  intro read
  obtain ⟨front, behind, host, clear⟩ := List.eq_append_cons_of_mem colon
  have authority : p.parts.authority = front ++ ':' :: (behind ++ ':' :: portText p.port) := by
    simp [parts, host]
  have assembled := readWith_eq_ok read
  rw [toList_url, Parts.ofText_text (parts_readable reported),
    ofText_authority reported authority clear] at assembled
  obtain ⟨-, port, -, -, numbered, -⟩ := assemble_eq_ok assembled
  obtain ⟨n, integer⟩ := Port.integer?_of_normalize numbered (by simp)
  exact Text.not_mem_of_integer? integer (c := ':') (by decide) rfl (by decide) (by simp)

/-- The URL of a proxy with a name for its host is read with this name as its host. -/
theorem read_url (chars : ∀ c ∈ p.host.toList, Host.IsNameChar c) (low : 0 < p.port)
    (high : p.port ≤ 65535) (short : p.url.toList.length ≤ maxLength) :
    Url.read p.url.toList = (Host.normalize Codecs.asciiForm? p.host.toList).map p.server := by
  have bare : ':' ∉ p.host.toList :=
    fun member => Host.not_isNameChar (by decide) rfl (chars ':' member)
  have clear : findControl? p.url.toList = none := by
    simpa [findControl?] using not_isControl_url chars
  have path : ∀ located, normalizePath (!"http".toList.isEmpty) located [] = .ok [] := by
    intro located
    cases located <;> rfl
  have port := normalize_port low high
  unfold Url.read readWith
  rw [if_neg (Nat.not_lt.mpr short), clear]
  simp only [toList_url, Parts.ofText_text (parts_readable (.inl chars)),
    ofText_authority (.inl chars) rfl bare]
  unfold assemble
  cases Host.normalize Codecs.asciiForm? p.host.toList with
  | error error => rfl
  | ok form =>
    simp only [parts, port, bind, Except.bind, pure, Except.pure]
    rw [path]
    rfl

/-- The URL that the URL of a proxy is read as stands for the place of the proxy, if a URL reports
    its host. -/
theorem ofUrl_server {cs : List Char} {u : Url} (read : Url.read cs = .ok u)
    (reported : u.name = .ok p.host.toList) (bare : ':' ∉ p.host.toList) {form : List Char}
    (normalized : Host.normalize Codecs.asciiForm? p.host.toList = .ok form) :
    Scope.ofUrl (p.server form) = .ok p.place := by
  have chars := ((read_normal read).isReported reported).nameChars bare
  have port : (Port.beside "http".toList (some p.port)).getD (Scope.defaultPort "http".toList) =
    p.port := by
    unfold Port.beside
    split
    · rename_i default
      exact Option.some.inj default
    · rfl
  -- what is left is that the form stands for the host in lower case
  suffices named : ∃ name, (p.server form).name = .ok name ∧
    Text.lower (String.ofList name) = Text.lower p.host by
    obtain ⟨name, given, same⟩ := named
    rw [Scope.ofUrl, given]
    change Except.ok (Scope.mk (some (Text.lower (String.ofList name)))
      (some ((Port.beside "http".toList (some p.port)).getD (Scope.defaultPort "http".toList)))) = _
    rw [port, same]
    rfl
  by_cases ascii : p.host.toList.all (·.toNat < 128) = true
  · have low : ∀ c ∈ p.host.toList, c.toNat < 128 := fun c member =>
      of_decide_eq_true (List.all_eq_true.mp ascii c member)
    obtain ⟨unmarked, own⟩ := host_of_ascii reported low
    obtain ⟨-, rfl⟩ := (Host.normalize_ascii chars ascii).mp normalized
    refine ⟨p.host.toList.map Char.toLower,
      if_neg ?_, by rw [Text.lower_map_toLower low, String.ofList_toList]⟩
    obtain ⟨host, port, path, origin, -, -, rfl⟩ := assemble_eq_ok (readWith_eq_ok read)
    obtain rfl : host = p.host.toList := own
    rw [List.isPrefixOf_iff_prefix]
    exact fun marked => unmarked (Host.marked_of_toLower origin bare marked)
  · have wide : ¬ ∀ c ∈ p.host.toList, c.toNat < 128 := fun low =>
      ascii (List.all_eq_true.mpr fun c member => decide_eq_true (low c member))
    obtain ⟨marked, decoded⟩ := host_of_wide (read_normal read) reported wide bare
    have coded := (Host.normalize_wide chars ascii).mp normalized
    obtain ⟨marked', decoded'⟩ := Codecs.nameOf_asciiForm marked decoded coded
    refine ⟨_, (if_pos (List.isPrefixOf_iff_prefix.mpr marked')).trans decoded', ?_⟩
    rw [String.ofList_toList, Text.lower_lower, String.ofList_toList]

/-! ### Clients with a proxy -/

theorem endpoint_create {cs : List Char} {u : Url} (read : Url.read cs = .ok u)
    (anonymous : u.userinfo = [])
    (headers : Http.Headers) : ProxyEndpoint.create cs headers = .ok ⟨u, headers, none⟩ := by
  have username : u.username = [] := by
    rw [Url.username, anonymous]
    rfl
  have password : u.password = [] := by
    rw [Url.password, anonymous]
    rfl
  unfold ProxyEndpoint.create
  simp [read, username, password, bind, Except.bind, pure, Except.pure]

/-- A client with a proxy whose URL is read, and whose credentials have octets, is built and has its
    endpoint at this URL. -/
theorem create_of_read {u : Url} (read : Url.read p.url.toList = .ok u)
    (anonymous : u.userinfo = [])
    (encodable : ∀ username, p.username = some username →
      (Client.proxyCredentials p username).IsEncodable)
    {config : Config} (proxied : config.proxy = some p) (logger : Option String) :
    ∃ created endpoint, Client.create config logger = .ok created ∧
      created.value.proxy = some endpoint ∧
      endpoint.url = u := by
  have connects : ∃ connected endpoint,
      Client.connectProxy (Client.startSession config) config.proxy = .ok connected ∧
        connected.value.2 = some endpoint ∧ endpoint.url = u := by
    rw [proxied]
    unfold Client.connectProxy
    cases named : p.username with
    | none =>
      simp only [named, endpoint_create read anonymous]
      exact ⟨⟨(Client.startSession config, some ⟨u, .empty, none⟩), []⟩, _, rfl, rfl, rfl⟩
    | some username =>
      obtain ⟨value, header⟩ := (encodable username named).basicHeader
      let seeded := Client.seedProxy (Client.startSession config) p username
      let headers : Http.Headers := ⟨[⟨Http.FieldName.proxyAuthorization, Utf8.encode value⟩]⟩
      refine ⟨⟨(seeded.value, some ⟨u, headers, none⟩), seeded.records⟩, _, ?_, rfl, rfl⟩
      simp only [named, header, Except.mapError, bind, Except.bind, endpoint_create read anonymous]
      rfl
  obtain ⟨connected, endpoint, connection, placed, located⟩ := connects
  unfold Client.create
  rw [connection]
  exact ⟨_, endpoint, rfl, placed, located⟩

/-- What is to hold of a proxy whose URL names it. -/
structure NamesItself (p : ProxyConfig) : Prop where
  read : ∃ u, Url.read p.url.toList = .ok u ∧ Scope.ofUrl u = .ok p.place
  /-- No client with the proxy is refused for the URL of the proxy. -/
  accepted : ∀ config logger error, config.proxy = some p →
    Client.create config logger ≠ .error (.url error)
  /-- A client is built if the credentials of the proxy have octets, and sends to the proxy where
      the credentials and the auth state are that it registers. -/
  built : ∀ config logger, config.proxy = some p →
    (∀ username, p.username = some username → (Client.proxyCredentials p username).IsEncodable) →
    ∃ created endpoint, Client.create config logger = .ok created ∧
      created.value.proxy = some endpoint ∧
      Scope.ofUrl endpoint.url = .ok p.place ∧ ∀ username, p.username = some username →
        (p.place, ⟨username, p.password.getD ""⟩) ∈ created.value.session.store.entries ∧
          p.place ∈ created.value.session.cache.hosts

/-- What a client registers for its proxy is registered for the place of the proxy. -/
theorem registered {config : Config} {logger : Option String} {created : Logged Client}
    (built : Client.create config logger = .ok created) (proxied : config.proxy = some p)
    {username : RawText} (named : p.username = some username) :
    (p.place, ⟨username, p.password.getD ""⟩) ∈ created.value.session.store.entries ∧
      p.place ∈ created.value.session.cache.hosts := by
  obtain ⟨entries, hosts⟩ := Client.create_registered built
  have registration : config.proxy.bind (·.registration?) =
    some (p.place, ⟨username, p.password.getD ""⟩) := by
    simp [proxied, registration?, named, place, Client.proxyCredentials]
  rw [entries, hosts, registration]
  simp

/-- A client with a proxy whose URL is read can be refused only for the credentials of the proxy. -/
theorem create_ne_url {u : Url} (read : Url.read p.url.toList = .ok u) (anonymous : u.userinfo = [])
    {config : Config} (proxied : config.proxy = some p) (logger : Option String)
    (error : Url.Error) :
    Client.create config logger ≠ .error (.url error) := by
  intro refused
  by_cases encodable : ∀ username, p.username = some username →
    (Client.proxyCredentials p username).IsEncodable
  · obtain ⟨created, endpoint, built, -⟩ := create_of_read read anonymous encodable proxied logger
    rw [built] at refused
    cases refused
  · simp only [not_forall] at encodable
    obtain ⟨username, named, unencodable⟩ := encodable
    cases octets : (Client.proxyCredentials p username).octets with
    | ok encoded => exact unencodable ⟨encoded, octets⟩
    | error error' =>
      rw [(Client.create_unencodable_iff _ proxied named).mpr octets] at refused
      cases refused

end

section

attribute [local instance] Codecs.accented

end

attribute [local instance] Codecs.plain

end ProxyConfig

end Courier
