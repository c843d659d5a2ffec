import Courier.Proofs.Confinement
import Courier.Proofs.Resolution

/-!
# The servers that texts name

The text of a URL names a server by its host, in either case, and by the port that it writes or else
the default one of its scheme (`Scope.ofText`). The host goes by the name that its ASCII form stands
for, so it may be written as the name or as the form, and it may stand for no name, which leaves the
URL without a scope. Reading leaves out a port that is the default one, and `Scope.ofUrl` puts one
back where there is none: 443 for `https` and 80 for every other scheme. So the scope of a URL whose
host stands for a name is that of its server but for two of the schemes that have a default port,
where the text leaves the port to them (`MissesPort`). There servers with different ports are taken
for the same (`tellsServers_iff`).
-/

namespace Courier

section

variable [Codecs]

namespace Url

/-! ## Hosts -/

namespace Host

/-- The ASCII form of a host that a text writes: an address without its brackets, and a name in
    lower case, with escapes where it needs them. -/
def form (cs : List Char) : List Char :=
  if isBracketed cs then (cs.drop 1).dropLast
  else if cs.all (·.toNat < 128) then Percent.encode keepsInName (cs.map Char.toLower)
  else (Codecs.asciiForm? (Text.lower (String.ofList cs)).toList).getD []

/-- The name that a host goes by that a text writes. -/
def nameWritten (cs : List Char) : Except NameError (List Char) :=
  if formPrefix.isPrefixOf (form cs) then Codecs.nameOf (form cs) else .ok (form cs)

/-- A host that is read is in its ASCII form. -/
theorem eq_form {cs host : List Char} (normalized : normalize Codecs.asciiForm? cs = .ok host) :
    host = form cs := by
  unfold form
  rcases normalize_cases normalized with
    ⟨rfl, rfl⟩ | ⟨looks, -, rfl⟩ | ⟨bracketed, -, rfl⟩ | ⟨-, bare, ascii, rfl⟩ | ⟨bare, wide, coded⟩
  · rfl
  · have kept := keepsInName_of_looksLikeIpv4 looks
    have ascii : host.all (·.toNat < 128) = true :=
      List.all_eq_true.mpr fun c member => decide_eq_true (lt_of_keepsInName (kept c member))
    rw [not_isBracketed_of_name kept, if_neg Bool.false_ne_true, if_pos ascii,
      toLower_of_looksLikeIpv4 looks, Percent.encode_of_kept kept]
  · rw [if_pos bracketed]
  · rw [bare, if_neg Bool.false_ne_true, if_pos ascii]
  · rw [bare, wide, if_neg Bool.false_ne_true, if_neg Bool.false_ne_true, coded, Option.getD_some]

end Host

/-! ## Ports -/

/-- The authority of a text in its components, as they are written. -/
def written (cs : List Char) : Authority := Authority.ofText (Parts.ofText cs).authority

/-- The port that a text writes, if it writes one. -/
def writtenPort? (cs : List Char) : Option Int := Text.integer? (written cs).port

/-- The scheme that a text writes. -/
def writtenScheme (cs : List Char) : List Char := (Parts.ofText cs).scheme

variable {cs cs' : List Char} {u u' : Url}

omit [Codecs] in
theorem Port.eq_beside {scheme text : List Char} {port : Option Int}
    (normalized : normalize scheme text = .ok port) :
    port = beside scheme (Text.integer? text) := by
  unfold normalize at normalized
  split at normalized
  · rename_i none
    cases normalized
    rw [List.isEmpty_iff.mp none]
    unfold beside
    split <;> rfl
  · split at normalized
    · cases normalized
    · rename_i n read
      rw [read]
      exact (Except.ok.inj normalized).symm

omit [Codecs] in
theorem Port.beside_eq_none_iff {scheme : List Char} {port : Option Int} :
    beside scheme port = none ↔ port = none ∨ port = default? scheme := by
  unfold beside
  split
  · rename_i default
    simp [default]
  · rename_i other
    simp [Ne.symm other]

omit [Codecs] in
/-- A scheme with a default port is in lower case. -/
theorem Port.default?_toLower {scheme : List Char} {n : Int} (default : default? scheme = some n) :
    default? (scheme.map Char.toLower) = some n := by
  have lower : scheme.map Char.toLower = scheme := by
    unfold default? at default
    split at default
    · rename_i ftp
      rw [ftp]
      rfl
    · split at default
      · rename_i web
        rcases web with rfl | rfl <;> rfl
      · split at default
        · rename_i secure
          rcases secure with rfl | rfl <;> rfl
        · cases default
  rw [lower, default]

/-- What a text that is read writes, in the URL. -/
theorem read_written (read : Url.read cs = .ok u) :
    u.name = Host.nameWritten (written cs).host ∧
      u.port = Port.beside (writtenScheme cs) (writtenPort? cs) ∧
      u.scheme = (writtenScheme cs).map Char.toLower := by
  obtain ⟨host, port, path, normalized, numbered, -, rfl⟩ := assemble_eq_ok (readWith_eq_ok read)
  refine ⟨?_, Port.eq_beside numbered, rfl⟩
  rw [Host.nameWritten, written, ← Host.eq_form normalized]
  rfl

/-- The port of the server of a URL is the written one, or else the default one of the scheme. -/
theorem effectivePort?_of_read (read : Url.read cs = .ok u) :
    u.effectivePort? = (writtenPort? cs).or
      (Port.default? ((writtenScheme cs).map Char.toLower)) := by
  obtain ⟨-, port, scheme⟩ := read_written read
  unfold effectivePort?
  rw [port, scheme, Option.orElse_eq_orElse, Option.orElse_eq_or]
  cases given : writtenPort? cs with
  | none =>
    rw [Port.beside_eq_none_iff.mpr (.inl rfl)]
  | some n =>
    unfold Port.beside
    split
    · rename_i default
      rw [Port.default?_toLower default]
      rfl
    · rfl

end Url

/-! ## Scopes -/

namespace Scope

open Url

variable {cs cs' : List Char} {u u' : Url}

/-- The scope of the server that a text names, if its host stands for a name. -/
def ofText (cs : List Char) : Except NameError Scope :=
  (Host.nameWritten (written cs).host).map fun name =>
    .of (some (String.ofList name))
      ((writtenPort? cs).or (Port.default? ((writtenScheme cs).map Char.toLower)))

/-- A text that is read names the server of its URL, if the host stands for a name. -/
theorem ofText_of_read (read : Url.read cs = .ok u) :
    ofText cs = u.name.map fun _ => ofServer u := by
  obtain ⟨name, -, -⟩ := read_written read
  unfold ofText ofServer
  rw [effectivePort?_of_read read, ← name]
  cases named : u.name with
  | error error => rfl
  | ok name => rw [hostName_of_name named]; rfl

/-- Whether a text leaves its port to a scheme for which another one is put back: it writes none, or
    one that is left out. -/
structure MissesPort (cs : List Char) : Prop where
  scheme : (writtenScheme cs).map Char.toLower = "wss".toList ∨
    (writtenScheme cs).map Char.toLower = "ftp".toList
  left : writtenPort? cs = none ∨ writtenPort? cs = Port.default? (writtenScheme cs)

omit [Codecs] in
/-- Of the schemes with a default port, the two that are not on the web have another one put
    back. -/
theorem defaultPort_eq_iff {scheme : List Char} {n : Int}
    (default : Port.default? scheme = some n) :
    defaultPort scheme = n ↔ ¬ (scheme = "wss".toList ∨ scheme = "ftp".toList) := by
  unfold Port.default? at default
  split at default
  · rename_i ftp
    subst ftp
    cases default
    decide
  · split at default
    · rename_i web
      rcases web with rfl | rfl <;> cases default <;> decide
    · split at default
      · rename_i secure
        rcases secure with rfl | rfl <;> cases default <;> decide
      · cases default

/-- A URL with a known scheme is taken for its server exactly if it has a port left, or the one put
    back is that of the scheme. -/
theorem scope_eq_ofServer_iff (known : (Port.default? u.scheme).isSome = true) :
    u.scope = ofServer u ↔ ¬ ((u.scheme = "wss".toList ∨ u.scheme = "ftp".toList) ∧
      u.port = none) := by
  obtain ⟨n, default⟩ := Option.isSome_iff_exists.mp known
  have ports : u.scope = ofServer u ↔
    some (u.port.getD (defaultPort u.scheme)) = u.effectivePort? := by
    simp [Url.scope, named, ofServer, of]
  rw [ports, effectivePort?]
  cases port : u.port with
  | some n => simp
  | none =>
    rw [default]
    simpa using defaultPort_eq_iff default

/-- Whether the scope of a URL is that of the server that a text names. -/
def Tells (cs : List Char) (u : Url) : Prop :=
  ∃ server, ofText cs = .ok server ∧ ofUrl u = .ok server

/-- The scope of a URL with a known scheme is that of the server of its text exactly if the text
    names one, and does not leave its port to a scheme for which another one is put back. -/
theorem tells_iff (read : Url.read cs = .ok u) (known : (Port.default? u.scheme).isSome = true) :
    Tells cs u ↔ (∃ name, Host.nameWritten (written cs).host = .ok name) ∧ ¬ MissesPort cs := by
  obtain ⟨name, port, scheme⟩ := read_written read
  have same : u.scope = ofServer u ↔ ¬ MissesPort cs := by
    rw [scope_eq_ofServer_iff known, port, Port.beside_eq_none_iff, scheme]
    exact not_congr ⟨fun ⟨scheme, left⟩ => ⟨scheme, left⟩, fun ⟨scheme, left⟩ => ⟨scheme, left⟩⟩
  rw [← same, ← name, Tells, ofText_of_read read]
  rcases ofUrl_cases u with ⟨error, unnamed, given⟩ | ⟨⟨name, named⟩, given⟩
  · simp [unnamed, given, Except.map]
  · simp [named, given, Except.map, eq_comm]

/-- What the scopes of two URLs are to tell of the texts that these were read from. -/
structure TellsServers (cs cs' : List Char) (u u' : Url) : Prop where
  own : Tells cs u
  other : Tells cs' u'
  /-- The scopes are the same exactly if hosts and ports are. -/
  apart : ∀ server server', ofText cs = .ok server → ofText cs' = .ok server' →
    (ofUrl u = ofUrl u' ↔ server.host = server'.host ∧ server.port = server'.port)

/-- The scopes of two URLs with known schemes tell the servers of their texts exactly if both texts
    have a host that stands for a name, and neither leaves its port to a scheme for which another
    one is put back. -/
theorem tellsServers_iff (read : Url.read cs = .ok u) (read' : Url.read cs' = .ok u')
    (known : (Port.default? u.scheme).isSome = true)
    (known' : (Port.default? u'.scheme).isSome = true) :
    TellsServers cs cs' u u' ↔
      ((∃ name, Host.nameWritten (written cs).host = .ok name) ∧ ¬ MissesPort cs) ∧
        (∃ name, Host.nameWritten (written cs').host = .ok name) ∧ ¬ MissesPort cs' := by
  rw [← tells_iff read known, ← tells_iff read' known']
  constructor
  · exact fun tells => ⟨tells.own, tells.other⟩
  · rintro ⟨own, other⟩
    refine ⟨own, other, ?_⟩
    intro server server' names names'
    obtain ⟨_, here, given⟩ := own
    obtain ⟨_, here', given'⟩ := other
    cases names.symm.trans here
    cases names'.symm.trans here'
    rw [given, given', Except.ok.injEq, Scope.mk.injEq]

end Scope

end

namespace Scope

open Url

section

attribute [local instance] Codecs.accented

/-- A host written in either case and as a form, with a default port that is kept behind a scheme in
    upper case. -/
theorem tellsServers_capital :
    ∃ u u', Url.read "HTTPS://É.COM:443/a".toList = .ok u ∧
      Url.read "https://xn--9ca.com".toList = .ok u' ∧
      u.port = some 443 ∧ u'.port = none ∧
        ofText "https://xn--9ca.com".toList = .ok ⟨some "é.com", some 443⟩ ∧
        TellsServers "HTTPS://É.COM:443/a".toList "https://xn--9ca.com".toList u u' := by
  refine ⟨⟨"https".toList, [], "xn--9ca.com".toList, some 443, ['/', 'a'], none, none⟩,
    ⟨"https".toList, [], "xn--9ca.com".toList, none, [], none, none⟩,
    by decide +kernel, by decide +kernel, rfl, rfl, by decide +kernel, ?_⟩
  apply (tellsServers_iff (by decide +kernel) (by decide +kernel) rfl rfl).mpr
  refine ⟨⟨⟨"é.com".toList, by decide +kernel⟩, ?_⟩, ⟨"é.com".toList, by decide +kernel⟩, ?_⟩
  · rintro ⟨scheme, -⟩
    exact absurd scheme (by decide +kernel)
  · rintro ⟨scheme, -⟩
    exact absurd scheme (by decide +kernel)

end

attribute [local instance] Codecs.plain

/-- A socket on port 443 and one on port 80 of a host are taken for the same server. -/
theorem socket_port_missed :
    ∃ u u', Url.read "wss://h/".toList = .ok u ∧ Url.read "wss://h:80/".toList = .ok u' ∧
      ofText "wss://h/".toList = .ok ⟨some "h", some 443⟩ ∧
        ofText "wss://h:80/".toList = .ok ⟨some "h", some 80⟩ ∧
        ofUrl u = .ok ⟨some "h", some 80⟩ ∧ ofUrl u' = .ok ⟨some "h", some 80⟩ := by
  refine ⟨⟨"wss".toList, [], ['h'], none, ['/'], none, none⟩,
    ⟨"wss".toList, [], ['h'], some 80, ['/'], none, none⟩,
    ?_, ?_, ?_, ?_, ?_, ?_⟩ <;> decide +kernel

end Scope

end Courier
