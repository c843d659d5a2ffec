import Courier.Proofs.Hosts
import Courier.Proofs.Parts
import Courier.Proofs.Ports
import Courier.Proofs.Results

/-!
# URLs in normal form

Whatever a URL is put together from, its components consist of characters that stand for themselves
there, and its path is settled (`Url.Normal`, `assemble_normal`). So the authority of such a URL is
split into the components it was written from (`Normal.ofText_authority`), and its text into the
parts it was written from (`Normal.ofText_text`). Putting these together again gives the URL back,
but for a name that is not in lower case and a port that is the default one of the scheme
(`Normal.assemble_parts`), unless its host only looks like an IPv4 address.
-/

namespace Courier

namespace Url

/-! ## Paths -/

/-- Whether a path is empty or starts with a slash. -/
def Rooted (path : List Char) : Prop := ∀ c ∈ path.head?, c = '/'

theorem Rooted.encode {path : List Char} (rooted : Rooted path) :
    Rooted (Percent.encode keepsInPath path) := by
  cases path with
  | nil => exact rooted
  | cons c path =>
    obtain rfl : c = '/' := rooted c rfl
    rw [Percent.encode_cons_of_kept (by decide)]
    exact rooted

/-- The empty first segment of a rooted path is never taken back. -/
theorem resolveDots_head (segments : List (List Char)) :
    (resolveDots ([] :: segments)).head? = some [] := by
  unfold resolveDots
  rw [List.foldl_cons]
  refine List.foldlRecOn (motive := fun output : List (List Char) => output.head? = some [])
    segments _ rfl ?_
  intro output first segment _
  split
  · exact first
  · split
    · split
      · exact first
      · rename_i more
        match output, first, more with
        | [_], first, more => simp_all
        | _ :: _ :: _, first, _ => exact first
    · cases output with
      | nil => cases first
      | cons first' rest => exact first

theorem Rooted.removeDots {path : List Char} (rooted : Rooted path) : Rooted (removeDots path) := by
  unfold Url.removeDots
  simp only
  split
  · cases path with
    | nil => exact rooted
    | cons c path =>
      obtain rfl : c = '/' := rooted c rfl
      have first := resolveDots_head (Host.splitOn '/' path)
      rw [Host.splitOn_cons, if_pos rfl]
      unfold joinSegments
      generalize resolveDots ([] :: Host.splitOn '/' path) = segments at first
      match segments, first with
      | [[]], _ => simp [Rooted]
      | [] :: next :: rest, _ =>
        rw [List.intercalate_cons_cons]
        simp [Rooted]
  · exact rooted

/-- What the path of a URL has to be, without a scheme and an authority in front of it. -/
def Bare (path : List Char) : Prop := ¬ ['/', '/'] <+: path ∧ ¬ [':'] <+: path

theorem Bare.encode {path : List Char} (bare : Bare path) :
    Bare (Percent.encode keepsInPath path) :=
  ⟨fun slashes => bare.1 (Percent.isPrefix_of_encode (by decide) slashes),
    fun colon => bare.2 (Percent.isPrefix_of_encode (by decide) colon)⟩

/-- What normalizing a path comes to. -/
theorem normalizePath_eq_ok_iff {hasScheme hasAuthority : Bool} {path normal : List Char} :
    normalizePath hasScheme hasAuthority path = .ok normal ↔
      (hasAuthority = true → Rooted path) ∧
        if hasScheme || hasAuthority then normal = removeDots path
        else Bare path ∧ normal = path := by
  have rooted : Rooted path ↔ ¬ (!path.isEmpty && path.head? != some '/') = true := by
    cases path <;> simp [Rooted]
  have slashes : path.take 2 = ['/', '/'] ↔ ['/', '/'] <+: path := by
    rw [List.prefix_iff_eq_take]
    exact eq_comm
  have colon : path.head? = some ':' ↔ [':'] <+: path := by
    cases path <;> simp [List.cons_prefix_cons, eq_comm]
  unfold normalizePath
  rw [Bool.and_assoc]
  cases hasAuthority with
  | true =>
    by_cases root : Rooted path
    · simp [rooted.mp root, root, eq_comm]
    · have refused := not_not.mp fun h => root (rooted.mpr h)
      simp [refused, root]
  | false =>
    cases hasScheme with
    | true => simp [eq_comm]
    | false =>
      simp only [Bool.false_and, Bool.or_false, Bool.false_eq_true, if_false, slashes, colon, Bare]
      split
      · rename_i double
        simp [double]
      · split
        · rename_i double leading
          simp [leading]
        · rename_i double leading
          simp [double, leading, eq_comm]

/-- Behind a scheme, what the path has to be does not change when there is no authority any more. -/
theorem normalizePath_of_scheme {hasAuthority hasAuthority' : Bool} {path normal : List Char}
    (normalized : normalizePath true hasAuthority path = .ok normal)
    (fewer : hasAuthority' = true → hasAuthority = true) :
    normalizePath true hasAuthority' path = .ok normal := by
  rw [normalizePath_eq_ok_iff] at normalized ⊢
  exact ⟨fun given => normalized.1 (fewer given), normalized.2⟩

/-- A path in normal form stays as it is when it is normalized once more. -/
theorem normalizePath_encode {hasScheme hasAuthority : Bool} {path normal : List Char}
    (normalized : normalizePath hasScheme hasAuthority path = .ok normal) :
    normalizePath hasScheme hasAuthority (Percent.encode keepsInPath normal) =
      .ok (Percent.encode keepsInPath normal) := by
  rw [normalizePath_eq_ok_iff] at normalized ⊢
  obtain ⟨rooted, normal⟩ := normalized
  split at normal
  · rename_i located
    rw [normal, if_pos located, removeDots_of_dotless (dotless_removeDots path).encode]
    exact ⟨fun given => (rooted given).removeDots.encode, rfl⟩
  · rename_i bare
    obtain ⟨alone, rfl⟩ := normal
    rw [if_neg bare]
    exact ⟨fun given => (rooted given).encode, alone.encode, rfl⟩

/-! ## Normal forms -/

/-- A URL in normal form. -/
structure Normal (u : Url) : Prop where
  scheme : isSchemeName u.scheme = true
  lower : u.scheme.map Char.toLower = u.scheme
  userinfo : ∀ c ∈ u.userinfo, keepsInUserinfo c = true
  host : Host.IsNormal u.host
  /-- The port is read from its text. -/
  port : ∀ port, u.port = some port → Text.integer? (portText port) = some port
  path : ∀ c ∈ u.path, keepsInPath c = true
  settled : normalizePath (!u.scheme.isEmpty) (!u.authority.isEmpty) u.path = .ok u.path
  query : ∀ c ∈ u.query.getD [], keepsInQuery c = true
  fragment : ∀ c ∈ u.fragment.getD [], keepsInFragment c = true

theorem authority_eq (u : Url) :
    u.authority = (if u.userinfo.isEmpty then [] else u.userinfo ++ ['@'])
      ++ (Host.text u.host ++ marked ':' (u.port.map portText)) := by
  unfold authority hostPort
  cases u.port <;> rfl

theorem text_eq (u : Url) : u.text = u.parts.text := by
  unfold text Parts.text parts
  cases u.query <;> cases u.fragment <;> rfl

theorem Host.text_eq_nil_iff {host : List Char} : Host.text host = [] ↔ host = [] := by
  unfold Host.text
  split
  · rename_i colon
    have some : host ≠ [] := by
      rintro rfl
      cases colon
    simp [some]
  · exact Iff.rfl

theorem authority_isEmpty (u : Url) :
    (!u.authority.isEmpty) = (!u.userinfo.isEmpty || !u.host.isEmpty || u.port.isSome) := by
  have host : (Host.text u.host).isEmpty = u.host.isEmpty := by
    rw [Bool.eq_iff_iff, List.isEmpty_iff, List.isEmpty_iff, Host.text_eq_nil_iff]
  rw [authority_eq]
  cases userinfo : u.userinfo with
  | nil =>
    cases u.port with
    | none => simp [host]
    | some port => simp
  | cons c cs => simp

theorem isSchemeName_toLower {name : List Char} (named : isSchemeName name = true) :
    isSchemeName (name.map Char.toLower) = true := by
  have other : ∀ c : Char, (c.isAlphanum || c == '+' || c == '-' || c == '.') = true →
      (c.toLower.isAlphanum || c.toLower == '+' || c.toLower == '-' || c.toLower == '.') =
        true := by
    apply forall_of_ascii
    · decide
    · exact fun c own other => by rwa [own]
  cases name with
  | nil => rfl
  | cons c rest =>
    simp only [isSchemeName, Bool.and_eq_true, List.all_eq_true] at named
    simp only [List.map_cons, isSchemeName, Bool.and_eq_true, List.all_eq_true, List.forall_mem_map]
    exact ⟨(Char.isAlpha_toLower_eq_isAlpha c).trans named.1, fun d member =>
      other d (named.2 d member)⟩

theorem keeps_keepsExcept {excluded : String} (mark : '%' ∉ excluded.toList)
    (digit : ∀ n < 16, Percent.upperHexDigit n ∉ excluded.toList) :
    Percent.Keeps (keepsExcept excluded) := by
  have ascii : ∀ n < 16, 32 ≤ (Percent.upperHexDigit n).toNat ∧
    (Percent.upperHexDigit n).toNat < 127 := by decide
  constructor
  · simp [keepsExcept, mark]
  · intro n small
    simp [keepsExcept, ascii n small, digit n small]

theorem keeps_keepsInUserinfo : Percent.Keeps keepsInUserinfo :=
  keeps_keepsExcept (by decide) (by decide)
theorem keeps_keepsInPath : Percent.Keeps keepsInPath := keeps_keepsExcept (by decide) (by decide)
theorem keeps_keepsInQuery : Percent.Keeps keepsInQuery := keeps_keepsExcept (by decide) (by decide)
theorem keeps_keepsInFragment : Percent.Keeps keepsInFragment :=
  keeps_keepsExcept (by decide) (by decide)

variable {asciiForm? : List Char → Option (List Char)}

/-- What putting a URL together comes to. -/
theorem assemble_eq_ok {p : Parts} {a : Authority} {u : Url}
    (assembled : assemble asciiForm? p a = .ok u) :
    ∃ host port path, Host.normalize asciiForm? a.host = .ok host ∧
      Port.normalize p.scheme a.port = .ok port ∧
      normalizePath (!p.scheme.isEmpty)
        (!(Percent.encode keepsInUserinfo a.userinfo).isEmpty || !host.isEmpty || port.isSome)
        p.path = .ok path ∧
      u = { scheme := p.scheme.map Char.toLower
            userinfo := Percent.encode keepsInUserinfo a.userinfo, host, port
            path := Percent.encode keepsInPath path
            query := p.query.map (Percent.encode keepsInQuery)
            fragment := p.fragment.map (Percent.encode keepsInFragment) } := by
  unfold assemble at assembled
  obtain ⟨host, named, assembled⟩ := bind_eq_ok.mp assembled
  obtain ⟨port, numbered, assembled⟩ := bind_eq_ok.mp assembled
  obtain ⟨path, settled, assembled⟩ := bind_eq_ok.mp assembled
  exact ⟨host, port, path, named, numbered, settled, (Except.ok.inj assembled).symm⟩

/-- A port that is written is an integer. -/
theorem Port.integer?_of_normalize {scheme cs : List Char} {port : Option Int}
    (normalized : normalize scheme cs = .ok port) (written : cs ≠ []) :
    ∃ n, Text.integer? cs = some n := by
  unfold normalize at normalized
  rw [if_neg (by simpa using written)] at normalized
  split at normalized
  · cases normalized
  · rename_i n read
    exact ⟨n, read⟩

theorem Port.normalize_read {scheme cs : List Char} {port : Int}
    (normalized : normalize scheme cs = .ok (some port)) :
    Text.integer? cs = some port := by
  unfold normalize at normalized
  split at normalized
  · cases normalized
  · split at normalized
    · cases normalized
    · rename_i n read
      rw [Except.ok.injEq] at normalized
      split at normalized
      · cases normalized
      · rwa [← Option.some.inj normalized]

theorem getD_map_encode {keep : Char → Bool} (keeps : Percent.Keeps keep)
    (component : Option (List Char)) :
    ∀ c ∈ (component.map (Percent.encode keep)).getD [], keep c = true := by
  cases component with
  | none => simp
  | some cs => exact keeps.encode cs

/-- Whatever a URL is put together from, it is in normal form. -/
theorem assemble_normal (forms : Host.AreForms asciiForm?) {p : Parts} {a : Authority}
    (named : isSchemeName p.scheme = true) {u : Url} (assembled : assemble asciiForm? p a = .ok u) :
    u.Normal := by
  obtain ⟨host, port, path, normalized, numbered, settled, rfl⟩ := assemble_eq_ok assembled
  refine ⟨isSchemeName_toLower named, ?_, keeps_keepsInUserinfo.encode _,
    Host.normalize_normal forms normalized, ?_,
    keeps_keepsInPath.encode _, ?_, getD_map_encode keeps_keepsInQuery _,
      getD_map_encode keeps_keepsInFragment _⟩
  · rw [List.map_map]
    exact List.map_congr_left fun c _ => Char.toLower_toLower_eq_toLower c
  · rintro port rfl
    exact integer?_portText (Port.normalize_read numbered)
  · rw [authority_isEmpty]
    have scheme : (p.scheme.map Char.toLower).isEmpty = p.scheme.isEmpty := List.isEmpty_map
    simp only [scheme]
    exact normalizePath_encode settled

theorem isSchemeName_splitScheme (cs : List Char) : isSchemeName (splitScheme cs).1 = true := by
  unfold splitScheme
  split
  · simp only
    split
    · assumption
    · rfl
  · rfl

/-- Reading a URL is putting it together from the parts of its text. -/
theorem readWith_eq_ok {cs : List Char} {u : Url} (read : readWith asciiForm? cs = .ok u) :
    assemble asciiForm? (Parts.ofText cs) (Authority.ofText (Parts.ofText cs).authority) =
      .ok u := by
  unfold readWith at read
  split at read
  · cases read
  · split at read
    · cases read
    · exact read

/-- Every URL that is read is in normal form. -/
theorem readWith_normal (forms : Host.AreForms asciiForm?) {cs : List Char} {u : Url}
    (read : readWith asciiForm? cs = .ok u) : u.Normal :=
  assemble_normal forms (isSchemeName_splitScheme cs) (readWith_eq_ok read)

theorem parse_eq_ok {cs : List Char} {u : Url} (read : parse cs = .ok u) :
    assemble Host.noForm (Parts.ofText cs) (Authority.ofText (Parts.ofText cs).authority) = .ok u :=
  readWith_eq_ok read

theorem parse_normal {cs : List Char} {u : Url} (read : parse cs = .ok u) : u.Normal :=
  readWith_normal Host.areForms_noForm read

theorem read_normal [Codecs] {cs : List Char} {u : Url} (read : Url.read cs = .ok u) : u.Normal :=
  readWith_normal Host.areForms_codecs read

theorem ofParts_normal {p : Parts} (named : isSchemeName p.scheme = true) {u : Url}
    (made : ofParts p = .ok u) :
    u.Normal := by
  obtain ⟨_, -, assembled⟩ := bind_eq_ok.mp made
  exact assemble_normal Host.areForms_noForm named assembled

/-- A host that is put together without ASCII forms is an IPv4 address if it looks like one. -/
theorem assemble_genuine {p : Parts} {a : Authority} {u : Url}
    (assembled : assemble Host.noForm p a = .ok u) : Host.IsGenuine u.host := by
  obtain ⟨host, port, path, normalized, -, -, rfl⟩ := assemble_eq_ok assembled
  exact Host.normalize_genuine normalized

theorem parse_genuine {cs : List Char} {u : Url} (read : parse cs = .ok u) :
    Host.IsGenuine u.host :=
  assemble_genuine (parse_eq_ok read)

/-! ## Reading a normal form again -/

/-- A character that a component excludes is none of its characters. -/
theorem not_mem_of_kept {keep : Char → Bool} {cs : List Char}
    (kept : ∀ c ∈ cs, keep c = true) {c : Char} (excluded : keep c = false) : c ∉ cs := by
  intro member
  rw [kept c member] at excluded
  cases excluded

/-- A character that is no digit stands in no port. -/
theorem not_mem_portText {port : Int} {c : Char} (digit : c.isDigit = false) (minus : c ≠ '-') :
    c ∉ portText port := by
  intro member
  rcases mem_portText c member with digit' | same
  · rw [digit'] at digit
    cases digit
  · exact minus same

theorem not_mem_markedPort (port : Option Int) {c : Char} (digit : c.isDigit = false)
    (other : c ≠ '-' ∧ c ≠ ':') :
    c ∉ marked ':' (port.map portText) := by
  cases port with
  | none => simp
  | some port =>
    simp only [Option.map_some, marked_some, List.mem_cons, not_or]
    exact ⟨other.2, not_mem_portText digit other.1⟩

theorem Host.not_mem_text {host : List Char} (normal : IsNormal host) {c : Char}
    (mark : EndsHost c) :
    c ∉ Host.text host := by
  have absent := normal.not_mem mark
  unfold Host.text
  split
  · have bracket : c ≠ '[' ∧ c ≠ ']' := by
      rcases mark with rfl | rfl | rfl | rfl <;> decide
    simp [bracket, absent]
  · exact absent

/-- Without an opening bracket in front the host ends at the first colon. -/
theorem splitHost_of_head {cs : List Char} (bracket : cs.head? ≠ some '[') :
    splitHost cs = (cs.takeWhile (· ≠ ':'), cs.dropWhile (· ≠ ':')) := by
  unfold splitHost
  split
  · rename_i first _
    exact absurd first bracket
  · rfl

/-- The host of an authority is split off what follows it. -/
theorem splitHost_text {host : List Char} (normal : Host.IsNormal host) (port : Option Int) :
    splitHost (Host.text host ++ marked ':' (port.map portText)) =
      (Host.text host, marked ':' (port.map portText)) := by
  unfold Host.text
  split
  · have clear : ']' ∉ marked ':' (port.map portText) := not_mem_markedPort port rfl (by decide)
    have split := splitAtLast_append ']' ('[' :: host) clear
    have text : '[' :: host ++ [']'] ++ marked ':' (port.map portText) =
        '[' :: host ++ ']' :: marked ':' (port.map portText) := by simp
    unfold splitHost
    rw [text, split]
    rfl
  · rename_i plain
    have passes := passes_of_not_mem fun member => plain (List.contains_iff_mem.mpr member)
    have stops := marked_stops (· ≠ ':') ':' rfl (port.map portText)
    have bracket : (host ++ marked ':' (port.map portText)).head? ≠ some '[' := by
      intro first
      have member := List.mem_of_mem_head? first
      rcases List.mem_append.mp member with inside | behind
      · rcases normal with name | address
        · exact absurd (name '[' inside) (by decide)
        · exact plain (List.contains_iff_mem.mpr (Host.colon_mem_of_isIpv6 address))
      · exact not_mem_markedPort port rfl (by decide) behind
    obtain ⟨before, behind⟩ := span_append_of_stops stops passes
    rw [splitHost_of_head bracket, before, behind]

/-- A text without the characters that end an authority can be one. -/
theorem not_endsAuthority_of_not_mem {cs : List Char} (slash : '/' ∉ cs) (query : '?' ∉ cs)
    (fragment : '#' ∉ cs) :
    ∀ c ∈ cs, endsAuthority c = false := by
  intro c member
  have slash' : c ≠ '/' := fun same => slash (same ▸ member)
  have query' : c ≠ '?' := fun same => query (same ▸ member)
  have fragment' : c ≠ '#' := fun same => fragment (same ▸ member)
  simp [endsAuthority, slash', query', fragment']

namespace Normal

variable {u : Url} (normal : u.Normal)

include normal

/-- The authority of a URL is split into the components it was written from. -/
theorem ofText_authority :
    Authority.ofText u.authority = ⟨u.userinfo, Host.text u.host,
      (u.port.map portText).getD []⟩ := by
  have clear : '@' ∉ Host.text u.host ++ marked ':' (u.port.map portText) := by
    rw [List.mem_append, not_or]
    exact ⟨Host.not_mem_text normal.host (by simp [Host.EndsHost]),
      not_mem_markedPort _ rfl (by decide)⟩
  have userinfo : splitAtLast '@' u.authority =
      (if u.userinfo.isEmpty then none else some u.userinfo,
        Host.text u.host ++ marked ':' (u.port.map portText)) := by
    rw [authority_eq]
    split
    · exact splitAtLast_of_not_mem clear
    · rw [List.append_assoc, List.singleton_append]
      exact splitAtLast_append '@' _ clear
  unfold Authority.ofText
  rw [userinfo]
  simp only [splitHost_text normal.host]
  congr 1
  · split
    · rename_i none
      exact (List.isEmpty_iff.mp none).symm
    · rfl
  · cases u.port <;> rfl

theorem endsAuthority : ∀ c ∈ u.authority, endsAuthority c = false := by
  have absent : ∀ d : Char, keepsInUserinfo d = false → Host.EndsHost d → d.isDigit = false →
    d ≠ '-' ∧ d ≠ ':' →
      d ≠ '@' → d ∉ u.authority := by
    intro d user mark digit other sign
    rw [authority_eq, List.mem_append, List.mem_append, not_or, not_or]
    refine ⟨?_, Host.not_mem_text normal.host mark, not_mem_markedPort _ digit other⟩
    split
    · simp
    · simpa [sign] using not_mem_of_kept normal.userinfo user
  apply not_endsAuthority_of_not_mem
  · exact absent '/' rfl (.inl rfl) rfl (by decide) (by decide)
  · exact absent '?' rfl (.inr (.inl rfl)) rfl (by decide) (by decide)
  · exact absent '#' rfl (.inr (.inr (.inl rfl))) rfl (by decide) (by decide)

theorem endsPath : ∀ c ∈ u.path, endsPath c = false := by
  intro c member
  have query : c ≠ '?' := fun same => not_mem_of_kept normal.path (c := '?') rfl (same ▸ member)
  have fragment : c ≠ '#' := fun same => not_mem_of_kept normal.path (c := '#') rfl (same ▸ member)
  simp [Url.endsPath, query, fragment]

theorem readable (located : u.authority ≠ []) : u.parts.Readable where
  scheme := normal.scheme
  located := located
  authority := normal.endsAuthority
  rooted := by
    have settled := normalizePath_eq_ok_iff.mp normal.settled
    exact settled.1 (by simpa using located)
  path := normal.endsPath
  query := not_mem_of_kept normal.query rfl

/-- The text of a URL with an authority is split into the parts it was written from. -/
theorem ofText_text (located : u.authority ≠ []) : Parts.ofText u.text = u.parts := by
  rw [text_eq, Parts.ofText_text (normal.readable located)]

end Normal

/-- A port that is not the default one of a scheme. -/
def Port.beside (scheme : List Char) (port : Option Int) : Option Int :=
  if Port.default? scheme = port then none else port

theorem Port.normalize_text (scheme : List Char) (port : Option Int)
    (written : ∀ n, port = some n → Text.integer? (portText n) = some n) :
    normalize scheme ((port.map portText).getD []) = .ok (beside scheme port) := by
  unfold beside
  cases port with
  | none => simp [normalize]
  | some n =>
    rw [Option.map_some, Option.getD_some, normalize, written n rfl]
    simp [portText_ne_nil]

/-- Putting a URL together from its parts again brings a name to lower case and leaves out a port
    that is the default one. The fragment may be another one. -/
theorem Normal.assemble_parts {u : Url} (normal : u.Normal) (genuine : Host.IsGenuine u.host)
    (fragment : Option (List Char)) :
    assemble Host.noForm { u.parts with fragment } (Authority.ofText u.authority) = .ok { u with
      host := Host.lowered u.host
      port := Port.beside u.scheme u.port
      fragment := fragment.map (Percent.encode keepsInFragment) } := by
  have host := Host.normalize_text normal.host genuine
  have port := Port.normalize_text u.scheme u.port normal.port
  have none : (Host.lowered u.host).isEmpty = u.host.isEmpty := by
    unfold Host.lowered
    split
    · rfl
    · exact List.isEmpty_map
  -- a default port is left out behind a scheme only, where the authority has no say in the path
  have settled : normalizePath (!u.scheme.isEmpty)
      (!u.userinfo.isEmpty || !(Host.lowered u.host).isEmpty ||
        (Port.beside u.scheme u.port).isSome) u.path =
        .ok u.path := by
    have settled := normal.settled
    rw [authority_isEmpty] at settled
    rw [none]
    unfold Port.beside
    split
    · rename_i default
      cases scheme : u.scheme with
      | nil =>
        rw [scheme] at default settled
        rwa [← default] at settled
      | cons c rest =>
        rw [scheme] at settled
        refine normalizePath_of_scheme settled fun located => ?_
        rw [Option.isSome_none, Bool.or_false] at located
        rw [located, Bool.true_or]
    · exact settled
  have query : u.query.map (Percent.encode keepsInQuery) = u.query := by
    have kept := normal.query
    cases given : u.query with
    | none => rfl
    | some query => rw [Option.map_some, Percent.encode_of_kept (by simpa [given] using kept)]
  rw [normal.ofText_authority]
  unfold assemble
  simp only [parts, host, port, Percent.encode_of_kept normal.userinfo, bind, Except.bind,
    pure, Except.pure]
  simp only [settled, Percent.encode_of_kept normal.path, query, normal.lower]

end Url

end Courier
