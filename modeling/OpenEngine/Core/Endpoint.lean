import OpenEngine.Delimited
import OpenEngine.Core.Text

/-!
# Outbound endpoints

`host_of`, `is_loopback` and `validate_endpoint` of `http.rs`. What the host of a URL is, is said
here apart from the code: the authority ends at the path, the query or the fragment, the user
information ends at the last at sign, an address in brackets is the host, and only a port may stand
behind a host. The code finds that host; but it takes every name that begins with `127.` for
loopback, and it does not look behind a bracket.
-/

namespace OpenEngine.Core

open Delimited

/-- `PLAINTEXT_OPT_OUT`. -/
def plaintextOptOut : String := "SPONSOR_ALLOW_PLAINTEXT_HTTP"

/-- The host in the part of an authority behind the user information. -/
def hostIn (hostPort : List Char) : List Char :=
  match hostPort with
  | '[' :: rest => before [']'] rest
  | _ => before [':'] hostPort

/-- `host_of`. -/
def hostOf (authority : List Char) : List Char :=
  let hostPort := before ['/', '?', '#'] authority
  hostIn (((rsplitOnce '@' hostPort).map fun parts => parts.2).getD hostPort)

/-- `is_loopback`. -/
def isLoopback (host : List Char) : Bool :=
  host == "localhost".toList || host == "::1".toList || "127.".toList.isPrefixOf host

/-- Whether the value of `PLAINTEXT_OPT_OUT`, if there is one, opts out. -/
def optedOut (value : Option String) : Bool :=
  (value.map fun value => toLowercase value == "true" || value == "1").getD false

/-- `validate_endpoint`, with the value of `PLAINTEXT_OPT_OUT` as the environment has it. -/
def validateEndpoint (optOut : Option String) (url what : String) : Except String Unit :=
  if "https://".toList.isPrefixOf url.toList then .ok ()
  else
    match stripPrefix "http://" url with
    | none => .error s!"{what} must be an http:// or https:// URL, got '{url}'"
    | some authority =>
      let host := hostOf authority.toList
      if host = [] then .error s!"{what} has no host: '{url}'"
      else if isLoopback host then .ok ()
      else if optedOut optOut then .ok ()
      else
        let name := String.ofList host
        .error (s!"{what} is configured over plaintext http:// to {name}, so credentials and " ++
          "transaction contents would cross the network in the clear. Use https://, or set " ++
          s!"{plaintextOptOut}=true if a service mesh or sidecar already encrypts this hop.")

/-- The host and port of an authority, between the user information and the path. -/
def HostPort (authority hostPort : List Char) : Prop :=
  ∃ userinfo tail, authority = userinfo ++ hostPort ++ tail ∧
    (userinfo = [] ∨ ∃ user, userinfo = user ++ ['@']) ∧
    (∀ char ∈ userinfo ++ hostPort, char ∉ ['/', '?', '#']) ∧ '@' ∉ hostPort ∧
    StartsAt ['/', '?', '#'] tail

/-- The host before an optional port: a name, or an address in brackets. -/
inductive HostBefore : List Char → List Char → Prop where
  | name (host port : List Char) (free : ':' ∉ host) (unbracketed : host.head? ≠ some '[')
    (behind : StartsAt [':'] port) : HostBefore (host ++ port) host
  | literal (host port : List Char) (free : ']' ∉ host) (behind : StartsAt [':'] port) :
    HostBefore ('[' :: host ++ ']' :: port) host

/-- A bracket is never closed, or something else than a port stands behind it. -/
inductive BrokenBracket : List Char → List Char → Prop where
  | unclosed (host : List Char) (free : ']' ∉ host) : BrokenBracket ('[' :: host) host
  | trailing (host junk : List Char) (free : ']' ∉ host) (behind : ¬StartsAt [':'] junk) :
    BrokenBracket ('[' :: host ++ ']' :: junk) host

/-- A dotted quad in 127.0.0.0/8. -/
def LoopbackQuad (host : List Char) : Prop :=
  ∃ second < 256, ∃ third < 256, ∃ fourth < 256,
    host = s!"127.{second}.{third}.{fourth}".toList

/-- A host that never leaves the machine. -/
def LoopbackHost (host : List Char) : Prop :=
  host = "localhost".toList ∨ host = "::1".toList ∨ LoopbackQuad host

/-- The URL is encrypted, or its host is a loopback host. -/
def StaysPrivate (url : String) : Prop :=
  "https://".toList <+: url.toList ∨
    ∃ authority hostPort host, url.toList = "http://".toList ++ authority ∧
      HostPort authority hostPort ∧ HostBefore hostPort host ∧ LoopbackHost host

/-- The URL is plaintext, and its host begins with `127.` but is no quad, or is what a broken
bracket holds before something that passes for loopback. -/
def PassesForLoopback (url : String) : Prop :=
  ∃ authority hostPort host, url.toList = "http://".toList ++ authority ∧
    HostPort authority hostPort ∧
    (HostBefore hostPort host ∧ "127.".toList <+: host ∧ ¬LoopbackQuad host ∨
      BrokenBracket hostPort host ∧ isLoopback host)

/-- The part the code cuts out of an authority is its host and port. -/
theorem hostPort_iff {authority hostPort : List Char} :
    HostPort authority hostPort ↔
      ((rsplitOnce '@' (before ['/', '?', '#'] authority)).map fun parts => parts.2).getD
        (before ['/', '?', '#'] authority) = hostPort := by
  constructor
  · rintro ⟨userinfo, tail, rfl, ends, free, absent, starts⟩
    rw [before_eq_iff.mpr ⟨tail, rfl, free, starts⟩]
    rcases ends with rfl | ⟨user, rfl⟩
    · rw [List.nil_append, rsplitOnce_eq_none_iff.mpr absent]
      rfl
    · have parts : rsplitOnce '@' (user ++ ['@'] ++ hostPort) = some (user, hostPort) :=
        rsplitOnce_eq_some_iff.mpr ⟨by simp, absent⟩
      rw [parts]
      rfl
  · intro cut
    obtain ⟨tail, whole, free, starts⟩ :=
      before_eq_iff.mp (Eq.refl (before ['/', '?', '#'] authority))
    generalize before ['/', '?', '#'] authority = part at cut whole free
    cases split : rsplitOnce '@' part with
    | none =>
      rw [split] at cut
      have same : part = hostPort := cut
      subst same
      exact ⟨[], tail, whole, .inl rfl, free, rsplitOnce_eq_none_iff.mp split, starts⟩
    | some parts =>
      obtain ⟨user, host⟩ := parts
      rw [split] at cut
      have same : host = hostPort := cut
      subst same
      obtain ⟨rfl, absent⟩ := rsplitOnce_eq_some_iff.mp split
      refine ⟨user ++ ['@'], tail, ?_, .inr ⟨user, rfl⟩, ?_, absent, starts⟩
      · rw [whole]
        simp
      · simpa using free

/-- Without a bracket the host ends at the first colon. -/
theorem hostIn_unbracketed {hostPort : List Char} (unbracketed : hostPort.head? ≠ some '[') :
    hostIn hostPort = before [':'] hostPort := by
  unfold hostIn
  split
  · exact absurd rfl unbracketed
  · rfl

/-- In a bracket the host ends where it is closed. -/
theorem hostIn_bracketed {host rest : List Char} (free : ']' ∉ host)
    (closes : StartsAt [']'] rest) : hostIn ('[' :: host ++ rest) = host :=
  before_eq_iff.mpr ⟨rest, rfl,
    fun _ member closing => free (List.mem_singleton.mp closing ▸ member), closes⟩

/-- A name before a port opens no bracket. -/
theorem head?_name {host port : List Char} (unbracketed : host.head? ≠ some '[')
    (behind : StartsAt [':'] port) : (host ++ port).head? ≠ some '[' := by
  cases host with
  | nil =>
    intro here
    exact absurd (behind '[' here) (by decide)
  | cons first rest => exact unbracketed

/-- The host before a port is the one the code reads. -/
theorem HostBefore.hostIn_eq {hostPort host : List Char} (read : HostBefore hostPort host) :
    hostIn hostPort = host := by
  cases read with
  | name _ port free unbracketed behind =>
    rw [hostIn_unbracketed (head?_name unbracketed behind)]
    exact before_eq_iff.mpr ⟨port, rfl,
      fun _ member colon => free (List.mem_singleton.mp colon ▸ member), behind⟩
  | literal _ port free behind => exact hostIn_bracketed free (by simp [StartsAt])

/-- What a broken bracket holds is the host the code reads. -/
theorem BrokenBracket.hostIn_eq {hostPort host : List Char} (broken : BrokenBracket hostPort host) :
    hostIn hostPort = host := by
  cases broken with
  | unclosed _ free =>
    have read : hostIn ('[' :: host ++ []) = host := hostIn_bracketed free (by simp [StartsAt])
    rwa [List.append_nil] at read
  | trailing _ junk free behind => exact hostIn_bracketed free (by simp [StartsAt])

/-- A broken bracket is before no host. -/
theorem BrokenBracket.not_hostBefore {hostPort host other : List Char}
    (broken : BrokenBracket hostPort host) : ¬HostBefore hostPort other := by
  intro read
  obtain rfl : other = host := read.hostIn_eq.symm.trans broken.hostIn_eq
  have opens : hostPort.head? = some '[' := by cases broken <;> rfl
  cases read with
  | name _ port free unbracketed behind => exact head?_name unbracketed behind opens
  | literal _ port free behind =>
    generalize whole : '[' :: other ++ ']' :: port = hostPort at broken
    cases broken with
    | unclosed _ free => simp at whole
    | trailing _ junk free elsewhere =>
      obtain rfl : port = junk := by simpa using whole
      exact elsewhere behind

/-- Every part has a host before a port or a broken bracket. -/
theorem hostBefore_or_broken (hostPort : List Char) :
    HostBefore hostPort (hostIn hostPort) ∨ BrokenBracket hostPort (hostIn hostPort) := by
  by_cases bracketed : hostPort.head? = some '['
  · obtain ⟨rest, rfl⟩ : ∃ rest, hostPort = '[' :: rest := by
      cases hostPort with
      | nil => contradiction
      | cons first rest => exact ⟨rest, by rw [Option.some.inj bracketed]⟩
    obtain ⟨behind, whole, free, closes⟩ := before_eq_iff.mp (Eq.refl (before [']'] rest))
    have absent : ']' ∉ before [']'] rest := fun member => free _ member (by simp)
    have read : hostIn ('[' :: rest) = before [']'] rest := rfl
    rw [read]
    generalize before [']'] rest = host at whole absent
    subst whole
    cases behind with
    | nil => exact .inr (by simpa using BrokenBracket.unclosed host absent)
    | cons first junk =>
      have closing : first = ']' := List.mem_singleton.mp (closes first rfl)
      subst closing
      by_cases port : StartsAt [':'] junk
      · exact .inl (.literal host junk absent port)
      · exact .inr (.trailing host junk absent port)
  · rw [hostIn_unbracketed bracketed]
    obtain ⟨port, whole, free, behind⟩ := before_eq_iff.mp (Eq.refl (before [':'] hostPort))
    generalize before [':'] hostPort = host at whole free
    subst whole
    refine .inl (.name host port (fun member => free _ member (by simp)) ?_ behind)
    intro first
    cases host with
    | nil => cases first
    | cons head rest => exact bracketed first

/-- The host the code reads off an authority is that before a port, or in a broken bracket. -/
theorem hostOf_eq {authority hostPort : List Char} (part : HostPort authority hostPort) :
    hostOf authority = hostIn hostPort :=
  congrArg hostIn (hostPort_iff.mp part)

/-- The code passes for loopback the two names and what begins with `127.`. -/
theorem isLoopback_iff (host : List Char) :
    isLoopback host ↔
      host = "localhost".toList ∨ host = "::1".toList ∨ "127.".toList <+: host := by
  simp [isLoopback, or_assoc]

/-- A loopback host passes for loopback. -/
theorem LoopbackHost.passes {host : List Char} (loopback : LoopbackHost host) :
    isLoopback host := by
  rw [isLoopback_iff]
  refine loopback.imp_right (Or.imp_right ?_)
  rintro ⟨second, -, third, -, fourth, -, rfl⟩
  refine ⟨s!"{second}.{third}.{fourth}".toList, ?_⟩
  simp only [String.toList_append, List.append_assoc]
  rfl

/-- Without the opt-out a plaintext URL is valid exactly if the host the code reads passes for
loopback. -/
theorem validateEndpoint_plaintext {url what : String} {authority : List Char}
    (plaintext : url.toList = "http://".toList ++ authority) :
    validateEndpoint none url what = .ok () ↔ isLoopback (hostOf authority) := by
  have secure : "https://".toList.isPrefixOf url.toList = false := by
    rw [plaintext]
    rfl
  have stripped : stripPrefix "http://" url = some (String.ofList authority) := by
    unfold stripPrefix
    rw [plaintext, if_pos (List.isPrefixOf_iff_prefix.mpr (List.prefix_append _ _)),
      List.drop_left]
  unfold validateEndpoint
  rw [secure, stripped]
  simp only [Bool.false_eq_true, ↓reduceIte, String.toList_ofList]
  split
  · next empty => simp [empty, isLoopback]
  · split
    · next loopback => simp [loopback]
    · next remote => simp [remote, optedOut]

/-- What is valid without the opt-out is encrypted or plaintext. -/
theorem scheme_of_valid {url what : String} (valid : validateEndpoint none url what = .ok ()) :
    "https://".toList <+: url.toList ∨ ∃ authority, url.toList = "http://".toList ++ authority := by
  unfold validateEndpoint at valid
  split at valid
  · next secure => exact .inl (List.isPrefixOf_iff_prefix.mp secure)
  · split at valid
    · contradiction
    · next authority stripped =>
      unfold stripPrefix at stripped
      split at stripped
      · next starts =>
        obtain ⟨rest, whole⟩ := List.isPrefixOf_iff_prefix.mp starts
        exact .inr ⟨rest, whole.symm⟩
      · contradiction

/-- What stays private is valid. -/
theorem valid_of_staysPrivate {url : String} (stays : StaysPrivate url) (what : String) :
    validateEndpoint none url what = .ok () := by
  rcases stays with secure | ⟨authority, hostPort, host, plaintext, part, named, loopback⟩
  · unfold validateEndpoint
    rw [if_pos (List.isPrefixOf_iff_prefix.mpr secure)]
  · rw [validateEndpoint_plaintext plaintext, hostOf_eq part, named.hostIn_eq]
    exact loopback.passes

/-- A URL that merely passes for loopback is valid and does not stay private. -/
theorem valid_of_passesForLoopback {url : String} (passes : PassesForLoopback url) (what : String) :
    validateEndpoint none url what = .ok () ∧ ¬StaysPrivate url := by
  obtain ⟨authority, hostPort, host, plaintext, part, reads⟩ := passes
  have read : hostOf authority = host ∧ isLoopback host := by
    rcases reads with ⟨named, begins, -⟩ | ⟨broken, passes⟩
    · exact ⟨(hostOf_eq part).trans named.hostIn_eq, (isLoopback_iff host).mpr (.inr (.inr begins))⟩
    · exact ⟨(hostOf_eq part).trans broken.hostIn_eq, passes⟩
  refine ⟨?_, ?_⟩
  · rw [validateEndpoint_plaintext plaintext, read.1]
    exact read.2
  · rintro (secure | ⟨otherAuthority, otherPart, otherHost, same, otherIs, found, loopback⟩)
    · rw [plaintext] at secure
      exact absurd secure (by simp)
    obtain rfl : authority = otherAuthority := List.append_cancel_left (plaintext.symm.trans same)
    obtain rfl : hostPort = otherPart := (hostPort_iff.mp part).symm.trans (hostPort_iff.mp otherIs)
    rcases reads with ⟨named, begins, remote⟩ | ⟨broken, -⟩
    · obtain rfl : otherHost = host := found.hostIn_eq.symm.trans named.hostIn_eq
      rcases loopback with rfl | rfl | quad
      · exact absurd begins (by decide)
      · exact absurd begins (by decide)
      · exact remote quad
    · exact broken.not_hostBefore found

/-- Without the opt-out a valid URL stays private exactly if it does not merely pass for
loopback. -/
theorem plaintext_stays_private_iff (url what : String) :
    (validateEndpoint none url what = .ok () → StaysPrivate url) ↔ ¬PassesForLoopback url := by
  constructor
  · intro private_ passes
    obtain ⟨valid, exposed⟩ := valid_of_passesForLoopback passes what
    exact exposed (private_ valid)
  · intro clear valid
    rcases scheme_of_valid valid with secure | ⟨authority, plaintext⟩
    · exact .inl secure
    obtain ⟨hostPort, part⟩ : ∃ hostPort, HostPort authority hostPort :=
      ⟨_, hostPort_iff.mpr rfl⟩
    have passes := (validateEndpoint_plaintext plaintext).mp valid
    rw [hostOf_eq part] at passes
    rcases hostBefore_or_broken hostPort with named | broken
    · refine .inr ⟨authority, hostPort, _, plaintext, part, named, ?_⟩
      refine ((isLoopback_iff _).mp passes).imp_right (Or.imp_right fun begins => ?_)
      by_contra other
      exact clear ⟨authority, hostPort, _, plaintext, part, .inl ⟨named, begins, other⟩⟩
    · exact absurd ⟨authority, hostPort, _, plaintext, part, .inr ⟨broken, passes⟩⟩ clear

/-- A quad has digits and dots only. -/
theorem LoopbackQuad.chars {host : List Char} (quad : LoopbackQuad host) :
    ∀ char ∈ host, char.isDigit = true ∨ char = '.' := by
  obtain ⟨second, -, third, -, fourth, -, rfl⟩ := quad
  have digits (value : Nat) (char : Char) (member : char ∈ (toString value).toList) :
      char.isDigit = true := by
    rw [Nat.toString_eq_ofList_toDigits, String.toList_ofList] at member
    exact Nat.isDigit_of_mem_toDigits (by decide) (by decide) member
  have dot (char : Char) (member : char ∈ (toString ".").toList) : char = '.' :=
    List.mem_singleton.mp member
  have first : (toString "127.").toList.all (fun char => char.isDigit || char == '.') = true := by
    decide
  intro char member
  simp only [String.toList_append, List.mem_append] at member
  rcases member with ((((here | here) | here) | here) | here) | here
  · simpa using List.all_eq_true.mp first char here
  · exact .inl (digits _ char here)
  · exact .inr (dot char here)
  · exact .inl (digits _ char here)
  · exact .inr (dot char here)
  · exact .inl (digits _ char here)

/-- A registered name that begins with `127.` is valid in plaintext. -/
theorem named_like_loopback :
    validateEndpoint none "http://127.example.com/decide" "The sponsor policy webhook" = .ok () ∧
      ¬StaysPrivate "http://127.example.com/decide" := by
  refine valid_of_passesForLoopback ?_ _
  refine ⟨"127.example.com/decide".toList, "127.example.com".toList, "127.example.com".toList, rfl,
    ?_, .inl ⟨?_, by decide, fun quad => ?_⟩⟩
  · have free : ("127.example.com".toList.all fun char => char ∉ ['/', '?', '#']) = true := by
      decide
    exact ⟨[], "/decide".toList, rfl, .inl rfl,
      fun char member => by simpa using List.all_eq_true.mp free char member, by decide, by decide⟩
  · exact .name "127.example.com".toList [] (by decide) (by decide) (by decide)
  · exact absurd (quad.chars 'e' (by decide)) (by decide)

end OpenEngine.Core
