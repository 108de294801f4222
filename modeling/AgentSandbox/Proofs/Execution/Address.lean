import AgentSandbox.Execution.Service
import AgentSandbox.Endpoint
import AgentSandbox.Proofs.Url.Address
import AgentSandbox.Proofs.Url.Authority
import AgentSandbox.Proofs.Url.Domain

/-!
# The URL that code is sent to

The id of an instance is put into the URL of its execution service as it is, and the URL is read
afterwards.  An id that holds what ends a host therefore names the host itself, whatever the region and
the domain are (`authority_of_ends`).  Any other id that names no user is part of the first labels of a
host in the region of the domain, and the rest of the URL is always the same
(`isServiceOf_of_parse`).
-/

namespace AgentSandbox

namespace Url

theorem parse_https {y : String} {cs : List Char} {d : Char} (hy : y.toList = cs ++ [d])
    (hd : 0x20 < d.toNat) :
    parse ("https://49999-" ++ y) = withAuthority "https" ("49999-" ++ held y).toList := by
  have hs : ("https://49999-" ++ y).toList = 'h' :: ("ttps://49999-".toList ++ cs) ++ [d] := by
    rw [String.toList_append, hy, List.cons_append, List.append_assoc]
    rfl
  have hheld : held "https://49999-" = "https://49999-" := by decide
  have htext : cleaned ("https://49999-" ++ y) =
      "https".toList ++ ':' :: ("//49999-".toList ++ (held y).toList) := by
    rw [cleaned_eq_held hs (by decide) hd, held_append, hheld, String.toList_append]
    rfl
  rw [parse, htext, scheme?_web (.inr rfl)]
  show withAuthority "https" (List.dropWhile _ ("//49999-".toList ++ (held y).toList)) = _
  rw [String.toList_append]
  rfl

end Url

namespace Execution

open Url

variable {id region domain : String}

/-- What follows the id in the URL that code is sent to. -/
def behindId (region domain : String) : String :=
  "." ++ region ++ "." ++ Text.dropEndSlashes domain ++ "/execute"

theorem dropEndSlashes_append_dot (s t : String) :
    Text.dropEndSlashes (s ++ "." ++ t) = s ++ "." ++ Text.dropEndSlashes t := by
  have hdot : ".".toList = ['.'] := by decide
  have hdrop := Text.dropEndWhile_append_cons (p := (· == '/')) (c := '.') rfl s.toList t.toList
  rw [← String.toList_inj, Text.dropEndSlashes, Text.dropEndSlashes]
  simp only [String.toList_append, String.toList_ofList, hdot, List.append_assoc,
    List.singleton_append, hdrop]

theorem executeUrl_eq (id region domain : String) :
    executeUrl (serviceUrl executionPort id region domain) =
      "https://49999-" ++ (id ++ behindId region domain) := by
  have hport : toString executionPort = "49999" := by decide
  have hfront : "https://" ++ ("49999" ++ "-") = "https://49999-" := by decide
  have hbase : serviceUrl executionPort id region domain =
      "https://49999-" ++ id ++ "." ++ region ++ "." ++ domain := by
    rw [serviceUrl, serviceHost, hport, ← hfront]
    simp only [String.append_assoc]
  rw [executeUrl, hbase, dropEndSlashes_append_dot, behindId]
  simp only [String.append_assoc]

theorem parse_executeUrl (id region domain : String) :
    Url.parse (executeUrl (serviceUrl executionPort id region domain)) =
      withAuthority "https" ("49999-" ++ held (id ++ behindId region domain)).toList := by
  obtain ⟨cs, hcs⟩ : ∃ cs, (id ++ behindId region domain).toList = cs ++ ['e'] := by
    refine ⟨(id ++ ("." ++ region ++ "." ++ Text.dropEndSlashes domain ++ "/execut")).toList, ?_⟩
    have hlast : "/execute" = "/execut" ++ "e" := by decide
    rw [behindId, hlast]
    simp only [String.toList_append, List.append_assoc]
    rfl
  rw [executeUrl_eq, parse_https hcs (by decide)]

/-! ## Ids that end the host -/

theorem authority_withAuthority {cs : List Char} {d : Char}
    (hcs : ∀ c ∈ cs, endsAuthority true c = false) (hd : endsAuthority true d = true)
    (rest : List Char) :
    (withAuthority "https" (cs ++ d :: rest)).map Url.authority =
      (readAuthority "https" cs).map fun r => some r.1 := by
  rw [withAuthority_append rfl hcs hd]
  cases readAuthority "https" cs <;> rfl

/-- What ends a host is held. -/
theorem toList_held_append {d : Char} (hd : endsAuthority true d = true) (front rest : String) :
    ("49999-" ++ held (front ++ String.singleton d ++ rest)).toList =
      "49999-".toList ++ (held front).toList ++ d :: (held rest).toList := by
  have hone : held (String.singleton d) = String.singleton d := by
    simp only [endsAuthority, Bool.true_and, Bool.or_eq_true, decide_eq_true_eq] at hd
    rcases hd with ((rfl | rfl) | rfl) | rfl <;> decide
  simp only [held_append, hone, String.toList_append, String.toList_singleton, List.append_assoc,
    List.singleton_append]

/-- Text without what ends a host or names a user in front of it. -/
def IsHostText (s : String) : Prop := ∀ c ∈ s.toList, endsAuthority true c = false ∧ c ≠ '@'

instance : DecidablePred IsHostText := fun s => List.decidableBAll _ s.toList

theorem isHostText_port : IsHostText "49999-" := by decide

/-- An id that holds what ends a host takes the region and the domain out of the host: code is sent
to the host that is named in front of it. -/
theorem authority_of_ends {front : String} {d : Char}
    (hfront : ∀ c ∈ front.toList, endsAuthority true c = false) (hd : endsAuthority true d = true)
    (rest region domain : String) :
    (Url.parse (executeUrl (serviceUrl executionPort (front ++ String.singleton d ++ rest) region
        domain))).map Url.authority =
      (Url.parse ("https://49999-" ++ (front ++ "/"))).map Url.authority := by
  have hends : ∀ c ∈ "49999-".toList ++ (held front).toList, endsAuthority true c = false :=
    List.forall_mem_append.2 ⟨fun c hc => (isHostText_port c hc).1, forall_mem_held hfront⟩
  have hslash : ("49999-" ++ held (front ++ "/")).toList =
      "49999-".toList ++ (held front).toList ++ ['/'] := by
    have h := toList_held_append (d := '/') rfl front ""
    rwa [String.append_empty] at h
  have hlast : (front ++ "/").toList = front.toList ++ ['/'] := by rw [String.toList_append]; rfl
  rw [parse_executeUrl, String.append_assoc, toList_held_append hd, authority_withAuthority hends hd,
    parse_https hlast (by decide), hslash, authority_withAuthority hends rfl]

/-- The host and the port of the URL are those that the id names in front of what ends a host. -/
def IsNamedBy (id : String) (u : Url) : Prop :=
  ∀ front d rest, id = front ++ String.singleton d ++ rest →
    (∀ c ∈ front.toList, endsAuthority true c = false) → endsAuthority true d = true →
    (Url.parse ("https://49999-" ++ (front ++ "/"))).map Url.authority = .ok u.authority

theorem isNamedBy_of_parse {u : Url}
    (h : Url.parse (executeUrl (serviceUrl executionPort id region domain)) = .ok u) :
    IsNamedBy id u := by
  rintro front d rest rfl hfront hd
  rw [← authority_of_ends hfront hd rest region domain, h]
  rfl

/-! ## Other ids -/

/-- A name of letters, digits, hyphens and full stops. -/
def IsPlainName (s : String) : Prop := ∀ c ∈ s.toList, c.isAlphanum = true ∨ c = '-' ∨ c = '.'

instance : DecidablePred IsPlainName := fun s => List.decidableBAll _ s.toList

/-- The URL of the execution service on a host in a region of a domain. -/
def serviceIn (front : List Char) (region domain : String) : Url where
  scheme := "https"
  authority := some ⟨none,
    some (.domain (front ++ '.' :: (Text.lowerAscii (region ++ "." ++ domain)).toList)), none⟩
  path := .segments ["execute".toList]
  query := none
  fragment := none

/-- A URL of the execution service of an instance.  The first labels of its host are the ones that the
port and the id spell, in the form that is sent, and the others are the region and the domain.  The
first label is in Punycode if the id puts other characters than those of ASCII into it. -/
def IsServiceOf (id region domain : String) (u : Url) : Prop :=
  ∃ front, domainToAscii? (unescape ("49999-" ++ held id).toList) = some front ∧
    u = serviceIn front region domain ∧
    ("49999".toList <+: front ∨ "xn--".toList <+: front) ∧
    ((∀ b ∈ unescape (held id).toList, b < 0x80) → "49999-".toList <+: front)

namespace IsPlainName

theorem append {s t : String} (hs : IsPlainName s) (ht : IsPlainName t) : IsPlainName (s ++ t) := by
  intro c hc
  rw [String.toList_append] at hc
  exact (List.mem_append.1 hc).elim (hs c) (ht c)

/-- Such a name holds no other character. -/
theorem ne {s : String} (hs : IsPlainName s) {c d : Char} (hc : c ∈ s.toList)
    (hd : d.isAlphanum = false ∧ d ≠ '-' ∧ d ≠ '.') : c ≠ d := by
  rintro rfl
  rcases hs c hc with h | h | h
  · rw [hd.1] at h
    cases h
  · exact hd.2.1 h
  · exact hd.2.2 h

theorem dropEndSlashes_eq {s : String} (hs : IsPlainName s) : Text.dropEndSlashes s = s := by
  have hsolidus : ∀ c ∈ s.toList.reverse, (c == '/') = false := fun c hc =>
    beq_eq_false_iff_ne.2 (hs.ne (List.mem_reverse.1 hc) (by decide))
  rw [Text.dropEndSlashes, Text.dropEndWhile]
  cases hrev : s.toList.reverse with
  | nil =>
    rw [← String.toList_inj, String.toList_ofList, List.dropWhile_nil, List.reverse_nil,
      List.reverse_eq_nil_iff.1 hrev]
  | cons c cs =>
    have hc := hsolidus c (hrev ▸ List.mem_cons_self)
    rw [List.dropWhile_cons_of_neg (by rw [hc]; decide), ← hrev, List.reverse_reverse,
      String.ofList_toList]

theorem held_eq {s : String} (hs : IsPlainName s) : held s = s := by
  rw [← String.toList_inj, toList_held, List.filter_eq_self]
  intro c hc
  have htab : c ≠ '\t' := hs.ne hc (by decide)
  have hline : c ≠ '\n' := hs.ne hc (by decide)
  have hreturn : c ≠ '\r' := hs.ne hc (by decide)
  simp only [htab, hline, hreturn, ne_eq, not_false_eq_true, decide_true, Bool.and_self]

theorem lt {s : String} (hs : IsPlainName s) {c : Char} (hc : c ∈ s.toList) : c.toNat < 0x80 := by
  rcases hs c hc with h | rfl | rfl
  · have hranges : (decide ('A'.val ≤ c.val ∧ c.val ≤ 'Z'.val) ||
        decide ('a'.val ≤ c.val) && decide (c.val ≤ 'z'.val) ||
        decide ('0'.val ≤ c.val) && decide (c.val ≤ '9'.val)) = true := h
    simp only [UInt32.le_iff_toNat_le, Bool.or_eq_true, Bool.and_eq_true,
      decide_eq_true_eq] at hranges
    have hupper : 'Z'.val.toNat = 90 := rfl
    have hlower : 'z'.val.toNat = 122 := rfl
    have hdigit : '9'.val.toNat = 57 := rfl
    show c.val.toNat < 0x80
    omega
  · decide
  · decide

/-- Such a name ends no host. -/
theorem isHostText {s : String} (hs : IsPlainName s) : IsHostText s := by
  intro c hc
  have hsolidus : c ≠ '/' := hs.ne hc (by decide)
  have hbackslash : c ≠ '\\' := hs.ne hc (by decide)
  have hquestion : c ≠ '?' := hs.ne hc (by decide)
  have hhash : c ≠ '#' := hs.ne hc (by decide)
  have hat : c ≠ '@' := hs.ne hc (by decide)
  exact ⟨by simp only [endsAuthority, hsolidus, hbackslash, hquestion, hhash, decide_false,
    Bool.or_self, Bool.and_false], hat⟩

end IsPlainName

theorem isPlainName_dot : IsPlainName "." := by decide

/-- The port and the id are decoded one after the other. -/
theorem decodeStrict?_port (s : String) :
    Utf8.decodeStrict? (unescape ("49999-" ++ s).toList) =
      (Utf8.decodeStrict? (unescape s.toList)).map fun cs => "49999".toList ++ '-' :: cs := by
  have htext : ("49999-" ++ s).toList = "49999".toList ++ '-' :: s.toList := by
    rw [String.toList_append]
    rfl
  rw [htext, decodeStrict?_unescape_append (by decide) (by decide) rfl,
    decodeStrict?_unescape (by decide)]
  rfl

theorem isLabelText_port : IsLabelText "49999".toList := by decide

/-- The host begins with the port, unless its first label is in Punycode. -/
theorem prefix_front {front : List Char}
    (h : domainToAscii? (unescape ("49999-" ++ held id).toList) = some front) :
    "49999".toList <+: front ∨ "xn--".toList <+: front := by
  obtain ⟨text, _, _, htext, -, -, -, -⟩ := domainToAscii?_eq_some_iff.1 h
  have hdecode := htext
  rw [decodeStrict?_port] at htext
  obtain ⟨rest, -, rfl⟩ := Option.map_eq_some_iff.1 htext
  exact front_cases isLabelText_port hdecode h

/-- An id in ASCII leaves the port and its hyphen at the start of the host. -/
theorem prefix_front_of_ascii {front : List Char}
    (h : domainToAscii? (unescape ("49999-" ++ held id).toList) = some front)
    (hid : ∀ b ∈ unescape (held id).toList, b < 0x80) : "49999-".toList <+: front := by
  have hdecode := decodeStrict?_port (held id)
  rw [Utf8.decodeStrict?_of_forall hid, Option.map_some] at hdecode
  have hchar : ∀ n < 0x80, (Char.ofNat n).toNat < 0x80 := by decide
  have hascii : ∀ c ∈ "49999".toList ++ '-' :: (unescape (held id).toList).map fun b =>
      Char.ofNat b.toNat, c.toNat < 0x80 := by
    refine List.forall_mem_append.2 ⟨fun c hc => (isLabelText_port c hc).1,
      List.forall_mem_cons.2 ⟨by decide, fun c hc => ?_⟩⟩
    obtain ⟨b, hb, rfl⟩ := List.mem_map.1 hc
    exact hchar _ (UInt8.lt_iff_toNat_lt.1 (hid b hb))
  rw [front_of_forall hdecode hascii h, List.map_append, List.map_cons]
  exact List.prefix_append "49999-".toList _

/-- The first part of the host is no byte of an address. -/
theorem exists_cut_front {front : List Char}
    (h : domainToAscii? (unescape ("49999-" ++ held id).toList) = some front) :
    ∃ first parts, Text.cut (· = '.') front = first :: parts ∧ IsNoByte first := by
  have hcut {start : List Char} (hstart : IsLabelText start)
      (hfront : start <+: front) (hnumber : ∀ part, IsNoByte (start ++ part)) :
      ∃ first parts, Text.cut (· = '.') front = first :: parts ∧ IsNoByte first := by
    obtain ⟨behind, rfl⟩ := hfront
    obtain ⟨part, parts, hbehind⟩ := List.exists_cons_of_ne_nil (Text.cut_ne_nil (· = '.') behind)
    exact ⟨_, parts, Text.cut_append_of_forall hstart.ne_dot hbehind, hnumber part⟩
  rcases prefix_front h with hport | hcode
  · have hnumber : ∀ n, number? 10 ('4' :: "9999".toList) = some n → 255 < n := by decide
    exact hcut isLabelText_port hport (isNoByte_append (by decide) hnumber)
  · have hnumber : ∀ n, number? 10 ('x' :: "n--".toList) = some n → 255 < n := fun _ => nofun
    exact hcut (by decide) hcode (isNoByte_append (by decide) hnumber)

/-- The name that a host of this kind is sent as. -/
theorem exists_front_of_ofName {suffix name : List Char} {host : Host}
    (hsuffix : ∀ c ∈ suffix, c.toNat < 0x80) (hpercent : '%' ∉ suffix) (hdot : '.' ∈ suffix)
    (hname : domainToAscii? (unescape (("49999-" ++ held id).toList ++ '.' :: suffix)) = some name)
    (hhost : Host.ofName name = .ok host) :
    ∃ front, domainToAscii? (unescape ("49999-" ++ held id).toList) = some front ∧
      host = .domain (front ++ '.' :: suffix.map Char.toLower) := by
  obtain ⟨front, hfront, rfl⟩ := exists_front hsuffix hpercent hname
  obtain ⟨first, parts, hcut, hfirst⟩ := exists_cut_front hfront
  obtain ⟨a, b, rfl⟩ := List.append_of_mem hdot
  have hwhole : Text.cut (· = '.') (front ++ '.' :: (a ++ '.' :: b).map Char.toLower) =
      first :: (parts ++ (Text.cut (· = '.') (a.map Char.toLower) ++
        Text.cut (· = '.') (b.map Char.toLower))) := by
    have hlower : (a ++ '.' :: b).map Char.toLower =
        a.map Char.toLower ++ '.' :: b.map Char.toLower := List.map_append
    rw [Text.cut_append_cons rfl, hcut, hlower, Text.cut_append_cons rfl, List.cons_append]
  have hlength : 2 ≤ (parts ++ (Text.cut (· = '.') (a.map Char.toLower) ++
        Text.cut (· = '.') (b.map Char.toLower))).length := by
    have ha := List.length_pos_iff.2 (Text.cut_ne_nil (· = '.') (a.map Char.toLower))
    have hb := List.length_pos_iff.2 (Text.cut_ne_nil (· = '.') (b.map Char.toLower))
    rw [List.length_append, List.length_append]
    omega
  exact ⟨front, hfront, ofName_eq_domain hwhole hlength hfirst hhost⟩

/-- The text that a host of this kind is read from, and what follows it. -/
theorem toList_executeUrl (id : String) (hregion : IsPlainName region)
    (hdomain : IsPlainName domain) :
    ("49999-" ++ held (id ++ behindId region domain)).toList =
      ("49999-" ++ held id).toList ++ '.' :: (region ++ "." ++ domain).toList ++
        '/' :: "execute".toList := by
  have hsuffix := (isPlainName_dot.append hregion).append (isPlainName_dot.append hdomain)
  have hexecute : held "/execute" = "/execute" := by decide
  have hbehind : held (behindId region domain) = "." ++ region ++ ("." ++ domain) ++ "/execute" := by
    rw [behindId, hdomain.dropEndSlashes_eq, held_append, hexecute, ← hsuffix.held_eq]
    simp only [held_append, String.append_assoc]
  have hdot : ".".toList = ['.'] := by decide
  have hpath : "/execute".toList = '/' :: "execute".toList := by decide
  rw [held_append, hbehind]
  simp only [String.toList_append, hdot, hpath, List.append_assoc, List.cons_append,
    List.nil_append]

/-- Neither the id nor what follows it ends the host. -/
theorem forall_mem_host {suffix : String} (hid : IsHostText id) (hsuffix : IsPlainName suffix) :
    ∀ c ∈ ("49999-" ++ held id).toList ++ '.' :: suffix.toList,
      endsAuthority true c = false ∧ c ≠ '@' := by
  rw [String.toList_append, List.forall_mem_append, List.forall_mem_append, List.forall_mem_cons]
  exact ⟨⟨isHostText_port, forall_mem_held hid⟩, by decide, hsuffix.isHostText⟩

/-- The host and the port of such a URL, if the id names no user and does not end the host. -/
theorem exists_front_of_readAuthority {suffix : String} {a : Authority} {rest : List Char}
    (hid : IsHostText id) (hsuffix : IsPlainName suffix) (hdot : '.' ∈ suffix.toList)
    (h : readAuthority "https" (("49999-" ++ held id).toList ++ '.' :: suffix.toList) =
      .ok (a, rest)) :
    ∃ front, domainToAscii? (unescape ("49999-" ++ held id).toList) = some front ∧
      a = ⟨none, some (.domain (front ++ '.' :: (Text.lowerAscii suffix).toList)), none⟩ := by
  have hhead : (("49999-" ++ held id).toList ++ '.' :: suffix.toList).head? ≠ some '[' := by
    rw [String.toList_append]
    exact fun h => absurd (Option.some.inj h) (by decide)
  obtain ⟨host, hparse, rfl⟩ :=
    exists_host rfl (forall_mem_host hid hsuffix) (fun hmem => hsuffix.ne hmem (by decide) rfl) h
  obtain ⟨name, hname, hhost⟩ := Host.exists_name_of_parse hhead hparse
  obtain ⟨front, hfront, rfl⟩ := exists_front_of_ofName (fun c hc => hsuffix.lt hc)
    (fun hmem => hsuffix.ne hmem (by decide) rfl) hdot hname hhost
  exact ⟨front, hfront, by rw [Text.lowerAscii, String.toList_ofList]⟩

/-- Code for any other id is sent to no host but one in the region of the domain. -/
theorem isServiceOf_of_parse {u : Url} (hid : IsHostText id) (hregion : IsPlainName region)
    (hdomain : IsPlainName domain)
    (h : Url.parse (executeUrl (serviceUrl executionPort id region domain)) = .ok u) :
    IsServiceOf id region domain u := by
  have hsuffix : IsPlainName (region ++ "." ++ domain) :=
    (hregion.append isPlainName_dot).append hdomain
  have hdot : '.' ∈ (region ++ "." ++ domain).toList := by
    rw [String.toList_append, String.toList_append]
    exact List.mem_append_left _ (List.mem_append_right _ List.mem_cons_self)
  rw [parse_executeUrl, toList_executeUrl id hregion hdomain,
    withAuthority_append rfl (fun c hc => (forall_mem_host hid hsuffix c hc).1) rfl] at h
  cases hread : readAuthority "https"
      (("49999-" ++ held id).toList ++ '.' :: (region ++ "." ++ domain).toList) with
  | error e =>
    rw [hread] at h
    cases h
  | ok r =>
    obtain ⟨a, behind⟩ := r
    obtain ⟨front, hfront, rfl⟩ := exists_front_of_readAuthority hid hsuffix hdot hread
    rw [hread] at h
    exact ⟨front, hfront, (Except.ok.inj h).symm, prefix_front hfront, prefix_front_of_ascii hfront⟩

end Execution

end AgentSandbox
