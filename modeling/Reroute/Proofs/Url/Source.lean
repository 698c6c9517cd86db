import Reroute.Proofs.Host.Domain
import Reroute.Url.Basic

/-!
# URLs of source hostnames

A request to a redirected host has the source hostname in its URL. The host of that URL is the
hostname itself, unless it spells an address.

## Main definitions

* `Url.ofSource` — the text of such a URL, `WebUrl.ofHost` — its parts.

## Main results

* `Host.ofDomain?_eq_some` — the host of a source hostname.
* `Url.read?_ofSource` — the URL of a source hostname.
-/

namespace Reroute

open Hostname (IsName)

variable {name : List Char} {a : Nat}

/-! ## Addresses -/

namespace Ipv4

theorem parts_of_isName (h : IsName name) : parts name = Text.fields '.' name := by
  refine if_neg fun ⟨_, last⟩ => ?_
  have empty : [] ∈ Text.fields '.' name := List.mem_of_getLast? last
  exact (Hostname.isLabel_iff.1 (h.labels [] empty)).1 rfl

/-- A marked label is no part of an address. -/
theorem part?_codeMark_append (code : List Char) : part? (Domain.codeMark ++ code) = none := by
  simp [part?, Domain.codeMark]

theorem isSome_part?_of_read? (h : read? name = some a) :
    parts name ≠ [] ∧ ∀ part ∈ parts name, (part? part).isSome = true := by
  obtain ⟨ns, numbers, address⟩ := Option.bind_eq_some_iff.1 h
  rw [mapM_eq_some_iff] at numbers
  constructor
  · intro none
    have nothing : ns = [] := by simpa [none] using numbers.symm
    simp [nothing, ofNumbers?] at address
  · intro part hpart
    have member : part? part ∈ ns.map some := numbers ▸ List.mem_map_of_mem hpart
    obtain ⟨n, -, number⟩ := List.mem_map.1 member
    simp [← number]

theorem endsInNumber_of_read? (h : read? name = some a) : endsInNumber name = true := by
  obtain ⟨ne, all⟩ := isSome_part?_of_read? h
  simp [endsInNumber, List.getLast?_eq_some_getLast ne, all _ (List.getLast_mem ne)]

end Ipv4

/-! ## Hosts -/

namespace Host

theorem ofDomain?_of_read? (h : IsName name) (address : Ipv4.read? name = some a) :
    ofDomain? name = some (.ipv4 a) := by
  have unmarked : ∀ label ∈ Text.fields '.' name, ¬Domain.codeMark <+: label := by
    rintro _ hlabel ⟨code, rfl⟩
    rw [← Ipv4.parts_of_isName h] at hlabel
    have := (Ipv4.isSome_part?_of_read? address).2 _ hlabel
    rw [Ipv4.part?_codeMark_append] at this
    cases this
  simp [ofDomain?, Domain.toAscii?_of_unmarked h unmarked, h.ne_nil,
    Ipv4.endsInNumber_of_read? address, address]

/-- A source hostname without marked labels that does not end like an address is a domain. -/
theorem ofDomain?_of_unmarked (h : IsName name)
    (unmarked : ∀ label ∈ Text.fields '.' name, ¬Domain.codeMark <+: label)
    (wordy : Ipv4.endsInNumber name = false) : ofDomain? name = some (.domain name) := by
  simp [ofDomain?, Domain.toAscii?_of_unmarked h unmarked, h.ne_nil, wordy]

/-- The host of a source hostname is the hostname or the address that it spells. -/
theorem ofDomain?_eq_some {host : Host} (h : IsName name) (own : ofDomain? name = some host) :
    host = .domain name ∨ ∃ a, Ipv4.read? name = some a ∧ host = .ipv4 a := by
  simp only [ofDomain?, Option.bind_eq_bind, Option.bind_eq_some_iff] at own
  obtain ⟨out, ascii, own⟩ := own
  obtain rfl := Domain.eq_of_toAscii? h ascii
  split at own
  · cases own
  · split at own
    · obtain ⟨a, address, rfl⟩ := Option.map_eq_some_iff.1 own
      exact .inr ⟨a, address, rfl⟩
    · cases own
      exact .inl rfl

end Host

/-! ## URLs -/

/-- A URL of nothing but a host. -/
def WebUrl.ofHost (host : Host) : WebUrl :=
  { secure := false, user := [], host, port := none, path := [[]], query := none, fragment := none }

namespace Url

/-- The URL at which a source hostname is requested. -/
def ofSource (source : String) : String := "http://" ++ source ++ "/"

theorem toList_ofSource (source : String) : (ofSource source).toList =
    ['h', 't', 't', 'p', ':'] ++ '/' :: '/' :: (source.toList ++ ['/']) := by
  simp [ofSource]

/-- The normal form of a URL of nothing but a host. -/
theorem ofList_chars_ofHost (host : Host) :
    String.ofList (WebUrl.ofHost host).chars = ofSource (String.ofList host.chars) := by
  refine String.toList_inj.1 ?_
  simp [toList_ofSource, WebUrl.chars, WebUrl.ofHost, Authority.credentials, Percent.encode,
    Path.chars]

/-- Visible characters all count. -/
theorem clean_eq_self {cs : List Char} (h : ∀ c ∈ cs, 0x20 < c.toNat) : clean cs = cs := by
  have visible : ∀ c ∈ cs, decide (c.toNat ≤ 0x20) = false := fun c hc => by simpa using h c hc
  have kept : ∀ c ∈ cs, decide (c ≠ '\t' ∧ c ≠ '\n' ∧ c ≠ '\r') = true := by
    intro c hc
    refine decide_eq_true ⟨?_, ?_, ?_⟩ <;> rintro rfl <;> exact absurd (h _ hc) (by decide)
  simp only [clean]
  rw [Text.dropWhile_eq_self visible,
    Text.dropWhile_eq_self fun c hc => visible c (List.mem_reverse.1 hc), List.reverse_reverse]
  exact List.filter_eq_self.2 kept

theorem spanHost_eq_self (h : ∀ c ∈ name, c ≠ ':' ∧ c ≠ '[' ∧ c ≠ ']') :
    Authority.spanHost false name = (name, []) := by
  induction name with
  | nil => rfl
  | cons c cs ih =>
    obtain ⟨own, h⟩ := List.forall_mem_cons.1 h
    simp [Authority.spanHost, own, ih h]

/-- No character of a source hostname has a meaning in a URL. -/
theorem plain_of_isName (h : IsName name) : ∀ c ∈ name, isSlash c = false ∧
    endsAuthority true c = false ∧ c ∉ ['@', ':', '[', ']', '%'] :=
  fun c hc => Hostname.forall_char (p := fun c => isSlash c = false ∧
    endsAuthority true c = false ∧ c ∉ ['@', ':', '[', ']', '%']) (by decide +kernel)
    (h.allowed c hc)

/-- The URL of a source hostname has no blanks and no other characters that do not count. -/
theorem visible_ofSource {source : String} (h : IsName source.toList) :
    ∀ c ∈ (ofSource source).toList, 0x20 < c.toNat ∧ Text.isBlank c = false := by
  have own : ∀ c ∈ source.toList, 0x20 < c.toNat ∧ Text.isBlank c = false := fun c hc =>
    Hostname.forall_char (p := fun c => 0x20 < c.toNat ∧ Text.isBlank c = false)
      (by decide +kernel) (h.allowed c hc)
  rw [toList_ofSource]
  simp only [List.forall_mem_append, List.forall_mem_cons, List.not_mem_nil, false_imp_iff,
    implies_true, and_true]
  exact ⟨by decide, by decide, by decide, own, by decide⟩

theorem split_of_isName (h : IsName name) :
    Authority.split name = { user := none, host := name, port := none } := by
  have plain := plain_of_isName h
  have userless : '@' ∉ name := fun sign => by simpa using (plain _ sign).2.2
  have host : Authority.spanHost false name = (name, []) := spanHost_eq_self fun c hc => by
    have := (plain c hc).2.2
    simp_all
  simp [Authority.split, Authority.splitUser, userless, host]

theorem hostOf?_of_isName (h : IsName name) : hostOf? name = Host.ofDomain? name := by
  have plain := plain_of_isName h
  have signless : '%' ∉ name := fun sign => by simpa using (plain _ sign).2.2
  unfold hostOf? Host.read?
  split
  · rename_i cs
    exact absurd (plain '[' List.mem_cons_self).2.2 (by decide)
  · simp [Percent.decode?, signless]

/-- A source hostname between slashes. -/
theorem web?_of_isName (h : IsName name) : web? false ('/' :: '/' :: (name ++ ['/'])) =
    (Host.ofDomain? name).map WebUrl.ofHost := by
  have plain := plain_of_isName h
  have slashes : ('/' :: '/' :: (name ++ ['/'])).dropWhile isSlash = name ++ ['/'] := by
    cases name with
    | nil => exact absurd rfl h.ne_nil
    | cons c cs =>
      have own : isSlash c = false := (plain c List.mem_cons_self).1
      have slash : isSlash '/' = true := rfl
      simp [slash, own]
  have authority : (name ++ ['/']).takeWhile (fun c => !endsAuthority true c) = name := by
    rw [List.takeWhile_append_of_pos fun c hc => by simp [(plain c hc).2.1]]
    simp [endsAuthority]
  have rest : (name ++ ['/']).dropWhile (fun c => !endsAuthority true c) = ['/'] := by
    rw [List.dropWhile_append_of_pos fun c hc => by simp [(plain c hc).2.1]]
    simp [endsAuthority]
  have port : Authority.port? [] = some none := rfl
  have path : Path.read ['/'] = [[]] := by decide
  simp only [web?, slashes, authority, rest, split_of_isName h, hostOf?_of_isName h, h.ne_nil]
  cases Host.ofDomain? name with
  | none => rfl
  | some host => simp [port, path, after?, WebUrl.ofHost]

/-- The URL of a source hostname is a web URL, if the hostname is a host. -/
theorem read?_ofSource {source : String} (h : IsName source.toList) :
    read? (ofSource source).toList =
      (Host.ofDomain? source.toList).map fun host => .web (WebUrl.ofHost host) := by
  have scheme : scheme? (ofSource source).toList =
      some (['h', 't', 't', 'p'], '/' :: '/' :: (source.toList ++ ['/'])) := by
    rw [toList_ofSource]
    rfl
  rw [read?, clean_eq_self fun c hc => (visible_ofSource h c hc).1, scheme]
  simp only [Option.bind_eq_bind, Option.bind_some, web?_of_isName h]
  cases Host.ofDomain? source.toList <;> rfl

/-- A request to a spelling of an address goes to the address. -/
theorem read?_ofSource_of_address {source : String} (h : IsName source.toList)
    (address : Ipv4.read? source.toList = some a) :
    read? (ofSource source).toList = some (.web (WebUrl.ofHost (.ipv4 a))) := by
  rw [read?_ofSource h, Host.ofDomain?_of_read? h address]
  rfl

end Url

end Reroute
