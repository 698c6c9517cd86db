import Reroute.Proofs.Rule.Validation
import Reroute.Proofs.Url.Source

/-!
# Accepted rules are accepted again

The fields of an accepted rule are in their normal form. If normal forms of URLs are read as they
were written, then a rule that was accepted is accepted again, and nothing of it changes.

## Main definitions

* `WebUrl.Stable` — a URL that is read from its normal form.
* `Target.Stable` — a text that asks for no other URLs.

## Main results

* `Target.stable_ofSource` — the URL of a hostname is stable.
* `Rule.Draft.fields_again` — fields in their normal form are accepted as they are.
* `Rule.validate_toDraft` — so is an accepted rule, `Rule.issue?_eq_none` — and it has no fault.
* `Rule.issue?_ofSource` — nor has a rule from one hostname to another.
-/

namespace Reroute

/-- The normal form of a URL has no blanks around it and spells the URL. -/
structure WebUrl.Stable (u : WebUrl) : Prop where
  trim : Text.trim u.chars = u.chars
  read : Url.read? u.chars = some (.web u)

namespace Target

/-- If a text asks for a web URL, that URL is stable. -/
def Stable (text : String) : Prop :=
  ∀ u, Url.read? (Text.trim text.toList) = some (.web u) → u.Stable

variable {u : WebUrl}

theorem ofInput_chars (h : u.Stable) : ofInput (String.ofList u.chars) = .ok (ofUrl u) := by
  rw [ofInput, String.toList_ofList, h.trim, h.read]

theorem stable_chars (h : u.Stable) : Stable (String.ofList u.chars) := by
  intro v reading
  rw [String.toList_ofList, h.trim, h.read] at reading
  cases reading
  exact h

/-- The URL of a source hostname is stable, if this is neither marked nor an address. -/
theorem stable_ofSource {source : String} (h : Hostname.IsName source.toList)
    (unmarked : ∀ label ∈ Text.fields '.' source.toList, ¬Domain.codeMark <+: label)
    (wordy : Ipv4.endsInNumber source.toList = false) : Stable (Url.ofSource source) := by
  have own := Host.ofDomain?_of_unmarked h unmarked wordy
  have visible := Url.visible_ofSource h
  have trimmed : Text.trim (Url.ofSource source).toList = (Url.ofSource source).toList :=
    Text.trim_eq_self fun c hc => (visible c hc).2
  have reading : Url.read? (Url.ofSource source).toList =
      some (.web (.ofHost (.domain source.toList))) := by
    rw [Url.read?_ofSource h, own, Option.map_some]
  have written : (WebUrl.ofHost (.domain source.toList)).chars = (Url.ofSource source).toList := by
    have text := congrArg String.toList (Url.ofList_chars_ofHost (.domain source.toList))
    rwa [String.toList_ofList, Host.chars, String.ofList_toList] at text
  intro u read
  rw [trimmed, reading] at read
  cases read
  exact ⟨by rw [written, trimmed], by rw [written, reading]⟩

/-- The URL of a source hostname is a target as it is, if the hostname is neither marked nor an
address. -/
theorem ofInput_ofSource {source : String} (h : Hostname.IsName source.toList)
    (unmarked : ∀ label ∈ Text.fields '.' source.toList, ¬Domain.codeMark <+: label)
    (wordy : Ipv4.endsInNumber source.toList = false) :
    ofInput (Url.ofSource source) = .ok ⟨Url.ofSource source, source⟩ := by
  have visible := Url.visible_ofSource h
  have trimmed : Text.trim (Url.ofSource source).toList = (Url.ofSource source).toList :=
    Text.trim_eq_self fun c hc => (visible c hc).2
  have own := Host.ofDomain?_of_unmarked h unmarked wordy
  have written : ofUrl (.ofHost (.domain source.toList)) = ⟨Url.ofSource source, source⟩ := by
    rw [ofUrl, Url.ofList_chars_ofHost]
    change Target.mk (Url.ofSource (String.ofList source.toList)) (String.ofList source.toList) = _
    rw [String.ofList_toList]
  rw [ofInput, trimmed, Url.read?_ofSource h, own, Option.map_some]
  simp only [written]

end Target

namespace Rule

/-- Fields in their normal form are accepted as they are. -/
theorem Draft.fields_again {d : Draft} (e : Draft) (stable : Target.Stable d.target)
    (h : d.fields = .ok (e.source, e.target)) :
    e.fields = .ok (e.source, e.target) ∧ Target.Stable e.target := by
  obtain ⟨hostname, u, reading, normal, differ⟩ := Draft.fields_eq_ok h
  have own := stable u reading
  have apart : ¬(Target.ofUrl u).hostname = e.source := by
    intro same
    rw [← same] at differ
    exact differ String.toList_ofList.symm
  refine ⟨?_, normal ▸ Target.stable_chars own⟩
  simp only [Draft.fields, Hostname.ofInput_of_isName hostname, normal, Target.ofInput_chars own,
    if_neg apart]
  rfl

/-- A draft claims an id if none of the ids to come is empty. -/
theorem Draft.claimId_ne_empty {ids : Supply} (named : ∀ n, ids.id n ≠ "") (d : Draft) :
    (d.claimId ids).1 ≠ "" := by
  unfold claimId
  split
  · exact named _
  · split
    · exact named _
    · assumption

/-- A rule whose fields come from an accepted draft has no fault. -/
theorem issue?_eq_none {d : Draft} {r : Rule} (stable : Target.Stable d.target)
    (h : d.fields = .ok (r.source, r.target)) : r.issue? = none := by
  have again := (Draft.fields_again r.toDraft stable h).1
  simp only [issue?, again]

/-- A rule from a hostname to the URL of another one has no fault, if that one is neither marked nor
an address. -/
theorem issue?_ofSource {source host : String} (named : Hostname.IsName source.toList)
    (h : Hostname.IsName host.toList)
    (unmarked : ∀ label ∈ Text.fields '.' host.toList, ¬Domain.codeMark <+: label)
    (wordy : Ipv4.endsInNumber host.toList = false) (other : host ≠ source) (id : String)
    (enabled : Bool) : issue? ⟨id, enabled, source, Url.ofSource host⟩ = none := by
  simp only [issue?, toDraft, Draft.fields, Hostname.ofInput_of_isName named,
    Target.ofInput_ofSource h unmarked wordy, if_neg other]

/-- An accepted rule is accepted again as it is, and takes no id. -/
theorem validate_toDraft {d : Draft} {ids ids' : Supply} {r : Rule} (named : ∀ n, ids.id n ≠ "")
    (stable : Target.Stable d.target) (h : d.validate ids = (.ok r, ids')) (later : Supply) :
    r.toDraft.validate later = (.ok r, later) := by
  obtain ⟨-, fields, claimed⟩ := Draft.validate_eq_ok h
  have again := (Draft.fields_again r.toDraft stable fields).1
  have own : r.id ≠ "" := by simpa [claimed] using d.claimId_ne_empty named
  have kept : r.toDraft.claimId later = (r.id, later) := if_neg own
  simp only [Draft.validate, again, kept]
  rfl

end Rule

end Reroute
