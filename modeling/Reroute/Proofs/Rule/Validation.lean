import Reroute.Proofs.Hostname
import Reroute.Rule.Validation

/-!
# Accepted drafts

What a draft that is accepted is, and what becomes of it.

## Main results

* `Rule.Draft.validate_eq_ok` — the rule of an accepted draft.
* `Rule.Draft.fields_eq_ok` — the fields of an accepted draft.
-/

namespace Reroute.Rule.Draft

/-- An accepted draft becomes a rule with its switch, its fields in their normal form, and the id
that it claims. -/
theorem validate_eq_ok {d : Draft} {ids ids' : Supply} {r : Rule}
    (h : d.validate ids = (.ok r, ids')) :
    r.enabled = d.enabled ∧ d.fields = .ok (r.source, r.target) ∧ d.claimId ids = (r.id, ids') := by
  unfold validate at h
  cases hf : d.fields with
  | error e =>
    simp only [hf] at h
    cases h
  | ok fields =>
    simp only [hf] at h
    cases h
    exact ⟨rfl, rfl, rfl⟩

/-- The fields of an accepted draft: a source hostname, and a web URL with another host. -/
theorem fields_eq_ok {d : Draft} {source target : String}
    (h : d.fields = .ok (source, target)) :
    Hostname.IsName source.toList ∧ ∃ v, Url.read? (Text.trim d.target.toList) = some (.web v) ∧
      target = String.ofList v.chars ∧ v.host.chars ≠ source.toList := by
  unfold fields at h
  cases hs : Hostname.ofInput d.source with
  | error e => simp [hs] at h
  | ok name =>
    cases ht : Target.ofInput d.target with
    | error e => simp [hs, ht] at h
    | ok aim =>
      simp only [hs, ht] at h
      split at h
      · cases h
      · rename_i differ
        cases h
        unfold Target.ofInput at ht
        split at ht
        · cases ht
        · cases ht
        · rename_i v reading
          cases ht
          refine ⟨Hostname.isName_of_ofInput hs, v, reading, rfl, fun same => differ ?_⟩
          simp [Target.ofUrl, same]

end Reroute.Rule.Draft
