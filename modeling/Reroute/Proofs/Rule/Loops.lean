import Reroute.Proofs.Rule.Validation
import Reroute.Proofs.Url.Source

/-!
# Rules that lead in a circle

A rule is refused if the host of its target has exactly the name of its source. An address has
several spellings, of which the host of a URL has the usual one, while the source keeps the one that
was typed. So the accepted rules whose source is requested at the host of the target are those whose
source is another spelling of the address of this host.

## Main results

* `Rule.loops_iff` — the accepted rules whose source is requested at the host of the target.
* `Rule.exists_loop` — there is such a rule.
-/

namespace Reroute.Rule

open Hostname (IsName)

/-- A source that is not the usual spelling of an address is accepted for a target at the same
address. -/
theorem validate_of_spelling {source other : String} {a : Nat} (hs : IsName source.toList)
    (ho : IsName other.toList) (address : Ipv4.read? other.toList = some a)
    (unusual : source.toList ≠ Ipv4.chars a) (ids : Supply) :
    (Draft.new source (Url.ofSource other)).validate ids =
      (.ok ⟨ids.take.1, true, source, Url.ofSource (String.ofList (Ipv4.chars a))⟩,
        ids.take.2) := by
  have aim : Target.ofInput (Url.ofSource other) =
      .ok ⟨Url.ofSource (String.ofList (Ipv4.chars a)), String.ofList (Ipv4.chars a)⟩ := by
    rw [Target.ofInput, Text.trim_eq_self fun c hc => (Url.visible_ofSource ho c hc).2,
      Url.read?_ofSource_of_address ho address]
    exact congrArg (fun url => Except.ok (Target.mk url _)) (Url.ofList_chars_ofHost _)
  have differ : String.ofList (Ipv4.chars a) ≠ source := by
    rintro rfl
    exact unusual String.toList_ofList
  have fields : (Draft.new source (Url.ofSource other)).fields =
      .ok (source, Url.ofSource (String.ofList (Ipv4.chars a))) := by
    simp only [Draft.fields, Draft.new, Hostname.ofInput_of_isName hs, aim, differ, if_false]
  rw [Draft.validate, fields]
  rfl

theorem isName_spellings : IsName "127.1".toList ∧ IsName "127.0.0.1".toList :=
  ⟨⟨by decide +kernel, by decide +kernel⟩, ⟨by decide +kernel, by decide +kernel⟩⟩

theorem read?_spellings : Ipv4.read? "127.1".toList = some 0x7F000001 ∧
    Ipv4.read? "127.0.0.1".toList = some 0x7F000001 := by
  decide +kernel

theorem chars_spellings : String.ofList (Ipv4.chars 0x7F000001) = "127.0.0.1" := by
  simp [Ipv4.chars, Decimal.digits, Decimal.digitChar, Text.join]

theorem ofSource_spelling : Url.ofSource "127.0.0.1" = "http://127.0.0.1/" := by
  decide

theorem validate_spellings (ids : Supply) :
    (Draft.new "127.1" "http://127.0.0.1/").validate ids =
      (.ok ⟨ids.take.1, true, "127.1", "http://127.0.0.1/"⟩, ids.take.2) := by
  have unusual : "127.1".toList ≠ Ipv4.chars 0x7F000001 := fun same => by
    have := congrArg String.ofList same
    rw [chars_spellings] at this
    revert this
    decide
  have accepted := validate_of_spelling isName_spellings.1 isName_spellings.2 read?_spellings.2
    unusual ids
  rwa [chars_spellings, ofSource_spelling] at accepted

/-! ## Circles -/

/-- The host of an accepted rule's target has another name than its source. A request to the source
still goes to this host if and only if the source spells an address and the target is at it; the
names differ, so the spelling is not the usual one. -/
theorem loops_iff {d : Draft} {ids ids' : Supply} {r : Rule} (h : d.validate ids = (.ok r, ids')) :
    ∃ v, Url.read? (Text.trim d.target.toList) = some (.web v) ∧ r.target = String.ofList v.chars ∧
      v.host.chars ≠ r.source.toList ∧
      ((∃ u, Url.read? (Url.ofSource r.source).toList = some (.web u) ∧
          u.host.chars = v.host.chars) ↔
        ∃ a, Ipv4.read? r.source.toList = some a ∧ v.host.chars = Ipv4.chars a) := by
  obtain ⟨hostname, v, reading, normal, differ⟩ := Draft.fields_eq_ok (Draft.validate_eq_ok h).2.1
  refine ⟨v, reading, normal, differ, ?_, ?_⟩
  · rintro ⟨u, request, same⟩
    rw [Url.read?_ofSource hostname] at request
    obtain ⟨host, own, parts⟩ := Option.map_eq_some_iff.1 request
    obtain rfl : WebUrl.ofHost host = u := Url.Reading.web.inj parts
    rcases Host.ofDomain?_eq_some hostname own with rfl | ⟨a, address, rfl⟩
    · exact absurd same.symm differ
    · exact ⟨a, address, same.symm⟩
  · rintro ⟨a, address, target⟩
    exact ⟨_, Url.read?_ofSource_of_address hostname address, target.symm⟩

/-- Such as the rule from a short spelling of the local address to the usual one. -/
theorem loops_iff_spelling : ∃ (d : Draft) (ids ids' : Supply) (r : Rule),
    d.validate ids = (.ok r, ids') ∧
      ∃ v, Url.read? (Text.trim d.target.toList) = some (.web v) ∧
        r.target = String.ofList v.chars ∧ v.host.chars ≠ r.source.toList ∧
        ((∃ u, Url.read? (Url.ofSource r.source).toList = some (.web u) ∧
            u.host.chars = v.host.chars) ↔
          ∃ a, Ipv4.read? r.source.toList = some a ∧ v.host.chars = Ipv4.chars a) :=
  ⟨Draft.new "127.1" "http://127.0.0.1/", Supply.from 0, _, _, validate_spellings _,
    loops_iff (validate_spellings _)⟩

/-- There is an accepted rule whose target is the address that its source spells. -/
theorem exists_loop : ∃ (ids ids' : Supply) (r : Rule) (u v : WebUrl),
    (Draft.new "127.1" "http://127.0.0.1/").validate ids = (.ok r, ids') ∧
      Url.read? (Url.ofSource r.source).toList = some (.web u) ∧
      Url.read? r.target.toList = some (.web v) ∧ u.host.chars = v.host.chars := by
  have request : Url.read? "http://127.0.0.1/".toList = some (.web _) :=
    ofSource_spelling ▸ Url.read?_ofSource_of_address isName_spellings.2 read?_spellings.2
  exact ⟨Supply.from 0, _, _, _, _, validate_spellings _,
    Url.read?_ofSource_of_address isName_spellings.1 read?_spellings.1, request, rfl⟩

end Reroute.Rule
